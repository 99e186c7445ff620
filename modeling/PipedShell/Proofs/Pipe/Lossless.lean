import Mathlib.Data.List.ReduceOption
import PipedShell.Proofs.Pipe.RestOfLine

/-!
# Reading loses nothing

Lines, words and whole rests may be read from a source in any order.  Each read takes a piece off
the front of the text still to come, and of that piece it gives everything but blanks.  Which part
of the text is pending never shows.

* `Takes` — what one read gives and leaves of a text, said of the text alone.
  `Source.Settled.takes_iff`: a settled source is read that way and in no other.
* `Consumes` — what a series of reads gives and leaves.  `Consumes.letters` accounts for the
  characters, `Consumes.rest_eq_nil` says when nothing is left, and `Consumes.eq_getElem?` what is
  given by a series of reads of one kind.
* **`Source.reads_lose_nothing`** — a series of reads from a source over a text.
-/

namespace PipedShell

/-- The characters that are not blank. -/
def Text.letters (t : Text) : Text := t.filter (!isBlank ·)

@[simp] lemma Text.letters_append (a b : Text) : (a ++ b).letters = a.letters ++ b.letters :=
  List.filter_append a b

lemma Text.letters_of_allBlank {t : Text} (h : t.allBlank = true) : t.letters = [] := by
  rw [letters, List.filter_eq_nil_iff]
  intro c hc
  simpa using List.all_eq_true.1 h c hc

/-! ## One read -/

/-- What a read gives of a text, and what it leaves. -/
inductive Takes : Reading → Text → Option Text → Text → Prop
  | line {text line rest : Text} (heq : text = line ++ '\n' :: rest) (h : '\n' ∉ line) :
      Takes .line text (some line) rest
  | lastLine {line : Text} (h : '\n' ∉ line) (hne : line ≠ []) : Takes .line line (some line) []
  | noLine : Takes .line [] none []
  /-- With the word go the blanks in front, and those behind it that are on its line. -/
  | word {text blanks word gap rest : Text} (h : Text.FirstWord text blanks word (gap ++ rest))
      (hgap : gap = (gap ++ rest).cutLine.1.takeWhile isBlank) : Takes .word text (some word) rest
  | noWord {blanks : Text} (h : blanks.allBlank = true) : Takes .word blanks none []
  | all (text : Text) : Takes .all text (some text) []

namespace Takes

variable {how : Reading} {text rest : Text} {result : Option Text}

/-- A read gives the characters that are gone, but for the blanks. -/
lemma letters (h : Takes how text result rest) :
    text.letters = (result.getD []).letters ++ rest.letters := by
  cases h with
  | @line _ line rest heq _ =>
      have hfeed : isBlank '\n' = true := by decide
      simp [heq, Text.letters, hfeed]
  | lastLine _ _ => simp [Text.letters]
  | noLine => rfl
  | @word _ blanks word gap rest hword hgap =>
      have hblank : gap.allBlank = true := hgap ▸ List.all_takeWhile
      simp [hword.eq, Text.letters_of_allBlank hword.blanks, Text.letters_of_allBlank hblank]
  | noWord hblank => rw [Text.letters_of_allBlank hblank]; rfl
  | all _ => simp [Text.letters]

/-- Nothing is left where nothing was, where nothing was found and where all was read. -/
lemma rest_eq_nil (h : Takes how text result rest)
    (hend : result = none ∨ how = .all ∨ text = []) : rest = [] := by
  cases h with
  | line heq _ => simp [heq] at hend
  | word hword _ => simp [hword.eq, hword.ne_nil] at hend
  | lastLine _ _ | noLine | noWord _ | all _ => rfl

lemma lines_eq (h : Takes .line text result rest) :
    result = text.lines.head? ∧ rest.lines = text.lines.tail := by
  cases h with
  | line heq hline => simp [heq, Text.lines_append_feed hline]
  | lastLine hline hne => simp [Text.lines_of_not_mem hline hne]
  | noLine => simp

lemma words_eq (h : Takes .word text result rest) :
    result = text.words.head? ∧ rest.words = text.words.tail := by
  cases h with
  | @word _ blanks word gap rest hword hgap =>
      have hblank : gap.allBlank = true := hgap ▸ List.all_takeWhile
      simp [hword.words_eq, Text.words_append hblank]
  | noWord hblank => simp [Text.words_of_allBlank hblank]

end Takes

/-- Something can be taken off every text, in any way. -/
lemma exists_takes (how : Reading) (text : Text) : ∃ result rest, Takes how text result rest := by
  cases how with
  | line =>
      by_cases hfeed : '\n' ∈ text
      · obtain ⟨line, rest, heq, hline⟩ := List.eq_append_cons_of_mem hfeed
        exact ⟨_, _, .line heq hline⟩
      · by_cases hnil : text = []
        · exact ⟨none, [], hnil ▸ .noLine⟩
        · exact ⟨_, _, .lastLine hfeed hnil⟩
  | word =>
      cases hblank : text.allBlank with
      | true => exact ⟨_, _, .noWord hblank⟩
      | false =>
          obtain ⟨blanks, word, behind, hword⟩ := Text.exists_firstWord hblank
          have happend := Source.behindWord_append behind
          exact ⟨_, _, .word (happend.symm ▸ hword) (by rw [happend])⟩
  | all => exact ⟨_, _, .all text⟩

namespace Source

variable {source : Source} {how : Reading} {rest : Text} {result : Option Text}

/-- A settled source gives and leaves what is to be taken. -/
lemma Settled.eq_of_takes (h : source.Settled) (htakes : Takes how source.remaining result rest) :
    (source.read how).1 = result ∧ (source.read how).2.remaining = rest := by
  generalize htext : source.remaining = text at htakes
  cases htakes with
  | line heq hline =>
      have hne : source.remaining ≠ [] := by simp [htext, heq]
      rw [Source.read, h.readLine_eq hne, htext, heq, Text.cutLine_append_of_not_mem hline,
        Text.cutLine_cons]
      simp [Text.chomp_append_feed]
  | lastLine hline hne =>
      rw [Source.read, h.readLine_eq (htext ▸ hne), htext, Text.cutLine_of_not_mem hline,
        Text.chomp_of_not_mem hline]
      simp
  | noLine =>
      rw [Source.read, h.readLine_of_nil htext]
      simp
  | @word _ blanks word gap rest hword hgap =>
      have happend := behindWord_append (gap ++ rest)
      rw [← hgap, List.append_cancel_left_eq] at happend
      rw [Source.read, h.readWord_eq (htext ▸ hword)]
      exact ⟨rfl, happend⟩
  | noWord hblank =>
      rw [Source.read, h.readWord_of_allBlank (htext ▸ hblank)]
      simp
  | all _ => simp [Source.read, readAll, htext]

/-- **Which part of the text is pending does not show.**  What a settled source gives and leaves is
what is taken off the text still to come. -/
lemma Settled.takes_iff (h : source.Settled) :
    Takes how source.remaining result rest ↔
      (source.read how).1 = result ∧ (source.read how).2.remaining = rest := by
  refine ⟨h.eq_of_takes, ?_⟩
  rintro ⟨rfl, rfl⟩
  obtain ⟨result, rest, htakes⟩ := exists_takes how source.remaining
  obtain ⟨rfl, rfl⟩ := h.eq_of_takes htakes
  exact htakes

/-- What is pending is one line at most. -/
lemma Settled.not_mem_dropLast_pending (h : source.Settled) :
    '\n' ∉ source.pending.dropLast := by
  by_cases hnil : source.pending = []
  · simp [hnil]
  · have hline := source.remaining.not_mem_dropLast_cutLine
    rwa [h.whole hnil] at hline

end Source

/-! ## A series of reads -/

/-- What a series of reads gives of a text, and what it leaves. -/
inductive Consumes : List Reading → Text → List (Option Text) → Text → Prop
  | nil (text : Text) : Consumes [] text [] text
  | cons {how : Reading} {hows : List Reading} {text next rest : Text} {result : Option Text}
      {results : List (Option Text)} (first : Takes how text result next)
      (others : Consumes hows next results rest) :
      Consumes (how :: hows) text (result :: results) rest

namespace Consumes

variable {hows : List Reading} {text rest : Text} {results : List (Option Text)}

/-- **Every character that is not blank is given once**, in the order of the text, or is left. -/
lemma letters (h : Consumes hows text results rest) :
    text.letters = results.reduceOption.flatMap Text.letters ++ rest.letters := by
  induction h with
  | nil text => rfl
  | @cons _ _ _ _ _ result results first _ ih =>
      rw [first.letters, ih]
      cases result <;> simp [Text.letters]

lemma rest_eq_nil (h : Consumes hows text results rest)
    (hend : none ∈ results ∨ .all ∈ hows ∨ text = []) : rest = [] := by
  induction h with
  | nil text => simpa using hend
  | cons first _ ih =>
      -- either the first read comes to the end, or a later one does
      rcases hend with hnone | hall | hnil
      · rcases List.mem_cons.1 hnone with hfirst | hlater
        · exact ih (Or.inr (Or.inr (first.rest_eq_nil (Or.inl hfirst.symm))))
        · exact ih (Or.inl hlater)
      · rcases List.mem_cons.1 hall with hfirst | hlater
        · exact ih (Or.inr (Or.inr (first.rest_eq_nil (Or.inr (Or.inl hfirst.symm)))))
        · exact ih (Or.inr (Or.inl hlater))
      · exact ih (Or.inr (Or.inr (first.rest_eq_nil (Or.inr (Or.inr hnil)))))

/-- Where each read of a kind gives the first of some items, reads of that kind give the items in
order, and nothing behind the last one. -/
lemma eq_getElem? {how : Reading} {items : Text → List Text}
    (hitem : ∀ {text result rest}, Takes how text result rest →
      result = (items text).head? ∧ items rest = (items text).tail)
    {n : ℕ} (h : Consumes (List.replicate n how) text results rest) :
    results = (List.range n).map fun i => (items text)[i]? := by
  induction n generalizing text results with
  | zero => cases h; rfl
  | succ n ih =>
      rw [List.replicate_succ] at h
      cases h with
      | cons first others =>
          obtain ⟨hresult, hrest⟩ := hitem first
          rw [List.range_succ_eq_map, List.map_cons, List.map_map, ih others, hresult, hrest]
          simp [List.head?_eq_getElem?, Function.comp_def]

end Consumes

namespace Source

/-- Reads in one way after another. -/
def readEach : List Reading → Source → List (Option Text) × Source
  | [], source => ([], source)
  | how :: hows, source =>
    let (result, next) := source.read how
    let (results, last) := readEach hows next
    (result :: results, last)

variable {source : Source} {hows : List Reading} {text rest : Text} {results : List (Option Text)}

/-- A series of reads gives and leaves what is to be taken, one read after another. -/
lemma Settled.consumes_iff (h : source.Settled) :
    Consumes hows source.remaining results rest ↔
      (source.readEach hows).1 = results ∧ (source.readEach hows).2.remaining = rest := by
  induction hows generalizing source results with
  | nil =>
      constructor
      · rintro ⟨⟩
        exact ⟨rfl, rfl⟩
      · rintro ⟨rfl, rfl⟩
        exact .nil _
  | cons how hows ih =>
      constructor
      · rintro (_ | ⟨first, others⟩)
        obtain ⟨rfl, rfl⟩ := h.takes_iff.1 first
        obtain ⟨rfl, rfl⟩ := (ih (h.read how)).1 others
        exact ⟨rfl, rfl⟩
      · rintro ⟨rfl, rfl⟩
        exact .cons (h.takes_iff.2 ⟨rfl, rfl⟩) ((ih (h.read how)).2 ⟨rfl, rfl⟩)

lemma Settled.consumes (h : source.Settled) (hows : List Reading) :
    Consumes hows source.remaining (source.readEach hows).1 (source.readEach hows).2.remaining :=
  h.consumes_iff.2 ⟨rfl, rfl⟩

lemma Reachable.readEach (h : Reachable text source) (hows : List Reading) :
    Reachable text (source.readEach hows).2 := by
  induction hows generalizing source with
  | nil => exact h
  | cons how hows ih => exact ih (.read how h)

/-- **Reading loses nothing and repeats nothing.**  After any reads of lines, words and rests, what
was given is a beginning of the text, blanks aside, and all of it once a read has found nothing or
has given the rest.  The rest that a next read gives is the end of the text that the reads have not
consumed.  What is pending begins with no blank and is one line at most.  Lines alone are the pieces
between line feeds but for an empty one at the end, words alone the pieces between blanks that are
not empty, and behind them nothing is found however often it is tried. -/
theorem reads_lose_nothing (text : Text) :
    (∀ hows : List Reading,
      let results := ((ofText text).readEach hows).1
      let last := ((ofText text).readEach hows).2
      results.reduceOption.flatMap Text.letters <+: text.letters ∧
      (none ∈ results ∨ .all ∈ hows →
        results.reduceOption.flatMap Text.letters = text.letters) ∧
      (∃ rest, last.read .all = (some rest, ofText []) ∧ rest <:+ text ∧
        ∀ given left, Consumes hows text given left ↔ given = results ∧ left = rest) ∧
      (∀ c ∈ last.pending.head?, isBlank c = false) ∧ '\n' ∉ last.pending.dropLast) ∧
    (∀ n, ((ofText text).readEach (List.replicate n .line)).1
      = (List.range n).map fun i => (Text.withoutFinalEmpty (text.splitOn '\n'))[i]?) ∧
    ∀ n, ((ofText text).readEach (List.replicate n .word)).1
      = (List.range n).map fun i => ((text.splitOnP isBlank).filter (!·.isEmpty))[i]? := by
  have hsettled : (ofText text).Settled := settled_ofText text
  refine ⟨fun hows => ?_, fun n => ?_, fun n => ?_⟩
  · have hstart : Reachable text (ofText text) := .start
    have hreach := hstart.readEach hows
    have hletters := (hsettled.consumes hows).letters
    refine ⟨⟨_, hletters.symm⟩, fun hend => ?_,
      ⟨_, rfl, hreach.remaining_suffix, fun given left => ?_⟩,
      hreach.settled.begins, hreach.settled.not_mem_dropLast_pending⟩
    · rw [(hsettled.consumes hows).rest_eq_nil (by tauto)] at hletters
      simpa [Text.letters] using hletters.symm
    · refine hsettled.consumes_iff.trans ⟨?_, ?_⟩
      all_goals
        rintro ⟨rfl, rfl⟩
        exact ⟨rfl, rfl⟩
  · rw [← Text.lines_eq_splitOn]
    exact (hsettled.consumes _).eq_getElem? Takes.lines_eq
  · rw [← Text.words_eq_splitOnP]
    exact (hsettled.consumes _).eq_getElem? Takes.words_eq

example : (ofText "  3 apples\n\nthe rest\nof it").readEach [.word, .line, .word, .all]
    = ((["3", "apples", "the", "rest\nof it"] : List Text).map some, ofText []) := by decide

end Source

end PipedShell
