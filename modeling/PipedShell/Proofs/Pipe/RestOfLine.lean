import PipedShell.Pipe.Source
import PipedShell.Proofs.Text.Pieces

/-!
# The line that a word was read from

Reading a word leaves the rest of its line pending, so that the line read next is that rest.  But a
source with nothing pending goes on with the next line, and so it does where the rest is empty.

* `Source.Settled` — what is pending is the rest of a line, and begins with no blank.
  `Source.Settled.read`: reading keeps a source settled.
* `Source.Settled.readLine_eq`, `Source.Settled.readWord_eq` — a settled source is read as the text
  still to come, whatever part of it is pending.
* `Source.Reachable` — the states that a source over a text can come to.
* **`Source.readLine_after_readWord`** — the line read after a word is the rest of its line, and the
  lines behind are left alone, exactly if the rest is not empty.
* `Source.next_line_after_last_word` — behind the last word of a line the next line is read.
-/

namespace PipedShell

/-- What stands on its line behind a word, without the blanks in front and the line feed. -/
def Text.restOfLine (behind : Text) : Text := behind.cutLine.1.trimLeft.chomp

lemma Text.chomp_eq_nil_iff {line : Text} (h : ∀ c ∈ line.head?, isBlank c = false) :
    line.chomp = [] ↔ line = [] := by
  refine ⟨fun hnil => ?_, fun hnil => by rw [hnil]; rfl⟩
  cases line with
  | nil => rfl
  | cons c line =>
      have hc : isBlank c = false := h c rfl
      rw [chomp] at hnil
      split_ifs at hnil with hlast
      -- the only line that is empty without its line feed begins with a blank
      obtain rfl : line = [] := by
        rw [← List.length_eq_zero_iff] at hnil ⊢
        simpa using hnil
      obtain rfl : c = '\n' := by simpa using hlast
      exact absurd hc (by decide)

namespace Source

/-- The source behind a word: what is left of its line is pending, from the first letter on. -/
def behindWord (behind : Text) : Source := ⟨behind.cutLine.2, behind.cutLine.1.trimLeft⟩

/-- Behind a word only blanks on its line are passed over. -/
lemma behindWord_append (behind : Text) :
    behind.cutLine.1.takeWhile isBlank ++ (behindWord behind).remaining = behind := by
  rw [remaining, behindWord, ← List.append_assoc, Text.takeWhile_append_trimLeft,
    behind.cutLine_append]

/-! ## Settled sources -/

/-- What is pending begins with no blank, and is the line that the text still to come begins
with. -/
structure Settled (source : Source) : Prop where
  begins : ∀ c ∈ source.pending.head?, isBlank c = false
  whole : source.pending ≠ [] → source.remaining.cutLine = (source.pending, source.unread)

lemma settled_ofText (text : Text) : (ofText text).Settled where
  begins := by simp [ofText]
  whole := fun h => absurd rfl h

lemma settled_behindWord (behind : Text) : (behindWord behind).Settled where
  begins := fun _ hc => Text.isBlank_head_trimLeft hc
  whole := by
    intro hne
    refine Text.cutLine_of_suffix (a := behind.cutLine.1.takeWhile isBlank) ?_ hne
    rw [behindWord, Text.takeWhile_append_trimLeft, behind.cutLine_append]

@[simp] lemma remaining_ofText (text : Text) : (ofText text).remaining = text := rfl

namespace Settled

variable {source : Source} {blanks word behind : Text}

/-- Fetching cuts off a line, whether it is pending or not. -/
lemma fetch_eq (h : source.Settled) :
    source.fetch = (source.remaining.cutLine.1, ofText source.remaining.cutLine.2) := by
  obtain ⟨unread, pending⟩ := source
  cases pending with
  | nil => rfl
  | cons c pending => rw [h.whole (by simp)]; rfl

lemma readLine_eq (h : source.Settled) (hne : source.remaining ≠ []) :
    source.readLine
      = (some source.remaining.cutLine.1.chomp, ofText source.remaining.cutLine.2) := by
  have hline : source.remaining.cutLine.1 ≠ [] := by rwa [Ne, Text.cutLine_fst_eq_nil_iff]
  simp [readLine, h.fetch_eq, hline]

lemma readLine_of_nil (h : source.Settled) (hnil : source.remaining = []) :
    source.readLine = (none, ofText []) := by
  simp [readLine, h.fetch_eq, hnil]

/-- A word is taken off together with the blanks in front, and those behind it on its line. -/
lemma readWord_eq (h : source.Settled)
    (hword : Text.FirstWord source.remaining blanks word behind) :
    source.readWord = (some word, behindWord behind) := by
  obtain ⟨unread, pending⟩ := source
  cases pending with
  | nil =>
      have htrim : Text.trimLeft unread = word ++ behind := hword.trimLeft_eq
      have hnone : Text.firstWord [] = none := rfl
      simp only [readWord, hnone, htrim, hword.cutLine_eq, hword.firstWord_line, behindWord]
  | cons c pending =>
      -- the word is at the start of what is pending
      have hbegins : isBlank c = false := h.begins c rfl
      have htrim : word ++ behind = remaining ⟨unread, c :: pending⟩ := by
        rw [← hword.trimLeft_eq]
        simp [remaining, Text.trimLeft, hbegins]
      have hcut := hword.cutLine_eq
      rw [htrim, h.whole (by simp)] at hcut
      obtain ⟨hpending, hunread⟩ := Prod.mk.inj hcut
      simp only at hpending hunread
      simp only [readWord, hpending, hunread, hword.firstWord_line, behindWord]

lemma readWord_of_allBlank (h : source.Settled) (hblank : source.remaining.allBlank = true) :
    source.readWord = (none, ofText []) := by
  obtain ⟨unread, pending⟩ := source
  cases pending with
  | nil =>
      have htrim : Text.trimLeft unread = [] := (Text.trimLeft_eq_nil_iff unread).2 hblank
      have hnone : Text.firstWord [] = none := rfl
      simp [readWord, hnone, htrim, ofText]
  | cons c pending =>
      have hbegins : isBlank c = false := h.begins c rfl
      simp [remaining, Text.allBlank, hbegins] at hblank

/-- **Reading keeps a source settled.** -/
lemma read (h : source.Settled) (how : Reading) : (source.read how).2.Settled := by
  cases how with
  | line =>
      by_cases hnil : source.remaining = []
      · rw [Source.read, h.readLine_of_nil hnil]
        exact settled_ofText _
      · rw [Source.read, h.readLine_eq hnil]
        exact settled_ofText _
  | word =>
      cases hblank : source.remaining.allBlank with
      | true =>
          rw [Source.read, h.readWord_of_allBlank hblank]
          exact settled_ofText _
      | false =>
          obtain ⟨blanks, word, behind, hword⟩ := Text.exists_firstWord hblank
          rw [Source.read, h.readWord_eq hword]
          exact settled_behindWord behind
  | all => exact settled_ofText _

/-- Reading takes from the front. -/
lemma remaining_read_suffix (h : source.Settled) (how : Reading) :
    (source.read how).2.remaining <:+ source.remaining := by
  cases how with
  | line => exact ⟨_, source.fetch_append⟩
  | word =>
      cases hblank : source.remaining.allBlank with
      | true =>
          rw [Source.read, h.readWord_of_allBlank hblank]
          exact List.nil_suffix
      | false =>
          obtain ⟨blanks, word, behind, hword⟩ := Text.exists_firstWord hblank
          rw [Source.read, h.readWord_eq hword, hword.eq]
          have hbehind : (behindWord behind).remaining <:+ behind := ⟨_, behindWord_append behind⟩
          exact (hbehind.trans (List.suffix_append _ _)).trans (List.suffix_append _ _)
  | all => exact List.nil_suffix

/-- A word is given only if there is one, and it is the first. -/
lemma exists_firstWord (h : source.Settled) {next : Source}
    (hword : source.readWord = (some word, next)) :
    ∃ blanks behind, Text.FirstWord source.remaining blanks word behind ∧
      next = behindWord behind := by
  cases hblank : source.remaining.allBlank with
  | true =>
      rw [h.readWord_of_allBlank hblank] at hword
      cases hword
  | false =>
      obtain ⟨blanks, first, behind, hfirst⟩ := Text.exists_firstWord hblank
      rw [h.readWord_eq hfirst] at hword
      cases hword
      exact ⟨blanks, behind, hfirst, rfl⟩

end Settled

/-! ## Sources that are read from -/

/-- The states that a source over a text can come to: it is read in any way, or what is pending is
dropped. -/
inductive Reachable (text : Text) : Source → Prop
  | start : Reachable text (ofText text)
  | read {source} (how : Reading) (before : Reachable text source) :
      Reachable text (source.read how).2
  | reset {source} (before : Reachable text source) : Reachable text source.reset

variable {text : Text} {source next : Source}

lemma Reachable.settled (h : Reachable text source) : source.Settled := by
  induction h with
  | start => exact settled_ofText text
  | read how _ ih => exact ih.read how
  | reset _ _ => exact settled_ofText _

/-- What is still to come is the end of the text. -/
lemma Reachable.remaining_suffix (h : Reachable text source) : source.remaining <:+ text := by
  induction h with
  | start => exact List.suffix_rfl
  | read how before ih => exact (before.settled.remaining_read_suffix how).trans ih
  | reset before ih => exact (List.suffix_append _ _).trans ih

/-- Where the rest of the line is empty, nothing is pending. -/
lemma eq_ofText_of_restOfLine {behind : Text} (h : behind.restOfLine = []) :
    behindWord behind = ofText behind.cutLine.2 := by
  rw [Text.restOfLine, Text.chomp_eq_nil_iff fun _ => Text.isBlank_head_trimLeft] at h
  rw [behindWord, h]
  rfl

lemma readLine_of_restOfLine {behind : Text} (h : behind.restOfLine ≠ []) :
    (behindWord behind).readLine = (some behind.restOfLine, ofText behind.cutLine.2) := by
  rw [Ne, Text.restOfLine, Text.chomp_eq_nil_iff fun _ => Text.isBlank_head_trimLeft] at h
  simp [behindWord, readLine, fetch, h, reset, ofText, Text.restOfLine]

/-- Reading a line never gives an empty one and leaves everything as it was. -/
lemma readLine_ofText_ne (text : Text) : (ofText text).readLine ≠ (some [], ofText text) := by
  by_cases hnil : text = []
  · simp [hnil, readLine, fetch, ofText]
  · rw [(settled_ofText text).readLine_eq hnil]
    intro heq
    have hrest : text.cutLine.2 = text := congrArg Source.unread (Prod.mk.inj heq).2
    have hline := text.cutLine_append
    rw [hrest, List.append_left_eq_self, Text.cutLine_fst_eq_nil_iff] at hline
    exact hnil hline

/-- **The line after a word.**  In every state that a source can come to, a word that is read is the
first of the text still to come, which is the end of the whole.  A line read next is what stands
behind the word on its line, with the text of later lines left alone, exactly if that is not empty.
If it is empty, the next line is read instead. -/
theorem readLine_after_readWord (h : Reachable text source) {word : Text}
    (hword : source.readWord = (some word, next)) :
    source.remaining <:+ text ∧
    ∃ blanks behind, Text.FirstWord source.remaining blanks word behind ∧
      (next.readLine = (some behind.restOfLine, ofText behind.cutLine.2)
        ↔ behind.restOfLine ≠ []) ∧
      (behind.restOfLine = [] → next.readLine = (ofText behind.cutLine.2).readLine) := by
  obtain ⟨blanks, behind, hfirst, rfl⟩ := h.settled.exists_firstWord hword
  refine ⟨h.remaining_suffix, blanks, behind, hfirst,
    ⟨fun hread hempty => ?_, readLine_of_restOfLine⟩,
    fun hempty => by rw [eq_ofText_of_restOfLine hempty]⟩
  rw [eq_ofText_of_restOfLine hempty, hempty] at hread
  exact readLine_ofText_ne _ hread

/-- Behind the second word of the second line of a text, `"apples"` is read as the rest of it. -/
theorem readLine_after_readWord_apples :
    Reachable "one\n take 3 \t apples\nrest" ⟨"rest", "3 \t apples\n"⟩ ∧
    readWord ⟨"rest", "3 \t apples\n"⟩ = (some ("3" : Text), ⟨"rest", "apples\n"⟩) ∧
    remaining ⟨"rest", "3 \t apples\n"⟩ <:+ ("one\n take 3 \t apples\nrest" : Text) ∧
    ∃ blanks behind, Text.FirstWord (remaining ⟨"rest", "3 \t apples\n"⟩) blanks "3" behind ∧
      (readLine ⟨"rest", "apples\n"⟩ = (some behind.restOfLine, ofText behind.cutLine.2)
        ↔ behind.restOfLine ≠ []) ∧
      (behind.restOfLine = [] →
        readLine ⟨"rest", "apples\n"⟩ = (ofText behind.cutLine.2).readLine) := by
  have hreach : Reachable "one\n take 3 \t apples\nrest" ⟨"rest", "3 \t apples\n"⟩ :=
    .read .word (.read .line .start)
  have hword : readWord ⟨"rest", "3 \t apples\n"⟩
      = (some ("3" : Text), ⟨"rest", "apples\n"⟩) := by decide
  exact ⟨hreach, hword, readLine_after_readWord hreach hword⟩

/-- Nothing is left of the line of the last word, and the line read next is not the empty rest but
the line below, such as `"b"` behind the word `"a"`. -/
theorem next_line_after_last_word :
    ¬ ∀ (text : Text) (source next : Source) (word blanks behind : Text),
      Reachable text source → source.readWord = (some word, next) →
      Text.FirstWord source.remaining blanks word behind →
      next.readLine.1 = some behind.restOfLine := by
  intro hall
  have hword : ∀ c ∈ ['a'], isBlank c = false := fun c hc => by rw [List.mem_singleton.1 hc]; rfl
  have hends : ∀ c ∈ some '\n', isBlank c = true := fun c hc => by rw [← Option.some.inj hc]; rfl
  have hfirst : Text.FirstWord "a\nb" [] "a" "\nb" := ⟨rfl, rfl, by decide, hword, hends⟩
  have hline := hall "a\nb" (ofText "a\nb") (ofText "b") "a" [] "\nb" .start (by decide) hfirst
  exact absurd hline (by decide)

end Source

end PipedShell
