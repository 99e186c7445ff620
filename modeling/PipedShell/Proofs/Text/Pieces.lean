import Mathlib.Data.List.TakeWhile
import Mathlib.Tactic.Common
import PipedShell.Text.Blank
import PipedShell.Text.Lines

/-!
# Lines and words as pieces of a text

Lines and words are what is left of a text when it is split at every line feed, or at every blank.
Reading them goes from the front: one line is cut off, or one word with the blanks around it.  This
file brings the two together.

* `Text.cutLine_append_of_not_mem` — how a line is cut off a text that begins with known characters,
  and `Text.lines_append_feed` what the lines of such a text are.
* `Text.FirstWord` — the first word of a text, between what stands before it and behind it, and
  `Text.FirstWord.words_eq` what the words of the text are.
* `Text.lines_unlines`, `Text.unlines_lines` — lines that are written are the lines that are read,
  and the lines that are read write the text, with a line feed at its end.
* **`Text.lines_eq_splitOn`**, **`Text.words_eq_splitOnP`** — the pieces between line feeds but for
  an empty one at the end, and those between blanks but for all empty ones.
-/

namespace PipedShell.Text

/-! ## Cutting off a line -/

@[simp] lemma cutLine_nil : cutLine [] = ([], []) := rfl

lemma cutLine_cons (c : Char) (t : Text) :
    cutLine (c :: t) = if c = '\n' then (['\n'], t) else (c :: t.cutLine.1, t.cutLine.2) := by
  by_cases hc : c = '\n'
  · simp [cutLine, hc]
  · simp only [cutLine, List.dropWhile_cons, List.takeWhile_cons, hc]
    cases t.dropWhile (· != '\n') <;> simp [hc]

/-- Characters before the first line feed belong to the first line. -/
lemma cutLine_append_of_not_mem {a : Text} (h : '\n' ∉ a) (t : Text) :
    cutLine (a ++ t) = (a ++ t.cutLine.1, t.cutLine.2) := by
  induction a with
  | nil => rfl
  | cons c a ih =>
      have hc : c ≠ '\n' := fun heq => h (by simp [heq])
      rw [List.cons_append, cutLine_cons, if_neg hc, ih fun hmem => h (by simp [hmem])]
      rfl

lemma cutLine_of_not_mem {line : Text} (h : '\n' ∉ line) : cutLine line = (line, []) := by
  simpa using cutLine_append_of_not_mem h []

/-- The end of a first line is the first line of what is left then. -/
lemma cutLine_of_suffix {a line rest : Text} (h : cutLine (a ++ line ++ rest) = (a ++ line, rest))
    (hne : line ≠ []) : cutLine (line ++ rest) = (line, rest) := by
  induction a with
  | nil => exact h
  | cons c a ih =>
      simp only [List.cons_append, cutLine_cons] at h
      split_ifs at h with hc
      · -- a line feed would have ended the line before it
        have hline := congrArg Prod.fst h
        simp [hne] at hline
      · refine ih (Prod.ext ?_ (Prod.mk.inj h).2)
        exact (List.cons.inj (Prod.mk.inj h).1).2

lemma head?_cutLine (t : Text) : t.cutLine.1.head? = t.head? := by
  cases t with
  | nil => rfl
  | cons c t =>
      rw [cutLine_cons]
      split_ifs with hc <;> simp [hc]

/-- A line holds no line feed but at its end. -/
lemma not_mem_dropLast_cutLine (t : Text) : '\n' ∉ t.cutLine.1.dropLast := by
  induction t with
  | nil => simp
  | cons c t ih =>
      rw [cutLine_cons]
      split_ifs with hc
      · simp
      · intro hmem
        have hne : (cutLine t).1 ≠ [] := by
          intro hnil
          simp [hnil] at hmem
        rw [List.dropLast_cons_of_ne_nil hne, List.mem_cons] at hmem
        exact hmem.elim (fun heq => hc heq.symm) ih

lemma chomp_append_feed (line : Text) : chomp (line ++ ['\n']) = line := by
  simp [chomp]

lemma chomp_of_not_mem {line : Text} (h : '\n' ∉ line) : chomp line = line := by
  rw [chomp, if_neg]
  intro hlast
  exact h (List.mem_of_getLast? (by simpa using hlast))

/-! ## Lines -/

@[simp] lemma lines_nil : lines [] = [] := rfl

/-- Pieces without the last one if it is empty. -/
def withoutFinalEmpty (pieces : List Text) : List Text :=
  if pieces.getLast? = some [] then pieces.dropLast else pieces

lemma withoutFinalEmpty_cons (piece : Text) {pieces : List Text} (h : pieces ≠ []) :
    withoutFinalEmpty (piece :: pieces) = piece :: withoutFinalEmpty pieces := by
  obtain ⟨next, pieces, rfl⟩ := List.exists_cons_of_ne_nil h
  simp only [withoutFinalEmpty, List.getLast?_cons_cons, List.dropLast_cons_cons]
  split_ifs <;> rfl

lemma splitOn_of_not_mem {t : Text} (h : '\n' ∉ t) : t.splitOn '\n' = [t] := by
  rw [List.splitOn_eq_splitOnP]
  refine List.splitOnP_eq_singleton fun c hc => ?_
  rw [beq_eq_false_iff_ne]
  rintro rfl
  exact h hc

lemma linesFrom_eq_splitOn {line : Text} (h : '\n' ∉ line) (t : Text) :
    linesFrom line t = withoutFinalEmpty ((line.reverse ++ t).splitOn '\n') := by
  have hreverse : '\n' ∉ line.reverse := by simpa using h
  induction t generalizing line with
  | nil =>
      rw [List.append_nil, splitOn_of_not_mem hreverse]
      cases line <;> simp [linesFrom, withoutFinalEmpty]
  | cons c t ih =>
      by_cases hc : c = '\n'
      · subst hc
        rw [List.splitOn_append_cons_self, splitOn_of_not_mem hreverse, List.singleton_append,
          withoutFinalEmpty_cons _ (by simp)]
        have hstart : '\n' ∉ ([] : Text) := by simp
        simpa [linesFrom] using ih hstart hstart
      · have hline : '\n' ∉ c :: line := by simpa [Ne.symm hc] using h
        simpa [linesFrom, hc] using ih hline (by simpa [and_comm] using hline)

/-- **The lines of a text are the pieces between its line feeds**, without the one behind the last
line feed if it is empty. -/
theorem lines_eq_splitOn (t : Text) : t.lines = withoutFinalEmpty (t.splitOn '\n') :=
  linesFrom_eq_splitOn (by simp) t

lemma lines_append_feed {line : Text} (h : '\n' ∉ line) (rest : Text) :
    lines (line ++ '\n' :: rest) = line :: rest.lines := by
  rw [lines_eq_splitOn, List.splitOn_append_cons_self, splitOn_of_not_mem h,
    List.singleton_append, withoutFinalEmpty_cons _ (by simp), ← lines_eq_splitOn]

lemma lines_of_not_mem {line : Text} (h : '\n' ∉ line) (hne : line ≠ []) :
    lines line = [line] := by
  simp [lines_eq_splitOn, splitOn_of_not_mem h, withoutFinalEmpty, hne]

/-- Texts line by line: a text is empty, or one line without a line feed, or a line in front of
another text. -/
@[elab_as_elim]
lemma line_induction {motive : Text → Prop} (nil : motive [])
    (lastLine : ∀ line : Text, '\n' ∉ line → line ≠ [] → motive line)
    (line : ∀ line rest : Text, '\n' ∉ line → motive rest → motive (line ++ '\n' :: rest))
    (t : Text) : motive t := by
  induction hlength : t.length using Nat.strong_induction_on generalizing t with
  | _ length ih =>
      by_cases hfeed : '\n' ∈ t
      · obtain ⟨first, rest, rfl, hfirst⟩ := List.eq_append_cons_of_mem hfeed
        have hshorter : rest.length < length := by
          rw [← hlength, List.length_append, List.length_cons]
          omega
        exact line first rest hfirst (ih _ hshorter rest rfl)
      · by_cases hnil : t = []
        · exact hnil ▸ nil
        · exact lastLine t hfeed hnil

lemma not_mem_of_mem_lines {t line : Text} (h : line ∈ t.lines) : '\n' ∉ line := by
  induction t using line_induction with
  | nil => simp at h
  | lastLine last hlast hne =>
      rw [lines_of_not_mem hlast hne, List.mem_singleton] at h
      exact h ▸ hlast
  | line first rest hfirst ih =>
      rw [lines_append_feed hfirst, List.mem_cons] at h
      rcases h with rfl | hrest
      · exact hfirst
      · exact ih hrest

lemma unlines_cons (line : Text) (ls : List Text) :
    unlines (line :: ls) = line ++ '\n' :: unlines ls := by
  simp [unlines]

lemma unlines_append (ls others : List Text) :
    unlines (ls ++ others) = unlines ls ++ unlines others := List.flatMap_append

/-- Lines that are written are read again. -/
lemma lines_unlines {ls : List Text} (h : ∀ line ∈ ls, '\n' ∉ line) : (unlines ls).lines = ls := by
  induction ls with
  | nil => rfl
  | cons line ls ih =>
      have hrest := ih fun other hmem => h other (List.mem_cons_of_mem _ hmem)
      rw [unlines_cons, lines_append_feed (h line List.mem_cons_self), hrest]

lemma terminated_append_feed (line rest : Text) :
    terminated (line ++ '\n' :: rest) = line ++ '\n' :: terminated rest := by
  cases rest with
  | nil => simp [terminated]
  | cons c rest => by_cases hlast : (c :: rest).getLast? = some '\n' <;> simp [terminated, hlast]

/-- Writing the lines of a text gives the text, with a line feed at its end. -/
lemma unlines_lines (t : Text) : unlines t.lines = t.terminated := by
  induction t using line_induction with
  | nil => rfl
  | lastLine line hline hne =>
      have hlast : line.getLast? ≠ some '\n' := fun heq => hline (List.mem_of_getLast? heq)
      simp [lines_of_not_mem hline hne, unlines, terminated, hne, hlast]
  | line line rest hline ih =>
      rw [lines_append_feed hline, unlines_cons, ih, terminated_append_feed]

/-! ## Words -/

@[simp] lemma words_nil : words [] = [] := rfl

lemma takeWhile_append_trimLeft (t : Text) : t.takeWhile isBlank ++ t.trimLeft = t :=
  List.takeWhile_append_dropWhile

lemma trimLeft_append {blanks : Text} (h : blanks.allBlank = true) (t : Text) :
    trimLeft (blanks ++ t) = trimLeft t := by
  have hnil : blanks.dropWhile isBlank = [] := (trimLeft_eq_nil_iff blanks).2 h
  simp [trimLeft, List.dropWhile_append, hnil]

/-- The first word of a text, with the blanks before it and what stands behind it. -/
structure FirstWord (t blanks word behind : Text) : Prop where
  eq : t = blanks ++ (word ++ behind)
  blanks : blanks.allBlank = true
  ne_nil : word ≠ []
  word : ∀ c ∈ word, isBlank c = false
  /-- The word goes as far as it can. -/
  ends : ∀ c ∈ behind.head?, isBlank c = true

lemma head_dropWhile {p : Char → Bool} {t : Text} {c : Char} (h : c ∈ (t.dropWhile p).head?) :
    p c = false := by
  have hhead := List.head?_dropWhile_not p t
  rwa [Option.mem_def.1 h] at hhead

lemma isBlank_head_trimLeft {t : Text} {c : Char} (h : c ∈ (trimLeft t).head?) :
    isBlank c = false := head_dropWhile h

lemma breakAtBlank_append_of_word {word behind : Text} (hword : ∀ c ∈ word, isBlank c = false)
    (hends : ∀ c ∈ behind.head?, isBlank c = true) :
    breakAtBlank (word ++ behind) = (word, behind) := by
  have hletters : ∀ c ∈ word, (!isBlank c) = true := fun c hc => by simp [hword c hc]
  rw [breakAtBlank, List.takeWhile_append_of_pos hletters, List.dropWhile_append_of_pos hletters]
  cases behind with
  | nil => simp
  | cons c behind => simp [hends c rfl]

lemma exists_firstWord {t : Text} (h : t.allBlank = false) :
    ∃ blanks word behind, FirstWord t blanks word behind := by
  have hbody : trimLeft t ≠ [] := by
    rw [Ne, trimLeft_eq_nil_iff, h]
    simp
  obtain ⟨c, body, heq⟩ := List.exists_cons_of_ne_nil hbody
  have hc : isBlank c = false := isBlank_head_trimLeft (t := t) (by simp [heq])
  refine ⟨t.takeWhile isBlank, (breakAtBlank (trimLeft t)).1, (breakAtBlank (trimLeft t)).2,
    ?_, List.all_takeWhile, ?_, ?_, ?_⟩
  · rw [breakAtBlank_append, takeWhile_append_trimLeft]
  · simp [heq, breakAtBlank, hc]
  · intro d hd
    simpa using List.mem_takeWhile_imp hd
  · intro d hd
    simpa using head_dropWhile hd

lemma wordsFrom_eq_splitOnP {word : Text} (h : ∀ c ∈ word, isBlank c = false) (t : Text) :
    wordsFrom word t = ((word.reverse ++ t).splitOnP isBlank).filter (!·.isEmpty) := by
  have hreverse : (word.reverse).splitOnP isBlank = [word.reverse] :=
    List.splitOnP_eq_singleton fun c hc => h c (List.mem_reverse.1 hc)
  induction t generalizing word with
  | nil =>
      rw [List.append_nil, hreverse]
      cases word <;> simp [wordsFrom]
  | cons c t ih =>
      by_cases hc : isBlank c = true
      · rw [List.splitOnP_append_cons _ _ hc, hreverse, List.filter_append]
        have hstart : ∀ d ∈ ([] : Text), isBlank d = false := by simp
        have hrest := ih hstart (by simp [List.splitOnP_nil])
        rw [List.reverse_nil, List.nil_append] at hrest
        rw [← hrest]
        cases word <;> simp [wordsFrom, hc]
      · rw [Bool.not_eq_true] at hc
        have hword : ∀ d ∈ c :: word, isBlank d = false := by
          simpa [hc] using h
        have hrest := ih hword (List.splitOnP_eq_singleton fun d hd =>
          hword d (List.mem_reverse.1 hd))
        simpa [wordsFrom, hc] using hrest

/-- **The words of a text are the pieces between its blanks**, without the empty ones. -/
theorem words_eq_splitOnP (t : Text) :
    t.words = (t.splitOnP isBlank).filter (!·.isEmpty) :=
  wordsFrom_eq_splitOnP (by simp) t

lemma words_of_allBlank {t : Text} (h : t.allBlank = true) : t.words = [] := by
  induction t with
  | nil => rfl
  | cons c t ih =>
      simp only [allBlank, List.all_cons, Bool.and_eq_true] at h
      simpa [words, wordsFrom, h.1] using ih h.2

/-- Blanks in front do not count. -/
lemma words_append {blanks : Text} (h : blanks.allBlank = true) (t : Text) :
    words (blanks ++ t) = words t := by
  induction blanks with
  | nil => rfl
  | cons c blanks ih =>
      simp only [allBlank, List.all_cons, Bool.and_eq_true] at h
      simpa [words, wordsFrom, h.1] using ih h.2

namespace FirstWord

variable {t blanks word behind : Text}

/-- The first word is the first of the words. -/
lemma words_eq (h : FirstWord t blanks word behind) : t.words = word :: behind.words := by
  have hword : word.splitOnP isBlank = [word] := List.splitOnP_eq_singleton h.word
  rw [h.eq, words_append h.blanks, words_eq_splitOnP]
  cases behind with
  | nil => simp [hword, h.ne_nil]
  | cons c behind =>
      have hc : isBlank c = true := h.ends c rfl
      rw [List.splitOnP_append_cons _ _ hc, hword, List.filter_append, ← words_eq_splitOnP]
      simp [h.ne_nil, words, wordsFrom, hc]

lemma not_mem_feed (h : FirstWord t blanks word behind) : '\n' ∉ word := by
  intro hmem
  exact absurd (h.word _ hmem) (by decide)

lemma trimLeft_eq (h : FirstWord t blanks word behind) : trimLeft t = word ++ behind := by
  obtain ⟨c, rest, rfl⟩ := List.exists_cons_of_ne_nil h.ne_nil
  have hc : isBlank c = false := h.word c (by simp)
  rw [h.eq, trimLeft_append h.blanks]
  simp [trimLeft, hc]

/-- The line that the word is on, from the word on. -/
lemma cutLine_eq (h : FirstWord t blanks word behind) :
    cutLine (word ++ behind) = (word ++ behind.cutLine.1, behind.cutLine.2) :=
  cutLine_append_of_not_mem h.not_mem_feed behind

/-- From the line that it is on, the word is taken, and the blanks behind it are dropped. -/
lemma firstWord_line (h : FirstWord t blanks word behind) :
    firstWord (word ++ behind.cutLine.1) = some (word, trimLeft behind.cutLine.1) := by
  obtain ⟨c, rest, rfl⟩ := List.exists_cons_of_ne_nil h.ne_nil
  have hc : isBlank c = false := h.word c (by simp)
  have hends : ∀ d ∈ behind.cutLine.1.head?, isBlank d = true := by
    intro d hd
    rw [head?_cutLine] at hd
    exact h.ends d hd
  have htrim : trimLeft (c :: rest ++ behind.cutLine.1) = c :: rest ++ behind.cutLine.1 := by
    simp [trimLeft, hc]
  have hbreak := breakAtBlank_append_of_word h.word hends
  rw [List.cons_append] at htrim hbreak ⊢
  rw [firstWord, htrim]
  simp only [hbreak]

end FirstWord

end PipedShell.Text
