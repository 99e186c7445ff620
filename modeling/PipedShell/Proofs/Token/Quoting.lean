import PipedShell.Proofs.Token.Spelling

/-!
# What each character of a line is for

A character of a line ends a word, quotes other characters, or counts itself.  Which of the three it
does depends on the mode in which the reader comes to it, and that mode follows from the characters
before it alone.  This file says so and reads three facts about whole lines off it.

* `LexMode.step`, `LexMode.after` — the mode behind a character and behind a text.
* `LexMode.meant` — what the characters of a text add to the tokens.
* `Reads` — the reader as a relation: one rule for each thing that it does.  `reads_scan` says that
  the reader follows the rules, so that facts about it go by induction on them.
* `Reads.openQuote_eq` — a quote is left open exactly if the last mode is one of quoting.
* `Reads.text_eq` — strung together, the tokens are what the characters add.
* **`tokenize_append_separator`** — where the reader is outside quotes, a separator cuts the line in
  two parts that can be read apart.

An operator takes no mode of its own here: its characters count, and the reader is outside quotes
before and behind each of them.
-/

namespace PipedShell

namespace LexMode

/-! ## One character -/

/-- The mode behind a character. -/
def step : LexMode → Char → LexMode
  | outside, c =>
    if c == '\\' then escaped else if c == '\'' then single else if c == '"' then double
    else outside
  | escaped, _ | inOperator, _ => outside
  | single, c => if c == '\'' then outside else if c == '\\' then singleEscaped else single
  | singleEscaped, _ => single
  | double, c => if c == '"' then outside else if c == '\\' then doubleEscaped else double
  | doubleEscaped, _ => double

/-- The character is a backslash that escapes the next one, or the quote that closes. -/
def marks : LexMode → Char → Bool
  | outside, c => c == '\\'
  | single, c => c == '\'' || c == '\\'
  | double, c => c == '"' || c == '\\'
  | escaped, _ | singleEscaped, _ | doubleEscaped, _ | inOperator, _ => false

/-- What a character adds to the tokens: nothing if it only separates or quotes. -/
def meantBy : LexMode → Char → Text
  | outside, c => if isPlain c then [c] else []
  | escaped, c => [c]
  | single, c => if single.marks c then [] else [c]
  | singleEscaped, c => singleEscape c
  | double, c => if double.marks c then [] else [c]
  | doubleEscaped, c => [doubleEscape c]
  | inOperator, _ => []

/-- The word begun, read backwards, with a character that does not end it.  An opening quote begins
a word even if nothing comes between it and its partner. -/
def grow (mode : LexMode) (word : Option Text) (c : Char) : Option Text :=
  if mode.marks c then word else growWord word (mode.meantBy c)

lemma step_ne_inOperator (mode : LexMode) (c : Char) : mode.step c ≠ inOperator := by
  cases mode with
  | outside | single | double =>
      simp only [step]
      split_ifs <;> simp
  | escaped | singleEscaped | doubleEscaped | inOperator => simp [step]

/-! ## Whole texts -/

/-- The mode behind a text. -/
def after (mode : LexMode) (text : Text) : LexMode := text.foldl step mode

/-- What the characters of a text add to the tokens. -/
def meant (mode : LexMode) : Text → Text
  | [] => []
  | c :: text => mode.meantBy c ++ (mode.step c).meant text

@[simp] lemma after_nil (mode : LexMode) : mode.after [] = mode := rfl

@[simp] lemma after_cons (mode : LexMode) (c : Char) (text : Text) :
    mode.after (c :: text) = (mode.step c).after text := rfl

lemma after_append (mode : LexMode) (a b : Text) :
    mode.after (a ++ b) = (mode.after a).after b := List.foldl_append

lemma meant_append (mode : LexMode) (a b : Text) :
    mode.meant (a ++ b) = mode.meant a ++ (mode.after a).meant b := by
  induction a generalizing mode with
  | nil => rfl
  | cons c a ih => simp [meant, ih]

end LexMode

/-! ## The reader as a relation -/

/-- The reader in a mode, with a word begun or not, reads a text as this. -/
inductive Reads : LexMode → Option Text → Text → Lexed → Prop
  /-- The line ends, and with it the word begun. -/
  | done {mode word} (closed : mode.openQuote = none) :
      Reads mode word [] (Lexed.consWord word ⟨[], none⟩)
  /-- The line ends between quotes. -/
  | leftOpen {mode word quote} (left_open : mode.openQuote = some quote) :
      Reads mode word [] ⟨[], some quote⟩
  /-- A separator ends the word begun. -/
  | separator {c text lexed word} (is_separator : isSeparator c = true)
      (rest : Reads .outside none text lexed) :
      Reads .outside word (c :: text) (lexed.consWord word)
  /-- An operator stands alone. -/
  | operator {kind text lexed} (is_operator : kind.isOperator = true)
      (stands_alone : standsAlone text = true) (rest : Reads .outside none text lexed) :
      Reads .outside none (kind.spelling ++ text) (lexed.cons (.ofOperator kind))
  /-- The character belongs to the word begun, or begins one. -/
  | step {mode word c text lexed} (not_inside : mode ≠ .inOperator)
      (no_separator : mode = .outside → isSeparator c = false)
      (no_operator : mode = .outside → word = none → leadingOperator (c :: text) = none)
      (rest : Reads (mode.step c) (mode.grow word c) text lexed) :
      Reads mode word (c :: text) lexed

lemma spelling_ne_nil (kind : Token.Kind) : kind.spelling ≠ [] := by
  cases kind <;> decide

/-- An operator that is found is at the start of the text as it is spelled, and stands alone. -/
lemma leadingOperator_eq_some {text : Text} {kind : Token.Kind}
    (h : leadingOperator text = some kind) :
    kind.isOperator = true ∧
      ∃ rest, text = kind.spelling ++ rest ∧ standsAlone rest = true := by
  simp only [leadingOperator] at h
  split at h
  all_goals
    simp only [Option.ite_none_right_eq_some, Option.some.injEq, reduceCtorEq] at h
  all_goals
    obtain ⟨halone, rfl⟩ := h
    exact ⟨rfl, _, rfl, halone⟩

/-- One step of the reader, for a character that is no separator and begins no operator. -/
lemma scan_step {mode : LexMode} (hmode : mode ≠ .inOperator) {word : Option Text} {c : Char}
    {text : Text} (hsep : mode = .outside → isSeparator c = false)
    (hop : mode = .outside → word = none → leadingOperator (c :: text) = none) :
    scan mode word (c :: text) = scan (mode.step c) (mode.grow word c) text := by
  cases mode with
  | inOperator => exact absurd rfl hmode
  | outside =>
      by_cases hplain : isPlain c = true
      · have hword : word.isSome = true ∨ leadingOperator (c :: text) = none := by
          cases word with
          | none => exact Or.inr (hop rfl rfl)
          | some word => exact Or.inl rfl
        simp only [isPlain, Bool.and_eq_true, Bool.not_eq_true', bne_iff_ne] at hplain
        rw [scan]
        rcases hword with hword | hword <;>
          simp [hplain, hword, LexMode.step, LexMode.grow, LexMode.marks, LexMode.meantBy, isPlain,
            extendWord_eq_growWord]
      · have hquotes : c = '\'' ∨ c = '"' ∨ c = '\\' := by
          by_contra hnone
          simp_all [isPlain]
        rcases hquotes with rfl | rfl | rfl <;> rfl
  | single | double =>
      rw [scan]
      simp only [LexMode.step, LexMode.grow, LexMode.marks, LexMode.meantBy]
      split_ifs <;> simp_all [extendWord_eq_growWord]
  | escaped | singleEscaped | doubleEscaped => rfl

/-- **The reader follows the rules**, by induction on the length of the text: an operator may take
two characters at once. -/
lemma reads_scan {mode : LexMode} (hmode : mode ≠ .inOperator) (word : Option Text) (text : Text) :
    Reads mode word text (scan mode word text) := by
  induction hlength : text.length using Nat.strongRecOn generalizing mode word text with
  | ind length ih =>
      cases text with
      | nil =>
          rw [scan]
          cases hquote : mode.openQuote with
          | none => exact .done hquote
          | some quote => exact .leftOpen hquote
      | cons c text =>
          have hshorter : text.length < length := by simp [← hlength]
          by_cases hsep : mode = .outside ∧ isSeparator c = true
          · obtain ⟨rfl, hc⟩ := hsep
            rw [scan_separator hc]
            exact .separator hc (ih _ hshorter hmode none text rfl)
          have hnosep : mode = .outside → isSeparator c = false := by simpa using hsep
          by_cases hop : mode = .outside → word = none → leadingOperator (c :: text) = none
          · rw [scan_step hmode hnosep hop]
            exact .step hmode hnosep hop (ih _ hshorter (mode.step_ne_inOperator c) _ text rfl)
          · push Not at hop
            obtain ⟨rfl, rfl, hkind⟩ := hop
            obtain ⟨kind, hkind⟩ := Option.ne_none_iff_exists'.1 hkind
            obtain ⟨hop, rest, hrest, halone⟩ := leadingOperator_eq_some hkind
            rw [hrest, scan_operator hop halone]
            have hlater : rest.length < length := by
              rw [← hlength, hrest, List.length_append]
              exact Nat.lt_add_of_pos_left (List.length_pos_iff.2 (spelling_ne_nil kind))
            exact .operator hop halone (ih _ hlater hmode none rest rfl)

/-! ## The last mode, and the tokens strung together -/

lemma step_of_isSeparator {c : Char} (h : isSeparator c = true) :
    LexMode.step .outside c = .outside := by
  have hplain : c ≠ '\\' ∧ c ≠ '\'' ∧ c ≠ '"' := by
    refine ⟨?_, ?_, ?_⟩ <;> rintro rfl <;> exact absurd h (by decide)
  simp [LexMode.step, hplain]

lemma meantBy_of_isSeparator {c : Char} (h : isSeparator c = true) :
    LexMode.meantBy .outside c = [] := by
  simp [LexMode.meantBy, isPlain, h]

lemma after_spelling (kind : Token.Kind) : LexMode.after .outside kind.spelling = .outside := by
  cases kind <;> rfl

lemma meant_spelling (kind : Token.Kind) :
    LexMode.meant .outside kind.spelling = kind.spelling := by
  cases kind <;> rfl

lemma reverse_grow (mode : LexMode) (word : Option Text) (c : Char) :
    ((mode.grow word c).getD []).reverse = (word.getD []).reverse ++ mode.meantBy c := by
  by_cases hmarks : mode.marks c = true
  · have hnothing : mode.meantBy c = [] := by
      cases mode with
      | outside =>
          have hc : c = '\\' := by simpa [LexMode.marks] using hmarks
          simp [LexMode.meantBy, hc, isPlain]
      | single | double => simp [LexMode.meantBy, hmarks]
      | escaped | singleEscaped | doubleEscaped | inOperator => simp [LexMode.marks] at hmarks
    simp [LexMode.grow, hmarks, hnothing]
  · simp [LexMode.grow, hmarks, growWord]

@[simp] lemma openQuote_consWord (word : Option Text) (lexed : Lexed) :
    (lexed.consWord word).openQuote = lexed.openQuote := by
  cases word <;> rfl

lemma flatMap_text_consWord (word : Option Text) (lexed : Lexed) :
    (lexed.consWord word).tokens.flatMap Token.text
      = (word.getD []).reverse ++ lexed.tokens.flatMap Token.text := by
  cases word <;> simp [Lexed.consWord, Lexed.cons, Token.ofWord]

/-- A quote is left open exactly if the reader ends in a mode of quoting, and it is that quote. -/
lemma Reads.openQuote_eq {mode : LexMode} {word : Option Text} {text : Text} {lexed : Lexed}
    (h : Reads mode word text lexed) : lexed.openQuote = (mode.after text).openQuote := by
  induction h with
  | done hclosed => simp [hclosed]
  | leftOpen hopen => exact hopen.symm
  | separator hsep _ ih => simp [step_of_isSeparator hsep, ih]
  | @operator kind text lexed _ _ _ ih =>
      rw [LexMode.after_append, after_spelling]
      exact ih
  | step _ _ _ _ ih => exact ih

/-- **The tokens strung together are what the characters of the line add to them.** -/
lemma Reads.text_eq {mode : LexMode} {word : Option Text} {text : Text} {lexed : Lexed}
    (h : Reads mode word text lexed) (hquote : lexed.openQuote = none) :
    lexed.tokens.flatMap Token.text = (word.getD []).reverse ++ mode.meant text := by
  induction h with
  | done _ => simp [flatMap_text_consWord, LexMode.meant]
  | leftOpen _ => simp at hquote
  | separator hsep _ ih =>
      rw [flatMap_text_consWord, ih (by simpa using hquote), LexMode.meant,
        meantBy_of_isSeparator hsep, step_of_isSeparator hsep]
      rfl
  | @operator kind text lexed _ _ _ ih =>
      have hrest := ih hquote
      rw [LexMode.meant_append, meant_spelling, after_spelling]
      simpa [Lexed.cons, Token.ofOperator] using hrest
  | step _ _ _ _ ih =>
      rw [ih hquote, reverse_grow, LexMode.meant, List.append_assoc]

/-! ## Cutting a line at a separator -/

/-- Two results one after the other. -/
def Lexed.append (lexed other : Lexed) : Lexed := ⟨lexed.tokens ++ other.tokens, other.openQuote⟩

lemma Lexed.append_consWord (word : Option Text) (lexed other : Lexed) :
    (lexed.consWord word).append other = (lexed.append other).consWord word := by
  cases word <;> rfl

lemma standsAlone_append_separator {separator : Char} (hsep : isSeparator separator = true)
    (text rest : Text) : standsAlone (text ++ separator :: rest) = standsAlone text := by
  cases text with
  | nil => exact hsep
  | cons c text => rfl

/-- The operator at the start of a text, told from its first two characters. -/
lemma leadingOperator_cons_cons (c d : Char) (text : Text) :
    leadingOperator (c :: d :: text)
      = if c = '|' ∧ d = '|' then (if standsAlone text then some .orElse else none)
        else if c = '&' ∧ d = '&' then (if standsAlone text then some .andThen else none)
        else if c = '|' ∧ isSeparator d = true then some .pipe
        else none := by
  by_cases hbar : c = '|'
  · subst hbar
    by_cases hd : d = '|'
    · simp [leadingOperator, hd]
    · cases hsep : isSeparator d <;> simp [leadingOperator, standsAlone, hd, hsep]
  · by_cases hand : c = '&'
    · subst hand
      by_cases hd : d = '&' <;> simp [leadingOperator, hd]
    · simp [leadingOperator, hbar, hand]

/-- A separator is no part of an operator, and an operator may end before it. -/
lemma leadingOperator_append_separator {separator : Char} (hsep : isSeparator separator = true)
    (c : Char) (text rest : Text) :
    leadingOperator (c :: (text ++ separator :: rest)) = leadingOperator (c :: text) := by
  cases text with
  | nil =>
      have hbar : separator ≠ '|' := by
        rintro rfl
        exact absurd hsep (by decide)
      have hand : separator ≠ '&' := by
        rintro rfl
        exact absurd hsep (by decide)
      rw [List.nil_append, leadingOperator_cons_cons]
      by_cases hc : c = '|' <;> simp [hc, hbar, hand, hsep, leadingOperator, standsAlone]
  | cons d text =>
      rw [List.cons_append, leadingOperator_cons_cons, leadingOperator_cons_cons,
        standsAlone_append_separator hsep]

lemma Reads.scan_append {mode : LexMode} {word : Option Text} {text : Text} {lexed : Lexed}
    (h : Reads mode word text lexed) (hafter : mode.after text = .outside) {separator : Char}
    (hsep : isSeparator separator = true) (rest : Text) :
    scan mode word (text ++ separator :: rest) = lexed.append (scan .outside none rest) := by
  induction h with
  | done _ =>
      obtain rfl : _ = LexMode.outside := hafter
      rw [List.nil_append, scan_separator hsep, Lexed.append_consWord]
      rfl
  | leftOpen hopen =>
      obtain rfl : _ = LexMode.outside := hafter
      simp [LexMode.openQuote] at hopen
  | separator hc _ ih =>
      rw [LexMode.after_cons, step_of_isSeparator hc] at hafter
      rw [List.cons_append, scan_separator hc, ih hafter, Lexed.append_consWord]
  | operator hop halone _ ih =>
      rw [LexMode.after_append, after_spelling] at hafter
      have halone' := (standsAlone_append_separator hsep _ rest).trans halone
      rw [List.append_assoc, scan_operator hop halone', ih hafter]
      rfl
  | @step mode word c text lexed hmode hnosep hnoop hrest ih =>
      have hnoop' : mode = .outside → word = none →
          leadingOperator (c :: (text ++ separator :: rest)) = none := by
        rwa [leadingOperator_append_separator hsep]
      rw [List.cons_append, scan_step hmode hnosep hnoop', ih hafter]

/-- **A separator outside quotes cuts a line in two** that are read apart: the tokens before it are
those of the text before it, whatever comes behind. -/
theorem tokenize_append_separator {text : Text} (h : LexMode.after .outside text = .outside)
    {separator : Char} (hsep : isSeparator separator = true) (rest : Text) :
    tokenize (text ++ separator :: rest) = (tokenize text).append (tokenize rest) :=
  (reads_scan (by simp) none text).scan_append h hsep rest

end PipedShell
