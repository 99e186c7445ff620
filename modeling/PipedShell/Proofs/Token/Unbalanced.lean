import Mathlib.Computability.DFA
import PipedShell.Proofs.Token.Trimming

/-!
# Lines that leave a quote open

Whether a line leaves a quote open has nothing to do with words and operators: three modes and a
flag for the backslash tell it.  This file has that automaton, says that the reader reports exactly
the quote that it ends in, and says which tokens come with the report.

* `QuoteState`, `quoteAutomaton` — the mode and the flag, and how a character moves them on.
  `LexMode.quoteState` is what they know of the reader, and `quoteState_after` that they follow it.
* `Divides` — a separator that ends words: it is neither quoted nor escaped.
* `OpenWord` — where the word that holds the open quote begins, and where the quote stands in it.
  `exists_openWord`: a line that leaves a quote open has such a word.
* **`unbalanced_quote_reported`** — the report names the quote that the automaton ends in, and the
  tokens are those of the line before that word.
-/

namespace PipedShell

/-! ## The automaton -/

/-- The quote that is open, and whether a backslash escapes the next character. -/
structure QuoteState where
  quote : Option Char
  escaped : Bool
  deriving DecidableEq, Repr

namespace QuoteState

/-- Outside quotes and not behind a backslash. -/
def plain : QuoteState := ⟨none, false⟩

/-- A backslash in any mode takes the next character with it, whatever it is.  Otherwise a quote
opens a mode, and only the same quote leaves it again. -/
def step (state : QuoteState) (c : Char) : QuoteState :=
  if state.escaped then ⟨state.quote, false⟩
  else if c == '\\' then ⟨state.quote, true⟩
  else match state.quote with
    | none => if c == '\'' || c == '"' then ⟨some c, false⟩ else plain
    | some quote => if c == quote then plain else state

end QuoteState

/-- The automaton of quotes; it accepts the lines that leave none open. -/
def quoteAutomaton : DFA Char QuoteState where
  step := QuoteState.step
  start := .plain
  accept := {state | state.quote = none}

@[simp] lemma step_quoteAutomaton (state : QuoteState) (c : Char) :
    quoteAutomaton.step state c = state.step c := rfl

/-- What the automaton knows of a mode of the reader. -/
def LexMode.quoteState : LexMode → QuoteState
  | outside | inOperator => ⟨none, false⟩
  | escaped => ⟨none, true⟩
  | single => ⟨some '\'', false⟩
  | singleEscaped => ⟨some '\'', true⟩
  | double => ⟨some '"', false⟩
  | doubleEscaped => ⟨some '"', true⟩

lemma LexMode.quote_quoteState (mode : LexMode) : mode.quoteState.quote = mode.openQuote := by
  cases mode <;> rfl

lemma LexMode.quoteState_eq_plain_iff {mode : LexMode} (hmode : mode ≠ .inOperator) :
    mode.quoteState = .plain ↔ mode = .outside := by
  cases mode <;> simp_all [quoteState, QuoteState.plain]

lemma LexMode.quoteState_step {mode : LexMode} (hmode : mode ≠ .inOperator) (c : Char) :
    (mode.step c).quoteState = mode.quoteState.step c := by
  cases mode with
  | inOperator => exact absurd rfl hmode
  | escaped | singleEscaped | doubleEscaped => rfl
  | outside =>
      simp only [step, QuoteState.step, quoteState, QuoteState.plain]
      split_ifs <;> simp_all
  | single | double =>
      -- both of them look for the quote first, and the automaton for the backslash
      simp only [step, QuoteState.step, quoteState, QuoteState.plain]
      split_ifs <;> simp_all

/-- The automaton follows the reader. -/
lemma quoteState_after (text : Text) :
    (LexMode.after .outside text).quoteState = quoteAutomaton.eval text := by
  induction text using List.reverseRecOn with
  | nil => rfl
  | append_singleton text c ih =>
      have houtside : LexMode.outside ≠ .inOperator := by simp
      rw [LexMode.after_append, DFA.eval_append_singleton, ← ih]
      exact LexMode.quoteState_step (after_ne_inOperator houtside text) c

lemma QuoteState.step_plain {c : Char} (h : isSeparator c = true) :
    QuoteState.step .plain c = .plain := by
  have houtside : LexMode.outside ≠ .inOperator := by simp
  have hstep := LexMode.quoteState_step houtside c
  rw [step_of_isSeparator h] at hstep
  exact hstep.symm

lemma openQuote_tokenize_eq (line : Text) :
    (tokenize line).openQuote = (quoteAutomaton.eval line).quote := by
  rw [openQuote_tokenize, ← LexMode.quote_quoteState, quoteState_after]

lemma after_eq_outside_iff (text : Text) :
    LexMode.after .outside text = .outside ↔ quoteAutomaton.eval text = .plain := by
  have houtside : LexMode.outside ≠ .inOperator := by simp
  rw [← quoteState_after, LexMode.quoteState_eq_plain_iff (after_ne_inOperator houtside text)]

/-! ## The word that holds the open quote -/

/-- A character behind a text ends the word begun: it is a separator, neither quoted nor escaped. -/
def Divides (before : Text) (c : Char) : Prop :=
  isSeparator c = true ∧ quoteAutomaton.eval before = .plain

instance (before : Text) (c : Char) : Decidable (Divides before c) :=
  inferInstanceAs (Decidable (_ ∧ _))

/-- A line `before ++ head ++ quote :: tail` leaves the quote open, and the word that holds the
quote begins with `head`. -/
structure OpenWord (before head : Text) (quote : Char) (tail : Text) : Prop where
  /-- The line begins here, or a word has ended. -/
  begins : ∀ text c, before = text ++ [c] → Divides text c
  undivided : ∀ text c rest, head = text ++ c :: rest → ¬ Divides (before ++ text) c
  unquoted : quoteAutomaton.eval (before ++ head) = .plain
  unclosed : ∀ text, text <+: tail →
    (quoteAutomaton.eval (before ++ head ++ quote :: text)).quote = some quote

/-- A quote is open behind a character if it was before and is not closed, or if the character
opens it. -/
lemma QuoteState.quote_step {state : QuoteState} {c quote : Char}
    (h : (state.step c).quote = some quote) :
    state.quote = some quote ∨ state = .plain ∧ c = quote := by
  obtain ⟨mode, escaped⟩ := state
  cases escaped with
  | true => exact Or.inl h
  | false =>
      cases mode with
      | none =>
          right
          simp only [step, plain] at h ⊢
          split_ifs at h <;> simp_all
      | some other =>
          left
          simp only [step, plain] at h
          split_ifs at h <;> simp_all

/-- A line that leaves a quote open opens it at some place and does not close it again. -/
lemma exists_opening {line : Text} {quote : Char}
    (h : (quoteAutomaton.eval line).quote = some quote) :
    ∃ text tail, line = text ++ quote :: tail ∧ quoteAutomaton.eval text = .plain ∧
      ∀ read, read <+: tail →
        (quoteAutomaton.eval (text ++ quote :: read)).quote = some quote := by
  induction line using List.reverseRecOn with
  | nil => simp [quoteAutomaton, QuoteState.plain] at h
  | append_singleton line c ih =>
      have hlast := h
      rw [DFA.eval_append_singleton] at hlast
      rcases QuoteState.quote_step hlast with hbefore | ⟨hplain, rfl⟩
      · obtain ⟨text, tail, rfl, hplain, hopen⟩ := ih hbefore
        refine ⟨text, tail ++ [c], by simp, hplain, fun read hread => ?_⟩
        rcases List.prefix_concat_iff.1 hread with rfl | hread
        · simpa using h
        · exact hopen read hread
      · refine ⟨line, [], rfl, hplain, fun read hread => ?_⟩
        rw [List.prefix_nil.1 hread]
        exact h

/-- Every text ends in a word that is not divided, an empty one behind a separator. -/
lemma exists_wordStart (text : Text) :
    ∃ before head, text = before ++ head ∧ (∀ t c, before = t ++ [c] → Divides t c) ∧
      ∀ t c rest, head = t ++ c :: rest → ¬ Divides (before ++ t) c := by
  induction text using List.reverseRecOn with
  | nil => exact ⟨[], [], rfl, by simp, by simp⟩
  | append_singleton text d ih =>
      by_cases hdivides : Divides text d
      · refine ⟨text ++ [d], [], by simp, fun t c heq => ?_, by simp⟩
        obtain ⟨rfl, hc⟩ := List.append_inj' heq rfl
        rwa [List.singleton_inj.1 hc] at hdivides
      · obtain ⟨before, head, rfl, hbegins, hundivided⟩ := ih
        refine ⟨before, head ++ [d], by simp, hbegins, fun t c rest heq => ?_⟩
        rcases List.eq_nil_or_concat rest with rfl | ⟨rest, e, rfl⟩
        · obtain ⟨rfl, hc⟩ := List.append_inj' heq rfl
          rwa [List.singleton_inj.1 hc] at hdivides
        · rw [List.concat_eq_append, ← List.cons_append, ← List.append_assoc] at heq
          exact hundivided t c rest (List.append_inj' heq rfl).1

lemma exists_openWord {line : Text} {quote : Char}
    (h : (quoteAutomaton.eval line).quote = some quote) :
    ∃ before head tail, line = before ++ head ++ quote :: tail ∧
      OpenWord before head quote tail := by
  obtain ⟨text, tail, rfl, hplain, hopen⟩ := exists_opening h
  obtain ⟨before, head, rfl, hbegins, hundivided⟩ := exists_wordStart text
  exact ⟨before, head, tail, rfl, hbegins, hundivided, hplain, hopen⟩

/-! ## The tokens before it -/

/-- A text without a dividing separator that leaves a quote open completes no token: a word ends at
a separator only, and an operator stands before one. -/
lemma Reads.tokens_eq_nil {mode : LexMode} {word : Option Text} {text : Text} {lexed : Lexed}
    (h : Reads mode word text lexed) (hopen : lexed.openQuote ≠ none)
    (hundivided : ∀ a c b, text = a ++ c :: b → mode.after a = .outside →
      isSeparator c = false) : lexed.tokens = [] := by
  induction h with
  | done _ => simp at hopen
  | leftOpen _ => rfl
  | @separator c text lexed word hsep _ _ =>
      have hc := hundivided [] c text rfl rfl
      rw [hsep] at hc
      cases hc
  | @operator kind text lexed _ halone hrest _ =>
      cases text with
      | nil =>
          have hquote : lexed.openQuote = none := hrest.openQuote_eq
          exact absurd hquote hopen
      | cons c text =>
          have hc := hundivided kind.spelling c text rfl (after_spelling kind)
          have hsep : isSeparator c = true := halone
          rw [hsep] at hc
          cases hc
  | @step mode word c text lexed _ _ _ _ ih =>
      refine ih hopen fun a d b heq hafter => ?_
      exact hundivided (c :: a) d b (by rw [heq, List.cons_append]) hafter

namespace OpenWord

variable {before head tail : Text} {quote : Char}

lemma quote_eval (h : OpenWord before head quote tail) :
    (quoteAutomaton.eval (before ++ head ++ quote :: tail)).quote = some quote :=
  h.unclosed tail List.prefix_rfl

/-- The character that opens the mode is no separator. -/
lemma not_divides_quote (h : OpenWord before head quote tail) (text : Text) :
    ¬ Divides text quote := by
  rintro ⟨hsep, -⟩
  have hopened := h.unclosed [] List.nil_prefix
  rw [DFA.eval_append_singleton, h.unquoted, step_quoteAutomaton, QuoteState.step_plain hsep]
    at hopened
  cases hopened

/-- Nothing in the word divides it, neither before the quote nor behind it. -/
lemma not_divides (h : OpenWord before head quote tail) {a b : Text} {c : Char}
    (heq : head ++ quote :: tail = a ++ c :: b) : ¬ Divides (before ++ a) c := by
  rcases List.append_eq_append_iff.1 heq with ⟨mid, rfl, hmid⟩ | ⟨mid, rfl, hmid⟩
  · cases mid with
    | nil =>
        obtain ⟨rfl, -⟩ := List.cons.inj hmid
        exact h.not_divides_quote _
    | cons d mid =>
        -- the place is behind the quote, which is still open there
        obtain ⟨rfl, rfl⟩ := List.cons.inj hmid
        rintro ⟨-, hplain⟩
        have hopen := h.unclosed mid (List.prefix_append _ _)
        rw [List.append_assoc, hplain] at hopen
        cases hopen
  · cases mid with
    | nil =>
        obtain ⟨rfl, -⟩ := List.cons.inj hmid
        exact h.not_divides_quote _
    | cons d mid =>
        obtain ⟨rfl, -⟩ := List.cons.inj hmid
        exact h.undivided a c mid rfl

/-- Where the word begins, the automaton is where it started. -/
lemma eval_before (h : OpenWord before head quote tail) :
    quoteAutomaton.eval before = .plain := by
  rcases List.eq_nil_or_concat before with rfl | ⟨text, c, rfl⟩
  · rfl
  · rw [List.concat_eq_append] at h ⊢
    obtain ⟨hsep, hplain⟩ := h.begins text c rfl
    rw [DFA.eval_append_singleton, hplain]
    exact QuoteState.step_plain hsep

lemma eval_append (h : OpenWord before head quote tail) (text : Text) :
    quoteAutomaton.eval (before ++ text) = quoteAutomaton.eval text := by
  have hbefore := h.eval_before
  rw [DFA.eval] at hbefore ⊢
  rw [DFA.evalFrom_of_append, hbefore]
  rfl

/-- The word completes no token. -/
lemma tokens_eq_nil (h : OpenWord before head quote tail) :
    (tokenize (head ++ quote :: tail)).tokens = [] := by
  have hreads : Reads .outside none (head ++ quote :: tail) (tokenize (head ++ quote :: tail)) :=
    reads_scan (by simp) none _
  refine hreads.tokens_eq_nil ?_ ?_
  · have hopen := h.quote_eval
    rw [List.append_assoc, h.eval_append, ← openQuote_tokenize_eq] at hopen
    exact Option.ne_none_iff_exists'.2 ⟨quote, hopen⟩
  · intro a c b heq houtside
    by_contra hsep
    refine h.not_divides heq ⟨by simpa using hsep, ?_⟩
    rwa [h.eval_append, ← after_eq_outside_iff]

/-- The tokens of the line are those before the word. -/
lemma tokenize_eq (h : OpenWord before head quote tail) :
    tokenize (before ++ head ++ quote :: tail) = ⟨(tokenize before).tokens, some quote⟩ := by
  have hquote : (tokenize (before ++ head ++ quote :: tail)).openQuote = some quote := by
    rw [openQuote_tokenize_eq, h.quote_eval]
  have htokens : (tokenize (before ++ head ++ quote :: tail)).tokens
      = (tokenize before).tokens := by
    rw [List.append_assoc]
    rcases List.eq_nil_or_concat before with rfl | ⟨text, c, rfl⟩
    · exact h.tokens_eq_nil
    · rw [List.concat_eq_append] at h ⊢
      obtain ⟨hsep, hplain⟩ := h.begins text c rfl
      have houtside := (after_eq_outside_iff text).2 hplain
      rw [List.append_assoc, List.singleton_append, tokenize_append_separator houtside hsep,
        tokenize_append_separator houtside hsep, Lexed.append, h.tokens_eq_nil]
      rfl
  rw [← htokens, ← hquote]

end OpenWord

/-! ## Whole lines -/

lemma wordsOfLine_eq_error_iff (line : Text) (fault : LineFault) :
    wordsOfLine line = .error fault ↔
      ∃ quote, fault = .unbalancedQuote quote ∧ (tokenize line).openQuote = some quote := by
  rw [wordsOfLine, Lexed.check]
  cases (tokenize line).openQuote with
  | none => simp [Except.map]
  | some quote => simp [Except.map, eq_comm]

/-- **An open quote is reported, and the tokens before its word with it.**  Reading a line reports a
quote exactly if the automaton of quotes ends with this quote open, and none otherwise.  Such a line
has a word that holds the open quote, and with the report come the tokens of the line before that
word, which is well quoted.  The words of a line are refused for the same quotes and for nothing
else. -/
theorem unbalanced_quote_reported (line : Text) :
    (∀ quote, (tokenize line).openQuote = some quote ↔
      (quoteAutomaton.eval line).quote = some quote) ∧
    ((tokenize line).openQuote = none ↔ line ∈ quoteAutomaton.accepts) ∧
    (∀ quote, (tokenize line).openQuote = some quote →
      ∃ before head tail, line = before ++ head ++ quote :: tail ∧
        OpenWord before head quote tail) ∧
    (∀ before head quote tail, line = before ++ head ++ quote :: tail →
      OpenWord before head quote tail →
        tokenize line = ⟨(tokenize before).tokens, some quote⟩ ∧
          (tokenize before).openQuote = none) ∧
    ∀ fault, wordsOfLine line = .error fault ↔
      ∃ quote, fault = .unbalancedQuote quote ∧
        (quoteAutomaton.eval line).quote = some quote := by
  have hquote := openQuote_tokenize_eq line
  refine ⟨fun quote => by rw [hquote], by rw [hquote]; rfl, fun quote hopen => ?_, ?_,
    fun fault => ?_⟩
  · exact exists_openWord (hquote ▸ hopen)
  · rintro before head quote tail rfl hword
    refine ⟨hword.tokenize_eq, ?_⟩
    rw [openQuote_tokenize_eq, hword.eval_before]
    rfl
  · rw [wordsOfLine_eq_error_iff, hquote]

/-- The word that holds the open quote is glued of three runs, and of them nothing is reported. -/
example : tokenize "say (x\"y\"' \"z\\' w" = ⟨[.ofWord "say"], some '\''⟩ := by decide

end PipedShell
