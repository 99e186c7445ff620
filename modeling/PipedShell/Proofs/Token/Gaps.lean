import PipedShell.Proofs.Token.Unbalanced

/-!
# Gaps between the parts of a line

A separator between two parts of a line lets them be read apart, whatever the second part is, as
long as the reader takes it for one.  It does unless a quote is open or a backslash stands right
before it.

* `Text.DropsBackslash` — the line ends in a backslash with nothing to escape.  It is dropped there,
  and would escape a separator.  `Text.dropsBackslash_iff`: the automaton of quotes tells.
* **`tokenize_cut_at_gap`** — behind a well quoted line every separator cuts exactly if no such
  backslash stands there, and any number of separators does what one of them does.
-/

namespace PipedShell

/-- The last character is a backslash that is neither quoted nor escaped. -/
def Text.DropsBackslash (line : Text) : Prop :=
  ∃ text, line = text ++ ['\\'] ∧ quoteAutomaton.eval text = .plain

/-- Only a backslash escapes, where nothing escapes it, and it leaves the mode as it is. -/
lemma QuoteState.eq_of_step_escaped {state : QuoteState} {c : Char} {quote : Option Char}
    (h : state.step c = ⟨quote, true⟩) : c = '\\' ∧ state = ⟨quote, false⟩ := by
  obtain ⟨mode, escaped⟩ := state
  cases escaped with
  | true => simp [step] at h
  | false =>
      by_cases hback : c = '\\'
      · simpa [step, hback] using h
      · cases mode <;> simp only [step, plain] at h <;> split_ifs at h <;> simp_all

lemma Text.dropsBackslash_iff (line : Text) :
    line.DropsBackslash ↔ quoteAutomaton.eval line = ⟨none, true⟩ := by
  constructor
  · rintro ⟨text, rfl, hplain⟩
    rw [DFA.eval_append_singleton, hplain]
    rfl
  · intro h
    rcases List.eq_nil_or_concat line with rfl | ⟨text, c, rfl⟩
    · cases h
    · rw [List.concat_eq_append] at h ⊢
      rw [DFA.eval_append_singleton, step_quoteAutomaton] at h
      obtain ⟨rfl, hplain⟩ := QuoteState.eq_of_step_escaped h
      exact ⟨text, rfl, hplain⟩

instance : DecidablePred Text.DropsBackslash := fun line =>
  decidable_of_iff _ line.dropsBackslash_iff.symm

variable {line : Text}

/-- Behind a well quoted line that drops no backslash the reader is outside quotes. -/
lemma after_eq_outside_of_not_dropsBackslash (hquote : (tokenize line).openQuote = none)
    (hdropped : ¬ line.DropsBackslash) : LexMode.after .outside line = .outside := by
  rw [Text.dropsBackslash_iff] at hdropped
  rw [openQuote_tokenize_eq] at hquote
  rw [after_eq_outside_iff]
  generalize quoteAutomaton.eval line = state at hquote hdropped
  obtain ⟨quote, escaped⟩ := state
  obtain rfl : quote = none := hquote
  cases escaped with
  | true => exact absurd rfl hdropped
  | false => rfl

/-- A separator behind a dropped backslash is part of the last word. -/
lemma tokenize_of_dropsBackslash (hquote : (tokenize line).openQuote = none)
    (hdropped : line.DropsBackslash) :
    tokenize (line ++ [' ']) ≠ (tokenize line).append (tokenize []) := by
  intro h
  have hmode : LexMode.after .outside line = .escaped := by
    refine (after_eq_outside_or_escaped (by rwa [← openQuote_tokenize])).resolve_left ?_
    rw [after_eq_outside_iff, (Text.dropsBackslash_iff line).1 hdropped]
    simp [QuoteState.plain]
  have hspaced : (tokenize (line ++ [' '])).openQuote = none := by rw [h]; rfl
  have htexts := flatMap_text_tokenize hspaced
  have hnothing : (tokenize []).tokens = [] := rfl
  rw [h, LexMode.meant_append, hmode, Lexed.append, hnothing, List.append_nil,
    flatMap_text_tokenize hquote] at htexts
  simp [LexMode.meant, LexMode.meantBy] at htexts

/-- **A gap cuts a line in two parts that are read apart.**  Behind a well quoted line each
separator does, whatever comes next, exactly if the line does not end in a dropped backslash: the
tokens are those of the line and those of the rest, and the rest decides about the quotes.  It does
not matter how many separators there are, or which. -/
theorem tokenize_cut_at_gap (hquote : (tokenize line).openQuote = none) :
    (¬ line.DropsBackslash ↔ ∀ separator, isSeparator separator = true → ∀ rest,
      tokenize (line ++ separator :: rest)
        = ⟨(tokenize line).tokens ++ (tokenize rest).tokens, (tokenize rest).openQuote⟩) ∧
    (¬ line.DropsBackslash → ∀ gap, gap ≠ [] → gap.all isSeparator = true → ∀ rest,
      tokenize (line ++ gap ++ rest)
        = ⟨(tokenize line).tokens ++ (tokenize rest).tokens, (tokenize rest).openQuote⟩) := by
  have hcut : ¬ line.DropsBackslash → ∀ separator, isSeparator separator = true → ∀ rest,
      tokenize (line ++ separator :: rest) = (tokenize line).append (tokenize rest) :=
    fun hdropped separator hsep rest => tokenize_append_separator
      (after_eq_outside_of_not_dropsBackslash hquote hdropped) hsep rest
  refine ⟨⟨hcut, fun hall hdropped => ?_⟩, fun hdropped gap hne hgap rest => ?_⟩
  · exact tokenize_of_dropsBackslash hquote hdropped (hall ' ' rfl [])
  · obtain ⟨separator, gap, rfl⟩ := List.exists_cons_of_ne_nil hne
    rw [List.all_cons, Bool.and_eq_true] at hgap
    have hrest : tokenize (gap ++ rest) = tokenize rest := scan_gap ⟨gap, hgap.2⟩ rest
    rw [List.append_assoc, List.cons_append, hcut hdropped separator hgap.1, hrest]
    rfl

/-- Before the gap an operator that ends the line and a word with an escaped backslash at its end,
behind it an open quote: `a'|'\\ ||`, then `\t()`, then `| "b`. -/
theorem tokenize_cut_at_gap_operators :
    (tokenize "a'|'\\\\ ||").openQuote = none ∧
      ¬ Text.DropsBackslash "a'|'\\\\ ||" ∧
      tokenize ("a'|'\\\\ ||" ++ "\t()" ++ "| \"b")
        = ⟨[.ofWord "a|\\", .ofOperator .orElse, .ofOperator .pipe], some '"'⟩ := by
  have hquote : (tokenize "a'|'\\\\ ||").openQuote = none := by decide
  have hdropped : ¬ Text.DropsBackslash "a'|'\\\\ ||" := by decide
  refine ⟨hquote, hdropped, ?_⟩
  exact (tokenize_cut_at_gap hquote).2 hdropped "\t()" (by decide) (by decide) "| \"b"

end PipedShell
