import Mathlib.Data.List.TakeWhile
import PipedShell.Proofs.Token.Quoting
import PipedShell.Text.Blank

/-!
# A line without the blanks at its ends

Blanks and separators are two sets: a no-break space is a blank that separates no words, a backspace
separates words and is no blank.  So a line may mean something else once the blanks at its ends are
dropped.  This file says exactly when it does not.

* `Text.leadingBlanks`, `Text.trailingBlanks` — what `Text.trim` drops.
* `Text.TrimsCleanly` — a quote is left open, or the blanks at both ends only separate: they are
  separators, and no backslash stands before those at the end.
* **`check_trim_eq_iff`** — the line is read as the same tokens without the blanks, or is ill quoted
  in the same way, exactly if it trims cleanly.
-/

namespace PipedShell

namespace Text

/-- The blanks before everything else. -/
def leadingBlanks (t : Text) : Text := t.takeWhile isBlank

/-- The blanks after everything else; a text of blanks only has none. -/
def trailingBlanks (t : Text) : Text := (t.trimLeft.reverse.takeWhile isBlank).reverse

lemma leadingBlanks_append (t : Text) :
    t.leadingBlanks ++ (t.trim ++ t.trailingBlanks) = t := by
  have hright : t.trim ++ t.trailingBlanks = t.trimLeft := by
    rw [trim, trimRight, trailingBlanks, ← List.reverse_append, List.takeWhile_append_dropWhile,
      List.reverse_reverse]
  rw [hright]
  exact List.takeWhile_append_dropWhile

lemma length_trim_le (t : Text) : t.trim.length ≤ t.length := by
  have h := congrArg List.length t.leadingBlanks_append
  simp only [List.length_append] at h
  omega

lemma isBlank_of_mem_leadingBlanks {t : Text} {c : Char} (h : c ∈ t.leadingBlanks) :
    isBlank c = true := List.mem_takeWhile_imp h

lemma isBlank_of_mem_trailingBlanks {t : Text} {c : Char} (h : c ∈ t.trailingBlanks) :
    isBlank c = true := List.mem_takeWhile_imp (List.mem_reverse.1 h)

/-- The blanks at both ends only separate words. -/
structure EndsSeparate (line : Text) : Prop where
  leading : line.leadingBlanks.all isSeparator = true
  trailing : line.trailingBlanks.all isSeparator = true
  not_escaped : line.trailingBlanks ≠ [] → LexMode.after .outside line.trim ≠ .escaped

instance : DecidablePred EndsSeparate := fun line =>
  decidable_of_iff
    (line.leadingBlanks.all isSeparator = true ∧ line.trailingBlanks.all isSeparator = true ∧
      (line.trailingBlanks ≠ [] → LexMode.after .outside line.trim ≠ .escaped))
    ⟨fun h => ⟨h.1, h.2.1, h.2.2⟩, fun h => ⟨h.leading, h.trailing, h.not_escaped⟩⟩

/-- The line means the same without the blanks at its ends. -/
def TrimsCleanly (line : Text) : Prop :=
  (LexMode.after .outside line.trim).openQuote ≠ none ∨ line.EndsSeparate

instance : DecidablePred TrimsCleanly := fun line =>
  inferInstanceAs (Decidable (_ ∨ line.EndsSeparate))

end Text

/-! ## Blanks in each mode -/

/-- A blank does not quote. -/
lemma isBlank.ne_quoting {c : Char} (h : isBlank c = true) : c ≠ '\\' ∧ c ≠ '\'' ∧ c ≠ '"' := by
  refine ⟨?_, ?_, ?_⟩ <;> rintro rfl <;> exact absurd h (by decide)

lemma after_blanks {blanks : Text} (h : ∀ c ∈ blanks, isBlank c = true) :
    LexMode.after .outside blanks = .outside := by
  induction blanks with
  | nil => rfl
  | cons c blanks ih =>
      have hc := isBlank.ne_quoting (h c (by simp))
      have hstep : LexMode.step .outside c = .outside := by simp [LexMode.step, hc]
      rw [LexMode.after_cons, hstep]
      exact ih fun d hd => h d (by simp [hd])

/-- Blanks close no quote. -/
lemma openQuote_after_blanks {blanks : Text} (h : ∀ c ∈ blanks, isBlank c = true)
    {mode : LexMode} (hmode : mode.openQuote ≠ none) :
    (mode.after blanks).openQuote = mode.openQuote := by
  induction blanks generalizing mode with
  | nil => rfl
  | cons c blanks ih =>
      have hc := isBlank.ne_quoting (h c (by simp))
      have hstep : (mode.step c).openQuote = mode.openQuote := by
        cases mode with
        | outside | escaped | inOperator => simp [LexMode.openQuote] at hmode
        | single | double => simp [LexMode.step, hc]
        | singleEscaped | doubleEscaped => rfl
      rw [LexMode.after_cons, ih (fun d hd => h d (by simp [hd])) (by rwa [hstep]), hstep]

/-- Outside quotes, a blank counts unless it separates. -/
lemma all_isSeparator_of_meant {blanks : Text} (h : ∀ c ∈ blanks, isBlank c = true)
    (hmeant : LexMode.meant .outside blanks = []) : blanks.all isSeparator = true := by
  induction blanks with
  | nil => rfl
  | cons c blanks ih =>
      have hc := isBlank.ne_quoting (h c (by simp))
      have hstep : LexMode.step .outside c = .outside := by simp [LexMode.step, hc]
      rw [LexMode.meant, hstep, List.append_eq_nil_iff] at hmeant
      have hsep : isSeparator c = true := by
        simpa [LexMode.meantBy, isPlain, hc] using hmeant.1
      simpa [hsep] using ih (fun d hd => h d (by simp [hd])) hmeant.2

lemma after_ne_inOperator {mode : LexMode} (hmode : mode ≠ .inOperator) (text : Text) :
    mode.after text ≠ .inOperator := by
  induction text generalizing mode with
  | nil => exact hmode
  | cons c text ih => exact ih (mode.step_ne_inOperator c)

/-- Where no quote is open, the reader stands outside or behind a backslash. -/
lemma after_eq_outside_or_escaped {text : Text}
    (h : (LexMode.after .outside text).openQuote = none) :
    LexMode.after .outside text = .outside ∨ LexMode.after .outside text = .escaped := by
  have houtside : LexMode.outside ≠ .inOperator := by simp
  have hne := after_ne_inOperator houtside text
  cases hmode : LexMode.after .outside text <;> simp_all [LexMode.openQuote]

/-! ## Whole lines -/

lemma openQuote_tokenize (line : Text) :
    (tokenize line).openQuote = (LexMode.after .outside line).openQuote :=
  (reads_scan (by simp) none line).openQuote_eq

lemma flatMap_text_tokenize {line : Text} (h : (tokenize line).openQuote = none) :
    (tokenize line).tokens.flatMap Token.text = LexMode.meant .outside line :=
  (reads_scan (by simp) none line).text_eq h

/-- The mode behind a line is the one behind its trimmed text and the blanks at its end. -/
lemma after_eq_after_trim (line : Text) :
    LexMode.after .outside line
      = (LexMode.after .outside line.trim).after line.trailingBlanks := by
  conv_lhs => rw [← line.leadingBlanks_append]
  rw [LexMode.after_append, after_blanks fun c hc => Text.isBlank_of_mem_leadingBlanks hc,
    LexMode.after_append]

/-- The verdict on the quotes and the tokens together say what was read. -/
lemma Lexed.eq_of_check_eq {lexed other : Lexed} (h : lexed.check = other.check)
    (hquote : lexed.openQuote = none) : lexed = other := by
  obtain ⟨tokens, openQuote⟩ := lexed
  obtain ⟨others, otherQuote⟩ := other
  subst hquote
  cases otherQuote with
  | none => simpa [Lexed.check] using h
  | some quote => simp [Lexed.check] at h

/-- Blanks that only separate can be dropped. -/
lemma tokenize_trim_of_endsSeparate {line : Text} (h : line.EndsSeparate)
    (hquote : (LexMode.after .outside line.trim).openQuote = none) :
    tokenize line.trim = tokenize line := by
  have hlead : tokenize line = tokenize (line.trim ++ line.trailingBlanks) := by
    conv_lhs => rw [← line.leadingBlanks_append]
    exact scan_gap ⟨line.leadingBlanks, h.leading⟩ _
  rw [hlead]
  cases htrail : line.trailingBlanks with
  | nil => rw [List.append_nil]
  | cons separator rest =>
      have hall := h.trailing
      rw [htrail, List.all_cons, Bool.and_eq_true] at hall
      have houtside : LexMode.after .outside line.trim = .outside :=
        (after_eq_outside_or_escaped hquote).resolve_right (h.not_escaped (by simp [htrail]))
      have hrest : tokenize rest = ⟨[], none⟩ := by
        have hgap := scan_gap ⟨rest, hall.2⟩ []
        rwa [List.append_nil] at hgap
      rw [tokenize_append_separator houtside hall.1, hrest]
      have hnone : (tokenize line.trim).openQuote = none := by rwa [openQuote_tokenize]
      simp only [Lexed.append, List.append_nil]
      rw [← hnone]

/-- What is meant by the blanks at the ends is missing in the trimmed line. -/
lemma meant_blanks_of_tokenize_eq {line : Text} (h : tokenize line.trim = tokenize line)
    (hquote : (tokenize line).openQuote = none) :
    LexMode.meant .outside line.leadingBlanks = [] ∧
      (LexMode.after .outside line.trim).meant line.trailingBlanks = [] := by
  have hlead := after_blanks fun c hc => line.isBlank_of_mem_leadingBlanks (c := c) hc
  have hmeant : LexMode.meant .outside line
      = LexMode.meant .outside line.leadingBlanks ++ (LexMode.meant .outside line.trim
        ++ (LexMode.after .outside line.trim).meant line.trailingBlanks) := by
    conv_lhs => rw [← line.leadingBlanks_append]
    rw [LexMode.meant_append, hlead, LexMode.meant_append]
  have htrim : (tokenize line.trim).openQuote = none := by rw [h, hquote]
  have hlength := congrArg List.length hmeant
  rw [← flatMap_text_tokenize hquote, ← h, flatMap_text_tokenize htrim, List.length_append,
    List.length_append] at hlength
  constructor <;> exact List.eq_nil_of_length_eq_zero (by omega)

/-- Blanks that can be dropped only separate. -/
lemma endsSeparate_of_tokenize_eq {line : Text} (h : tokenize line.trim = tokenize line)
    (hquote : (tokenize line).openQuote = none) : line.EndsSeparate := by
  obtain ⟨hleading, htrailing⟩ := meant_blanks_of_tokenize_eq h hquote
  have hleads := all_isSeparator_of_meant
    (fun c hc => line.isBlank_of_mem_leadingBlanks hc) hleading
  have hmode : (LexMode.after .outside line.trim).openQuote = none := by
    rw [← openQuote_tokenize, h, hquote]
  rcases after_eq_outside_or_escaped hmode with hmode | hmode
  · rw [hmode] at htrailing
    exact ⟨hleads, all_isSeparator_of_meant (fun c hc => line.isBlank_of_mem_trailingBlanks hc)
      htrailing, fun _ => by simp [hmode]⟩
  · -- behind a backslash the first blank would count
    have hnil : line.trailingBlanks = [] := by
      cases htrail : line.trailingBlanks with
      | nil => rfl
      | cons c rest => simp [htrail, hmode, LexMode.meant, LexMode.meantBy] at htrailing
    exact ⟨hleads, by rw [hnil]; rfl, fun hne => absurd hnil hne⟩

/-- **When the blanks at the ends of a line may be dropped.**  Reading the trimmed line comes to the
same tokens, or to the same open quote, exactly if the line trims cleanly. -/
theorem check_trim_eq_iff (line : Text) :
    (tokenize line.trim).check = (tokenize line).check ↔ line.TrimsCleanly := by
  by_cases hquote : (LexMode.after .outside line.trim).openQuote = none
  · have hiff : line.TrimsCleanly ↔ line.EndsSeparate := by simp [Text.TrimsCleanly, hquote]
    have htrim : (tokenize line.trim).openQuote = none := by rwa [openQuote_tokenize]
    rw [hiff]
    constructor
    · intro h
      have hsame := Lexed.eq_of_check_eq h htrim
      exact endsSeparate_of_tokenize_eq hsame (by rw [← hsame, htrim])
    · intro h
      rw [tokenize_trim_of_endsSeparate h hquote]
  · have hsame : (tokenize line.trim).openQuote = (tokenize line).openQuote := by
      rw [openQuote_tokenize, openQuote_tokenize, after_eq_after_trim line,
        openQuote_after_blanks (fun c hc => line.isBlank_of_mem_trailingBlanks hc) hquote]
    obtain ⟨quote, hopen⟩ := Option.ne_none_iff_exists'.1 hquote
    rw [← openQuote_tokenize] at hopen
    refine ⟨fun _ => Or.inl hquote, fun _ => ?_⟩
    rw [Lexed.check, Lexed.check, ← hsame, hopen]

end PipedShell
