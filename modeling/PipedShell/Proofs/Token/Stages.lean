import Mathlib.Data.List.DropRight
import PipedShell.Proofs.Token.Quoting

/-!
# The stage at the end of a line

While a line is typed, the tokens behind its last operator are the stage that the next word is going
to belong to.  This file finds the place in the line where that stage begins, and says which
spellings of operators can still occur in it: those that its words hold.

* `Token.lastStage`, `Token.stageName?` — the tokens of the stage, and the command that it names if
  it names one yet.
* `Reads.exists_lastStage` — a line is one stage, or it has a last operator, which stands alone, and
  what stands behind it is read as the stage.
* `Text.ShowsOperator` — a spelling of an operator is a piece of a text.
* **`Reads.exists_showsOperator`** — if a line shows an operator, one of its tokens does.  Quoting
  and escaping may hide an operator from the reader, but then it is in a word.
-/

namespace PipedShell

namespace Token

/-- The tokens behind the last operator. -/
def lastStage (tokens : List Token) : List Token :=
  tokens.rtakeWhile fun token => !token.isOperator

/-- The command that the last stage names, none as long as it has no word. -/
def stageName? (tokens : List Token) : Option Text := (lastStage tokens).head?.map Token.text

lemma lastStage_of_words {tokens : List Token}
    (h : ∀ token ∈ tokens, token.isOperator = false) : lastStage tokens = tokens := by
  refine List.rtakeWhile_eq_self_iff.2 fun token hmem => ?_
  simp [h token hmem]

lemma lastStage_append {kind : Token.Kind} (hop : kind.isOperator = true) (tokens : List Token)
    {words : List Token} (h : ∀ token ∈ words, token.isOperator = false) :
    lastStage (tokens ++ .ofOperator kind :: words) = words := by
  have hall : ∀ token ∈ words.reverse, (!token.isOperator) = true := by
    intro token hmem
    simp [h token (List.mem_reverse.1 hmem)]
  have hstop : (!(Token.ofOperator kind).isOperator) = false := by
    simpa [Token.isOperator, Token.ofOperator] using hop
  rw [lastStage, List.rtakeWhile, List.reverse_append, List.reverse_cons, List.append_assoc,
    List.takeWhile_append_of_pos hall]
  simp [hstop]

end Token

/-! ## Where the last stage begins -/

/-- The reader has no other way than the rules. -/
lemma Reads.scan_eq {mode : LexMode} {word : Option Text} {text : Text} {lexed : Lexed}
    (h : Reads mode word text lexed) : scan mode word text = lexed := by
  induction h with
  | done hclosed => simp only [scan, hclosed]
  | leftOpen hopen => simp only [scan, hopen]
  | separator hsep _ ih => rw [scan_separator hsep, ih]
  | operator hop halone _ ih => rw [scan_operator hop halone, ih]
  | step hmode hnosep hnoop _ ih => rw [scan_step hmode hnosep hnoop, ih]

/-- A text is one stage, or it has a last operator.  The operator stands alone, and what stands
behind it is read as the rest of the tokens. -/
lemma Reads.exists_lastStage {mode : LexMode} {word : Option Text} {text : Text} {lexed : Lexed}
    (h : Reads mode word text lexed) :
    (∀ token ∈ lexed.tokens, token.isOperator = false) ∨
      ∃ before kind stage rest front, text = before ++ kind.spelling ++ stage ∧
        kind.isOperator = true ∧ standsAlone stage = true ∧ Reads .outside none stage rest ∧
        (∀ token ∈ rest.tokens, token.isOperator = false) ∧
        lexed = ⟨front ++ .ofOperator kind :: rest.tokens, rest.openQuote⟩ := by
  induction h with
  | @done mode word _ =>
      left
      cases word <;> simp [Lexed.consWord, Lexed.cons, Token.ofWord, Token.isOperator,
        Token.Kind.isOperator]
  | leftOpen _ => simp
  | @separator c text lexed word _ _ ih =>
      have hword : lexed.consWord word
          = ⟨word.toList.map (fun w => .ofWord w.reverse) ++ lexed.tokens, lexed.openQuote⟩ := by
        cases word <;> rfl
      rcases ih with hwords |
        ⟨before, kind, stage, rest, front, rfl, hop, halone, hrest, hwords, rfl⟩
      · left
        intro token hmem
        rw [hword, List.mem_append] at hmem
        rcases hmem with hmem | hmem
        · obtain ⟨w, -, rfl⟩ := List.mem_map.1 hmem
          rfl
        · exact hwords token hmem
      · right
        exact ⟨c :: before, kind, stage, rest, _ ++ front, rfl, hop, halone, hrest, hwords,
          by rw [hword, List.append_assoc]⟩
  | @operator kind text lexed hop halone hrest ih =>
      right
      rcases ih with hwords |
        ⟨before, last, stage, rest, front, rfl, hlast, hstage, hread, hwords, rfl⟩
      · exact ⟨[], kind, text, lexed, [], rfl, hop, halone, hrest, hwords, rfl⟩
      · exact ⟨kind.spelling ++ before, last, stage, rest, .ofOperator kind :: front, by simp,
          hlast, hstage, hread, hwords, rfl⟩
  | @step mode word c text lexed _ _ _ _ ih =>
      rcases ih with hwords |
        ⟨before, kind, stage, rest, front, rfl, hop, halone, hrest, hwords, rfl⟩
      · exact Or.inl hwords
      · exact Or.inr ⟨c :: before, kind, stage, rest, front, rfl, hop, halone, hrest, hwords, rfl⟩

/-! ## Operators that a text shows -/

/-- A spelling of an operator is a piece of the text, whatever it means there. -/
def Text.ShowsOperator (text : Text) : Prop := '|' ∈ text ∨ ['&', '&'] <:+: text

instance : DecidablePred Text.ShowsOperator := fun text =>
  inferInstanceAs (Decidable ('|' ∈ text ∨ ['&', '&'] <:+: text))

/-- Every mode lets a bar through. -/
lemma mem_meant_of_mem {mode : LexMode} (hmode : mode ≠ .inOperator) {text : Text}
    (h : '|' ∈ text) : '|' ∈ mode.meant text := by
  induction text generalizing mode with
  | nil => simp at h
  | cons c text ih =>
      rw [LexMode.meant, List.mem_append]
      rcases List.mem_cons.1 h with rfl | h
      · left
        cases mode with
        | inOperator => exact absurd rfl hmode
        | outside | escaped | single | singleEscaped | double | doubleEscaped => decide
      · exact Or.inr (ih (mode.step_ne_inOperator c) h)

/-- Every mode adds an ampersand to the word, and behind it the next one is added as it is. -/
lemma grow_ampersand {mode : LexMode} (hmode : mode ≠ .inOperator) (word : Option Text) :
    ((mode.grow word '&').getD []).head? = some '&' ∧
      (mode.step '&').meantBy '&' = ['&'] := by
  cases mode with
  | inOperator => exact absurd rfl hmode
  | outside | escaped | single | singleEscaped | double | doubleEscaped => exact ⟨rfl, rfl⟩

/-- Where the reader has a word begun and a text before it, `&&` is in the word, in the text, or
between the two.  Only behind a backslash between single quotes would the second `&` not follow the
first one in the word. -/
def PairsAmpersands (mode : LexMode) (word : Option Text) (text : Text) : Prop :=
  ['&', '&'] <:+: word.getD [] ∨
    ((word.getD []).head? = some '&' ∧ text.head? = some '&' ∧ mode.meantBy '&' = ['&']) ∨
    ['&', '&'] <:+: text

/-- One character further, `&&` is still in one of the three places. -/
lemma PairsAmpersands.step {mode : LexMode} (hmode : mode ≠ .inOperator) {word : Option Text}
    {c : Char} {text : Text} (h : PairsAmpersands mode word (c :: text)) :
    PairsAmpersands (mode.step c) (mode.grow word c) text := by
  have hkept : word.getD [] <:+ (mode.grow word c).getD [] := by
    simp only [LexMode.grow, growWord]
    split_ifs
    · exact List.suffix_rfl
    · exact List.suffix_append _ _
  have hgrown : c = '&' → mode.meantBy '&' = ['&'] →
      (mode.grow word c).getD [] = '&' :: word.getD [] := by
    rintro rfl hmeant
    have hmarks : mode.marks '&' = false := by cases mode <;> rfl
    simp [LexMode.grow, hmarks, hmeant, growWord]
  rcases h with hword | ⟨hlast, hfirst, hmeant⟩ | htext
  · exact Or.inl (hword.trans hkept.isInfix)
  · obtain rfl : c = '&' := by simpa using hfirst
    obtain ⟨word', hword⟩ : ∃ word', word.getD [] = '&' :: word' := by
      cases hw : word.getD [] with
      | nil => simp [hw] at hlast
      | cons d word' => exact ⟨word', by simpa [hw] using hlast⟩
    left
    rw [hgrown rfl hmeant, hword]
    exact ⟨[], word', rfl⟩
  · rcases List.infix_cons_iff.1 htext with hprefix | hpiece
    · obtain ⟨rfl, rest, rfl⟩ := List.cons_prefix_cons.1 hprefix
      obtain ⟨hlast, hmeant⟩ := grow_ampersand hmode word
      exact Or.inr (Or.inl ⟨hlast, rfl, hmeant⟩)
    · exact Or.inr (Or.inr hpiece)

lemma Reads.exists_ampersands {mode : LexMode} {word : Option Text} {text : Text} {lexed : Lexed}
    (h : Reads mode word text lexed) (hquote : lexed.openQuote = none)
    (hpairs : PairsAmpersands mode word text) :
    ∃ token ∈ lexed.tokens, ['&', '&'] <:+: token.text := by
  have hended : ∀ {word : Option Text} {lexed : Lexed}, ['&', '&'] <:+: word.getD [] →
      ∃ token ∈ (lexed.consWord word).tokens, ['&', '&'] <:+: token.text := by
    intro word lexed hword
    cases word with
    | none => simp at hword
    | some word =>
        exact ⟨.ofWord word.reverse, by simp [Lexed.consWord, Lexed.cons],
          List.reverse_infix.2 hword⟩
  induction h with
  | @done mode word _ =>
      rcases hpairs with hword | ⟨-, hfirst, -⟩ | htext
      · exact hended hword
      · simp at hfirst
      · simp at htext
  | leftOpen _ => simp at hquote
  | @separator c text lexed word hsep _ ih =>
      have hplain : c ≠ '&' := by
        rintro rfl
        exact absurd hsep (by decide)
      rcases hpairs with hword | ⟨-, hfirst, -⟩ | htext
      · exact hended hword
      · exact absurd (by simpa using hfirst) hplain
      · rcases List.infix_cons_iff.1 htext with hprefix | hpiece
        · exact absurd (List.cons_prefix_cons.1 hprefix).1.symm hplain
        · obtain ⟨token, hmem, htoken⟩ := ih (by simpa using hquote) (Or.inr (Or.inr hpiece))
          refine ⟨token, ?_, htoken⟩
          cases word with
          | none => exact hmem
          | some word => exact List.mem_cons_of_mem _ hmem
  | @operator kind text lexed hop _ _ ih =>
      rcases hpairs with hword | ⟨hlast, -, -⟩ | htext
      · simp at hword
      · simp at hlast
      · cases kind with
        | word => simp [Token.Kind.isOperator] at hop
        | andThen => exact ⟨.ofOperator .andThen, List.mem_cons_self, List.infix_rfl⟩
        | pipe | orElse =>
            have hrest : ['&', '&'] <:+: text := by
              simpa [Token.Kind.spelling, List.infix_cons_iff, List.cons_prefix_cons] using htext
            obtain ⟨token, hmem, htoken⟩ := ih hquote (Or.inr (Or.inr hrest))
            exact ⟨token, List.mem_cons_of_mem _ hmem, htoken⟩
  | step hmode _ _ _ ih => exact ih hquote (hpairs.step hmode)

/-- **A line that shows an operator has a token that does**, if no quote is left open: an operator
itself, or a word that it was quoted, escaped or glued into. -/
theorem Reads.exists_showsOperator {text : Text} {lexed : Lexed}
    (h : Reads .outside none text lexed) (hquote : lexed.openQuote = none)
    (hshows : text.ShowsOperator) : ∃ token ∈ lexed.tokens, token.text.ShowsOperator := by
  rcases hshows with hbar | hand
  · have hmeant : '|' ∈ LexMode.outside.meant text := mem_meant_of_mem (by simp) hbar
    have htext := h.text_eq hquote
    rw [Option.getD_none, List.reverse_nil, List.nil_append] at htext
    rw [← htext, List.mem_flatMap] at hmeant
    obtain ⟨token, hmem, htoken⟩ := hmeant
    exact ⟨token, hmem, Or.inl htoken⟩
  · obtain ⟨token, hmem, htoken⟩ := h.exists_ampersands hquote (Or.inr (Or.inr hand))
    exact ⟨token, hmem, Or.inr htoken⟩

end PipedShell
