import PipedShell.Proofs.Token.Quoting

/-!
# Where the operators of a line stand

The reader tells an operator by its mode, by whether it has a word begun, and by trying the
spellings in a certain order.  None of this is needed to say where the operators of a line are: they
are where one is spelled outside quotes, with nothing but separators next to it.

* `mayBegin` — whether a token may begin behind a text.
* `OperatorAt` — an operator stands alone at a place; `InOperator` says of a character that it
  belongs to one.
* `Arrives` — what the reader knows of the line before it: it has no word begun exactly where a
  token may begin, or behind an operator.
* `Lists` — tokens hold the operators of a line from a place on, in order.  `Reads.lists`: those
  that are read do.
* `HoldsUpTo` — a character is in a word, and this is in the tokens up to it.  `Reads.holdsUpTo`:
  each `|` or `&` of no operator is in a word.
* **`operators_stand_alone`** — the operators of a line are those that stand alone.
-/

namespace PipedShell

/-! ## Places -/

/-- A token may begin behind a text: the text is empty, or it ends in a separator that is neither
quoted nor escaped. -/
def mayBegin (before : Text) : Bool :=
  before.getLast?.all fun c => isSeparator c && LexMode.after .outside before.dropLast == .outside

/-- An operator stands alone at a place of a line. -/
structure OperatorAt (line : Text) (place : Nat) (kind : Token.Kind) : Prop where
  is_operator : kind.isOperator = true
  spelled : kind.spelling <+: line.drop place
  /-- It is neither quoted nor escaped. -/
  outside : LexMode.after .outside (line.take place) = .outside
  /-- The line begins here, or a separator comes before. -/
  begins : mayBegin (line.take place) = true
  /-- The line ends here, or a separator follows. -/
  ends : standsAlone (line.drop (place + kind.spelling.length)) = true

/-- The character at a place belongs to an operator that stands alone. -/
def InOperator (line : Text) (place : Nat) : Prop :=
  ∃ start kind, OperatorAt line start kind ∧ start ≤ place ∧ place < start + kind.spelling.length

instance (line : Text) (place : Nat) (kind : Token.Kind) : Decidable (OperatorAt line place kind) :=
  decidable_of_iff
    (kind.isOperator = true ∧ kind.spelling <+: line.drop place ∧
      LexMode.after .outside (line.take place) = .outside ∧ mayBegin (line.take place) = true ∧
      standsAlone (line.drop (place + kind.spelling.length)) = true)
    ⟨fun h => ⟨h.1, h.2.1, h.2.2.1, h.2.2.2.1, h.2.2.2.2⟩,
      fun h => ⟨h.is_operator, h.spelled, h.outside, h.begins, h.ends⟩⟩

instance (line : Text) (place : Nat) : Decidable (InOperator line place) :=
  decidable_of_iff
    (∃ start ≤ place, ∃ kind ∈ [Token.Kind.pipe, .andThen, .orElse],
      OperatorAt line start kind ∧ place < start + kind.spelling.length) <| by
    constructor
    · rintro ⟨start, hstart, kind, -, hat, hplace⟩
      exact ⟨start, kind, hat, hstart, hplace⟩
    · rintro ⟨start, kind, hat, hstart, hplace⟩
      refine ⟨start, hstart, kind, ?_, hat, hplace⟩
      have hop := hat.is_operator
      cases kind <;> simp_all [Token.Kind.isOperator]

variable {mode : LexMode} {word : Option Text} {text before : Text} {lexed : Lexed}
  {kind : Token.Kind}

lemma leadingOperator_spelling (hop : kind.isOperator = true) (halone : standsAlone text = true) :
    leadingOperator (kind.spelling ++ text) = some kind := by
  cases kind with
  | word => simp [Token.Kind.isOperator] at hop
  | andThen | orElse => simp [Token.Kind.spelling, leadingOperator, halone]
  | pipe =>
      cases text with
      | nil => rfl
      | cons c text =>
          have hc : isSeparator c = true := halone
          have hbar : c ≠ '|' := by
            rintro rfl
            exact absurd hc (by decide)
          simp [Token.Kind.spelling, leadingOperator_cons_cons, hbar, hc]

/-- Where the reader stands, an operator stands alone if one may begin and is found. -/
lemma operatorAt_append_iff :
    OperatorAt (before ++ text) before.length kind ↔
      LexMode.after .outside before = .outside ∧ mayBegin before = true ∧
        leadingOperator text = some kind := by
  have hdrop : ∀ n, (before ++ text).drop (before.length + n) = text.drop n := by simp
  constructor
  · rintro ⟨hop, hspelled, houtside, hbegins, hends⟩
    rw [List.take_left] at houtside hbegins
    rw [List.drop_left] at hspelled
    rw [hdrop] at hends
    obtain ⟨rest, rfl⟩ := hspelled
    rw [List.drop_left] at hends
    exact ⟨houtside, hbegins, leadingOperator_spelling hop hends⟩
  · rintro ⟨houtside, hbegins, hleading⟩
    obtain ⟨hop, rest, rfl, halone⟩ := leadingOperator_eq_some hleading
    refine ⟨hop, ?_, ?_, ?_, ?_⟩
    · rw [List.drop_left]
      exact List.prefix_append _ _
    · rwa [List.take_left]
    · rwa [List.take_left]
    · rwa [hdrop, List.drop_left]

/-- Nothing but a separator lets a token begin behind it. -/
lemma not_operatorAt_behind {c : Char} (hc : isSeparator c = false) :
    ¬ OperatorAt (before ++ c :: text) (before.length + 1) kind := by
  intro h
  have hbegins := h.begins
  have htake : (before ++ c :: text).take (before.length + 1) = before ++ [c] :=
    List.take_length_add_append 1
  simp [htake, mayBegin, hc] at hbegins

/-! ## What the reader knows -/

/-- The reader has come through `before` and stands in this mode, with a word begun or not. -/
structure Arrives (before : Text) (mode : LexMode) (word : Option Text) (text : Text) : Prop where
  mode_eq : LexMode.after .outside before = mode
  /-- Where a token may begin, none is begun. -/
  begun : mayBegin before = true → word = none
  /-- Where none is begun, a token may begin; behind an operator none does. -/
  fresh : mode = .outside → word = none → mayBegin before = true ∨ standsAlone text = true
  /-- A quote begins a word. -/
  quoting : mode.openQuote ≠ none → word ≠ none

namespace Arrives

lemma start (line : Text) : Arrives [] .outside none line where
  mode_eq := rfl
  begun := fun _ => rfl
  fresh := fun _ _ => Or.inl rfl
  quoting := by simp [LexMode.openQuote]

lemma separator {c : Char} (h : Arrives before .outside word (c :: text))
    (hsep : isSeparator c = true) : Arrives (before ++ [c]) .outside none text where
  mode_eq := by simp [LexMode.after_append, h.mode_eq, step_of_isSeparator hsep]
  begun := fun _ => rfl
  fresh := by
    intro _ _
    left
    simp [mayBegin, hsep, h.mode_eq]
  quoting := by simp [LexMode.openQuote]

lemma operator (h : Arrives before .outside none (kind.spelling ++ text))
    (halone : standsAlone text = true) : Arrives (before ++ kind.spelling) .outside none text where
  mode_eq := by rw [LexMode.after_append, h.mode_eq, after_spelling]
  begun := fun _ => rfl
  fresh := fun _ _ => Or.inr halone
  quoting := by simp [LexMode.openQuote]

/-- A character that is no separator begins a word, unless it is a backslash, which escapes the one
behind it. -/
lemma step {c : Char} (h : Arrives before mode word (c :: text))
    (hnosep : mode = .outside → isSeparator c = false) :
    Arrives (before ++ [c]) (mode.step c) (mode.grow word c) text := by
  have hgrown : mode.grow word c = none → mode.step c = .escaped := by
    intro hnone
    simp only [LexMode.grow, growWord] at hnone
    split_ifs at hnone with hmarks
    cases mode with
    | outside =>
        have hc : c = '\\' := by simpa [LexMode.marks] using hmarks
        simp [hc, LexMode.step]
    | single | double => exact absurd hnone (h.quoting (by simp [LexMode.openQuote]))
    | escaped | singleEscaped | doubleEscaped | inOperator => simp [LexMode.marks] at hmarks
  refine ⟨by simp [LexMode.after_append, h.mode_eq], ?_, ?_, ?_⟩
  · intro hbegins
    obtain ⟨hsep, houtside⟩ : isSeparator c = true ∧ mode = .outside := by
      simpa [mayBegin, h.mode_eq] using hbegins
    simp [hnosep houtside] at hsep
  · intro houtside hnone
    simp [hgrown hnone] at houtside
  · intro hquote hnone
    simp [hgrown hnone, LexMode.openQuote] at hquote

/-- A character that the reader does not take for the beginning of an operator is not one. -/
lemma not_operatorAt {c : Char} (h : Arrives before mode word (c :: text))
    (hnoop : mode = .outside → word = none → leadingOperator (c :: text) = none) :
    ¬ OperatorAt (before ++ c :: text) before.length kind := by
  intro hat
  obtain ⟨houtside, hbegins, hleading⟩ := operatorAt_append_iff.1 hat
  rw [hnoop (h.mode_eq ▸ houtside) (h.begun hbegins)] at hleading
  cases hleading

lemma not_operatorAt_separator {c : Char} (hsep : isSeparator c = true) :
    ¬ OperatorAt (before ++ c :: text) before.length kind := by
  intro hat
  obtain ⟨-, -, hleading⟩ := operatorAt_append_iff.1 hat
  have hplain : opensOperator c = false := by
    by_contra hopens
    simp only [opensOperator, Bool.not_eq_false, Bool.or_eq_true, beq_iff_eq] at hopens
    rcases hopens with rfl | rfl <;> exact absurd hsep (by decide)
  rw [leadingOperator_eq_none hplain] at hleading
  cases hleading

/-- An operator that the reader finds stands alone in the line. -/
lemma operatorAt (h : Arrives before .outside none (kind.spelling ++ text))
    (hop : kind.isOperator = true) (halone : standsAlone text = true) :
    OperatorAt (before ++ (kind.spelling ++ text)) before.length kind := by
  have hbegins : mayBegin before = true := by
    refine (h.fresh rfl rfl).resolve_right ?_
    cases kind with
    | word => simp [Token.Kind.isOperator] at hop
    | pipe | andThen | orElse => simp [Token.Kind.spelling, standsAlone, isSeparator, isLineSpace,
        isParenthesis]
  exact operatorAt_append_iff.2 ⟨h.mode_eq, hbegins, leadingOperator_spelling hop halone⟩

end Arrives

/-! ## The operators in order -/

/-- Tokens hold the operators that stand alone in a line from a place on, each once and in order. -/
def Lists (line : Text) (start : Nat) (tokens : List Token) : Prop :=
  ∃ occurrences : List (Nat × Token.Kind),
    occurrences.Pairwise (fun a b => a.1 < b.1) ∧
    (∀ place kind, (place, kind) ∈ occurrences ↔ start ≤ place ∧ OperatorAt line place kind) ∧
    tokens.filter Token.isOperator = occurrences.map fun occurrence => .ofOperator occurrence.2

namespace Lists

variable {line : Text} {start : Nat} {tokens : List Token}

lemma nil (line : Text) : Lists line line.length [] := by
  refine ⟨[], .nil, fun place kind => ?_, rfl⟩
  simp only [List.not_mem_nil, false_iff, not_and]
  intro hplace hat
  have hspelled := hat.spelled
  rw [List.drop_eq_nil_of_le hplace] at hspelled
  exact spelling_ne_nil kind (List.prefix_nil.1 hspelled)

/-- Where no operator stands, the search may go on one place further. -/
lemma skip (h : Lists line (start + 1) tokens) (hnone : ∀ kind, ¬ OperatorAt line start kind) :
    Lists line start tokens := by
  obtain ⟨occurrences, hsorted, hmem, htokens⟩ := h
  refine ⟨occurrences, hsorted, fun place kind => (hmem place kind).trans ?_, htokens⟩
  constructor
  · rintro ⟨hplace, hat⟩
    exact ⟨by omega, hat⟩
  · rintro ⟨hplace, hat⟩
    have hne : place ≠ start := by
      rintro rfl
      exact hnone kind hat
    exact ⟨by omega, hat⟩

lemma consWord (h : Lists line start lexed.tokens) (word : Option Text) :
    Lists line start (lexed.consWord word).tokens := by
  cases word with
  | none => exact h
  | some word => exact h

lemma cons (h : Lists line (start + 1) tokens) (hat : OperatorAt line start kind)
    (honly : ∀ other, OperatorAt line start other → other = kind) :
    Lists line start (.ofOperator kind :: tokens) := by
  obtain ⟨occurrences, hsorted, hmem, htokens⟩ := h
  refine ⟨(start, kind) :: occurrences, ?_, ?_, ?_⟩
  · refine List.pairwise_cons.2 ⟨fun occurrence hin => ?_, hsorted⟩
    exact ((hmem _ _).1 hin).1
  · intro place other
    rw [List.mem_cons, hmem, Prod.mk.injEq]
    constructor
    · rintro (⟨rfl, rfl⟩ | ⟨hplace, hother⟩)
      · exact ⟨Nat.le_refl _, hat⟩
      · exact ⟨by omega, hother⟩
    · rintro ⟨hplace, hother⟩
      rcases Nat.eq_or_lt_of_le hplace with rfl | hlater
      · exact Or.inl ⟨rfl, honly other hother⟩
      · exact Or.inr ⟨hlater, hother⟩
  · have hop : (Token.ofOperator kind).isOperator = true := hat.is_operator
    rw [List.filter_cons_of_pos hop, htokens]
    rfl

end Lists

/-- **The operators read are those that stand alone**, by induction on the rules of the reader. -/
lemma Reads.lists (h : Reads mode word text lexed) (harrives : Arrives before mode word text) :
    Lists (before ++ text) before.length lexed.tokens := by
  induction h generalizing before with
  | @done mode word _ =>
      rw [List.append_nil]
      exact @Lists.consWord ⟨[], none⟩ before _ (.nil before) word
  | leftOpen _ =>
      rw [List.append_nil]
      exact .nil before
  | @separator c text lexed word hsep _ ih =>
      have hrest := ih (harrives.separator hsep)
      rw [List.append_assoc, List.length_append] at hrest
      exact (hrest.skip fun kind => Arrives.not_operatorAt_separator hsep).consWord word
  | @operator kind text lexed hop halone _ ih =>
      have hat := harrives.operatorAt hop halone
      have hrest := ih (harrives.operator halone)
      rw [List.append_assoc, List.length_append] at hrest
      refine Lists.cons ?_ hat ?_
      · cases kind with
        | word => simp [Token.Kind.isOperator] at hop
        | pipe => exact hrest
        | andThen | orElse =>
            exact Lists.skip hrest fun kind => not_operatorAt_behind (by decide)
      · intro other hother
        have hboth := (operatorAt_append_iff.1 hat).2.2.symm.trans
          (operatorAt_append_iff.1 hother).2.2
        exact (Option.some.inj hboth).symm
  | @step mode word c text lexed _ hnosep hnoop _ ih =>
      have hrest := ih (harrives.step hnosep)
      rw [List.append_assoc, List.length_append] at hrest
      exact hrest.skip fun kind => harrives.not_operatorAt hnoop

/-! ## Characters of words -/

/-- A character is in a word, and the tokens up to it strung together are `text`. -/
def HoldsUpTo (tokens : List Token) (text : Text) (c : Char) : Prop :=
  ∃ front u v back, tokens = front ++ .ofWord (u ++ c :: v) :: back ∧
    front.flatMap Token.text ++ u ++ [c] = text

namespace HoldsUpTo

variable {tokens : List Token} {c : Char}

lemma cons (h : HoldsUpTo tokens text c) (token : Token) :
    HoldsUpTo (token :: tokens) (token.text ++ text) c := by
  obtain ⟨front, u, v, back, rfl, rfl⟩ := h
  exact ⟨token :: front, u, v, back, rfl, by simp⟩

lemma consWord (h : HoldsUpTo lexed.tokens text c) (word : Option Text) :
    HoldsUpTo (lexed.consWord word).tokens ((word.getD []).reverse ++ text) c := by
  cases word with
  | none => exact h
  | some word => exact h.cons _

end HoldsUpTo

/-- The word begun is the beginning of the next token. -/
lemma Reads.exists_head (h : Reads mode word text lexed) (hquote : lexed.openQuote = none)
    {begun : Text} (hword : word = some begun) :
    ∃ v back, lexed.tokens = .ofWord (begun.reverse ++ v) :: back := by
  induction h generalizing begun with
  | done _ =>
      subst hword
      exact ⟨[], [], by simp [Lexed.consWord, Lexed.cons]⟩
  | leftOpen _ => simp at hquote
  | @separator c text lexed word _ _ _ =>
      subst hword
      exact ⟨[], lexed.tokens, by simp [Lexed.consWord, Lexed.cons]⟩
  | operator _ _ _ => cases hword
  | @step mode word c text lexed _ _ _ _ ih =>
      subst hword
      by_cases hmarks : mode.marks c = true
      · exact ih hquote (by rw [LexMode.grow, if_pos hmarks])
      · obtain ⟨v, back, htokens⟩ := ih hquote (by rw [LexMode.grow, if_neg hmarks]; rfl)
        exact ⟨mode.meantBy c ++ v, back, by simpa using htokens⟩

/-- Every mode adds a bar or an ampersand to the word begun, as its last character so far. -/
lemma grow_bar_or_ampersand {c : Char} (hc : c = '|' ∨ c = '&') (hmode : mode ≠ .inOperator)
    (word : Option Text) : ∃ u, mode.grow word c = some (c :: u) := by
  cases mode with
  | inOperator => exact absurd rfl hmode
  | outside | escaped | single | singleEscaped | double | doubleEscaped =>
      rcases hc with rfl | rfl <;> exact ⟨_, rfl⟩

/-- **Every other bar or ampersand is in a word**, by induction on the rules of the reader: where
the character itself is read, the word begun holds it and will be the next token. -/
lemma Reads.holdsUpTo (h : Reads mode word text lexed) (hquote : lexed.openQuote = none)
    (harrives : Arrives before mode word text) {a b : Text} {c : Char} (hc : c = '|' ∨ c = '&')
    (htext : text = a ++ c :: b) (hother : ¬ InOperator (before ++ text) (before ++ a).length) :
    HoldsUpTo lexed.tokens ((word.getD []).reverse ++ mode.meant (a ++ [c])) c := by
  induction h generalizing before a with
  | done _ => simp at htext
  | leftOpen _ => simp at htext
  | @separator d text lexed word hsep _ ih =>
      cases a with
      | nil =>
          obtain ⟨rfl, -⟩ := List.cons.inj htext
          rcases hc with rfl | rfl <;> exact absurd hsep (by decide)
      | cons e a =>
          obtain ⟨rfl, rfl⟩ := List.cons.inj htext
          have hrest := ih (by simpa using hquote) (harrives.separator hsep) rfl
            (by simpa using hother)
          rw [List.cons_append, LexMode.meant, meantBy_of_isSeparator hsep,
            step_of_isSeparator hsep]
          exact hrest.consWord word
  | @operator kind text lexed hop halone _ ih =>
      have hat := harrives.operatorAt hop halone
      have hbehind : kind.spelling.length ≤ a.length := by
        by_contra hinside
        refine hother ⟨before.length, kind, hat, by simp, ?_⟩
        rw [List.length_append]
        omega
      obtain ⟨a, rfl⟩ : ∃ later, a = kind.spelling ++ later := by
        have hprefix := List.prefix_of_prefix_length_le
          (List.prefix_append kind.spelling text) (htext ▸ List.prefix_append a (c :: b)) hbehind
        exact hprefix.imp fun _ => Eq.symm
      rw [List.append_assoc, List.append_cancel_left_eq] at htext
      have hrest := ih hquote (harrives.operator halone) htext (by simpa using hother)
      rw [List.append_assoc, LexMode.meant_append, meant_spelling, after_spelling]
      exact hrest.cons (.ofOperator kind)
  | @step mode word d text lexed hmode hnosep _ hrest ih =>
      cases a with
      | nil =>
          obtain ⟨rfl, -⟩ := List.cons.inj htext
          obtain ⟨u, hu⟩ := grow_bar_or_ampersand hc hmode word
          obtain ⟨v, back, htokens⟩ := hrest.exists_head hquote hu
          refine ⟨[], u.reverse, v, back, by simpa using htokens, ?_⟩
          have hreverse := reverse_grow mode word d
          rw [hu] at hreverse
          simpa [LexMode.meant] using hreverse
      | cons e a =>
          obtain ⟨rfl, rfl⟩ := List.cons.inj htext
          have hlater := ih hquote (harrives.step hnosep) rfl (by simpa using hother)
          rw [reverse_grow, List.append_assoc] at hlater
          exact hlater

/-! ## Whole lines -/

/-- An operator that stands alone cuts a line in two parts that are read apart. -/
lemma tokenize_of_operatorAt {line : Text} {place : Nat} (h : OperatorAt line place kind) :
    (tokenize line).tokens = (tokenize (line.take place)).tokens
      ++ .ofOperator kind :: (tokenize (line.drop (place + kind.spelling.length))).tokens := by
  obtain ⟨hop, ⟨rest, hrest⟩, -, hbegins, hends⟩ := h
  have hdrop : line.drop (place + kind.spelling.length) = rest := by
    rw [← List.drop_drop, ← hrest, List.drop_left]
  rw [hdrop] at hends ⊢
  have hscan : tokenize (kind.spelling ++ rest) = (tokenize rest).cons (.ofOperator kind) :=
    scan_operator hop hends
  conv_lhs => rw [← List.take_append_drop place line, ← hrest]
  generalize line.take place = before at hbegins ⊢
  rcases List.eq_nil_or_concat before with rfl | ⟨text, separator, rfl⟩
  · rw [List.nil_append, hscan]
    rfl
  · rw [List.concat_eq_append] at hbegins ⊢
    obtain ⟨hsep, houtside⟩ : isSeparator separator = true ∧
        LexMode.after .outside text = .outside := by simpa [mayBegin] using hbegins
    rw [List.append_assoc, List.singleton_append, tokenize_append_separator houtside hsep,
      tokenize_append_separator houtside hsep, hscan]
    simp [Lexed.append, Lexed.cons, tokenize, scan, Lexed.consWord, LexMode.openQuote]

/-- **The operators of a line are those that stand alone.**  In a line that leaves no quote open,
the operators among the tokens are, one by one and in order, the places where `|`, `||` or `&&`
stands outside quotes and not behind a backslash, with the end of the line or a separator on either
side, and each has the kind of its spelling; what stands before it and behind it is read as if it
stood alone.  Every other `|` or `&` is in a word: the tokens up to it are what the line up to it
adds to them. -/
theorem operators_stand_alone {line : Text} (h : (tokenize line).openQuote = none) :
    (∃ occurrences : List (Nat × Token.Kind),
      occurrences.Pairwise (fun a b => a.1 < b.1) ∧
      (∀ place kind, (place, kind) ∈ occurrences ↔ OperatorAt line place kind) ∧
      (tokenize line).tokens.filter Token.isOperator
        = occurrences.map fun occurrence => .ofOperator occurrence.2) ∧
    (∀ place kind, OperatorAt line place kind →
      (tokenize line).tokens = (tokenize (line.take place)).tokens
        ++ .ofOperator kind :: (tokenize (line.drop (place + kind.spelling.length))).tokens) ∧
    ∀ before c after, line = before ++ c :: after → c = '|' ∨ c = '&' →
      ¬ InOperator line before.length →
      ∃ front u v back, (tokenize line).tokens = front ++ .ofWord (u ++ c :: v) :: back ∧
        front.flatMap Token.text ++ u ++ [c] = LexMode.meant .outside (before ++ [c]) := by
  have hreads : Reads .outside none line (tokenize line) := reads_scan (by simp) none line
  refine ⟨?_, fun place kind => tokenize_of_operatorAt, ?_⟩
  · obtain ⟨occurrences, hsorted, hmem, htokens⟩ := hreads.lists (.start line)
    exact ⟨occurrences, hsorted, by simpa using hmem, htokens⟩
  · intro before c after hline hc hother
    exact hreads.holdsUpTo h (.start line) hc hline hother

/-- A line with one operator, between parentheses, and with bars and ampersands that are glued into
a word, quoted, escaped, or no operator: `x|y "||"(&&)\\| &`. -/
def oneOperator : Text := "x|y \"||\"(&&)\\| &"

theorem operators_stand_alone_oneOperator :
    (tokenize oneOperator).openQuote = none ∧
      (tokenize oneOperator).tokens = (tokenize "x|y \"||\"(").tokens
        ++ .ofOperator .andThen :: (tokenize ")\\| &").tokens ∧
      ∃ front u v back, (tokenize oneOperator).tokens = front ++ .ofWord (u ++ '|' :: v) :: back ∧
        front.flatMap Token.text ++ u ++ ['|'] = "x|y||&&|" := by
  have hquote : (tokenize oneOperator).openQuote = none := by decide
  obtain ⟨-, hoperator, hword⟩ := operators_stand_alone hquote
  exact ⟨hquote, hoperator 9 .andThen (by decide),
    hword "x|y \"||\"(&&)\\" '|' " &" (by decide) (Or.inl rfl) (by decide)⟩

end PipedShell
