import PipedShell.Builtin
import PipedShell.Command.Completion
import PipedShell.Proofs.Token.Stages

/-!
# Completing in the stage that is being typed

What can complete a word depends on the stage that the word is going to belong to.  The reader of
lines finds that stage by its tokens, completion by looking for the last spelling of an operator,
quoted or not.  This file says what completion would offer if it went by the tokens, and exactly
when it offers that.

* `Registry.stageCandidates` — the ways to complete a text in the stage that the tokens make out.
* `Text.NamesStage` — what stands behind the last spelling of an operator is well quoted and names
  the same command as the last stage, or neither names one.
* `currentStage_of_words` — behind the last spelling the last stage begins, unless a word of it
  holds a further spelling.
* **`candidates_follow_stage`** — completion follows the tokens exactly behind the texts that name
  their stage, but for a command without a name, which it does not find.
* `quoted_operator_hides_command` — it does not behind a quoted `|`.
-/

namespace PipedShell

/-! ## What stands behind the last occurrence -/

namespace Text

variable {mark text : Text}

lemma afterLast?_eq_none_iff (hmark : mark ≠ []) :
    afterLast? mark text = none ↔ ¬ mark <:+: text := by
  induction text with
  | nil => simpa [afterLast?] using hmark
  | cons c text ih =>
      rw [afterLast?, List.infix_cons_iff]
      cases hlater : afterLast? mark text with
      | some found =>
          have hpiece : mark <:+: text := by
            by_contra hnone
            simp [ih.2 hnone] at hlater
          simp [hpiece]
      | none => simp [ih.1 hlater]

lemma afterLast_eq_self (h : ¬ mark <:+: text) : afterLast mark text = text := by
  have hmark : mark ≠ [] := by
    rintro rfl
    exact h (List.nil_infix)
  rw [afterLast, (afterLast?_eq_none_iff hmark).2 h, Option.getD_none]

lemma afterLast_suffix (mark text : Text) : afterLast mark text <:+ text := by
  have hfound : ∀ text found, afterLast? mark text = some found → found <:+ text := by
    intro text
    induction text with
    | nil => simp [afterLast?]
    | cons c text ih =>
        intro found hfound
        rw [afterLast?] at hfound
        split at hfound
        · next heq =>
            cases hfound
            exact (ih _ heq).trans (List.suffix_cons c text)
        · split_ifs at hfound
          cases hfound
          exact List.drop_suffix ..
  cases hlast : afterLast? mark text with
  | none => exact ⟨[], by rw [afterLast, hlast, Option.getD_none, List.nil_append]⟩
  | some found =>
      rw [afterLast, hlast, Option.getD_some]
      exact hfound text found hlast

/-- Nothing stands behind a mark at the end. -/
lemma afterLast_append_self (hmark : mark ≠ []) (text : Text) :
    afterLast mark (text ++ mark) = [] := by
  have hfound : afterLast? mark (text ++ mark) = some [] := by
    induction text with
    | nil =>
        cases mark with
        | nil => exact absurd rfl hmark
        | cons c rest =>
            have hshort : ¬ (c :: rest) <:+: rest := by
              intro hpiece
              have hlength := hpiece.length_le
              exact absurd hlength (Nat.not_succ_le_self rest.length)
            rw [List.nil_append, afterLast?, (afterLast?_eq_none_iff hmark).2 hshort]
            simp
    | cons c text ih => rw [List.cons_append, afterLast?, ih]
  rw [afterLast, hfound, Option.getD_some]

/-- A mark that begins in the first of two texts ends there if the second one does not begin with a
character of the mark. -/
lemma prefix_of_prefix_append {before stage : Text} (hapart : ∀ c ∈ stage.head?, c ∉ mark)
    (h : mark <+: before ++ stage) : mark <+: before := by
  rcases List.prefix_or_prefix_of_prefix h (List.prefix_append before stage) with
    hprefix | ⟨rest, rfl⟩
  · exact hprefix
  · have hrest : rest <+: stage := (List.prefix_append_right_inj before).1 h
    cases rest with
    | nil => simp
    | cons c rest =>
        obtain ⟨stage, rfl⟩ := hrest
        exact absurd (by simp) (hapart c rfl)

/-- The last occurrence is in the first of two texts if it cannot reach into the second one. -/
lemma afterLast_append {stage : Text} (hmark : mark ≠ [])
    (hapart : ∀ c ∈ stage.head?, c ∉ mark) (hnone : ¬ mark <:+: stage) (before : Text) :
    afterLast mark (before ++ stage) = afterLast mark before ++ stage := by
  have hfound : afterLast? mark (before ++ stage)
      = (afterLast? mark before).map (· ++ stage) := by
    induction before with
    | nil => exact (afterLast?_eq_none_iff hmark).2 hnone
    | cons c before ih =>
        have hprefix :
            mark.isPrefixOf (c :: (before ++ stage)) = mark.isPrefixOf (c :: before) := by
          rw [Bool.eq_iff_iff, List.isPrefixOf_iff_prefix, List.isPrefixOf_iff_prefix]
          constructor
          · exact @prefix_of_prefix_append mark (c :: before) stage hapart
          · intro h
            exact h.trans (List.prefix_append (c :: before) stage)
        rw [List.cons_append, afterLast?, afterLast?, ih, hprefix]
        cases hlater : afterLast? mark before with
        | some found => rfl
        | none =>
            simp only [Option.map_none]
            split_ifs with hstarts
            · have hlength := (List.isPrefixOf_iff_prefix.1 hstarts).length_le
              rw [Option.map_some, ← List.cons_append, List.drop_append_of_le_length hlength]
            · rfl
  rw [afterLast, afterLast, hfound]
  cases afterLast? mark before <;> rfl

end Text

/-! ## Where completion takes the stage to begin -/

lemma not_infix_of_not_mem {c : Char} {mark text : Text} (hmark : c ∈ mark) (h : c ∉ text) :
    ¬ mark <:+: text := fun hpiece => h (hpiece.subset hmark)

/-- Behind the last operator, a stage that shows no further one is all that is left. -/
lemma currentStage_append {stage : Text} (halone : standsAlone stage = true)
    (hplain : ¬ stage.ShowsOperator) (before : Text) :
    currentStage (before ++ stage) = currentStage before ++ stage := by
  obtain ⟨hbar, hand⟩ : '|' ∉ stage ∧ ¬ ['&', '&'] <:+: stage := not_or.1 hplain
  have hfirst : ∀ c ∈ stage.head?, c ≠ '|' ∧ c ≠ '&' := by
    intro c hc
    obtain ⟨rest, rfl⟩ := List.head?_eq_some_iff.1 hc
    have hsep : isSeparator c = true := halone
    constructor <;> rintro rfl <;> exact absurd hsep (by decide)
  have hbars : ∀ before, Text.afterLast ['|', '|'] (before ++ stage)
      = Text.afterLast ['|', '|'] before ++ stage :=
    Text.afterLast_append (by simp) (fun c hc => by simp [(hfirst c hc).1])
      (not_infix_of_not_mem (by simp) hbar)
  have hands : ∀ before, Text.afterLast ['&', '&'] (before ++ stage)
      = Text.afterLast ['&', '&'] before ++ stage :=
    Text.afterLast_append (by simp) (fun c hc => by simp [(hfirst c hc).2]) hand
  have hpipes : ∀ before, Text.afterLast ['|'] (before ++ stage)
      = Text.afterLast ['|'] before ++ stage :=
    Text.afterLast_append (by simp) (fun c hc => by simp [(hfirst c hc).1])
      (not_infix_of_not_mem (by simp) hbar)
  exact (congrArg _ (congrArg _ (hbars before))).trans
    ((congrArg _ (hands _)).trans (hpipes _))

/-- Directly behind an operator nothing has been typed of the next stage. -/
lemma currentStage_append_spelling {kind : Token.Kind} (hop : kind.isOperator = true)
    (before : Text) : currentStage (before ++ kind.spelling) = [] := by
  -- what the first two cuts leave still ends in the bar that the third one cuts at
  have hbar : ∀ before, currentStage (before ++ ['|']) = [] := by
    intro before
    have hsuffix := (Text.afterLast_suffix ['&', '&'] _).trans
      (Text.afterLast_suffix ['|', '|'] (before ++ ['|']))
    rcases List.suffix_concat_iff.1 hsuffix with hnil | ⟨rest, hrest, -⟩
    · exact congrArg (Text.afterLast ['|']) hnil
    · exact (congrArg (Text.afterLast ['|']) hrest).trans
        (Text.afterLast_append_self (by simp) rest)
  cases kind with
  | word => simp [Token.Kind.isOperator] at hop
  | pipe => exact hbar before
  | orElse => simpa [Token.Kind.spelling] using hbar (before ++ ['|'])
  | andThen =>
      have hbars : Text.afterLast ['|', '|'] (before ++ ['&', '&'])
          = Text.afterLast ['|', '|'] before ++ ['&', '&'] :=
        Text.afterLast_append (by simp) (by simp)
          (not_infix_of_not_mem (c := '|') (by simp) (by simp)) before
      have hands := @Text.afterLast_append_self ['&', '&'] (by simp)
        (Text.afterLast ['|', '|'] before)
      exact congrArg (Text.afterLast ['|']) ((congrArg _ hbars).trans hands)

lemma currentStage_eq_self {text : Text} (hplain : ¬ text.ShowsOperator) :
    currentStage text = text := by
  obtain ⟨hbar, hand⟩ : '|' ∉ text ∧ ¬ ['&', '&'] <:+: text := not_or.1 hplain
  have hbars : Text.afterLast ['|', '|'] text = text :=
    Text.afterLast_eq_self (not_infix_of_not_mem (by simp) hbar)
  have hands : Text.afterLast ['&', '&'] text = text := Text.afterLast_eq_self hand
  have hpipes : Text.afterLast ['|'] text = text :=
    Text.afterLast_eq_self (not_infix_of_not_mem (by simp) hbar)
  exact (congrArg _ ((congrArg _ hbars).trans hands)).trans hpipes

/-- **Behind the last spelling of an operator the last stage begins**, unless one of its words holds
a further spelling. -/
lemma currentStage_of_words {head : Text} (hquote : (tokenize head).openQuote = none)
    (hwords : ∀ token ∈ Token.lastStage (tokenize head).tokens, ¬ token.text.ShowsOperator) :
    tokenize (currentStage head) = ⟨Token.lastStage (tokenize head).tokens, none⟩ := by
  have hreads : Reads .outside none head (tokenize head) := reads_scan (by simp) none head
  rcases hreads.exists_lastStage with hone |
    ⟨before, kind, stage, rest, front, rfl, hop, halone, hstage, hrest, hlexed⟩
  · have hlast := Token.lastStage_of_words hone
    rw [hlast] at hwords ⊢
    have hplain : ¬ head.ShowsOperator := fun hshows =>
      let ⟨token, hmem, htoken⟩ := hreads.exists_showsOperator hquote hshows
      hwords token hmem htoken
    rw [currentStage_eq_self hplain, ← hquote]
  · rw [hlexed] at hquote hwords ⊢
    rw [Token.lastStage_append hop front hrest] at hwords ⊢
    have hplain : ¬ stage.ShowsOperator := fun hshows =>
      let ⟨token, hmem, htoken⟩ := hstage.exists_showsOperator hquote hshows
      hwords token hmem htoken
    rw [currentStage_append halone hplain, currentStage_append_spelling hop, List.nil_append]
    exact hstage.scan_eq.trans (by rw [← hquote])

/-! ## Completing in the last stage -/

/-- The ways to complete `text` in a stage: names of commands as long as it names none, otherwise
what the command of that name says, which is nothing when there is no such command. -/
def Registry.stageCandidates {β : Type} (text : Text) (name? : Option Text)
    (registry : Registry β) : List Text :=
  match name? with
  | none => registry.completions text
  | some name => ((registry.find? name).map (·.spec.matching text)).getD []

/-- What stands behind the last spelling of an operator is well quoted, and its first word is the
name of the command in the last stage; both have none, or it is the same one. -/
def Text.NamesStage (head : Text) : Prop :=
  ∃ words, wordsOfLine (currentStage head) = .ok words ∧
    words.head? = Token.stageName? (tokenize head).tokens

lemma lineBefore_append (head text : Text) : lineBefore (head ++ text) text = head := by
  cases text with
  | nil => simp [lineBefore]
  | cons c text =>
      have hends : (c :: text).isSuffixOf (head ++ c :: text) = true :=
        List.isSuffixOf_iff_suffix.2 (List.suffix_append head (c :: text))
      simp [lineBefore, hends]

lemma namesStage_of_words {head : Text} (hquote : (tokenize head).openQuote = none)
    (hwords : ∀ token ∈ Token.lastStage (tokenize head).tokens, ¬ token.text.ShowsOperator) :
    head.NamesStage := by
  refine ⟨(Token.lastStage (tokenize head).tokens).map Token.text, ?_, ?_⟩
  · rw [wordsOfLine, currentStage_of_words hquote hwords]
    rfl
  · rw [List.head?_map, Token.stageName?]

section Follows

variable {β : Type}

lemma candidatesAt_eq_stageCandidates (text : Text) {name? : Option Text} (registry : Registry β)
    (hname : name? = some [] → registry.contains [] = false) :
    registry.candidatesAt text name? = registry.stageCandidates text name? := by
  cases name? with
  | none => rfl
  | some name =>
      cases hfound : registry.find? name with
      | none => simp [Registry.candidatesAt, Registry.stageCandidates, hfound]
      | some entry =>
          have hempty : name ≠ [] := by
            rintro rfl
            have hsome := registry.isSome_find? []
            rw [hfound, hname rfl] at hsome
            simp at hsome
          simp [Registry.candidatesAt, Registry.stageCandidates, hfound, hempty]

/-- Completion looks only at the first word behind the last spelling of an operator. -/
lemma candidates_of_words {head : Text} {words : List Text}
    (h : wordsOfLine (currentStage head) = .ok words) (text : Text) (registry : Registry β) :
    registry.candidates (head ++ text) text = registry.candidatesAt text words.head? := by
  rw [Registry.candidates, lineBefore_append, h]
  cases words <;> rfl

/-- One command with one sub-command, of another name: completing nothing tells the place of a
command, an argument of this one, and an argument of any other command apart. -/
def Registry.probe (name : Text) : Registry β :=
  ⟨[⟨{ name, subcommands := [⟨'-' :: name, []⟩] }, none⟩]⟩

lemma stageCandidates_probe_none (name : Text) :
    (Registry.probe name : Registry β).stageCandidates [] none = [name] := by
  simp [Registry.stageCandidates, Registry.completions, Registry.names, Registry.probe,
    Text.sorted]

lemma stageCandidates_probe_some (name word : Text) :
    (Registry.probe name : Registry β).stageCandidates [] (some word)
      = if word = name then ['-' :: name] else [] := by
  by_cases h : word = name
  · simp [h, Registry.stageCandidates, Registry.find?, Registry.probe, Spec.matching, Text.sorted]
  · have hother : (name == word) = false := by simpa using fun heq => h heq.symm
    simp [h, hother, Registry.stageCandidates, Registry.find?, Registry.probe]

/-- The probe for a stage has something to complete there. -/
lemma stageCandidates_probe_ne_nil (name? : Option Text) :
    (Registry.probe (name?.getD []) : Registry β).stageCandidates [] name? ≠ [] := by
  cases name? with
  | none => simp [stageCandidates_probe_none]
  | some name => simp [stageCandidates_probe_some]

/-- The probe for a stage shows whether completion takes another place for that stage. -/
lemma eq_of_candidatesAt_probe {place name? : Option Text}
    (h : (Registry.probe (name?.getD []) : Registry β).candidatesAt [] place
      = (Registry.probe (name?.getD []) : Registry β).stageCandidates [] name?) :
    place = name? ∧ name? ≠ some [] := by
  have hsome := @stageCandidates_probe_ne_nil β name?
  by_cases hempty : place = some []
  · exact absurd (h.symm.trans (by rw [hempty]; rfl)) hsome
  · have hstage := candidatesAt_eq_stageCandidates [] (Registry.probe (name?.getD []) : Registry β)
      (fun hnil => absurd hnil hempty)
    rw [← h, hstage] at hsome
    rw [hstage] at h
    cases place with
    | none =>
        cases name? with
        | none => simp
        | some name => simp [stageCandidates_probe_none, stageCandidates_probe_some] at h
    | some word =>
        obtain rfl : word = name?.getD [] := by
          by_contra hother
          simp [stageCandidates_probe_some, hother] at hsome
        cases name? with
        | none => exact absurd rfl hempty
        | some name => exact ⟨rfl, hempty⟩

lemma namesStage_of_probe {head : Text} {name? : Option Text}
    (hname : name? = Token.stageName? (tokenize head).tokens)
    (h : (Registry.probe (name?.getD []) : Registry β).candidates (head ++ []) []
      = (Registry.probe (name?.getD []) : Registry β).stageCandidates [] name?) :
    head.NamesStage ∧ name? ≠ some [] := by
  cases hwords : wordsOfLine (currentStage head) with
  | error fault =>
      rw [Registry.candidates, lineBefore_append, hwords] at h
      exact absurd h.symm (stageCandidates_probe_ne_nil name?)
  | ok words =>
      rw [candidates_of_words hwords] at h
      obtain ⟨hplace, hempty⟩ := eq_of_candidatesAt_probe h
      exact ⟨⟨words, hwords, hplace.trans hname⟩, hempty⟩

/-- **Completion follows the tokens** of a well quoted text behind which a word is typed exactly if
the text names its stage, and the command there has a name.  It does so in particular if no word of
the last stage holds a spelling of an operator. -/
theorem candidates_follow_stage {head : Text} (hquote : (tokenize head).openQuote = none) :
    ((∀ token ∈ Token.lastStage (tokenize head).tokens, ¬ token.text.ShowsOperator) →
      head.NamesStage) ∧
    (head.NamesStage → ∀ (registry : Registry β) (text : Text),
      (Token.stageName? (tokenize head).tokens = some [] → registry.contains [] = false) →
        registry.candidates (head ++ text) text
          = registry.stageCandidates text (Token.stageName? (tokenize head).tokens)) ∧
    ((∀ (registry : Registry β) (text : Text), registry.candidates (head ++ text) text
        = registry.stageCandidates text (Token.stageName? (tokenize head).tokens)) →
      head.NamesStage ∧ Token.stageName? (tokenize head).tokens ≠ some []) := by
  refine ⟨namesStage_of_words hquote, ?_, ?_⟩
  · rintro ⟨words, hwords, hname⟩ registry text hempty
    rw [candidates_of_words hwords, hname]
    exact candidatesAt_eq_stageCandidates text registry hempty
  · intro hall
    exact namesStage_of_probe rfl (hall _ _)

end Follows

/-- An argument of `grep` that begins with a hyphen is completed to the forms of its option. -/
lemma stageCandidates_grep :
    Builtin.commands.stageCandidates "-" (some ("grep" : Text))
      = [("--ignore-case" : Text), ("-i" : Text)] := by
  let ignoreCase : CommandOption := ⟨"ignore-case", "i", "match case-insensitively"⟩
  let grep := Builtin.command "grep" "print input lines containing a pattern" Builtin.grep
  have hfound : Builtin.commands.find? "grep" = some (Builtin.withOption ignoreCase grep) := rfl
  have hoptions : (Builtin.withOption ignoreCase grep).spec.options = [ignoreCase] :=
    List.mergeSort_singleton ..
  have hforms : (Builtin.withOption ignoreCase grep).spec.matching "-"
      = [("--ignore-case" : Text), ("-i" : Text)] := by
    rw [Spec.matching, hoptions]
    exact List.mergeSort_of_pairwise (by decide)
  rw [Registry.stageCandidates, hfound]
  exact hforms

/-- Behind quoted words and an operator, the options of the command there are completed. -/
theorem candidates_follow_stage_grep :
    let head : Text := "echo 'x y' && grep \"a b\" "
    head.NamesStage ∧ Builtin.commands.candidates (head ++ "-") "-"
      = [("--ignore-case" : Text), ("-i" : Text)] := by
  have hquote : (tokenize "echo 'x y' && grep \"a b\" ").openQuote = none := by decide +kernel
  obtain ⟨hnames, hfollows, -⟩ := @candidates_follow_stage Body _ hquote
  have hnamed := hnames (by decide +kernel)
  refine ⟨hnamed, (hfollows hnamed Builtin.commands "-" (by decide +kernel)).trans ?_⟩
  exact stageCandidates_grep

/-- Behind a quoted `|` the stage is taken to begin within the quotes, where the command is lost,
although the text is well quoted, ends in a separator and has no operator token. -/
theorem quoted_operator_hides_command :
    let head : Text := "grep \"a|b\" "
    (tokenize head).openQuote = none ∧ head.getLast? = some ' ' ∧
      Token.stageName? (tokenize head).tokens = some ("grep" : Text) ∧
      Builtin.commands.stageCandidates "-" (some ("grep" : Text))
        = [("--ignore-case" : Text), ("-i" : Text)] ∧
      Builtin.commands.candidates (head ++ "-") "-" = [] :=
  ⟨by decide +kernel, by decide +kernel, by decide +kernel, stageCandidates_grep,
    by decide +kernel⟩

end PipedShell
