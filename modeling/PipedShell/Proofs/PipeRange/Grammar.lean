import Mathlib.Tactic.Common
import PipedShell.PipeRange

/-!
# The grammar of token lists

A list of ranges is written back as tokens by putting a pipe between the stages of a range and its
boundary in front of each range that has one.  This file says which lists of ranges are lines, and
that the parser is the inverse of writing them back.

* `PipeRange.WellFormed` — the ranges of a line: at least one, all but the first with a boundary,
  none without a stage, and every stage of a known command.
* `PipeRange.flatten` — the tokens of ranges; `Token.respelled` — a token without the accident of
  how its operator was written.
* `parse_sound`, `parse_flatten` — what the parser reads is a line and flattens to the tokens; what
  a line flattens to is read as the line.
* **`parse_eq_ok_iff`** — both, as an equivalence for all token lists.

A stage names a command before it has arguments, so there is no empty stage to be refused.
-/

namespace PipedShell

/-! ## Writing ranges back -/

/-- The token as it is usually written: an operator has the spelling of its kind. -/
def Token.respelled (token : Token) : Token :=
  if token.isOperator then .ofOperator token.kind else token

/-- The words of a stage. -/
def Stage.tokens (stage : Stage) : List Token := stage.words.map Token.ofWord

/-- The operator of a boundary. -/
def Boundary.token : Boundary → Token
  | andThen => .ofOperator .andThen
  | orElse => .ofOperator .orElse

lemma Checked.map_eq_ok_iff {α β : Type} {f : α → β} {checked : Checked α} {b : β} :
    (checked.map f).result = .ok b ↔ ∃ a, checked.result = .ok a ∧ f a = b := by
  cases hresult : checked.result <;> simp [Checked.map, hresult, Except.map]

namespace PipeRange

/-- The tokens of stages, with a pipe between neighbours. -/
def pipeTokens : List Stage → List Token
  | [] => []
  | [stage] => stage.tokens
  | stage :: stages => stage.tokens ++ .ofOperator .pipe :: pipeTokens stages

/-- The tokens of ranges, with its boundary in front of each range that has one. -/
def flatten (ranges : List PipeRange) : List Token :=
  ranges.flatMap fun range =>
    range.boundary.toList.map Boundary.token ++ pipeTokens range.stages

/-- The ranges of a line whose commands are known. -/
structure WellFormed (known : Text → Bool) (ranges : List PipeRange) : Prop where
  ne_nil : ranges ≠ []
  first : ∀ range ∈ ranges.head?, range.boundary = none
  later : ∀ range ∈ ranges.tail, range.boundary ≠ none
  stages : ∀ range ∈ ranges, range.stages ≠ []
  known : ∀ range ∈ ranges, ∀ stage ∈ range.stages, known stage.name = true

variable {known : Text → Bool} {stage : Stage} {ranges : List PipeRange}

/-! ## Putting stages in front -/

@[simp] lemma flatten_cons (range : PipeRange) (ranges : List PipeRange) :
    flatten (range :: ranges)
      = range.boundary.toList.map Boundary.token ++ pipeTokens range.stages ++ flatten ranges := by
  simp [flatten]

@[simp] lemma flatten_nil : flatten [] = [] := rfl

lemma pipeTokens_cons (stage : Stage) {stages : List Stage} (h : stages ≠ []) :
    pipeTokens (stage :: stages) = stage.tokens ++ .ofOperator .pipe :: pipeTokens stages := by
  cases stages with
  | nil => exact absurd rfl h
  | cons => rfl

/-- The ranges of a line begin with one that has no boundary and at least one stage. -/
lemma WellFormed.exists_cons (h : WellFormed known ranges) :
    ∃ range rest, ranges = range :: rest ∧ range.boundary = none ∧ range.stages ≠ [] := by
  cases ranges with
  | nil => exact absurd rfl h.ne_nil
  | cons range rest => exact ⟨range, rest, rfl, h.first range rfl, h.stages range (by simp)⟩

lemma wellFormed_single (hknown : known stage.name = true) :
    WellFormed known [⟨none, [stage]⟩] where
  ne_nil := by simp
  first := by simp
  later := by simp
  stages := by simp
  known := by simpa using hknown

lemma WellFormed.addStage (h : WellFormed known ranges) (hknown : known stage.name = true) :
    WellFormed known (addStage stage ranges) := by
  obtain ⟨range, rest, rfl, hfirst, -⟩ := h.exists_cons
  refine ⟨by simp [PipeRange.addStage], ?_, ?_, ?_, ?_⟩
  · simpa [PipeRange.addStage] using hfirst
  · exact h.later
  · intro other hmem
    rcases List.mem_cons.1 hmem with rfl | hmem
    · simp
    · exact h.stages other (List.mem_cons_of_mem _ hmem)
  · intro other hmem
    rcases List.mem_cons.1 hmem with rfl | hmem
    · have hrange := h.known range List.mem_cons_self
      simpa using ⟨hknown, hrange⟩
    · exact h.known other (List.mem_cons_of_mem _ hmem)

lemma WellFormed.addRange (h : WellFormed known ranges) (hknown : known stage.name = true)
    (boundary : Boundary) : WellFormed known (addRange stage boundary ranges) := by
  obtain ⟨range, rest, rfl, -, hstages⟩ := h.exists_cons
  have hlater : ∀ other ∈ rest, other.boundary ≠ none := h.later
  have hrange := h.known range List.mem_cons_self
  refine ⟨by simp [PipeRange.addRange], by simp [PipeRange.addRange], ?_, ?_, ?_⟩
  · simpa [PipeRange.addRange] using hlater
  · simpa [PipeRange.addRange, hstages] using
      fun other hmem => h.stages other (List.mem_cons_of_mem _ hmem)
  · simpa [PipeRange.addRange, hknown] using
      ⟨hrange, fun other hmem => h.known other (List.mem_cons_of_mem _ hmem)⟩

lemma flatten_addStage (h : WellFormed known ranges) :
    flatten (addStage stage ranges) = stage.tokens ++ .ofOperator .pipe :: flatten ranges := by
  obtain ⟨range, rest, rfl, hfirst, hstages⟩ := h.exists_cons
  simp [addStage, hfirst, pipeTokens_cons stage hstages]

lemma flatten_addRange (h : WellFormed known ranges) (boundary : Boundary) :
    flatten (addRange stage boundary ranges)
      = stage.tokens ++ boundary.token :: flatten ranges := by
  obtain ⟨range, rest, rfl, hfirst, -⟩ := h.exists_cons
  simp [addRange, hfirst, pipeTokens]

/-! ## What is read is a line -/

lemma tokens_addArg (stage : Stage) (text : Text) :
    (stage.addArg text).tokens = stage.tokens ++ [.ofWord text] := by
  simp [Stage.tokens, Stage.words, Stage.addArg]

/-- The ranges read from some tokens are a line, and they flatten to the tokens. -/
def ReadsBack (known : Text → Bool) (tokens : List Token) (ranges : List PipeRange) : Prop :=
  WellFormed known ranges ∧ flatten ranges = tokens.map Token.respelled

/-- Wherever the parser stands, what it reads is a line.  The two states of the parser call each
other, so the induction on the tokens is on both at once. -/
lemma readsBack (known : Text → Bool) (tokens : List Token) :
    (∀ operator ranges, (parseOpening known operator tokens).result = .ok ranges →
      ReadsBack known tokens ranges) ∧
    ∀ stage ranges, known stage.name = true →
      (parseInside known stage tokens).result = .ok ranges →
      ReadsBack known (stage.tokens ++ tokens) ranges := by
  have hwords : ∀ stage : Stage, stage.tokens.map Token.respelled = stage.tokens := by
    intro stage
    simp [Stage.tokens, Token.respelled, Token.ofWord, Token.isOperator, Token.Kind.isOperator]
  induction tokens with
  | nil =>
      constructor
      · intro operator ranges h
        cases operator <;> simp [parseOpening, Checked.fault] at h
      · intro stage ranges hknown h
        obtain rfl : [⟨none, [stage]⟩] = ranges := by simpa [parseInside] using h
        exact ⟨wellFormed_single hknown, by simp [pipeTokens, hwords]⟩
  | cons token tokens ih =>
      obtain ⟨hopening, hinside⟩ := ih
      constructor
      · intro operator ranges h
        simp only [parseOpening] at h
        split at h
        · next hkind =>
            split_ifs at h with hknown
            · have hword : token = .ofWord token.text := by rw [Token.ofWord, ← hkind]
              have hread := hinside ⟨token.text, []⟩ ranges hknown h
              rw [hword]
              exact hread
            · simp [Checked.after, Checked.fault] at h
        · simp [Checked.fault] at h
      · intro stage ranges hknown h
        simp only [parseInside] at h
        cases hkind : token.kind with
        | word =>
            simp only [hkind] at h
            have hword : token = .ofWord token.text := by rw [Token.ofWord, ← hkind]
            have hread := hinside (stage.addArg token.text) ranges hknown h
            rw [tokens_addArg, ← hword, List.append_assoc] at hread
            exact hread
        | pipe =>
            simp only [hkind] at h
            obtain ⟨rest, hrest, rfl⟩ := Checked.map_eq_ok_iff.1 h
            obtain ⟨hline, hflat⟩ := hopening _ rest hrest
            refine ⟨hline.addStage hknown, ?_⟩
            rw [flatten_addStage hline, hflat]
            simp [hwords, Token.respelled, Token.isOperator, Token.Kind.isOperator, hkind]
        | andThen | orElse =>
            simp only [hkind] at h
            obtain ⟨rest, hrest, rfl⟩ := Checked.map_eq_ok_iff.1 h
            obtain ⟨hline, hflat⟩ := hopening _ rest hrest
            refine ⟨hline.addRange hknown _, ?_⟩
            rw [flatten_addRange hline, hflat]
            simp [hwords, Token.respelled, Token.isOperator, Token.Kind.isOperator, hkind,
              Boundary.token]

lemma parse_sound {tokens : List Token} (h : (parse known tokens).result = .ok ranges) :
    WellFormed known ranges ∧ flatten ranges = tokens.map Token.respelled :=
  (readsBack known tokens).1 none ranges h

lemma parse_ne_nil {tokens : List Token} (h : (parse known tokens).result = .ok ranges) :
    ranges ≠ [] := (parse_sound h).1.ne_nil

/-! ## A line is read -/

lemma parseInside_words (known : Text → Bool) (stage : Stage) (args : List Text)
    (rest : List Token) :
    parseInside known stage (args.map Token.ofWord ++ rest)
      = parseInside known ⟨stage.name, stage.args ++ args⟩ rest := by
  induction args generalizing stage with
  | nil => simp
  | cons arg args ih => simp [parseInside, Token.ofWord, Stage.addArg, ih]

/-- The words of a stage of a known command are read as the stage. -/
lemma parseOpening_stage (hknown : known stage.name = true) (operator : Option Text)
    (rest : List Token) :
    (parseOpening known operator (stage.tokens ++ rest)).result
      = (parseInside known stage rest).result := by
  have hargs := parseInside_words known ⟨stage.name, []⟩ stage.args rest
  simp [Stage.tokens, Stage.words, parseOpening, Token.ofWord, hknown, Checked.after] at hargs ⊢
  rw [hargs]

/-- Stages with pipes between them are read as a range, if what follows them is read. -/
lemma parseOpening_pipeTokens {stages : List Stage} {tokens : List Token} (hstages : stages ≠ [])
    (hknown : ∀ stage ∈ stages, known stage.name = true)
    (hrest : ∀ stage, (parseInside known stage tokens).result = .ok (⟨none, [stage]⟩ :: ranges))
    (operator : Option Text) :
    (parseOpening known operator (pipeTokens stages ++ tokens)).result
      = .ok (⟨none, stages⟩ :: ranges) := by
  induction stages generalizing operator with
  | nil => exact absurd rfl hstages
  | cons stage stages ih =>
      have hstage := hknown stage List.mem_cons_self
      cases stages with
      | nil => rw [pipeTokens, parseOpening_stage hstage, hrest]
      | cons second stages =>
          have hlater := ih (by simp) (fun other hmem => hknown other (List.mem_cons_of_mem _ hmem))
          rw [pipeTokens_cons stage (by simp), List.append_assoc, parseOpening_stage hstage]
          simp only [List.cons_append, parseInside, Token.ofOperator]
          exact Checked.map_eq_ok_iff.2 ⟨_, hlater _, rfl⟩

/-- Ranges that all have a boundary are read on after any stage. -/
lemma parseInside_flatten (hlater : ∀ range ∈ ranges, range.boundary ≠ none)
    (hstages : ∀ range ∈ ranges, range.stages ≠ [])
    (hknown : ∀ range ∈ ranges, ∀ stage ∈ range.stages, known stage.name = true)
    (stage : Stage) :
    (parseInside known stage (flatten ranges)).result = .ok (⟨none, [stage]⟩ :: ranges) := by
  induction ranges generalizing stage with
  | nil => rfl
  | cons range ranges ih =>
      have hrest := ih (fun other hmem => hlater other (List.mem_cons_of_mem _ hmem))
        (fun other hmem => hstages other (List.mem_cons_of_mem _ hmem))
        (fun other hmem => hknown other (List.mem_cons_of_mem _ hmem))
      have hread := parseOpening_pipeTokens (hstages range List.mem_cons_self)
        (hknown range List.mem_cons_self) hrest
      obtain ⟨boundary, hboundary⟩ :=
        Option.ne_none_iff_exists'.1 (hlater range List.mem_cons_self)
      obtain ⟨_, stages⟩ := range
      subst hboundary
      rw [flatten_cons]
      cases boundary <;> exact Checked.map_eq_ok_iff.2 ⟨_, hread _, rfl⟩

/-- What a line flattens to is read as the line. -/
lemma parse_flatten (h : WellFormed known ranges) :
    (parse known (flatten ranges)).result = .ok ranges := by
  obtain ⟨range, rest, rfl, hfirst, hstages⟩ := h.exists_cons
  have hrest := parseInside_flatten h.later
    (fun other hmem => h.stages other (List.mem_cons_of_mem _ hmem))
    (fun other hmem => h.known other (List.mem_cons_of_mem _ hmem))
  have hread := parseOpening_pipeTokens hstages (h.known range List.mem_cons_self) hrest none
  obtain ⟨_, stages⟩ := range
  subst hfirst
  simpa [parse] using hread

/-- How an operator is written makes no difference to the ranges. -/
lemma parse_respelled (known : Text → Bool) (tokens : List Token) (ranges : List PipeRange) :
    (parse known (tokens.map Token.respelled)).result = .ok ranges ↔
      (parse known tokens).result = .ok ranges := by
  have hboth : (∀ operator operator' ranges,
      (parseOpening known operator (tokens.map Token.respelled)).result = .ok ranges ↔
        (parseOpening known operator' tokens).result = .ok ranges) ∧
      ∀ stage ranges,
        (parseInside known stage (tokens.map Token.respelled)).result = .ok ranges ↔
          (parseInside known stage tokens).result = .ok ranges := by
    induction tokens with
    | nil =>
        refine ⟨?_, fun stage ranges => Iff.rfl⟩
        intro operator operator' ranges
        cases operator <;> cases operator' <;> simp [parseOpening, Checked.fault]
    | cons token tokens ih =>
        obtain ⟨hopening, hinside⟩ := ih
        obtain ⟨kind, text⟩ := token
        constructor
        · intro operator operator' ranges
          cases kind with
          | word =>
              simp only [List.map_cons, Token.respelled, Token.isOperator, Token.Kind.isOperator,
                bne_self_eq_false, Bool.false_eq_true, if_false, parseOpening]
              split_ifs
              · exact hinside _ ranges
              · rfl
          | pipe | andThen | orElse =>
              simp [Token.respelled, Token.isOperator, Token.Kind.isOperator, Token.ofOperator,
                parseOpening, Checked.fault]
        · intro stage ranges
          cases kind with
          | word => exact hinside (stage.addArg text) ranges
          | pipe | andThen | orElse =>
              exact Checked.map_eq_ok_iff.trans
                ((exists_congr fun rest => and_congr_left' (hopening _ _ rest)).trans
                  Checked.map_eq_ok_iff.symm)
  exact hboth.1 none none ranges

/-- **The parser accepts exactly its grammar and loses nothing.**  A token list is read as some
ranges if and only if they are the ranges of a line and flatten to the token list, up to how its
operators are written.  In particular the flattening of ranges is read as these ranges if and only
if they are the ranges of a line. -/
theorem parse_eq_ok_iff (known : Text → Bool) :
    (∀ tokens ranges, (parse known tokens).result = .ok ranges ↔
      WellFormed known ranges ∧ flatten ranges = tokens.map Token.respelled) ∧
    ∀ ranges, (parse known (flatten ranges)).result = .ok ranges ↔ WellFormed known ranges := by
  constructor
  · intro tokens ranges
    constructor
    · exact parse_sound
    · rintro ⟨hline, hflat⟩
      have hread := parse_flatten hline
      rw [hflat] at hread
      exact (parse_respelled known tokens ranges).1 hread
  · intro ranges
    exact ⟨fun h => (parse_sound h).1, parse_flatten⟩

/-- A line of two ranges, the first one of two stages, with operators that are written otherwise. -/
example : (parse (fun name => name == "a" || name == "b")
    [.ofWord "a", .ofWord "x", ⟨.pipe, "pipe"⟩, .ofWord "b", ⟨.orElse, []⟩, .ofWord "a"]).result
      = .ok [⟨none, [⟨"a", ["x"]⟩, ⟨"b", []⟩]⟩, ⟨some .orElse, [⟨"a", []⟩]⟩] := by decide

end PipeRange

end PipedShell
