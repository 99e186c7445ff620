import Mathlib.Tactic.Common
import PipedShell.PipeRange

/-!
# The first fault of a token list

A stage has to open at the start of a line and behind each operator.  A token list is at fault where
a stage has to open and an operator or an unknown name stands instead, or where the line ends.  This
file says so of each token by looking at the one before it, and that the parser goes by the leftmost
of these places.

* `PipeRange.Placed` — a token with the one before it; `PipeRange.placed` lists those of a line.
* `Placed.isFault`, `Placed.fault` — what is wrong at a place; `Placed.opening?` — the name that
  opens a stage there.
* `PipeRange.BreaksAt` — the leftmost fault of some places.
* `parse_of_breaksAt`, `parse_of_sound` — the parser on tokens with a fault and without one.
* **`parse_first_fault`** — what is reported, and which names are looked up before.
-/

namespace PipedShell

namespace PipeRange

/-! ## Tokens in their places -/

/-- A token with the one before it, which the first one of a line does not have. -/
structure Placed where
  previous : Option Token
  token : Token
  deriving DecidableEq, Repr

/-- Each token with the one before it, `previous` being the one before them all. -/
def placed (previous : Option Token) : List Token → List Placed
  | [] => []
  | token :: tokens => ⟨previous, token⟩ :: placed (some token) tokens

/-- A stage has to open behind this token: it is an operator, or there is none. -/
def opensBehind (previous : Option Token) : Bool := previous.all Token.isOperator

namespace Placed

/-- The word that stands where a stage has to open. -/
def opening? (place : Placed) : Option Text :=
  if opensBehind place.previous && !place.token.isOperator then some place.token.text else none

/-- A stage has to open here, but here is an operator or a name that is not known. -/
def isFault (known : Text → Bool) (place : Placed) : Bool :=
  opensBehind place.previous && (place.token.isOperator || !known place.token.text)

/-- What is wrong at a place where no stage opens. -/
def fault (place : Placed) : LineFault :=
  if place.token.isOperator then .missingBefore place.token.text
  else .unknownCommand place.token.text

end Placed

variable {known : Text → Bool} {token : Token} {tokens : List Token}

/-! ## One token -/

lemma kind_of_not_isOperator (h : token.isOperator = false) : token.kind = .word := by
  simpa [Token.isOperator, Token.Kind.isOperator] using h

lemma parseOpening_operator (h : token.isOperator = true) (operator : Option Text)
    (tokens : List Token) :
    parseOpening known operator (token :: tokens) = .fault (.missingBefore token.text) := by
  obtain ⟨kind, text⟩ := token
  cases kind with
  | word => simp [Token.isOperator, Token.Kind.isOperator] at h
  | pipe | andThen | orElse => rfl

lemma parseOpening_word (h : token.isOperator = false) (operator : Option Text)
    (tokens : List Token) :
    parseOpening known operator (token :: tokens)
      = if known token.text then (parseInside known ⟨token.text, []⟩ tokens).after token.text
        else (Checked.fault (.unknownCommand token.text)).after token.text := by
  simp only [parseOpening, kind_of_not_isOperator h]

lemma parseInside_word (h : token.isOperator = false) (stage : Stage) (tokens : List Token) :
    parseInside known stage (token :: tokens)
      = parseInside known (stage.addArg token.text) tokens := by
  simp only [parseInside, kind_of_not_isOperator h]

/-- Behind an operator a stage has to open; what is read there is only put together with the stage
before. -/
lemma parseInside_operator (known : Text → Bool) (h : token.isOperator = true) (stage : Stage)
    (tokens : List Token) :
    ∃ join, parseInside known stage (token :: tokens)
      = (parseOpening known (some token.text) tokens).map join := by
  obtain ⟨kind, text⟩ := token
  cases kind with
  | word => simp [Token.isOperator, Token.Kind.isOperator] at h
  | pipe | andThen | orElse => exact ⟨_, rfl⟩

/-! ## The leftmost fault -/

/-- The leftmost fault of some places is at `place`, behind those of `before`. -/
structure BreaksAt (known : Text → Bool) (places before : List Placed) (place : Placed) : Prop where
  comes_first : before ++ [place] <+: places
  sound : ∀ earlier ∈ before, earlier.isFault known = false
  is_fault : place.isFault known = true

lemma BreaksAt.cons {first place : Placed} {places before : List Placed}
    (h : BreaksAt known (first :: places) before place) :
    (before = [] ∧ place = first) ∨
      ∃ rest, before = first :: rest ∧ first.isFault known = false ∧
        BreaksAt known places rest place := by
  obtain ⟨hfirst, hsound, hfault⟩ := h
  cases before with
  | nil =>
      left
      exact ⟨rfl, (List.cons_prefix_cons.1 hfirst).1⟩
  | cons earlier rest =>
      right
      obtain ⟨rfl, hrest⟩ := List.cons_prefix_cons.1 hfirst
      obtain ⟨hearlier, hlater⟩ := List.forall_mem_cons.1 hsound
      exact ⟨rest, rfl, hearlier, hrest, hlater, hfault⟩

/-- What the parser comes to when it stops at a place: the names looked up are those that open the
stages up to there. -/
def stopped (before : List Placed) (place : Placed) : Checked (List PipeRange) :=
  ⟨(before ++ [place]).filterMap Placed.opening?, .error place.fault⟩

/-- **The parser stops at the leftmost fault.**  Its two states call each other, so the induction on
the tokens is on both at once; which state it is in follows from the token before. -/
lemma parse_of_breaksAt (known : Text → Bool) (tokens : List Token) :
    (∀ operator previous before place, opensBehind previous = true →
      BreaksAt known (placed previous tokens) before place →
      parseOpening known operator tokens = stopped before place) ∧
    ∀ stage previous before place, opensBehind previous = false →
      BreaksAt known (placed previous tokens) before place →
      parseInside known stage tokens = stopped before place := by
  induction tokens with
  | nil => constructor <;> intro _ _ _ _ _ h <;> simpa [placed] using h.comes_first
  | cons token tokens ih =>
      obtain ⟨hopening, hinside⟩ := ih
      constructor
      · intro operator previous before place hopens h
        rcases h.cons with ⟨rfl, rfl⟩ | ⟨rest, rfl, hsound, hrest⟩
        · cases hop : token.isOperator with
          | true =>
              rw [parseOpening_operator hop]
              simp [stopped, Placed.opening?, Placed.fault, hop, Checked.fault]
          | false =>
              have hunknown : known token.text = false := by
                simpa [Placed.isFault, hopens, hop] using h.is_fault
              rw [parseOpening_word hop, hunknown]
              simp [stopped, Placed.opening?, Placed.fault, hopens, hop, Checked.fault,
                Checked.after]
        · obtain ⟨hop, hknown⟩ : token.isOperator = false ∧ known token.text = true := by
            simpa [Placed.isFault, hopens] using hsound
          rw [parseOpening_word hop, hknown, if_pos rfl,
            hinside _ (some token) rest place (by simp [opensBehind, hop]) hrest]
          simp [stopped, Placed.opening?, hopens, hop, Checked.after]
      · intro stage previous before place hopens h
        rcases h.cons with ⟨rfl, rfl⟩ | ⟨rest, rfl, -, hrest⟩
        · have hfault := h.is_fault
          simp [Placed.isFault, hopens] at hfault
        · have hnone : Placed.opening? ⟨previous, token⟩ = none := by
            simp [Placed.opening?, hopens]
          cases hop : token.isOperator with
          | true =>
              obtain ⟨join, hjoin⟩ := parseInside_operator known hop stage tokens
              rw [hjoin, hopening _ (some token) rest place (by simp [opensBehind, hop]) hrest]
              simp [stopped, hnone, Checked.map, Except.map]
          | false =>
              rw [parseInside_word hop,
                hinside _ (some token) rest place (by simp [opensBehind, hop]) hrest]
              simp [stopped, hnone]

/-! ## Without a fault -/

/-- What the parser comes to when no place is at fault: all names that open a stage are looked up,
and the last token decides. -/
structure ReadsThrough (places : List Placed) (last : Option Token)
    (checked : Checked (List PipeRange)) : Prop where
  names : checked.names = places.filterMap Placed.opening?
  dangles : ∀ token, last = some token → token.isOperator = true →
    checked.result = .error (.missingAfter token.text)
  reads : ∀ token, last = some token → token.isOperator = false →
    ∃ ranges, checked.result = .ok ranges

namespace ReadsThrough

variable {places : List Placed} {last : Option Token} {checked : Checked (List PipeRange)}

lemma cons_opening {place : Placed} {name : Text} (h : ReadsThrough places last checked)
    (hplace : place.opening? = some name) :
    ReadsThrough (place :: places) last (checked.after name) where
  names := by simp [Checked.after, h.names, hplace]
  dangles := h.dangles
  reads := h.reads

lemma cons {place : Placed} (h : ReadsThrough places last checked)
    (hplace : place.opening? = none) : ReadsThrough (place :: places) last checked where
  names := by simp [h.names, hplace]
  dangles := h.dangles
  reads := h.reads

lemma map (h : ReadsThrough places last checked) (join : List PipeRange → List PipeRange) :
    ReadsThrough places last (checked.map join) where
  names := h.names
  dangles := by
    intro token hlast hop
    simp [Checked.map, h.dangles token hlast hop, Except.map]
  reads := by
    intro token hlast hop
    obtain ⟨ranges, hranges⟩ := h.reads token hlast hop
    exact ⟨join ranges, by simp [Checked.map, hranges, Except.map]⟩

end ReadsThrough

lemma getLast?_or_cons (token : Token) (tokens : List Token) (previous : Option Token) :
    (token :: tokens).getLast?.or previous = tokens.getLast?.or (some token) := by
  cases tokens with
  | nil => rfl
  | cons second tokens => simp [List.getLast?_cons]

/-- **Without a fault the parser reads all tokens**, by induction on them in both states. -/
lemma parse_of_sound (known : Text → Bool) (tokens : List Token) :
    (∀ previous, opensBehind previous = true →
      (∀ place ∈ placed previous tokens, place.isFault known = false) →
      ReadsThrough (placed previous tokens) (tokens.getLast?.or previous)
        (parseOpening known (previous.map Token.text) tokens)) ∧
    ∀ stage previous, opensBehind previous = false →
      (∀ place ∈ placed previous tokens, place.isFault known = false) →
      ReadsThrough (placed previous tokens) (tokens.getLast?.or previous)
        (parseInside known stage tokens) := by
  induction tokens with
  | nil =>
      constructor
      · intro previous hopens _
        refine ⟨by cases previous <;> rfl, ?_, ?_⟩
        · rintro token rfl _
          rfl
        · rintro token rfl hop
          simp [opensBehind, hop] at hopens
      · intro stage previous hopens _
        refine ⟨rfl, ?_, fun _ _ _ => ⟨_, rfl⟩⟩
        rintro token rfl hop
        simp [opensBehind, hop] at hopens
  | cons token tokens ih =>
      obtain ⟨hopening, hinside⟩ := ih
      constructor
      · intro previous hopens hsound
        obtain ⟨hfirst, hlater⟩ := List.forall_mem_cons.1 hsound
        obtain ⟨hop, hknown⟩ : token.isOperator = false ∧ known token.text = true := by
          simpa [Placed.isFault, hopens] using hfirst
        rw [parseOpening_word hop, hknown, if_pos rfl, getLast?_or_cons]
        refine (hinside _ (some token) (by simp [opensBehind, hop]) hlater).cons_opening ?_
        simp [Placed.opening?, hopens, hop]
      · intro stage previous hopens hsound
        obtain ⟨-, hlater⟩ := List.forall_mem_cons.1 hsound
        have hnone : Placed.opening? ⟨previous, token⟩ = none := by
          simp [Placed.opening?, hopens]
        rw [getLast?_or_cons]
        cases hop : token.isOperator with
        | true =>
            obtain ⟨join, hjoin⟩ := parseInside_operator known hop stage tokens
            rw [hjoin]
            exact ((hopening (some token) (by simp [opensBehind, hop]) hlater).map join).cons hnone
        | false =>
            rw [parseInside_word hop]
            exact (hinside _ (some token) (by simp [opensBehind, hop]) hlater).cons hnone

/-! ## Whole token lists -/

/-- **The parser reports the first fault and looks no further.**  If somewhere a stage has to open
and an operator or an unknown name stands instead, the leftmost such place is reported: the operator
as missing a command before it, the name as unknown.  Otherwise a last operator is reported as
missing a command behind it, and a line that ends with a word is read.  The names looked up are
those that open stages, each once and in order, up to the fault. -/
theorem parse_first_fault (known : Text → Bool) {tokens : List Token} (h : tokens ≠ []) :
    (∀ before place, before ++ [place] <+: placed none tokens →
      (∀ earlier ∈ before, earlier.isFault known = false) → place.isFault known = true →
      (parse known tokens).result = .error place.fault ∧
        (parse known tokens).names = (before ++ [place]).filterMap Placed.opening?) ∧
    ((∀ place ∈ placed none tokens, place.isFault known = false) →
      (parse known tokens).names = (placed none tokens).filterMap Placed.opening? ∧
        (((tokens.getLast h).isOperator = true ∧
            (parse known tokens).result = .error (.missingAfter (tokens.getLast h).text)) ∨
          ((tokens.getLast h).isOperator = false ∧
            ∃ ranges, (parse known tokens).result = .ok ranges))) := by
  constructor
  · intro before place hfirst hsound hfault
    have hstop := (parse_of_breaksAt known tokens).1 none none before place rfl
      ⟨hfirst, hsound, hfault⟩
    rw [parse, hstop]
    exact ⟨rfl, rfl⟩
  · intro hsound
    have hthrough := (parse_of_sound known tokens).1 none rfl hsound
    have hlast : tokens.getLast?.or none = some (tokens.getLast h) := by
      rw [Option.or_none, List.getLast?_eq_some_getLast h]
    refine ⟨hthrough.names, ?_⟩
    cases hop : (tokens.getLast h).isOperator with
    | true => exact Or.inl ⟨rfl, hthrough.dangles _ hlast hop⟩
    | false => exact Or.inr ⟨rfl, hthrough.reads _ hlast hop⟩

/-- In `a x | b || | c &&` an operator stands where a stage has to open, behind it an unknown name,
and nothing at the end. -/
def threeFaults : List Token :=
  [.ofWord "a", .ofWord "x", .ofOperator .pipe, .ofWord "b", .ofOperator .orElse, .ofOperator .pipe,
    .ofWord "c", .ofOperator .andThen]

theorem parse_first_fault_threeFaults :
    let known : Text → Bool := fun name => name == "a" || name == "b"
    threeFaults ≠ [] ∧
      (parse known threeFaults).result = .error (.missingBefore "|") ∧
      (parse known threeFaults).names = [("a" : Text), "b"] := by
  intro known
  have hne : threeFaults ≠ [] := by decide
  have hstop := (parse_first_fault known hne).1 ((placed none threeFaults).take 5)
    ⟨some (.ofOperator .orElse), .ofOperator .pipe⟩ (by decide) (by decide) (by decide)
  exact ⟨hne, hstop⟩

end PipeRange

end PipedShell
