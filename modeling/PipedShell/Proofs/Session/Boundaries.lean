import PipedShell.Proofs.PipeRange.Grammar
import PipedShell.Session.Execution

/-!
# Ranges joined by their boundaries

The ranges of a line are run from left to right, and each leaves a session to the next one.  So
what a range comes to depends on which ranges ran before it, and with skipping that depends on what
those came to.  This file says it without a running result: the ranges come one after another as
*legs*, and the value of the legs so far decides whether the next range runs.

* `Leg` — a range that came to its turn, run or skipped; `succeeded` is the value of legs, with `&&`
  and `||` taken from left to right and binding alike.
* `Spares` — a value for which a range may be skipped; `Leg.Obeys` — a leg is skipped exactly if
  skipping is asked for and the legs before it spare it, and otherwise it is run, once.
* `Recorded` — legs one after another, each in the session that the one before left.
* `RangesEnd` — how ranges end by their legs.
* `runRest_cons` — one range more, whatever the result so far was; `recorded_runRest` — the ranges
  after the first ones, by induction on them.
* **`runRanges_folds`** — the ranges of a line are folded by their boundaries.
-/

namespace PipedShell

namespace Session

/-! ## Legs -/

/-- A range that came to its turn: how it ended if it ran, and the sessions before and after. -/
structure Leg where
  range : PipeRange
  before : Session
  ended : Option (Except Fault Outcome)
  after : Session

/-- The range was skipped, or it came to a code. -/
def Leg.GoesOn (leg : Leg) : Prop :=
  leg.ended = none ∨ ∃ code, leg.ended = some (.ok (.proceed code))

/-- The value of the legs so far and one more; a range that came to no code leaves it as it is. -/
def Leg.join (value : Bool) (leg : Leg) : Bool :=
  match leg.ended with
  | some (.ok (.proceed code)) =>
    match leg.range.boundary with
    | some .andThen => value && code == 0
    | some .orElse => value || code == 0
    | none => code == 0
  | _ => value

/-- The value of legs from left to right: whether all of them together are a success. -/
def succeeded (legs : List Leg) : Bool := legs.foldl Leg.join true

/-- The value so far settles the value behind the range, whatever its code is. -/
def Spares (value : Bool) (range : PipeRange) : Prop :=
  range.boundary = some .andThen ∧ value = false ∨ range.boundary = some .orElse ∧ value = true

/-- What a leg has to be behind others. -/
inductive Leg.Obeys (run : LineRunner) (skipping : Bool) (earlier : List Leg) (leg : Leg) : Prop
  /-- It is skipped, which changes nothing but the log. -/
  | skipped (asked : skipping = true) (spares : Spares (succeeded earlier) leg.range)
      (ended : leg.ended = none) (after : leg.after = leg.before.log (.skipping leg.range.boundary))
  /-- It is run, once. -/
  | ran (due : skipping = true → ¬ Spares (succeeded earlier) leg.range)
      (ended : leg.ended = some (leg.before.runRange run leg.range).1)
      (after : leg.after = (leg.before.runRange run leg.range).2)

/-- Legs one after another, and the session that the last one leaves. -/
inductive Recorded (run : LineRunner) (skipping : Bool) (session : Session) :
    List Leg → Session → Prop
  | start : Recorded run skipping session [] session
  | next {legs : List Leg} {leg : Leg} (earlier : Recorded run skipping session legs leg.before)
      (obeys : leg.Obeys run skipping legs) :
      Recorded run skipping session (legs ++ [leg]) leg.after

/-- How ranges end of which these came to their turn. -/
inductive RangesEnd (ranges : List PipeRange) : List Leg → Except Fault Outcome → Prop
  /-- All of them did, and their value is the result. -/
  | joined {legs : List Leg} (all : legs.map (·.range) = ranges)
      (go_on : ∀ leg ∈ legs, leg.GoesOn) :
      RangesEnd ranges legs (.ok (.proceed (if succeeded legs then 0 else 1)))
  /-- A command of the last one asked to leave the shell, the first that did. -/
  | left {legs : List Leg} {leg : Leg} {code : Int}
      (first : (legs ++ [leg]).map (·.range) <+: ranges) (go_on : ∀ leg ∈ legs, leg.GoesOn)
      (leaves : leg.ended = some (.ok (.terminate code))) :
      RangesEnd ranges (legs ++ [leg]) (.ok (.terminate code))
  /-- The last one failed. -/
  | escaped {legs : List Leg} {leg : Leg} {fault : Fault}
      (first : (legs ++ [leg]).map (·.range) <+: ranges) (go_on : ∀ leg ∈ legs, leg.GoesOn)
      (escapes : leg.ended = some (.error fault)) :
      RangesEnd ranges (legs ++ [leg]) (.error fault)

open PipeRange

variable {run : LineRunner} {skipping : Bool} {session : Session} {legs : List Leg}
  {range : PipeRange}

@[simp] lemma succeeded_concat (legs : List Leg) (leg : Leg) :
    succeeded (legs ++ [leg]) = leg.join (succeeded legs) := by
  simp [succeeded]

/-- The code that a value stands for says what the value was. -/
lemma verdict_eq_zero (value : Bool) : ((if value then 0 else 1 : Int) == 0) = value := by
  cases value <;> rfl

lemma skips_iff (value : Bool) (range : PipeRange) :
    skips value range.boundary = true ↔ Spares value range := by
  cases hboundary : range.boundary with
  | none => simp [skips, Spares, hboundary]
  | some boundary => cases boundary <;> simp [skips, Spares, hboundary]

/-! ## One range more -/

/-- The leg of a range behind others. -/
def nextLeg (run : LineRunner) (skipping : Bool) (legs : List Leg) (range : PipeRange)
    (session : Session) : Leg where
  range := range
  before := session
  ended :=
    if skipping && skips (succeeded legs) range.boundary then none
    else some (session.runRange run range).1
  after :=
    if skipping && skips (succeeded legs) range.boundary then
      session.log (.skipping range.boundary)
    else (session.runRange run range).2

lemma obeys_nextLeg : (nextLeg run skipping legs range session).Obeys run skipping legs := by
  by_cases hskips : (skipping && skips (succeeded legs) range.boundary) = true
  · obtain ⟨hasked, hspares⟩ := Bool.and_eq_true_iff.1 hskips
    exact .skipped hasked ((skips_iff _ _).1 hspares) (if_pos hskips) (if_pos hskips)
  · refine .ran (fun hasked hspares => hskips ?_) (if_neg hskips) (if_neg hskips)
    exact Bool.and_eq_true_iff.2 ⟨hasked, (skips_iff _ _).2 hspares⟩

/-- A range that is skipped leaves the value as it is. -/
lemma join_of_skipped {leg : Leg} (h : leg.ended = none) (value : Bool) :
    leg.join value = value := by
  rw [Leg.join, h]

/-- The code of a range is joined to any result that stands for the value so far. -/
lemma joinResult_leg {leg : Leg} {result code : Int} (hresult : (result == 0) = succeeded legs)
    (hboundary : leg.range.boundary ≠ none) (hcode : leg.ended = some (.ok (.proceed code))) :
    joinResult leg.range.boundary result code
      = .ok (if succeeded (legs ++ [leg]) then 0 else 1) := by
  obtain ⟨boundary, hsome⟩ := Option.ne_none_iff_exists'.1 hboundary
  rw [succeeded_concat, Leg.join, hcode, hsome, joinResult, hresult]
  cases boundary <;> rfl

/-- One range of several: behind it the result is 0 or 1, whatever it was before. -/
lemma runRest_cons {result : Int} (ranges : List PipeRange)
    (hresult : (result == 0) = succeeded legs) (hboundary : range.boundary ≠ none) :
    let leg := nextLeg run skipping legs range session
    session.runRest run skipping result (range :: ranges) =
      match leg.ended with
      | none | some (.ok (.proceed _)) =>
        leg.after.runRest run skipping (if succeeded (legs ++ [leg]) then 0 else 1) ranges
      | some (.ok (.terminate code)) => (.ok (.terminate code), leg.after)
      | some (.error fault) => (.error fault, leg.after) := by
  intro leg
  by_cases hskips : (skipping && skips (succeeded legs) range.boundary) = true
  · have hended : leg.ended = none := if_pos hskips
    have hafter : leg.after = session.log (.skipping range.boundary) := if_pos hskips
    rw [runRest, hresult, if_pos hskips, hended, hafter, succeeded_concat, join_of_skipped hended]
  · have hended : leg.ended = some (session.runRange run range).1 := if_neg hskips
    have hafter : leg.after = (session.runRange run range).2 := if_neg hskips
    rw [runRest, hresult, if_neg hskips]
    rcases hran : session.runRange run range with ⟨fault | code | code, after⟩
    · simp only [hended, hafter, hran]
    · have hcode : leg.ended = some (.ok (.proceed code)) := by rw [hended, hran]
      have hjoined : joinResult range.boundary result code = _ :=
        joinResult_leg hresult hboundary hcode
      simp only [hended, hafter, hran, hjoined]
    · simp only [hended, hafter, hran]

/-! ## All ranges of a line -/

/-- **The ranges after the first ones**, by induction on them.  What carries it is that the result
so far stands for the value of the legs before. -/
lemma recorded_runRest {start : Session} {result : Int} (ranges : List PipeRange)
    (hrecorded : Recorded run skipping start legs session) (hgo : ∀ leg ∈ legs, leg.GoesOn)
    (hresult : (result == 0) = succeeded legs)
    (hlast : ranges = [] → result = if succeeded legs then 0 else 1)
    (hboundary : ∀ range ∈ ranges, range.boundary ≠ none) :
    ∃ all, Recorded run skipping start all (session.runRest run skipping result ranges).2 ∧
      RangesEnd (legs.map (·.range) ++ ranges) all
        (session.runRest run skipping result ranges).1 := by
  induction ranges generalizing legs result session with
  | nil =>
      rw [runRest, hlast rfl, List.append_nil]
      exact ⟨legs, hrecorded, .joined rfl hgo⟩
  | cons range ranges ih =>
      obtain ⟨hrange, hlater⟩ := List.forall_mem_cons.1 hboundary
      set leg := nextLeg run skipping legs range session
      have hnext : Recorded run skipping start (legs ++ [leg]) leg.after :=
        .next hrecorded obeys_nextLeg
      have hranges : (legs ++ [leg]).map (·.range) ++ ranges
          = legs.map (·.range) ++ range :: ranges := by
        rw [List.map_append, List.append_assoc]
        rfl
      have hrest := fun hgoes : leg.GoesOn =>
        ih hnext (List.forall_mem_append.2 ⟨hgo, List.forall_mem_singleton.2 hgoes⟩)
          (verdict_eq_zero _) (fun _ => rfl) hlater
      rw [hranges] at hrest
      rw [runRest_cons ranges hresult hrange]
      rcases hended : leg.ended with _ | fault | code | code
      · exact hrest (.inl hended)
      · exact ⟨_, hnext, .escaped ⟨ranges, hranges⟩ hgo hended⟩
      · exact hrest (.inr ⟨code, hended⟩)
      · exact ⟨_, hnext, .left ⟨ranges, hranges⟩ hgo hended⟩

/-- The first range has no boundary, so nothing spares it. -/
lemma nextLeg_first (hnone : range.boundary = none) :
    nextLeg run skipping [] range session
      = ⟨range, session, some (session.runRange run range).1, (session.runRange run range).2⟩ := by
  simp [nextLeg, hnone, skips]

/-- **The ranges of a line are folded by their boundaries**, whatever the commands are.  A single
range gives its own outcome.  Of several, each is run once, in order, up to the first that leaves
the shell or fails; with skipping, those are not run that the value so far spares.  If all come to
their turn, the result is their value. -/
theorem runRanges_folds (run : LineRunner) (skipping : Bool) (session : Session)
    {known : Text → Bool} {tokens : List Token} {ranges : List PipeRange}
    (hparse : (parse known tokens).result = .ok ranges) :
    (∀ range, ranges = [range] →
      session.runRanges run skipping ranges = session.runRange run range) ∧
    (1 < ranges.length → ∃ legs,
      Recorded run skipping session legs (session.runRanges run skipping ranges).2 ∧
      RangesEnd ranges legs (session.runRanges run skipping ranges).1) := by
  have hformed := (parse_sound hparse).1
  refine ⟨?_, fun hmany => ?_⟩
  · rintro range rfl
    rw [runRanges]
    rcases session.runRange run range with ⟨fault | code | code, after⟩ <;> rfl
  · obtain ⟨range, ranges, rfl, hnone, -⟩ := hformed.exists_cons
    have hlater : ranges ≠ [] := by
      rintro rfl
      simp at hmany
    have hfirst : Recorded run skipping session [nextLeg run skipping [] range session]
        (nextLeg run skipping [] range session).after := .next .start obeys_nextLeg
    rw [nextLeg_first hnone] at hfirst
    rw [runRanges]
    generalize session.runRange run range = ran at hfirst ⊢
    rcases ran with ⟨fault | code | code, after⟩
    · exact ⟨_, hfirst, @RangesEnd.escaped _ [] _ _ ⟨ranges, rfl⟩ (by simp) rfl⟩
    · refine recorded_runRest ranges hfirst ?_ ?_ (fun hnil => absurd hnil hlater) hformed.later
      · exact List.forall_mem_singleton.2 (.inr ⟨code, rfl⟩)
      · simp [succeeded, Leg.join, hnone]
    · exact ⟨_, hfirst, @RangesEnd.left _ [] _ _ ⟨ranges, rfl⟩ (by simp) rfl⟩

/-- A session whose only command returns the next line of the standard input. -/
def counting : Session where
  commands := .ofList [⟨{ name := "next", description := "" }, some fun _ =>
    .need (.read .line) fun reply => .done (.text (reply.getD []))⟩]
  stdin := .ofText "0\n5\n0\n"

/-- Skipping can change the result: the last range comes to another code when it runs earlier. -/
theorem runRanges_folds_counting :
    let ranges : List PipeRange :=
      [⟨none, [⟨"next", []⟩]⟩, ⟨some .orElse, [⟨"next", []⟩]⟩, ⟨some .andThen, [⟨"next", []⟩]⟩]
    (∃ legs, Recorded Session.run true counting legs
          (counting.runRanges Session.run true ranges).2 ∧
        RangesEnd ranges legs (.ok (.proceed 1))) ∧
      ∃ legs, Recorded Session.run false counting legs
          (counting.runRanges Session.run false ranges).2 ∧
        RangesEnd ranges legs (.ok (.proceed 0)) := by
  intro ranges
  have hparse : (parse (counting.commands.contains ·)
      (tokenize "next || next && next").tokens).result = .ok ranges := by decide +kernel
  have hskipping : (counting.runRanges Session.run true ranges).1 = .ok (.proceed 1) := by
    decide +kernel
  have hrunning : (counting.runRanges Session.run false ranges).1 = .ok (.proceed 0) := by
    decide +kernel
  rw [← hskipping, ← hrunning]
  exact ⟨(runRanges_folds Session.run true counting hparse).2 (by decide),
    (runRanges_folds Session.run false counting hparse).2 (by decide)⟩

end Session

end PipedShell
