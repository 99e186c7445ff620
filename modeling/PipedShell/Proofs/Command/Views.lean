import Mathlib.Data.List.Induction
import PipedShell.Proofs.Command.Completion
import PipedShell.Proofs.Text.Order

/-!
# The views of a registry

A registry is looked at by name, in order of names, by the starts of names and through a completer
that was bound to it when it held other commands.  All of them show one finite map: what was put in
last under each name, unless it was taken out since.

* `Registry.Event` — what happens to a registry and the completer bound to it, and `Bound.run` a
  history of such events.
* `Registry.LastPut` — the map that a history comes to, and `Bound.find?_run` that lookups show it.
* `Registry.Distinct` — no name is registered twice, at the start (`distinct_empty`), after an event
  (`Distinct.happen`) and so after a history (`distinct_run`).
* `map_some_toList`, `mem_completions`, `completions_append` — the views in order of names.
* **`views_agree`** — all views, after any history.
-/

namespace PipedShell

namespace Registry

variable {β : Type}

/-! ## Histories -/

/-- What happens to a registry, or to the completer that is bound to it. -/
inductive Event (β : Type)
  | insert (entry : Entry β)
  | add (name : Text) (body : β) (description : Text)
  | take (name : Text)
  | complete (text : Text) (index : ℤ) (line : Option Text)

namespace Event

/-- The entry that an event registers. -/
def entry? : Event β → Option (Entry β)
  | .insert entry => some entry
  | .add name body description => some ⟨{ name, description }, some body⟩
  | _ => none

/-- The name that an event registers or takes out. -/
def name? : Event β → Option Text
  | .insert entry => some entry.spec.name
  | .add name _ _ => some name
  | .take name => some name
  | .complete .. => none

end Event

namespace Bound

/-- Asking the completer leaves the registry alone. -/
@[simp] lemma registry_complete (text : Text) (index : ℤ) (line : Option Text) (bound : Bound β) :
    (bound.complete text index line).2.registry = bound.registry :=
  rfl

/-- The state after an event. -/
def happen (bound : Bound β) : Event β → Bound β
  | .insert entry => { bound with registry := bound.registry.insert entry }
  | .add name body description =>
      { bound with registry := bound.registry.insert ⟨{ name, description }, some body⟩ }
  | .take name => { bound with registry := bound.registry.erase name }
  | .complete text index line => (bound.complete text index line).2

/-- The state after some events, one after the other. -/
def run (bound : Bound β) (history : List (Event β)) : Bound β := history.foldl happen bound

end Bound

/-- The entry was put in, and since then nothing was put in or taken out under its name. -/
def LastPut (history : List (Event β)) (entry : Entry β) : Prop :=
  ∃ before event after, history = before ++ event :: after ∧ event.entry? = some entry ∧
    ∀ later ∈ after, later.name? ≠ some entry.spec.name

lemma not_lastPut_nil (entry : Entry β) : ¬ LastPut [] entry := by
  rintro ⟨before, event, after, hsplit, -⟩
  simp at hsplit

lemma lastPut_append_singleton {history : List (Event β)} {event : Event β} {entry : Entry β} :
    LastPut (history ++ [event]) entry ↔
      event.entry? = some entry ∨ (LastPut history entry ∧ event.name? ≠ some entry.spec.name) := by
  constructor
  · rintro ⟨before, put, after, hsplit, hput, hafter⟩
    rcases List.eq_nil_or_concat after with rfl | ⟨after, last, rfl⟩
    · obtain ⟨-, heq⟩ := List.append_inj' hsplit rfl
      exact .inl (List.singleton_inj.1 heq ▸ hput)
    · rw [List.concat_eq_append] at hsplit hafter
      rw [← List.cons_append, ← List.append_assoc] at hsplit
      obtain ⟨rfl, heq⟩ := List.append_inj' hsplit rfl
      rw [List.singleton_inj] at heq
      subst heq
      exact .inr ⟨⟨before, put, after, rfl, hput, fun later hlater =>
        hafter later (List.mem_append_left _ hlater)⟩, hafter event List.mem_concat_self⟩
  · rintro (hput | ⟨⟨before, put, after, rfl, hput, hafter⟩, hevent⟩)
    · exact ⟨history, event, [], rfl, hput, by simp⟩
    · refine ⟨before, put, after ++ [event], by simp, hput, fun later hlater => ?_⟩
      rcases List.mem_append.1 hlater with hlater | hlater
      · exact hafter later hlater
      · rwa [List.mem_singleton.1 hlater]

/-! ## What is found after a history -/

section Found

variable {name : Text} {entry : Entry β}

lemma find?_insert_eq_some (added : Entry β) (registry : Registry β) :
    (registry.insert added).find? name = some entry ↔
      (added = entry ∧ entry.spec.name = name) ∨
        (added.spec.name ≠ name ∧ registry.find? name = some entry) := by
  rcases eq_or_ne added.spec.name name with rfl | hne
  · rw [find?_insert_self, Option.some_inj]
    constructor
    · rintro rfl
      exact .inl ⟨rfl, rfl⟩
    · rintro (⟨heq, -⟩ | ⟨hne, -⟩)
      · exact heq
      · exact absurd rfl hne
  · rw [find?_insert_of_ne added registry hne.symm]
    constructor
    · exact fun hfound => .inr ⟨hne, hfound⟩
    · rintro (⟨rfl, heq⟩ | ⟨-, hfound⟩)
      · exact absurd heq hne
      · exact hfound

lemma find?_erase_eq_some (taken : Text) (registry : Registry β) :
    (registry.erase taken).find? name = some entry ↔
      taken ≠ name ∧ registry.find? name = some entry := by
  rcases eq_or_ne taken name with rfl | hne
  · simp [find?_erase_self]
  · rw [find?_erase_of_ne registry hne.symm]
    exact (and_iff_right hne).symm

/-- After an event a name shows what the event put in under it, or what it showed before if the
event left the name alone. -/
lemma Bound.find?_happen (bound : Bound β) (event : Event β) :
    (bound.happen event).registry.find? name = some entry ↔
      (event.entry? = some entry ∧ entry.spec.name = name) ∨
        (event.name? ≠ some name ∧ bound.registry.find? name = some entry) := by
  cases event with
  | insert added => simp [happen, Event.entry?, Event.name?, find?_insert_eq_some]
  | add added body description => simp [happen, Event.entry?, Event.name?, find?_insert_eq_some]
  | take taken => simp [happen, Event.entry?, Event.name?, find?_erase_eq_some]
  | complete text index line => simp [happen, Event.entry?, Event.name?]

lemma Bound.find?_run (history : List (Event β)) :
    (run {} history).registry.find? name = some entry ↔
      entry.spec.name = name ∧ LastPut history entry := by
  induction history using List.reverseRecOn with
  | nil => simp [run, find?, not_lastPut_nil]
  | append_singleton history event ih =>
      rw [run, List.foldl_append, List.foldl_cons, List.foldl_nil, find?_happen, ← run, ih,
        lastPut_append_singleton]
      constructor
      · rintro (⟨hput, hname⟩ | ⟨hother, hname, hlast⟩)
        · exact ⟨hname, .inl hput⟩
        · exact ⟨hname, .inr ⟨hlast, hname ▸ hother⟩⟩
      · rintro ⟨hname, hput | ⟨hlast, hother⟩⟩
        · exact .inl ⟨hput, hname⟩
        · exact .inr ⟨hname ▸ hother, hname, hlast⟩

/-- A registry of some entries is a registry into which they were put one after the other. -/
lemma Bound.run_ofList (initial : List (Entry β)) (history : List (Event β)) :
    run { registry := ofList initial } history = run {} (initial.map .insert ++ history) := by
  have hput : ∀ (entries : List (Entry β)) (registry : Registry β),
      run { registry } (entries.map .insert)
        = { registry := entries.foldl (fun registry entry => registry.insert entry) registry } := by
    intro entries
    induction entries with
    | nil => exact fun _ => rfl
    | cons entry entries ih => exact fun registry => ih (registry.insert entry)
  have hinitial := hput initial {}
  rw [run] at hinitial
  rw [run, run, List.foldl_append, hinitial]
  rfl

end Found

/-! ## Names are registered once -/

/-- No name is registered twice. -/
def Distinct (registry : Registry β) : Prop := (registry.entries.map (·.spec.name)).Nodup

lemma distinct_empty : Distinct ({} : Registry β) := List.nodup_nil

section Views

variable {registry : Registry β}

lemma Distinct.erase (h : registry.Distinct) (name : Text) : (registry.erase name).Distinct :=
  List.Nodup.sublist (List.filter_sublist.map _) h

lemma Distinct.insert (h : registry.Distinct) (entry : Entry β) :
    (registry.insert entry).Distinct := by
  refine List.nodup_cons.2 ⟨fun hmem => ?_, h.erase entry.spec.name⟩
  obtain ⟨other, hother, hname⟩ := List.mem_map.1 hmem
  exact (by simpa using (List.mem_filter.1 hother).2 : other.spec.name ≠ entry.spec.name) hname

lemma Distinct.happen {bound : Bound β} (h : bound.registry.Distinct) (event : Event β) :
    (bound.happen event).registry.Distinct := by
  cases event with
  | insert entry => exact h.insert entry
  | add name body description => exact h.insert _
  | take name => exact h.erase name
  | complete text index line => exact h

lemma distinct_run {bound : Bound β} (h : bound.registry.Distinct) (history : List (Event β)) :
    (bound.run history).registry.Distinct := by
  induction history generalizing bound with
  | nil => exact h
  | cons event history ih => exact ih (h.happen event)

/-! ## Views in order of names -/

lemma mem_names {name : Text} : name ∈ registry.names ↔ registry.contains name = true := by
  rw [names, Text.mem_sorted, contains, List.any_eq_true, List.mem_map]
  simp only [beq_iff_eq]

lemma Distinct.names (h : registry.Distinct) : registry.names.Pairwise (· < ·) :=
  Text.pairwise_lt_sorted h

lemma size_eq_length_names : registry.size = registry.names.length := by
  rw [size, Registry.names, Text.sorted, List.length_mergeSort, List.length_map]

lemma map_some_toList :
    registry.toList.map some = registry.names.map fun name => registry.find? name := by
  rw [toList, List.map_filterMap_some_eq_filter_map_isSome, List.filter_eq_self]
  intro found hfound
  obtain ⟨name, hname, rfl⟩ := List.mem_map.1 hfound
  rw [isSome_find?]
  exact mem_names.1 hname

lemma mem_completions {start name : Text} :
    name ∈ registry.completions start ↔ registry.contains name = true ∧ start <+: name := by
  rw [completions, List.mem_filter, mem_names, List.isPrefixOf_iff_prefix]

lemma completions_append (start more : Text) :
    registry.completions (start ++ more)
      = (registry.completions start).filter ((start ++ more).isPrefixOf ·) := by
  rw [completions, completions, List.filter_filter]
  refine List.filter_congr fun name _ => ?_
  rw [Bool.eq_iff_iff, Bool.and_eq_true, List.isPrefixOf_iff_prefix, List.isPrefixOf_iff_prefix]
  exact ⟨fun h => ⟨h, (List.prefix_append start more).trans h⟩, And.left⟩

/-! ## Through a completer -/

/-- The text being typed at the end of a line stands in the place of a command. -/
def AtCommand (line text : Text) : Prop :=
  wordsOfLine (currentStage (lineBefore line text)) = .ok []

lemma candidates_of_atCommand {line text : Text} (h : AtCommand line text) :
    registry.candidates line text = registry.completions text := by
  rw [candidates, h]
  rfl

/-- Asked from the start, a completer hands out the names in their order and then nothing. -/
lemma complete_of_atCommand {text : Text} {line : Option Text}
    (h : AtCommand (line.getD text) text) (bound : Bound β) :
    let asked := (bound.complete text 0 line).2
    ∀ index : ℕ, (asked.complete text index line).1
      = .ok (bound.registry.completions text)[index]? := by
  intro asked index
  have hfound : asked.completer.found = bound.registry.completions text :=
    candidates_of_atCommand h
  have hitem : Completer.itemAt? (index : ℤ) (bound.registry.completions text)
      = .ok (bound.registry.completions text)[index]? := by
    rw [Completer.itemAt?]
    split_ifs with hbeyond hwithin
    · rw [List.getElem?_eq_none (by omega)]
    · rfl
    · omega
    · omega
  rw [Bound.complete, Completer.complete, Bound.registry_complete]
  split_ifs with hzero
  · rw [candidates_of_atCommand h]
    exact hitem
  · rw [hfound]
    exact hitem

end Views

lemma atCommand_append_iff {head text : Text} :
    AtCommand (head ++ text) text ↔ wordsOfLine (currentStage head) = .ok [] := by
  rw [AtCommand, lineBefore_append]

/-- **All views of a registry agree.**  Whatever was put in and taken out since it was made, a name
shows the entry that was put in last under it, unless it was taken out since.  The names are those
that show an entry, once each and strictly ascending; the size is their number, and the entries come
in their order.  The completions of a text are the names that start with it, and those of a longer
text are found among them.  A completer bound from the beginning, asked at any time, hands out at a
command the completions as they are then. -/
theorem views_agree (initial : List (Entry β)) (history : List (Event β)) :
    let bound := Bound.run { registry := ofList initial } history
    let registry := bound.registry
    (∀ name entry, registry.find? name = some entry ↔
      entry.spec.name = name ∧ LastPut (initial.map .insert ++ history) entry) ∧
    (∀ name, registry.contains name = (registry.find? name).isSome) ∧
    (∀ name, name ∈ registry.names ↔ (registry.find? name).isSome = true) ∧
    registry.names.Pairwise (· < ·) ∧
    registry.size = registry.names.length ∧
    registry.toList.map some = registry.names.map (fun name => registry.find? name) ∧
    (∀ start, (registry.completions start).Pairwise (· < ·) ∧ ∀ name,
      name ∈ registry.completions start ↔ (registry.find? name).isSome = true ∧ start <+: name) ∧
    (∀ start more, registry.completions (start ++ more)
      = (registry.completions start).filter ((start ++ more).isPrefixOf ·)) ∧
    (∀ text, registry.candidatesAt text none = registry.completions text) ∧
    ∀ (line : Option Text) text, AtCommand (line.getD text) text →
      registry.candidates (line.getD text) text = registry.completions text ∧
      let asked := (bound.complete text 0 line).2
      ∀ index : ℕ, (asked.complete text index line).1
        = .ok (registry.completions text)[index]? := by
  intro bound registry
  have hbound : bound = Bound.run {} (initial.map .insert ++ history) :=
    Bound.run_ofList initial history
  have hdistinct : registry.Distinct := by
    show bound.registry.Distinct
    rw [hbound]
    exact distinct_run distinct_empty _
  have hregistered (name : Text) : registry.contains name = (registry.find? name).isSome :=
    (isSome_find? name registry).symm
  refine ⟨fun name entry => ?_, hregistered, fun name => ?_, hdistinct.names,
    size_eq_length_names, map_some_toList, fun start => ⟨?_, fun name => ?_⟩, completions_append,
    fun _ => rfl, fun line text hcommand => ⟨candidates_of_atCommand hcommand, ?_⟩⟩
  · show bound.registry.find? name = some entry ↔ _
    rw [hbound]
    exact Bound.find?_run _
  · rw [mem_names, hregistered]
  · exact hdistinct.names.sublist List.filter_sublist
  · rw [mem_completions, hregistered]
  · exact complete_of_atCommand hcommand bound

/-- A registry that was changed after its completer was asked, as a completer shows it behind a
pipe. -/
theorem views_agree_behind_pipe :
    let bound : Bound Unit := Bound.run
      { registry := ofList [⟨{ name := "echo" }, none⟩, ⟨{ name := "git" }, none⟩] }
      [.complete "e" 0 none, .take "git", .add "exit" () "leave", .insert ⟨{ name := "e" }, none⟩]
    AtCommand "echo a | e" "e" ∧
    let asked := (bound.complete "e" 0 (some "echo a | e")).2
    ∀ index : ℕ, (asked.complete "e" index (some "echo a | e")).1
      = .ok (["e", "echo", "exit"] : List Text)[index]? := by
  intro bound
  have hcommand : AtCommand "echo a | e" "e" :=
    atCommand_append_iff.2 (by decide : wordsOfLine (currentStage "echo a | ") = .ok [])
  have hnames : bound.registry.names = (["e", "echo", "exit"] : List Text) :=
    Text.sorted_eq_of_perm (by decide) (by decide)
  have hcompletions : bound.registry.completions "e" = (["e", "echo", "exit"] : List Text) := by
    rw [completions, hnames]
    rfl
  obtain ⟨-, -, -, -, -, -, -, -, -, hcompleter⟩ := @views_agree Unit _ _
  refine ⟨hcommand, ?_⟩
  rw [← hcompletions]
  exact (hcompleter (some "echo a | e") "e" hcommand).2

end Registry

end PipedShell
