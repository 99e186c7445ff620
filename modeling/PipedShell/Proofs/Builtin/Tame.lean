import PipedShell.Proofs.Builtin.Filters
import PipedShell.Proofs.Session.Steady

/-!
# The built-in commands are tame

All built-in commands but two are filters.  `exit` leaves the shell or complains, and `help` looks
up what it writes, so none of them does anything that outlasts it.

* `isTame_exit`, `isTame_help` — the two.
* **`areTame_commands`** — the commands of a new shell; `steady_start` is what follows for the
  shell.
-/

namespace PipedShell

/-- Nothing comes into a registry but the entries that it is made of. -/
lemma Registry.mem_of_mem_ofList {β : Type} {entries : List (Entry β)} {entry : Entry β}
    (h : entry ∈ (Registry.ofList entries).entries) : entry ∈ entries := by
  have hfold : ∀ (added : List (Entry β)) (registry : Registry β),
      entry ∈ (added.foldl (fun registry entry => registry.insert entry) registry).entries →
        entry ∈ added ∨ entry ∈ registry.entries := by
    intro added
    induction added with
    | nil => exact fun _ hmem => Or.inr hmem
    | cons first added ih =>
        intro registry hmem
        rcases ih _ hmem with hadded | hregistry
        · exact Or.inl (List.mem_cons_of_mem _ hadded)
        · rcases List.mem_cons.1 hregistry with rfl | hold
          · exact Or.inl List.mem_cons_self
          · exact Or.inr (List.mem_filter.1 hold).1
  rcases hfold entries {} h with hmem | hnone
  · exact hmem
  · simp at hnone

namespace Builtin

lemma isTame_exit (args : List Text) : (exit args).IsTame := by
  cases args with
  | nil => exact .leave 0
  | cons arg args =>
      simp only [exit]
      split
      · exact .leave _
      · exact .writeError (.done rfl)

lemma isTame_help (args : List Text) : (help args).IsTame := by
  cases args with
  | nil => exact .describeAll fun specs => .write (.done rfl)
  | cons name args =>
      refine .describe fun spec => ?_
      cases spec with
      | none => exact .writeError (.done rfl)
      | some spec => exact .write (.write (.done rfl))

/-- **The built-in commands are tame.** -/
theorem areTame_commands : Session.AreTame commands := by
  intro command hmem
  have hall : command ∈ all := Registry.mem_of_mem_ofList hmem
  simp only [all, List.mem_cons, List.not_mem_nil, or_false] at hall
  rcases hall with rfl | rfl | rfl | rfl | rfl | rfl | rfl | rfl | rfl | rfl | rfl | rfl
  · exact ⟨exit, rfl, isTame_exit⟩
  · exact ⟨echo, rfl, fun args => (isFilter_echo args).isTame⟩
  · exact ⟨help, rfl, isTame_help⟩
  · exact ⟨clear, rfl, fun _ => .write (.done rfl)⟩
  · exact ⟨succeed, rfl, fun _ => .done rfl⟩
  · exact ⟨failure, rfl, fun _ => .done rfl⟩
  · exact ⟨cat, rfl, fun args => (isFilter_cat args).isTame⟩
  · exact ⟨grep, rfl, fun args => (isFilter_grep args).isTame⟩
  · exact ⟨head, rfl, fun args => (isFilter_head args).isTame⟩
  · exact ⟨tail, rfl, fun args => (isFilter_tail args).isTame⟩
  · exact ⟨wc, rfl, fun args => (isFilter_wc args).isTame⟩
  · exact ⟨seq, rfl, fun args => (isFilter_seq args).isTame⟩

/-- A new shell with the built-in commands is steady. -/
lemma steady_start (config : Config) (stdin : Text) :
    (Session.start config commands (none, none) stdin).Steady where
  tame := areTame_commands
  buffers_open := by
    intro slot
    cases slot <;> rfl
  attached := rfl

end Builtin

end PipedShell
