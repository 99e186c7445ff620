import PipedShell.Command.Spec
import PipedShell.Proofs.Text.Order

/-!
# The tables of a command

Options and sub-commands come into the tables of a command and leave them in any order.  A new
option displaces the options that it clashes with, up to two of them: one of its long name and one
of its short name, which need not clash with each other.

* `Spec.Edit` — what is done to the tables, and `Spec.edited` a sequence of it.
* `Spec.Ordered` — the tables are in order of names, and no short name is there twice; each edit
  keeps that (`Ordered.edit`), so any sequence does (`Ordered.edited`).
* `Ordered.insertOption_eq` — what an addition leaves of the table of options.
* **`edited_tables`** — the tables of any command after any edits, and what the next edit of an
  option makes of them.
-/

namespace PipedShell

/-- Two options clash when they share the long name or a short name that is not empty. -/
lemma CommandOption.clashes_eq_decide (a b : CommandOption) :
    a.clashes b = decide (a.name = b.name ∨ (a.short ≠ [] ∧ a.short = b.short)) := by
  rw [Bool.eq_iff_iff]
  simp [clashes]

namespace Spec

/-- What is done to the tables of a command. -/
inductive Edit
  | addOption (option : CommandOption)
  | removeOption (name short : Text)
  | addSubcommand (sub : Subcommand)
  | removeSubcommand (name : Text)

/-- The description with one edit made. -/
def edit (spec : Spec) : Edit → Spec
  | .addOption option => spec.insertOption option
  | .removeOption name short => spec.eraseOption name short
  | .addSubcommand sub => spec.insertSubcommand sub
  | .removeSubcommand name => spec.eraseSubcommand name

/-- The description with some edits made, one after the other. -/
def edited (spec : Spec) (edits : List Edit) : Spec := edits.foldl edit spec

/-- Both tables are strictly ascending by name, and no two options share a short name that is not
empty. -/
structure Ordered (spec : Spec) : Prop where
  options : spec.options.Pairwise fun a b => a.name < b.name
  shorts : spec.options.Pairwise fun a b => a.short ≠ [] → a.short ≠ b.short
  subcommands : spec.subcommands.Pairwise fun a b => a.name < b.name

lemma ordered_empty (name description : Text) : Ordered { name, description } where
  options := .nil
  shorts := .nil
  subcommands := .nil

/-! ## What stays beside a new entry -/

/-- The options that an option does not clash with. -/
def beside (option : CommandOption) (spec : Spec) : List CommandOption :=
  spec.options.filter fun other =>
    decide ¬ (other.name = option.name ∨ (other.short ≠ [] ∧ other.short = option.short))

variable {spec : Spec}

lemma insertOption_options (option : CommandOption) (spec : Spec) :
    (spec.insertOption option).options
      = (spec.beside option ++ [option]).mergeSort fun a b => Text.le a.name b.name := by
  simp only [insertOption, beside, CommandOption.clashes_eq_decide, decide_not]

lemma not_clash_of_mem_beside {option other : CommandOption} (h : other ∈ spec.beside option) :
    other.name ≠ option.name ∧ (other.short ≠ [] → other.short ≠ option.short) := by
  have hnot := of_decide_eq_true (List.mem_filter.1 h).2
  exact ⟨fun heq => hnot (.inl heq), fun hshort heq => hnot (.inr ⟨hshort, heq⟩)⟩

lemma mem_erased_subcommands {sub other : Subcommand}
    (h : other ∈ (spec.eraseSubcommand sub.name).subcommands) : other.name ≠ sub.name := by
  simpa using (List.mem_filter.1 h).2

namespace Ordered

variable (h : spec.Ordered)
include h

lemma beside (option : CommandOption) :
    (spec.beside option).Pairwise fun a b => a.name < b.name :=
  h.options.sublist List.filter_sublist

lemma eraseOption (name short : Text) : (spec.eraseOption name short).Ordered where
  options := h.options.sublist List.filter_sublist
  shorts := h.shorts.sublist List.filter_sublist
  subcommands := h.subcommands

lemma eraseSubcommand (name : Text) : (spec.eraseSubcommand name).Ordered where
  options := h.options
  shorts := h.shorts
  subcommands := h.subcommands.sublist List.filter_sublist

lemma insertSubcommand (sub : Subcommand) : (spec.insertSubcommand sub).Ordered where
  options := h.options
  shorts := h.shorts
  subcommands := Text.pairwise_lt_mergeSort_append (h.eraseSubcommand sub.name).subcommands
    fun _ => mem_erased_subcommands

lemma insertOption (option : CommandOption) : (spec.insertOption option).Ordered where
  options := by
    rw [insertOption_options]
    exact Text.pairwise_lt_mergeSort_append (h.beside option) fun _ hother =>
      (not_clash_of_mem_beside hother).1
  shorts := by
    have hkept : (spec.beside option ++ [option]).Pairwise
        fun a b => a.short ≠ [] → a.short ≠ b.short := by
      refine List.pairwise_append.2 ⟨h.shorts.sublist List.filter_sublist,
        List.pairwise_singleton _ _, fun other hother last hlast => ?_⟩
      rw [List.mem_singleton.1 hlast]
      exact (not_clash_of_mem_beside hother).2
    rw [insertOption_options]
    refine ((List.mergeSort_perm _ _).pairwise_iff fun hab hb heq => ?_).2 hkept
    exact hab (heq ▸ hb) heq.symm
  subcommands := h.subcommands

lemma edit (change : Edit) : (spec.edit change).Ordered := by
  cases change with
  | addOption option => exact h.insertOption option
  | removeOption name short => exact h.eraseOption name short
  | addSubcommand sub => exact h.insertSubcommand sub
  | removeSubcommand name => exact h.eraseSubcommand name

lemma edited (edits : List Edit) : (spec.edited edits).Ordered := by
  induction edits generalizing spec with
  | nil => exact h
  | cons change edits ih => exact ih (h.edit change)

/-- A new option stands at one place of the table, among the options that it does not clash with in
the order that they had. -/
lemma insertOption_eq (option : CommandOption) :
    ∃ front back, (spec.insertOption option).options = front ++ option :: back ∧
      front ++ back = spec.beside option := by
  rw [insertOption_options]
  exact Text.mergeSort_append_eq (h.beside option) fun _ hother =>
    (not_clash_of_mem_beside hother).1

end Ordered

/-- **The tables of a command are ordered whatever was done to them.**  After any edits of a new
command, empty names among them, both tables are strictly ascending by name and no two options share
a short name that is not empty.  Adding an option then takes away just the options that share its
long name or a short name with it, and puts it into the rest; removing by a long and a short name
takes away just the options of either, an empty name standing for no option. -/
theorem edited_tables (name description : Text) (edits : List Edit) :
    let spec := edited { name, description } edits
    spec.options.Pairwise (fun a b => a.name < b.name) ∧
    spec.options.Pairwise (fun a b => a.short ≠ [] → a.short ≠ b.short) ∧
    spec.subcommands.Pairwise (fun a b => a.name < b.name) ∧
    (∀ option : CommandOption, ∃ front back,
      (spec.insertOption option).options = front ++ option :: back ∧
      front ++ back = spec.options.filter fun other =>
        decide ¬ (other.name = option.name ∨ (other.short ≠ [] ∧ other.short = option.short))) ∧
    ∀ long short : Text, (spec.eraseOption long short).options = spec.options.filter fun other =>
      decide ¬ ((long ≠ [] ∧ other.name = long) ∨ (short ≠ [] ∧ other.short = short)) := by
  intro spec
  have hordered : spec.Ordered := (ordered_empty name description).edited edits
  refine ⟨hordered.options, hordered.shorts, hordered.subcommands, hordered.insertOption_eq,
    fun long short => ?_⟩
  refine List.filter_congr fun other _ => ?_
  rw [Bool.eq_iff_iff]
  simp

/-- One addition displaces two options that do not clash with each other. -/
example :
    let all : CommandOption := ⟨"all", "a", []⟩
    let long : CommandOption := ⟨"long", "l", []⟩
    all.clashes long = false ∧
      beside ⟨"all", "l", []⟩ { name := "ls", options := [all, long] } = [] := by
  decide

end Spec

end PipedShell
