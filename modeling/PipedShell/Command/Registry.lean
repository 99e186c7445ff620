import PipedShell.Command.Spec

/-!
# Registries of commands

A registry holds at most one command under each name.  It is shown in the order of the names, in
whatever order they came in.

* `Registry` is the list of entries; an entry is a description with whatever runs the command, so
  the type of that is a parameter.
* `Registry.insert` replaces the command of the same name, `Registry.erase` takes one out,
  `Registry.find?` looks one up.
* `Registry.names`, `Registry.toList` and `Registry.completions` are the views in order of names.
-/

namespace PipedShell

/-- A registered command: its description, and what runs it if anything does. -/
structure Entry (β : Type) where
  spec : Spec
  body : Option β

/-- Commands by name. -/
structure Registry (β : Type) where
  entries : List (Entry β) := []

namespace Registry

variable {β : Type}

/-- The entry that is registered under a name. -/
def find? (name : Text) (registry : Registry β) : Option (Entry β) :=
  registry.entries.find? fun entry => entry.spec.name == name

/-- Whether a name is registered. -/
def contains (name : Text) (registry : Registry β) : Bool :=
  registry.entries.any fun entry => entry.spec.name == name

/-- Takes the entry of a name out. -/
def erase (name : Text) (registry : Registry β) : Registry β :=
  { entries := registry.entries.filter fun entry => entry.spec.name != name }

/-- Registers an entry under its name, in place of the one registered there. -/
def insert (entry : Entry β) (registry : Registry β) : Registry β :=
  { entries := entry :: (registry.erase entry.spec.name).entries }

/-- Changes the description registered under a name, which keeps its name. -/
def modify (name : Text) (change : Spec → Spec) (registry : Registry β) : Registry β :=
  { entries := registry.entries.map fun entry =>
      if entry.spec.name == name then { entry with spec := change entry.spec } else entry }

/-- The number of commands. -/
def size (registry : Registry β) : Nat := registry.entries.length

/-- The registered names in ascending order. -/
def names (registry : Registry β) : List Text :=
  Text.sorted (registry.entries.map (·.spec.name))

/-- The entries in ascending order of their names. -/
def toList (registry : Registry β) : List (Entry β) :=
  registry.names.filterMap fun name => registry.find? name

/-- The registered names that start with `start`, in ascending order. -/
def completions (start : Text) (registry : Registry β) : List Text :=
  registry.names.filter (start.isPrefixOf ·)

/-- A registry of some entries, later ones replacing earlier ones of the same name. -/
def ofList (entries : List (Entry β)) : Registry β :=
  entries.foldl (fun registry entry => registry.insert entry) {}

/-- A name is registered exactly when an entry is found under it. -/
theorem isSome_find? (name : Text) (registry : Registry β) :
    (registry.find? name).isSome = registry.contains name := by
  simp only [find?, contains]
  induction registry.entries with
  | nil => rfl
  | cons entry entries ih => by_cases h : entry.spec.name == name <;> simp_all

/-- An entry is found under its name once it is registered. -/
theorem find?_insert_self (entry : Entry β) (registry : Registry β) :
    (registry.insert entry).find? entry.spec.name = some entry := by
  simp [find?, insert]

/-- A name taken out is not registered. -/
theorem find?_erase_self (name : Text) (registry : Registry β) :
    (registry.erase name).find? name = none := by
  simp [find?, erase]

/-- Taking a name out leaves the entries of other names alone. -/
theorem find?_erase_of_ne {name other : Text} (registry : Registry β) (h : other ≠ name) :
    (registry.erase name).find? other = registry.find? other := by
  simp only [find?, erase]
  induction registry.entries with
  | nil => rfl
  | cons entry entries ih =>
    by_cases hn : entry.spec.name = name
    · have hne : (entry.spec.name == other) = false := by simpa [hn] using h.symm
      rw [List.find?_cons_of_neg (by simp [hne]), ← ih, List.filter_cons_of_neg (by simp [hn])]
    · rw [List.filter_cons_of_pos (by simp [hn]), List.find?_cons, List.find?_cons, ih]

/-- Registering an entry leaves the entries of other names alone. -/
theorem find?_insert_of_ne {name : Text} (entry : Entry β) (registry : Registry β)
    (h : name ≠ entry.spec.name) : (registry.insert entry).find? name = registry.find? name := by
  rw [← find?_erase_of_ne registry h]
  have hne : (entry.spec.name == name) = false := by simpa using h.symm
  simp [find?, insert, hne]

end Registry

end PipedShell
