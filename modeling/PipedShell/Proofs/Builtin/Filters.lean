import PipedShell.Builtin
import PipedShell.Proofs.Session.Filter

/-!
# The built-in filters

The built-in commands read, write, complain and come to an exit code, with two exceptions: `exit`
leaves the shell and `help` looks at the registry.

* `isFilter_cat`, `isFilter_grep` and so on — one command each, with any arguments.
* **`isFilter_of_mem_all`** — all commands of a new shell but the two.
-/

namespace PipedShell.Builtin

lemma isFilter_writeLines {next : Program} (lines : List Text) (h : next.IsFilter) :
    (writeLines lines next).IsFilter := by
  rw [writeLines]
  split_ifs
  · exact h
  · exact .before_write _ h

lemma isFilter_echo (args : List Text) : (echo args).IsFilter := by
  cases args with
  | nil => exact .readAll fun _ => .before_write _ (.result 0)
  | cons arg args => exact .before_write _ (.result 0)

lemma isFilter_cat (args : List Text) : (cat args).IsFilter :=
  .readAll fun _ => .before_write _ (.result 0)

lemma isFilter_grep (args : List Text) : (grep args).IsFilter := by
  rw [grep]
  split
  · exact .before_writeError _ (.result 2)
  · exact .readLines fun _ => isFilter_writeLines _ (.result _)

lemma isFilter_head (args : List Text) : (head args).IsFilter := by
  rw [head]
  split
  · exact .before_writeError _ (.result 1)
  · exact .readLines fun _ => isFilter_writeLines _ (.result 0)

lemma isFilter_tail (args : List Text) : (tail args).IsFilter := by
  rw [tail]
  split
  · exact .before_writeError _ (.result 1)
  · exact .readLines fun _ => isFilter_writeLines _ (.result 0)

lemma isFilter_wc (args : List Text) : (wc args).IsFilter := by
  rw [wc]
  split_ifs
  · exact .readLines fun _ => .before_write _ (.result 0)
  · exact .before_writeError _ (.result 1)

lemma isFilter_seq (args : List Text) : (seq args).IsFilter := by
  rw [seq]
  split
  · exact .before_writeError _ (.result 1)
  · dsimp only
    split_ifs
    · exact .result 0
    · exact .before_write _ (.result 0)

/-- **Every built-in command but `exit` and `help` is a filter**, whatever its arguments. -/
theorem isFilter_of_mem_all {command : Command} (hmem : command ∈ all)
    (hexit : command.spec.name ≠ "exit") (hhelp : command.spec.name ≠ "help") {body : Body}
    (hbody : command.body = some body) (args : List Text) : (body args).IsFilter := by
  simp only [all, List.mem_cons, List.not_mem_nil, or_false] at hmem
  rcases hmem with rfl | rfl | rfl | rfl | rfl | rfl | rfl | rfl | rfl | rfl | rfl | rfl
  · exact absurd rfl hexit
  · cases hbody
    exact isFilter_echo args
  · exact absurd rfl hhelp
  · cases hbody
    exact .before_write _ (.result 0)
  · cases hbody
    exact .result 0
  · cases hbody
    exact .result 1
  · cases hbody
    exact isFilter_cat args
  · cases hbody
    exact isFilter_grep args
  · cases hbody
    exact isFilter_head args
  · cases hbody
    exact isFilter_tail args
  · cases hbody
    exact isFilter_wc args
  · cases hbody
    exact isFilter_seq args

end PipedShell.Builtin
