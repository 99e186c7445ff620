import PipedShell.Proofs.Builtin.Lines

/-!
# Searching lines

`grep` keeps the lines that hold a pattern, and a range of several searches keeps those that hold
all the patterns.  That is so because the lines that one search writes are the lines that the next
one reads, empty ones and a last one without a line feed included.

* `Search.Asked` — the search that arguments ask for, and `Search.Selects` the lines it is after.
* `Builtin.sift` — the lines that a search by the arguments lets pass, none if they ask for none;
  sifting twice is sifting once (`sift_sift`), and the order does not matter (`sift_comm`).
* `prints_grep`, `prints_grep_grep` — ranges of one search and of two.
* **`grep_selects`** — the command, on any arguments and any text.
-/

namespace PipedShell

lemma Text.hasPiece_iff_infix (t piece : Text) : t.hasPiece piece = true ↔ piece <:+: t := by
  induction t with
  | nil => simp [hasPiece]
  | cons c t ih =>
      rw [hasPiece, Bool.or_eq_true, List.isPrefixOf_iff_prefix, ih, List.infix_cons_iff]

namespace Builtin

/-! ## What arguments ask for -/

namespace Search

/-- An argument that starts with a minus sign is an option. -/
def IsOption (arg : Text) : Prop := arg.head? = some '-'

instance : DecidablePred IsOption := fun arg =>
  inferInstanceAs (Decidable (arg.head? = some '-'))

/-- The pattern is the first argument that is no option, and the options before it say whether case
is ignored.  Nothing behind the pattern counts. -/
inductive Asked : List Text → Search → Prop
  | behind {options : List Text} {pattern : Text} (rest : List Text)
      (hoptions : ∀ arg ∈ options, IsOption arg) (hpattern : ¬ IsOption pattern) :
      Asked (options ++ pattern :: rest)
        ⟨decide (("-i" : Text) ∈ options ∨ ("--ignore-case" : Text) ∈ options), pattern⟩

/-- The line holds the pattern, the two being compared in lower case if case is ignored. -/
def Selects (search : Search) (line : Text) : Prop :=
  if search.ignoreCase then search.pattern.lower <:+: line.lower else search.pattern <:+: line

instance (search : Search) : DecidablePred search.Selects := fun line =>
  inferInstanceAs (Decidable (if search.ignoreCase then search.pattern.lower <:+: line.lower
    else search.pattern <:+: line))

lemma finds_eq_decide (search : Search) (line : Text) :
    search.finds line = decide (search.Selects line) := by
  rw [Bool.eq_iff_iff, decide_eq_true_iff, finds, Selects]
  split_ifs <;> exact Text.hasPiece_iff_infix _ _

lemma ofArgs?_append {options : List Text} (h : ∀ arg ∈ options, IsOption arg)
    (ignoreCase : Bool) (args : List Text) :
    ofArgs? ignoreCase (options ++ args)
      = ofArgs? (ignoreCase || options.any ignoreCaseOptions.elem) args := by
  induction options generalizing ignoreCase with
  | nil => simp
  | cons option options ih =>
      obtain ⟨hoption, hoptions⟩ := List.forall_mem_cons.1 h
      have hfirst : (option.head? == some '-') = true := beq_iff_eq.2 hoption
      rw [List.cons_append, ofArgs?, if_pos hfirst, ih hoptions, List.any_cons, Bool.or_assoc]

lemma Asked.ofArgs?_eq {args : List Text} {search : Search} (h : Asked args search) :
    ofArgs? false args = some search := by
  obtain @⟨options, pattern, rest, hoptions, hpattern⟩ := h
  have hfirst : ¬ (pattern.head? == some '-') = true := fun heq => hpattern (beq_iff_eq.1 heq)
  have hcase : options.any ignoreCaseOptions.elem
      = decide (("-i" : Text) ∈ options ∨ ("--ignore-case" : Text) ∈ options) := by
    rw [Bool.eq_iff_iff, List.any_eq_true, decide_eq_true_iff]
    simp [ignoreCaseOptions, and_or_left, exists_or]
  rw [ofArgs?_append hoptions, ofArgs?, if_neg hfirst, Bool.false_or, hcase]

lemma ofArgs?_eq_none {args : List Text} (h : ∀ arg ∈ args, IsOption arg) :
    ofArgs? false args = none := by
  have hall := ofArgs?_append h false []
  rwa [List.append_nil, ofArgs?] at hall

end Search

/-! ## What a search lets pass -/

/-- The lines that a search by these arguments lets pass, none if they ask for no search. -/
def sift (args : List Text) (lines : List Text) : List Text :=
  match Search.ofArgs? false args with
  | none => []
  | some search => lines.filter search.finds

/-- The code that a search by these arguments comes to. -/
def siftCode (args : List Text) (lines : List Text) : ℤ :=
  if Search.ofArgs? false args = none then 2 else if sift args lines = [] then 1 else 0

section Sift

variable (args others lines : List Text)

lemma sift_sublist : List.Sublist (sift args lines) lines := by
  rw [sift]
  split
  · exact List.nil_sublist lines
  · exact List.filter_sublist

lemma sift_sift : sift args (sift args lines) = sift args lines := by
  simp only [sift]
  split
  · rfl
  · rw [List.filter_filter]
    simp only [Bool.and_self]

lemma sift_comm : sift others (sift args lines) = sift args (sift others lines) := by
  simp only [sift]
  cases Search.ofArgs? false args with
  | none => cases Search.ofArgs? false others <;> simp
  | some search =>
      cases Search.ofArgs? false others with
      | none => simp
      | some other =>
          show (lines.filter search.finds).filter other.finds
            = (lines.filter other.finds).filter search.finds
          exact List.filter_comm other.finds search.finds lines

lemma siftCode_sift : siftCode args (sift args lines) = siftCode args lines := by
  rw [siftCode, siftCode, sift_sift]

/-- A code joined to itself is the same code. -/
lemma bitOr_siftCode : bitOr 0 (siftCode args lines) = siftCode args lines ∧
    bitOr (siftCode args lines) (siftCode args lines) = siftCode args lines := by
  rw [siftCode]
  split_ifs <;> exact ⟨rfl, rfl⟩

end Sift

/-! ## Ranges of searches -/

lemma alone_grep (args : List Text) (source : Source) :
    ((grep args).alone source).output = Text.unlines (sift args source.remaining.lines) ∧
      ((grep args).alone source).code = siftCode args source.remaining.lines := by
  have hread : source.read .all = (some source.remaining, .ofText []) := rfl
  rw [sift, siftCode, sift, grep]
  cases Search.ofArgs? false args with
  | none => exact ⟨rfl, rfl⟩
  | some search =>
      simp only [Program.readLines, Program.readAll, Program.need, Program.alone, hread,
        Option.getD_some, alone_writeLines, List.isEmpty_iff]
      simp

variable {session : Session}

/-- The session has the built-in command that searches. -/
def KnowsGrep (session : Session) : Prop :=
  session.commands.find? "grep" = commands.find? "grep"

lemma KnowsGrep.programOf? (h : KnowsGrep session) (args : List Text) :
    session.programOf? ⟨"grep", args⟩ = some (grep args) := by
  rw [Session.programOf?, h]
  rfl

lemma prints_grep (run : Session.LineRunner) (hopen : session.pipeline.BuffersOpen)
    (hattached : session.stdoutAttached = true) (hknows : KnowsGrep session) (args : List Text) :
    session.Prints run [⟨"grep", args⟩] (siftCode args session.stdin.remaining.lines)
      (Text.unlines (sift args session.stdin.remaining.lines)) := by
  have hrange := Session.prints_filter run hopen hattached (hknows.programOf? args)
    (isFilter_grep args)
  obtain ⟨houtput, hcode⟩ := alone_grep args session.stdin
  rwa [houtput, hcode, (bitOr_siftCode _ _).1] at hrange

/-- The second search reads the very lines that the first one wrote. -/
lemma prints_grep_grep (run : Session.LineRunner) (hopen : session.pipeline.BuffersOpen)
    (hattached : session.stdoutAttached = true) (hknows : KnowsGrep session)
    (args others : List Text) :
    session.Prints run [⟨"grep", args⟩, ⟨"grep", others⟩]
      (bitOr (siftCode args session.stdin.remaining.lines)
        (siftCode others (sift args session.stdin.remaining.lines)))
      (Text.unlines (sift others (sift args session.stdin.remaining.lines))) := by
  set passed := sift args session.stdin.remaining.lines with hpassed
  have hrange := Session.prints_filters run hopen hattached
    (.cons ⟨hknows.programOf? args, isFilter_grep args⟩
      (.cons ⟨hknows.programOf? others, isFilter_grep others⟩ .nil))
  obtain ⟨houtput, hcode⟩ := alone_grep args session.stdin
  have hlines : (Source.ofText (Text.unlines passed)).remaining.lines = passed := by
    rw [Source.remaining_ofText]
    exact Text.lines_unlines fun line hmem =>
      Text.not_mem_of_mem_lines ((sift_sublist args _).subset hmem)
  obtain ⟨hnext, hcodes⟩ := alone_grep others (.ofText (Text.unlines passed))
  rw [hlines] at hnext hcodes
  simpa [Program.compose, houtput, hcode, hnext, hcodes, passed, (bitOr_siftCode _ _).1]
    using hrange

/-- **`grep` selects exactly the lines that hold the pattern.**  With a pattern among the arguments
it writes those lines in their order, each with a line feed behind it, and comes to code 0, or 1 if
there are none.  Without one it complains and comes to code 2, whatever state the session is in, and
neither reads nor writes.  Piped into itself it leaves the same on the standard output and comes to
the same code; and two searches leave the same in either order. -/
theorem grep_selects (run : Session.LineRunner) {input : Text}
    (hopen : session.pipeline.BuffersOpen) (hattached : session.stdoutAttached = true)
    (hknows : KnowsGrep session) (hstdin : session.stdin = .ofText input) :
    let lines := Text.withoutFinalEmpty (input.splitOn '\n')
    (∀ args search, Search.Asked args search →
      let kept := lines.filter fun line => decide (search.Selects line)
      session.Prints run [⟨"grep", args⟩] (if kept = [] then 1 else 0) (Text.unlines kept)) ∧
    (∀ args : List Text, (∀ arg ∈ args, Search.IsOption arg) →
      session.Prints run [⟨"grep", args⟩] 2 [] ∧
      ∀ other : Session, other.play run (grep args)
        = (.ok (.integer 2), other.writeError "grep: pattern required\n")) ∧
    (∀ args : List Text, ∃ code text, session.Prints run [⟨"grep", args⟩] code text ∧
      session.Prints run [⟨"grep", args⟩, ⟨"grep", args⟩] code text) ∧
    ∀ args others : List Text, ∃ code codeBack text,
      session.Prints run [⟨"grep", args⟩, ⟨"grep", others⟩] code text ∧
      session.Prints run [⟨"grep", others⟩, ⟨"grep", args⟩] codeBack text := by
  intro lines
  have hlines : session.stdin.remaining.lines = lines := by
    rw [hstdin, Source.remaining_ofText, Text.lines_eq_splitOn]
  have hone := prints_grep run hopen hattached hknows
  have htwo := prints_grep_grep run hopen hattached hknows
  rw [hlines] at hone htwo
  refine ⟨?_, ?_, ?_, ?_⟩
  · intro args search hasked kept
    have hkept : sift args lines = kept := by
      rw [sift, hasked.ofArgs?_eq]
      exact List.filter_congr fun line _ => search.finds_eq_decide line
    have hcode : siftCode args lines = if kept = [] then 1 else 0 := by
      rw [siftCode, hkept, hasked.ofArgs?_eq, if_neg (by simp)]
    rw [← hcode, ← hkept]
    exact hone args
  · intro args hoptions
    have hnone := Search.ofArgs?_eq_none hoptions
    refine ⟨?_, fun other => ?_⟩
    · have hprints := hone args
      rwa [siftCode, if_pos hnone, sift, hnone] at hprints
    · rw [grep, hnone]
      rfl
  · intro args
    have hagain := htwo args args
    rw [sift_sift, siftCode_sift, (bitOr_siftCode _ _).2] at hagain
    exact ⟨_, _, hone args, hagain⟩
  · intro args others
    have hback := htwo others args
    rw [sift_comm] at hback
    exact ⟨_, _, _, htwo args others, hback⟩

/-- A new session over a text with a blank line in it and no line feed at its end. -/
def capitals : Session where
  commands := commands
  stdin := .ofText "abc\n\nCAB\nx"

theorem grep_selects_capitals :
    capitals.pipeline.BuffersOpen ∧ capitals.stdoutAttached = true ∧ KnowsGrep capitals ∧
    capitals.stdin = .ofText "abc\n\nCAB\nx" ∧
    Search.Asked ["-v", "-i", "aB", "-x"] ⟨true, "aB"⟩ ∧ Search.Asked [""] ⟨false, ""⟩ ∧
    capitals.Prints Session.run [⟨"grep", ["-v", "-i", "aB", "-x"]⟩] 0 "abc\nCAB\n" ∧
    capitals.Prints Session.run [⟨"grep", [""]⟩] 0 "abc\n\nCAB\nx\n" ∧
    capitals.Prints Session.run [⟨"grep", ["-i"]⟩] 2 [] := by
  have hopen : capitals.pipeline.BuffersOpen := by
    intro slot
    cases slot <;> rfl
  have hignoring : Search.Asked ["-v", "-i", "aB", "-x"] ⟨true, "aB"⟩ :=
    @Search.Asked.behind ["-v", "-i"] "aB" ["-x"] (by decide) (by decide)
  have hempty : Search.Asked [""] ⟨false, ""⟩ :=
    @Search.Asked.behind [] "" [] (by simp) (by decide)
  obtain ⟨hselects, hmissing, -⟩ := @grep_selects capitals Session.run _ hopen rfl rfl rfl
  have hcapitals := hselects _ _ hignoring
  have hall := hselects _ _ hempty
  have hlines : Text.withoutFinalEmpty (List.splitOn '\n' ("abc\n\nCAB\nx" : Text))
      = (["abc", "", "CAB", "x"] : List Text) := by decide
  rw [hlines] at hcapitals hall
  exact ⟨hopen, rfl, rfl, rfl, hignoring, hempty, hcapitals, hall, (hmissing _ (by decide)).1⟩

end Builtin

end PipedShell
