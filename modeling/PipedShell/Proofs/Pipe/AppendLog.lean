import PipedShell.Proofs.Pipe.Cursor
import PipedShell.Proofs.Text.Pieces

/-!
# A buffer is a log with a reader of its own

Whatever is written to a buffer is appended to its text, and whatever is read from it comes from a
position that only reading moves.  What hides this is the rest of a line that the reader may hold
back: it was fetched already, so it lies before the position, and it is given out again.

* `Buffer.ReadsBy` — a read as a loop that fetches line after line, with the lines that it fetches.
  `Buffer.read_of_readsBy` and `Buffer.exists_readsBy`: reading a buffer is this loop.
* `Buffer.Advances` — what fetching lines does to a buffer.
* `Ledger` and `Buffer.HasLedger` — what was written and fetched since a buffer was new or cleared,
  kept along anything that is done with it.
* **`Buffer.append_log`** — a buffer and its ledger agree, and clearing makes a new buffer of it.
-/

namespace PipedShell

/-! ## Words on the line that is fetched -/

namespace Text

lemma firstWord_trimLeft (t : Text) : t.trimLeft.firstWord = t.firstWord := by
  have htwice : trimLeft (trimLeft t) = trimLeft t := by
    conv_rhs => rw [← takeWhile_append_trimLeft t]
    rw [trimLeft_append List.all_takeWhile]
  rw [firstWord, firstWord, htwice]

/-- The blanks in front of a text belong to its first line, unless that is blank. -/
lemma cutLine_trimLeft {t : Text} (h : t.cutLine.1.allBlank = false) :
    t.trimLeft.cutLine = (t.cutLine.1.trimLeft, t.cutLine.2) := by
  induction t with
  | nil => rfl
  | cons c t ih =>
      have hfeed : c ≠ '\n' := by
        rintro rfl
        simp [cutLine_cons, allBlank, isBlank] at h
      have hcut : cutLine (c :: t) = (c :: (cutLine t).1, (cutLine t).2) := by
        rw [cutLine_cons, if_neg hfeed]
      by_cases hc : isBlank c = true
      · rw [hcut] at h ⊢
        simp only [allBlank, List.all_cons, hc, Bool.true_and] at h
        simpa [trimLeft, hc] using ih h
      · simp [hcut, trimLeft, hc]

lemma allBlank_of_firstWord_ne_none {t : Text} (h : t.firstWord ≠ none) : t.allBlank = false := by
  rwa [Ne, firstWord_eq_none_iff, Bool.not_eq_true] at h

end Text

namespace Source

variable {source : Source}

lemma fetch_fst_eq_nil_iff : source.fetch.1 = [] ↔ source.remaining = [] := by
  rw [fetch, remaining]
  split_ifs with h
  · simp only [List.isEmpty_iff] at h
    simp [h, Text.cutLine_fst_eq_nil_iff]
  · simp only [List.isEmpty_iff] at h
    simp [h]

lemma eq_ofText_of_remaining (h : source.remaining = []) : source = ofText [] := by
  obtain ⟨unread, pending⟩ := source
  obtain ⟨rfl, rfl⟩ := List.append_eq_nil_iff.1 h
  rfl

lemma readLine_eq_fetch (source : Source) :
    source.readLine
      = (if source.fetch.1 = [] then none else some source.fetch.1.chomp, source.fetch.2) := by
  simp only [readLine, List.isEmpty_iff]

/-- A word is taken from the line that is fetched, if there is one on it. -/
lemma readWord_of_fetch_some {word rest : Text} (h : source.fetch.1.firstWord = some (word, rest)) :
    source.readWord = (some word, { source.fetch.2 with pending := rest }) := by
  obtain ⟨unread, pending⟩ := source
  cases pending with
  | nil =>
      have hline : unread.cutLine.1.firstWord = some (word, rest) := h
      have hblank : unread.cutLine.1.allBlank = false :=
        Text.allBlank_of_firstWord_ne_none (by simp [hline])
      have hcut := Text.cutLine_trimLeft hblank
      have hnone : Text.firstWord [] = none := rfl
      simp only [readWord, hnone, hcut, Text.firstWord_trimLeft, hline]
      rfl
  | cons c pending =>
      have hpending : Text.firstWord (c :: pending) = some (word, rest) := h
      simp only [readWord, hpending]
      rfl

/-- A blank line is passed over. -/
lemma readWord_of_fetch_none (h : source.fetch.1.firstWord = none) :
    source.readWord = source.fetch.2.readWord := by
  obtain ⟨unread, pending⟩ := source
  have hnone : Text.firstWord [] = none := rfl
  cases pending with
  | nil =>
      have hblank : unread.cutLine.1.allBlank = true := (Text.firstWord_eq_none_iff _).1 h
      have htrim : unread.cutLine.2.trimLeft = unread.trimLeft := by
        rw [← Text.trimLeft_append hblank, unread.cutLine_append]
      simp only [readWord, fetch, List.isEmpty_nil, if_true, hnone, htrim]
  | cons c pending =>
      have hpending : Text.firstWord (c :: pending) = none := h
      simp only [readWord, hpending, fetch, List.isEmpty_cons, Bool.false_eq_true, if_false, reset,
        hnone]

end Source

namespace Buffer

variable {before middle after : Buffer} {lines others : List Text} {line : Text}

/-! ## A read as a loop -/

/-- The next line for the reader: what is held back, or else a line that is fetched. -/
inductive NextLine : Buffer → List Text → Text → Buffer → Prop
  | held {before : Buffer} (h : before.pending ≠ []) :
      NextLine before [] before.pending before.resetSource
  | fetched {before after : Buffer} {line : Text} (h : before.pending = [])
      (hfetch : before.fetchLine = (.ok line, after)) : NextLine before [line] line after

/-- A read as a loop over lines, with the lines that are fetched for it, what it gives and what it
leaves.  A line is what is next.  A word is the first one on the next line that has one; the rest of
that line is held back.  The whole is all lines up to an empty one. -/
inductive ReadsBy : Reading → Buffer → List Text → Option Text → Buffer → Prop
  | noLine {before after : Buffer} {lines : List Text} (hnext : NextLine before lines [] after) :
      ReadsBy .line before lines none after
  | line {before after : Buffer} {lines : List Text} {line : Text}
      (hnext : NextLine before lines line after) (hne : line ≠ []) :
      ReadsBy .line before lines (some line.chomp) after
  | noWord {before after : Buffer} {lines : List Text} (hnext : NextLine before lines [] after) :
      ReadsBy .word before lines none after
  | blankLine {before middle after : Buffer} {lines others : List Text} {line : Text}
      {result : Option Text} (hnext : NextLine before lines line middle) (hne : line ≠ [])
      (hblank : line.firstWord = none) (hothers : ReadsBy .word middle others result after) :
      ReadsBy .word before (lines ++ others) result after
  | word {before after : Buffer} {lines : List Text} {line word rest : Text}
      (hnext : NextLine before lines line after) (hword : line.firstWord = some (word, rest)) :
      ReadsBy .word before lines (some word) { after with pending := rest }
  | atEnd {before after : Buffer} {lines : List Text} (hnext : NextLine before lines [] after) :
      ReadsBy .all before lines (some []) after
  | further {before middle after : Buffer} {lines others : List Text} {line text : Text}
      (hnext : NextLine before lines line middle) (hne : line ≠ [])
      (hothers : ReadsBy .all middle others (some text) after) :
      ReadsBy .all before (lines ++ others) (some (line ++ text)) after

/-- What fetching lines does to a buffer: the reader moves on over them, and nothing else changes
but what is held back. -/
structure Advances (before : Buffer) (lines : List Text) (after : Buffer) : Prop where
  owned : after.owned = before.owned
  closed : after.closed = before.closed
  stored : after.stored = before.stored
  position : after.position = before.position + lines.flatten.length
  unread : before.unread = lines.flatten ++ after.unread

namespace Advances

lemma refl (buffer : Buffer) (pending : Text) : Advances buffer [] { buffer with pending } :=
  ⟨rfl, rfl, rfl, rfl, rfl⟩

lemma trans (h : Advances before lines middle) (h' : Advances middle others after) :
    Advances before (lines ++ others) after where
  owned := h'.owned.trans h.owned
  closed := h'.closed.trans h.closed
  stored := h'.stored.trans h.stored
  position := by
    rw [h'.position, h.position, List.flatten_append, List.length_append]
    omega
  unread := by rw [h.unread, h'.unread, List.flatten_append, List.append_assoc]

/-- What the reader holds back is of no account. -/
lemma holding (h : Advances before lines after) (pending : Text) :
    Advances before lines { after with pending } :=
  ⟨h.owned, h.closed, h.stored, h.position, h.unread⟩

/-- The lines are what lies between the two positions. -/
lemma take_eq (h : Advances before lines after) :
    before.stored.take before.position ++ lines.flatten = after.stored.take after.position := by
  have hunread : before.stored.drop before.position = lines.flatten ++ after.unread := h.unread
  rw [h.stored, h.position, List.take_add, hunread, List.take_left]

lemma positioned (h : Advances before lines after) (hpositioned : before.Positioned) :
    after.Positioned := by
  have hlength := congrArg List.length h.unread
  simp only [Buffer.unread, List.length_append, List.length_drop] at hlength
  rw [Positioned] at hpositioned ⊢
  rw [h.stored, h.position]
  omega

lemma moveTo_eq (h : Advances before lines after) (hpositioned : before.Positioned) :
    before.moveTo after.source = after := by
  have hsame : before.moveTo after.source = after.moveTo after.source := by
    simp only [moveTo, h.owned, h.closed, h.stored]
  rw [hsame, moveTo_source (h.positioned hpositioned)]

end Advances

lemma fetchLine_of_open {buffer : Buffer} (h : buffer.closed = false) :
    buffer.fetchLine = (.ok buffer.unread.cutLine.1,
      { buffer with position := buffer.position + buffer.unread.cutLine.1.length }) := by
  simp [fetchLine, whenOpen, h]

lemma advances_fetchLine (h : before.closed = false)
    (hfetch : before.fetchLine = (.ok line, after)) : Advances before [line] after := by
  rw [fetchLine_of_open h] at hfetch
  obtain ⟨hline, rfl⟩ := Prod.mk.inj hfetch
  obtain rfl := Except.ok.inj hline
  refine ⟨rfl, rfl, rfl, by simp, ?_⟩
  have hdrop := congrArg (List.drop before.unread.cutLine.1.length) before.unread.cutLine_append
  rw [List.drop_left, unread, List.drop_drop] at hdrop
  rw [List.flatten_singleton, unread]
  conv_lhs => rw [← Text.cutLine_append (before.stored.drop before.position)]
  exact congrArg _ hdrop

namespace NextLine

lemma advances (h : NextLine before lines line after) (hopen : before.closed = false) :
    Advances before lines after := by
  cases h with
  | held _ => exact .refl before []
  | fetched _ hfetch => exact advances_fetchLine hopen hfetch

/-- The next line is what the source that the reader sees fetches. -/
lemma fetch_eq (h : NextLine before lines line after) (hopen : before.closed = false) :
    before.source.fetch = (line, after.source) := by
  have hunread := (h.advances hopen).unread
  cases h with
  | held hne =>
      rw [Source.fetch, if_neg (by simpa [source] using hne)]
      rfl
  | @fetched _ _ hnil hfetch =>
      rw [fetchLine_of_open hopen] at hfetch
      obtain ⟨hline, rfl⟩ := Prod.mk.inj hfetch
      obtain rfl := Except.ok.inj hline
      rw [List.flatten_singleton] at hunread
      have hrest : before.unread.cutLine.2
          = unread { before with position := before.position + before.unread.cutLine.1.length } :=
        List.append_cancel_left (before.unread.cutLine_append.trans hunread)
      rw [Source.fetch, if_pos (by simp [source, hnil])]
      simp [source, hnil, hrest]

/-- Nothing is next only at the end. -/
lemma source_eq_of_nil (h : NextLine before lines [] after) (hopen : before.closed = false) :
    before.source = .ofText [] ∧ after.source = .ofText [] := by
  have hfetch := h.fetch_eq hopen
  have hbefore : before.source = .ofText [] :=
    Source.eq_ofText_of_remaining (Source.fetch_fst_eq_nil_iff.1 (congrArg Prod.fst hfetch))
  rw [hbefore] at hfetch
  exact ⟨hbefore, (congrArg Prod.snd hfetch).symm⟩

end NextLine

lemma exists_nextLine (h : before.closed = false) :
    ∃ lines line after, NextLine before lines line after := by
  by_cases hnil : before.pending = []
  · exact ⟨_, _, _, .fetched hnil (fetchLine_of_open h)⟩
  · exact ⟨_, _, _, .held hnil⟩

namespace ReadsBy

variable {how : Reading} {result : Option Text}

lemma advances (h : ReadsBy how before lines result after) (hopen : before.closed = false) :
    Advances before lines after := by
  induction h with
  | noLine hnext | line hnext _ | noWord hnext | atEnd hnext => exact hnext.advances hopen
  | word hnext _ => exact (hnext.advances hopen).holding _
  | blankLine hnext _ _ _ ih | further hnext _ _ ih =>
      have hfirst := hnext.advances hopen
      exact hfirst.trans (ih (hfirst.closed.trans hopen))

/-- The loop gives and leaves what reading the source does that the reader sees. -/
lemma source_read_eq (h : ReadsBy how before lines result after) (hopen : before.closed = false) :
    before.source.read how = (result, after.source) := by
  induction h with
  | noLine hnext =>
      rw [Source.read, Source.readLine_eq_fetch, hnext.fetch_eq hopen, if_pos rfl]
  | line hnext hne =>
      rw [Source.read, Source.readLine_eq_fetch, hnext.fetch_eq hopen, if_neg hne]
  | noWord hnext | atEnd hnext =>
      obtain ⟨hbefore, hafter⟩ := hnext.source_eq_of_nil hopen
      rw [hbefore, hafter]
      rfl
  | blankLine hnext _ hblank _ ih =>
      have hfetch := hnext.fetch_eq hopen
      have hread := ih ((hnext.advances hopen).closed.trans hopen)
      rw [Source.read, Source.readWord_of_fetch_none (by rw [hfetch]; exact hblank), hfetch]
      exact hread
  | word hnext hword =>
      have hfetch := hnext.fetch_eq hopen
      rw [Source.read, Source.readWord_of_fetch_some (by rw [hfetch]; exact hword), hfetch]
      rfl
  | further hnext _ _ ih =>
      have hread := ih ((hnext.advances hopen).closed.trans hopen)
      obtain ⟨htext, hafter⟩ := Prod.mk.inj hread
      obtain rfl := Option.some.inj htext
      rw [← hafter, Source.read, Source.readAll, ← Source.fetch_append, hnext.fetch_eq hopen]
      rfl

end ReadsBy

/-- Reading is the loop. -/
lemma read_of_readsBy {how : Reading} {result : Option Text}
    (h : ReadsBy how before lines result after) (hopen : before.closed = false)
    (hpositioned : before.Positioned) : before.read how = (.ok result, after) := by
  rw [read_of_open hopen, h.source_read_eq hopen,
    (h.advances hopen).moveTo_eq hpositioned]

/-- The loop comes to an end, by induction on what is left for the reader: each line that is not
empty takes something off it. -/
lemma exists_readsBy (how : Reading) (h : before.closed = false) :
    ∃ lines result after, ReadsBy how before lines result after := by
  induction hlength : before.source.remaining.length using Nat.strong_induction_on
    generalizing before with
  | _ length ih =>
      obtain ⟨lines, line, middle, hnext⟩ := exists_nextLine h
      have hopen : middle.closed = false := (hnext.advances h).closed.trans h
      by_cases hnil : line = []
      · subst hnil
        cases how with
        | line => exact ⟨_, _, _, .noLine hnext⟩
        | word => exact ⟨_, _, _, .noWord hnext⟩
        | all => exact ⟨_, _, _, .atEnd hnext⟩
      · have hless : middle.source.remaining.length < length := by
          have hremaining := congrArg List.length before.source.fetch_append
          have hpos := List.length_pos_iff.2 hnil
          rw [hnext.fetch_eq h, List.length_append] at hremaining
          dsimp only at hremaining
          omega
        obtain ⟨others, result, after, hothers⟩ := ih _ hless hopen rfl
        cases how with
        | line => exact ⟨_, _, _, .line hnext hnil⟩
        | word =>
            cases hword : line.firstWord with
            | none => exact ⟨_, _, _, .blankLine hnext hnil hword hothers⟩
            | some split => exact ⟨_, _, _, .word hnext hword⟩
        | all =>
            obtain ⟨htext, -⟩ := Prod.mk.inj (hothers.source_read_eq hopen)
            subst htext
            exact ⟨_, _, _, .further hnext hnil hothers⟩

end Buffer

/-! ## The ledger of a buffer -/

/-- What came of a buffer since it was new or was cleared. -/
structure Ledger where
  /-- The text that it held then. -/
  initial : Text := []
  /-- The texts that were written since. -/
  written : List Text := []
  /-- The lines that were fetched since, one by one or for a read. -/
  fetched : List Text := []

/-- The text that was there, and behind it all that was written. -/
def Ledger.value (ledger : Ledger) : Text := ledger.initial ++ ledger.written.flatten

namespace Buffer

variable {before after : Buffer} {lines : List Text}

/-- A buffer with its ledger, whatever was done with it: it was new, with a text in it if it was
lent, and then it was written to, read and looked at in any order, and cleared at any time. -/
inductive HasLedger : Buffer → Ledger → Prop
  | new (loan : Option Text) : HasLedger (ofLoan loan) { initial := loan.getD [] }
  | write {before after : Buffer} {ledger : Ledger} {size : ℕ} (text : Text)
      (h : HasLedger before ledger) (hwrite : before.write text = (.ok size, after)) :
      HasLedger after { ledger with written := ledger.written ++ [text] }
  | fetchLine {before after : Buffer} {ledger : Ledger} {line : Text}
      (h : HasLedger before ledger) (hfetch : before.fetchLine = (.ok line, after)) :
      HasLedger after { ledger with fetched := ledger.fetched ++ [line] }
  | read {before after : Buffer} {ledger : Ledger} {how : Reading} {lines : List Text}
      {result : Option Text} (h : HasLedger before ledger)
      (hread : before.read how = (.ok result, after))
      (hloop : ReadsBy how before lines result after) :
      HasLedger after { ledger with fetched := ledger.fetched ++ lines }
  | contents {before after : Buffer} {ledger : Ledger} {text : Text}
      (h : HasLedger before ledger) (hcontents : before.contents = (.ok text, after)) :
      HasLedger after ledger
  | flush {before : Buffer} {ledger : Ledger} (h : HasLedger before ledger) :
      HasLedger before.flush ledger
  | clear {before after : Buffer} {ledger : Ledger}
      (h : HasLedger before ledger) (hclear : before.clear = (.ok (), after)) :
      HasLedger after {}

/-- A buffer is open and holds what its ledger says, up to where the reader is. -/
structure Agrees (buffer : Buffer) (ledger : Ledger) : Prop where
  is_open : buffer.closed = false
  stored : buffer.stored = ledger.value
  positioned : buffer.Positioned
  fetched : ledger.fetched.flatten = buffer.stored.take buffer.position

namespace Agrees

variable {ledger : Ledger}

lemma write (h : before.Agrees ledger) (text : Text) :
    (before.append text).Agrees { ledger with written := ledger.written ++ [text] } where
  is_open := h.is_open
  stored := by simp [append, h.stored, Ledger.value]
  positioned := h.positioned.trans (by simp [append])
  fetched := by
    rw [h.fetched, append, List.take_append_of_le_length h.positioned]

lemma advance (h : before.Agrees ledger) (hadvances : Advances before lines after) :
    after.Agrees { ledger with fetched := ledger.fetched ++ lines } where
  is_open := hadvances.closed.trans h.is_open
  stored := hadvances.stored.trans h.stored
  positioned := hadvances.positioned h.positioned
  fetched := by rw [← hadvances.take_eq, ← h.fetched, List.flatten_append]

end Agrees

/-- Clearing makes a new buffer, whatever was in it and whatever was held back. -/
lemma clear_eq_new {buffer : Buffer} (h : buffer.closed = false) :
    buffer.clear = (.ok (), ofLoan (if buffer.owned then none else some [])) := by
  rw [clear_of_open h]
  cases howned : buffer.owned <;> simp [emptied, ofLoan, fresh, lent, h, howned]

lemma contents_of_open {buffer : Buffer} (h : buffer.closed = false) :
    buffer.contents = (.ok buffer.stored, buffer) := by
  simp [contents, whenOpen, h]

lemma agrees_new (loan : Option Text) : (ofLoan loan).Agrees { initial := loan.getD [] } := by
  cases loan <;> exact ⟨rfl, by simp [ofLoan, fresh, lent, Ledger.value], Nat.zero_le _, rfl⟩

/-- **The buffer and its ledger always agree**, step by step. -/
lemma HasLedger.agrees {buffer : Buffer} {ledger : Ledger} (h : buffer.HasLedger ledger) :
    buffer.Agrees ledger := by
  induction h with
  | new loan => exact agrees_new loan
  | write _ _ hwrite ih =>
      rw [write_of_open ih.is_open] at hwrite
      obtain ⟨-, rfl⟩ := Prod.mk.inj hwrite
      exact ih.write _
  | fetchLine _ hfetch ih => exact ih.advance (advances_fetchLine ih.is_open hfetch)
  | read _ _ hloop ih => exact ih.advance (hloop.advances ih.is_open)
  | contents _ hcontents ih =>
      rw [contents_of_open ih.is_open] at hcontents
      obtain ⟨-, rfl⟩ := Prod.mk.inj hcontents
      exact ih
  | flush _ ih => exact ih
  | clear _ hclear ih =>
      rw [clear_eq_new ih.is_open] at hclear
      obtain ⟨-, rfl⟩ := Prod.mk.inj hclear
      split_ifs
      · exact agrees_new none
      · exact agrees_new (some [])

/-- **A buffer is a log that is appended to, with a reader of its own.**  Whatever was done with a
buffer since it was new or last cleared, all of the following can be done.  Looking at it shows the
text that was there and all texts written since, in order, and changes nothing.  Writing leaves the
reader where it is, and reading leaves what is stored.  The lines that were fetched, one by one or
for a read, are the text up to the position of the reader; reading all gives what is held back and
the text behind that position.  Clearing makes a new buffer of it with nothing in it. -/
theorem append_log {buffer : Buffer} {ledger : Ledger} (h : buffer.HasLedger ledger) :
    buffer.contents = (.ok ledger.value, buffer) ∧
    buffer.flush = buffer ∧
    (∀ text, ∃ after, buffer.write text = (.ok text.length, after) ∧
      after.stored = ledger.value ++ text ∧
      after.position = buffer.position ∧ after.pending = buffer.pending) ∧
    (∃ line after, buffer.fetchLine = (.ok line, after) ∧ after.stored = ledger.value) ∧
    (∀ how, ∃ lines result after, buffer.read how = (.ok result, after) ∧
      ReadsBy how buffer lines result after ∧ after.stored = ledger.value) ∧
    (buffer.position ≤ ledger.value.length ∧
      ledger.fetched.flatten = ledger.value.take buffer.position) ∧
    (buffer.read .all).1 = .ok (some (buffer.pending ++ ledger.value.drop buffer.position)) ∧
    buffer.clear = (.ok (), ofLoan (if buffer.owned then none else some [])) := by
  have hagrees := h.agrees
  have hopen := hagrees.is_open
  have hstored := hagrees.stored
  refine ⟨?_, rfl, fun text => ?_, ?_, fun how => ?_, ⟨?_, ?_⟩, ?_, clear_eq_new hopen⟩
  · rw [contents_of_open hopen, hstored]
  · exact ⟨_, write_of_open hopen text, by rw [append, hstored], rfl, rfl⟩
  · have hfetch := fetchLine_of_open hopen
    exact ⟨_, _, hfetch, (advances_fetchLine hopen hfetch).stored.trans hstored⟩
  · obtain ⟨lines, result, after, hloop⟩ := exists_readsBy how hopen
    exact ⟨lines, result, after, read_of_readsBy hloop hopen hagrees.positioned, hloop,
      (hloop.advances hopen).stored.trans hstored⟩
  · rw [← hstored]
    exact hagrees.positioned
  · rw [← hstored]
    exact hagrees.fetched
  · rw [read_of_open hopen, ← hstored]
    rfl

/-- A lent buffer of which a word was read and that was written to then. -/
def halfRead : Buffer :=
  { owned := false, stored := "one two\nthree four\n", position := 8, pending := "two\n" }

/-- Its ledger: the first word was taken from the first line. -/
def halfReadLedger : Ledger where
  initial := "one two\nthree"
  written := [" four\n"]
  fetched := ["one two\n"]

theorem append_log_halfRead :
    halfRead.HasLedger halfReadLedger ∧
    halfRead.contents = (.ok ("one two\nthree four\n" : Text), halfRead) ∧
    (halfRead.read .all).1 = .ok (some ("two\nthree four\n" : Text)) ∧
    halfRead.clear = (.ok (), lent []) := by
  have hnext : NextLine (lent "one two\nthree") ["one two\n"] "one two\n"
      { lent "one two\nthree" with position := 8 } := .fetched rfl rfl
  have hsplit : Text.firstWord "one two\n" = some (("one" : Text), ("two\n" : Text)) := by decide
  have hword : ReadsBy .word (lent "one two\nthree") ["one two\n"] (some ("one" : Text))
      { lent "one two\nthree" with position := 8, pending := "two\n" } := .word hnext hsplit
  have hledger : halfRead.HasLedger halfReadLedger :=
    .write " four\n" (.read (.new (some ("one two\nthree" : Text))) rfl hword) rfl
  obtain ⟨hcontents, -, -, -, -, -, hall, hclear⟩ := append_log hledger
  exact ⟨hledger, hcontents, hall, hclear⟩

end Buffer

end PipedShell
