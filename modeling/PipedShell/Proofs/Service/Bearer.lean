import Mathlib.Data.List.TakeWhile
import PipedShell.Service.Call

/-!
# The token of an authorization

An authorization by bearer token starts with the word `bearer` in any letter case and a space.
Letter case is that of Unicode, where two characters that are not ASCII, the capital I with a dot
and the sign for kelvin, have a small form that begins with an ASCII letter.  Neither is a letter of
`bearer`, so only the ASCII spellings of the word count.

* `lowerChar_of_ascii`, `lowerChar_of_not_ascii` — the table of small letters inside and outside of
  ASCII.
* `Text.prefix_lower_iff` — how a text has to start for its lower case to start with given letters.
* `Text.NamesToken` — the form of an authorization.
* **`bearerToken?_eq_some_iff`** — a token is found in an authorization of that form, and in no
  other one.
-/

namespace PipedShell

/-! ## Small letters and ASCII -/

lemma toLower_of_not_ascii {c : Char} (h : 128 ≤ c.toNat) : c.toLower = c := by
  refine dif_neg ?_
  rintro ⟨-, hle⟩
  have hle' : c.toNat ≤ 90 := hle
  omega

lemma lowerChar_of_ascii {c : Char} (h : c.toNat < 128) : lowerChar c = c.toLower := by
  have hall : ∀ n < 128, lowerChar (Char.ofNat n) = (Char.ofNat n).toLower := by decide +kernel
  simpa using hall c.toNat h

/-- A run of capitals is ASCII, or it is the sign for kelvin, or its small letters are not ASCII. -/
lemma caseRuns_ascii : ∀ run ∈ caseRuns, run.last < 128 ∨
    (run.first = run.last ∧ run.lower run.first = 'k') ∨
    (128 ≤ run.first + run.shift ∧ run.last + run.shift < 0xd800) ∨
    (0xdfff < run.first + run.shift ∧ run.last + run.shift < 0x110000) := by
  decide +kernel

lemma toNat_ofNat_of_valid {n : Nat} (h : n < 0xd800 ∨ 0xdfff < n ∧ n < 0x110000) :
    (Char.ofNat n).toNat = n := by
  have hvalid : n.isValidChar := h
  rw [Char.ofNat, dif_pos hvalid]
  rfl

lemma lowerChar_of_not_ascii {c : Char} (h : 128 ≤ c.toNat) :
    lowerChar c = 'k' ∨ 128 ≤ (lowerChar c).toNat := by
  rw [lowerChar]
  cases hfind : caseRuns.find? (·.covers c.toNat) with
  | none => exact Or.inr h
  | some run =>
      have hcovers := List.find?_some hfind
      simp only [CaseRun.covers, Bool.and_eq_true, decide_eq_true_eq] at hcovers
      obtain ⟨⟨hfirst, hlast⟩, -⟩ := hcovers
      have hvalid : ∀ n : Nat, (n : Int) = c.toNat + run.shift → 128 ≤ n →
          (n < 0xd800 ∨ 0xdfff < n ∧ n < 0x110000) → 128 ≤ (run.lower c.toNat).toNat := by
        intro n hn hle hrange
        rw [CaseRun.lower, ← hn, Int.toNat_natCast, toNat_ofNat_of_valid hrange]
        exact hle
      rcases caseRuns_ascii run (List.mem_of_find?_eq_some hfind) with
        hascii | ⟨hsingle, hkelvin⟩ | ⟨hlow, hhigh⟩ | ⟨hlow, hhigh⟩
      · omega
      · left
        have hc : c.toNat = run.first := by omega
        simpa [hc] using hkelvin
      · right
        exact hvalid (c.toNat + run.shift).toNat (by omega) (by omega) (by omega)
      · right
        exact hvalid (c.toNat + run.shift).toNat (by omega) (by omega) (by omega)

namespace Text

/-- An ASCII letter that no other character than its capital is lower-cased to. -/
def IsUnmistakable (c : Char) : Prop := c.toNat < 128 ∧ c ≠ 'i' ∧ c ≠ 'k'

lemma lowerAt_of_ascii {c : Char} (h : c.toNat < 128) (before after : Text) :
    lowerAt before c after = [c.toLower] := by
  have hsigma : (c == '\u03a3') = false := by
    rw [beq_eq_false_iff_ne]
    rintro rfl
    exact absurd h (by decide)
  have hdotted : (c == '\u0130') = false := by
    rw [beq_eq_false_iff_ne]
    rintro rfl
    exact absurd h (by decide)
  simp [lowerAt, hsigma, hdotted, lowerChar_of_ascii h]

/-- Only an ASCII character has a small form that starts with such a letter. -/
lemma ascii_of_head_lowerAt {c small : Char} (hsmall : IsUnmistakable small) {before after : Text}
    (h : (lowerAt before c after).head? = some small) : c.toNat < 128 := by
  obtain ⟨hascii, hi, hk⟩ := hsmall
  by_contra hnot
  rw [lowerAt] at h
  split_ifs at h
  · cases h
    exact absurd hascii (by decide)
  · cases h
    exact absurd hascii (by decide)
  · cases h
    exact hi rfl
  · cases h
    rcases lowerChar_of_not_ascii (Nat.not_lt.1 hnot) with heq | hle
    · exact hk heq
    · omega

lemma lowerAt_ne_nil (before : Text) (c : Char) (after : Text) : lowerAt before c after ≠ [] := by
  rw [lowerAt]
  split_ifs <;> simp

lemma lowerFrom_eq_append (before done t : Text) :
    lowerFrom before done t = done.reverse ++ lowerFrom before [] t := by
  induction t generalizing before done with
  | nil => simp [lowerFrom]
  | cons c rest ih =>
      rw [lowerFrom, ih, lowerFrom, ih (c :: before) (_ ++ [])]
      simp

lemma lowerFrom_cons (before : Text) (c : Char) (rest : Text) :
    lowerFrom before [] (c :: rest) = lowerAt before c rest ++ lowerFrom (c :: before) [] rest := by
  rw [lowerFrom, lowerFrom_eq_append]
  simp

/-- By induction on the letters: each of them is the small form of one character. -/
lemma prefix_lowerFrom_iff {letters : Text} (h : ∀ c ∈ letters, IsUnmistakable c)
    (before t : Text) : letters <+: lowerFrom before [] t ↔
      ∃ start rest, t = start ++ rest ∧ start.map Char.toLower = letters := by
  induction letters generalizing before t with
  | nil => simp
  | cons small letters ih =>
      obtain ⟨hsmall, hletters⟩ := List.forall_mem_cons.1 h
      cases t with
      | nil => simp [lowerFrom]
      | cons c t =>
          have hstep : c.toNat < 128 → ((small :: letters <+: lowerFrom before [] (c :: t)) ↔
              c.toLower = small ∧ ∃ start rest, t = start ++ rest ∧
                start.map Char.toLower = letters) := by
            intro hascii
            rw [lowerFrom_cons, lowerAt_of_ascii hascii, List.singleton_append,
              List.cons_prefix_cons, ih hletters]
            exact and_congr_left' eq_comm
          constructor
          · intro hprefix
            have hhead : (lowerAt before c t).head? = some small := by
              obtain ⟨first, more, heq⟩ := List.exists_cons_of_ne_nil (lowerAt_ne_nil before c t)
              rw [lowerFrom_cons, heq, List.cons_append, List.cons_prefix_cons] at hprefix
              rw [heq, hprefix.1, List.head?_cons]
            obtain ⟨hlower, start, rest, rfl, hstart⟩ :=
              (hstep (ascii_of_head_lowerAt hsmall hhead)).1 hprefix
            exact ⟨c :: start, rest, rfl, by rw [List.map_cons, hlower, hstart]⟩
          · rintro ⟨_ | ⟨first, start⟩, rest, happend, hmap⟩
            · cases hmap
            · cases happend
              obtain ⟨hlower, hstart⟩ := List.cons.inj hmap
              have hascii : c.toNat < 128 := by
                by_contra hnot
                rw [toLower_of_not_ascii (Nat.not_lt.1 hnot)] at hlower
                exact hnot (hlower ▸ hsmall.1)
              exact (hstep hascii).2 ⟨hlower, start, rest, rfl, hstart⟩

/-- **How a text starts** whose lower case starts with given letters. -/
lemma prefix_lower_iff {letters : Text} (h : ∀ c ∈ letters, IsUnmistakable c) (t : Text) :
    letters <+: t.lower ↔ ∃ start rest, t = start ++ rest ∧ start.map Char.toLower = letters :=
  prefix_lowerFrom_iff h [] t

/-- The text is the word `bearer` in any letter case, a space, and a token with perhaps blanks
around it. -/
def NamesToken (header token : Text) : Prop :=
  ∃ scheme rest : Text, header = scheme ++ ' ' :: rest ∧
    scheme.map Char.toLower = ("bearer" : Text) ∧ token = rest.trim

lemma eq_space_of_toLower {c : Char} (h : c.toLower = ' ') : c = ' ' := by
  by_cases hascii : c.toNat < 128
  · have hall : ∀ n < 128, (Char.ofNat n).toLower = ' ' → Char.ofNat n = ' ' := by decide
    simpa [h] using hall c.toNat hascii
  · rwa [toLower_of_not_ascii (Nat.not_lt.1 hascii)] at h

lemma ne_space_of_mem_scheme {scheme : Text} (h : scheme.map Char.toLower = ("bearer" : Text)) :
    ∀ c ∈ scheme, (c != ' ') = true := by
  intro c hmem
  rw [bne_iff_ne]
  rintro rfl
  have hspace : ' ' ∈ ("bearer" : Text) := h ▸ List.mem_map_of_mem hmem
  exact absurd hspace (by decide)

lemma bearer_prefix_lower_iff (header : Text) :
    ("bearer " : Text) <+: header.lower ↔
      ∃ scheme rest : Text, header = scheme ++ ' ' :: rest ∧
        scheme.map Char.toLower = ("bearer" : Text) := by
  have hletters : ∀ c ∈ ("bearer " : Text), IsUnmistakable c := by
    simp [IsUnmistakable]
  have hword : ("bearer " : Text) = ("bearer" : Text) ++ [' '] := rfl
  rw [prefix_lower_iff hletters, hword]
  constructor
  · rintro ⟨start, rest, rfl, hstart⟩
    obtain ⟨scheme, last, rfl, hscheme, hlast⟩ := List.map_eq_append_iff.1 hstart
    obtain ⟨space, rfl, hspace⟩ := List.map_eq_singleton_iff.1 hlast
    rw [eq_space_of_toLower hspace, List.append_assoc]
    exact ⟨scheme, rest, rfl, hscheme⟩
  · rintro ⟨scheme, rest, rfl, hscheme⟩
    exact ⟨scheme ++ [' '], rest, by simp, by rw [List.map_append, hscheme]; rfl⟩

end Text

/-- **The token of an authorization** is found if the authorization has the form of one by bearer
token, and only then. -/
lemma bearerToken?_eq_some_iff {header token : Text} :
    bearerToken? (some header) = some token ↔ header.NamesToken token := by
  have hrest : ∀ scheme rest : Text, scheme.map Char.toLower = ("bearer" : Text) →
      ((scheme ++ ' ' :: rest).dropWhile (· != ' ')).drop 1 = rest := by
    intro scheme rest hscheme
    rw [List.dropWhile_append_of_pos (Text.ne_space_of_mem_scheme hscheme)]
    rfl
  simp only [bearerToken?, List.isPrefixOf_iff_prefix]
  constructor
  · intro h
    split_ifs at h with hprefix
    obtain ⟨scheme, rest, rfl, hscheme⟩ := (Text.bearer_prefix_lower_iff header).1 hprefix
    rw [hrest scheme rest hscheme] at h
    exact ⟨scheme, rest, rfl, hscheme, (Option.some.inj h).symm⟩
  · rintro ⟨scheme, rest, rfl, hscheme, rfl⟩
    rw [if_pos ((Text.bearer_prefix_lower_iff _).2 ⟨scheme, rest, rfl, hscheme⟩),
      hrest scheme rest hscheme]

end PipedShell
