import Mathlib.Data.List.Infix
import Mathlib.Tactic.Common
import PipedShell.Limits

/-!
# Cutting a text by bytes

A limit cuts a text between two bytes of its encoding, and what stands in front of the cut is
decoded leniently.  This file shows that no character is lost but those that do not fit, and that
nothing else comes out: the encoding finds its own way back, so the bytes of a character that was
cut in two are passed over, and no other character begins among them.

* `Utf8.firstChar?_eq_some_iff` — a character is read where all its bytes stand.
* `Utf8.eq_of_prefix_drop` — within the bytes of a character no character begins, but itself.
* `Text.clipped_cons` — a text is clipped character by character.
* `Text.LongestWithin` — the longest beginning of a text that has so many bytes.
* **`truncate_keeps_longest`** — what `truncate` keeps, and when it says that it has cut.
-/

namespace PipedShell

namespace Utf8

/-! ## One character -/

lemma firstChar?_eq_some_iff {bytes : List UInt8} {c : Char} :
    firstChar? bytes = some c ↔ String.utf8EncodeChar c <+: bytes := by
  constructor
  · intro h
    obtain ⟨rest, hrest⟩ := ByteArray.exists_of_utf8DecodeChar?_eq_some h
    have hlist := congrArg (fun array : ByteArray => array.data.toList) hrest
    simp only [List.toList_data_toByteArray, ByteArray.data_append, Array.toList_append] at hlist
    have hstart : String.utf8EncodeChar c <+: bytes.take maxCharSize := ⟨_, hlist.symm⟩
    exact hstart.trans (List.take_prefix _ _)
  · rintro ⟨rest, rfl⟩
    have hsize : (String.utf8EncodeChar c).length ≤ maxCharSize := by
      rw [String.length_utf8EncodeChar]
      exact c.utf8Size_le_four
    rw [firstChar?, List.take_append, List.take_of_length_le hsize, List.toByteArray_append]
    exact ByteArray.utf8DecodeChar?_utf8EncodeChar_append

lemma utf8EncodeChar_ne_nil (c : Char) : String.utf8EncodeChar c ≠ [] := by
  rw [Ne, ← List.length_eq_zero_iff, String.length_utf8EncodeChar]
  exact c.utf8Size_pos.ne'

/-- Within the bytes of a character no character begins but itself, at their start: a byte that
goes on with a character does not begin one, and no character's bytes begin another's. -/
lemma eq_of_prefix_drop {c d : Char} {i : ℕ}
    (h : String.utf8EncodeChar d <+: (String.utf8EncodeChar c).drop i) : i = 0 ∧ d = c := by
  have hlt : i < (String.utf8EncodeChar c).length := by
    by_contra hle
    rw [List.drop_eq_nil_of_le (Nat.not_lt.1 hle), List.prefix_nil] at h
    exact utf8EncodeChar_ne_nil d h
  have hpos : 0 < (String.utf8EncodeChar d).length :=
    List.length_pos_iff.2 (utf8EncodeChar_ne_nil d)
  obtain rfl : i = 0 := by
    have hbyte := h.getElem hpos
    rw [List.getElem_drop] at hbyte
    have hfirst : (String.utf8EncodeChar d)[0].IsUTF8FirstByte :=
      UInt8.isUTF8FirstByte_getElem_zero_utf8EncodeChar
    rw [hbyte, UInt8.isUTF8FirstByte_getElem_utf8EncodeChar] at hfirst
    omega
  have hself : firstChar? (String.utf8EncodeChar c) = some c :=
    firstChar?_eq_some_iff.2 List.prefix_rfl
  rw [List.drop_zero, ← firstChar?_eq_some_iff, hself] at h
  exact ⟨rfl, (Option.some.inj h).symm⟩

/-! ## Decoding -/

lemma decodeLenient_append (c : Char) (bytes : List UInt8) :
    decodeLenient (String.utf8EncodeChar c ++ bytes) = c :: decodeLenient bytes := by
  obtain ⟨byte, others, heq⟩ := List.exists_cons_of_ne_nil (utf8EncodeChar_ne_nil c)
  have hfirst : firstChar? (byte :: (others ++ bytes)) = some c := by
    rw [firstChar?_eq_some_iff, heq]
    exact ⟨bytes, rfl⟩
  have hsize : c.utf8Size - 1 = others.length := by
    rw [← String.length_utf8EncodeChar, heq]
    rfl
  rw [heq, List.cons_append, decodeLenient, decodeFrom, hfirst]
  simp only
  rw [decodeFrom_eq_drop, hsize, List.drop_left]

lemma decodeLenient_eq_nil {bytes : List UInt8}
    (h : ∀ i, firstChar? (bytes.drop i) = none) : decodeLenient bytes = [] := by
  induction bytes with
  | nil => rfl
  | cons byte bytes ih =>
      have hnone : firstChar? (byte :: bytes) = none := h 0
      rw [decodeLenient, decodeFrom, hnone]
      exact ih fun i => h (i + 1)

/-- Of a character that was cut in two, nothing is read. -/
lemma decodeLenient_take {c : Char} {n : ℕ} (h : n < c.utf8Size) :
    decodeLenient ((String.utf8EncodeChar c).take n) = [] := by
  refine decodeLenient_eq_nil fun i => ?_
  rw [Option.eq_none_iff_forall_not_mem]
  intro d hd
  have hstart := firstChar?_eq_some_iff.1 hd
  obtain ⟨rfl, rfl⟩ := eq_of_prefix_drop
    (hstart.trans (List.IsPrefix.drop (List.take_prefix n _) i))
  have hle := hstart.length_le
  rw [List.drop_zero, List.length_take, String.length_utf8EncodeChar] at hle
  omega

lemma encode_cons (c : Char) (t : Text) :
    encode (c :: t) = String.utf8EncodeChar c ++ encode t := rfl

lemma length_encode_cons (c : Char) (t : Text) :
    (encode (c :: t)).length = c.utf8Size + (encode t).length := by
  rw [encode_cons, List.length_append, String.length_utf8EncodeChar]

end Utf8

open Utf8

/-! ## Clipping -/

namespace Text

@[simp] lemma clipped_nil (bytes : ℕ) : clipped bytes [] = [] := by
  simp [clipped, encode, decodeLenient, decodeFrom]

/-- A text is clipped character by character: the first one is kept if all its bytes are there, and
else nothing is. -/
lemma clipped_cons (bytes : ℕ) (c : Char) (t : Text) :
    clipped bytes (c :: t)
      = if c.utf8Size ≤ bytes then c :: clipped (bytes - c.utf8Size) t else [] := by
  rw [clipped, encode_cons, List.take_append, String.length_utf8EncodeChar]
  split_ifs with h
  · rw [List.take_of_length_le (by rwa [String.length_utf8EncodeChar]), decodeLenient_append]
    rfl
  · rw [Nat.sub_eq_zero_of_le (Nat.le_of_not_le h), List.take_zero, List.append_nil,
      decodeLenient_take (Nat.lt_of_not_le h)]

/-- Of the beginnings of a text, the longest one that has at most so many bytes. -/
structure LongestWithin (bytes : ℕ) (t kept : Text) : Prop where
  isPrefix : kept <+: t
  fits : (encode kept).length ≤ bytes
  longest : ∀ other, other <+: t → (encode other).length ≤ bytes → other.length ≤ kept.length

/-- **Clipping keeps what fits**, by induction on the text: either its first character fits, and the
rest is clipped to the bytes that are left, or no character does. -/
lemma longestWithin_clipped (bytes : ℕ) (t : Text) : LongestWithin bytes t (clipped bytes t) := by
  induction t generalizing bytes with
  | nil =>
      rw [clipped_nil]
      exact ⟨List.prefix_rfl, Nat.zero_le _, fun other hother _ => hother.length_le⟩
  | cons c t ih =>
      rw [clipped_cons]
      split_ifs with h
      · have hrest := ih (bytes - c.utf8Size)
        refine ⟨List.cons_prefix_cons.2 ⟨rfl, hrest.isPrefix⟩, ?_, fun other hother hfits => ?_⟩
        · have := hrest.fits
          rw [length_encode_cons]
          omega
        · cases other with
          | nil => simp
          | cons d other =>
              obtain ⟨rfl, hstart⟩ := List.cons_prefix_cons.1 hother
              rw [length_encode_cons] at hfits
              have := hrest.longest other hstart (by omega)
              simpa using this
      · refine ⟨List.nil_prefix, Nat.zero_le _, fun other hother hfits => ?_⟩
        cases other with
        | nil => simp
        | cons d other =>
            obtain ⟨rfl, -⟩ := List.cons_prefix_cons.1 hother
            rw [length_encode_cons] at hfits
            omega

lemma LongestWithin.eq_self_iff {bytes : ℕ} {t kept : Text} (h : LongestWithin bytes t kept) :
    kept = t ↔ (encode t).length ≤ bytes := by
  refine ⟨fun heq => heq ▸ h.fits, fun hfits => ?_⟩
  exact h.isPrefix.eq_of_length_le (h.longest t List.prefix_rfl hfits)

end Text

/-- **A text is cut between characters, and as much is kept as fits.**  For any limit there is a
longest beginning of the text that has no more bytes.  The text comes through as it is if all of it
fits, and else that beginning does, with the mark behind it.  The flag is set exactly if something
was cut off. -/
theorem truncate_keeps_longest (t : Text) (limit : ℕ) :
    ∃ kept, Text.LongestWithin limit t kept ∧
      truncate t limit
        = (if (encode t).length ≤ limit then (t, false) else (kept ++ truncationMark, true)) ∧
      ((truncate t limit).2 = true ↔ ∃ cut, cut ≠ [] ∧ t = kept ++ cut) := by
  have hlongest := Text.longestWithin_clipped limit t
  have htruncate : truncate t limit = (if (encode t).length ≤ limit then (t, false)
      else (Text.clipped limit t ++ truncationMark, true)) := by
    simp [truncate, bytesKept]
  refine ⟨Text.clipped limit t, hlongest, htruncate, ?_⟩
  obtain ⟨cut, hcut⟩ := hlongest.isPrefix
  have hnil : cut = [] ↔ (encode t).length ≤ limit := by
    rw [← hlongest.eq_self_iff]
    constructor
    · rintro rfl
      simpa using hcut
    · intro hwhole
      rw [hwhole] at hcut
      simpa using hcut
  rw [htruncate]
  constructor
  · intro hflag
    refine ⟨cut, fun heq => ?_, hcut.symm⟩
    simp [hnil.1 heq] at hflag
  · rintro ⟨other, hne, heq⟩
    obtain rfl : cut = other := List.append_cancel_left (hcut.trans heq)
    rw [Ne, hnil] at hne
    simp [hne]

example : truncate "né€😀!" 6 = (("né€\n...(truncated)\n" : Text), true) := by decide

end PipedShell
