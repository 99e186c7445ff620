import Mathlib.Data.Char
import Mathlib.Data.List.Lex
import PipedShell.Text

/-!
# Texts in order

Texts are compared code point by code point, which is a linear order.  So what is sorted by names
that differ is strictly ascending, and there is one such order.

* `Text.pairwise_lt_mergeSort` — sorting items with different keys by their keys.
* `Text.mergeSort_append_eq` — an item added to a sorted table stands at one place of it, and
  leaves the others in the order that they had.
* `Text.pairwise_lt_sorted`, `Text.sorted_eq_of_perm` — sorting texts that differ.
-/

namespace PipedShell

namespace Text

lemma le_iff {a b : Text} : le a b = true ↔ a ≤ b := by
  rw [le, Bool.not_eq_true', decide_eq_false_iff_not]
  exact not_lt

section Keys

variable {α : Type} {key : α → Text} {items : List α}

lemma pairwise_le_mergeSort (key : α → Text) (items : List α) :
    (items.mergeSort fun a b => le (key a) (key b)).Pairwise fun a b => key a ≤ key b := by
  refine (List.pairwise_mergeSort (fun a b c hab hbc => ?_) (fun a b => ?_) items).imp le_iff.1
  · exact le_iff.2 ((le_iff.1 hab).trans (le_iff.1 hbc))
  · rw [Bool.or_eq_true, le_iff, le_iff]
    exact le_total _ _

lemma pairwise_lt_mergeSort (h : items.Pairwise fun a b => key a ≠ key b) :
    (items.mergeSort fun a b => le (key a) (key b)).Pairwise fun a b => key a < key b := by
  have hne : (items.mergeSort fun a b => le (key a) (key b)).Pairwise fun a b => key a ≠ key b :=
    ((List.mergeSort_perm items _).pairwise_iff Ne.symm).2 h
  exact ((pairwise_le_mergeSort key items).and hne).imp fun hab => lt_of_le_of_ne hab.1 hab.2

/-- Strictly ascending lists of the same items are the same list. -/
lemma eq_of_perm_of_pairwise_lt {others : List α} (hperm : items.Perm others)
    (hitems : items.Pairwise fun a b => key a < key b)
    (hothers : others.Pairwise fun a b => key a < key b) : items = others :=
  hperm.eq_of_pairwise (fun _ _ _ _ hab hba => absurd hab hba.asymm) hitems hothers

section Append

variable {item : α} (hitems : items.Pairwise fun a b => key a < key b)
  (hnew : ∀ other ∈ items, key other ≠ key item)
include hitems hnew

lemma pairwise_lt_mergeSort_append :
    ((items ++ [item]).mergeSort fun a b => le (key a) (key b)).Pairwise
      fun a b => key a < key b := by
  refine pairwise_lt_mergeSort (List.pairwise_append.2
    ⟨hitems.imp ne_of_lt, List.pairwise_singleton _ _, fun other hother last hlast => ?_⟩)
  rw [List.mem_singleton.1 hlast]
  exact hnew other hother

lemma mergeSort_append_eq :
    ∃ front back, ((items ++ [item]).mergeSort fun a b => le (key a) (key b))
        = front ++ item :: back ∧ front ++ back = items := by
  have hperm := List.mergeSort_perm (items ++ [item]) fun a b => le (key a) (key b)
  have hascending := pairwise_lt_mergeSort_append hitems hnew
  obtain ⟨front, back, hsplit⟩ := List.append_of_mem (hperm.mem_iff.2 List.mem_concat_self)
  refine ⟨front, back, hsplit, ?_⟩
  rw [hsplit] at hperm hascending
  have hothers : (front ++ back).Perm items :=
    (List.perm_middle.symm.trans (hperm.trans (List.perm_append_singleton item items))).cons_inv
  have hsublist : List.Sublist (front ++ back) (front ++ item :: back) :=
    (List.sublist_cons_self item back).append_left front
  exact eq_of_perm_of_pairwise_lt hothers (hascending.sublist hsublist) hitems

end Append

end Keys

lemma pairwise_lt_sorted {texts : List Text} (h : texts.Nodup) :
    (sorted texts).Pairwise (· < ·) :=
  @pairwise_lt_mergeSort Text id texts h

lemma sorted_eq_of_perm {texts ascending : List Text} (hperm : texts.Perm ascending)
    (h : ascending.Pairwise (· < ·)) : sorted texts = ascending := by
  have hnodup : texts.Nodup := hperm.nodup_iff.2 (h.imp ne_of_lt)
  exact @eq_of_perm_of_pairwise_lt Text id _ _ ((List.mergeSort_perm texts le).trans hperm)
    (pairwise_lt_sorted hnodup) h

lemma mem_sorted {text : Text} {texts : List Text} : text ∈ sorted texts ↔ text ∈ texts :=
  List.mem_mergeSort

end Text

end PipedShell
