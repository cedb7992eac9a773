import ComparativeLaw.Text.Point
import Mathlib.Data.List.Lex

namespace ComparativeLaw

section Sorting

variable {α : Type} {le le' : α → α → Bool} {xs ys : List α}

/-- Only the order of the members matters to a sort. -/
theorem mergeSort_congr (h : ∀ a ∈ xs, ∀ b ∈ xs, le a b = le' a b) :
    xs.mergeSort le = xs.mergeSort le' := by
  have hmap := List.map_mergeSort (f := id) h
  rwa [List.map_id, List.map_id] at hmap

/-- Sorting what is sorted changes nothing. -/
theorem mergeSort_mergeSort (htrans : ∀ a b c, le a b = true → le b c = true → le a c = true)
    (htotal : ∀ a b, (le a b || le b a) = true) (xs : List α) :
    (xs.mergeSort le).mergeSort le = xs.mergeSort le :=
  List.mergeSort_of_pairwise (List.pairwise_mergeSort htrans htotal xs)

/-- The order in which the items are given does not show once they are sorted. -/
theorem mergeSort_eq_of_perm (htrans : ∀ a b c, le a b = true → le b c = true → le a c = true)
    (htotal : ∀ a b, (le a b || le b a) = true)
    (hanti : ∀ a ∈ xs, ∀ b ∈ xs, le a b = true → le b a = true → a = b) (hp : xs.Perm ys) :
    xs.mergeSort le = ys.mergeSort le := by
  have hxs := List.mergeSort_perm xs le
  have hys := (List.mergeSort_perm ys le).trans hp.symm
  have hsorted : (xs.mergeSort le).Pairwise fun a b => le a b = true :=
    List.pairwise_mergeSort htrans htotal xs
  have hsorted' : (ys.mergeSort le).Pairwise fun a b => le a b = true :=
    List.pairwise_mergeSort htrans htotal ys
  refine List.Perm.eq_of_pairwise ?_ hsorted hsorted' (hxs.trans hys.symm)
  intro a b ha hb
  exact hanti a (hxs.mem_iff.mp ha) b (hys.mem_iff.mp hb)

end Sorting

namespace Text

/-- Texts are ordered as the lists of their points. -/
theorem precedes_iff {s t : String} : precedes s t = true ↔ points s ≤ points t := by
  rw [precedes, Bool.not_eq_true', decide_eq_false_iff_not]
  exact not_lt

theorem precedes_refl (s : String) : precedes s s = true :=
  precedes_iff.mpr (le_refl _)

theorem precedes_trans {s t u : String} (hst : precedes s t = true) (htu : precedes t u = true) :
    precedes s u = true :=
  precedes_iff.mpr (le_trans (precedes_iff.mp hst) (precedes_iff.mp htu))

theorem precedes_total (s t : String) : (precedes s t || precedes t s) = true := by
  rw [Bool.or_eq_true, precedes_iff, precedes_iff]
  exact le_total _ _

theorem precedes_antisymm {s t : String} (hst : precedes s t = true) (hts : precedes t s = true) :
    points s = points t :=
  le_antisymm (precedes_iff.mp hst) (precedes_iff.mp hts)

end Text
end ComparativeLaw
