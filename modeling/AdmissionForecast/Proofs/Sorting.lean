import Mathlib.Data.List.Nodup
import Mathlib.Data.List.Perm.Basic

/-! # Sorting by a text

Names are sorted in the order of code points, and records by a name they carry. The sorted list
does not depend on the order before as soon as equal texts belong to equal elements.
-/

namespace AdmissionForecast

variable {α : Type} {xs ys : List α} {key : α → String}

abbrev sortedBy (key : α → String) (xs : List α) : List α :=
  xs.mergeSort fun a b => decide (key a ≤ key b)

theorem perm_sortedBy (key : α → String) (xs : List α) : (sortedBy key xs).Perm xs :=
  List.mergeSort_perm ..

theorem pairwise_sortedBy (key : α → String) (xs : List α) :
    (sortedBy key xs).Pairwise fun a b => key a ≤ key b := by
  have htrans : ∀ a b c, decide (key a ≤ key b) = true → decide (key b ≤ key c) = true →
      decide (key a ≤ key c) = true := by
    intro a b c hab hbc
    exact decide_eq_true (String.le_trans (of_decide_eq_true hab) (of_decide_eq_true hbc))
  have htotal : ∀ a b, (decide (key a ≤ key b) || decide (key b ≤ key a)) = true := by
    intro a b
    simpa using String.le_total (key a) (key b)
  exact (List.pairwise_mergeSort htrans htotal xs).imp of_decide_eq_true

theorem sortedBy_congr (h : xs.Perm ys) (hk : ∀ a ∈ xs, ∀ b ∈ xs, key a = key b → a = b) :
    sortedBy key xs = sortedBy key ys := by
  have hp : (sortedBy key xs).Perm (sortedBy key ys) :=
    (perm_sortedBy key xs).trans (h.trans (perm_sortedBy key ys).symm)
  refine hp.eq_of_pairwise ?_ (pairwise_sortedBy key xs) (pairwise_sortedBy key ys)
  intro a b ha hb hab hba
  exact hk a ((perm_sortedBy key xs).mem_iff.mp ha) b
    (h.mem_iff.mpr ((perm_sortedBy key ys).mem_iff.mp hb)) (String.le_antisymm hab hba)

theorem sortedBy_eq_of_perm {names sorted : List String} (h : sorted.Perm names)
    (hs : sorted.Pairwise (· ≤ ·)) : sortedBy (fun name => name) names = sorted := by
  rw [← sortedBy_congr h fun a _ b _ hab => hab]
  exact List.mergeSort_of_pairwise (hs.imp fun h => decide_eq_true h)

end AdmissionForecast
