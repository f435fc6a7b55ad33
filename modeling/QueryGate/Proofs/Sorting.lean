import Mathlib.Data.List.Infix

/-!
Lists in ascending order.

Where elements that come before each other are the same, a list has one ascending
order only, whatever sorts it, and all that sorting forgets is the order.
-/

namespace QueryGate

section Sorting

variable {α : Type} {le : α → α → Bool} {xs ys : List α}
  (htrans : ∀ a b c, le a b = true → le b c = true → le a c = true)
  (htotal : ∀ a b, (le a b || le b a) = true)
  (hantisymm : ∀ a b, le a b = true → le b a = true → a = b)

include htrans htotal hantisymm

theorem eq_mergeSort_iff :
    ys = xs.mergeSort le ↔ ys.Perm xs ∧ ys.Pairwise fun a b => le a b = true := by
  have hperm : (xs.mergeSort le).Perm xs := List.mergeSort_perm xs le
  have hascending := List.pairwise_mergeSort htrans htotal xs
  constructor
  · rintro rfl
    exact ⟨hperm, hascending⟩
  · rintro ⟨h, hys⟩
    exact (h.trans hperm.symm).eq_of_pairwise
      (fun a b _ _ => hantisymm a b) hys hascending

theorem mergeSort_eq_mergeSort_iff : xs.mergeSort le = ys.mergeSort le ↔
    xs.Perm ys := by
  have hperm : (xs.mergeSort le).Perm xs := List.mergeSort_perm xs le
  rw [eq_mergeSort_iff htrans htotal hantisymm]
  constructor
  · rintro ⟨h, -⟩
    exact hperm.symm.trans h
  · intro h
    exact ⟨hperm.trans h, List.pairwise_mergeSort htrans htotal xs⟩

end Sorting

end QueryGate
