import Mathlib.Data.List.Sort
import Mathlib.Tactic.Common

/-!
# Ascending lists

A strictly ascending list stands for a finite set. The place of an element is
after all the smaller ones; inserting and erasing there are the ordered
insertion and the erasure of the element, and keep the list ascending.
-/

namespace AscendingList

variable {α : Type*} [LinearOrder α] {xs : List α} {x y : α}

/-- Where `x` is in an ascending list, or where it belongs. -/
def place (xs : List α) (x : α) : ℕ :=
  (xs.takeWhile (· < x)).length

theorem insertIdx_place (xs : List α) (x : α) :
    xs.insertIdx (place xs x) x = xs.orderedInsert (· ≤ ·) x := by
  induction xs with
  | nil => rfl
  | cons y ys ih =>
      by_cases smaller : y < x
      · have placed : place (y :: ys) x = place ys x + 1 := by simp [place, smaller]
        rw [placed, List.insertIdx_succ_cons, ih, List.orderedInsert_of_not_le]
        exact not_le.mpr smaller
      · have placed : place (y :: ys) x = 0 := by simp [place, smaller]
        rw [placed, List.insertIdx_zero, List.orderedInsert_cons_of_le]
        exact not_lt.mp smaller

/-- Inserting a new element keeps the list ascending. -/
theorem pairwise_orderedInsert (ascending : xs.Pairwise (· < ·)) (new : x ∉ xs) :
    (xs.orderedInsert (· ≤ ·) x).Pairwise (· < ·) := by
  induction xs with
  | nil => simp
  | cons y ys ih =>
      rcases List.pairwise_cons.mp ascending with ⟨above, ascending⟩
      rcases not_or.mp (mt List.mem_cons.mpr new) with ⟨other, new⟩
      by_cases smaller : y < x
      · rw [List.orderedInsert_of_not_le _ _ (not_le.mpr smaller), List.pairwise_cons]
        refine ⟨fun z member => ?_, ih ascending new⟩
        rcases (List.mem_orderedInsert (· ≤ ·)).mp member with rfl | member
        · exact smaller
        · exact above z member
      · have larger : x < y := lt_of_le_of_ne (not_lt.mp smaller) other
        rw [List.orderedInsert_cons_of_le _ _ larger.le, List.pairwise_cons]
        refine ⟨fun z member => ?_, List.pairwise_cons.mpr ⟨above, ascending⟩⟩
        rcases List.mem_cons.mp member with rfl | member
        · exact larger
        · exact larger.trans (above z member)

theorem getElem?_place (ascending : xs.Pairwise (· < ·)) :
    xs[place xs x]? = some x ↔ x ∈ xs := by
  induction xs with
  | nil => simp
  | cons y ys ih =>
      rcases List.pairwise_cons.mp ascending with ⟨above, ascending⟩
      by_cases smaller : y < x
      · have placed : place (y :: ys) x = place ys x + 1 := by simp [place, smaller]
        rw [placed, List.getElem?_cons_succ, ih ascending, List.mem_cons]
        exact (or_iff_right smaller.ne').symm
      · have placed : place (y :: ys) x = 0 := by simp [place, smaller]
        rw [placed, List.getElem?_cons_zero, Option.some.injEq, List.mem_cons, eq_comm]
        refine (or_iff_left fun member => ?_).symm
        exact smaller (above x member)

/-- The place of an element is its position. -/
theorem place_getElem (ascending : xs.Pairwise (· < ·)) {position : ℕ}
    (within : position < xs.length) : place xs xs[position] = position := by
  have distinct : xs.Nodup := ascending.imp ne_of_lt
  rcases List.getElem?_eq_some_iff.mp ((getElem?_place ascending).mpr (List.getElem_mem within))
    with ⟨within', same⟩
  exact distinct.getElem_inj_iff.mp same

/-- Nothing from the place on is smaller. -/
theorem le_of_mem_drop_place (ascending : xs.Pairwise (· < ·)) (member : y ∈ xs.drop (place xs x)) :
    x ≤ y := by
  induction xs with
  | nil => simp at member
  | cons z zs ih =>
      rcases List.pairwise_cons.mp ascending with ⟨above, ascending⟩
      by_cases smaller : z < x
      · have placed : place (z :: zs) x = place zs x + 1 := by simp [place, smaller]
        rw [placed, List.drop_succ_cons] at member
        exact ih ascending member
      · have placed : place (z :: zs) x = 0 := by simp [place, smaller]
        rw [placed, List.drop_zero] at member
        rcases List.mem_cons.mp member with rfl | member
        · exact not_lt.mp smaller
        · exact (not_lt.mp smaller).trans (above y member).le

/-- Everything before the place is smaller. -/
theorem lt_of_mem_take_place (member : y ∈ xs.take (place xs x)) : y < x := by
  have cut : xs.take (place xs x) = xs.takeWhile (· < x) :=
    (List.prefix_iff_eq_take.mp (List.takeWhile_prefix _)).symm
  rw [cut] at member
  exact of_decide_eq_true (List.all_eq_true.mp List.all_takeWhile y member)

/-- Erasing at the place of a member erases the member. -/
theorem eraseIdx_place (found : xs[place xs x]? = some x) :
    xs.eraseIdx (place xs x) = xs.erase x := by
  induction xs with
  | nil => simp
  | cons y ys ih =>
      by_cases smaller : y < x
      · have placed : place (y :: ys) x = place ys x + 1 := by simp [place, smaller]
        rw [placed, List.getElem?_cons_succ] at found
        rw [placed, List.eraseIdx_cons_succ, ih found, List.erase_cons_tail]
        simpa using smaller.ne
      · have placed : place (y :: ys) x = 0 := by simp [place, smaller]
        rw [placed, List.getElem?_cons_zero, Option.some.injEq] at found
        rw [placed, found, List.eraseIdx_cons_zero, List.erase_cons_head]

end AscendingList
