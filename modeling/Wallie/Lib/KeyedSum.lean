import Mathlib.Algebra.BigOperators.Group.Finset.Basic
import Mathlib.Algebra.Order.BigOperators.Group.Finset
import Mathlib.Data.Int.Order.Basic
import Mathlib.Tactic.Common

/-!
# Sums over a keyed store

A store maps keys to optional records. `storeTotal` adds up a measure of the
records stored below a bound on the keys, and the lemmas say how the total moves
when one record is written, added or removed.
-/

namespace KeyedSum

variable {α : Type*}

/-- The measure of a slot of the store: an empty slot counts for nothing. -/
def slot (measure : α → ℤ) : Option α → ℤ
  | none => 0
  | some record => measure record

/-- The total measure of the records with keys below `bound`. -/
def storeTotal (measure : α → ℤ) (store : ℕ → Option α) (bound : ℕ) : ℤ :=
  ∑ key ∈ Finset.range bound, slot measure (store key)

variable {measure : α → ℤ} {store : ℕ → Option α} {bound key : ℕ} {entry : Option α}

@[simp]
theorem slot_none : slot measure none = 0 := rfl

@[simp]
theorem slot_some {record : α} : slot measure (some record) = measure record := rfl

/-- Writing one slot moves the total by the difference of the two records. -/
theorem storeTotal_update (inside : key < bound) :
    storeTotal measure (Function.update store key entry) bound =
      storeTotal measure store bound - slot measure (store key) + slot measure entry := by
  have member : key ∈ Finset.range bound := Finset.mem_range.mpr inside
  unfold storeTotal
  rw [← Finset.add_sum_erase _ _ member, ← Finset.add_sum_erase (Finset.range bound) _ member]
  have others : ∀ other ∈ (Finset.range bound).erase key,
      slot measure (Function.update store key entry other) = slot measure (store other) := by
    intro other otherMem
    rw [Function.update_of_ne (Finset.ne_of_mem_erase otherMem)]
  rw [Finset.sum_congr rfl others, Function.update_self]
  omega

/-- Slots that are empty from `bound` on do not count. -/
theorem storeTotal_of_le {larger : ℕ} (order : bound ≤ larger)
    (empty : ∀ key, bound ≤ key → key < larger → store key = none) :
    storeTotal measure store larger = storeTotal measure store bound := by
  unfold storeTotal
  symm
  apply Finset.sum_subset
  · intro key inside
    exact Finset.mem_range.mpr ((Finset.mem_range.mp inside).trans_le order)
  · intro key inside outside
    rw [empty key (not_lt.mp (mt Finset.mem_range.mpr outside)) (Finset.mem_range.mp inside)]
    rfl

theorem storeTotal_nonneg (nonneg : ∀ key record, store key = some record → 0 ≤ measure record) :
    0 ≤ storeTotal measure store bound := by
  apply Finset.sum_nonneg
  intro key _
  cases stored : store key with
  | none => exact le_rfl
  | some record => exact nonneg key record stored

/-- No record measures more than the total, if none measures less than nothing. -/
theorem measure_le_storeTotal {record : α}
    (nonneg : ∀ key record, store key = some record → 0 ≤ measure record)
    (stored : store key = some record) (inside : key < bound) :
    measure record ≤ storeTotal measure store bound := by
  have single : slot measure (store key) ≤ storeTotal measure store bound := by
    apply Finset.single_le_sum (f := fun key => slot measure (store key)) ?_
      (Finset.mem_range.mpr inside)
    intro other _
    cases stored : store other with
    | none => exact le_rfl
    | some record => exact nonneg other record stored
  rwa [stored, slot_some] at single

end KeyedSum
