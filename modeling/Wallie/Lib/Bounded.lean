import Mathlib.Order.Basic
import Mathlib.Order.MinMax
import Mathlib.Tactic.Common
import Mathlib.Data.Int.Order.Basic

/-!
# Bounded integer arithmetic

Machine integers are modelled by `ℤ` and `ℕ` together with an interval. An
operation on them either reports that its exact result left the interval
(`checked…`) or clamps it (`saturating…`); the exact result is otherwise the
mathematical one.
-/

namespace Bounded

/-- The interval of a signed integer of `width` bits. -/
structure Interval where
  lower : ℤ
  upper : ℤ
  lower_le_upper : lower ≤ upper

namespace Interval

/-- Membership in the interval. -/
def Contains (interval : Interval) (value : ℤ) : Prop :=
  interval.lower ≤ value ∧ value ≤ interval.upper

instance (interval : Interval) (value : ℤ) : Decidable (interval.Contains value) :=
  inferInstanceAs (Decidable (_ ∧ _))

/-- The exact value when the interval contains it. -/
def check (interval : Interval) (value : ℤ) : Option ℤ :=
  if interval.Contains value then some value else none

/-- The value of the interval nearest to the exact one. -/
def clamp (interval : Interval) (value : ℤ) : ℤ :=
  max interval.lower (min interval.upper value)

variable {interval : Interval} {value result : ℤ}

@[simp]
theorem check_eq_some :
    interval.check value = some result ↔ interval.Contains value ∧ result = value := by
  unfold check
  split
  · next inside => simp [inside, eq_comm]
  · next outside => simp [outside]

@[simp]
theorem check_eq_none : interval.check value = none ↔ ¬ interval.Contains value := by
  unfold check
  split
  · next inside => simp [inside]
  · next outside => simp [outside]

theorem check_of_contains (inside : interval.Contains value) :
    interval.check value = some value := by
  simp [inside]

theorem clamp_of_contains (inside : interval.Contains value) : interval.clamp value = value := by
  rcases inside with ⟨lower, upper⟩
  rw [clamp, min_eq_right upper, max_eq_right lower]

theorem clamp_le (above : interval.lower ≤ value) : interval.clamp value ≤ value :=
  max_le above (min_le_right _ _)

theorem clamp_mono {other : ℤ} (order : value ≤ other) :
    interval.clamp value ≤ interval.clamp other :=
  max_le_max_left _ (min_le_min_left _ order)

/-- The clamped value is the upper end exactly for the values from there on. -/
theorem clamp_eq_upper (proper : interval.lower < interval.upper) :
    interval.clamp value = interval.upper ↔ interval.upper ≤ value := by
  constructor
  · intro reached
    by_contra below
    have inside : max interval.lower value < interval.upper := max_lt proper (not_le.mp below)
    rw [clamp, min_eq_right (not_le.mp below).le] at reached
    exact inside.ne reached
  · intro above
    rw [clamp, min_eq_left above, max_eq_right proper.le]

end Interval

end Bounded
