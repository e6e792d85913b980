import Mathlib.Algebra.Order.Ring.Defs
import Mathlib.Tactic.Linarith

/-!
# Capped linear accrual

An entitlement grows linearly from a base amount, between the instant its
current epoch starts and a finish instant. It is capped by the amount set aside
for it, and it is not visible before a gate instant.

An epoch can be *re-based*: the value reached is frozen as the base of a new
epoch with another rate or another cap. The lemmas below say when re-basing,
moving the finish or moving the cap leave the value at an instant alone, and how
the value then evolves.
-/

/-- One epoch of linear accrual over an ordered ring of amounts and instants. -/
@[ext]
structure AccrualEpoch (R : Type*) where
  /-- The amount reached when the epoch starts. -/
  base : R
  /-- The instant the epoch starts. -/
  since : R
  rate : R
  cap : R
  finish : R
  /-- No amount is visible before the gate. -/
  gate : R

namespace AccrualEpoch

variable {R : Type*} [CommRing R] [LinearOrder R]

/-- The part of the epoch that has passed at `instant`. -/
def elapsed (epoch : AccrualEpoch R) (instant : R) : R :=
  max 0 (min instant epoch.finish - epoch.since)

/-- The amount earned by the clock alone. -/
def earned (epoch : AccrualEpoch R) (instant : R) : R :=
  epoch.base + epoch.rate * epoch.elapsed instant

/-- The amount visible at `instant`. -/
def value (epoch : AccrualEpoch R) (instant : R) : R :=
  if instant < epoch.gate then 0 else min epoch.cap (epoch.earned instant)

/-- The epoch that freezes the value at `instant` and continues with another rate and cap. -/
def checkpoint (epoch : AccrualEpoch R) (instant rate cap : R) : AccrualEpoch R :=
  { epoch with base := epoch.value instant, since := instant, rate, cap }

/-- Amounts are not negative and the base is covered by the cap. -/
structure Sound (epoch : AccrualEpoch R) : Prop where
  base_nonneg : 0 ≤ epoch.base
  base_le_cap : epoch.base ≤ epoch.cap
  rate_nonneg : 0 ≤ epoch.rate

variable {epoch : AccrualEpoch R} {instant earlier later now rate cap finish : R}

theorem value_of_lt_gate (early : instant < epoch.gate) : epoch.value instant = 0 :=
  if_pos early

theorem value_of_gate_le (visible : epoch.gate ≤ instant) :
    epoch.value instant = min epoch.cap (epoch.earned instant) :=
  if_neg (not_lt.mpr visible)

theorem elapsed_of_le (ended : min instant epoch.finish ≤ epoch.since)
    [IsStrictOrderedRing R] : epoch.elapsed instant = 0 :=
  max_eq_left (sub_nonpos.mpr ended)

theorem elapsed_nonneg (epoch : AccrualEpoch R) (instant : R) : 0 ≤ epoch.elapsed instant :=
  le_max_left _ _

theorem Sound.cap_nonneg (sound : epoch.Sound) : 0 ≤ epoch.cap :=
  sound.base_nonneg.trans sound.base_le_cap

theorem Sound.value_le_cap (sound : epoch.Sound) : epoch.value instant ≤ epoch.cap := by
  unfold value
  split
  · exact sound.cap_nonneg
  · exact min_le_left _ _

/-- Raising the cap never lowers the value. -/
theorem value_le_of_cap_le (raised : epoch.cap ≤ cap) :
    epoch.value instant ≤ ({ epoch with cap } : AccrualEpoch R).value instant := by
  unfold value
  split
  · exact le_rfl
  · exact min_le_min raised le_rfl

/-- A cap between the value and the old cap does not show in the value. -/
theorem value_eq_of_cap_between (covered : epoch.value instant ≤ cap) (lowered : cap ≤ epoch.cap) :
    ({ epoch with cap } : AccrualEpoch R).value instant = epoch.value instant := by
  rcases lt_or_ge instant epoch.gate with early | visible
  · rw [value_of_lt_gate early, value_of_lt_gate (by exact early)]
  · rw [value_of_gate_le visible] at covered ⊢
    rw [value_of_gate_le (by exact visible)]
    change min cap (epoch.earned instant) = _
    rcases le_total epoch.cap (epoch.earned instant) with capped | free
    · rw [min_eq_left capped] at covered ⊢
      have same : cap = epoch.cap := le_antisymm lowered covered
      rw [same, min_eq_left capped]
    · rw [min_eq_right free] at covered ⊢
      exact min_eq_right covered

/-- Moving the finish to another instant that is not yet past does not show in the value. -/
theorem value_eq_of_finish (running : instant ≤ epoch.finish) (running' : instant ≤ finish) :
    ({ epoch with finish } : AccrualEpoch R).value instant = epoch.value instant := by
  unfold value earned elapsed
  simp only [min_eq_left running, min_eq_left running']

variable [IsStrictOrderedRing R]

theorem elapsed_mono (order : earlier ≤ later) : epoch.elapsed earlier ≤ epoch.elapsed later :=
  max_le_max le_rfl (sub_le_sub_right (min_le_min order le_rfl) _)

theorem earned_mono (rate_nonneg : 0 ≤ epoch.rate) (order : earlier ≤ later) :
    epoch.earned earlier ≤ epoch.earned later := by
  have elapsed : epoch.elapsed earlier ≤ epoch.elapsed later := elapsed_mono order
  have product := mul_le_mul_of_nonneg_left elapsed rate_nonneg
  simp only [earned]
  linarith

namespace Sound

theorem base_le_earned (sound : epoch.Sound) : epoch.base ≤ epoch.earned instant := by
  have product := mul_nonneg sound.rate_nonneg (elapsed_nonneg epoch instant)
  simp only [earned]
  linarith

theorem value_nonneg (sound : epoch.Sound) : 0 ≤ epoch.value instant := by
  unfold value
  split
  · exact le_rfl
  · exact le_min sound.cap_nonneg (sound.base_nonneg.trans sound.base_le_earned)

theorem value_le_earned (sound : epoch.Sound) : epoch.value instant ≤ epoch.earned instant := by
  unfold value
  split
  · exact sound.base_nonneg.trans sound.base_le_earned
  · exact min_le_right _ _

theorem base_le_value (sound : epoch.Sound) (visible : epoch.gate ≤ instant) :
    epoch.base ≤ epoch.value instant := by
  rw [value_of_gate_le visible]
  exact le_min sound.base_le_cap sound.base_le_earned

theorem value_mono (sound : epoch.Sound) (order : earlier ≤ later) :
    epoch.value earlier ≤ epoch.value later := by
  rcases lt_or_ge earlier epoch.gate with early | visible
  · rw [value_of_lt_gate early]
    exact sound.value_nonneg
  · rw [value_of_gate_le visible, value_of_gate_le (visible.trans order)]
    exact min_le_min le_rfl (earned_mono sound.rate_nonneg order)

theorem checkpoint (sound : epoch.Sound) (covered : epoch.value now ≤ cap)
    (rate_nonneg : 0 ≤ rate) : (epoch.checkpoint now rate cap).Sound :=
  ⟨sound.value_nonneg, covered, rate_nonneg⟩

end Sound

/-- Re-basing does not move the value at the instant it is made. -/
theorem value_checkpoint_self (covered : epoch.value now ≤ cap) :
    (epoch.checkpoint now rate cap).value now = epoch.value now := by
  rcases lt_or_ge now epoch.gate with early | visible
  · rw [value_of_lt_gate early, value_of_lt_gate (by exact early)]
  · have frozen : (epoch.checkpoint now rate cap).elapsed now = 0 := elapsed_of_le (min_le_left _ _)
    rw [value_of_gate_le (by exact visible), earned, frozen]
    simpa [checkpoint] using covered

/-- The value after re-basing at an instant before the finish. -/
theorem value_checkpoint_of_le (before : now ≤ epoch.finish) (order : now ≤ later)
    (visible : epoch.gate ≤ later) :
    (epoch.checkpoint now rate cap).value later =
      min cap (epoch.value now + rate * (min later epoch.finish - now)) := by
  have started : 0 ≤ min later epoch.finish - now := sub_nonneg.mpr (le_min order before)
  rw [value_of_gate_le (by exact visible), earned, elapsed]
  simp only [checkpoint]
  rw [max_eq_right started]

/-- Two amounts under one cap agree when they are equal or have both reached it. -/
theorem min_eq_min_iff {first second : R} :
    min cap first = min cap second ↔ first = second ∨ cap ≤ second ∧ cap ≤ first := by
  grind

/-- Overwriting the rate does not move the value at an instant exactly when nothing is visible yet,
nothing has elapsed, the rate stays as it is, or both rates have reached the cap. -/
theorem value_reprice_iff :
    ({ epoch with rate } : AccrualEpoch R).value instant = epoch.value instant ↔
      instant < epoch.gate ∨ epoch.elapsed instant = 0 ∨ rate = epoch.rate ∨
        epoch.cap ≤ epoch.earned instant ∧
          epoch.cap ≤ ({ epoch with rate } : AccrualEpoch R).earned instant := by
  rcases lt_or_ge instant epoch.gate with early | visible
  · simp [value, early]
  · have unpriced : ({ epoch with rate } : AccrualEpoch R).earned instant = epoch.earned instant ↔
        epoch.elapsed instant = 0 ∨ rate = epoch.rate := by
      change epoch.base + rate * epoch.elapsed instant = _ ↔ _
      rw [earned, add_right_inj, mul_eq_mul_right_iff, or_comm]
    rw [value_of_gate_le visible, value_of_gate_le (by exact visible)]
    change min epoch.cap _ = _ ↔ _
    rw [min_eq_min_iff, unpriced]
    simp only [not_lt.mpr visible, false_or, or_assoc]

/-- Moving the finish forward never lowers the value. -/
theorem value_le_of_finish_le (rate_nonneg : 0 ≤ epoch.rate) (extended : epoch.finish ≤ finish) :
    epoch.value instant ≤ ({ epoch with finish } : AccrualEpoch R).value instant := by
  unfold value
  split
  · exact le_rfl
  · apply min_le_min le_rfl
    have longer : epoch.elapsed instant ≤
        ({ epoch with finish } : AccrualEpoch R).elapsed instant :=
      max_le_max le_rfl (sub_le_sub_right (min_le_min le_rfl extended) _)
    have product := mul_le_mul_of_nonneg_left longer rate_nonneg
    simp only [earned]
    linarith

/-- Moving the finish from the past to another instant that is not yet past does not move the value
exactly when nothing is visible yet, nothing has elapsed, or the cap has been reached. -/
theorem value_extend_iff (rate_pos : 0 < epoch.rate) (ended : epoch.finish < instant)
    (running : instant ≤ finish) :
    ({ epoch with finish } : AccrualEpoch R).value instant = epoch.value instant ↔
      instant < epoch.gate ∨ instant ≤ epoch.since ∨ epoch.cap ≤ epoch.earned instant := by
  rcases lt_or_ge instant epoch.gate with early | visible
  · simp [value, early]
  · have longer : epoch.elapsed instant ≤
        ({ epoch with finish } : AccrualEpoch R).elapsed instant := by
      refine max_le_max le_rfl (sub_le_sub_right (min_le_min le_rfl ?_) _)
      exact ended.le.trans running
    have same : ({ epoch with finish } : AccrualEpoch R).elapsed instant = epoch.elapsed instant ↔
        instant ≤ epoch.since := by
      simp only [elapsed, min_eq_left running, min_eq_right ended.le]
      grind
    have product := mul_le_mul_of_nonneg_left longer rate_pos.le
    rw [value_of_gate_le visible, value_of_gate_le (by exact visible)]
    change min epoch.cap _ = _ ↔ _
    rw [min_eq_min_iff, ← same]
    simp only [earned, add_right_inj, mul_right_inj' rate_pos.ne', not_lt.mpr visible, false_or]
    refine or_congr Iff.rfl ?_
    constructor
    · exact fun reached => reached.1
    · exact fun reached => ⟨reached, reached.trans (by linarith)⟩

end AccrualEpoch
