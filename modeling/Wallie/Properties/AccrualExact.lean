import Wallie.StreamContract.Script

/-!
# The accrual over machine integers

For a linear checkpoint whose amount is covered by the deposit, the checked
product, the saturating sum and the guarded subtraction of the accrual function
compute the value over unbounded integers.
-/

namespace Wallie.StreamContract

open Fallible

variable {env : Env} {s s' : State} {state : CheckpointState} {ratePerSecond : ℤ}
  {now : ℕ}

namespace CheckpointState

/-- The subtraction that the accrual function makes, as a step of the contract. -/
def readElapsedSeconds (state : CheckpointState) (now : ℕ) : Contract ℤ :=
  getOrReject (state.readElapsed now) .trap

theorem runs_readElapsedSeconds {elapsed : ℤ} :
    Runs (state.readElapsedSeconds now) env s elapsed s' ↔
      elapsed = state.elapsedSeconds now ∧ s' = s := by
  rw [readElapsedSeconds, runs_getOrReject, readElapsed_eq, Option.some.injEq,
    eq_comm (b := elapsed)]

end CheckpointState

/-- The accrual of a linear checkpoint is exact: the guarded subtraction never traps, and whatever
the checked product and the saturating sum do, the result is the capped value over unbounded
integers. So it stays between zero and the deposit and never falls. -/
theorem calculateAccruedAmountCheckpointed_exact (covered : state.Covered ratePerSecond)
    (env : Env) (s : State) (now : ℕ) :
    Runs (state.readElapsedSeconds now) env s (state.elapsedSeconds now) s ∧
    calculateAccruedAmountCheckpointed state ratePerSecond now =
      (if now < state.cliffTime then 0
      else min state.depositAmount (state.checkpointedAmount +
        ratePerSecond * max 0 (min (now : ℤ) state.endTime - state.checkpointedAt))) ∧
    0 ≤ calculateAccruedAmountCheckpointed state ratePerSecond now ∧
    calculateAccruedAmountCheckpointed state ratePerSecond now ≤ state.depositAmount ∧
    ∀ later, now ≤ later →
      calculateAccruedAmountCheckpointed state ratePerSecond now ≤
        calculateAccruedAmountCheckpointed state ratePerSecond later := by
  have sound := covered.epoch_sound
  have value := covered.calculateAccrued_eq
  refine ⟨CheckpointState.runs_readElapsedSeconds.mpr ⟨rfl, rfl⟩, ?_, ?_, ?_, ?_⟩
  · rw [value, AccrualEpoch.value]
    apply if_congr Int.ofNat_lt
    · rfl
    · rfl
  · rw [value]
    exact sound.value_nonneg
  · rw [value]
    exact sound.value_le_cap
  · intro later order
    rw [value, value]
    exact sound.value_mono (Int.ofNat_le.mpr order)

namespace Sample

/-- The largest deposit and rate over the longest schedule. -/
def extreme : CheckpointState where
  checkpointedAmount := 1
  checkpointedAt := 0
  cliffTime := 0
  endTime := 2 ^ 64 - 1
  depositAmount := i128.upper
  kind := .linear

/-- After two seconds the product has left `i128`, and the accrual is the deposit. -/
theorem calculateAccruedAmountCheckpointed_exact_extreme :
    calculateAccruedAmountCheckpointed extreme i128.upper 2 = i128.upper := by
  have covered : extreme.Covered i128.upper :=
    ⟨rfl, by decide, by decide, le_rfl, by decide⟩
  have exact := (calculateAccruedAmountCheckpointed_exact covered (env 0 0 0) genesis 2).2.1
  rw [exact]
  decide

end Sample

end Wallie.StreamContract
