import Wallie.Lib.CappedAccrual
import Wallie.StreamContract.Types

/-!
# Accrual

The accrual function of the contract, and its reading as capped linear accrual:
within the bounds every stored stream keeps, the checked and saturating machine
arithmetic computes the exact value of an accrual epoch.
-/

namespace Wallie.StreamContract

structure CheckpointState where
  checkpointedAmount : ℤ
  checkpointedAt : ℕ
  cliffTime : ℕ
  endTime : ℕ
  depositAmount : ℤ
  kind : StreamKind

/-- The seconds of the current rate epoch that have passed at `now`, stopped at `endTime`, by the
plain `u64` subtraction of the source. There is no value where it traps. -/
def CheckpointState.readElapsed (state : CheckpointState) (now : ℕ) : Option ℤ :=
  let elapsedNow := min now state.endTime
  if elapsedNow ≤ state.checkpointedAt then some 0
  else if elapsedNow < state.checkpointedAt then none
  else some (elapsedNow - state.checkpointedAt : ℕ)

/-- The value of the subtraction, which never traps. -/
def CheckpointState.elapsedSeconds (state : CheckpointState) (now : ℕ) : ℤ :=
  (state.readElapsed now).getD 0

def calculateAccruedAmountCheckpointed (state : CheckpointState) (ratePerSecond : ℤ)
    (now : ℕ) : ℤ :=
  if now < state.cliffTime then 0
  else if state.depositAmount ≤ 0 then 0
  else if state.kind = .cliffOnly then state.depositAmount
  else if ratePerSecond < 0 then 0
  else if state.checkpointedAt ≥ state.endTime then
    max (min state.checkpointedAmount state.depositAmount) 0
  else if state.depositAmount ≤ 0 then 0
  else
    -- A product that leaves `i128` stands for more than any deposit.
    let added := (i128.check (state.elapsedSeconds now * ratePerSecond)).getD state.depositAmount
    max (min (i128.clamp (state.checkpointedAmount + added)) state.depositAmount) 0

/-- The machine arithmetic of an epoch: clamping at the deposit hides every overflow. -/
theorem clamped_sum_eq {base added deposit : ℤ} (base_nonneg : 0 ≤ base)
    (base_le : base ≤ deposit) (added_nonneg : 0 ≤ added) (deposit_le : deposit ≤ i128.upper) :
    max (min (i128.clamp (base + (i128.check added).getD deposit)) deposit) 0 =
      min deposit (base + added) := by
  have lower : i128.lower ≤ 0 := by decide
  by_cases fits : i128.Contains added
  · rw [Bounded.Interval.check_of_contains fits, Option.getD_some]
    simp only [Bounded.Interval.clamp]
    omega
  · rw [Bounded.Interval.check_eq_none.mpr fits, Option.getD_none]
    have above : i128.upper < added := by
      by_contra below
      exact fits ⟨by omega, by omega⟩
    simp only [Bounded.Interval.clamp]
    omega

namespace CheckpointState

variable {state : CheckpointState} {ratePerSecond : ℤ} {now : ℕ}

/-- A linear checkpoint whose amount is covered by a deposit that `i128` can hold. -/
structure Covered (state : CheckpointState) (ratePerSecond : ℤ) : Prop where
  linear : state.kind = .linear
  checkpoint_nonneg : 0 ≤ state.checkpointedAmount
  checkpoint_le : state.checkpointedAmount ≤ state.depositAmount
  deposit_le : state.depositAmount ≤ i128.upper
  rate_nonneg : 0 ≤ ratePerSecond

/-- The accrual epoch of a linear checkpoint. -/
@[simps]
def epoch (state : CheckpointState) (ratePerSecond : ℤ) : AccrualEpoch ℤ where
  base := state.checkpointedAmount
  since := state.checkpointedAt
  rate := ratePerSecond
  cap := state.depositAmount
  finish := state.endTime
  gate := state.cliffTime

theorem Covered.epoch_sound (covered : state.Covered ratePerSecond) :
    (state.epoch ratePerSecond).Sound :=
  ⟨covered.checkpoint_nonneg, covered.checkpoint_le, covered.rate_nonneg⟩

/-- The guard of the source keeps the subtraction from trapping. -/
theorem readElapsed_eq (state : CheckpointState) (now : ℕ) :
    state.readElapsed now = some (state.elapsedSeconds now) := by
  unfold elapsedSeconds readElapsed
  by_cases ended : min now state.endTime ≤ state.checkpointedAt
  · simp only [ended, if_true, Option.getD_some]
  · have ordered : ¬ min now state.endTime < state.checkpointedAt := by omega
    simp only [ended, ordered, if_false, Option.getD_some]

/-- The elapsed seconds the source computes with guarded `u64` subtraction. -/
theorem epoch_elapsed (state : CheckpointState) (ratePerSecond : ℤ) (now : ℕ) :
    (state.epoch ratePerSecond).elapsed now = state.elapsedSeconds now := by
  by_cases ended : min now state.endTime ≤ state.checkpointedAt
  · simp only [AccrualEpoch.elapsed, elapsedSeconds, readElapsed, epoch_finish, epoch_since, ended,
      if_true, Option.getD_some]
    omega
  · have ordered : ¬ min now state.endTime < state.checkpointedAt := by omega
    simp only [AccrualEpoch.elapsed, elapsedSeconds, readElapsed, epoch_finish, epoch_since, ended,
      ordered, if_false, Option.getD_some]
    omega

/-- An epoch that starts at its end or later does not elapse. -/
theorem elapsedSeconds_of_ended (ended : state.endTime ≤ state.checkpointedAt) :
    state.elapsedSeconds now = 0 := by
  have before : min now state.endTime ≤ state.checkpointedAt := (min_le_right _ _).trans ended
  simp only [elapsedSeconds, readElapsed, before, if_true, Option.getD_some]

theorem elapsedSeconds_nonneg (state : CheckpointState) (now : ℕ) :
    0 ≤ state.elapsedSeconds now := by
  rw [← epoch_elapsed state 0]
  exact AccrualEpoch.elapsed_nonneg _ _

/-- The accrual function computes the value of the epoch. -/
theorem Covered.calculateAccrued_eq (covered : state.Covered ratePerSecond) (now : ℕ) :
    calculateAccruedAmountCheckpointed state ratePerSecond now =
      (state.epoch ratePerSecond).value now := by
  have nonneg := covered.checkpoint_nonneg
  have le := covered.checkpoint_le
  have earned_nonneg := mul_nonneg (elapsedSeconds_nonneg state now) covered.rate_nonneg
  have gate : ((now : ℤ) < state.cliffTime) ↔ now < state.cliffTime := Int.ofNat_lt
  unfold calculateAccruedAmountCheckpointed AccrualEpoch.value AccrualEpoch.earned
  simp only [epoch_elapsed, epoch_gate, epoch_cap, epoch_base, epoch_rate, gate, covered.linear,
    reduceCtorEq, if_false, not_lt.mpr covered.rate_nonneg, mul_comm ratePerSecond]
  by_cases early : now < state.cliffTime
  · simp only [early, if_true]
  · simp only [early, if_false]
    by_cases empty : state.depositAmount ≤ 0
    · simp only [empty, if_true]
      omega
    · simp only [empty, if_false]
      by_cases ended : state.checkpointedAt ≥ state.endTime
      · simp only [ended, if_true, elapsedSeconds_of_ended ended]
        omega
      · simp only [ended, if_false]
        exact clamped_sum_eq nonneg le earned_nonneg covered.deposit_le

end CheckpointState

namespace Stream

/-- The checkpoint fields the entrypoints pass to the accrual function. -/
@[simps]
def checkpointState (stream : Stream) : CheckpointState where
  checkpointedAmount := stream.checkpointedAmount
  checkpointedAt := stream.checkpointedAt
  cliffTime := stream.cliffTime
  endTime := stream.endTime
  depositAmount := stream.depositAmount
  kind := stream.kind

/-- The accrual of a stream by the clock, whatever its status. -/
def accruedAt (stream : Stream) (now : ℕ) : ℤ :=
  calculateAccruedAmountCheckpointed stream.checkpointState stream.ratePerSecond now

/-- What has accrued by the clock and is not yet withdrawn, by saturating subtraction. -/
def claimable (stream : Stream) (now : ℕ) : ℤ :=
  max (i128.clamp (stream.accruedAt now - stream.withdrawnAmount)) 0

/-- Whether the schedule of the current epoch costs more than the deposit. -/
def isUnderfunded (stream : Stream) : Bool :=
  match i128.check (stream.ratePerSecond * (stream.endTime - stream.checkpointedAt : ℕ)) with
  | some added => decide (stream.depositAmount < i128.clamp (stream.checkpointedAmount + added))
  | none => true

/-- The stream as an accrual epoch. A cliff-only stream has earned its deposit from the
start and shows it at the cliff. -/
def epoch (stream : Stream) : AccrualEpoch ℤ where
  base := if stream.kind = .cliffOnly then stream.depositAmount else stream.checkpointedAmount
  since := stream.checkpointedAt
  rate := if stream.kind = .cliffOnly then 0 else stream.ratePerSecond
  cap := stream.depositAmount
  finish := stream.endTime
  gate := stream.cliffTime

/-- The bounds on the accrual fields that every stored stream keeps. -/
structure Bounded (stream : Stream) : Prop where
  deposit_pos : 0 < stream.depositAmount
  deposit_le : stream.depositAmount ≤ i128.upper
  rate_nonneg : 0 ≤ stream.ratePerSecond
  checkpoint_nonneg : 0 ≤ stream.checkpointedAmount
  checkpoint_le : stream.checkpointedAmount ≤ stream.depositAmount

variable {stream : Stream} {now later : ℕ}

theorem Bounded.epoch_sound (bounded : stream.Bounded) : stream.epoch.Sound := by
  refine ⟨?_, ?_, ?_⟩ <;> simp only [epoch] <;> split
  · exact bounded.deposit_pos.le
  · exact bounded.checkpoint_nonneg
  · exact le_rfl
  · exact bounded.checkpoint_le
  · exact le_rfl
  · exact bounded.rate_nonneg

theorem epoch_base_of_linear (linear : stream.kind = .linear) :
    stream.epoch.base = stream.checkpointedAmount := by
  simp [epoch, linear]

theorem epoch_rate_of_linear (linear : stream.kind = .linear) :
    stream.epoch.rate = stream.ratePerSecond := by
  simp [epoch, linear]

theorem epoch_of_linear (linear : stream.kind = .linear) :
    stream.epoch = stream.checkpointState.epoch stream.ratePerSecond := by
  simp [epoch, CheckpointState.epoch, linear]

theorem Bounded.covered (bounded : stream.Bounded) (linear : stream.kind = .linear) :
    stream.checkpointState.Covered stream.ratePerSecond :=
  ⟨linear, bounded.checkpoint_nonneg, bounded.checkpoint_le, bounded.deposit_le,
    bounded.rate_nonneg⟩

/-- The elapsed seconds do not depend on the kind of the stream. -/
theorem epoch_elapsed (stream : Stream) (now : ℕ) :
    stream.epoch.elapsed now = stream.checkpointState.elapsedSeconds now := by
  rw [← stream.checkpointState.epoch_elapsed stream.ratePerSecond]
  rfl

/-- The accrual of the contract is the value of the stream's epoch. -/
theorem Bounded.accruedAt_eq_value (bounded : stream.Bounded) (now : ℕ) :
    stream.accruedAt now = stream.epoch.value now := by
  cases kind : stream.kind with
  | linear =>
      rw [epoch_of_linear kind]
      exact (bounded.covered kind).calculateAccrued_eq now
  | cliffOnly =>
      have not_le : ¬ stream.depositAmount ≤ 0 := not_le.mpr bounded.deposit_pos
      have gate : ((now : ℤ) < stream.cliffTime) ↔ now < stream.cliffTime := Int.ofNat_lt
      simp [accruedAt, calculateAccruedAmountCheckpointed, AccrualEpoch.value,
        AccrualEpoch.earned, epoch, kind, not_le, gate]

theorem Bounded.accruedAt_nonneg (bounded : stream.Bounded) (now : ℕ) :
    0 ≤ stream.accruedAt now := by
  rw [bounded.accruedAt_eq_value]
  exact bounded.epoch_sound.value_nonneg

theorem Bounded.accruedAt_le_deposit (bounded : stream.Bounded) (now : ℕ) :
    stream.accruedAt now ≤ stream.depositAmount := by
  rw [bounded.accruedAt_eq_value]
  exact bounded.epoch_sound.value_le_cap

theorem Bounded.accruedAt_mono (bounded : stream.Bounded) (order : now ≤ later) :
    stream.accruedAt now ≤ stream.accruedAt later := by
  rw [bounded.accruedAt_eq_value, bounded.accruedAt_eq_value]
  exact bounded.epoch_sound.value_mono (Int.ofNat_le.mpr order)

theorem accruedAt_of_lt_cliff (early : now < stream.cliffTime) : stream.accruedAt now = 0 := by
  simp [accruedAt, calculateAccruedAmountCheckpointed, early]

end Stream

end Wallie.StreamContract
