import Wallie.Ledger.Move

/-!
# Moves preserve well-formed records

Every move keeps the bounds of the accrual fields, the order of the schedule and
the agreement of status and `cancelledAt`. The moves fall in two groups: those
that settle a stream leave its terms alone, those that change the terms leave its
status and what was withdrawn alone.
-/

namespace Wallie.StreamContract

namespace Stream

variable {id now : ℕ} {stream stream' : Stream} {move : Move}

/-- The frozen base is covered by the accrual at a later instant. -/
theorem WellFormed.base_le_accrued (formed : stream.WellFormed id now) :
    stream.checkpointedAmount ≤ stream.accruedAt now := by
  rcases formed.base with zero | ⟨visible, past⟩
  · rw [zero]
    exact formed.bounded.accruedAt_nonneg now
  · rw [formed.bounded.accruedAt_eq_value]
    have gate : stream.epoch.gate ≤ now := Int.ofNat_le.mpr (visible.trans past)
    have covered := formed.bounded.epoch_sound.base_le_value gate
    refine le_trans ?_ covered
    unfold epoch
    split
    · exact formed.bounded.checkpoint_le
    · exact le_rfl

/-- Settling a stream leaves its terms alone. -/
theorem WellFormed.settled (formed : stream.WellFormed id now) {withdrawnAmount : ℤ}
    {status : StreamStatus} {cancelledAt : Option ℕ} {recipient : Address}
    {lastPauseToggleLedger lastWithdrawLedger : ℕ}
    (withdrawn_nonneg : 0 ≤ withdrawnAmount) (withdrawn_le : withdrawnAmount ≤ i128.upper)
    (cancelledAt_iff : status = .cancelled ↔ cancelledAt.isSome = true)
    (cancelledAt_le : ∀ instant ∈ cancelledAt, instant ≤ now)
    (completed : status = .completed → withdrawnAmount = stream.depositAmount) :
    WellFormed id now
      { stream with
        withdrawnAmount, status, cancelledAt, recipient, lastPauseToggleLedger,
        lastWithdrawLedger } where
  streamId := formed.streamId
  bounded := ⟨formed.bounded.deposit_pos, formed.bounded.deposit_le, formed.bounded.rate_nonneg,
    formed.bounded.checkpoint_nonneg, formed.bounded.checkpoint_le⟩
  withdrawn_nonneg := withdrawn_nonneg
  withdrawn_le := withdrawn_le
  start_lt_end := formed.start_lt_end
  start_le_cliff := formed.start_le_cliff
  cliff_le_end := formed.cliff_le_end
  rate_pos := formed.rate_pos
  cancelledAt_iff := cancelledAt_iff
  cancelledAt_le := cancelledAt_le
  completed := completed
  base := formed.base
  since := formed.since

/-- A stream cancelled now, with another withdrawn amount. -/
theorem WellFormed.cancelledNow (formed : stream.WellFormed id now) {withdrawnAmount : ℤ}
    (withdrawn_nonneg : 0 ≤ withdrawnAmount) (withdrawn_le : withdrawnAmount ≤ i128.upper) :
    WellFormed id now ({ stream with withdrawnAmount }.cancelledNow now) := by
  refine formed.settled withdrawn_nonneg withdrawn_le (by simp) ?_ (by simp)
  intro instant at_
  exact (Option.mem_some_iff.mp at_).ge

/-- Changing the terms of a live stream leaves its status and what was withdrawn alone. -/
theorem WellFormed.rescheduled (formed : stream.WellFormed id now) (live : stream.Live)
    {depositAmount ratePerSecond checkpointedAmount : ℤ} {checkpointedAt endTime : ℕ}
    (bounded : Bounded
      { stream with
        depositAmount, ratePerSecond, checkpointedAmount, checkpointedAt, endTime })
    (start_lt_end : stream.startTime < endTime) (cliff_le_end : stream.cliffTime ≤ endTime)
    (rate_pos : stream.kind = .linear → 0 < ratePerSecond)
    (base : checkpointedAmount = 0 ∨ stream.cliffTime ≤ checkpointedAt ∧ checkpointedAt ≤ now)
    (since : checkpointedAt = stream.startTime ∨ checkpointedAt ≤ now) :
    WellFormed id now
      { stream with
        depositAmount, ratePerSecond, checkpointedAmount, checkpointedAt, endTime } where
  streamId := formed.streamId
  bounded := bounded
  withdrawn_nonneg := formed.withdrawn_nonneg
  withdrawn_le := formed.withdrawn_le
  start_lt_end := start_lt_end
  start_le_cliff := formed.start_le_cliff
  cliff_le_end := cliff_le_end
  rate_pos := rate_pos
  cancelledAt_iff := formed.cancelledAt_iff
  cancelledAt_le := formed.cancelledAt_le
  completed := fun completed => absurd completed live.not_completed
  base := base
  since := since

/-- The accrual frozen at `now` is a base for the rest of the stream. -/
theorem WellFormed.checkpointed (formed : stream.WellFormed id now) (live : stream.Live)
    {depositAmount ratePerSecond : ℤ} (positive : 0 < ratePerSecond)
    (deposit_pos : 0 < depositAmount) (deposit_le : depositAmount ≤ i128.upper)
    (covered : stream.accruedAt now ≤ depositAmount) :
    WellFormed id now { stream.checkpointed now ratePerSecond with depositAmount } := by
  refine formed.rescheduled live ?_ formed.start_lt_end formed.cliff_le_end (fun _ => positive)
    ?_ (Or.inr le_rfl)
  · exact ⟨deposit_pos, deposit_le, positive.le, formed.bounded.accruedAt_nonneg now, covered⟩
  · rcases lt_or_ge now stream.cliffTime with early | visible
    · exact Or.inl (accruedAt_of_lt_cliff early)
    · exact Or.inr ⟨visible, le_rfl⟩

theorem WellFormed.withdrawnTo (formed : stream.WellFormed id now) {withdrawnAmount : ℤ}
    {ledger : ℕ} (unfinished : stream.status ≠ .completed) (nonneg : 0 ≤ withdrawnAmount)
    (covered : withdrawnAmount ≤ stream.depositAmount) :
    WellFormed id now ((stream.withdrawnTo withdrawnAmount).notedAt ledger) := by
  refine formed.settled nonneg (covered.trans formed.bounded.deposit_le) ?_
    formed.cancelledAt_le ?_
  · rw [withdrawnTo_status]
    split
    · next drained =>
      have live : stream.Live := drained.1
      simp [Stream.withdrawnTo, formed.live_of_cancelledAt_none live]
    · exact formed.cancelledAt_iff
  · rw [withdrawnTo_status]
    split
    · next drained => exact fun _ => drained.2
    · exact fun completed => absurd completed unfinished

/-- A move leads from a well-formed record to a well-formed record. -/
theorem Moves.wellFormed (moves : Moves now stream move stream')
    (formed : stream.WellFormed id now) : stream'.WellFormed id now := by
  have bounded := formed.bounded
  have accrued_nonneg := bounded.accruedAt_nonneg now
  have accrued_le := bounded.accruedAt_le_deposit now
  have deposit_le := bounded.deposit_le
  have withdrawn_nonneg := formed.withdrawn_nonneg
  cases moves with
  | withdraw unfinished _ positive earned _ _ =>
      exact formed.withdrawnTo unfinished (by omega) (formed.earned_le earned)
  | topUp live _ _ positive fits =>
      refine formed.rescheduled live ?_ formed.start_lt_end formed.cliff_le_end formed.rate_pos
        formed.base formed.since
      have deposit_pos := bounded.deposit_pos
      have checkpoint_le := bounded.checkpoint_le
      refine ⟨?_, fits, bounded.rate_nonneg, bounded.checkpoint_nonneg, ?_⟩
      · change 0 < stream.depositAmount + _
        omega
      · change stream.checkpointedAmount ≤ stream.depositAmount + _
        omega
  | raiseRate live _ raised _ =>
      exact formed.checkpointed live (bounded.rate_nonneg.trans_lt raised) bounded.deposit_pos
        deposit_le accrued_le
  | lowerRate live _ running positive _ nonneg kept =>
      have remaining : (0 : ℤ) < (stream.endTime - now : ℕ) := by omega
      have future := mul_pos positive remaining
      exact formed.checkpointed live positive (by omega) (by omega) (by omega)
  | reprice live positive =>
      exact formed.rescheduled live
        ⟨bounded.deposit_pos, deposit_le, positive.le, bounded.checkpoint_nonneg,
          bounded.checkpoint_le⟩
        formed.start_lt_end formed.cliff_le_end (fun _ => positive) formed.base formed.since
  | @shorten endTime refund live linear _ started visible _ nonneg kept =>
      have duration : (0 : ℤ) < (endTime - stream.startTime : ℕ) := by omega
      have streamable := mul_pos (formed.rate_pos linear) duration
      have base_le := formed.base_le_accrued
      refine formed.rescheduled live ?_ started visible formed.rate_pos formed.base formed.since
      refine ⟨?_, ?_, bounded.rate_nonneg, bounded.checkpoint_nonneg, ?_⟩
      · change 0 < stream.depositAmount - refund
        omega
      · change stream.depositAmount - refund ≤ i128.upper
        omega
      · change stream.checkpointedAmount ≤ stream.depositAmount - refund
        omega
  | extend live _ later _ _ =>
      exact formed.rescheduled live
        ⟨bounded.deposit_pos, deposit_le, bounded.rate_nonneg, bounded.checkpoint_nonneg,
          bounded.checkpoint_le⟩
        (formed.start_lt_end.trans later) (formed.cliff_le_end.trans later.le) formed.rate_pos
        formed.base formed.since
  | pause active _ =>
      have live : stream.Live := Or.inl active
      refine formed.settled withdrawn_nonneg formed.withdrawn_le ?_ formed.cancelledAt_le (by simp)
      simp [formed.live_of_cancelledAt_none live]
  | resume paused _ =>
      have live : stream.Live := Or.inr paused
      refine formed.settled withdrawn_nonneg formed.withdrawn_le ?_ formed.cancelledAt_le (by simp)
      simp [formed.live_of_cancelledAt_none live]
  | cancel live _ => exact formed.cancelledNow withdrawn_nonneg formed.withdrawn_le
  | settle live due _ =>
      have withdrawn_le := formed.withdrawn_le
      exact formed.cancelledNow (by omega) (by omega)
  | keeperCancel live _ _ _ => exact formed.cancelledNow withdrawn_nonneg formed.withdrawn_le
  | rotate =>
      exact formed.settled withdrawn_nonneg formed.withdrawn_le formed.cancelledAt_iff
        formed.cancelledAt_le formed.completed

end Stream

end Wallie.StreamContract
