import Wallie.Ledger.BookInvariant

/-!
# Moves and the entitlement

Every move but the re-pricing leaves what the recipient has earned in place: a
change of the rate or of the schedule freezes it, a cancellation stops it where
it is, and a payment notes it. So on runs without a re-pricing nothing is
withdrawn before it is earned, and nothing earned is taken back.
-/

namespace Wallie.StreamContract

namespace Stream

variable {id now : ℕ} {stream stream' : Stream} {move : Move}

/-! ## Accrual under a change of the terms -/

theorem epoch_checkpointed (linear : stream.kind = .linear) (ratePerSecond depositAmount : ℤ) :
    ({ stream.checkpointed now ratePerSecond with depositAmount } : Stream).epoch =
      { stream.epoch with
        base := stream.accruedAt now, since := now, rate := ratePerSecond,
        cap := depositAmount } := by
  simp [epoch, checkpointed, linear]

/-- Freezing the accrual does not move it, as long as the deposit covers it. -/
theorem Bounded.accruedAt_checkpointed (bounded : stream.Bounded) (linear : stream.kind = .linear)
    {ratePerSecond depositAmount : ℤ}
    (bounded' : ({ stream.checkpointed now ratePerSecond with depositAmount } : Stream).Bounded)
    (covered : stream.accruedAt now ≤ depositAmount) :
    ({ stream.checkpointed now ratePerSecond with depositAmount } : Stream).accruedAt now =
      stream.accruedAt now := by
  rw [bounded'.accruedAt_eq_value, epoch_checkpointed linear]
  rw [bounded.accruedAt_eq_value] at covered ⊢
  exact AccrualEpoch.value_checkpoint_self covered

theorem Bounded.accruedAt_le_of_deposit_le (bounded : stream.Bounded) {depositAmount : ℤ}
    (linear : stream.kind = .linear) (raised : stream.depositAmount ≤ depositAmount)
    (bounded' : ({ stream with depositAmount } : Stream).Bounded) :
    stream.accruedAt now ≤ ({ stream with depositAmount } : Stream).accruedAt now := by
  have same : ({ stream with depositAmount } : Stream).epoch =
      { stream.epoch with cap := depositAmount } := by
    simp [epoch, linear]
  rw [bounded.accruedAt_eq_value, bounded'.accruedAt_eq_value, same]
  exact AccrualEpoch.value_le_of_cap_le raised

theorem Bounded.accruedAt_le_of_end_le (bounded : stream.Bounded) {endTime : ℕ}
    (linear : stream.kind = .linear) (extended : stream.endTime ≤ endTime)
    (bounded' : ({ stream with endTime } : Stream).Bounded) :
    stream.accruedAt now ≤ ({ stream with endTime } : Stream).accruedAt now := by
  have same : ({ stream with endTime } : Stream).epoch =
      { stream.epoch with finish := (endTime : ℤ) } := by
    simp [epoch, linear]
  rw [bounded.accruedAt_eq_value, bounded'.accruedAt_eq_value, same]
  exact AccrualEpoch.value_le_of_finish_le bounded.epoch_sound.rate_nonneg
    (Int.ofNat_le.mpr extended)

/-- An earlier end that is still ahead does not move the accrual, if the deposit covers it. -/
theorem Bounded.accruedAt_shortened (bounded : stream.Bounded) {endTime : ℕ} {depositAmount : ℤ}
    (linear : stream.kind = .linear) (ahead : now ≤ endTime) (ahead' : now ≤ stream.endTime)
    (covered : stream.accruedAt now ≤ depositAmount)
    (lowered : depositAmount ≤ stream.depositAmount)
    (bounded' : ({ stream with endTime, depositAmount } : Stream).Bounded) :
    ({ stream with endTime, depositAmount } : Stream).accruedAt now = stream.accruedAt now := by
  have same : ({ stream with endTime, depositAmount } : Stream).epoch =
      { { stream.epoch with cap := depositAmount } with finish := (endTime : ℤ) } := by
    simp [epoch, linear]
  rw [bounded'.accruedAt_eq_value, same]
  rw [bounded.accruedAt_eq_value] at covered ⊢
  rw [AccrualEpoch.value_eq_of_finish (Int.ofNat_le.mpr ahead') (Int.ofNat_le.mpr ahead)]
  exact AccrualEpoch.value_eq_of_cap_between covered lowered

/-! ## What a move does to the entitlement -/

theorem Live.entitlement_of_status (live : stream.Live) (same : stream'.status = stream.status)
    (now : ℕ) : stream'.entitlement now = stream'.accruedAt now := by
  apply Live.entitlement
  unfold Live
  rwa [same]

theorem entitlement_cancelledNow (stream : Stream) (now later : ℕ) :
    (stream.cancelledNow now).entitlement later = stream.accruedAt now :=
  rfl

/-- A payment notes what was earned: at most a stream that is drained earns its deposit. -/
theorem entitlement_le_withdrawnTo (formed : stream.WellFormed id now) (withdrawnAmount : ℤ)
    (ledger : ℕ) :
    stream.entitlement now ≤
      ((stream.withdrawnTo withdrawnAmount).notedAt ledger).entitlement now := by
  by_cases drained : stream.Live ∧ withdrawnAmount = stream.depositAmount
  · have completed : ((stream.withdrawnTo withdrawnAmount).notedAt ledger).status = .completed :=
      if_pos drained
    have all : ((stream.withdrawnTo withdrawnAmount).notedAt ledger).entitlement now =
        stream.depositAmount := by
      rw [Stream.entitlement, completed]
      rfl
    rw [all]
    exact formed.bounded.entitlement_le_deposit now
  · have same : ((stream.withdrawnTo withdrawnAmount).notedAt ledger).status = stream.status :=
      if_neg drained
    apply le_of_eq
    rw [Stream.entitlement, Stream.entitlement, same]
    rfl

/-- Only a re-pricing lowers what has been earned. -/
theorem Moves.entitlement_le (moves : stream.Moves now move stream')
    (formed : stream.WellFormed id now) (unpriced : ∀ rate, move ≠ .reprice rate) :
    stream.entitlement now ≤ stream'.entitlement now := by
  have bounded := formed.bounded
  have bounded' := (moves.wellFormed formed).bounded
  have accrued_le := bounded.accruedAt_le_deposit now
  cases moves with
  | withdraw _ _ _ _ _ _ => exact entitlement_le_withdrawnTo formed _ _
  | topUp live linear _ positive _ =>
      rw [live.entitlement, live.entitlement_of_status (by rfl)]
      exact bounded.accruedAt_le_of_deposit_le linear (by omega) bounded'
  | raiseRate live linear _ _ =>
      rw [live.entitlement, live.entitlement_of_status (by rfl)]
      exact (bounded.accruedAt_checkpointed linear bounded' accrued_le).ge
  | lowerRate live linear running positive _ _ kept =>
      rw [live.entitlement, live.entitlement_of_status (by rfl)]
      have remaining : (0 : ℤ) < (stream.endTime - now : ℕ) := by omega
      have future := mul_pos positive remaining
      exact (bounded.accruedAt_checkpointed linear bounded' (by omega)).ge
  | reprice _ _ => exact absurd rfl (unpriced _)
  | shorten live linear future _ _ earlier _ kept =>
      rw [live.entitlement, live.entitlement_of_status (by rfl)]
      exact (bounded.accruedAt_shortened linear (by omega) (by omega) (by omega) (by omega)
        bounded').ge
  | extend live linear later _ _ =>
      rw [live.entitlement, live.entitlement_of_status (by rfl)]
      exact bounded.accruedAt_le_of_end_le linear later.le bounded'
  | pause active _ =>
      rw [Live.entitlement (Or.inl active), Live.entitlement (Or.inr rfl)]
      exact le_rfl
  | resume paused _ =>
      rw [Live.entitlement (Or.inr paused), Live.entitlement (Or.inl rfl)]
      exact le_rfl
  | cancel live _ | settle live _ _ | keeperCancel live _ _ _ => exact (live.entitlement now).le
  | rotate => exact le_rfl

/-- No move lowers what was withdrawn. -/
theorem Moves.withdrawn_le (moves : stream.Moves now move stream') :
    stream.withdrawnAmount ≤ stream'.withdrawnAmount := by
  cases moves with
  | withdraw _ _ positive _ _ _ => exact le_add_of_nonneg_right positive.le
  | settle _ due _ => exact le_add_of_nonneg_right (due ▸ le_max_right _ _)
  | topUp _ _ _ _ _ | raiseRate _ _ _ _ | lowerRate _ _ _ _ _ _ _ | reprice _ _
  | shorten _ _ _ _ _ _ _ _ | extend _ _ _ _ _ | pause _ _ | resume _ _ | cancel _ _
  | keeperCancel _ _ _ _ | rotate => exact le_rfl

/-- What was withdrawn stays within what was earned, unless the stream is re-priced. -/
theorem Moves.earned (moves : stream.Moves now move stream') (formed : stream.WellFormed id now)
    (unpriced : ∀ rate, move ≠ .reprice rate)
    (earned : stream.withdrawnAmount ≤ stream.entitlement now) :
    stream'.withdrawnAmount ≤ stream'.entitlement now := by
  have kept := moves.entitlement_le formed unpriced
  cases moves with
  | withdraw _ _ _ covered _ _ => exact covered.trans kept
  | settle live due _ =>
      rw [live.entitlement] at earned
      rw [entitlement_cancelledNow]
      change stream.withdrawnAmount + _ ≤ stream.accruedAt now
      omega
  | topUp _ _ _ _ _ | raiseRate _ _ _ _ | lowerRate _ _ _ _ _ _ _ | reprice _ _
  | shorten _ _ _ _ _ _ _ _ | extend _ _ _ _ _ | pause _ _ | resume _ _ | cancel _ _
  | keeperCancel _ _ _ _ | rotate => exact earned.trans kept

end Stream

end Wallie.StreamContract
