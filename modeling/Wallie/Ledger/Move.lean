import Wallie.StreamContract.Lifecycle
import Wallie.StreamContract.Withdraw

/-!
# Moves of a stream

What can happen to the record of one stream, as a relation between the record
before and after. A move names the change and the tokens that change hands; its
rule in `Stream.Moves` states the guards and the new record. The entrypoints are
refined to sequences of moves elsewhere, and the invariants of the contract are
proved of moves, one case per rule.
-/

namespace Wallie.StreamContract

/-- The entrypoints through which a recipient is paid without a cancellation. -/
inductive PayoutPath where
  | withdraw
  | withdrawTo
  | batchWithdraw
  | batchWithdrawTo
  | delegatedWithdraw
  | autoClaim
  deriving DecidableEq, Repr

/-- Whether the path reduces the liabilities by what it pays. -/
def PayoutPath.booked : PayoutPath → Bool
  | withdraw | withdrawTo | batchWithdraw => true
  | batchWithdrawTo | delegatedWithdraw | autoClaim => false

/-- Whether the path holds back a payment below the dust threshold. -/
def PayoutPath.respectsDust : PayoutPath → Bool
  | withdraw | withdrawTo | batchWithdraw | batchWithdrawTo => true
  | delegatedWithdraw | autoClaim => false

/-- A change to the record of one stream, with the amounts that move. -/
inductive Move where
  | withdraw (path : PayoutPath) (amount : ℤ)
  | topUp (amount : ℤ)
  | raiseRate (ratePerSecond : ℤ)
  | lowerRate (ratePerSecond refund : ℤ)
  | reprice (ratePerSecond : ℤ)
  | shorten (endTime : ℕ) (refund : ℤ)
  | extend (endTime : ℕ)
  | pause
  | resume
  | cancel (refund : ℤ)
  | settle (payment refund : ℤ)
  | keeperCancel (payment refund : ℤ)
  | rotate (recipient : Address)

namespace Move

/-- What the contract receives for the stream. -/
def received : Move → ℤ
  | topUp amount => amount
  | _ => 0

/-- What the contract pays out on account of the stream. -/
def paid : Move → ℤ
  | withdraw _ amount => amount
  | lowerRate _ refund | shorten _ refund | cancel refund => refund
  | settle payment refund | keeperCancel payment refund => payment + refund
  | _ => 0

/-- The part of the payment a keeper makes to the recipient. -/
def settledByKeeper : Move → ℤ
  | keeperCancel payment _ => payment
  | _ => 0

end Move

namespace Stream

/-- The stream is neither completed nor cancelled. -/
def Live (stream : Stream) : Prop :=
  stream.status = .active ∨ stream.status = .paused

instance (stream : Stream) : Decidable stream.Live :=
  inferInstanceAs (Decidable (_ ∨ _))

/-- What the recipient has earned up to `now`: a cancelled stream stopped earning when it was
cancelled, and a completed one has earned everything. -/
def entitlement (stream : Stream) (now : ℕ) : ℤ :=
  match stream.status with
  | .active | .paused => stream.accruedAt now
  | .cancelled => stream.accruedAt (stream.cancelledAt.getD 0)
  | .completed => stream.depositAmount

/-- What the contract still owes on account of the stream, to the recipient or the sender. -/
def owed (stream : Stream) : ℤ :=
  match stream.status with
  | .active | .paused => stream.depositAmount - stream.withdrawnAmount
  | .cancelled => stream.accruedAt (stream.cancelledAt.getD 0) - stream.withdrawnAmount
  | .completed => 0

/-- The stream is finished and its recipient has nothing left to draw. -/
def Drained (stream : Stream) (now : ℕ) : Prop :=
  stream.status = .completed ∨
    stream.status = .cancelled ∧ stream.entitlement now ≤ stream.withdrawnAmount

/-- The moves of a stream at `now`. -/
inductive Moves (now : ℕ) : Stream → Move → Stream → Prop where
  | withdraw {stream : Stream} {path : PayoutPath} {amount : ℤ} {ledger : ℕ}
      (unfinished : stream.status ≠ .completed)
      (unpaused : stream.status = .paused → stream.IsTerminal now)
      (positive : 0 < amount)
      (earned : stream.withdrawnAmount + amount ≤ stream.entitlement now)
      (undusted : path.respectsDust = true → ¬ stream.DustBlocks now amount)
      (expired : path = .autoClaim → stream.Live ∧ stream.endTime ≤ now) :
      Moves now stream (.withdraw path amount)
        ((stream.withdrawnTo (stream.withdrawnAmount + amount)).notedAt ledger)
  | topUp {stream : Stream} {amount : ℤ} (live : stream.Live) (linear : stream.kind = .linear)
      (running : now < stream.endTime) (positive : 0 < amount)
      (fits : stream.depositAmount + amount ≤ i128.upper) :
      Moves now stream (.topUp amount)
        { stream with depositAmount := stream.depositAmount + amount }
  | raiseRate {stream : Stream} {ratePerSecond : ℤ} (live : stream.Live)
      (linear : stream.kind = .linear) (raised : stream.ratePerSecond < ratePerSecond)
      (covered : ratePerSecond * (stream.endTime - stream.startTime : ℕ) ≤
        stream.depositAmount) :
      Moves now stream (.raiseRate ratePerSecond) (stream.checkpointed now ratePerSecond)
  | lowerRate {stream : Stream} {ratePerSecond refund : ℤ} (live : stream.Live)
      (linear : stream.kind = .linear) (running : now < stream.endTime)
      (positive : 0 < ratePerSecond) (lowered : ratePerSecond < stream.ratePerSecond)
      (nonneg : 0 ≤ refund)
      (kept : stream.accruedAt now + ratePerSecond * (stream.endTime - now : ℕ) + refund =
        stream.depositAmount) :
      Moves now stream (.lowerRate ratePerSecond refund)
        { stream.checkpointed now ratePerSecond with
          depositAmount := stream.depositAmount - refund }
  | reprice {stream : Stream} {ratePerSecond : ℤ} (live : stream.Live)
      (positive : 0 < ratePerSecond) :
      Moves now stream (.reprice ratePerSecond) { stream with ratePerSecond }
  | shorten {stream : Stream} {endTime : ℕ} {refund : ℤ} (live : stream.Live)
      (linear : stream.kind = .linear) (future : now < endTime)
      (started : stream.startTime < endTime) (visible : stream.cliffTime ≤ endTime)
      (earlier : endTime < stream.endTime) (nonneg : 0 ≤ refund)
      (kept : max (stream.ratePerSecond * (endTime - stream.startTime : ℕ))
        (stream.accruedAt now) + refund = stream.depositAmount) :
      Moves now stream (.shorten endTime refund)
        { stream with endTime, depositAmount := stream.depositAmount - refund }
  | extend {stream : Stream} {endTime : ℕ} (live : stream.Live) (linear : stream.kind = .linear)
      (later : stream.endTime < endTime) (future : now ≤ endTime)
      (covered : stream.ratePerSecond * (endTime - stream.startTime : ℕ) ≤
        stream.depositAmount) :
      Moves now stream (.extend endTime) { stream with endTime }
  | pause {stream : Stream} {ledger : ℕ} (active : stream.status = .active)
      (running : ¬ stream.IsTerminal now) :
      Moves now stream .pause
        { stream with status := .paused, lastPauseToggleLedger := ledger }
  | resume {stream : Stream} {ledger : ℕ} (paused : stream.status = .paused)
      (running : ¬ stream.IsTerminal now) :
      Moves now stream .resume
        { stream with status := .active, lastPauseToggleLedger := ledger }
  | cancel {stream : Stream} {refund : ℤ} (live : stream.Live)
      (split : stream.accruedAt now + refund = stream.depositAmount) :
      Moves now stream (.cancel refund) (stream.cancelledNow now)
  | settle {stream : Stream} {payment refund : ℤ} (live : stream.Live)
      (due : payment = max (stream.accruedAt now - stream.withdrawnAmount) 0)
      (split : stream.accruedAt now + refund = stream.depositAmount) :
      Moves now stream (.settle payment refund)
        ({ stream with withdrawnAmount := stream.withdrawnAmount + payment }.cancelledNow now)
  | keeperCancel {stream : Stream} {payment refund : ℤ} (live : stream.Live)
      (abandoned : stream.endTime + keeperGracePeriodSeconds ≤ now)
      (due : payment = max (stream.accruedAt now - stream.withdrawnAmount) 0)
      (split : stream.accruedAt now + refund = stream.depositAmount) :
      Moves now stream (.keeperCancel payment refund) (stream.cancelledNow now)
  | rotate {stream : Stream} {recipient : Address} :
      Moves now stream (.rotate recipient) { stream with recipient }

/-- What every stored record satisfies, whatever the run. -/
structure WellFormed (id now : ℕ) (stream : Stream) : Prop where
  streamId : stream.streamId = id
  bounded : stream.Bounded
  withdrawn_nonneg : 0 ≤ stream.withdrawnAmount
  withdrawn_le : stream.withdrawnAmount ≤ i128.upper
  start_lt_end : stream.startTime < stream.endTime
  start_le_cliff : stream.startTime ≤ stream.cliffTime
  cliff_le_end : stream.cliffTime ≤ stream.endTime
  rate_pos : stream.kind = .linear → 0 < stream.ratePerSecond
  cancelledAt_iff : stream.status = .cancelled ↔ stream.cancelledAt.isSome = true
  cancelledAt_le : ∀ instant ∈ stream.cancelledAt, instant ≤ now
  completed : stream.status = .completed → stream.withdrawnAmount = stream.depositAmount
  /-- A nonzero base was frozen after the cliff. -/
  base : stream.checkpointedAmount = 0 ∨
    stream.cliffTime ≤ stream.checkpointedAt ∧ stream.checkpointedAt ≤ now
  since : stream.checkpointedAt = stream.startTime ∨ stream.checkpointedAt ≤ now

variable {id now later : ℕ} {stream stream' : Stream} {move : Move}

theorem Live.not_cancelled (live : stream.Live) : stream.status ≠ .cancelled := by
  rcases live with active | paused <;> simp_all

theorem Live.not_completed (live : stream.Live) : stream.status ≠ .completed := by
  rcases live with active | paused <;> simp_all

theorem withdrawnTo_status (stream : Stream) (withdrawnAmount : ℤ) :
    (stream.withdrawnTo withdrawnAmount).status =
      if stream.Live ∧ withdrawnAmount = stream.depositAmount then .completed
      else stream.status :=
  rfl

theorem live_iff : stream.Live ↔ stream.status ≠ .completed ∧ stream.status ≠ .cancelled := by
  unfold Live
  cases stream.status <;> simp

theorem live_of_open (open_ : ¬ (stream.status ≠ .active ∧ stream.status ≠ .paused)) :
    stream.Live := by
  unfold Live
  tauto

theorem Live.open_ (live : stream.Live) :
    ¬ (stream.status ≠ .active ∧ stream.status ≠ .paused) := by
  unfold Live at live
  tauto

theorem Live.entitlement (live : stream.Live) (now : ℕ) :
    stream.entitlement now = stream.accruedAt now := by
  rcases live with active | paused <;> simp [Stream.entitlement, *]

theorem Live.owed (live : stream.Live) :
    stream.owed = stream.depositAmount - stream.withdrawnAmount := by
  rcases live with active | paused <;> simp [Stream.owed, *]

theorem owed_of_cancelled (cancelled : stream.status = .cancelled) :
    stream.owed = stream.accruedAt (stream.cancelledAt.getD 0) - stream.withdrawnAmount := by
  simp [Stream.owed, cancelled]

theorem entitlement_of_cancelled (cancelled : stream.status = .cancelled) (now : ℕ) :
    stream.entitlement now = stream.accruedAt (stream.cancelledAt.getD 0) := by
  simp [Stream.entitlement, cancelled]

theorem Bounded.entitlement_le_deposit (bounded : stream.Bounded) (now : ℕ) :
    stream.entitlement now ≤ stream.depositAmount := by
  unfold Stream.entitlement
  split <;> first | exact bounded.accruedAt_le_deposit _ | exact le_rfl

theorem Bounded.entitlement_nonneg (bounded : stream.Bounded) (now : ℕ) :
    0 ≤ stream.entitlement now := by
  unfold Stream.entitlement
  split <;> first | exact bounded.accruedAt_nonneg _ | exact bounded.deposit_pos.le

/-- What has been earned is not lost by the passing of time. -/
theorem Bounded.entitlement_mono (bounded : stream.Bounded) (order : now ≤ later) :
    stream.entitlement now ≤ stream.entitlement later := by
  unfold Stream.entitlement
  split <;> first | exact bounded.accruedAt_mono order | exact le_rfl

/-- Time does not spoil a record. -/
theorem WellFormed.mono (formed : stream.WellFormed id now) (order : now ≤ later) :
    stream.WellFormed id later where
  streamId := formed.streamId
  bounded := formed.bounded
  withdrawn_nonneg := formed.withdrawn_nonneg
  withdrawn_le := formed.withdrawn_le
  start_lt_end := formed.start_lt_end
  start_le_cliff := formed.start_le_cliff
  cliff_le_end := formed.cliff_le_end
  rate_pos := formed.rate_pos
  cancelledAt_iff := formed.cancelledAt_iff
  cancelledAt_le := fun instant at_ => (formed.cancelledAt_le instant at_).trans order
  completed := formed.completed
  base := formed.base.imp_right fun ⟨visible, past⟩ => ⟨visible, past.trans order⟩
  since := formed.since.imp_right fun past => past.trans order

theorem WellFormed.cancelledAt_of_cancelled (formed : stream.WellFormed id now)
    (cancelled : stream.status = .cancelled) :
    ∃ instant, stream.cancelledAt = some instant ∧ instant ≤ now := by
  rcases Option.isSome_iff_exists.mp (formed.cancelledAt_iff.mp cancelled) with ⟨instant, at_⟩
  exact ⟨instant, at_, formed.cancelledAt_le instant at_⟩

theorem WellFormed.live_of_cancelledAt_none (formed : stream.WellFormed id now)
    (live : stream.Live) : stream.cancelledAt = none := by
  by_contra some_
  have isSome := Option.isSome_iff_ne_none.mpr some_
  exact live.not_cancelled (formed.cancelledAt_iff.mpr isSome)

/-- Within the bounds of a stored record the saturating arithmetic is exact. -/
theorem WellFormed.claimable_eq (formed : stream.WellFormed id later) (now : ℕ) :
    stream.claimable now = max (stream.accruedAt now - stream.withdrawnAmount) 0 := by
  have accrued_nonneg := formed.bounded.accruedAt_nonneg now
  have accrued_le := formed.bounded.accruedAt_le_deposit now
  have deposit_le := formed.bounded.deposit_le
  have withdrawn_nonneg := formed.withdrawn_nonneg
  have withdrawn_le := formed.withdrawn_le
  have lower : i128.lower ≤ -i128.upper := by decide
  rw [claimable, Bounded.Interval.clamp_of_contains ⟨by omega, by omega⟩]

/-- Paying what is claimable does not overflow the withdrawn amount. -/
theorem WellFormed.check_withdrawn (formed : stream.WellFormed id later) (now : ℕ) :
    i128.check (stream.withdrawnAmount + stream.claimable now) =
      some (stream.withdrawnAmount + stream.claimable now) := by
  have accrued_le := formed.bounded.accruedAt_le_deposit now
  have deposit_le := formed.bounded.deposit_le
  have withdrawn_nonneg := formed.withdrawn_nonneg
  have withdrawn_le := formed.withdrawn_le
  have claimable_eq := formed.claimable_eq now
  have lower : i128.lower ≤ 0 := by decide
  exact Bounded.Interval.check_of_contains ⟨by omega, by omega⟩

/-- What has been earned and not drawn can be represented. -/
theorem WellFormed.unpaid_fits (formed : stream.WellFormed id later) (now : ℕ) :
    i128.Contains (stream.entitlement now - stream.withdrawnAmount) := by
  have nonneg := formed.bounded.entitlement_nonneg now
  have covered := formed.bounded.entitlement_le_deposit now
  have deposit_le := formed.bounded.deposit_le
  have withdrawn_nonneg := formed.withdrawn_nonneg
  have withdrawn_le := formed.withdrawn_le
  have lower : i128.lower ≤ -i128.upper := by decide
  exact ⟨by omega, by omega⟩

/-- The withdrawn amount after a payment stays within the deposit. -/
theorem WellFormed.earned_le (formed : stream.WellFormed id now) {amount : ℤ}
    (earned : stream.withdrawnAmount + amount ≤ stream.entitlement now) :
    stream.withdrawnAmount + amount ≤ stream.depositAmount :=
  earned.trans (formed.bounded.entitlement_le_deposit now)

end Stream

end Wallie.StreamContract
