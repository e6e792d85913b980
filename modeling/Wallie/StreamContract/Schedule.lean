import Wallie.StreamContract.Storage

/-!
# Rate, schedule and funding changes

The sender's changes to the terms of a live stream. `updateRatePerSecond` and
`decreaseRatePerSecond` freeze the accrual reached and continue from there;
`updateRate` overwrites the rate and nothing else.
-/

namespace Wallie.StreamContract

open Fallible

def requireStreamSender (sender : Address) : Contract Unit :=
  requireAuth sender

def requireCancellableStatus (status : StreamStatus) : Contract Unit :=
  rejectIf (status ≠ .active ∧ status ≠ .paused) (.error .invalidState)

namespace Stream

/-- The record whose accrual at `now` is frozen and continues at another rate. -/
def checkpointed (stream : Stream) (now : ℕ) (ratePerSecond : ℤ) : Stream :=
  { stream with
    checkpointedAmount := stream.accruedAt now
    checkpointedAt := now
    ratePerSecond }

end Stream

def updateRatePerSecond (streamId : ℕ) (newRatePerSecond : ℤ) : Contract Unit := do
  requireNotGloballyPaused
  let stream ← loadStream streamId
  rejectIf (stream.kind = .cliffOnly) (.error .unsupportedStreamKind)
  requireStreamSender stream.sender
  rejectIf (stream.status ≠ .active ∧ stream.status ≠ .paused) (.error .invalidState)
  rejectIf (newRatePerSecond ≤ 0) (.error .invalidParams)
  rejectIf (newRatePerSecond ≤ stream.ratePerSecond) (.error .invalidParams)
  let maxRate ← peek State.maxRatePerSecond
  if maxRate < newRatePerSecond then do
    publish (.rateCap streamId newRatePerSecond maxRate)
    reject (.error .rateCapExceeded)
  else do
    let duration ← plainSub stream.endTime stream.startTime
    let totalStreamable ← checkedI128 (newRatePerSecond * duration) .arithmeticOverflow
    rejectIf (stream.depositAmount < totalStreamable) (.error .insufficientDeposit)
    let now ← currentAccrualTimestamp
    saveStream (stream.checkpointed now newRatePerSecond)
    publish (.rateUpd streamId stream.ratePerSecond newRatePerSecond now)

def decreaseRatePerSecond (streamId : ℕ) (newRatePerSecond : ℤ) : Contract Unit := do
  requireNotGloballyPaused
  let stream ← loadStream streamId
  rejectIf (stream.kind = .cliffOnly) (.error .unsupportedStreamKind)
  requireStreamSender stream.sender
  rejectIf (stream.status = .completed ∨ stream.status = .cancelled)
    (.error .streamTerminalState)
  let now ← currentAccrualTimestamp
  rejectIf (stream.endTime ≤ now) (.error .invalidState)
  rejectIf (newRatePerSecond ≤ 0) (.error .invalidParams)
  rejectIf (stream.ratePerSecond ≤ newRatePerSecond) (.error .invalidParams)
  let accruedNow := stream.accruedAt now
  let remainingSeconds := stream.endTime - now
  let futureAccrual ← checkedI128 (newRatePerSecond * remainingSeconds) .arithmeticOverflow
  let newDeposit ← checkedI128 (accruedNow + futureAccrual) .arithmeticOverflow
  let refundAmount ← checkedI128 (stream.depositAmount - newDeposit) .arithmeticOverflow
  rejectIf (refundAmount < 0) (.error .invalidState)
  saveStream { stream.checkpointed now newRatePerSecond with depositAmount := newDeposit }
  -- The liabilities are not reduced on this path.
  pushPositive stream.sender refundAmount streamId .decreaseRefund
  publish (.rateDec streamId stream.ratePerSecond newRatePerSecond now accruedNow refundAmount)

def shortenStreamEndTime (streamId newEndTime : ℕ) : Contract Unit := do
  requireNotGloballyPaused
  let stream ← loadStream streamId
  rejectIf (stream.kind = .cliffOnly) (.error .unsupportedStreamKind)
  requireStreamSender stream.sender
  requireCancellableStatus stream.status
  let now ← currentAccrualTimestamp
  rejectIf (newEndTime ≤ now ∨ newEndTime ≤ stream.startTime ∨ newEndTime < stream.cliffTime ∨
    stream.endTime ≤ newEndTime) (.error .invalidParams)
  let newDuration := newEndTime - stream.startTime
  let newMaxStreamable ← checkedI128 (stream.ratePerSecond * newDuration) .arithmeticOverflow
  let newDeposit := max newMaxStreamable (stream.accruedAt now)
  rejectIf (stream.depositAmount < newDeposit) (.error .invalidParams)
  let refundAmount ← checkedI128 (stream.depositAmount - newDeposit) .arithmeticOverflow
  saveStream { stream with endTime := newEndTime, depositAmount := newDeposit }
  releaseLiabilities refundAmount
  pushPositive stream.sender refundAmount streamId .shortenRefund
  publish (.endShrt streamId stream.endTime newEndTime refundAmount)

def extendStreamEndTime (streamId newEndTime : ℕ) : Contract Unit := do
  requireNotGloballyPaused
  let stream ← loadStream streamId
  rejectIf (stream.kind = .cliffOnly) (.error .unsupportedStreamKind)
  requireStreamSender stream.sender
  requireCancellableStatus stream.status
  let now ← currentAccrualTimestamp
  rejectIf (newEndTime ≤ stream.endTime ∨ newEndTime ≤ stream.startTime ∨
    newEndTime < stream.cliffTime ∨ newEndTime < now) (.error .invalidParams)
  let newDuration := newEndTime - stream.startTime
  let newTotalStreamable ←
    checkedI128 (stream.ratePerSecond * newDuration) .arithmeticOverflow
  rejectIf (stream.depositAmount < newTotalStreamable) (.error .insufficientDeposit)
  saveStream { stream with endTime := newEndTime }
  publish (.endExt streamId stream.endTime newEndTime)

def topUpStream (streamId : ℕ) (funder : Address) (amount : ℤ) : Contract Unit := do
  requireNotGloballyPaused
  rejectIf (amount ≤ 0) (.error .invalidParams)
  let stream ← loadStream streamId
  rejectIf (stream.kind = .cliffOnly) (.error .unsupportedStreamKind)
  rejectIf (stream.status ≠ .active ∧ stream.status ≠ .paused) (.error .invalidState)
  let now ← currentAccrualTimestamp
  rejectIf (stream.endTime ≤ now) (.error .invalidState)
  requireAuth funder
  let newDeposit ← checkedI128 (stream.depositAmount + amount) .arithmeticOverflow
  saveStream { stream with depositAmount := newDeposit }
  pullToken funder amount
  increaseLiabilities amount
  publish (.topUp streamId amount newDeposit stream.endTime)

/-- The rate is overwritten without a checkpoint: the whole current epoch is re-priced. -/
def updateRate (streamId : ℕ) (newRatePerSecond : ℤ) (caller : Address) : Contract Unit := do
  requireAuth caller
  let stream ← loadStream streamId
  rejectIf (stream.status = .completed ∨ stream.status = .cancelled)
    (.error .streamTerminalState)
  let admin ← getAdmin
  rejectIf (caller ≠ stream.sender ∧ caller ≠ admin) (.error .unauthorized)
  rejectIf (newRatePerSecond ≤ 0) (.error .invalidParams)
  saveStream { stream with ratePerSecond := newRatePerSecond }
  let now ← ask Env.timestamp
  publish (.rateUpd streamId stream.ratePerSecond newRatePerSecond now)

end Wallie.StreamContract
