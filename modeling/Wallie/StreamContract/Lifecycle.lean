import Wallie.StreamContract.Schedule

/-!
# Pausing, cancelling and closing

The entrypoints that change the status of a stream other than by a withdrawal,
and the removal of settled streams.
-/

namespace Wallie.StreamContract

open Fallible

def minPauseIntervalLedgers : ℕ := 17

def keeperGracePeriodSeconds : ℕ := 604800

def keeperFeeBps : ℤ := 50

/-- Whether the stream is underfunded, with the balance and the seconds that remain. -/
def computeStreamHealth (stream : Stream) (now : ℕ) : Bool × ℤ × ℕ :=
  (stream.isUnderfunded, i128.clamp (stream.depositAmount - stream.withdrawnAmount),
    stream.endTime - now)

def maybeEmitHealthChanged (stream : Stream) (wasUnderfunded : Bool) (now : ℕ) :
    Contract Unit :=
  let (isUnderfunded, remainingBalance, secondsRemaining) := computeStreamHealth stream now
  if isUnderfunded = wasUnderfunded then pure ()
  else publish (.health stream.streamId isUnderfunded remainingBalance secondsRemaining)

/-- The guards and the write shared by the two pause entrypoints. -/
def pauseLoadedStream (stream : Stream) : Contract Unit := do
  rejectIf (stream.status = .paused) (.error .streamAlreadyPaused)
  let now ← ask Env.timestamp
  rejectIf (stream.IsTerminal now) (.error .streamTerminalState)
  rejectIf (stream.status ≠ .active) (.error .invalidState)
  let currentLedger ← ask Env.sequence
  rejectIf (currentLedger - stream.lastPauseToggleLedger < minPauseIntervalLedgers)
    (.error .pauseCooldownActive)
  saveStream { stream with status := .paused, lastPauseToggleLedger := currentLedger }
  reconcilePausedStreamCount stream.status .paused

def pauseStream (streamId : ℕ) (reason : PauseReason) : Contract Unit := do
  let stream ← loadStream streamId
  requireStreamSender stream.sender
  pauseLoadedStream stream
  publish (.paused streamId reason.text)

/-- The source lists the texts of two of the reasons here; the others are taken from
`pauseStream`. -/
def pauseStreamAsAdmin (streamId : ℕ) (reason : PauseReason) : Contract Unit := do
  let admin ← getAdmin
  requireAuth admin
  let stream ← loadStream streamId
  pauseLoadedStream stream
  let now ← ask Env.timestamp
  update fun s => { s with
    lastPauseRecord := some { actor := admin, timestamp := now, reason := reason.text } }
  publish (.paused streamId reason.text)

/-- The guards and the write shared by the two resume entrypoints. -/
def resumeLoadedStream (stream : Stream) : Contract Unit := do
  rejectIf (stream.status = .active) (.error .streamNotPaused)
  let now ← ask Env.timestamp
  rejectIf (stream.IsTerminal now) (.error .streamTerminalState)
  rejectIf (stream.status ≠ .paused) (.error .streamNotPaused)
  let currentLedger ← ask Env.sequence
  rejectIf (currentLedger - stream.lastPauseToggleLedger < minPauseIntervalLedgers)
    (.error .pauseCooldownActive)
  saveStream { stream with status := .active, lastPauseToggleLedger := currentLedger }
  reconcilePausedStreamCount stream.status .active

def resumeStream (streamId : ℕ) : Contract Unit := do
  let stream ← loadStream streamId
  requireStreamSender stream.sender
  resumeLoadedStream stream
  publish (.resumed streamId)

def resumeStreamAsAdmin (streamId : ℕ) : Contract Unit := do
  let admin ← getAdmin
  requireAuth admin
  let stream ← loadStream streamId
  resumeLoadedStream stream
  publish (.resumed streamId)

/-- The record of a stream cancelled at `now`. -/
def Stream.cancelledNow (stream : Stream) (now : ℕ) : Stream :=
  { stream with status := .cancelled, cancelledAt := some now }

def cancelStreamInternal (stream : Stream) : Contract Unit := do
  requireCancellableStatus stream.status
  let now ← currentAccrualTimestamp
  let refundAmount ← checkedI128 (stream.depositAmount - stream.accruedAt now) .invalidState
  saveStream (stream.cancelledNow now)
  reconcilePausedStreamCount stream.status .cancelled
  releaseLiabilities refundAmount
  pushPositive stream.sender refundAmount stream.streamId .cancelRefund
  publish (.cancelled stream.streamId)

def cancelStream (streamId : ℕ) : Contract Unit := do
  requireNotGloballyPaused
  let stream ← loadStream streamId
  requireStreamSender stream.sender
  cancelStreamInternal stream

def cancelStreamAsAdmin (streamId : ℕ) : Contract Unit := do
  let admin ← getAdmin
  requireAuth admin
  let stream ← loadStream streamId
  cancelStreamInternal stream

/-- The keeper is paid its fee, if there is one, and the fee is added to the counter. -/
def payKeeperFee (keeper : Address) (keeperFee : ℤ) (streamId : ℕ) : Contract Unit :=
  if 0 < keeperFee then do
    pushToken keeper keeperFee [⟨streamId, .keeperFee, keeperFee⟩]
    incrementTotalKeeperFeesPaid keeperFee
  else pure ()

def keeperCancel (streamId : ℕ) (keeper : Address) : Contract Unit := do
  requireAuth keeper
  let stream ← loadStream streamId
  requireCancellableStatus stream.status
  let now ← ask Env.timestamp
  let eligibleAt ← checkedAddU64 stream.endTime keeperGracePeriodSeconds .arithmeticOverflow
  rejectIf (now < eligibleAt) (.error .keeperGracePeriodNotElapsed)
  let recipientAmount := stream.claimable now
  let unstreamed ← checkedI128 (stream.depositAmount - stream.accruedAt now) .invalidState
  let senderRefundGross := max unstreamed 0
  let scaledFee ← checkedI128 (senderRefundGross * keeperFeeBps) .arithmeticOverflow
  let keeperFee := scaledFee / 10000
  let senderRefund ← checkedI128 (senderRefundGross - keeperFee) .arithmeticOverflow
  let wasUnderfunded := (computeStreamHealth stream now).1
  -- The withdrawn amount of the record is left as it was.
  saveStream (stream.cancelledNow now)
  reconcilePausedStreamCount stream.status .cancelled
  let totalOutstanding ← checkedI128 (recipientAmount + senderRefundGross) .arithmeticOverflow
  releaseLiabilities totalOutstanding
  pushPositive stream.recipient recipientAmount streamId .keeperSettlement
  pushPositive stream.sender senderRefund streamId .keeperRefund
  payKeeperFee keeper keeperFee streamId
  publish (.kpCncl stream.streamId keeper keeperFee recipientAmount senderRefund)
  maybeEmitHealthChanged (stream.cancelledNow now) wasUnderfunded now

/-- First phase of the bulk cancellation: load every stream and check its owner and status. -/
def loadCancellable (sender : Address) : List ℕ → Contract (List Stream)
  | [] => pure []
  | id :: rest => do
      rejectIf (id ∈ rest) (.error .duplicateStreamId)
      let stream ← loadStream id
      rejectIf (stream.sender ≠ sender) (.error .unauthorized)
      requireCancellableStatus stream.status
      let streams ← loadCancellable sender rest
      return stream :: streams

/-- The payment of the recipient in the bulk cancellation, made before the record is saved. -/
def payRecipientAccrual (stream : Stream) (now : ℕ) : Contract Stream := do
  let recipientAccrual := stream.claimable now
  if 0 < recipientAccrual then do
    reduceLiabilities recipientAccrual
    pushToken stream.recipient recipientAccrual
      [⟨stream.streamId, .bulkSettlement, recipientAccrual⟩]
    publish (.withdrew stream.streamId stream.recipient recipientAccrual)
    return { stream with withdrawnAmount :=
      (i128.check (stream.withdrawnAmount + recipientAccrual)).getD i128.upper }
  else return stream

/-- Second phase: settle the streams one by one. The refunds are added up and returned with
the line of each stream. -/
def bulkCancelLoop (now : ℕ) :
    List Stream → ℤ → List PayoutLine → Contract (ℤ × List PayoutLine)
  | [], aggregateRefund, lines => pure (aggregateRefund, lines)
  | stream :: rest, aggregateRefund, lines => do
      let refundAmount ← checkedI128 (stream.depositAmount - stream.accruedAt now) .invalidState
      let wasUnderfunded := (computeStreamHealth stream now).1
      let paid ← payRecipientAccrual stream now
      saveStream (paid.cancelledNow now)
      reconcilePausedStreamCount stream.status .cancelled
      if 0 < refundAmount then do
        let aggregateRefund ←
          checkedI128 (aggregateRefund + refundAmount) .arithmeticOverflow
        reduceLiabilities refundAmount
        publish (.cancelled stream.streamId)
        maybeEmitHealthChanged (paid.cancelledNow now) wasUnderfunded now
        bulkCancelLoop now rest aggregateRefund
          (lines ++ [⟨stream.streamId, .cancelRefund, refundAmount⟩])
      else do
        publish (.cancelled stream.streamId)
        maybeEmitHealthChanged (paid.cancelledNow now) wasUnderfunded now
        bulkCancelLoop now rest aggregateRefund lines

def bulkCancelStreams (sender : Address) (streamIds : List ℕ) : Contract Unit := do
  requireNotGloballyPaused
  requireAuth sender
  if streamIds = [] then return ()
  else do
    let streams ← loadCancellable sender streamIds
    let now ← ask Env.timestamp
    let (aggregateRefund, lines) ← bulkCancelLoop now streams 0 []
    if 0 < aggregateRefund then pushToken sender aggregateRefund lines

def removeClosedStream (stream : Stream) (streamId : ℕ) : Contract Unit := do
  publish (.closed streamId)
  removeStreamFromRecipientIndex stream.recipient streamId
  removeStream streamId

/-- A cancelled stream is closed only when its frozen accrual has been withdrawn. -/
def requireNothingClaimable (stream : Stream) : Contract Unit := do
  let cancelledAt ← getOrReject stream.cancelledAt (.error .invalidState)
  rejectIf (0 < stream.claimable cancelledAt) (.error .invalidState)

def closeCompletedStream (streamId : ℕ) : Contract Unit := do
  let stream ← loadStream streamId
  rejectIf (stream.status ≠ .completed ∧ stream.status ≠ .cancelled) (.error .invalidState)
  if stream.status = .cancelled then requireNothingClaimable stream
  removeClosedStream stream streamId

def closeCancelledStream (streamId : ℕ) : Contract Unit := do
  let stream ← loadStream streamId
  rejectIf (stream.status ≠ .cancelled) (.error .invalidState)
  requireNothingClaimable stream
  removeClosedStream stream streamId

end Wallie.StreamContract
