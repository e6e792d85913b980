import Wallie.StreamContract.Storage

/-!
# Recipient withdrawals

The five entrypoints through which a recipient draws what has accrued, and the
two views of it they share. Each keeps its own order of checks; what they have
in common is the amount accrued, the dust rule and the record after a payment.
-/

namespace Wallie.StreamContract

open Fallible

def minWithdrawIntervalLedgers : ℕ := 1

def calculateAccrued (streamId : ℕ) : Contract ℤ := do
  let stream ← loadStream streamId
  if stream.status = .completed then return stream.depositAmount
  else if stream.status = .cancelled then do
    let cancelledAt ← getOrReject stream.cancelledAt (.error .invalidState)
    return stream.accruedAt cancelledAt
  else do
    let now ← currentAccrualTimestamp
    return stream.accruedAt now

def getWithdrawable (streamId : ℕ) : Contract ℤ := do
  let stream ← loadStream streamId
  if stream.status = .completed ∨ stream.status = .paused then return 0
  else do
    let accrued ← calculateAccrued streamId
    let unpaid ← plainI128 (accrued - stream.withdrawnAmount)
    let contractBalance ← tokenBalance
    let withdrawable := min unpaid contractBalance
    return if 0 < withdrawable then withdrawable else 0

namespace Stream

/-- A payment below the dust threshold waits, unless the stream is terminal or the payment
drains it. -/
def DustBlocks (stream : Stream) (now : ℕ) (withdrawable : ℤ) : Prop :=
  withdrawable < stream.withdrawDustThreshold ∧ ¬ stream.IsTerminal now ∧
    stream.withdrawnAmount + withdrawable < stream.depositAmount

instance (stream : Stream) (now : ℕ) (withdrawable : ℤ) :
    Decidable (stream.DustBlocks now withdrawable) :=
  inferInstanceAs (Decidable (_ ∧ _ ∧ _))

/-- The record once `withdrawnAmount` has been withdrawn: a live stream that is drained is
completed. -/
def withdrawnTo (stream : Stream) (withdrawnAmount : ℤ) : Stream :=
  { stream with
    withdrawnAmount
    status :=
      if (stream.status = .active ∨ stream.status = .paused) ∧
          withdrawnAmount = stream.depositAmount
      then .completed else stream.status }

/-- The record with the ledger of its last withdrawal noted. -/
def notedAt (stream : Stream) (ledger : ℕ) : Stream :=
  { stream with lastWithdrawLedger := ledger }

end Stream

/-- The `completed` event of a withdrawal that drained a live stream. -/
def completionEvents (before after : Stream) : List Event :=
  if after.status = before.status then [] else [.completed after.streamId]

def publishCompletion (before after : Stream) : Contract Unit :=
  update fun s => { s with events := s.events ++ completionEvents before after }

def requireWithdrawInterval (stream : Stream) (currentLedger : ℕ) : Contract Unit := do
  let sinceLast ← plainSub currentLedger stream.lastWithdrawLedger
  rejectIf (sinceLast < minWithdrawIntervalLedgers) (.error .withdrawalTooFrequent)

def withdraw (streamId : ℕ) : Contract ℤ := do
  requireNotGloballyPaused
  let stream ← loadStream streamId
  requireAuth stream.recipient
  let currentLedger ← ask Env.sequence
  requireWithdrawInterval stream currentLedger
  let now ← ask Env.timestamp
  rejectIf (stream.status = .completed) (.error .invalidState)
  rejectIf (stream.status = .paused ∧ ¬ stream.IsTerminal now) (.error .invalidState)
  let accrued ← calculateAccrued streamId
  let unpaid ← plainI128 (accrued - stream.withdrawnAmount)
  let contractBalance ← tokenBalance
  let withdrawable := min unpaid contractBalance
  if withdrawable ≤ 0 then return 0
  else if stream.DustBlocks now withdrawable then return 0
  -- The source makes the dust check twice.
  else if stream.DustBlocks now withdrawable then return 0
  else do
    let withdrawnAmount ← plainI128 (stream.withdrawnAmount + withdrawable)
    let paid := (stream.withdrawnTo withdrawnAmount).notedAt currentLedger
    saveStream paid
    reconcilePausedStreamCount stream.status paid.status
    reduceLiabilities withdrawable
    pushToken stream.recipient withdrawable [⟨streamId, .withdrawal, withdrawable⟩]
    publish (.withdrew streamId stream.recipient withdrawable)
    publishCompletion stream paid
    return withdrawable

def withdrawTo (streamId : ℕ) (destination : Address) : Contract ℤ := do
  requireNotGloballyPaused
  let stream ← loadStream streamId
  requireAuth stream.recipient
  let address ← ask Env.currentContractAddress
  rejectIf (destination = address) (.error .invalidParams)
  let now ← ask Env.timestamp
  rejectIf (stream.status = .completed) (.error .invalidState)
  rejectIf (stream.status = .paused ∧ ¬ stream.IsTerminal now) (.error .invalidState)
  let accrued ← calculateAccrued streamId
  let unpaid ← plainI128 (accrued - stream.withdrawnAmount)
  let contractBalance ← tokenBalance
  let withdrawable := min unpaid contractBalance
  if withdrawable ≤ 0 then return 0
  else if stream.DustBlocks now withdrawable then return 0
  else do
    let withdrawnAmount ← plainI128 (stream.withdrawnAmount + withdrawable)
    let paid := stream.withdrawnTo withdrawnAmount
    saveStream paid
    reconcilePausedStreamCount stream.status paid.status
    reduceLiabilities withdrawable
    pushToken destination withdrawable [⟨streamId, .withdrawal, withdrawable⟩]
    publish (.wdrawTo streamId stream.recipient destination withdrawable)
    publishCompletion stream paid
    return withdrawable

/-- What a batch pays for one stream before the dust rule: nothing for a completed stream,
else what has accrued and not been withdrawn, up to the balance left to the batch. -/
def batchWithdrawable (stream : Stream) (now : ℕ) (contractBalance : ℤ) : Contract ℤ :=
  if stream.status = .completed then return min 0 contractBalance
  else do
    let effectiveNow ←
      if stream.status = .cancelled then getOrReject stream.cancelledAt (.error .invalidState)
      else pure now
    let unpaid ← plainI128 (stream.accruedAt effectiveNow - stream.withdrawnAmount)
    return min (max unpaid 0) contractBalance

/-- What a batch pays for one stream after the dust rule. -/
def dustFiltered (stream : Stream) (now : ℕ) (withdrawable : ℤ) : ℤ :=
  if 0 < withdrawable ∧ stream.DustBlocks now withdrawable then 0 else withdrawable

def batchWithdrawLoop (recipient : Address) (now : ℕ) :
    List ℕ → ℤ → Contract (List BatchWithdrawResult)
  | [], _ => pure []
  | streamId :: rest, contractBalance => do
      let stream ← loadStream streamId
      rejectIf (stream.recipient ≠ recipient) (.error .unauthorized)
      let currentLedger ← ask Env.sequence
      requireWithdrawInterval stream currentLedger
      rejectIf (stream.status = .paused ∧ ¬ stream.IsTerminal now) (.error .invalidState)
      let payable ← batchWithdrawable stream now contractBalance
      let withdrawable := dustFiltered stream now payable
      if 0 < withdrawable then do
        let withdrawnAmount ← plainI128 (stream.withdrawnAmount + withdrawable)
        let paid := (stream.withdrawnTo withdrawnAmount).notedAt currentLedger
        saveStream paid
        reconcilePausedStreamCount stream.status paid.status
        reduceLiabilities withdrawable
        pushToken stream.recipient withdrawable [⟨streamId, .withdrawal, withdrawable⟩]
        publish (.withdrew streamId stream.recipient withdrawable)
        publishCompletion stream paid
        let results ← batchWithdrawLoop recipient now rest (contractBalance - withdrawable)
        return { streamId, amount := withdrawable } :: results
      else do
        let results ← batchWithdrawLoop recipient now rest contractBalance
        return { streamId, amount := withdrawable } :: results

def batchWithdraw (recipient : Address) (streamIds : List ℕ) :
    Contract (List BatchWithdrawResult) := do
  requireNotGloballyPaused
  requireAuth recipient
  rejectIf (¬ streamIds.Nodup) (.error .duplicateStreamId)
  let contractBalance ← tokenBalance
  let now ← currentAccrualTimestamp
  batchWithdrawLoop recipient now streamIds contractBalance

/-- The destinations are checked and the ids asserted unique, entry by entry. -/
def checkDestinations (address : Address) : List WithdrawToParam → Contract Unit
  | [] => pure ()
  | param :: rest => do
      rejectIf (param.destination = address) (.error .invalidParams)
      rejectIf (∃ other ∈ rest, param.streamId = other.streamId) .trap
      checkDestinations address rest

def batchWithdrawToLoop (recipient : Address) (now : ℕ) :
    List WithdrawToParam → ℤ → Contract (List BatchWithdrawResult)
  | [], _ => pure []
  | param :: rest, contractBalance => do
      let stream ← loadStream param.streamId
      rejectIf (stream.recipient ≠ recipient) (.error .unauthorized)
      rejectIf (stream.status = .paused ∧ ¬ stream.IsTerminal now) (.error .invalidState)
      let payable ← batchWithdrawable stream now contractBalance
      let withdrawable := dustFiltered stream now payable
      if 0 < withdrawable then do
        let withdrawnAmount ← plainI128 (stream.withdrawnAmount + withdrawable)
        let paid := stream.withdrawnTo withdrawnAmount
        saveStream paid
        reconcilePausedStreamCount stream.status paid.status
        -- The liabilities are not reduced on this path.
        pushToken param.destination withdrawable
          [⟨param.streamId, .withdrawal, withdrawable⟩]
        publish (.wdrawTo param.streamId stream.recipient param.destination withdrawable)
        publishCompletion stream paid
        let results ← batchWithdrawToLoop recipient now rest (contractBalance - withdrawable)
        return { streamId := param.streamId, amount := withdrawable } :: results
      else do
        let results ← batchWithdrawToLoop recipient now rest contractBalance
        return { streamId := param.streamId, amount := withdrawable } :: results

def batchWithdrawTo (recipient : Address) (withdrawals : List WithdrawToParam) :
    Contract (List BatchWithdrawResult) := do
  requireNotGloballyPaused
  requireAuth recipient
  let address ← ask Env.currentContractAddress
  checkDestinations address withdrawals
  let contractBalance ← tokenBalance
  let now ← currentAccrualTimestamp
  batchWithdrawToLoop recipient now withdrawals contractBalance

/-- The big-endian bytes of `value`, `width` of them. -/
def toBeBytes : ℕ → ℕ → Bytes
  | 0, _ => []
  | width + 1, value => toBeBytes width (value / 256) ++ [UInt8.ofNat (value % 256)]

/-- The two's complement of an `i128`. -/
def i128Bits (value : ℤ) : ℕ :=
  (value % 2 ^ 128).toNat

/-- The message a recipient signs for a delegated withdrawal. -/
def delegatedMessage (streamId nonce deadline : ℕ) (expectedMinimumAmount : ℤ) : Bytes :=
  toBeBytes 8 streamId ++ toBeBytes 8 nonce ++ toBeBytes 8 deadline ++
    toBeBytes 16 (i128Bits expectedMinimumAmount)

def incrementDelegatedNonce (recipient : Address) : Contract Unit := do
  let current ← peek fun s => s.delegatedWithdrawNonce recipient
  let next ← plainAddU64 current 1
  update fun s => { s with
    delegatedWithdrawNonce := Function.update s.delegatedWithdrawNonce recipient next }

def delegatedWithdraw (streamId : ℕ) (relayer : Address) (recipientPublicKey nonce deadline : ℕ)
    (expectedMinimumAmount : ℤ) (signature : Bytes) : Contract ℤ := do
  requireNotGloballyPaused
  requireAuth relayer
  let now ← ask Env.timestamp
  rejectIf (deadline < now) (.error .signatureDeadlineExpired)
  let stream ← loadStream streamId
  let currentLedger ← ask Env.sequence
  requireWithdrawInterval stream currentLedger
  let storedNonce ← peek fun s => s.delegatedWithdrawNonce stream.recipient
  rejectIf (nonce ≠ storedNonce) (.error .invalidSignature)
  rejectIf (stream.recipient ≠ .account recipientPublicKey) (.error .invalidSignature)
  let verified ← ask fun env => env.ed25519Verify recipientPublicKey
    (delegatedMessage streamId nonce deadline expectedMinimumAmount) signature
  rejectIf (verified = false) .trap
  rejectIf (stream.status = .completed) (.error .invalidState)
  rejectIf (stream.status = .paused ∧ ¬ stream.IsTerminal now) (.error .invalidState)
  let accrued ← calculateAccrued streamId
  let unpaid ← plainI128 (accrued - stream.withdrawnAmount)
  let contractBalance ← tokenBalance
  let withdrawable := min unpaid contractBalance
  rejectIf (withdrawable < expectedMinimumAmount) (.error .belowMinimumAmount)
  if withdrawable ≤ 0 then return 0
  else do
    let withdrawnAmount ← plainI128 (stream.withdrawnAmount + withdrawable)
    let paid := (stream.withdrawnTo withdrawnAmount).notedAt currentLedger
    saveStream paid
    reconcilePausedStreamCount stream.status paid.status
    incrementDelegatedNonce stream.recipient
    -- The liabilities are not reduced on this path.
    pushToken stream.recipient withdrawable [⟨streamId, .withdrawal, withdrawable⟩]
    publish (.withdrew streamId stream.recipient withdrawable)
    publishCompletion stream paid
    return withdrawable

end Wallie.StreamContract
