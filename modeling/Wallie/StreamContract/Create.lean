import Wallie.StreamContract.Storage

/-!
# Stream creation

The entrypoints that create streams: single, relative, batch, partial and from a
template, and the cloning of a stream. All of them validate the terms, pull the
deposit from the sender and persist a new record.
-/

namespace Wallie.StreamContract

open Fallible

def maxMemoBytes : ℕ := 256

/-- Cliff-only streams are created with rate 0 whatever rate is asked for. -/
def CreateStreamParams.withFinalRate (params : CreateStreamParams) : CreateStreamParams :=
  { params with ratePerSecond := if params.kind = .cliffOnly then 0 else params.ratePerSecond }

def validateStreamParams (sender : Address) (currentLedgerTimestamp : ℕ)
    (params : CreateStreamParams) : Contract Unit := do
  rejectIf (params.depositAmount ≤ 0) (.error .invalidParams)
  let maxRate ← peek State.maxRatePerSecond
  rejectIf (params.kind = .linear ∧ params.ratePerSecond ≤ 0) (.error .invalidParams)
  rejectIf (params.kind = .linear ∧ maxRate < params.ratePerSecond) (.error .invalidParams)
  rejectIf (params.kind = .cliffOnly ∧ params.ratePerSecond ≠ 0) (.error .invalidParams)
  rejectIf (sender = params.recipient) (.error .invalidParams)
  rejectIf (params.endTime ≤ params.startTime) (.error .invalidParams)
  rejectIf (params.startTime < currentLedgerTimestamp) (.error .startTimeInPast)
  rejectIf (params.cliffTime < params.startTime ∨ params.endTime < params.cliffTime)
    (.error .invalidParams)
  let totalStreamable := params.ratePerSecond * (params.endTime - params.startTime : ℕ)
  rejectIf (params.kind = .linear ∧ ¬ i128.Contains totalStreamable) (.error .invalidParams)
  rejectIf (params.kind = .linear ∧ params.depositAmount < totalStreamable)
    (.error .insufficientDeposit)

/-- The record a new stream starts with. Metadata is accepted by the entrypoints but not
stored. -/
def newStream (streamId : ℕ) (sender : Address) (params : CreateStreamParams) : Stream where
  streamId
  sender
  recipient := params.recipient
  depositAmount := params.depositAmount
  ratePerSecond := params.ratePerSecond
  startTime := params.startTime
  cliffTime := params.cliffTime
  endTime := params.endTime
  withdrawnAmount := 0
  status := .active
  cancelledAt := none
  checkpointedAmount := 0
  checkpointedAt := params.startTime
  withdrawDustThreshold := params.withdrawDustThreshold.getD 0
  lastPauseToggleLedger := 0
  lastWithdrawLedger := 0
  metadata := none
  memo := params.memo
  kind := params.kind

def createdEvent (stream : Stream) : Event :=
  .created stream.streamId stream.sender stream.recipient stream.depositAmount
    stream.ratePerSecond stream.startTime stream.cliffTime stream.endTime
    stream.withdrawDustThreshold stream.memo none

/-- The two persistence helpers, which differ in what they do to the recipient index. -/
def persistStream (addToIndex : Address → ℕ → Contract Unit) (sender : Address)
    (params : CreateStreamParams) : Contract ℕ := do
  rejectIf (∃ memo ∈ params.memo, maxMemoBytes < memo.length) (.error .invalidParams)
  let streamId ← nextStreamIdFor sender
  let stream := newStream streamId sender params
  saveStream stream
  addToIndex stream.recipient streamId
  increaseLiabilities stream.depositAmount
  publish (createdEvent stream)
  return streamId

def persistNewStream : Address → CreateStreamParams → Contract ℕ :=
  persistStream addStreamToRecipientIndex

def persistNewStreamSkipIndex : Address → CreateStreamParams → Contract ℕ :=
  persistStream fun _ _ => pure ()

def createStream (sender : Address) (params : CreateStreamParams) : Contract ℕ := do
  requireAuth sender
  requireNotCreationPaused
  let params := params.withFinalRate
  let now ← ask Env.timestamp
  validateStreamParams sender now params
  pullToken sender params.depositAmount
  persistNewStream sender params

/-- The absolute schedule of relative terms at `currentTime`. -/
def absoluteParams (currentTime : ℕ) (params : CreateStreamRelativeParams) :
    Contract CreateStreamParams := do
  let startTime ← checkedAddU64 currentTime params.startDelay .invalidParams
  let cliffTime ← checkedAddU64 currentTime params.cliffDelay .invalidParams
  let endTime ← checkedAddU64 startTime params.duration .invalidParams
  return { recipient := params.recipient, depositAmount := params.depositAmount,
           ratePerSecond := if params.kind = .cliffOnly then 0 else params.ratePerSecond,
           startTime, cliffTime, endTime,
           withdrawDustThreshold := params.withdrawDustThreshold, memo := params.memo,
           metadata := params.metadata, kind := params.kind }

def createStreamRelative (sender : Address) (params : CreateStreamRelativeParams) :
    Contract ℕ := do
  let currentTime ← ask Env.timestamp
  let params ← absoluteParams currentTime params
  createStream sender params

/-- First pass of the batch: validate every entry and add up the deposits. -/
def validateAll (sender : Address) (currentTime : ℕ) :
    List CreateStreamParams → ℤ → Contract ℤ
  | [], totalDeposit => pure totalDeposit
  | params :: rest, totalDeposit => do
      validateStreamParams sender currentTime params.withFinalRate
      let totalDeposit ← checkedI128 (totalDeposit + params.depositAmount) .arithmeticOverflow
      validateAll sender currentTime rest totalDeposit

/-- The recipient cache of the batch: the new ids of each recipient, in order of creation. -/
abbrev RecipientCache := List (Address × List ℕ)

def RecipientCache.add (recipient : Address) (streamId : ℕ) : RecipientCache → RecipientCache
  | [] => [(recipient, [streamId])]
  | (other, ids) :: rest =>
      if other = recipient then (other, ids ++ [streamId]) :: rest
      else (other, ids) :: add recipient streamId rest

/-- Second pass of the batch: persist every entry and collect its id. -/
def persistAll (sender : Address) :
    List CreateStreamParams → List ℕ → RecipientCache → Contract (List ℕ × RecipientCache)
  | [], createdIds, cache => pure (createdIds, cache)
  | params :: rest, createdIds, cache => do
      let streamId ← persistNewStreamSkipIndex sender params.withFinalRate
      persistAll sender rest (createdIds ++ [streamId]) (cache.add params.recipient streamId)

/-- One read and one write of the index per recipient. The entries have different keys, so
the order of the flush does not matter. -/
def flushCache : RecipientCache → Contract Unit
  | [] => pure ()
  | (recipient, newIds) :: rest => do
      let existing ← peek fun s => s.recipientStreams recipient
      saveRecipientStreams recipient (newIds.foldl insertSorted existing)
      flushCache rest

def createStreams (sender : Address) (streams : List CreateStreamParams) :
    Contract (List ℕ) := do
  requireAuth sender
  if streams = [] then return []
  else do
    requireNotCreationPaused
    let currentTime ← ask Env.timestamp
    let totalDeposit ← validateAll sender currentTime streams 0
    if 0 < totalDeposit then pullToken sender totalDeposit
    let (createdIds, cache) ← persistAll sender streams [] []
    flushCache cache
    return createdIds

def absoluteAll (currentTime : ℕ) :
    List CreateStreamRelativeParams → Contract (List CreateStreamParams)
  | [] => pure []
  | rel :: rest => do
      let params ← absoluteParams currentTime rel
      let others ← absoluteAll currentTime rest
      return params :: others

def createStreamsRelative (sender : Address)
    (streamsRelative : List CreateStreamRelativeParams) : Contract (List ℕ) := do
  if streamsRelative = [] then return []
  else do
    let currentTime ← ask Env.timestamp
    let absoluteStreams ← absoluteAll currentTime streamsRelative
    createStreams sender absoluteStreams

/-- The errors a helper returns, as opposed to traps, can be handled by its caller. The
helpers below return their errors before they write anything. -/
def Failure.returned : Failure → Option ContractError
  | .error reason => some reason
  | .trap => none

def failedResult (reason : ContractError) : CreateStreamResult :=
  { success := false, streamId := none, error := some reason.code }

def createOnePartial (sender : Address) (currentTime : ℕ) (params : CreateStreamParams) :
    Contract CreateStreamResult := do
  let params := params.withFinalRate
  let validation ← attempt (validateStreamParams sender currentTime params) Failure.returned
  match validation with
  | .error reason => return failedResult reason
  | .ok _ => do
      let transfer ← attempt (pullToken sender params.depositAmount) Failure.returned
      match transfer with
      | .error _ => return failedResult .insufficientBalance
      | .ok _ => do
          let persisted ← attempt (persistNewStream sender params) Failure.returned
          match persisted with
          | .ok streamId => return { success := true, streamId := some streamId, error := none }
          | .error reason => return failedResult reason

def createAllPartial (sender : Address) (currentTime : ℕ) :
    List CreateStreamParams → Contract (List CreateStreamResult)
  | [] => pure []
  | params :: rest => do
      let result ← createOnePartial sender currentTime params
      let results ← createAllPartial sender currentTime rest
      return result :: results

def createStreamsPartial (sender : Address) (streams : List CreateStreamParams) :
    Contract (List CreateStreamResult) := do
  requireAuth sender
  if streams = [] then return []
  else do
    requireNotCreationPaused
    let currentTime ← ask Env.timestamp
    createAllPartial sender currentTime streams

def loadStreamTemplate (templateId : ℕ) : Contract StreamScheduleTemplate := do
  let template ← peek fun s => s.streamTemplate templateId
  getOrReject template (.error .templateNotFound)

def createStreamFromTemplate (sender : Address) (templateId : ℕ) (recipient : Address)
    (depositAmount ratePerSecond withdrawDustThreshold : ℤ) (memo : Option Bytes)
    (metadata : Option Metadata) (kind : StreamKind) : Contract ℕ := do
  let tpl ← loadStreamTemplate templateId
  -- The record in the source names `kind` twice; the argument is the one passed on.
  createStreamRelative sender
    { recipient, depositAmount, ratePerSecond, startDelay := tpl.startDelay,
      cliffDelay := tpl.cliffDelay, duration := tpl.duration,
      withdrawDustThreshold := some withdrawDustThreshold, memo, metadata, kind }

def cloneStream (streamId : ℕ) (newRecipient : Address) (startTime endTime : ℕ)
    (deposit : ℤ) (force : Bool) : Contract ℕ := do
  requireNotCreationPaused
  let source ← loadStream streamId
  rejectIf (source.status = .cancelled ∨ source.status = .completed)
    (.error .streamTerminalState)
  requireAuth source.sender
  rejectIf (source.withdrawDustThreshold = i128.upper ∧ force = false) (.error .invalidParams)
  let cliffOffset := source.cliffTime - source.startTime
  let newCliffTime ← checkedAddU64 startTime cliffOffset .arithmeticOverflow
  let currentTime ← ask Env.timestamp
  let params : CreateStreamParams :=
    { recipient := newRecipient, depositAmount := deposit,
      ratePerSecond := source.ratePerSecond, startTime, cliffTime := newCliffTime, endTime,
      withdrawDustThreshold := some source.withdrawDustThreshold, memo := source.memo,
      metadata := none, kind := source.kind }
  validateStreamParams source.sender currentTime params
  pullToken source.sender deposit
  let newStreamId ← persistNewStream source.sender params
  publish (.cloned newStreamId streamId source.sender newRecipient deposit
    source.ratePerSecond startTime newCliffTime endTime)
  return newStreamId

/-- What the streams of a batch cost together. -/
def totalDeposit (streams : List CreateStreamParams) : ℤ :=
  (streams.map CreateStreamParams.depositAmount).sum

@[simp]
theorem totalDeposit_nil : totalDeposit [] = 0 :=
  rfl

@[simp]
theorem totalDeposit_cons (params : CreateStreamParams) (rest : List CreateStreamParams) :
    totalDeposit (params :: rest) = params.depositAmount + totalDeposit rest :=
  List.sum_cons

end Wallie.StreamContract
