import Wallie.Factory.Types
import Wallie.Lib.Fallible
import Mathlib.Logic.Function.Basic

/-!
# The factory contract

A treasury creates its streams through the factory, which checks the terms
against a policy that its admin sets and forwards them to a stream contract. The
stream contract is outside of this model: the host supplies what it answers, and
rejects a call of it back into the factory. Storage lifetimes are not modelled,
since no function of the contract reads them.
-/

namespace Wallie.Factory

open Fallible
open StreamContract (Address CreateStreamParams i128 maxMemoBytes)

def maxMinDurationSeconds : ℕ := 100 * 365 * 24 * 60 * 60

/-! ## Storage and host -/

structure State where
  admin : Option Address
  streamContract : Option Address
  maxDepositCap : Option ℤ
  minDuration : Option ℕ
  batchCapEnforced : Option Bool
  /-- A missing entry is read as `false`. -/
  allowlist : Address → Bool
  /-- A missing list is read as empty. -/
  factoryStreamIds : List ℕ
  /-- A missing flag is read as `false`. -/
  creationPaused : Bool
  minRatePerSecond : Option ℤ
  maxRatePerSecond : Option ℤ
  events : List Event
  /-- The requests that stream contracts have granted. The source keeps no such account, and
  nothing the contract computes reads it. -/
  creations : List Creation

/-- What the host supplies to one invocation. -/
structure Env where
  /-- The addresses that authorised the invocation. -/
  auth : Address → Bool
  /-- Whether `version` of a contract answers. -/
  version : Address → Bool
  /-- What `create_stream` of a contract answers to a sender's terms. -/
  createStream : Address → Address → CreateStreamParams → Reply
  /-- What `create_streams` of a contract answers, unless it aborts. -/
  createStreams : Address → Address → List CreateStreamParams → Option (List ℕ)

/-- A call of the contract. -/
abbrev Contract := Fallible Env State Failure

def requireAuth (address : Address) : Contract Unit := do
  let authorised ← ask fun env => env.auth address
  rejectIf (authorised = false) .trap

def publish (event : Event) : Contract Unit :=
  update fun s => { s with events := s.events ++ [event] }

def requireAdmin : Contract Address := do
  let admin ← peek State.admin
  let admin ← getOrReject admin (.error .notInitialized)
  requireAuth admin
  return admin

def validateStreamContract (streamContract : Address) : Contract Unit := do
  let answers ← ask fun env => env.version streamContract
  rejectIf (answers = false) (.error .invalidStreamContract)

def validateCap (maxDeposit : ℤ) : Contract Unit :=
  rejectIf (maxDeposit ≤ 0) (.error .invalidCap)

def validateMinDuration (minDuration : ℕ) : Contract Unit :=
  rejectIf (maxMinDurationSeconds < minDuration) (.error .invalidMinDuration)

def loadPolicy : Contract FactoryPolicy := do
  let streamContract ← peek State.streamContract
  let streamContract ← getOrReject streamContract (.error .notInitialized)
  let maxDeposit ← peek State.maxDepositCap
  let maxDeposit ← getOrReject maxDeposit (.error .notInitialized)
  let minDuration ← peek State.minDuration
  let minDuration ← getOrReject minDuration (.error .notInitialized)
  let batchCapEnforced ← peek State.batchCapEnforced
  let batchCapEnforced ← getOrReject batchCapEnforced (.error .notInitialized)
  let creationPaused ← peek State.creationPaused
  let minRatePerSecond ← peek State.minRatePerSecond
  let maxRatePerSecond ← peek State.maxRatePerSecond
  return { streamContract, maxDeposit, minDuration, batchCapEnforced, creationPaused,
           minRatePerSecond, maxRatePerSecond }

/-! ## Administration -/

def init (admin streamContract : Address) (maxDeposit : ℤ) (minDuration : ℕ) :
    Contract Unit := do
  let initialised ← peek fun s => s.admin.isSome
  rejectIf (initialised = true) (.error .alreadyInitialized)
  requireAuth admin
  validateStreamContract streamContract
  validateCap maxDeposit
  validateMinDuration minDuration
  update fun s => { s with
    admin := some admin
    streamContract := some streamContract
    maxDepositCap := some maxDeposit
    minDuration := some minDuration
    batchCapEnforced := some true }
  publish (.fctInit admin streamContract maxDeposit minDuration)

def setAdmin (newAdmin : Address) : Contract Unit := do
  let oldAdmin ← requireAdmin
  update fun s => { s with admin := some newAdmin }
  publish (.adminUpd oldAdmin newAdmin)

def setStreamContract (newStreamContract : Address) : Contract Unit := do
  let _ ← requireAdmin
  validateStreamContract newStreamContract
  let oldContract ← peek State.streamContract
  let oldContract ← getOrReject oldContract (.error .notInitialized)
  update fun s => { s with streamContract := some newStreamContract }
  publish (.stmUpd oldContract newStreamContract)

def setAllowlist (recipient : Address) (allowed : Bool) : Contract Unit := do
  let _ ← requireAdmin
  update fun s => { s with allowlist := Function.update s.allowlist recipient allowed }
  publish (.allowUpd recipient allowed)

def setCap (maxDeposit : ℤ) : Contract Unit := do
  let _ ← requireAdmin
  validateCap maxDeposit
  let oldCap ← peek fun s => s.maxDepositCap.getD 0
  update fun s => { s with maxDepositCap := some maxDeposit }
  publish (.capUpd oldCap maxDeposit)

def setMinDuration (minDuration : ℕ) : Contract Unit := do
  let _ ← requireAdmin
  validateMinDuration minDuration
  let oldMinDuration ← peek fun s => s.minDuration.getD 0
  update fun s => { s with minDuration := some minDuration }
  publish (.durUpd oldMinDuration minDuration)

def setBatchCapEnforcement (enabled : Bool) : Contract Unit := do
  let _ ← requireAdmin
  update fun s => { s with batchCapEnforced := some enabled }

/-- `if let Some(bound)` around the check and the write of one bound. -/
def storeRateBound (bound : Option ℤ) (store : ℤ → State → State) : Contract Unit :=
  match bound with
  | none => pure ()
  | some rate => do
      rejectIf (rate < 0) (.error .streamContractError)
      update (store rate)

def setRateBounds (minRate maxRate : Option ℤ) : Contract Unit := do
  let _ ← requireAdmin
  storeRateBound minRate fun rate s => { s with minRatePerSecond := some rate }
  storeRateBound maxRate fun rate s => { s with maxRatePerSecond := some rate }
  -- The bounds are compared once both are written; an error undoes the writes.
  let currentMin ← peek State.minRatePerSecond
  let currentMax ← peek State.maxRatePerSecond
  rejectIf (∃ low ∈ currentMin, ∃ high ∈ currentMax, high < low) (.error .streamContractError)
  publish (.rateBnd minRate maxRate)

def setFactoryPaused (paused : Bool) : Contract Unit := do
  let _ ← requireAdmin
  update fun s => { s with creationPaused := paused }
  publish (if paused then .factoryPaused else .factoryResumed)

/-! ## Creation -/

def appendStreamId (streamId : ℕ) : Contract Unit :=
  update fun s => { s with factoryStreamIds := s.factoryStreamIds ++ [streamId] }

def appendStreamIdsBatch (streamIds : List ℕ) : Contract Unit :=
  if streamIds = [] then pure ()
  else update fun s => { s with factoryStreamIds := s.factoryStreamIds ++ streamIds }

def noteCreation (creation : Creation) : Contract Unit :=
  update fun s => { s with creations := s.creations ++ [creation] }

/-- `try_create_stream` of the stream contract, which hands its errors to the factory. -/
def tryCreateStream (streamContract sender : Address) (params : CreateStreamParams) :
    Contract ℕ := do
  let reply ← ask fun env => env.createStream streamContract sender params
  match reply with
  | .created streamId => do
      noteCreation { streamContract, sender, streams := [params], streamIds := [streamId] }
      return streamId
  | .refused .contractPaused => reject (.error .streamContractPaused)
  | .refused _ => reject (.error .streamContractError)
  | .failed => reject (.error .streamContractError)

/-- `create_streams` of the stream contract, whose errors abort the factory. -/
def requestStreams (streamContract sender : Address) (streams : List CreateStreamParams) :
    Contract (List ℕ) := do
  let reply ← ask fun env => env.createStreams streamContract sender streams
  let streamIds ← getOrReject reply .trap
  noteCreation { streamContract, sender, streams, streamIds }
  return streamIds

/-- The terms come as single arguments in the source, without metadata. -/
def createStream (sender : Address) (params : CreateStreamParams) : Contract ℕ := do
  let policy ← loadPolicy
  rejectIf (policy.creationPaused = true) (.error .creationPaused)
  let isAllowed ← peek fun s => s.allowlist params.recipient
  rejectIf (isAllowed = false) (.error .recipientNotAllowlisted)
  rejectIf (policy.maxDeposit < params.depositAmount) (.error .depositExceedsCap)
  rejectIf (params.endTime ≤ params.startTime) (.error .invalidTimeRange)
  rejectIf (params.cliffTime < params.startTime ∨ params.endTime < params.cliffTime)
    (.error .invalidCliff)
  let duration := params.endTime - params.startTime
  rejectIf (duration < policy.minDuration) (.error .durationTooShort)
  -- The source opens each rate guard twice, with the stored bound and with its copy in the policy.
  rejectIf (∃ minRate ∈ policy.minRatePerSecond, params.ratePerSecond < minRate)
    (.error .rateBelowMin)
  rejectIf (∃ maxRate ∈ policy.maxRatePerSecond, maxRate < params.ratePerSecond)
    (.error .rateAboveMax)
  rejectIf (∃ memo ∈ params.memo, maxMemoBytes < memo.length) (.error .invalidMemo)
  requireAuth sender
  let streamId ← tryCreateStream policy.streamContract sender params
  appendStreamId streamId
  publish (.fctStrm streamId sender params.recipient params.depositAmount params.ratePerSecond)
  return streamId

def validateRateBounds (ratePerSecond : ℤ) (minRate maxRate : Option ℤ) : Contract Unit := do
  rejectIf (∃ minR ∈ minRate, ratePerSecond < minR) (.error .rateBelowMin)
  rejectIf (∃ maxR ∈ maxRate, maxR < ratePerSecond) (.error .rateAboveMax)

/-- `if enforce_batch_cap { … }` in the loop of the batch. -/
def addToBatch (policy : FactoryPolicy) (totalDeposit depositAmount : ℤ) : Contract ℤ :=
  if policy.batchCapEnforced then do
    let totalDeposit ← getOrReject (i128.check (totalDeposit + depositAmount))
      (.error .depositExceedsCap)
    rejectIf (policy.maxDeposit < totalDeposit) (.error .depositExceedsCap)
    return totalDeposit
  else return totalDeposit

/-- The loop of `create_streams` over the entries. -/
def validateEntries (policy : FactoryPolicy) : List CreateStreamParams → ℤ → Contract Unit
  | [], _ => pure ()
  | params :: rest, totalDeposit => do
      let isAllowed ← peek fun s => s.allowlist params.recipient
      rejectIf (isAllowed = false) (.error .recipientNotAllowlisted)
      rejectIf (policy.maxDeposit < params.depositAmount) (.error .depositExceedsCap)
      rejectIf (params.endTime ≤ params.startTime) (.error .invalidTimeRange)
      rejectIf (params.cliffTime < params.startTime ∨ params.endTime < params.cliffTime)
        (.error .invalidCliff)
      let duration := params.endTime - params.startTime
      rejectIf (duration < policy.minDuration) (.error .durationTooShort)
      validateRateBounds params.ratePerSecond policy.minRatePerSecond policy.maxRatePerSecond
      rejectIf (∃ memo ∈ params.memo, maxMemoBytes < memo.length) (.error .invalidMemo)
      let totalDeposit ← addToBatch policy totalDeposit params.depositAmount
      validateEntries policy rest totalDeposit

def createStreams (sender : Address) (streams : List CreateStreamParams) :
    Contract (List ℕ) := do
  let policy ← loadPolicy
  requireAuth sender
  rejectIf (policy.creationPaused = true) (.error .creationPaused)
  validateEntries policy streams 0
  if streams = [] then return []
  else do
    let createdIds ← requestStreams policy.streamContract sender streams
    appendStreamIdsBatch createdIds
    return createdIds

/-! ## Runs -/

inductive Call where
  | init (admin streamContract : Address) (maxDeposit : ℤ) (minDuration : ℕ)
  | setAdmin (newAdmin : Address)
  | setStreamContract (newStreamContract : Address)
  | setAllowlist (recipient : Address) (allowed : Bool)
  | setCap (maxDeposit : ℤ)
  | setMinDuration (minDuration : ℕ)
  | setBatchCapEnforcement (enabled : Bool)
  | setRateBounds (minRate maxRate : Option ℤ)
  | setFactoryPaused (paused : Bool)
  | createStream (sender : Address) (params : CreateStreamParams)
  | createStreams (sender : Address) (streams : List CreateStreamParams)
  deriving DecidableEq, Repr

def Call.run : Call → Contract Unit
  | init admin streamContract maxDeposit minDuration =>
      Factory.init admin streamContract maxDeposit minDuration
  | setAdmin newAdmin => Factory.setAdmin newAdmin
  | setStreamContract newStreamContract => Factory.setStreamContract newStreamContract
  | setAllowlist recipient allowed => Factory.setAllowlist recipient allowed
  | setCap maxDeposit => Factory.setCap maxDeposit
  | setMinDuration minDuration => Factory.setMinDuration minDuration
  | setBatchCapEnforcement enabled => Factory.setBatchCapEnforcement enabled
  | setRateBounds minRate maxRate => Factory.setRateBounds minRate maxRate
  | setFactoryPaused paused => Factory.setFactoryPaused paused
  | createStream sender params => do
      let _ ← Factory.createStream sender params
      return ()
  | createStreams sender streams => do
      let _ ← Factory.createStreams sender streams
      return ()

end Wallie.Factory
