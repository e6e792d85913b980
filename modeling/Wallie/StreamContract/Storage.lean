import Wallie.Lib.Fallible
import Wallie.StreamContract.Accrual
import Mathlib.Logic.Function.Basic

/-!
# Storage and host

The state a call reads and writes: the contract's instance and persistent
storage, and around it what the host keeps for it, the balances and allowances
of its token and the log of published events and of payouts. Storage lifetimes
are not modelled, since no function of the contract reads them.

A read of a missing instance key falls back to a default in the source; such a
key is modelled by a field that starts at the default.
-/

namespace Wallie.StreamContract

open Fallible

structure State where
  config : Option Config
  nextStreamId : ℕ
  globalEmergencyPaused : Bool
  creationPaused : Bool
  globalPauseReason : Option String
  globalPauseTimestamp : Option ℕ
  globalPauseAdmin : Option Address
  nextTemplateId : ℕ
  activeTemplateCount : ℕ
  totalLiabilities : ℤ
  reentrancyLock : Bool
  maxRatePerSecond : ℤ
  lastPauseRecord : Option PauseRecord
  lastAccrualLedgerTimestamp : Option ℕ
  pausedStreamCount : ℕ
  totalKeeperFeesPaid : ℤ
  streams : ℕ → Option Stream
  recipientStreams : Address → List ℕ
  autoClaimDestination : ℕ → Option Address
  streamTemplate : ℕ → Option StreamScheduleTemplate
  ownerTemplateIds : Address → List ℕ
  pendingRecipientUpdate : ℕ → Option PendingRecipientUpdate
  idReservation : Address → Option IdReservation
  delegatedWithdrawNonce : Address → ℕ
  rotationHistory : ℕ → List RotationEntry
  /-- Balances of the contract's token. -/
  balances : Address → ℤ
  /-- What each owner allows the contract to pull. -/
  allowances : Address → ℤ
  events : List Event
  payouts : List Payout

/-- What the host supplies to one invocation. -/
structure Env where
  currentContractAddress : Address
  timestamp : ℕ
  sequence : ℕ
  /-- The addresses that authorised the invocation. -/
  auth : Address → Bool
  ed25519Verify : ℕ → Bytes → Bytes → Bool
  /-- Whether the token refuses a transfer for a reason of its own. -/
  tokenRefuses : State → Address → Address → ℤ → Bool

/-- A call of the contract. -/
abbrev Contract := Fallible Env State Failure

/-! ## Arithmetic -/

/-- A checked `i128` operation: the exact result, or an error of the contract. -/
def checkedI128 (value : ℤ) (reason : ContractError) : Contract ℤ :=
  getOrReject (i128.check value) (.error reason)

/-- A plain `i128` operation: it traps when the exact result does not fit. -/
def plainI128 (value : ℤ) : Contract ℤ :=
  getOrReject (i128.check value) .trap

def checkedAddU64 (left right : ℕ) (reason : ContractError) : Contract ℕ := do
  rejectIf (u64.upper < (left + right : ℕ)) (.error reason)
  return left + right

def plainAddU64 (left right : ℕ) : Contract ℕ := do
  rejectIf (u64.upper < (left + right : ℕ)) .trap
  return left + right

/-- A plain unsigned subtraction traps when the result would be negative. -/
def plainSub (left right : ℕ) : Contract ℕ := do
  rejectIf (left < right) .trap
  return left - right

/-! ## Host and instance storage -/

def requireAuth (address : Address) : Contract Unit := do
  let authorised ← ask fun env => env.auth address
  rejectIf (authorised = false) .trap

def publish (event : Event) : Contract Unit :=
  update fun s => { s with events := s.events ++ [event] }

/-- The regression check is compiled out of release builds; on a clock that never goes back
the two builds agree. -/
def assertLedgerTimeMonotonic (prevTs currentTs : ℕ) : Contract Unit :=
  rejectIf (currentTs < prevTs) (.error .clockRegression)

def currentAccrualTimestamp : Contract ℕ := do
  let now ← ask Env.timestamp
  let prev ← peek State.lastAccrualLedgerTimestamp
  assertLedgerTimeMonotonic (prev.getD 0) now
  update fun s => { s with lastAccrualLedgerTimestamp := some now }
  return now

def acquireReentrancyLock : Contract Unit := do
  let locked ← peek State.reentrancyLock
  rejectIf (locked = true) (.error .invalidState)
  update fun s => { s with reentrancyLock := true }

def releaseReentrancyLock : Contract Unit :=
  update fun s => { s with reentrancyLock := false }

def getConfig : Contract Config := do
  let config ← peek State.config
  getOrReject config (.error .invalidState)

def getToken : Contract Address := do
  let config ← getConfig
  return config.token

def getAdmin : Contract Address := do
  let config ← getConfig
  return config.admin

def requireNotGloballyPaused : Contract Unit := do
  let paused ← peek State.globalEmergencyPaused
  rejectIf (paused = true) (.error .contractPaused)

def requireNotCreationPaused : Contract Unit := do
  requireNotGloballyPaused
  let paused ← peek State.creationPaused
  rejectIf (paused = true) (.error .contractPaused)

def isProtocolPaused : Contract Bool :=
  peek fun s => s.globalEmergencyPaused || s.creationPaused

def setStreamCount (count : ℕ) : Contract Unit :=
  update fun s => { s with nextStreamId := count }

/-- The number of paused streams after one stream changes status. -/
def reconciledCount (previous next : StreamStatus) (count : ℕ) : ℕ :=
  if previous = next then count
  else match previous, next with
    | .paused, _ => count - 1
    | _, .paused => min (count + 1) (2 ^ 64 - 1)
    | _, _ => count

def reconcilePausedStreamCount (previous next : StreamStatus) : Contract Unit :=
  update fun s =>
    { s with pausedStreamCount := reconciledCount previous next s.pausedStreamCount }

/-- `read.checked_add(amount).unwrap_or(i128::MAX)`. -/
def increasedLiabilities (liabilities amount : ℤ) : ℤ :=
  (i128.check (liabilities + amount)).getD i128.upper

/-- `read.checked_sub(amount).unwrap_or(0)`. -/
def reducedLiabilities (liabilities amount : ℤ) : ℤ :=
  (i128.check (liabilities - amount)).getD 0

/-- The liabilities once `amount` is released, if it is positive. -/
def releasedLiabilities (liabilities amount : ℤ) : ℤ :=
  if 0 < amount then reducedLiabilities liabilities amount else liabilities

def increaseLiabilities (amount : ℤ) : Contract Unit :=
  update fun s => { s with totalLiabilities := increasedLiabilities s.totalLiabilities amount }

def reduceLiabilities (amount : ℤ) : Contract Unit :=
  update fun s => { s with totalLiabilities := reducedLiabilities s.totalLiabilities amount }

/-- `if amount > 0 { … }` around a reduction of the liabilities. -/
def releaseLiabilities (amount : ℤ) : Contract Unit :=
  update fun s => { s with totalLiabilities := releasedLiabilities s.totalLiabilities amount }

def incrementTotalKeeperFeesPaid (amount : ℤ) : Contract Unit := do
  let current ← peek State.totalKeeperFeesPaid
  let updated ← checkedI128 (current + amount) .arithmeticOverflow
  update fun s => { s with totalKeeperFeesPaid := updated }

/-! ## Streams and reservations -/

def saveIdReservation (caller : Address) (res : IdReservation) : Contract Unit :=
  update fun s => { s with idReservation := Function.update s.idReservation caller (some res) }

def removeIdReservation (caller : Address) : Contract Unit :=
  update fun s => { s with idReservation := Function.update s.idReservation caller none }

def nextStreamIdFor (caller : Address) : Contract ℕ := do
  let reservation ← peek fun s => s.idReservation caller
  match reservation with
  | some res => do
      let id ← plainAddU64 res.startId res.consumed
      -- `consumed` stays at most `count`, so its increment cannot overflow.
      let res := { res with consumed := res.consumed + 1 }
      if res.consumed ≥ res.count then removeIdReservation caller else saveIdReservation caller res
      return id
  | none => do
      let id ← peek State.nextStreamId
      let next ← plainAddU64 id 1
      setStreamCount next
      return id

def loadStream (streamId : ℕ) : Contract Stream := do
  let stream ← peek fun s => s.streams streamId
  getOrReject stream (.error .streamNotFound)

def saveStream (stream : Stream) : Contract Unit :=
  update fun s => { s with streams := Function.update s.streams stream.streamId (some stream) }

def removeStream (streamId : ℕ) : Contract Unit :=
  update fun s => { s with streams := Function.update s.streams streamId none }

/-- A stream is terminal when it is closed for good or its end has passed. -/
def Stream.IsTerminal (stream : Stream) (now : ℕ) : Prop :=
  stream.status = .completed ∨ stream.status = .cancelled ∨ stream.endTime ≤ now

instance (stream : Stream) (now : ℕ) : Decidable (stream.IsTerminal now) :=
  inferInstanceAs (Decidable (_ ∨ _ ∨ _))

/-! ## Recipient index -/

/-- Binary search in an ascending vector: the position of a member, or where to insert. -/
def binarySearch (ids : List ℕ) (id : ℕ) : Except ℕ ℕ :=
  let position := (ids.takeWhile (· < id)).length
  if ids[position]? = some id then .ok position else .error position

def searchPosition (ids : List ℕ) (id : ℕ) : ℕ :=
  match binarySearch ids id with
  | .ok position => position
  | .error position => position

/-- The list with `id` inserted where binary search puts it. -/
def insertSorted (ids : List ℕ) (id : ℕ) : List ℕ :=
  ids.insertIdx (searchPosition ids id) id

/-- The list without `id`, if binary search finds it. -/
def removeSorted (ids : List ℕ) (id : ℕ) : List ℕ :=
  match binarySearch ids id with
  | .ok position => ids.eraseIdx position
  | .error _ => ids

def saveRecipientStreams (recipient : Address) (ids : List ℕ) : Contract Unit :=
  update fun s => { s with recipientStreams := Function.update s.recipientStreams recipient ids }

def addStreamToRecipientIndex (recipient : Address) (streamId : ℕ) : Contract Unit := do
  let streams ← peek fun s => s.recipientStreams recipient
  saveRecipientStreams recipient (insertSorted streams streamId)

def removeStreamFromRecipientIndex (recipient : Address) (streamId : ℕ) : Contract Unit := do
  let streams ← peek fun s => s.recipientStreams recipient
  saveRecipientStreams recipient (removeSorted streams streamId)

/-! ## Token -/

/-- Why and on account of which stream part of a transfer leaves the contract. -/
structure PayoutLine where
  streamId : ℕ
  kind : PayoutKind
  amount : ℤ

/-- The balances after `amount` moved from `source` to `destination`. -/
def movedBalances (balances : Address → ℤ) (source destination : Address) (amount : ℤ) :
    Address → ℤ :=
  let debited := Function.update balances source (balances source - amount)
  Function.update debited destination (debited destination + amount)

/-- Balances of the token are amounts it can represent. -/
def TokenBalances (balances : Address → ℤ) : Prop :=
  ∀ holder, 0 ≤ balances holder ∧ balances holder ≤ i128.upper

/-- The token moves exactly `amount` when the owner has it and the receiver can hold it,
unless it refuses. -/
structure TransferAllowed (env : Env) (s : State) (source destination : Address)
    (amount : ℤ) : Prop where
  amount_nonneg : 0 ≤ amount
  covered : amount ≤ s.balances source
  fits : i128.Contains (movedBalances s.balances source destination amount destination)
  accepted : env.tokenRefuses s source destination amount = false

instance (env : Env) (s : State) (source destination : Address) (amount : ℤ) :
    Decidable (TransferAllowed env s source destination amount) :=
  decidable_of_iff
    (0 ≤ amount ∧ amount ≤ s.balances source ∧
      i128.Contains (movedBalances s.balances source destination amount destination) ∧
      env.tokenRefuses s source destination amount = false)
    ⟨fun ⟨nonneg, covered, fits, accepted⟩ => ⟨nonneg, covered, fits, accepted⟩,
      fun ⟨nonneg, covered, fits, accepted⟩ => ⟨nonneg, covered, fits, accepted⟩⟩

def tokenBalance : Contract ℤ := do
  let _ ← getToken
  let address ← ask Env.currentContractAddress
  peek fun s => s.balances address

/-- The token's `transfer`, which traps when it is not allowed. -/
def tokenTransfer (source destination : Address) (amount : ℤ) : Contract Unit := do
  let env ← ask id
  let s ← peek id
  rejectIf (¬ TransferAllowed env s source destination amount) .trap
  update fun s => { s with balances := movedBalances s.balances source destination amount }

def pullToken (source : Address) (amount : ℤ) : Contract Unit := do
  let _ ← getToken
  let address ← ask Env.currentContractAddress
  -- `transfer_from` spends the allowance the owner granted to the contract.
  let allowance ← peek fun s => s.allowances source
  rejectIf (allowance < amount) .trap
  tokenTransfer source address amount
  update fun s =>
    { s with allowances := Function.update s.allowances source (allowance - amount) }

/-- A transfer out of the contract. `lines` says for which streams it is paid; the source
does not keep that account, and nothing the contract computes reads it. -/
def pushToken (destination : Address) (amount : ℤ) (lines : List PayoutLine) :
    Contract Unit := do
  let _ ← getToken
  let env ← ask id
  tokenTransfer env.currentContractAddress destination amount
  update fun s => { s with
    payouts := s.payouts ++ lines.map fun line =>
      { streamId := line.streamId, kind := line.kind, destination, amount := line.amount,
        sequence := env.sequence, stored := s.streams line.streamId } }

/-- `if amount > 0 { … }` around a transfer on account of one stream. -/
def pushPositive (destination : Address) (amount : ℤ) (streamId : ℕ) (kind : PayoutKind) :
    Contract Unit :=
  if 0 < amount then pushToken destination amount [⟨streamId, kind, amount⟩] else pure ()

end Wallie.StreamContract
