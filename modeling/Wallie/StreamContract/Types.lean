import Mathlib.Tactic.Linarith
import Wallie.Lib.Bounded

/-!
# Data model of the stream contract

The records, enumerations and events of the stream contract, with the fields the
contract reads or returns. Integers are mathematical; the intervals of the
machine types they have in the source are `i128`, `u64` and `u32`.
-/

namespace Wallie.StreamContract

open Bounded (Interval)

/-- The values of the source's `i128`. -/
def i128 : Interval := ⟨-2 ^ 127, 2 ^ 127 - 1, by decide⟩

/-- The values of the source's `u64`. -/
def u64 : Interval := ⟨0, 2 ^ 64 - 1, by decide⟩

/-- The values of the source's `u32`. -/
def u32 : Interval := ⟨0, 2 ^ 32 - 1, by decide⟩

/-- An account is named by its ed25519 public key, a contract by its identifier. -/
inductive Address where
  | account (publicKey : ℕ)
  | contract (identifier : ℕ)
  deriving DecidableEq, Repr

abbrev Bytes := List UInt8

/-- A metadata map, as its list of entries. -/
abbrev Metadata := List (Bytes × Bytes)

inductive ContractError where
  | streamNotFound
  | invalidState
  | invalidParams
  | contractPaused
  | startTimeInPast
  | arithmeticOverflow
  | unauthorized
  | alreadyInitialised
  | tokenVerificationFailed
  | insufficientBalance
  | insufficientDeposit
  | streamAlreadyPaused
  | streamNotPaused
  | streamTerminalState
  | duplicateStreamId
  | invalidSignature
  | belowMinimumAmount
  | reservationCountZero
  | reservationLimitExceeded
  | signatureDeadlineExpired
  | templateNotFound
  | templateLimitExceeded
  | templateUnauthorized
  | pauseReasonTooLong
  | reservationNotFound
  | reservationNotExpirable
  | reservationStillActive
  | clockRegression
  | metadataTooLarge
  | unsupportedStreamKind
  | rateCapExceeded
  | pauseCooldownActive
  | withdrawalTooFrequent
  | keeperGracePeriodNotElapsed
  deriving DecidableEq, Repr

/-- The discriminants of the error enumeration. -/
def ContractError.code : ContractError → ℕ
  | streamNotFound => 1
  | invalidState => 2
  | invalidParams => 3
  | contractPaused => 4
  | startTimeInPast => 5
  | arithmeticOverflow => 6
  | unauthorized => 7
  | alreadyInitialised => 8
  | tokenVerificationFailed => 23
  | insufficientBalance => 9
  | insufficientDeposit => 10
  | streamAlreadyPaused => 11
  | streamNotPaused => 12
  | streamTerminalState => 13
  | duplicateStreamId => 14
  | invalidSignature => 15
  | belowMinimumAmount => 16
  | reservationCountZero => 17
  | reservationLimitExceeded => 18
  | signatureDeadlineExpired => 19
  | templateNotFound => 20
  | templateLimitExceeded => 21
  | templateUnauthorized => 22
  | pauseReasonTooLong => 27
  | reservationNotFound => 24
  | reservationNotExpirable => 25
  | reservationStillActive => 26
  | clockRegression => 28
  | metadataTooLarge => 29
  | unsupportedStreamKind => 30
  | rateCapExceeded => 31
  | pauseCooldownActive => 32
  | withdrawalTooFrequent => 33
  | keeperGracePeriodNotElapsed => 34

/-- A call fails with an error of the contract, or it traps: an unchecked operation
overflows, an assertion fails, or the host or the token aborts. -/
inductive Failure where
  | error (reason : ContractError)
  | trap
  deriving DecidableEq, Repr

inductive StreamStatus where
  | active
  | paused
  | completed
  | cancelled
  deriving DecidableEq, Repr

inductive StreamKind where
  | linear
  | cliffOnly
  deriving DecidableEq, Repr

inductive PauseReason where
  | operational
  | administrative
  | emergency
  | compliance
  deriving DecidableEq, Repr

/-- The text a pause reason is reported with. -/
def PauseReason.text : PauseReason → String
  | operational => "Operational"
  | administrative => "Administrative"
  | emergency => "Emergency"
  | compliance => "Compliance"

structure Config where
  token : Address
  admin : Address
  deriving DecidableEq, Repr

structure IdReservation where
  startId : ℕ
  count : ℕ
  consumed : ℕ
  expiry : Option ℕ
  deriving DecidableEq, Repr

structure Stream where
  streamId : ℕ
  sender : Address
  recipient : Address
  depositAmount : ℤ
  ratePerSecond : ℤ
  startTime : ℕ
  cliffTime : ℕ
  endTime : ℕ
  withdrawnAmount : ℤ
  status : StreamStatus
  cancelledAt : Option ℕ
  checkpointedAmount : ℤ
  checkpointedAt : ℕ
  withdrawDustThreshold : ℤ
  lastPauseToggleLedger : ℕ
  lastWithdrawLedger : ℕ
  metadata : Option Metadata
  memo : Option Bytes
  kind : StreamKind
  deriving DecidableEq, Repr

structure CreateStreamParams where
  recipient : Address
  depositAmount : ℤ
  ratePerSecond : ℤ
  startTime : ℕ
  cliffTime : ℕ
  endTime : ℕ
  withdrawDustThreshold : Option ℤ
  memo : Option Bytes
  metadata : Option Metadata
  kind : StreamKind
  deriving DecidableEq, Repr

structure CreateStreamRelativeParams where
  recipient : Address
  depositAmount : ℤ
  ratePerSecond : ℤ
  startDelay : ℕ
  cliffDelay : ℕ
  duration : ℕ
  withdrawDustThreshold : Option ℤ
  memo : Option Bytes
  metadata : Option Metadata
  kind : StreamKind
  deriving DecidableEq, Repr

structure CreateStreamResult where
  success : Bool
  streamId : Option ℕ
  error : Option ℕ
  deriving DecidableEq, Repr

structure BatchWithdrawResult where
  streamId : ℕ
  amount : ℤ
  deriving DecidableEq, Repr

structure WithdrawToParam where
  streamId : ℕ
  destination : Address
  deriving DecidableEq, Repr

structure PendingRecipientUpdate where
  streamId : ℕ
  proposedRecipient : Address
  deriving DecidableEq, Repr

inductive RotationRole where
  | recipient
  | sender
  deriving DecidableEq, Repr

structure RotationEntry where
  oldAddr : Address
  newAddr : Address
  ledger : ℕ
  role : RotationRole
  authoriser : Address
  deriving DecidableEq, Repr

structure StreamScheduleTemplate where
  templateId : ℕ
  owner : Address
  startDelay : ℕ
  cliffDelay : ℕ
  duration : ℕ
  deriving DecidableEq, Repr

structure PauseRecord where
  actor : Address
  timestamp : ℕ
  reason : String
  deriving DecidableEq, Repr

/-- The events of the contract: the topic names the constructor, the payload its fields. -/
inductive Event where
  | created (streamId : ℕ) (sender recipient : Address) (depositAmount ratePerSecond : ℤ)
      (startTime cliffTime endTime : ℕ) (withdrawDustThreshold : ℤ) (memo : Option Bytes)
      (metadata : Option Metadata)
  | cloned (newStreamId sourceStreamId : ℕ) (sender recipient : Address)
      (depositAmount ratePerSecond : ℤ) (startTime cliffTime endTime : ℕ)
  | withdrew (streamId : ℕ) (recipient : Address) (amount : ℤ)
  /-- The `withdrew` topic with the payload that also names a destination. -/
  | withdrewTo (streamId : ℕ) (recipient destination : Address) (amount : ℤ)
  | wdrawTo (streamId : ℕ) (recipient destination : Address) (amount : ℤ)
  | completed (streamId : ℕ)
  | cancelled (streamId : ℕ)
  | closed (streamId : ℕ)
  | paused (streamId : ℕ) (reason : String)
  | resumed (streamId : ℕ)
  | rateUpd (streamId : ℕ) (oldRatePerSecond newRatePerSecond : ℤ) (effectiveTime : ℕ)
  | rateCap (streamId : ℕ) (attemptedRate maxRatePerSecond : ℤ)
  | rateDec (streamId : ℕ) (oldRatePerSecond newRatePerSecond : ℤ) (effectiveTime : ℕ)
      (checkpointedAmount refundAmount : ℤ)
  | endShrt (streamId oldEndTime newEndTime : ℕ) (refundAmount : ℤ)
  | endExt (streamId oldEndTime newEndTime : ℕ)
  | topUp (streamId : ℕ) (topUpAmount newDepositAmount : ℤ) (newEndTime : ℕ)
  | recpUpd (streamId : ℕ) (oldRecipient newRecipient : Address)
  | kpCncl (streamId : ℕ) (keeper : Address) (keeperFee recipientAmount senderRefund : ℤ)
  | health (streamId : ℕ) (isUnderfunded : Bool) (remainingBalance : ℤ) (secondsRemaining : ℕ)
  | acSet (streamId : ℕ) (destination : Address)
  | acRevoke (streamId : ℕ)
  | acTrig (streamId : ℕ) (destination : Address) (amount : ℤ)
  | exSwept (destination : Address) (amount : ℤ)
  | adminUpd (oldAdmin newAdmin : Address)
  | glPause (paused : Bool)
  | glResume (resumedAt : ℕ)
  | ctPause (paused : Bool)
  | prPause (admin : Address) (reason : String) (pausedAt : ℕ)
  | prResume (admin : Address) (resumedAt : ℕ)
  | tmplDef (template : StreamScheduleTemplate)
  | resRel (holder : Address) (startId count consumed reclaimed : ℕ)

/-- Why tokens leave the contract on account of a stream. -/
inductive PayoutKind where
  | withdrawal
  | autoClaim
  | bulkSettlement
  | keeperSettlement
  | cancelRefund
  | keeperRefund
  | keeperFee
  | shortenRefund
  | decreaseRefund
  deriving DecidableEq, Repr

/-- One line of a token transfer out of the contract: the stream it is paid for, why, to whom
and how much, at which ledger, and the record stored for the stream at that moment. -/
structure Payout where
  streamId : ℕ
  kind : PayoutKind
  destination : Address
  amount : ℤ
  sequence : ℕ
  stored : Option Stream
  deriving DecidableEq, Repr

end Wallie.StreamContract
