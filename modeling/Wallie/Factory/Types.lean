import Wallie.StreamContract.Create

/-!
# Data model of the factory contract

The errors, the policy, the events and the requests to the stream contract. The
factory forwards terms in the records of the stream contract.
-/

namespace Wallie.Factory

open StreamContract (Address ContractError CreateStreamParams)

inductive FactoryError where
  | alreadyInitialized
  | notInitialized
  | unauthorized
  | recipientNotAllowlisted
  | depositExceedsCap
  | durationTooShort
  | invalidTimeRange
  | invalidCliff
  | creationPaused
  | streamContractPaused
  | streamContractError
  | rateBelowMin
  | rateAboveMax
  | invalidCap
  | invalidMinDuration
  | invalidMemo
  | invalidStreamContract
  deriving DecidableEq, Repr

/-- A call fails with an error of the contract, or it traps. -/
inductive Failure where
  | error (reason : FactoryError)
  | trap
  deriving DecidableEq, Repr

structure FactoryPolicy where
  streamContract : Address
  maxDeposit : ℤ
  minDuration : ℕ
  batchCapEnforced : Bool
  creationPaused : Bool
  minRatePerSecond : Option ℤ
  maxRatePerSecond : Option ℤ
  deriving DecidableEq, Repr

inductive Event where
  | fctInit (admin streamContract : Address) (maxDeposit : ℤ) (minDuration : ℕ)
  | adminUpd (oldAdmin newAdmin : Address)
  | stmUpd (oldContract newContract : Address)
  | allowUpd (recipient : Address) (allowed : Bool)
  | capUpd (oldCap newCap : ℤ)
  | durUpd (oldMinDuration newMinDuration : ℕ)
  | rateBnd (minRate maxRate : Option ℤ)
  | factoryPaused
  | factoryResumed
  | fctStrm (streamId : ℕ) (sender recipient : Address) (depositAmount ratePerSecond : ℤ)
  deriving DecidableEq, Repr

/-- What comes back from a request for one stream: its id, an error of the stream contract, or
neither of them. -/
inductive Reply where
  | created (streamId : ℕ)
  | refused (reason : ContractError)
  | failed
  deriving DecidableEq, Repr

/-- A request to a stream contract that was granted, with the ids that came back. -/
structure Creation where
  streamContract : Address
  sender : Address
  streams : List CreateStreamParams
  streamIds : List ℕ
  deriving DecidableEq, Repr

end Wallie.Factory
