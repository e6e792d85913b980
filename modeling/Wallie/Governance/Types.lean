import Wallie.StreamContract.Types

/-!
# Data model of the governance contract

Proposals, the records around them, the calls they can make and the events of
the contract. A proposal carries its call as bytes, which are only decoded when
it is executed.
-/

namespace Wallie.Governance

open StreamContract (Address Bytes)

/-- The value of the source's address-keyed maps, whose entries are all `true`. -/
abbrev AddressMap := Address → Option Bool

structure Proposal where
  proposer : Address
  target : Address
  calldata : Bytes
  approvals : List Address
  createdAt : ℕ
  executed : Bool
  cancelled : Bool

/-- When a proposal reached its quorum, and the threshold it was judged by. -/
structure QuorumInfo where
  reachedAt : ℕ
  threshold : ℕ
  deriving DecidableEq, Repr

/-- `invalidCalldata` is returned by the dispatch, although the enumeration of the source does not
list it. -/
inductive GovernanceError where
  | notInitialized
  | alreadyInitialized
  | unauthorized
  | notASigner
  | proposalNotFound
  | alreadyExecuted
  | quorumNotReached
  | timelockNotElapsed
  | alreadyApproved
  | calldataTooLarge
  | tooManySigners
  | proposalExpired
  | proposalCancelled
  | notProposerOrAdmin
  | invalidThreshold
  | quorumWouldBreak
  | duplicateSigner
  | arithmeticOverflow
  | calldataEmpty
  | invalidCalldata
  deriving DecidableEq, Repr

/-- A call fails with an error of the contract, or it traps. -/
inductive Failure where
  | error (reason : GovernanceError)
  | trap
  deriving DecidableEq, Repr

/-- The parameter changes that a proposal can make. -/
inductive CallData where
  | noop
  | streamSetAdmin (newAdmin : Address)
  | streamSetMaxRate (maxRate : ℤ)
  | factorySetAdmin (newAdmin : Address)
  | factorySetCap (maxDeposit : ℤ)
  | factorySetMinDuration (minDuration : ℕ)
  | factorySetAllowlist (recipient : Address) (allowed : Bool)
  | factorySetStreamContract (newContract : Address)
  deriving DecidableEq, Repr

/-- The function of the target that the change calls, with the data of the change as arguments.
`noop` calls nobody. -/
def CallData.function : CallData → Option String
  | noop => none
  | streamSetAdmin _ => some "set_admin"
  | streamSetMaxRate _ => some "set_max_rate_per_second"
  | factorySetAdmin _ => some "set_admin"
  | factorySetCap _ => some "set_cap"
  | factorySetMinDuration _ => some "set_min_duration"
  | factorySetAllowlist _ _ => some "set_allowlist"
  | factorySetStreamContract _ => some "set_stream_contract"

/-- A call to another contract. -/
structure Dispatch where
  proposalId : ℕ
  target : Address
  function : String
  op : CallData
  deriving DecidableEq, Repr

/-- What the host makes of the bytes of a call: it aborts on bytes that are not XDR. -/
inductive Decoded where
  | malformed
  | mismatched
  | value (op : CallData)
  deriving DecidableEq, Repr

inductive Event where
  | admChg (old new : Address)
  | sgnrAdd (signer : Address)
  | sgnrRm (signer : Address)
  | quorCfg (threshold signerCount : ℕ)
  | proposed (proposalId : ℕ) (proposer target : Address)
  | approved (proposalId : ℕ) (approver : Address) (approvalCount : ℕ)
  | quorum (proposalId quorumReachedAt executableAfter : ℕ)
  | cancelled (proposalId : ℕ) (canceller : Address)
  | executed (proposalId : ℕ) (executor target : Address) (calldata : Bytes)
  deriving DecidableEq, Repr

end Wallie.Governance
