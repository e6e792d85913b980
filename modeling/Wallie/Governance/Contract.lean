import Wallie.Governance.Types
import Wallie.Lib.Fallible
import Mathlib.Logic.Function.Basic

/-!
# The governance contract

A council of signers proposes and approves calls. A proposal that has enough
approvals can be executed after a timelock, as long as it is neither too old nor
cancelled. Storage lifetimes are not modelled, since no function of the contract
reads them.
-/

namespace Wallie.Governance

open Fallible
open StreamContract (Address Bytes u32 u64)

def governanceTimelockSeconds : ℕ := 172800

def maxSigners : ℕ := 20

def maxCalldataBytes : ℕ := 4096

def maxProposalAgeSeconds : ℕ := 2592000

/-! ## Storage and host -/

structure State where
  admin : Option Address
  signers : Option (List Address)
  signerIndex : Option AddressMap
  threshold : Option ℕ
  /-- A missing counter is read as 0. -/
  nextProposalId : ℕ
  proposals : ℕ → Option Proposal
  quorumReachedAt : ℕ → Option QuorumInfo
  /-- A missing index is read as empty. -/
  proposalApprovalIdx : ℕ → AddressMap
  events : List Event
  /-- The calls made to other contracts. -/
  dispatches : List Dispatch

/-- What the host supplies to one invocation. -/
structure Env where
  timestamp : ℕ
  /-- The addresses that authorised the invocation. -/
  auth : Address → Bool
  fromXdr : Bytes → Decoded
  /-- Whether the target of a call aborts it. A call back into this contract is aborted by the
  host. -/
  rejects : State → Dispatch → Bool

/-- A call of the contract. -/
abbrev Contract := Fallible Env State Failure

def requireAuth (address : Address) : Contract Unit := do
  let authorised ← ask fun env => env.auth address
  rejectIf (authorised = false) .trap

def publish (event : Event) : Contract Unit :=
  update fun s => { s with events := s.events ++ [event] }

def getAdmin : Contract Address := do
  let admin ← peek State.admin
  getOrReject admin (.error .notInitialized)

def getSigners : Contract (List Address) := do
  let signers ← peek State.signers
  getOrReject signers (.error .notInitialized)

def getSignerIndex : Contract AddressMap := do
  let index ← peek State.signerIndex
  getOrReject index (.error .notInitialized)

def getThreshold : Contract ℕ := do
  let threshold ← peek State.threshold
  getOrReject threshold (.error .notInitialized)

def isRegisteredSigner (addr : Address) : Contract Bool := do
  let index ← getSignerIndex
  return (index addr).isSome

def checkedDeadline (start seconds : ℕ) : Contract ℕ := do
  rejectIf (u64.upper < (start + seconds : ℕ)) (.error .arithmeticOverflow)
  return start + seconds

def incrementProposalId : Contract ℕ := do
  let id ← peek State.nextProposalId
  rejectIf (u32.upper < (id + 1 : ℕ)) (.error .arithmeticOverflow)
  update fun s => { s with nextProposalId := id + 1 }
  return id

def loadProposal (id : ℕ) : Contract Proposal := do
  let proposal ← peek fun s => s.proposals id
  getOrReject proposal (.error .proposalNotFound)

def saveProposal (id : ℕ) (proposal : Proposal) : Contract Unit :=
  update fun s => { s with proposals := Function.update s.proposals id (some proposal) }

def saveApprovalIndex (proposalId : ℕ) (index : AddressMap) : Contract Unit :=
  update fun s =>
    { s with proposalApprovalIdx := Function.update s.proposalApprovalIdx proposalId index }

def saveQuorumInfo (proposalId : ℕ) (info : QuorumInfo) : Contract Unit :=
  update fun s =>
    { s with quorumReachedAt := Function.update s.quorumReachedAt proposalId (some info) }

def saveSigners (signers : List Address) (index : AddressMap) : Contract Unit :=
  update fun s => { s with signers := some signers, signerIndex := some index }

/-! ## The council -/

/-- The loop of `init` that builds the index and finds duplicates with it. -/
def indexSigners : List Address → AddressMap → Contract AddressMap
  | [], signerIndex => pure signerIndex
  | signer :: rest, signerIndex => do
      rejectIf ((signerIndex signer).isSome = true) (.error .duplicateSigner)
      indexSigners rest (Function.update signerIndex signer (some true))

def init (admin : Address) (signers : List Address) (threshold : ℕ) : Contract Unit := do
  let initialised ← peek fun s => s.admin.isSome
  rejectIf (initialised = true) (.error .alreadyInitialized)
  rejectIf (maxSigners < signers.length) (.error .tooManySigners)
  rejectIf (threshold = 0 ∨ signers.length < threshold) (.error .invalidThreshold)
  let signerIndex ← indexSigners signers fun _ => none
  update fun s => { s with
    admin := some admin
    signers := some signers
    signerIndex := some signerIndex
    threshold := some threshold
    nextProposalId := 0 }

def setAdmin (newAdmin : Address) : Contract Unit := do
  let oldAdmin ← getAdmin
  requireAuth oldAdmin
  update fun s => { s with admin := some newAdmin }
  publish (.admChg oldAdmin newAdmin)

def addSigner (signer : Address) : Contract Unit := do
  let admin ← getAdmin
  requireAuth admin
  let signers ← getSigners
  let signerIndex ← getSignerIndex
  rejectIf ((signerIndex signer).isSome = true) (.error .duplicateSigner)
  rejectIf (maxSigners ≤ signers.length) (.error .tooManySigners)
  saveSigners (signers ++ [signer]) (Function.update signerIndex signer (some true))
  publish (.sgnrAdd signer)
  let threshold ← getThreshold
  publish (.quorCfg threshold (signers.length + 1))

def removeSigner (signer : Address) : Contract Unit := do
  let admin ← getAdmin
  requireAuth admin
  let signerIndex ← getSignerIndex
  if (signerIndex signer).isSome = false then return ()
  else do
    let signers ← getSigners
    let threshold ← getThreshold
    -- The plain subtraction traps on an empty list.
    rejectIf (signers.length = 0) .trap
    rejectIf (signers.length - 1 < threshold) (.error .quorumWouldBreak)
    saveSigners (signers.erase signer) (Function.update signerIndex signer none)
    publish (.sgnrRm signer)
    publish (.quorCfg threshold (signers.erase signer).length)

/-! ## Proposals -/

def propose (proposer target : Address) (calldata : Bytes) : Contract ℕ := do
  requireAuth proposer
  let registered ← isRegisteredSigner proposer
  rejectIf (registered = false) (.error .notASigner)
  rejectIf (calldata.length = 0) (.error .calldataEmpty)
  rejectIf (maxCalldataBytes < calldata.length) (.error .calldataTooLarge)
  let id ← incrementProposalId
  let now ← ask Env.timestamp
  saveProposal id
    { proposer, target, calldata, approvals := [], createdAt := now, executed := false,
      cancelled := false }
  publish (.proposed id proposer target)
  return id

/-- The guards that `approve` and `execute` share. -/
def requireOpen (proposal : Proposal) : Contract Unit := do
  rejectIf (proposal.cancelled = true) (.error .proposalCancelled)
  rejectIf (proposal.executed = true) (.error .alreadyExecuted)
  let now ← ask Env.timestamp
  let expiry ← checkedDeadline proposal.createdAt maxProposalAgeSeconds
  rejectIf (expiry < now) (.error .proposalExpired)

/-- The timelock starts with the approval that makes the count equal to the threshold. -/
def quorumReached (approvalCount threshold : ℕ) : Contract (Option (ℕ × ℕ)) :=
  if approvalCount = threshold then do
    let now ← ask Env.timestamp
    let executableAfter ← checkedDeadline now governanceTimelockSeconds
    return some (now, executableAfter)
  else return none

def approve (approver : Address) (proposalId : ℕ) : Contract Unit := do
  requireAuth approver
  let registered ← isRegisteredSigner approver
  rejectIf (registered = false) (.error .notASigner)
  let proposal ← loadProposal proposalId
  requireOpen proposal
  let approvalIdx ← peek fun s => s.proposalApprovalIdx proposalId
  rejectIf ((approvalIdx approver).isSome = true) (.error .alreadyApproved)
  let approvals := proposal.approvals ++ [approver]
  let threshold ← getThreshold
  let reached ← quorumReached approvals.length threshold
  saveProposal proposalId { proposal with approvals }
  saveApprovalIndex proposalId (Function.update approvalIdx approver (some true))
  publish (.approved proposalId approver approvals.length)
  match reached with
  | none => pure ()
  | some (now, executableAfter) => do
      saveQuorumInfo proposalId { reachedAt := now, threshold }
      publish (.quorum proposalId now executableAfter)

def QuorumInfo.executableAfter (info : QuorumInfo) : Contract ℕ :=
  checkedDeadline info.reachedAt governanceTimelockSeconds

def invokeContract (dispatch : Dispatch) : Contract Unit := do
  let s ← peek id
  let refused ← ask fun env => env.rejects s dispatch
  rejectIf (refused = true) .trap
  update fun s => { s with dispatches := s.dispatches ++ [dispatch] }

/-- Decode the call and make it. -/
def dispatchCall (proposalId : ℕ) (target : Address) (calldata : Bytes) : Contract Unit := do
  let decoded ← ask fun env => env.fromXdr calldata
  match decoded with
  | .malformed => reject .trap
  | .mismatched => reject (.error .invalidCalldata)
  | .value op =>
      match op.function with
      | none => pure ()
      | some function => invokeContract { proposalId, target, function, op }

def execute (executor : Address) (proposalId : ℕ) : Contract Unit := do
  requireAuth executor
  let proposal ← loadProposal proposalId
  requireOpen proposal
  let info ← peek fun s => s.quorumReachedAt proposalId
  let info ← getOrReject info (.error .quorumNotReached)
  rejectIf (proposal.approvals.length < info.threshold) (.error .quorumNotReached)
  let now ← ask Env.timestamp
  let execAfter ← info.executableAfter
  rejectIf (now < execAfter) (.error .timelockNotElapsed)
  saveProposal proposalId { proposal with executed := true }
  dispatchCall proposalId proposal.target proposal.calldata
  publish (.executed proposalId executor proposal.target proposal.calldata)

def cancelProposal (caller : Address) (proposalId : ℕ) : Contract Unit := do
  requireAuth caller
  let proposal ← loadProposal proposalId
  rejectIf (proposal.executed = true) (.error .alreadyExecuted)
  rejectIf (proposal.cancelled = true) (.error .proposalCancelled)
  let admin ← getAdmin
  rejectIf (caller ≠ proposal.proposer ∧ caller ≠ admin) (.error .notProposerOrAdmin)
  saveProposal proposalId { proposal with cancelled := true }
  publish (.cancelled proposalId caller)

/-! ## Queries -/

/-- The checks of `execute` as a question. The calldata is not looked at. -/
def isExecutable (proposalId : ℕ) : Contract Bool := do
  let proposal ← loadProposal proposalId
  if proposal.cancelled = true then return false
  else if proposal.executed = true then return false
  else do
    let now ← ask Env.timestamp
    let expiry ← checkedDeadline proposal.createdAt maxProposalAgeSeconds
    if expiry < now then return false
    else do
      let info ← peek fun s => s.quorumReachedAt proposalId
      match info with
      | none => return false
      | some info =>
          if proposal.approvals.length < info.threshold then return false
          else do
            let execAfter ← info.executableAfter
            if now < execAfter then return false else return true

def maxPageSize : ℕ := 100

/-- The loop over `current`, with `remaining` ids left before the end of the page. -/
def collectProposals : ℕ → ℕ → List Proposal → Contract (List Proposal)
  | 0, _, result => pure result
  | remaining + 1, current, result => do
      let proposal ← peek fun s => s.proposals current
      rejectIf (u32.upper < (current + 1 : ℕ)) .trap
      collectProposals remaining (current + 1) (result ++ proposal.toList)

def getProposalsByIdRange (startId limit : ℕ) : Contract (List Proposal) := do
  let pageSize := min limit maxPageSize
  if pageSize = 0 then return []
  else do
    let total ← peek State.nextProposalId
    if total ≤ startId then return []
    else do
      -- The sum saturates.
      let endExclusive := min (min (startId + pageSize) (2 ^ 32 - 1)) total
      collectProposals (endExclusive - startId) startId []

/-! ## Runs -/

inductive Call where
  | init (admin : Address) (signers : List Address) (threshold : ℕ)
  | setAdmin (newAdmin : Address)
  | addSigner (signer : Address)
  | removeSigner (signer : Address)
  | propose (proposer target : Address) (calldata : Bytes)
  | approve (approver : Address) (proposalId : ℕ)
  | execute (executor : Address) (proposalId : ℕ)
  | cancelProposal (caller : Address) (proposalId : ℕ)
  deriving DecidableEq, Repr

def Call.run : Call → Contract Unit
  | init admin signers threshold => Governance.init admin signers threshold
  | setAdmin newAdmin => Governance.setAdmin newAdmin
  | addSigner signer => Governance.addSigner signer
  | removeSigner signer => Governance.removeSigner signer
  | propose proposer target calldata => do
      let _ ← Governance.propose proposer target calldata
      return ()
  | approve approver proposalId => Governance.approve approver proposalId
  | execute executor proposalId => Governance.execute executor proposalId
  | cancelProposal caller proposalId => Governance.cancelProposal caller proposalId

end Wallie.Governance
