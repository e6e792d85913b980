import Wallie.Governance.Contract
import Wallie.Lib.IndexedList
import Wallie.Lib.TimedRun

/-!
# Runs of the governance contract

A run starts on empty storage and takes invocations one at a time, each of which
succeeds or leaves the state alone. A successful call has one of the effects
listed here, and every invariant is proved of them.
-/

namespace Wallie.Governance

open Fallible IndexedList
open StreamContract (Address Bytes u32 u64)

/-- The call returns without an error or a trap. -/
def Call.Succeeds (call : Call) (env : Env) (s : State) : Prop :=
  ∃ s', Runs call.run env s () s'

/-- The integer arguments of a call are values of their machine types. -/
def Call.WellTyped : Call → Prop
  | init _ _ threshold => u32.Contains threshold
  | approve _ proposalId | execute _ proposalId | cancelProposal _ proposalId =>
      u32.Contains proposalId
  | _ => True

instance : DecidablePred Call.WellTyped
  | .init _ _ threshold => inferInstanceAs (Decidable (u32.Contains threshold))
  | .approve _ proposalId | .execute _ proposalId | .cancelProposal _ proposalId =>
      inferInstanceAs (Decidable (u32.Contains proposalId))
  | .setAdmin _ | .addSigner _ | .removeSigner _ | .propose _ _ _ =>
      inferInstanceAs (Decidable True)

structure Invocation where
  env : Env
  call : Call
  timestamp : u64.Contains env.timestamp
  wellTyped : call.WellTyped

/-- The contract before its initialisation: storage is empty. -/
def State.deployed : State where
  admin := none
  signers := none
  signerIndex := none
  threshold := none
  nextProposalId := 0
  proposals := fun _ => none
  quorumReachedAt := fun _ => none
  proposalApprovalIdx := fun _ _ => none
  events := []
  dispatches := []

def Invocation.next (invocation : Invocation) (s : State) : State :=
  invocation.call.run.commit invocation.env s

/-- The governance contract, from its deployment on. -/
def system : ClockedSystem State Invocation ℕ :=
  .deterministic (fun _ s => s = .deployed) (fun invocation => invocation.env.timestamp)
    Invocation.next

/-- The states reached at `now`, with the invocations that led there, the latest first. -/
abbrev Recorded (past : List (State × Invocation)) (now : ℕ) (s : State) : Prop :=
  system.Recorded (fun _ _ => True) past now s

abbrev Reachable (now : ℕ) (s : State) : Prop :=
  system.Reachable (fun _ _ => True) now s

/-! ## Effects -/

section Rules

variable {env : Env} {s s' : State} {done : Unit}

theorem runs_requireAuth {address : Address} :
    Runs (requireAuth address) env s done s' ↔ env.auth address = true ∧ s' = s := by
  simp [requireAuth]

theorem runs_publish {event : Event} :
    Runs (publish event) env s done s' ↔ s' = { s with events := s.events ++ [event] } := by
  simp [publish]

theorem runs_getAdmin {admin : Address} :
    Runs getAdmin env s admin s' ↔ s.admin = some admin ∧ s' = s :=
  runs_peek_getOrReject

theorem runs_getSigners {signers : List Address} :
    Runs getSigners env s signers s' ↔ s.signers = some signers ∧ s' = s :=
  runs_peek_getOrReject

theorem runs_getSignerIndex {index : AddressMap} :
    Runs getSignerIndex env s index s' ↔ s.signerIndex = some index ∧ s' = s :=
  runs_peek_getOrReject

theorem runs_getThreshold {threshold : ℕ} :
    Runs getThreshold env s threshold s' ↔ s.threshold = some threshold ∧ s' = s :=
  runs_peek_getOrReject

theorem runs_loadProposal {id : ℕ} {proposal : Proposal} :
    Runs (loadProposal id) env s proposal s' ↔ s.proposals id = some proposal ∧ s' = s :=
  runs_peek_getOrReject

/-- The address has a key in the index of the signers. -/
def State.Registered (s : State) (addr : Address) : Prop :=
  ∃ index, s.signerIndex = some index ∧ (index addr).isSome = true

theorem runs_isRegisteredSigner {addr : Address} {registered : Bool} :
    Runs (isRegisteredSigner addr) env s registered s' ↔
      (registered = true ↔ s.Registered addr) ∧ s.signerIndex.isSome = true ∧ s' = s := by
  simp only [isRegisteredSigner, runs_bind, runs_getSignerIndex, runs_pure, and_assoc,
    exists_and_left, exists_eq_left]
  constructor
  · rintro ⟨index, stored, rfl, rfl⟩
    refine ⟨?_, by rw [stored]; rfl, rfl⟩
    unfold State.Registered
    simp [stored]
  · rintro ⟨same, known, rfl⟩
    rcases Option.isSome_iff_exists.mp known with ⟨index, stored⟩
    refine ⟨index, stored, ?_, rfl⟩
    unfold State.Registered at same
    simp only [stored, Option.some.injEq, exists_eq_left'] at same
    exact Bool.eq_iff_iff.mpr same

theorem runs_checkedDeadline {start seconds deadline : ℕ} :
    Runs (checkedDeadline start seconds) env s deadline s' ↔
      ((start + seconds : ℕ) : ℤ) ≤ u64.upper ∧ deadline = start + seconds ∧ s' = s := by
  simp only [checkedDeadline, runs_bind, runs_rejectIf, runs_pure, and_assoc, exists_and_left,
    exists_eq_left, exists_const, not_lt]

end Rules

/-- The proposal is neither cancelled nor executed nor too old. -/
structure Proposal.Open (proposal : Proposal) (now : ℕ) : Prop where
  uncancelled : proposal.cancelled = false
  unexecuted : proposal.executed = false
  young : now ≤ proposal.createdAt + maxProposalAgeSeconds

/-- The proposal with one approval more. -/
def Proposal.approvedBy (proposal : Proposal) (approver : Address) : Proposal :=
  { proposal with approvals := proposal.approvals ++ [approver] }

@[simp]
theorem Proposal.length_approvedBy (proposal : Proposal) (approver : Address) :
    (proposal.approvedBy approver).approvals.length = proposal.approvals.length + 1 :=
  List.length_append

/-- The state once `approver` has been added to the approvals of a proposal. -/
def State.withApproval (s : State) (id : ℕ) (proposal : Proposal) (approver : Address) : State :=
  { s with
    proposals := Function.update s.proposals id (some (proposal.approvedBy approver))
    proposalApprovalIdx := Function.update s.proposalApprovalIdx id
      (Function.update (s.proposalApprovalIdx id) approver (some true))
    events := s.events ++ [.approved id approver (proposal.approvals.length + 1)] }

/-- The state once the quorum of a proposal has been recorded. -/
def State.withQuorum (s : State) (id now threshold : ℕ) : State :=
  { s with
    quorumReachedAt := Function.update s.quorumReachedAt id (some { reachedAt := now, threshold })
    events := s.events ++ [.quorum id now (now + governanceTimelockSeconds)] }

/-- The call to the target of a proposal, if there is one. -/
def CallData.dispatches (op : CallData) (proposalId : ℕ) (target : Address) : List Dispatch :=
  op.function.toList.map fun function => { proposalId, target, function, op }

/-- What a successful call does. -/
inductive Effect (env : Env) (s : State) : Call → State → Prop where
  | init {admin : Address} {signers : List Address} {threshold : ℕ} {index : AddressMap}
      (undeployed : s.admin = none) (few : signers.length ≤ maxSigners) (positive : 1 ≤ threshold)
      (enough : threshold ≤ signers.length) (indexed : Indexes index signers) :
      Effect env s (.init admin signers threshold)
        { s with
          admin := some admin, signers := some signers, signerIndex := some index
          threshold := some threshold, nextProposalId := 0 }
  | setAdmin {admin newAdmin : Address} (stored : s.admin = some admin) :
      Effect env s (.setAdmin newAdmin)
        { s with admin := some newAdmin, events := s.events ++ [.admChg admin newAdmin] }
  | addSigner {signer : Address} {signers : List Address} {index : AddressMap} {threshold : ℕ}
      (stored : s.signers = some signers) (known : s.signerIndex = some index)
      (absent : index signer = none) (few : signers.length < maxSigners) :
      Effect env s (.addSigner signer)
        { s with
          signers := some (signers ++ [signer])
          signerIndex := some (Function.update index signer (some true))
          events := s.events ++ [.sgnrAdd signer] ++ [.quorCfg threshold (signers.length + 1)] }
  | removeNobody {signer : Address} : Effect env s (.removeSigner signer) s
  | removeSigner {signer : Address} {signers : List Address} {index : AddressMap} {threshold : ℕ}
      (stored : s.signers = some signers) (known : s.signerIndex = some index)
      (agreed : s.threshold = some threshold) (enough : threshold < signers.length)
      (present : (index signer).isSome = true) :
      Effect env s (.removeSigner signer)
        { s with
          signers := some (signers.erase signer)
          signerIndex := some (Function.update index signer none)
          events := s.events ++ [.sgnrRm signer] ++
            [.quorCfg threshold (signers.erase signer).length] }
  | propose {proposer target : Address} {calldata : Bytes} (registered : s.Registered proposer) :
      Effect env s (.propose proposer target calldata)
        { s with
          nextProposalId := s.nextProposalId + 1
          proposals := Function.update s.proposals s.nextProposalId
            (some { proposer, target, calldata, approvals := [], createdAt := env.timestamp,
                    executed := false, cancelled := false })
          events := s.events ++ [.proposed s.nextProposalId proposer target] }
  | approve {approver : Address} {id threshold : ℕ} {proposal : Proposal}
      (authorised : env.auth approver = true) (registered : s.Registered approver)
      (stored : s.proposals id = some proposal) (unfinished : proposal.Open env.timestamp)
      (first : s.proposalApprovalIdx id approver = none) (agreed : s.threshold = some threshold)
      (other : proposal.approvals.length + 1 ≠ threshold) :
      Effect env s (.approve approver id) (s.withApproval id proposal approver)
  | approveLast {approver : Address} {id threshold : ℕ} {proposal : Proposal}
      (authorised : env.auth approver = true) (registered : s.Registered approver)
      (stored : s.proposals id = some proposal) (unfinished : proposal.Open env.timestamp)
      (first : s.proposalApprovalIdx id approver = none) (agreed : s.threshold = some threshold)
      (complete : proposal.approvals.length + 1 = threshold) :
      Effect env s (.approve approver id)
        ((s.withApproval id proposal approver).withQuorum id env.timestamp threshold)
  | execute {executor : Address} {id : ℕ} {proposal : Proposal} {info : QuorumInfo}
      {op : CallData} (stored : s.proposals id = some proposal)
      (unfinished : proposal.Open env.timestamp) (reached : s.quorumReachedAt id = some info)
      (approved : info.threshold ≤ proposal.approvals.length)
      (elapsed : info.reachedAt + governanceTimelockSeconds ≤ env.timestamp)
      (decoded : env.fromXdr proposal.calldata = .value op) :
      Effect env s (.execute executor id)
        { s with
          proposals := Function.update s.proposals id (some { proposal with executed := true })
          dispatches := s.dispatches ++ op.dispatches id proposal.target
          events := s.events ++ [.executed id executor proposal.target proposal.calldata] }
  | cancelProposal {caller : Address} {id : ℕ} {proposal : Proposal}
      (stored : s.proposals id = some proposal) (unexecuted : proposal.executed = false)
      (uncancelled : proposal.cancelled = false) :
      Effect env s (.cancelProposal caller id)
        { s with
          proposals := Function.update s.proposals id (some { proposal with cancelled := true })
          events := s.events ++ [.cancelled id caller] }

section Effects

variable {env : Env} {s s' : State} {done : Unit} {call : Call}

theorem indexes_of_indexSigners {signers entries : List Address} {index index' : AddressMap}
    (indexed : Indexes index entries) (run : Runs (indexSigners signers index) env s index' s') :
    Indexes index' (entries ++ signers) ∧ s' = s := by
  induction signers generalizing index entries with
  | nil =>
      rcases runs_pure.mp run with ⟨rfl, same⟩
      rw [List.append_nil]
      exact ⟨indexed, same⟩
  | cons signer rest ih =>
      simp only [indexSigners, runs_bind, runs_rejectIf, and_assoc, exists_and_left,
        exists_eq_left, exists_const] at run
      rcases run with ⟨absent, run⟩
      have absent : index signer = none := Option.not_isSome_iff_eq_none.mp absent
      have indexed' := ih (indexed.push absent) run
      rwa [List.append_assoc, List.singleton_append] at indexed'

theorem effect_of_init {admin : Address} {signers : List Address} {threshold : ℕ}
    (run : Runs (init admin signers threshold) env s done s') :
    Effect env s (.init admin signers threshold) s' := by
  simp only [init, runs_bind, runs_peek, runs_rejectIf, runs_update, and_assoc, exists_and_left,
    exists_eq_left, exists_const, not_lt, not_or] at run
  rcases run with ⟨undeployed, few, positive, enough, index, middle, indexed, rfl⟩
  rcases indexes_of_indexSigners .nil indexed with ⟨indexes, rfl⟩
  exact .init (Option.not_isSome_iff_eq_none.mp undeployed) few
    (Nat.one_le_iff_ne_zero.mpr positive) enough indexes

theorem effect_of_setAdmin {newAdmin : Address} (run : Runs (setAdmin newAdmin) env s done s') :
    Effect env s (.setAdmin newAdmin) s' := by
  simp only [setAdmin, runs_bind, runs_getAdmin, runs_requireAuth, runs_update, runs_publish,
    and_assoc, exists_and_left, exists_eq_left, exists_const] at run
  rcases run with ⟨admin, stored, _, rfl⟩
  exact .setAdmin stored

theorem effect_of_addSigner {signer : Address} (run : Runs (addSigner signer) env s done s') :
    Effect env s (.addSigner signer) s' := by
  simp only [addSigner, saveSigners, runs_bind, runs_getAdmin, runs_requireAuth, runs_getSigners,
    runs_getSignerIndex, runs_getThreshold, runs_rejectIf, runs_update, runs_publish, and_assoc,
    exists_and_left, exists_eq_left, exists_const, not_le] at run
  rcases run with ⟨_, _, _, signers, stored, index, known, absent, few, threshold, _, rfl⟩
  exact .addSigner stored known (Option.not_isSome_iff_eq_none.mp absent) few

theorem effect_of_removeSigner {signer : Address}
    (run : Runs (removeSigner signer) env s done s') :
    Effect env s (.removeSigner signer) s' := by
  simp only [removeSigner, saveSigners, runs_bind, runs_getAdmin, runs_requireAuth, runs_ite,
    runs_pure, runs_getSigners, runs_getSignerIndex, runs_getThreshold, runs_rejectIf, runs_update,
    runs_publish, and_assoc, exists_and_left, exists_eq_left, exists_const, not_lt,
    Bool.not_eq_false] at run
  rcases run with ⟨_, _, _, index, known, ⟨_, _, rfl⟩ | ⟨present, run⟩⟩
  · exact .removeNobody
  · rcases run with ⟨signers, stored, threshold, agreed, inhabited, enough, rfl⟩
    exact .removeSigner stored known agreed (by omega) present

theorem effect_of_propose {proposer target : Address} {calldata : Bytes} {id : ℕ}
    (run : Runs (propose proposer target calldata) env s id s') :
    Effect env s (.propose proposer target calldata) s' := by
  simp only [propose, incrementProposalId, saveProposal, runs_bind, runs_requireAuth,
    runs_isRegisteredSigner, runs_rejectIf, runs_peek, runs_update, runs_ask, runs_publish,
    runs_pure, exists_and_left, and_assoc, exists_eq_left, exists_const, Bool.not_eq_false] at run
  rcases run with ⟨_, registered, same, _, present, _, _, _, _, rfl⟩
  exact .propose (same.mp present)

/-- The guards of `approve` and `execute`. -/
theorem runs_requireOpen {proposal : Proposal} :
    Runs (requireOpen proposal) env s done s' ↔
      ((proposal.createdAt + maxProposalAgeSeconds : ℕ) : ℤ) ≤ u64.upper ∧
        proposal.Open env.timestamp ∧ s' = s := by
  simp only [requireOpen, runs_bind, runs_rejectIf, runs_ask, runs_checkedDeadline,
    exists_and_left, and_assoc, exists_eq_left, exists_const, Bool.not_eq_true, not_lt]
  constructor
  · rintro ⟨uncancelled, unexecuted, fits, young, same⟩
    exact ⟨fits, ⟨uncancelled, unexecuted, young⟩, same⟩
  · rintro ⟨fits, unfinished, same⟩
    exact ⟨unfinished.uncancelled, unfinished.unexecuted, fits, unfinished.young, same⟩

theorem effect_of_approve {approver : Address} {id : ℕ}
    (run : Runs (approve approver id) env s done s') : Effect env s (.approve approver id) s' := by
  simp only [approve, quorumReached, saveProposal, saveApprovalIndex, runs_bind, runs_requireAuth,
    runs_isRegisteredSigner, runs_rejectIf, runs_peek, runs_update, runs_ask, runs_publish,
    runs_loadProposal, runs_requireOpen, runs_getThreshold, runs_ite, runs_checkedDeadline,
    runs_pure, exists_and_left, and_assoc, exists_eq_left, exists_const, Bool.not_eq_false,
    List.length_append, List.length_singleton] at run
  rcases run with ⟨authorised, _, same, _, present, proposal, stored, _, unfinished, first,
    threshold, agreed, _, _, ⟨complete, _, rfl, rfl⟩ | ⟨other, rfl, rfl⟩, run⟩
  · simp only [saveQuorumInfo, runs_bind, runs_update, runs_publish, exists_eq_left,
      exists_const] at run
    rw [run]
    exact .approveLast authorised (same.mp present) stored unfinished
      (Option.not_isSome_iff_eq_none.mp first) agreed complete
  · rw [(runs_pure.mp run).2]
    exact .approve authorised (same.mp present) stored unfinished
      (Option.not_isSome_iff_eq_none.mp first) agreed other

theorem dispatches_of_dispatchCall {id : ℕ} {target : Address} {calldata : Bytes}
    (run : Runs (dispatchCall id target calldata) env s done s') :
    ∃ op, env.fromXdr calldata = .value op ∧
      s' = { s with dispatches := s.dispatches ++ op.dispatches id target } := by
  simp only [dispatchCall, runs_bind, runs_ask, and_assoc, exists_and_left, exists_eq_left] at run
  cases decoded : env.fromXdr calldata with
  | malformed | mismatched =>
      rw [decoded] at run
      exact absurd run not_runs_reject
  | value op =>
      rw [decoded] at run
      refine ⟨op, rfl, ?_⟩
      unfold CallData.dispatches
      cases called : op.function with
      | none =>
          simp only [called, runs_pure] at run
          rw [run.2, Option.toList_none, List.map_nil, List.append_nil]
      | some function =>
          simp only [called, invokeContract, runs_bind, runs_peek, runs_ask, runs_rejectIf,
            runs_update, and_assoc, exists_and_left, exists_eq_left, exists_const] at run
          rw [run.2]
          rfl

theorem effect_of_execute {executor : Address} {id : ℕ}
    (run : Runs (execute executor id) env s done s') : Effect env s (.execute executor id) s' := by
  simp only [execute, QuorumInfo.executableAfter, saveProposal, runs_bind, runs_requireAuth,
    runs_rejectIf, runs_peek, runs_getOrReject, runs_update, runs_ask, runs_publish,
    runs_loadProposal, runs_requireOpen, runs_checkedDeadline, exists_and_left, and_assoc,
    exists_eq_left, exists_const, not_lt] at run
  rcases run with ⟨_, proposal, stored, _, unfinished, info, reached, approved, _, elapsed, _,
    middle, dispatched, rfl⟩
  rcases dispatches_of_dispatchCall dispatched with ⟨op, decoded, rfl⟩
  exact .execute stored unfinished reached approved elapsed decoded

theorem effect_of_cancelProposal {caller : Address} {id : ℕ}
    (run : Runs (cancelProposal caller id) env s done s') :
    Effect env s (.cancelProposal caller id) s' := by
  simp only [cancelProposal, saveProposal, runs_bind, runs_requireAuth, runs_getAdmin,
    runs_rejectIf, runs_update, runs_publish, runs_loadProposal, exists_and_left, and_assoc,
    exists_eq_left, exists_const, Bool.not_eq_true] at run
  rcases run with ⟨_, proposal, stored, unexecuted, uncancelled, _, _, _, rfl⟩
  exact .cancelProposal stored unexecuted uncancelled

/-- A successful call has the effect listed for it. -/
theorem Call.effect (run : Runs call.run env s done s') : Effect env s call s' := by
  cases call with
  | init admin signers threshold => exact effect_of_init run
  | setAdmin newAdmin => exact effect_of_setAdmin run
  | addSigner signer => exact effect_of_addSigner run
  | removeSigner signer => exact effect_of_removeSigner run
  | propose proposer target calldata =>
      simp only [Call.run, runs_bind, runs_pure] at run
      rcases run with ⟨_, _, run, _, rfl⟩
      exact effect_of_propose run
  | approve approver proposalId => exact effect_of_approve run
  | execute executor proposalId => exact effect_of_execute run
  | cancelProposal caller proposalId => exact effect_of_cancelProposal run

end Effects

/-! ## A council to run calls on -/

namespace Sample

def admin : Address := .account 0

def target : Address := .contract 1

/-- The XDR of `FactorySetCap(1000)`: a vector of the name of the variant and an `i128`. -/
def setCap : Bytes :=
  [0, 0, 0, 16, 0, 0, 0, 1, 0, 0, 0, 2,
    0, 0, 0, 15, 0, 0, 0, 13, 70, 97, 99, 116, 111, 114, 121, 83, 101, 116, 67, 97, 112, 0, 0, 0,
    0, 0, 0, 10, 0, 0, 0, 0, 0, 0, 0, 0, 0, 0, 0, 0, 0, 0, 3, 232]

/-- The XDR of the `u32` 42. -/
def fortyTwo : Bytes :=
  [0, 0, 0, 3, 0, 0, 0, 42]

/-- What the host makes of these two, and of bytes that are no XDR. -/
def fromXdr (bytes : Bytes) : Decoded :=
  if bytes = setCap then .value (.factorySetCap 1000)
  else if bytes = fortyTwo then .mismatched
  else .malformed

/-- An invocation that the account `key` authorises. No target objects. -/
def env (key timestamp : ℕ) : Env where
  timestamp
  auth := fun address => decide (address = .account key)
  fromXdr
  rejects := fun _ _ => false

def invocation (key timestamp : ℕ) (call : Call)
    (valid : decide (u64.Contains timestamp ∧ call.WellTyped) = true) : Invocation where
  env := env key timestamp
  call
  timestamp := (of_decide_eq_true valid).1
  wellTyped := (of_decide_eq_true valid).2

/-- Three signers, two of whom have to approve, and a proposal of the first. -/
def proposing (calldata : Bytes) : List Invocation :=
  [invocation 0 0 (.init admin [.account 1, .account 2, .account 3] 2) (Eq.refl true),
    invocation 1 0 (.propose (.account 1) target calldata) (Eq.refl true)]

/-- The first and the second signer approve. -/
def approving : List Invocation :=
  [invocation 1 1 (.approve (.account 1) 0) (Eq.refl true),
    invocation 2 2 (.approve (.account 2) 0) (Eq.refl true)]

def proposed : List Invocation :=
  proposing setCap

def approved : List Invocation :=
  proposed ++ approving

/-- The recorded run of a list of invocations. -/
theorem recorded {inputs : List Invocation}
    (ordered : ClockedSystem.Ordered (fun invocation => invocation.env.timestamp) inputs 0) :
    Recorded (ClockedSystem.playedPast Invocation.next inputs .deployed)
      (ClockedSystem.finish (fun invocation => invocation.env.timestamp) inputs 0)
      (ClockedSystem.play Invocation.next inputs .deployed) :=
  ClockedSystem.recorded_played ordered rfl

end Sample

end Wallie.Governance
