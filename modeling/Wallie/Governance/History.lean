import Wallie.Governance.Ballots

/-!
# The history of a proposal

What a run has done to a proposal can be read off its record: every approval was
given by a registered signer, a cancellation and an execution leave their flags,
and no proposal has both. So a proposal that is executed was never cancelled,
and is executed once.
-/

namespace Wallie.Governance

open Fallible
open StreamContract (Address Bytes)

variable {env : Env} {s s' : State} {call : Call} {signers : List Address} {index : AddressMap}
  {threshold now id : ℕ} {proposal proposal' : Proposal} {info : QuorumInfo} {approver : Address}
  {past : List (State × Invocation)} {entry : State × Invocation}

/-! ## Steps -/

/-- What a call does to one proposal. -/
inductive ProposalStep (env : Env) (s : State) (id : ℕ) :
    Call → Option Proposal → Option Proposal → Prop where
  | same {call : Call} {stored : Option Proposal} : ProposalStep env s id call stored stored
  | opened {proposer target : Address} {calldata : Bytes} :
      ProposalStep env s id (.propose proposer target calldata) none
        (some { proposer, target, calldata, approvals := [], createdAt := env.timestamp,
                executed := false, cancelled := false })
  | approved {approver : Address} {proposal : Proposal} (authorised : env.auth approver = true)
      (registered : s.Registered approver) :
      ProposalStep env s id (.approve approver id) (some proposal)
        (some (proposal.approvedBy approver))
  | executed {executor : Address} {proposal : Proposal}
      (unfinished : proposal.Open env.timestamp) :
      ProposalStep env s id (.execute executor id) (some proposal)
        (some { proposal with executed := true })
  | cancelled {caller : Address} {proposal : Proposal} (unexecuted : proposal.executed = false) :
      ProposalStep env s id (.cancelProposal caller id) (some proposal)
        (some { proposal with cancelled := true })

/-- A step of one proposal is the identity on the others. -/
theorem proposalStep_update {proposals : ℕ → Option Proposal} (key : ℕ)
    (step : ProposalStep env s id call (proposals id) (some proposal)) :
    ProposalStep env s key call (proposals key)
      (Function.update proposals id (some proposal) key) := by
  rcases eq_or_ne key id with rfl | other
  · rw [Function.update_self]
    exact step
  · rw [Function.update_of_ne other]
    exact .same

theorem Effect.proposalStep (effect : Effect env s call s')
    (dense : ∀ id, (s.proposals id).isSome = true ↔ id < s.nextProposalId) (id : ℕ) :
    ProposalStep env s id call (s.proposals id) (s'.proposals id) := by
  cases effect with
  | init _ _ _ _ _ | setAdmin _ | addSigner _ _ _ _ | removeNobody | removeSigner _ _ _ _ _ =>
      exact .same
  | propose _ =>
      apply proposalStep_update
      have fresh : s.proposals s.nextProposalId = none := by
        rw [← Option.not_isSome_iff_eq_none, dense]
        exact lt_irrefl _
      rw [fresh]
      exact .opened
  | approve authorised registered stored _ _ _ _ =>
      apply proposalStep_update
      rw [stored]
      exact .approved authorised registered
  | approveLast authorised registered stored _ _ _ _ =>
      apply proposalStep_update
      rw [stored]
      exact .approved authorised registered
  | execute stored unfinished _ _ _ _ =>
      apply proposalStep_update
      rw [stored]
      exact .executed unfinished
  | cancelProposal stored unexecuted _ =>
      apply proposalStep_update
      rw [stored]
      exact .cancelled unexecuted

/-- A recorded quorum stays as it is. -/
theorem Effect.quorum_kept (effect : Effect env s call s') (reachable : Reachable now s)
    (reached : s.quorumReachedAt id = some info) : s'.quorumReachedAt id = some info := by
  cases effect with
  | init _ _ _ _ _ | setAdmin _ | addSigner _ _ _ _ | removeNobody | removeSigner _ _ _ _ _
  | propose _ | approve _ _ _ _ _ _ _ | execute _ _ _ _ _ _ | cancelProposal _ _ _ =>
      exact reached
  | @approveLast _ key _ _ _ _ stored _ _ agreed complete =>
      have ballot := reachable.ballots agreed key
      rw [stored] at ballot
      have unrecorded := ballot.unrecorded complete
      rcases eq_or_ne id key with rfl | other
      · rw [unrecorded] at reached
        cases reached
      · exact (Function.update_of_ne other _ _).trans reached

/-- The proposal that an event records the quorum of. -/
def Event.quorumOf : Event → Option ℕ
  | .quorum proposalId _ _ => some proposalId
  | _ => none

/-- The proposals whose quorum was recorded, in order. -/
def State.quorums (s : State) : List ℕ :=
  s.events.filterMap Event.quorumOf

/-- A call records the quorum of a proposal that has none, or of no proposal. -/
theorem Effect.quorums (effect : Effect env s call s') (reachable : Reachable now s) :
    s'.quorums = s.quorums ∨ ∃ id, s'.quorums = s.quorums ++ [id] ∧
      s.quorumReachedAt id = none ∧ (s'.quorumReachedAt id).isSome = true := by
  cases effect with
  | init _ _ _ _ _ | removeNobody => exact Or.inl rfl
  | setAdmin _ | addSigner _ _ _ _ | removeSigner _ _ _ _ _ | propose _
  | approve _ _ _ _ _ _ _ | execute _ _ _ _ _ _ | cancelProposal _ _ _ =>
      left
      simp [State.quorums, State.withApproval, Event.quorumOf]
  | @approveLast _ id _ _ _ _ stored _ _ agreed complete =>
      right
      have ballot := reachable.ballots agreed id
      rw [stored] at ballot
      refine ⟨id, ?_, ballot.unrecorded complete, ?_⟩
      · simp only [State.quorums, State.withApproval, State.withQuorum, List.filterMap_append]
        exact congrArg (· ++ [id]) (List.append_nil _)
      · simp [State.withQuorum]

/-- A call is dispatched for a proposal that was not executed, and is now. -/
theorem Effect.dispatches (effect : Effect env s call s') :
    s'.dispatches = s.dispatches ∨ ∃ id proposal, ∃ op : CallData,
      s.proposals id = some proposal ∧ proposal.executed = false ∧
      s'.proposals id = some { proposal with executed := true } ∧
      s'.dispatches = s.dispatches ++ op.dispatches id proposal.target := by
  cases effect with
  | init _ _ _ _ _ | setAdmin _ | addSigner _ _ _ _ | removeNobody | removeSigner _ _ _ _ _
  | propose _ | approve _ _ _ _ _ _ _ | approveLast _ _ _ _ _ _ _ | cancelProposal _ _ _ =>
      exact Or.inl rfl
  | execute stored unfinished _ _ _ _ =>
      exact Or.inr ⟨_, _, _, stored, unfinished.unexecuted, Function.update_self _ _ _, rfl⟩

/-- The flags of a stored proposal stay set. -/
theorem ProposalStep.flags_kept {after : Option Proposal}
    (step : ProposalStep env s id call (some proposal) after) :
    ∃ proposal', after = some proposal' ∧ (proposal.executed = true → proposal'.executed = true) ∧
      (proposal.cancelled = true → proposal'.cancelled = true) := by
  cases step with
  | same => exact ⟨_, rfl, fun flag => flag, fun flag => flag⟩
  | approved _ _ => exact ⟨_, rfl, fun flag => flag, fun flag => flag⟩
  | executed _ => exact ⟨_, rfl, fun _ => rfl, fun flag => flag⟩
  | cancelled _ => exact ⟨_, rfl, fun flag => flag, fun _ => rfl⟩

theorem Effect.flags_kept (effect : Effect env s call s') (reachable : Reachable now s)
    (stored : s.proposals id = some proposal) :
    ∃ proposal', s'.proposals id = some proposal' ∧
      (proposal.executed = true → proposal'.executed = true) ∧
      (proposal.cancelled = true → proposal'.cancelled = true) := by
  have step := effect.proposalStep reachable.dense id
  rw [stored] at step
  exact step.flags_kept

/-! ## Runs -/

/-- The entry is a successful approval of the proposal. -/
def Approves (approver : Address) (id : ℕ) (entry : State × Invocation) : Prop :=
  entry.2.call = .approve approver id ∧ entry.2.call.Succeeds entry.2.env entry.1

/-- The entry is a successful cancellation of the proposal. -/
def Cancels (id : ℕ) (entry : State × Invocation) : Prop :=
  ∃ caller, entry.2.call = .cancelProposal caller id ∧ entry.2.call.Succeeds entry.2.env entry.1

/-- The entry is a successful execution of the proposal. -/
def Executes (id : ℕ) (entry : State × Invocation) : Prop :=
  ∃ executor, entry.2.call = .execute executor id ∧ entry.2.call.Succeeds entry.2.env entry.1

/-- The records account for the past. -/
structure State.Accounts (s : State) (past : List (State × Invocation)) : Prop where
  approvals : ∀ id proposal, s.proposals id = some proposal → ∀ approver ∈ proposal.approvals,
    ∃ entry ∈ past, Approves approver id entry ∧ entry.1.Registered approver ∧
      entry.2.env.auth approver = true
  cancelled : ∀ id, ∀ entry ∈ past, Cancels id entry →
    ∃ proposal, s.proposals id = some proposal ∧ proposal.cancelled = true
  executed : ∀ id, ∀ entry ∈ past, Executes id entry →
    ∃ proposal, s.proposals id = some proposal ∧ proposal.executed = true
  exclusive : ∀ id proposal, s.proposals id = some proposal →
    proposal.executed = true → proposal.cancelled = false
  quorums : ∀ entry ∈ past, ∀ id info, entry.1.quorumReachedAt id = some info →
    s.quorumReachedAt id = some info
  announced : ∀ id ∈ s.quorums, (s.quorumReachedAt id).isSome = true
  once : s.quorums.Nodup
  dispatched : ∀ dispatch ∈ s.dispatches, ∃ proposal,
    s.proposals dispatch.proposalId = some proposal ∧ proposal.executed = true
  distinct : (s.dispatches.map Dispatch.proposalId).Nodup

namespace State.Accounts

theorem deployed : State.deployed.Accounts [] where
  approvals := by
    intro id proposal stored
    cases stored
  cancelled := fun _ _ member => absurd member List.not_mem_nil
  executed := fun _ _ member => absurd member List.not_mem_nil
  exclusive := by
    intro id proposal stored
    cases stored
  quorums := fun _ member => absurd member List.not_mem_nil
  announced := fun _ member => absurd member List.not_mem_nil
  once := List.nodup_nil
  dispatched := fun _ member => absurd member List.not_mem_nil
  distinct := List.nodup_nil

/-- A call that fails leaves no trace. -/
theorem failed {invocation : Invocation} (accounts : s.Accounts past)
    (fails : ¬ invocation.call.Succeeds invocation.env s) :
    s.Accounts ((s, invocation) :: past) where
  approvals := by
    intro id proposal stored approver member
    rcases accounts.approvals id proposal stored approver member with ⟨entry, member, approves⟩
    exact ⟨entry, List.mem_cons_of_mem _ member, approves⟩
  cancelled := by
    rintro id entry member ⟨caller, called, succeeds⟩
    rcases List.mem_cons.mp member with rfl | member
    · exact absurd succeeds fails
    · exact accounts.cancelled id entry member ⟨caller, called, succeeds⟩
  executed := by
    rintro id entry member ⟨executor, called, succeeds⟩
    rcases List.mem_cons.mp member with rfl | member
    · exact absurd succeeds fails
    · exact accounts.executed id entry member ⟨executor, called, succeeds⟩
  exclusive := accounts.exclusive
  quorums := by
    intro entry member id info reached
    rcases List.mem_cons.mp member with rfl | member
    · exact reached
    · exact accounts.quorums entry member id info reached
  announced := accounts.announced
  once := accounts.once
  dispatched := accounts.dispatched
  distinct := accounts.distinct

/-- The approvals on record are those found, and that of the call if it approves. -/
theorem approvals_next {invocation : Invocation} (accounts : s.Accounts past)
    (reachable : Reachable now s) (run : Runs invocation.call.run invocation.env s () s')
    (stored' : s'.proposals id = some proposal') (member : approver ∈ proposal'.approvals) :
    ∃ entry ∈ (s, invocation) :: past, Approves approver id entry ∧
      entry.1.Registered approver ∧ entry.2.env.auth approver = true := by
  have step := (invocation.call.effect run).proposalStep reachable.dense id
  have earlier : ∀ proposal, s.proposals id = some proposal → approver ∈ proposal.approvals →
      ∃ entry ∈ (s, invocation) :: past, Approves approver id entry ∧
        entry.1.Registered approver ∧ entry.2.env.auth approver = true := by
    intro proposal stored found
    rcases accounts.approvals id proposal stored approver found with ⟨entry, member, approves⟩
    exact ⟨entry, List.mem_cons_of_mem _ member, approves⟩
  rw [stored'] at step
  generalize called : invocation.call = call at step
  generalize before : s.proposals id = stored at step
  cases step with
  | same => exact earlier _ before member
  | opened => exact absurd member List.not_mem_nil
  | approved authorised registered =>
      rcases List.mem_append.mp member with found | latest
      · exact earlier _ before found
      · rw [List.mem_singleton.mp latest]
        exact ⟨_, List.mem_cons_self, ⟨called, s', run⟩, registered, authorised⟩
  | executed _ | cancelled _ => exact earlier _ before member

theorem exclusive_next (accounts : s.Accounts past)
    (step : ProposalStep env s id call (s.proposals id) (some proposal'))
    (flag : proposal'.executed = true) : proposal'.cancelled = false := by
  generalize before : s.proposals id = stored at step
  cases step with
  | same => exact accounts.exclusive id _ before flag
  | opened => cases flag
  | @approved _ proposal _ _ => exact accounts.exclusive id proposal before flag
  | executed unfinished => exact unfinished.uncancelled
  | cancelled unexecuted => exact absurd flag (Bool.eq_false_iff.mp unexecuted)

theorem announced_next (accounts : s.Accounts past) (reachable : Reachable now s)
    (effect : Effect env s call s') :
    ∀ id ∈ s'.quorums, (s'.quorumReachedAt id).isSome = true := by
  have kept : ∀ id ∈ s.quorums, (s'.quorumReachedAt id).isSome = true := by
    intro id member
    rcases Option.isSome_iff_exists.mp (accounts.announced id member) with ⟨info, reached⟩
    rw [effect.quorum_kept reachable reached]
    rfl
  intro id member
  rcases effect.quorums reachable with same | ⟨latest, added, _, recorded⟩
  · rw [same] at member
    exact kept id member
  · rw [added] at member
    rcases List.mem_append.mp member with found | found
    · exact kept id found
    · rw [List.mem_singleton.mp found]
      exact recorded

/-- A quorum is recorded for a proposal that had none. -/
theorem once_next (accounts : s.Accounts past) (reachable : Reachable now s)
    (effect : Effect env s call s') : s'.quorums.Nodup := by
  rcases effect.quorums reachable with same | ⟨latest, added, unrecorded, _⟩
  · rw [same]
    exact accounts.once
  · rw [added]
    apply accounts.once.append (List.nodup_singleton latest)
    rw [List.disjoint_singleton]
    intro found
    have recorded := accounts.announced latest found
    rw [unrecorded] at recorded
    cases recorded

theorem dispatched_next (accounts : s.Accounts past) (reachable : Reachable now s)
    (effect : Effect env s call s') :
    ∀ dispatch ∈ s'.dispatches, ∃ proposal,
      s'.proposals dispatch.proposalId = some proposal ∧ proposal.executed = true := by
  have kept : ∀ dispatch ∈ s.dispatches, ∃ proposal,
      s'.proposals dispatch.proposalId = some proposal ∧ proposal.executed = true := by
    intro dispatch member
    rcases accounts.dispatched dispatch member with ⟨proposal, stored, flag⟩
    rcases effect.flags_kept reachable stored with ⟨proposal', stored', kept, _⟩
    exact ⟨proposal', stored', kept flag⟩
  intro dispatch member
  rcases effect.dispatches with same | ⟨id, proposal, op, _, _, stored', added⟩
  · rw [same] at member
    exact kept dispatch member
  · rw [added] at member
    rcases List.mem_append.mp member with found | found
    · exact kept dispatch found
    · rcases List.mem_map.mp found with ⟨function, _, rfl⟩
      exact ⟨_, stored', rfl⟩

/-- A call is dispatched for a proposal that has none yet. -/
theorem distinct_next (accounts : s.Accounts past) (effect : Effect env s call s') :
    (s'.dispatches.map Dispatch.proposalId).Nodup := by
  rcases effect.dispatches with same | ⟨id, proposal, op, stored, unexecuted, _, added⟩
  · rw [same]
    exact accounts.distinct
  · have unused : id ∉ s.dispatches.map Dispatch.proposalId := by
      intro found
      rcases List.mem_map.mp found with ⟨dispatch, member, rfl⟩
      rcases accounts.dispatched dispatch member with ⟨earlier, stored', flag⟩
      cases stored.symm.trans stored'
      exact absurd flag (Bool.eq_false_iff.mp unexecuted)
    rw [added, List.map_append, CallData.dispatches]
    cases op.function with
    | none =>
        rw [Option.toList_none, List.map_nil, List.map_nil, List.append_nil]
        exact accounts.distinct
    | some function =>
        apply accounts.distinct.append (List.nodup_singleton id)
        rw [List.disjoint_singleton]
        exact unused

/-- A call that succeeds is accounted for by what it does. -/
theorem succeeded {invocation : Invocation} (accounts : s.Accounts past)
    (reachable : Reachable now s)
    (run : Runs invocation.call.run invocation.env s () s') :
    s'.Accounts ((s, invocation) :: past) := by
  have effect := invocation.call.effect run
  constructor
  case approvals =>
    exact fun id proposal' stored' approver => accounts.approvals_next reachable run stored'
  case cancelled =>
    rintro id entry member cancels
    rcases List.mem_cons.mp member with rfl | member
    · rcases cancels with ⟨caller, called, _⟩
      change invocation.call = _ at called
      rw [called] at effect
      cases effect with
      | cancelProposal stored _ _ => exact ⟨_, Function.update_self _ _ _, rfl⟩
    · rcases accounts.cancelled id entry member cancels with ⟨proposal, stored, flag⟩
      rcases effect.flags_kept reachable stored with ⟨proposal', stored', _, kept⟩
      exact ⟨proposal', stored', kept flag⟩
  case executed =>
    rintro id entry member executes
    rcases List.mem_cons.mp member with rfl | member
    · rcases executes with ⟨executor, called, _⟩
      change invocation.call = _ at called
      rw [called] at effect
      cases effect with
      | execute stored _ _ _ _ _ => exact ⟨_, Function.update_self _ _ _, rfl⟩
    · rcases accounts.executed id entry member executes with ⟨proposal, stored, flag⟩
      rcases effect.flags_kept reachable stored with ⟨proposal', stored', kept, _⟩
      exact ⟨proposal', stored', kept flag⟩
  case exclusive =>
    intro id proposal' stored' flag
    have step := effect.proposalStep reachable.dense id
    rw [stored'] at step
    exact accounts.exclusive_next step flag
  case quorums =>
    intro entry member id info reached
    rcases List.mem_cons.mp member with rfl | member
    · exact effect.quorum_kept reachable reached
    · exact effect.quorum_kept reachable (accounts.quorums entry member id info reached)
  case announced => exact accounts.announced_next reachable effect
  case once => exact accounts.once_next reachable effect
  case dispatched => exact accounts.dispatched_next reachable effect
  case distinct => exact accounts.distinct_next effect

end State.Accounts

theorem Recorded.accounts (recorded : Recorded past now s) : s.Accounts past := by
  induction recorded with
  | start deployed =>
      cases deployed
      exact .deployed
  | tick _ _ ih => exact ih
  | @move past _ s s' invocation recorded _ _ moved ih =>
      cases moved
      by_cases succeeds : invocation.call.Succeeds invocation.env s
      · rcases succeeds with ⟨final, run⟩
        have same : invocation.next s = final := commit_of_runs run
        rw [same]
        exact ih.succeeded recorded.reachable run
      · have same : invocation.next s = s :=
          commit_of_fails fun _ final run => succeeds ⟨final, run⟩
        rw [same]
        exact ih.failed succeeds

end Wallie.Governance
