import Wallie.Governance.History

/-!
# What backs a dispatched call

The contract notes the calls it has made to other contracts. Each of them can be
traced to a proposal that was executed: what the proposal shows now is what it
showed then, since an executed proposal changes no more.
-/

namespace Wallie.Governance

open Fallible
open StreamContract (Address)

variable {env : Env} {s s' : State} {call : Call} {now id : ℕ} {proposal : Proposal}
  {dispatch : Dispatch}

/-- The proposal behind a call to another contract has passed the checks of its execution. -/
structure Dispatch.Cleared (env : Env) (s : State) (dispatch : Dispatch) (proposal : Proposal)
    (info : QuorumInfo) : Prop where
  stored : s.proposals dispatch.proposalId = some proposal
  target : dispatch.target = proposal.target
  decoded : env.fromXdr proposal.calldata = .value dispatch.op
  unfinished : proposal.Open env.timestamp
  reached : s.quorumReachedAt dispatch.proposalId = some info
  approved : info.threshold ≤ proposal.approvals.length
  elapsed : info.reachedAt + governanceTimelockSeconds ≤ env.timestamp

/-- A call dispatches one call at most, for a proposal that it executes. -/
theorem Call.dispatched (run : Runs call.run env s () s') :
    s'.dispatches = s.dispatches ∨
      ∃ executor proposal info, ∃ dispatch : Dispatch,
        call = .execute executor dispatch.proposalId ∧ dispatch.Cleared env s proposal info ∧
        s'.proposals dispatch.proposalId = some { proposal with executed := true } ∧
        s'.quorumReachedAt = s.quorumReachedAt ∧ s'.dispatches = s.dispatches ++ [dispatch] := by
  have effect := call.effect run
  cases effect with
  | init _ _ _ _ _ | setAdmin _ | addSigner _ _ _ _ | removeNobody | removeSigner _ _ _ _ _
  | propose _ | approve _ _ _ _ _ _ _ | approveLast _ _ _ _ _ _ _ | cancelProposal _ _ _ =>
      exact Or.inl rfl
  | @execute executor id proposal info op stored unfinished reached approved elapsed decoded =>
      cases called : op.function with
      | none =>
          left
          simp [CallData.dispatches, called]
      | some function =>
          right
          refine ⟨executor, proposal, info,
            { proposalId := id, target := proposal.target, function, op }, rfl,
            ⟨stored, rfl, decoded, unfinished, reached, approved, elapsed⟩,
            Function.update_self _ _ _, rfl, ?_⟩
          simp [CallData.dispatches, called]

/-- An executed proposal stays as it is. -/
theorem Effect.executed_kept (effect : Effect env s call s') (reached : Reachable now s)
    (stored : s.proposals id = some proposal) (flag : proposal.executed = true) :
    s'.proposals id = some proposal := by
  -- The change of another proposal, or of this one while it is not executed.
  have kept : ∀ key (before after : Proposal), s.proposals key = some before →
      before.executed = false →
      Function.update s.proposals key (some after) id = some proposal := by
    intro key before after found unexecuted
    rcases eq_or_ne id key with rfl | other
    · cases stored.symm.trans found
      rw [flag] at unexecuted
      cases unexecuted
    · rw [Function.update_of_ne other]
      exact stored
  cases effect with
  | init _ _ _ _ _ | setAdmin _ | addSigner _ _ _ _ | removeNobody | removeSigner _ _ _ _ _ =>
      exact stored
  | propose _ =>
      have used := (reached.dense id).mp (by rw [stored]; rfl)
      exact (Function.update_of_ne used.ne _ _).trans stored
  | approve _ _ found unfinished _ _ _ | approveLast _ _ found unfinished _ _ _ =>
      exact kept _ _ _ found unfinished.unexecuted
  | execute found unfinished _ _ _ _ => exact kept _ _ _ found unfinished.unexecuted
  | cancelProposal found unexecuted _ => exact kept _ _ _ found unexecuted

/-- The proposal behind a call that was made: it is executed and not cancelled, on the approvals of
as many distinct addresses as its quorum asked for, at least the timelock ago. -/
structure State.Backs (s : State) (now : ℕ) (dispatch : Dispatch) (proposal : Proposal)
    (info : QuorumInfo) : Prop where
  stored : s.proposals dispatch.proposalId = some proposal
  target : dispatch.target = proposal.target
  executed : proposal.executed = true
  reached : s.quorumReachedAt dispatch.proposalId = some info
  approved : info.threshold ≤ proposal.approvals.length
  elapsed : info.reachedAt + governanceTimelockSeconds ≤ now

theorem State.Backs.later {later : ℕ} {info : QuorumInfo}
    (backs : s.Backs now dispatch proposal info) (order : now ≤ later) :
    s.Backs later dispatch proposal info :=
  { backs with elapsed := backs.elapsed.trans order }

theorem State.Backs.next {info : QuorumInfo} (backs : s.Backs now dispatch proposal info)
    (effect : Effect env s call s') (reached : Reachable now s) :
    s'.Backs now dispatch proposal info :=
  { backs with
    stored := effect.executed_kept reached backs.stored backs.executed
    reached := effect.quorum_kept reached backs.reached }

theorem Dispatch.Cleared.backs {info : QuorumInfo}
    (cleared : dispatch.Cleared env s proposal info)
    (stored : s'.proposals dispatch.proposalId = some { proposal with executed := true })
    (same : s'.quorumReachedAt = s.quorumReachedAt) :
    s'.Backs env.timestamp dispatch { proposal with executed := true } info where
  stored
  target := cleared.target
  executed := rfl
  reached := by
    rw [same]
    exact cleared.reached
  approved := cleared.approved
  elapsed := cleared.elapsed

/-- Every call that was made is backed by its proposal. -/
theorem Reachable.backs (reached : Reachable now s) :
    ∀ dispatch ∈ s.dispatches, ∃ proposal info, s.Backs now dispatch proposal info := by
  induction reached with
  | start deployed =>
      cases deployed
      exact fun _ member => absurd member List.not_mem_nil
  | tick _ order ih =>
      intro dispatch member
      rcases ih dispatch member with ⟨proposal, info, backs⟩
      exact ⟨proposal, info, backs.later order⟩
  | @move instant s s' invocation reached order _ moved ih =>
      cases moved
      change ∀ dispatch ∈ (invocation.next s).dispatches, ∃ proposal info,
        (invocation.next s).Backs invocation.env.timestamp dispatch proposal info
      rcases commit_cases invocation.call.run invocation.env s with ⟨_, run⟩ | failed
      · change Runs _ _ _ _ (invocation.next s) at run
        have effect := invocation.call.effect run
        have kept : ∀ dispatch ∈ s.dispatches, ∃ proposal info,
            (invocation.next s).Backs invocation.env.timestamp dispatch proposal info := by
          intro dispatch member
          rcases ih dispatch member with ⟨proposal, info, backs⟩
          exact ⟨proposal, info, (backs.next effect reached).later order⟩
        rcases invocation.call.dispatched run with same | ⟨_, proposal, info, latest, _, cleared,
          stored, same, added⟩
        · rw [same]
          exact kept
        · rw [added]
          intro dispatch member
          rcases List.mem_append.mp member with earlier | found
          · exact kept dispatch earlier
          · rw [List.mem_singleton.mp found]
            exact ⟨_, info, cleared.backs stored same⟩
      · change invocation.next s = s at failed
        rw [failed]
        intro dispatch member
        rcases ih dispatch member with ⟨proposal, info, backs⟩
        exact ⟨proposal, info, backs.later order⟩

/-- No address counts twice among the approvals. -/
theorem Reachable.approvals_nodup (reached : Reachable now s)
    (stored : s.proposals id = some proposal) : proposal.approvals.Nodup := by
  rcases reached.sound with rfl | ⟨signers, index, threshold, sound⟩
  · cases stored
  · have ballot := sound.ballots id
    rw [stored] at ballot
    exact ballot.indexed.nodup

end Wallie.Governance
