import Wallie.Governance.History

/-!
# What a quorum counts

A quorum counts the approvals that are recorded, and an approval stays when its
signer is removed. So the approvals of a quorum are those of distinct addresses
that were signers when they approved, and not all of them need to be signers
still.
-/

namespace Wallie.Governance

open StreamContract (Address)

variable {now id : ℕ} {s s' : State} {env : Env} {call : Call} {info : QuorumInfo}
  {past : List (State × Invocation)}

/-- The addresses that have approved a proposal and are registered now. -/
def Proposal.currentApprovals (proposal : Proposal) (index : AddressMap) : List Address :=
  proposal.approvals.filter fun approver => (index approver).isSome

/-- A quorum is complete when it is recorded. -/
theorem Effect.quorum_complete (effect : Effect env s call s')
    (unrecorded : s.quorumReachedAt id = none) (recorded : s'.quorumReachedAt id = some info) :
    ∃ proposal index, s'.proposals id = some proposal ∧ s'.signerIndex = some index ∧
      s'.threshold = some info.threshold ∧ proposal.approvals.length = info.threshold := by
  cases effect with
  | init _ _ _ _ _ | setAdmin _ | addSigner _ _ _ _ | removeNobody | removeSigner _ _ _ _ _
  | propose _ | approve _ _ _ _ _ _ _ | execute _ _ _ _ _ _ | cancelProposal _ _ _ =>
      have same := unrecorded.symm.trans recorded
      cases same
  | @approveLast approver key _ proposal _ registered stored _ _ agreed complete =>
      rcases eq_or_ne id key with rfl | other
      · have written := (Function.update_self id _ s.quorumReachedAt).symm.trans recorded
        cases written
        rcases registered with ⟨index, known, _⟩
        refine ⟨proposal.approvedBy approver, index, Function.update_self _ _ _, known, agreed, ?_⟩
        rw [Proposal.length_approvedBy]
        exact complete
      · have kept := (Function.update_of_ne other _ s.quorumReachedAt).symm.trans recorded
        have same := unrecorded.symm.trans kept
        cases same

/-- When the quorum of a proposal is recorded, as many distinct addresses as the threshold have
approved it, each registered when it approved. As many of the registered addresses have approved it
if and only if all of these are registered still. -/
theorem quorum_counts_recorded (recorded : Recorded past now s) (invocation : Invocation)
    (order : now ≤ invocation.env.timestamp) (unreached : s.quorumReachedAt id = none)
    (reached : (invocation.next s).quorumReachedAt id = some info) :
    ∃ proposal index, (invocation.next s).proposals id = some proposal ∧
      (invocation.next s).signerIndex = some index ∧
      (invocation.next s).threshold = some info.threshold ∧
      (proposal.approvals.length = info.threshold ∧ proposal.approvals.Nodup ∧
        ∀ approver ∈ proposal.approvals, ∃ entry ∈ (s, invocation) :: past,
          Approves approver id entry ∧ entry.1.Registered approver) ∧
      (info.threshold ≤ (proposal.currentApprovals index).length ↔
        ∀ approver ∈ proposal.approvals, (index approver).isSome = true) := by
  have moved : system.step s invocation (invocation.next s) := rfl
  have later : Recorded ((s, invocation) :: past) invocation.env.timestamp (invocation.next s) :=
    .move recorded order trivial moved
  rcases Fallible.commit_cases invocation.call.run invocation.env s with ⟨_, run⟩ | failed
  · have effect : Effect invocation.env s invocation.call (invocation.next s) :=
      invocation.call.effect run
    rcases effect.quorum_complete unreached reached with
      ⟨proposal, index, stored, known, agreed, complete⟩
    have reachable : Reachable _ (invocation.next s) := later.reachable
    have ballot := reachable.ballots agreed id
    rw [stored] at ballot
    refine ⟨proposal, index, stored, known, agreed, ⟨complete, ballot.indexed.nodup, ?_⟩, ?_⟩
    · intro approver member
      rcases later.accounts.approvals id proposal stored approver member with
        ⟨entry, found, approves, registered, _⟩
      exact ⟨entry, found, approves, registered⟩
    · have shorter : (proposal.currentApprovals index).length ≤ proposal.approvals.length :=
        List.length_filter_le _ _
      rw [← complete, ← List.length_filter_eq_length_iff]
      exact ⟨fun enough => le_antisymm shorter enough, fun same => same.ge⟩
  · change invocation.next s = s at failed
    rw [failed, unreached] at reached
    cases reached

/-- The first signer approves and is removed. -/
def Sample.removed : List Invocation :=
  Sample.proposed ++
    [Sample.invocation 1 1 (.approve (.account 1) 0) (Eq.refl true),
      Sample.invocation 0 1 (.removeSigner (.account 1)) (Eq.refl true)]

theorem Sample.recorded_removed : Recorded
    (ClockedSystem.playedPast Invocation.next Sample.removed .deployed) 1
    (ClockedSystem.play Invocation.next Sample.removed .deployed) :=
  Sample.recorded ⟨by decide, by decide, by decide, by decide, trivial⟩

/-- The approval of the second signer completes the quorum. -/
def Sample.lastApproval : Invocation :=
  Sample.invocation 2 2 (.approve (.account 2) 0) (Eq.refl true)

theorem quorum_counts_recorded_removed :
    let s := ClockedSystem.play Invocation.next Sample.removed .deployed
    ∃ proposal index, (Sample.lastApproval.next s).proposals 0 = some proposal ∧
      (Sample.lastApproval.next s).signerIndex = some index ∧
      (2 ≤ (proposal.currentApprovals index).length ↔
        ∀ approver ∈ proposal.approvals, (index approver).isSome = true) := by
  intro s
  have reached : (Sample.lastApproval.next s).quorumReachedAt 0 = some ⟨2, 2⟩ := by decide
  rcases quorum_counts_recorded Sample.recorded_removed Sample.lastApproval (by decide) (by decide)
    reached with ⟨proposal, index, stored, known, _, _, counts⟩
  exact ⟨proposal, index, stored, known, counts⟩

/-- The approval of a signer that was removed counts. -/
theorem not_always_quorum_counts_current :
    ¬ ∀ past now s (invocation : Invocation) id info proposal index,
      Recorded past now s → now ≤ invocation.env.timestamp → s.quorumReachedAt id = none →
      (invocation.next s).quorumReachedAt id = some info →
      (invocation.next s).proposals id = some proposal →
      (invocation.next s).signerIndex = some index →
      info.threshold ≤ (proposal.currentApprovals index).length := by
  intro always
  let s := ClockedSystem.play Invocation.next Sample.removed .deployed
  let s' := Sample.lastApproval.next s
  have stored : s'.proposals 0 = some ((s'.proposals 0).get (by decide)) :=
    (Option.some_get _).symm
  have known : s'.signerIndex = some (s'.signerIndex.get (by decide)) := (Option.some_get _).symm
  have enough := always _ 1 s Sample.lastApproval 0 ⟨2, 2⟩ _ _ Sample.recorded_removed (by decide)
    (by decide) (by decide) stored known
  exact absurd enough (by decide)

end Wallie.Governance
