import Wallie.Governance.Ballots

/-!
# Membership and approval records

The governance contract keeps several records of the same facts: the signers as
a list and as an index, the approvals of a proposal as a list and as an index,
and the quorum as a record beside the approvals. They never disagree.
-/

namespace Wallie.Governance

open StreamContract (Address)

variable {now : ℕ} {s : State}

/-- In every reachable state of an initialised contract the records agree. -/
theorem governance_records_agree (reached : Reachable now s) (initialised : s.admin.isSome = true) :
    ∃ signers index threshold,
      (s.signers = some signers ∧ s.signerIndex = some index ∧ s.threshold = some threshold) ∧
      (signers.Nodup ∧ ∀ signer, signer ∈ signers ↔ (index signer).isSome = true) ∧
      (1 ≤ threshold ∧ threshold ≤ signers.length ∧ signers.length ≤ 20) ∧
      (∀ id proposal, s.proposals id = some proposal → proposal.approvals.Nodup ∧
        ∀ approver, approver ∈ proposal.approvals ↔
          (s.proposalApprovalIdx id approver).isSome = true) ∧
      (∀ id, (s.quorumReachedAt id).isSome = true ↔
        ∃ proposal, s.proposals id = some proposal ∧ threshold ≤ proposal.approvals.length) ∧
      ∀ id, (s.proposals id).isSome = true ↔ id < s.nextProposalId := by
  rcases reached.sound with rfl | ⟨signers, index, threshold, sound⟩
  · cases initialised
  · refine ⟨signers, index, threshold, ⟨sound.council, sound.known, sound.agreed⟩,
      ⟨sound.indexed.nodup, sound.indexed.mem_iff⟩, ⟨sound.positive, sound.enough, sound.few⟩,
      ?_, fun id => (sound.ballots id).recorded_iff, sound.dense⟩
    intro id proposal stored
    have ballot := sound.ballots id
    rw [stored] at ballot
    exact ⟨ballot.indexed.nodup, ballot.indexed.mem_iff⟩

/-- A proposal with its quorum. -/
theorem governance_records_agree_approved :
    let s := ClockedSystem.play Invocation.next Sample.approved .deployed
    ∃ signers index threshold,
      (s.signers = some signers ∧ s.signerIndex = some index ∧ s.threshold = some threshold) ∧
      (signers.Nodup ∧ ∀ signer, signer ∈ signers ↔ (index signer).isSome = true) ∧
      (1 ≤ threshold ∧ threshold ≤ signers.length ∧ signers.length ≤ 20) ∧
      (∀ id proposal, s.proposals id = some proposal → proposal.approvals.Nodup ∧
        ∀ approver, approver ∈ proposal.approvals ↔
          (s.proposalApprovalIdx id approver).isSome = true) ∧
      (∀ id, (s.quorumReachedAt id).isSome = true ↔
        ∃ proposal, s.proposals id = some proposal ∧ threshold ≤ proposal.approvals.length) ∧
      ∀ id, (s.proposals id).isSome = true ↔ id < s.nextProposalId := by
  intro s
  have ordered : ClockedSystem.Ordered (fun invocation : Invocation => invocation.env.timestamp)
      Sample.approved 0 :=
    ⟨by decide, by decide, by decide, by decide, trivial⟩
  exact governance_records_agree (Sample.recorded ordered).reachable (by decide)

end Wallie.Governance
