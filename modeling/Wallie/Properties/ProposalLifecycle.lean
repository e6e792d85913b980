import Wallie.Governance.Evolution

/-!
# The life of a proposal

A proposal is what its proposer made it, for ever. It collects approvals while
it is open, and it ends by being executed, by being cancelled, or by growing too
old, after which it can only be cancelled.
-/

namespace Wallie.Governance

variable {s s' : State} {now later id : ℕ} {proposal : Proposal}

/-- From any reachable state on, whatever anyone calls: a stored proposal stays stored under its id
with its proposer, target, call and time, its approvals are only added to, and a quorum that was
recorded stays as it was. Once it is executed or cancelled it does not change any more, once it is
expired it can only be cancelled, and it is never both executed and cancelled. -/
theorem proposal_evolves (reached : Reachable now s)
    (continued : system.Continues (fun _ _ => True) now s later s')
    (stored : s.proposals id = some proposal) :
    ∃ proposal', s'.proposals id = some proposal' ∧ proposal.Evolves now proposal' ∧
      (∀ info, s.quorumReachedAt id = some info → s'.quorumReachedAt id = some info) ∧
      (proposal'.executed = true → proposal'.cancelled = false) := by
  rcases evolves_of_continues reached continued stored with ⟨proposal', stored', evolves, quorum⟩
  rcases (continued.reachable reached).recorded with ⟨past, recorded⟩
  exact ⟨proposal', stored', evolves, quorum,
    (Recorded.accounts recorded).exclusive id proposal' stored'⟩

namespace Sample

/-- The second signer's approval comes too late, and the admin cancels the proposal. -/
def lapsed : List Invocation :=
  [invocation 1 1 (.approve (.account 1) 0) (Eq.refl true),
    invocation 2 2592001 (.approve (.account 2) 0) (Eq.refl true),
    invocation 0 2592002 (.cancelProposal admin 0) (Eq.refl true),
    invocation 2 2592003 (.execute (.account 2) 0) (Eq.refl true)]

end Sample

/-- The proposal has one approval for ever. -/
theorem proposal_evolves_lapsed :
    let s := ClockedSystem.play Invocation.next Sample.proposed .deployed
    let s' := ClockedSystem.play Invocation.next Sample.lapsed s
    ∃ proposal proposal', s.proposals 0 = some proposal ∧ s'.proposals 0 = some proposal' ∧
      proposal'.approvals = [.account 1] ∧ proposal'.cancelled = true ∧
      proposal.Evolves 0 proposal' := by
  intro s s'
  have ordered : ClockedSystem.Ordered (fun invocation => invocation.env.timestamp)
      Sample.proposed 0 := ⟨by decide, by decide, trivial⟩
  have ordered' : ClockedSystem.Ordered (fun invocation => invocation.env.timestamp)
      Sample.lapsed 0 := ⟨by decide, by decide, by decide, by decide, trivial⟩
  have recorded := Sample.recorded ordered
  have reached : Reachable 0 s := ClockedSystem.Recorded.reachable recorded
  have continued : system.Continues (fun _ _ => True) 0 s 2592003 s' :=
    ClockedSystem.continues_play ordered' .here
  have before : (s.proposals 0).isSome = true := by decide +kernel
  have after : (s'.proposals 0).map (fun proposal => (proposal.approvals, proposal.cancelled)) =
      some ([.account 1], true) := by
    decide +kernel
  rcases Option.isSome_iff_exists.mp before with ⟨proposal, stored⟩
  rcases proposal_evolves reached continued stored with ⟨proposal', stored', evolves, _, _⟩
  rw [stored', Option.map_some, Option.some.injEq, Prod.mk.injEq] at after
  exact ⟨proposal, proposal', stored, stored', after.1, after.2, evolves⟩

end Wallie.Governance
