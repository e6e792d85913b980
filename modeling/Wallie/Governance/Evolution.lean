import Wallie.Governance.History

/-!
# What becomes of a proposal

A call adds an approval to a proposal that is open, executes it or cancels it, or
leaves it alone. Over a run these moves add up: the terms stay, the approvals are
only added to, and what is over does not change any more.
-/

namespace Wallie.Governance

open Fallible

variable {env : Env} {s s' : State} {call : Call} {now later id : ℕ}
  {proposal proposal' : Proposal}

/-- What a call at `now` makes of a stored proposal. -/
inductive Proposal.Moves (now : ℕ) (proposal : Proposal) : Proposal → Prop where
  | same : Moves now proposal proposal
  | approved {approver : StreamContract.Address} (unfinished : proposal.Open now) :
      Moves now proposal (proposal.approvedBy approver)
  | executed (unfinished : proposal.Open now) :
      Moves now proposal { proposal with executed := true }
  | cancelled (unexecuted : proposal.executed = false) (uncancelled : proposal.cancelled = false) :
      Moves now proposal { proposal with cancelled := true }

theorem moves_update {key : ℕ} {found after : Proposal} (stored : s.proposals id = some proposal)
    (held : s.proposals key = some found) (moves : found.Moves now after) :
    ∃ proposal', Function.update s.proposals key (some after) id = some proposal' ∧
      proposal.Moves now proposal' := by
  rcases eq_or_ne id key with rfl | other
  · cases stored.symm.trans held
    exact ⟨after, Function.update_self .., moves⟩
  · exact ⟨proposal, (Function.update_of_ne other ..).trans stored, .same⟩

theorem Effect.moves (effect : Effect env s call s') (reached : Reachable now s)
    (stored : s.proposals id = some proposal) :
    ∃ proposal', s'.proposals id = some proposal' ∧ proposal.Moves env.timestamp proposal' := by
  cases effect with
  | init _ _ _ _ _ | setAdmin _ | addSigner _ _ _ _ | removeNobody | removeSigner _ _ _ _ _ =>
      exact ⟨proposal, stored, .same⟩
  | propose _ =>
      have used := (reached.dense id).mp (by rw [stored]; rfl)
      exact ⟨proposal, (Function.update_of_ne used.ne _ _).trans stored, .same⟩
  | approve _ _ held unfinished _ _ _ | approveLast _ _ held unfinished _ _ _ =>
      exact moves_update stored held (.approved unfinished)
  | execute held unfinished _ _ _ _ => exact moves_update stored held (.executed unfinished)
  | cancelProposal held unexecuted uncancelled =>
      exact moves_update stored held (.cancelled unexecuted uncancelled)

/-- What a run that starts at `now` makes of a proposal. -/
structure Proposal.Evolves (now : ℕ) (proposal proposal' : Proposal) : Prop where
  proposer : proposal'.proposer = proposal.proposer
  target : proposal'.target = proposal.target
  calldata : proposal'.calldata = proposal.calldata
  createdAt : proposal'.createdAt = proposal.createdAt
  approvals : proposal.approvals <+: proposal'.approvals
  ended : proposal.executed = true ∨ proposal.cancelled = true → proposal' = proposal
  expired : proposal.createdAt + maxProposalAgeSeconds < now →
    proposal' = proposal ∨ proposal' = { proposal with cancelled := true }

theorem Proposal.Evolves.refl (proposal : Proposal) : proposal.Evolves now proposal :=
  ⟨rfl, rfl, rfl, rfl, List.prefix_rfl, fun _ => rfl, fun _ => Or.inl rfl⟩

/-- Neither an executed nor a cancelled proposal is open. -/
theorem Proposal.Open.not_over (unfinished : proposal.Open now) :
    ¬ (proposal.executed = true ∨ proposal.cancelled = true) := by
  rw [unfinished.unexecuted, unfinished.uncancelled]
  simp

theorem Proposal.Evolves.next {after : Proposal} (evolves : proposal.Evolves now proposal')
    (order : now ≤ later) (moves : proposal'.Moves later after) : proposal.Evolves now after := by
  -- What is over has not moved, and what is expired was at most cancelled.
  have stuck : proposal.executed = true ∨ proposal.cancelled = true →
      ¬ proposal'.Open later := by
    intro ended unfinished
    rw [evolves.ended ended] at unfinished
    exact unfinished.not_over ended
  have old : proposal.createdAt + maxProposalAgeSeconds < now → ¬ proposal'.Open later := by
    intro expired unfinished
    have young := unfinished.young
    rw [evolves.createdAt] at young
    omega
  cases moves with
  | same => exact evolves
  | approved unfinished =>
      exact { evolves with
        approvals := evolves.approvals.trans (List.prefix_append _ _)
        ended := fun ended => absurd unfinished (stuck ended)
        expired := fun expired => absurd unfinished (old expired) }
  | executed unfinished =>
      exact { evolves with
        ended := fun ended => absurd unfinished (stuck ended)
        expired := fun expired => absurd unfinished (old expired) }
  | cancelled unexecuted uncancelled =>
      refine { evolves with ended := fun ended => ?_, expired := fun expired => Or.inr ?_ }
      · rw [evolves.ended ended] at unexecuted uncancelled
        rw [unexecuted, uncancelled] at ended
        simp at ended
      · rcases evolves.expired expired with same | cancelled
        · rw [same]
        · rw [cancelled] at uncancelled
          cases uncancelled

/-- A proposal evolves, and a quorum that was recorded stays as it was. -/
theorem evolves_of_continues (reached : Reachable now s)
    (continued : system.Continues (fun _ _ => True) now s later s')
    (stored : s.proposals id = some proposal) :
    ∃ proposal', s'.proposals id = some proposal' ∧ proposal.Evolves now proposal' ∧
      ∀ info, s.quorumReachedAt id = some info → s'.quorumReachedAt id = some info := by
  induction continued with
  | here => exact ⟨proposal, stored, .refl proposal, fun _ recorded => recorded⟩
  | tick _ _ ih => exact ih
  | @move middle current next invocation continued order _ moved ih =>
      rcases ih with ⟨proposal', stored', evolves, quorum⟩
      have reached' : Reachable middle current := continued.reachable reached
      cases moved
      rcases commit_cases invocation.call.run invocation.env current with ⟨_, run⟩ | failed
      · have effect := invocation.call.effect run
        rcases effect.moves reached' stored' with ⟨after, stored'', moves⟩
        have order : now ≤ invocation.env.timestamp := continued.order.trans order
        exact ⟨after, stored'', evolves.next order moves, fun info recorded =>
          effect.quorum_kept reached' (quorum info recorded)⟩
      · change ∃ proposal', (invocation.next current).proposals id = some proposal' ∧ _
        have same : invocation.next current = current := failed
        rw [same]
        exact ⟨proposal', stored', evolves, quorum⟩

end Wallie.Governance
