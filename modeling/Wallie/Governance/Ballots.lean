import Wallie.Governance.Runs

/-!
# Ballots and membership

The vote on a proposal is open until its quorum is recorded, with the approval
that completes the threshold, and decided from then on. The contract keeps one
such ballot for each proposal, and a council with an index and a threshold that
never changes.
-/

namespace Wallie.Governance

open Fallible IndexedList
open StreamContract (Address)

variable {env : Env} {s s' : State} {call : Call} {signers : List Address} {index : AddressMap}
  {threshold now id : ℕ} {proposal : Proposal} {info : Option QuorumInfo} {approver : Address}

/-- The vote on one proposal, as its three records show it. -/
inductive Ballot (threshold : ℕ) : Option Proposal → AddressMap → Option QuorumInfo → Prop where
  | absent : Ballot threshold none (fun _ => none) none
  | voting {proposal : Proposal} {index : AddressMap}
      (indexed : Indexes index proposal.approvals)
      (short : proposal.approvals.length < threshold) :
      Ballot threshold (some proposal) index none
  | decided {proposal : Proposal} {index : AddressMap} {reachedAt : ℕ}
      (indexed : Indexes index proposal.approvals)
      (enough : threshold ≤ proposal.approvals.length) :
      Ballot threshold (some proposal) index (some { reachedAt, threshold })

namespace Ballot

theorem indexed (ballot : Ballot threshold (some proposal) index info) :
    Indexes index proposal.approvals := by
  cases ballot with
  | voting indexed _ | decided indexed _ => exact indexed

theorem recorded_iff {stored : Option Proposal} (ballot : Ballot threshold stored index info) :
    info.isSome = true ↔
      ∃ proposal, stored = some proposal ∧ threshold ≤ proposal.approvals.length := by
  cases ballot with
  | absent => simp
  | voting _ short => simp [short]
  | decided _ enough => simp [enough]

/-- A quorum is recorded once. -/
theorem unrecorded (ballot : Ballot threshold (some proposal) index info)
    (complete : proposal.approvals.length + 1 = threshold) : info = none := by
  cases ballot with
  | voting _ _ => rfl
  | decided _ enough => omega

theorem blank (ballot : Ballot threshold none index info) :
    index = (fun _ => none) ∧ info = none := by
  cases ballot with
  | absent => exact ⟨rfl, rfl⟩

theorem opened (positive : 1 ≤ threshold) (none_yet : proposal.approvals = []) :
    Ballot threshold (some proposal) (fun _ => none) none := by
  apply voting
  · rw [none_yet]
    exact .nil
  · rw [none_yet]
    exact positive

/-- The flags of a proposal do not count. -/
theorem marked (ballot : Ballot threshold (some proposal) index info) {marked : Proposal}
    (same : marked.approvals = proposal.approvals) : Ballot threshold (some marked) index info := by
  cases ballot with
  | voting indexed short =>
      rw [← same] at indexed short
      exact voting indexed short
  | decided indexed enough =>
      rw [← same] at indexed enough
      exact decided indexed enough

/-- An approval that does not complete the threshold. -/
theorem approved (ballot : Ballot threshold (some proposal) index info)
    (first : index approver = none) (other : proposal.approvals.length + 1 ≠ threshold) :
    Ballot threshold (some (proposal.approvedBy approver))
      (Function.update index approver (some true)) info := by
  have length := proposal.length_approvedBy approver
  cases ballot with
  | voting indexed short => exact voting (indexed.push first) (by omega)
  | decided indexed enough => exact decided (indexed.push first) (by omega)

/-- The approval that completes the threshold. -/
theorem completed (ballot : Ballot threshold (some proposal) index info)
    (first : index approver = none) (complete : proposal.approvals.length + 1 = threshold) :
    Ballot threshold (some (proposal.approvedBy approver))
      (Function.update index approver (some true)) (some { reachedAt := now, threshold }) := by
  have length := proposal.length_approvedBy approver
  exact decided (ballot.indexed.push first) (by omega)

end Ballot

section Update

variable {proposals : ℕ → Option Proposal} {indexes : ℕ → AddressMap}
  {infos : ℕ → Option QuorumInfo} {nextProposalId : ℕ}

/-- The ballots after a change to one of them. -/
theorem ballots_update
    (ballots : ∀ id, Ballot threshold (proposals id) (indexes id) (infos id)) (id : ℕ)
    (ballot : Ballot threshold (some proposal) index info) (key : ℕ) :
    Ballot threshold (Function.update proposals id (some proposal) key)
      (Function.update indexes id index key) (Function.update infos id info key) := by
  rcases eq_or_ne key id with rfl | other
  · rw [Function.update_self, Function.update_self, Function.update_self]
    exact ballot
  · rw [Function.update_of_ne other, Function.update_of_ne other, Function.update_of_ne other]
    exact ballots key

/-- A stored proposal may be replaced. -/
theorem dense_update (dense : ∀ id, (proposals id).isSome = true ↔ id < nextProposalId)
    (stored : (proposals id).isSome = true) (key : ℕ) :
    (Function.update proposals id (some proposal) key).isSome = true ↔ key < nextProposalId := by
  rcases eq_or_ne key id with rfl | other
  · rw [Function.update_self]
    exact iff_of_true rfl ((dense key).mp stored)
  · rw [Function.update_of_ne other]
    exact dense key

/-- A new proposal gets the next id. -/
theorem dense_push (dense : ∀ id, (proposals id).isSome = true ↔ id < nextProposalId) (key : ℕ) :
    (Function.update proposals nextProposalId (some proposal) key).isSome = true ↔
      key < nextProposalId + 1 := by
  rcases eq_or_ne key nextProposalId with rfl | other
  · rw [Function.update_self]
    exact iff_of_true rfl (Nat.lt_succ_self _)
  · rw [Function.update_of_ne other, dense key]
    omega

end Update

/-- The records of an initialised contract agree with each other. -/
structure State.Sound (s : State) (signers : List Address) (index : AddressMap)
    (threshold : ℕ) : Prop where
  initialised : s.admin.isSome = true
  council : s.signers = some signers
  known : s.signerIndex = some index
  agreed : s.threshold = some threshold
  indexed : Indexes index signers
  positive : 1 ≤ threshold
  enough : threshold ≤ signers.length
  few : signers.length ≤ maxSigners
  dense : ∀ id, (s.proposals id).isSome = true ↔ id < s.nextProposalId
  ballots : ∀ id,
    Ballot threshold (s.proposals id) (s.proposalApprovalIdx id) (s.quorumReachedAt id)

/-- The flags of a stored proposal may change. -/
theorem State.Sound.ballots_marked (sound : s.Sound signers index threshold)
    (stored : s.proposals id = some proposal) {marked : Proposal}
    (same : marked.approvals = proposal.approvals) (key : ℕ) :
    Ballot threshold (Function.update s.proposals id (some marked) key)
      (s.proposalApprovalIdx key) (s.quorumReachedAt key) := by
  have ballot := sound.ballots id
  rw [stored] at ballot
  have ballots := ballots_update sound.ballots id (ballot.marked same) key
  rwa [Function.update_eq_self, Function.update_eq_self] at ballots

/-- A new proposal opens a ballot. -/
theorem State.Sound.ballots_opened (sound : s.Sound signers index threshold)
    (unapproved : proposal.approvals = []) (key : ℕ) :
    Ballot threshold (Function.update s.proposals s.nextProposalId (some proposal) key)
      (s.proposalApprovalIdx key) (s.quorumReachedAt key) := by
  have fresh : s.proposals s.nextProposalId = none := by
    rw [← Option.not_isSome_iff_eq_none, sound.dense]
    exact lt_irrefl _
  have blank := sound.ballots s.nextProposalId
  rw [fresh] at blank
  have ballot := Ballot.opened sound.positive unapproved
  rw [← blank.blank.1, ← blank.blank.2] at ballot
  have ballots := ballots_update sound.ballots s.nextProposalId ballot key
  rwa [Function.update_eq_self, Function.update_eq_self] at ballots

/-- A call keeps the records in agreement, and the threshold as it is. -/
theorem Effect.sound (effect : Effect env s call s') (sound : s.Sound signers index threshold) :
    ∃ signers' index', s'.Sound signers' index' threshold := by
  cases effect with
  | init undeployed _ _ _ _ =>
      have initialised := sound.initialised
      rw [undeployed] at initialised
      cases initialised
  | setAdmin _ =>
      exact ⟨signers, index, { sound with initialised := rfl }⟩
  | removeNobody => exact ⟨signers, index, sound⟩
  | @addSigner signer _ _ _ stored known absent few =>
      cases sound.council.symm.trans stored
      cases sound.known.symm.trans known
      have longer : (signers ++ [signer]).length = signers.length + 1 := List.length_append
      have enough := sound.enough
      exact ⟨_, _, { sound with
        council := rfl
        known := rfl
        indexed := sound.indexed.push absent
        enough := by omega
        few := by omega }⟩
  | removeSigner stored known agreed enough present =>
      cases sound.council.symm.trans stored
      cases sound.known.symm.trans known
      cases sound.agreed.symm.trans agreed
      have member := (sound.indexed.mem_iff _).mpr present
      have shorter := List.length_erase_of_mem member
      have few := sound.few
      exact ⟨_, _, { sound with
        council := rfl
        known := rfl
        indexed := sound.indexed.erase
        enough := by omega
        few := by omega }⟩
  | propose _ =>
      exact ⟨signers, index, { sound with
        dense := dense_push sound.dense
        ballots := sound.ballots_opened rfl }⟩
  | @approve approver id _ proposal _ _ stored _ first agreed other =>
      cases sound.agreed.symm.trans agreed
      have ballot := sound.ballots id
      rw [stored] at ballot
      refine ⟨signers, index, { sound with
        dense := dense_update sound.dense (by rw [stored]; rfl)
        ballots := fun key => ?_ }⟩
      have ballots := ballots_update sound.ballots id (ballot.approved first other) key
      rwa [Function.update_eq_self] at ballots
  | @approveLast approver id _ proposal _ _ stored _ first agreed complete =>
      cases sound.agreed.symm.trans agreed
      have ballot := sound.ballots id
      rw [stored] at ballot
      exact ⟨signers, index, { sound with
        dense := dense_update sound.dense (by rw [stored]; rfl)
        ballots := ballots_update sound.ballots id (ballot.completed first complete) }⟩
  | execute stored _ _ _ _ _ =>
      exact ⟨signers, index, { sound with
        dense := dense_update sound.dense (by rw [stored]; rfl)
        ballots := sound.ballots_marked stored rfl }⟩
  | cancelProposal stored _ _ =>
      exact ⟨signers, index, { sound with
        dense := dense_update sound.dense (by rw [stored]; rfl)
        ballots := sound.ballots_marked stored rfl }⟩

/-- What an initialisation leaves behind. -/
theorem Effect.initialised (effect : Effect env .deployed call s') :
    s' = .deployed ∨ ∃ signers index threshold, s'.Sound signers index threshold := by
  cases effect with
  | init _ few positive enough indexed =>
      right
      exact ⟨_, _, _,
        { initialised := rfl
          council := rfl
          known := rfl
          agreed := rfl
          indexed
          positive
          enough
          few
          dense := fun id => by simp [State.deployed]
          ballots := fun _ => .absent }⟩
  | removeNobody => exact Or.inl rfl
  | setAdmin stored | addSigner stored _ _ _ | removeSigner stored _ _ _ _
  | approve _ _ stored _ _ _ _ | approveLast _ _ stored _ _ _ _ | execute stored _ _ _ _ _
  | cancelProposal stored _ _ => cases stored
  | propose registered =>
      rcases registered with ⟨index, known, _⟩
      cases known

/-- A reachable state is that of the deployment, or its records agree. -/
theorem Reachable.sound (reached : Reachable now s) :
    s = .deployed ∨ ∃ signers index threshold, s.Sound signers index threshold := by
  apply reached.invariant
    (fun _ s => s = .deployed ∨ ∃ signers index threshold, s.Sound signers index threshold)
  · exact fun _ _ deployed => Or.inl deployed
  · exact fun _ _ _ _ kept => kept
  · rintro s invocation s' _ rfl kept
    rcases commit_cases invocation.call.run invocation.env s with ⟨_, run⟩ | failed
    · have effect := invocation.call.effect run
      rcases kept with rfl | ⟨signers, index, threshold, sound⟩
      · exact effect.initialised
      · rcases effect.sound sound with ⟨signers', index', sound'⟩
        exact Or.inr ⟨signers', index', threshold, sound'⟩
    · change Invocation.next invocation s = s at failed
      rw [failed]
      exact kept

/-- The stored proposals are those below the counter. -/
theorem Reachable.dense (reached : Reachable now s) (id : ℕ) :
    (s.proposals id).isSome = true ↔ id < s.nextProposalId := by
  rcases reached.sound with rfl | ⟨signers, index, threshold, sound⟩
  · simp [State.deployed]
  · exact sound.dense id

/-- The ballots under the threshold that is stored. -/
theorem Reachable.ballots (reached : Reachable now s) (agreed : s.threshold = some threshold)
    (id : ℕ) : Ballot threshold (s.proposals id) (s.proposalApprovalIdx id)
      (s.quorumReachedAt id) := by
  rcases reached.sound with rfl | ⟨signers, index, threshold', sound⟩
  · cases agreed
  · cases sound.agreed.symm.trans agreed
    exact sound.ballots id

end Wallie.Governance
