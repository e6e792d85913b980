import Wallie.Governance.History
import Wallie.Lib.AuditedLog

/-!
# Auditing governance

The council that was set up is not announced; everything after it is. Whoever
knows the council and reads the events keeps the minutes: who is on it, and how
far each proposal is. The events can be checked against the minutes one by one,
so that nothing was approved by an outsider or twice, every quorum was announced
as soon as it was reached, and nothing was executed without its quorum.
-/

namespace Wallie.Governance

open AuditedLog Fallible IndexedList
open StreamContract (Address)

variable {env : Env} {s s' : State} {call : Call} {now later id threshold : ℕ}
  {proposal proposal' : Proposal} {signers : List Address} {index : AddressMap}

/-! ## The minutes -/

/-- What is announced of a proposal. -/
structure Tally where
  proposer : Address
  target : Address
  approvals : List Address
  quorumReachedAt : Option ℕ
  executed : Bool
  cancelled : Bool
  deriving DecidableEq

@[ext]
structure Minutes where
  admin : Option Address
  signers : List Address
  threshold : ℕ
  tallies : ℕ → Option Tally

def Proposal.tally (proposal : Proposal) (info : Option QuorumInfo) : Tally where
  proposer := proposal.proposer
  target := proposal.target
  approvals := proposal.approvals
  quorumReachedAt := info.map QuorumInfo.reachedAt
  executed := proposal.executed
  cancelled := proposal.cancelled

def State.minutes (s : State) : Minutes where
  admin := s.admin
  signers := s.signers.getD []
  threshold := s.threshold.getD 0
  tallies := fun id => (s.proposals id).map fun proposal => proposal.tally (s.quorumReachedAt id)

def Event.AnnouncesQuorum : Event → Prop
  | quorum _ _ _ => True
  | _ => False

namespace Minutes

def amend (minutes : Minutes) (id : ℕ) (change : Tally → Tally) : Minutes :=
  { minutes with
    tallies := Function.update minutes.tallies id ((minutes.tallies id).map change) }

/-- Enter an event into the minutes. -/
def enter (minutes : Minutes) : Event → Minutes
  | .admChg _ newAdmin => { minutes with admin := some newAdmin }
  | .sgnrAdd signer => { minutes with signers := minutes.signers ++ [signer] }
  | .sgnrRm signer => { minutes with signers := minutes.signers.erase signer }
  | .quorCfg _ _ => minutes
  | .proposed proposalId proposer target =>
      { minutes with
        tallies := Function.update minutes.tallies proposalId
          (some { proposer, target, approvals := [], quorumReachedAt := none, executed := false,
                  cancelled := false }) }
  | .approved proposalId approver _ =>
      minutes.amend proposalId fun tally =>
        { tally with approvals := tally.approvals ++ [approver] }
  | .quorum proposalId quorumReachedAt _ =>
      minutes.amend proposalId fun tally => { tally with quorumReachedAt := some quorumReachedAt }
  | .cancelled proposalId _ =>
      minutes.amend proposalId fun tally => { tally with cancelled := true }
  | .executed proposalId _ _ _ =>
      minutes.amend proposalId fun tally => { tally with executed := true }

/-- The proposal is there, and neither executed nor cancelled. -/
structure Undecided (minutes : Minutes) (id : ℕ) (tally : Tally) : Prop where
  stored : minutes.tallies id = some tally
  unexecuted : tally.executed = false
  uncancelled : tally.cancelled = false

/-- No announcement of a quorum is due. -/
def Settled (minutes : Minutes) : Prop :=
  ∀ id tally, minutes.tallies id = some tally → minutes.threshold ≤ tally.approvals.length →
    tally.quorumReachedAt.isSome = true

/-- The event agrees with the minutes. -/
def Agrees (minutes : Minutes) : Event → Prop
  | .admChg oldAdmin _ => minutes.admin = some oldAdmin
  | .sgnrAdd signer => signer ∉ minutes.signers ∧ minutes.signers.length < maxSigners
  | .sgnrRm signer => signer ∈ minutes.signers ∧ minutes.threshold < minutes.signers.length
  | .quorCfg threshold signerCount =>
      threshold = minutes.threshold ∧ signerCount = minutes.signers.length
  | .proposed proposalId proposer _ =>
      proposer ∈ minutes.signers ∧ ∀ id, (minutes.tallies id).isSome = true ↔ id < proposalId
  | .approved proposalId approver approvalCount =>
      ∃ tally, minutes.Undecided proposalId tally ∧ approver ∈ minutes.signers ∧
        approver ∉ tally.approvals ∧ approvalCount = tally.approvals.length + 1
  | .quorum proposalId quorumReachedAt executableAfter =>
      ∃ tally, minutes.Undecided proposalId tally ∧ tally.quorumReachedAt = none ∧
        tally.approvals.length = minutes.threshold ∧
        executableAfter = quorumReachedAt + governanceTimelockSeconds
  | .cancelled proposalId canceller =>
      ∃ tally, minutes.Undecided proposalId tally ∧
        (canceller = tally.proposer ∨ minutes.admin = some canceller)
  | .executed proposalId _ target _ =>
      ∃ tally, minutes.Undecided proposalId tally ∧ tally.quorumReachedAt.isSome = true ∧
        minutes.threshold ≤ tally.approvals.length ∧ tally.target = target

/-- The event is one that may come next. After an approval that reaches the threshold this is the
announcement of the quorum only. -/
def Admits (minutes : Minutes) (event : Event) : Prop :=
  minutes.Agrees event ∧ (minutes.Settled ∨ event.AnnouncesQuorum)

end Minutes

theorem State.minutes_tallies (stored : s.proposals id = some proposal) :
    s.minutes.tallies id = some (proposal.tally (s.quorumReachedAt id)) := by
  change (s.proposals id).map _ = _
  rw [stored, Option.map_some]

/-- A proposal is written. -/
theorem State.minutes_update (s : State)
    (proposals : s'.proposals = Function.update s.proposals id (some proposal'))
    (quorums : s'.quorumReachedAt = s.quorumReachedAt) (admin : s'.admin = s.admin)
    (signers : s'.signers = s.signers) (threshold : s'.threshold = s.threshold) :
    s'.minutes = { s.minutes with
      tallies := Function.update s.minutes.tallies id
        (some (proposal'.tally (s.quorumReachedAt id))) } := by
  have tallies : s'.minutes.tallies = Function.update s.minutes.tallies id
      (some (proposal'.tally (s.quorumReachedAt id))) := by
    funext key
    change (s'.proposals key).map _ = _
    rw [proposals, quorums]
    rcases eq_or_ne key id with rfl | other
    · rw [Function.update_self, Function.update_self, Option.map_some]
    · rw [Function.update_of_ne other, Function.update_of_ne other]
      rfl
  exact Minutes.ext admin (congrArg (Option.getD · []) signers)
    (congrArg (Option.getD · 0) threshold) tallies

/-- A stored proposal is changed. -/
theorem State.minutes_amend {change : Tally → Tally} (stored : s.proposals id = some proposal)
    (proposals : s'.proposals = Function.update s.proposals id (some proposal'))
    (quorums : s'.quorumReachedAt = s.quorumReachedAt) (admin : s'.admin = s.admin)
    (signers : s'.signers = s.signers) (threshold : s'.threshold = s.threshold)
    (changed : ∀ info, proposal'.tally info = change (proposal.tally info)) :
    s'.minutes = s.minutes.amend id change := by
  rw [State.minutes_update s proposals quorums admin signers threshold, Minutes.amend,
    s.minutes_tallies stored, Option.map_some, changed]

/-- A quorum is recorded. -/
theorem State.minutes_withQuorum (stored : s.proposals id = some proposal) :
    (s.withQuorum id now threshold).minutes =
      s.minutes.amend id fun tally => { tally with quorumReachedAt := some now } := by
  refine Minutes.ext rfl rfl rfl ?_
  funext key
  change (s.proposals key).map (fun found => found.tally (Function.update s.quorumReachedAt id
    (some { reachedAt := now, threshold }) key)) = Function.update s.minutes.tallies id _ key
  rcases eq_or_ne key id with rfl | other
  · rw [Function.update_self, Function.update_self, stored, s.minutes_tallies stored]
    rfl
  · rw [Function.update_of_ne other, Function.update_of_ne other]
    rfl

/-! ## Steps -/

/-- The events of a new signer say what the threshold is. -/
theorem threshold_of_addSigner {signer : Address} (run : Runs (addSigner signer) env s () s') :
    ∃ threshold count, s.threshold = some threshold ∧
      s'.events = s.events ++ [.sgnrAdd signer] ++ [.quorCfg threshold count] := by
  simp only [addSigner, saveSigners, runs_bind, runs_getAdmin, runs_requireAuth, runs_getSigners,
    runs_getSignerIndex, runs_getThreshold, runs_rejectIf, runs_update, runs_publish, and_assoc,
    exists_and_left, exists_eq_left, exists_const, not_le] at run
  rcases run with ⟨_, _, _, signers, _, _, _, _, _, threshold, agreed, rfl⟩
  exact ⟨threshold, signers.length + 1, agreed, rfl⟩

/-- Only the proposer and the admin cancel a proposal. -/
theorem canceller_of_cancelProposal {caller : Address}
    (run : Runs (cancelProposal caller id) env s () s') :
    ∃ proposal, s.proposals id = some proposal ∧
      (caller = proposal.proposer ∨ s.admin = some caller) := by
  simp only [cancelProposal, saveProposal, runs_bind, runs_requireAuth, runs_getAdmin,
    runs_rejectIf, runs_update, runs_publish, runs_loadProposal, exists_and_left, and_assoc,
    exists_eq_left, exists_const, Bool.not_eq_true, not_and_or, not_not] at run
  rcases run with ⟨_, proposal, stored, _, _, admin, known, rfl | rfl, _⟩
  · exact ⟨proposal, stored, Or.inl rfl⟩
  · exact ⟨proposal, stored, Or.inr known⟩

namespace State.Sound

theorem minutes_signers (sound : s.Sound signers index threshold) :
    s.minutes.signers = signers := by
  change s.signers.getD [] = signers
  rw [sound.council]
  rfl

theorem minutes_threshold (sound : s.Sound signers index threshold) :
    s.minutes.threshold = threshold := by
  change s.threshold.getD 0 = threshold
  rw [sound.agreed]
  rfl

theorem registered_mem {approver : Address} (sound : s.Sound signers index threshold)
    (registered : s.Registered approver) : approver ∈ s.minutes.signers := by
  rcases registered with ⟨found, known, present⟩
  cases sound.known.symm.trans known
  rw [sound.minutes_signers]
  exact (sound.indexed.mem_iff approver).mpr present

theorem unproposed (sound : s.Sound signers index threshold) :
    s.proposals s.nextProposalId = none := by
  rw [← Option.not_isSome_iff_eq_none, sound.dense]
  exact lt_irrefl _

/-- The contract owes no announcement. -/
theorem settled (sound : s.Sound signers index threshold) : s.minutes.Settled := by
  intro id tally noted enough
  rcases Option.map_eq_some_iff.mp noted with ⟨proposal, stored, rfl⟩
  rw [sound.minutes_threshold] at enough
  have ballot := sound.ballots id
  rw [stored] at ballot
  have recorded := ballot.recorded_iff.mpr ⟨proposal, rfl, enough⟩
  change ((s.quorumReachedAt id).map _).isSome = true
  rw [Option.isSome_map]
  exact recorded

theorem admits {event : Event} (sound : s.Sound signers index threshold)
    (agrees : s.minutes.Agrees event) : s.minutes.Admits event :=
  ⟨agrees, Or.inl sound.settled⟩

/-- The ids of the proposals are those below the next one. -/
theorem admits_proposed {proposer target : Address} (sound : s.Sound signers index threshold)
    (registered : s.Registered proposer) :
    s.minutes.Admits (.proposed s.nextProposalId proposer target) := by
  refine sound.admits ⟨sound.registered_mem registered, fun id => ?_⟩
  rw [← sound.dense id]
  exact iff_of_eq (congrArg (· = true) Option.isSome_map)

theorem minutes_proposed {proposer target : Address} {calldata : StreamContract.Bytes}
    (sound : s.Sound signers index threshold)
    (proposals : s'.proposals = Function.update s.proposals s.nextProposalId
      (some { proposer, target, calldata, approvals := [], createdAt := now, executed := false,
              cancelled := false }))
    (quorums : s'.quorumReachedAt = s.quorumReachedAt) (admin : s'.admin = s.admin)
    (signers : s'.signers = s.signers) (threshold : s'.threshold = s.threshold) :
    s'.minutes = s.minutes.enter (.proposed s.nextProposalId proposer target) := by
  have ballot := sound.ballots s.nextProposalId
  rw [sound.unproposed] at ballot
  rw [State.minutes_update s proposals quorums admin signers threshold, ballot.blank.2]
  rfl

/-- An approval is announced. -/
theorem admits_approved {approver : Address} (sound : s.Sound signers index threshold)
    (registered : s.Registered approver) (stored : s.proposals id = some proposal)
    (unfinished : proposal.Open now) (first : s.proposalApprovalIdx id approver = none) :
    s.minutes.Admits (.approved id approver (proposal.approvals.length + 1)) := by
  have ballot := sound.ballots id
  rw [stored] at ballot
  exact sound.admits ⟨_,
    ⟨s.minutes_tallies stored, unfinished.unexecuted, unfinished.uncancelled⟩,
    sound.registered_mem registered, ballot.indexed.not_mem first, rfl⟩

theorem minutes_withApproval {approver : Address} (stored : s.proposals id = some proposal) :
    (s.withApproval id proposal approver).minutes =
      s.minutes.enter (.approved id approver (proposal.approvals.length + 1)) :=
  State.minutes_amend stored rfl rfl rfl rfl rfl fun _ => rfl

/-- The approval that completes the threshold announces the quorum as well. -/
theorem explains_approveLast {approver : Address} (sound : s.Sound signers index threshold)
    (registered : s.Registered approver) (stored : s.proposals id = some proposal)
    (unfinished : proposal.Open now) (first : s.proposalApprovalIdx id approver = none)
    (complete : proposal.approvals.length + 1 = threshold) :
    Explains Minutes.Admits Minutes.enter State.events State.minutes s
      ((s.withApproval id proposal approver).withQuorum id now threshold) := by
  have ballot := sound.ballots id
  rw [stored] at ballot
  have unrecorded := ballot.unrecorded complete
  have stored' : (s.withApproval id proposal approver).proposals id =
      some (proposal.approvedBy approver) := Function.update_self ..
  refine .of_entries (List.append_assoc _ _ _)
    (sound.admits_approved registered stored unfinished first) ?_ ?_
  · rw [← minutes_withApproval stored]
    refine ⟨⟨_, ⟨State.minutes_tallies stored', unfinished.unexecuted, unfinished.uncancelled⟩, ?_,
      ?_, rfl⟩, Or.inr trivial⟩
    · change (s.quorumReachedAt id).map _ = none
      rw [unrecorded, Option.map_none]
    · change (proposal.approvedBy approver).approvals.length = s.minutes.threshold
      rw [sound.minutes_threshold, Proposal.length_approvedBy]
      exact complete
  · rw [← minutes_withApproval stored]
    exact State.minutes_withQuorum stored'

/-- A proposal is marked as executed or cancelled. -/
theorem explains_marked {event : Event} {change : Tally → Tally}
    (stored : s.proposals id = some proposal)
    (announced : s'.events = s.events ++ [event]) (admitted : s.minutes.Admits event)
    (enters : s.minutes.enter event = s.minutes.amend id change)
    (proposals : s'.proposals = Function.update s.proposals id (some proposal'))
    (quorums : s'.quorumReachedAt = s.quorumReachedAt) (admin : s'.admin = s.admin)
    (signers : s'.signers = s.signers) (threshold : s'.threshold = s.threshold)
    (changed : ∀ info, proposal'.tally info = change (proposal.tally info)) :
    Explains Minutes.Admits Minutes.enter State.events State.minutes s s' := by
  refine .of_entry announced admitted ?_
  rw [enters]
  exact State.minutes_amend stored proposals quorums admin signers threshold changed

end State.Sound

/-- Every call of an initialised contract announces what it does. -/
theorem Call.explains (run : Runs call.run env s () s')
    (sound : s.Sound signers index threshold) :
    Explains Minutes.Admits Minutes.enter State.events State.minutes s s' := by
  cases Call.effect run with
  | init undeployed _ _ _ _ =>
      have initialised := sound.initialised
      rw [undeployed] at initialised
      cases initialised
  | setAdmin stored => exact .of_entry rfl (sound.admits stored) rfl
  | @addSigner signer council _ announced stored known absent few =>
      cases sound.council.symm.trans stored
      cases sound.known.symm.trans known
      rcases threshold_of_addSigner run with ⟨found, count, agreed, logged⟩
      cases sound.agreed.symm.trans agreed
      have same : announced = threshold ∧ signers.length + 1 = count := by simpa using logged
      refine .of_entries (List.append_assoc _ _ _) (sound.admits ⟨?_, ?_⟩)
        ⟨⟨?_, ?_⟩, Or.inl sound.settled⟩ ?_
      · rw [sound.minutes_signers]
        exact sound.indexed.not_mem absent
      · rw [sound.minutes_signers]
        exact few
      · exact same.1.trans sound.minutes_threshold.symm
      · change _ = (s.minutes.signers ++ [signer]).length
        rw [sound.minutes_signers, List.length_append, List.length_singleton]
      · refine Minutes.ext rfl ?_ rfl rfl
        change signers ++ [signer] = s.minutes.signers ++ [signer]
        rw [sound.minutes_signers]
  | removeNobody => exact .refl s
  | @removeSigner signer _ _ _ stored known agreed enough present =>
      cases sound.council.symm.trans stored
      cases sound.known.symm.trans known
      cases sound.agreed.symm.trans agreed
      refine .of_entries (List.append_assoc _ _ _) (sound.admits ⟨?_, ?_⟩)
        ⟨⟨?_, ?_⟩, Or.inl sound.settled⟩ ?_
      · rw [sound.minutes_signers]
        exact (sound.indexed.mem_iff signer).mpr present
      · rw [sound.minutes_signers, sound.minutes_threshold]
        exact enough
      · exact sound.minutes_threshold.symm
      · change _ = (s.minutes.signers.erase signer).length
        rw [sound.minutes_signers]
      · refine Minutes.ext rfl ?_ rfl rfl
        change signers.erase signer = s.minutes.signers.erase signer
        rw [sound.minutes_signers]
  | propose registered =>
      refine .of_entry rfl (sound.admits_proposed registered) ?_
      exact sound.minutes_proposed rfl rfl rfl rfl rfl
  | approve authorised registered stored unfinished first _ _ =>
      refine .of_entry rfl (sound.admits_approved registered stored unfinished first) ?_
      exact State.Sound.minutes_withApproval stored
  | approveLast authorised registered stored unfinished first agreed complete =>
      cases sound.agreed.symm.trans agreed
      exact sound.explains_approveLast registered stored unfinished first complete
  | @execute executor id proposal info op stored unfinished reached approved elapsed decoded =>
      have ballot := sound.ballots id
      rw [stored] at ballot
      have enough := ballot.recorded_iff.mp (by rw [reached]; rfl)
      refine State.Sound.explains_marked stored rfl ?_ rfl rfl rfl rfl rfl rfl fun _ => rfl
      refine sound.admits ⟨_,
        ⟨s.minutes_tallies stored, unfinished.unexecuted, unfinished.uncancelled⟩, ?_, ?_, rfl⟩
      · change ((s.quorumReachedAt id).map _).isSome = true
        rw [reached]
        rfl
      · rcases enough with ⟨_, ⟨⟩, enough⟩
        rw [sound.minutes_threshold]
        exact enough
  | @cancelProposal caller id proposal stored unexecuted uncancelled =>
      rcases canceller_of_cancelProposal run with ⟨_, stored', permitted⟩
      cases stored.symm.trans stored'
      refine State.Sound.explains_marked stored rfl ?_ rfl rfl rfl rfl rfl rfl fun _ => rfl
      exact sound.admits ⟨_, ⟨s.minutes_tallies stored, unexecuted, uncancelled⟩, permitted⟩

/-! ## Runs -/

namespace Sample

end Sample

end Wallie.Governance
