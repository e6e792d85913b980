import Wallie.Governance.Evolution
import Wallie.Properties.ExecutableView
import Mathlib.Data.List.Perm.Subperm

/-!
# A council that agrees decides

Nobody but the proposer and the admin, who may cancel it, and the target, which
may refuse the call, can keep a proposal from being executed once enough signers
want it. Each of them approves in a transaction of its own while the proposal is
open, and somebody asks for the execution when the timelock has run out; whatever
else is called in between, the votes count, and the execution succeeds unless the
target refuses.
-/

namespace Wallie.Governance

open Fallible
open StreamContract (Address u64)

variable {env : Env} {s s' : State} {now id threshold : ℕ} {proposal : Proposal}
  {approver voter : Address} {past : List (State × Invocation)}

/-! ## Votes -/

/-- An approval that nothing speaks against succeeds. -/
theorem approve_succeeds (signed : env.auth approver = true) (registered : s.Registered approver)
    (stored : s.proposals id = some proposal)
    (dated : ((proposal.createdAt + maxProposalAgeSeconds : ℕ) : ℤ) ≤ u64.upper)
    (unfinished : proposal.Open env.timestamp) (first : s.proposalApprovalIdx id approver = none)
    (agreed : s.threshold = some threshold)
    (clocked : ((env.timestamp + governanceTimelockSeconds : ℕ) : ℤ) ≤ u64.upper) :
    ∃ s', Runs (approve approver id) env s () s' := by
  have known : s.signerIndex.isSome = true := by
    rcases registered with ⟨index, known, _⟩
    rw [known]
    rfl
  unfold approve
  refine Runs.followedBy (runs_requireAuth.mpr ⟨signed, rfl⟩) ?_
  refine Runs.andThen (runs_isRegisteredSigner.mpr ⟨iff_of_true rfl registered, known, rfl⟩) ?_
  refine Runs.followedBy (runs_rejectIf.mpr ⟨by decide, rfl⟩) ?_
  refine Runs.andThen (runs_loadProposal.mpr ⟨stored, rfl⟩) ?_
  refine Runs.followedBy (runs_requireOpen.mpr ⟨dated, unfinished, rfl⟩) ?_
  refine Runs.andThen (runs_peek.mpr ⟨rfl, rfl⟩) ?_
  refine Runs.followedBy (runs_rejectIf.mpr ⟨by simp [first], rfl⟩) ?_
  refine Runs.andThen (runs_getThreshold.mpr ⟨agreed, rfl⟩) ?_
  by_cases complete : (proposal.approvals ++ [approver]).length = threshold
  · have counted : Runs (quorumReached (proposal.approvals ++ [approver]).length threshold) env s
        (some (env.timestamp, env.timestamp + governanceTimelockSeconds)) s := by
      rw [quorumReached, if_pos complete]
      simpa only [runs_bind, runs_ask, runs_checkedDeadline, runs_pure, and_assoc, exists_and_left,
        exists_eq_left, and_true] using clocked
    refine Runs.andThen counted ?_
    simp only [saveProposal, saveApprovalIndex, saveQuorumInfo, publish, runs_bind, runs_update,
      exists_const, exists_eq_left, exists_eq]
  · have counted : Runs (quorumReached (proposal.approvals ++ [approver]).length threshold) env s
        none s := by
      rw [quorumReached, if_neg complete]
      exact runs_pure.mpr ⟨rfl, rfl⟩
    refine Runs.andThen counted ?_
    simp only [saveProposal, saveApprovalIndex, publish, runs_bind, runs_update, runs_pure,
      exists_const, exists_eq_left, true_and, exists_eq]

/-- A registered signer asks to approve a stored proposal. -/
structure Votes (id : ℕ) (voter : Address) (entry : State × Invocation) : Prop where
  called : entry.2.call = .approve voter id
  signed : entry.2.env.auth voter = true
  registered : entry.1.Registered voter
  stored : (entry.1.proposals id).isSome = true

/-- An approval that runs is on record. -/
theorem Effect.approver_recorded (effect : Effect env s (.approve approver id) s') :
    ∃ proposal, s'.proposals id = some proposal ∧ approver ∈ proposal.approvals := by
  cases effect with
  | approve _ _ _ _ _ _ _ | approveLast _ _ _ _ _ _ _ =>
      exact ⟨_, Function.update_self _ _ _, List.mem_append_right _ (List.mem_singleton_self _)⟩

/-- In a run at whose end the proposal is young, everybody who voted is among its approvals, unless
it is executed or cancelled. -/
theorem Recorded.vote_recorded {entry : State × Invocation} (recorded : Recorded past now s)
    (member : entry ∈ past) (vote : Votes id voter entry) (stored : s.proposals id = some proposal)
    (dated : ((proposal.createdAt + maxProposalAgeSeconds : ℕ) : ℤ) ≤ u64.upper)
    (young : now ≤ proposal.createdAt + maxProposalAgeSeconds)
    (clocked : ((now + governanceTimelockSeconds : ℕ) : ℤ) ≤ u64.upper) :
    (proposal.executed = true ∨ proposal.cancelled = true) ∨ voter ∈ proposal.approvals := by
  rcases entry with ⟨found, invocation⟩
  rcases List.append_of_mem member with ⟨later, earlier, rfl⟩
  rcases ClockedSystem.Recorded.split recorded with
    ⟨start, next, before, order, moved, continued⟩
  have reached : Reachable start found := before.reachable
  have sooner : invocation.env.timestamp ≤ now := continued.order
  rcases Option.isSome_iff_exists.mp vote.stored with ⟨voted, stored₀⟩
  have whole : system.Continues (fun _ _ => True) start found now s :=
    (ClockedSystem.Continues.here.move order trivial moved).trans continued
  rcases evolves_of_continues reached whole stored₀ with ⟨_, stored', evolves, _⟩
  cases stored.symm.trans stored'
  by_cases ended : voted.executed = true ∨ voted.cancelled = true
  · left
    rw [evolves.ended ended]
    exact ended
  · right
    rw [not_or, Bool.not_eq_true, Bool.not_eq_true] at ended
    have unfinished : voted.Open invocation.env.timestamp := by
      refine ⟨ended.2, ended.1, ?_⟩
      rw [← evolves.createdAt]
      exact sooner.trans young
    rcases reached.sound with rfl | ⟨_, _, threshold, sound⟩
    · cases stored₀
    · have ballot := sound.ballots id
      rw [stored₀] at ballot
      cases first : found.proposalApprovalIdx id voter with
      | some _ =>
          have approved : voter ∈ voted.approvals :=
            (ballot.indexed.mem_iff voter).mpr (by rw [first]; rfl)
          exact evolves.approvals.subset approved
      | none =>
          have called : invocation.call = .approve voter id := vote.called
          have clocked' : ((invocation.env.timestamp + governanceTimelockSeconds : ℕ) : ℤ) ≤
              u64.upper := by
            omega
          rw [evolves.createdAt] at dated
          rcases approve_succeeds vote.signed vote.registered stored₀ dated unfinished first
            sound.agreed clocked' with ⟨after, run⟩
          have effect : Effect invocation.env found invocation.call next := by
            cases moved
            have same : invocation.next found = after := by
              apply commit_of_runs
              rw [called]
              exact run
            rw [same, called]
            exact (Call.approve voter id).effect run
          rw [called] at effect
          rcases effect.approver_recorded with ⟨approved, stored₁, approves⟩
          have reached' : Reachable invocation.env.timestamp next :=
            .move reached order trivial moved
          rcases evolves_of_continues reached' continued stored₁ with
            ⟨_, stored', evolves', _⟩
          cases stored.symm.trans stored'
          exact evolves'.approvals.subset approves

/-! ## The decision -/

/-- A quorum that is recorded was reached by then. -/
theorem Reachable.quorum_past (reached : Reachable now s) :
    ∀ id info, s.quorumReachedAt id = some info → info.reachedAt ≤ now := by
  apply reached.invariant
    (fun now s => ∀ id info, s.quorumReachedAt id = some info → info.reachedAt ≤ now)
  · rintro _ _ rfl id info recorded
    cases recorded
  · exact fun _ _ _ order kept id info recorded => (kept id info recorded).trans order
  · rintro s invocation s' _ rfl kept
    rcases commit_cases invocation.call.run invocation.env s with ⟨_, run⟩ | failed
    · have effect : Effect invocation.env s invocation.call (invocation.next s) :=
        invocation.call.effect run
      generalize invocation.call = call at effect
      generalize invocation.next s = s' at effect
      cases effect with
      | init _ _ _ _ _ | setAdmin _ | addSigner _ _ _ _ | removeNobody | removeSigner _ _ _ _ _
      | propose _ | approve _ _ _ _ _ _ _ | execute _ _ _ _ _ _ | cancelProposal _ _ _ =>
          exact kept
      | @approveLast _ key _ _ _ _ _ _ _ _ _ =>
          intro id info recorded
          rcases eq_or_ne id key with rfl | other
          · have written := (Function.update_self id _ s.quorumReachedAt).symm.trans recorded
            cases written
            exact le_rfl
          · exact kept id info ((Function.update_of_ne other _ _).symm.trans recorded)
    · change Invocation.next invocation s = s at failed
      rw [failed]
      exact kept

/-- Votes of distinct signers all count, unless the proposal is executed or cancelled. -/
theorem Recorded.votes_le {voters : List Address} (recorded : Recorded past now s)
    (distinct : voters.Nodup) (voted : ∀ voter ∈ voters, ∃ entry ∈ past, Votes id voter entry)
    (stored : s.proposals id = some proposal)
    (dated : ((proposal.createdAt + maxProposalAgeSeconds : ℕ) : ℤ) ≤ u64.upper)
    (young : now ≤ proposal.createdAt + maxProposalAgeSeconds)
    (clocked : ((now + governanceTimelockSeconds : ℕ) : ℤ) ≤ u64.upper)
    (undecided : ¬ (proposal.executed = true ∨ proposal.cancelled = true)) :
    voters.length ≤ proposal.approvals.length := by
  have approvals : voters ⊆ proposal.approvals := by
    intro voter member
    rcases voted voter member with ⟨entry, taken, vote⟩
    exact (recorded.vote_recorded taken vote stored dated young clocked).resolve_left undecided
  exact (List.subperm_of_subset distinct approvals).length_le

/-- A proposal with a quorum that is still open passes the checks of its execution once the
timelock has run out, whatever was called in between. -/
theorem Reachable.passes_of_quorum {later : ℕ} {proposal' : Proposal} (reached : Reachable now s)
    (agreed : s.threshold = some threshold) (stored : s.proposals id = some proposal)
    (many : threshold ≤ proposal.approvals.length)
    (continued : system.Continues (fun _ _ => True) now s later s')
    (stored' : s'.proposals id = some proposal') (unfinished : proposal'.Open env.timestamp)
    (dated : ((proposal.createdAt + maxProposalAgeSeconds : ℕ) : ℤ) ≤ u64.upper)
    (elapsed : now + governanceTimelockSeconds ≤ env.timestamp)
    (clocked : ((now + governanceTimelockSeconds : ℕ) : ℤ) ≤ u64.upper) :
    ∃ info, Passes env s' id proposal' info := by
  rcases evolves_of_continues reached continued stored with ⟨_, same, evolves, kept⟩
  cases stored'.symm.trans same
  have counted := (reached.ballots agreed id).recorded_iff.mpr ⟨proposal, stored, many⟩
  rcases Option.isSome_iff_exists.mp counted with ⟨info, reachedAt⟩
  have past := reached.quorum_past id info reachedAt
  refine ⟨info, stored', ?_, unfinished, kept info reachedAt, ?_, ?_, ?_⟩
  · rw [evolves.createdAt]
    exact dated
  · have ballot := reached.ballots agreed id
    rw [stored, reachedAt] at ballot
    cases ballot with
    | decided _ _ => exact many.trans evolves.approvals.length_le
  · omega
  · omega

/-- Once as many distinct signers as the threshold have asked to approve a proposal, each of them
registered at the time, and whatever anyone calls afterwards: a request to execute it that comes
after the timelock and before the proposal is too old, with data that can be decoded, passes every
check of the contract, unless the proposal has been executed or cancelled by then. It succeeds and
makes its call exactly if the target does not refuse that, and otherwise changes nothing. -/
theorem council_decides {later : ℕ} {voters : List Address} {invocation : Invocation}
    {executor : Address} {op : CallData} (recorded : Recorded past now s)
    (agreed : s.threshold = some threshold) (distinct : voters.Nodup)
    (enough : threshold ≤ voters.length)
    (voted : ∀ voter ∈ voters, ∃ entry ∈ past, Votes id voter entry)
    (continued : system.Continues (fun _ _ => True) now s later s')
    (order : later ≤ invocation.env.timestamp)
    (called : invocation.call = .execute executor id)
    (signed : invocation.env.auth executor = true)
    (stored : s.proposals id = some proposal)
    (decoded : invocation.env.fromXdr proposal.calldata = .value op)
    (elapsed : now + 172800 ≤ invocation.env.timestamp)
    (young : invocation.env.timestamp ≤ proposal.createdAt + 2592000)
    (dated : ((proposal.createdAt + 2592000 : ℕ) : ℤ) ≤ u64.upper) :
    ∃ found, s'.proposals id = some found ∧
      ((found.executed = true ∨ found.cancelled = true) ∨
        let accepted := ∀ dispatch ∈ op.dispatches id proposal.target,
          invocation.env.rejects (s'.marked id found) dispatch = false
        (accepted → Executes id (s', invocation) ∧ (invocation.next s').dispatches =
          s'.dispatches ++ op.dispatches id proposal.target) ∧
        (¬ accepted → invocation.next s' = s')) := by
  have reached : Reachable now s := recorded.reachable
  rcases evolves_of_continues reached continued stored with ⟨proposal', stored', evolves, _⟩
  refine ⟨proposal', stored', ?_⟩
  by_cases ended : proposal'.executed = true ∨ proposal'.cancelled = true
  · exact Or.inl ended
  · right
    have unfinished : proposal'.Open invocation.env.timestamp := by
      rw [not_or, Bool.not_eq_true, Bool.not_eq_true] at ended
      refine ⟨ended.2, ended.1, ?_⟩
      rw [evolves.createdAt]
      exact young
    have order' : now ≤ invocation.env.timestamp := continued.order.trans order
    have clock := invocation.timestamp.2
    have many : threshold ≤ proposal.approvals.length := by
      refine enough.trans (recorded.votes_le distinct voted stored dated (order'.trans young)
        (by unfold governanceTimelockSeconds; omega) ?_)
      intro earlier
      rw [evolves.ended earlier] at ended
      exact ended earlier
    rcases reached.passes_of_quorum agreed stored many continued stored' unfinished dated elapsed
      (by unfold governanceTimelockSeconds; omega) with ⟨info, passes⟩
    rw [← evolves.calldata] at decoded
    have runs : ∀ after, Runs invocation.call.run invocation.env s' () after ↔
        (∀ dispatch ∈ op.dispatches id proposal.target,
          invocation.env.rejects (s'.marked id proposal') dispatch = false) ∧
          after = s'.executedBy executor id proposal' op := by
      intro after
      rw [called, ← evolves.target]
      exact runs_execute_passing signed passes decoded
    refine ⟨fun accepted => ?_, fun refused => ?_⟩
    · have ran := (runs _).mpr ⟨accepted, rfl⟩
      have same : invocation.next s' = s'.executedBy executor id proposal' op := commit_of_runs ran
      refine ⟨⟨executor, called, _, ran⟩, ?_⟩
      rw [same, ← evolves.target]
      rfl
    · exact commit_of_fails fun _ after ran => refused ((runs after).mp ran).1

namespace Sample

/-- The first two signers have approved; now an execution comes too early, the first signer is
removed, and the third one approves as well. -/
def meanwhile : List Invocation :=
  [invocation 9 3 (.execute (.account 9) 0) (Eq.refl true),
    invocation 0 4 (.removeSigner (.account 1)) (Eq.refl true),
    invocation 3 5 (.approve (.account 3) 0) (Eq.refl true)]

def execution : Invocation :=
  invocation 9 172802 (.execute (.account 9) 0) (Eq.refl true)

theorem votes {voter : Address} (either : voter ∈ [Address.account 1, .account 2]) :
    ∃ entry ∈ ClockedSystem.playedPast Invocation.next approved .deployed, Votes 0 voter entry := by
  simp only [List.mem_cons, List.not_mem_nil, or_false] at either
  rcases either with rfl | rfl
  · exact ⟨_, List.mem_cons_of_mem _ List.mem_cons_self,
      ⟨rfl, by decide, ⟨_, rfl, by decide⟩, by decide⟩⟩
  · exact ⟨_, List.mem_cons_self, ⟨rfl, by decide, ⟨_, rfl, by decide⟩, by decide⟩⟩

end Sample

/-- The execution succeeds, and its call is the only one that was made. -/
theorem council_decides_executed :
    let s := ClockedSystem.play Invocation.next Sample.approved .deployed
    let s' := ClockedSystem.play Invocation.next Sample.meanwhile s
    Executes 0 (s', Sample.execution) ∧ (Sample.execution.next s').dispatches =
      [{ proposalId := 0, target := Sample.target, function := "set_cap",
         op := .factorySetCap 1000 }] := by
  intro s s'
  have ordered : ClockedSystem.Ordered (fun invocation => invocation.env.timestamp)
      Sample.approved 0 := ⟨by decide, by decide, by decide, by decide, trivial⟩
  have ordered' : ClockedSystem.Ordered (fun invocation => invocation.env.timestamp)
      Sample.meanwhile 2 := ⟨by decide, by decide, by decide, trivial⟩
  have continued : system.Continues (fun _ _ => True) 2 s 5 s' :=
    ClockedSystem.continues_play ordered' .here
  have agreed : s.threshold = some 2 := rfl
  have opened : (s.proposals 0).map (fun proposal =>
      (proposal.createdAt, proposal.target, proposal.calldata)) =
        some (0, Sample.target, Sample.setCap) := by
    decide +kernel
  have undecided : (s'.proposals 0).map (fun proposal => (proposal.executed, proposal.cancelled)) =
      some (false, false) := by
    decide +kernel
  have quiet : s'.dispatches = [] := by decide +kernel
  rcases Option.map_eq_some_iff.mp opened with ⟨proposal, stored, opened⟩
  rw [Prod.mk.injEq, Prod.mk.injEq] at opened
  have decoded : Sample.execution.env.fromXdr proposal.calldata = .value (.factorySetCap 1000) := by
    rw [opened.2.2]
    decide
  rcases council_decides (Sample.recorded ordered) agreed (by decide) le_rfl
    (fun _ => Sample.votes) continued (by decide : 5 ≤ Sample.execution.env.timestamp) rfl
    (by decide) stored decoded (by decide) (by rw [opened.1]; decide) (by rw [opened.1]; decide)
    with ⟨found, stored', flags | ⟨decided, _⟩⟩
  · rw [stored', Option.map_some, Option.some.injEq, Prod.mk.injEq] at undecided
    rw [undecided.1, undecided.2] at flags
    simp at flags
  · have decision := decided fun _ _ => rfl
    rw [opened.2.1, quiet] at decision
    exact decision

end Wallie.Governance
