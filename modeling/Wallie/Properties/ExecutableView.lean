import Wallie.Governance.Runs

/-!
# The view of executable proposals

The view repeats the checks of an execution one by one, except that it does not
decode the call. So it predicts the execution of every proposal but one whose
call is all that is wrong with it.
-/

namespace Wallie.Governance

open Fallible
open StreamContract (Address Bytes u64)

variable {env : Env} {s s' : State} {executor : Address} {id : ℕ} {proposal : Proposal}
  {info : QuorumInfo} {failure : Failure}

/-- The view says yes exactly when the execution succeeds, and it fails exactly when the execution
fails the same way on a missing proposal or a deadline beyond the clock. -/
def ViewPredictsExecution (env : Env) (s : State) (executor : Address) (id : ℕ) : Prop :=
  ((∃ viewed, Runs (isExecutable id) env s true viewed) ↔
      ∃ s', Runs (execute executor id) env s () s') ∧
    ∀ failure, Fails (isExecutable id) env s failure ↔
      (failure = .error .proposalNotFound ∨ failure = .error .arithmeticOverflow) ∧
        Fails (execute executor id) env s failure

/-- The proposal is open, its quorum was reached and its timelock has run out. -/
structure Passes (env : Env) (s : State) (id : ℕ) (proposal : Proposal) (info : QuorumInfo) :
    Prop where
  stored : s.proposals id = some proposal
  dated : ((proposal.createdAt + maxProposalAgeSeconds : ℕ) : ℤ) ≤ u64.upper
  unfinished : proposal.Open env.timestamp
  reached : s.quorumReachedAt id = some info
  approved : info.threshold ≤ proposal.approvals.length
  clocked : ((info.reachedAt + governanceTimelockSeconds : ℕ) : ℤ) ≤ u64.upper
  elapsed : info.reachedAt + governanceTimelockSeconds ≤ env.timestamp

/-- A check of the proposal meets a deadline that the clock cannot show. -/
def Undatable (env : Env) (s : State) (id : ℕ) : Prop :=
  ∃ proposal, s.proposals id = some proposal ∧ proposal.cancelled = false ∧
    proposal.executed = false ∧
    (u64.upper < (proposal.createdAt + maxProposalAgeSeconds : ℕ) ∨
      ((proposal.createdAt + maxProposalAgeSeconds : ℕ) : ℤ) ≤ u64.upper ∧
        env.timestamp ≤ proposal.createdAt + maxProposalAgeSeconds ∧
        ∃ info, s.quorumReachedAt id = some info ∧
          info.threshold ≤ proposal.approvals.length ∧
          u64.upper < (info.reachedAt + governanceTimelockSeconds : ℕ))

theorem fails_checkedDeadline {start seconds : ℕ} :
    Fails (checkedDeadline start seconds) env s failure ↔
      u64.upper < (start + seconds : ℕ) ∧ failure = .error .arithmeticOverflow := by
  simp only [checkedDeadline, fails_bind, fails_rejectIf, not_fails_pure, and_false, exists_false,
    or_false]

theorem fails_loadProposal :
    Fails (loadProposal id) env s failure ↔
      s.proposals id = none ∧ failure = .error .proposalNotFound := by
  simp [loadProposal]

/-! ## The view -/

theorem runs_isExecutable :
    Runs (isExecutable id) env s true s' ↔
      (∃ proposal info, Passes env s id proposal info) ∧ s' = s := by
  simp only [isExecutable, QuorumInfo.executableAfter, runs_bind, runs_loadProposal, runs_ask,
    runs_peek, runs_checkedDeadline, runs_ite, runs_pure, exists_and_left, and_assoc,
    exists_eq_left, reduceCtorEq, false_and, and_false, false_or, not_lt, Bool.not_eq_true]
  constructor
  · rintro ⟨proposal, stored, uncancelled, unexecuted, dated, young, run⟩
    cases reached : s.quorumReachedAt id with
    | none =>
        rw [reached] at run
        exact absurd (runs_pure.mp run).1 (by decide)
    | some info =>
        simp only [reached, runs_ite, runs_bind, runs_checkedDeadline, runs_pure, reduceCtorEq,
          false_and, and_false, false_or, and_assoc, exists_and_left, exists_eq_left, not_lt,
          true_and] at run
        rcases run with ⟨approved, clocked, elapsed, same⟩
        exact ⟨⟨proposal, info, stored, dated, ⟨uncancelled, unexecuted, young⟩, reached, approved,
          clocked, elapsed⟩, same⟩
  · rintro ⟨⟨proposal, info, passes⟩, rfl⟩
    refine ⟨proposal, passes.stored, passes.unfinished.uncancelled, passes.unfinished.unexecuted,
      passes.dated, passes.unfinished.young, ?_⟩
    simp only [passes.reached, runs_ite, runs_bind, runs_checkedDeadline, runs_pure, reduceCtorEq,
      false_and, and_false, false_or, and_assoc, exists_and_left, exists_eq_left, not_lt,
      true_and]
    exact ⟨passes.approved, passes.clocked, passes.elapsed, trivial⟩

theorem fails_isExecutable :
    Fails (isExecutable id) env s failure ↔
      s.proposals id = none ∧ failure = .error .proposalNotFound ∨
        Undatable env s id ∧ failure = .error .arithmeticOverflow := by
  simp only [isExecutable, QuorumInfo.executableAfter, fails_bind, fails_loadProposal,
    runs_loadProposal, runs_ask, runs_peek, runs_checkedDeadline, fails_ite, not_fails_pure,
    not_fails_ask, not_fails_peek, fails_checkedDeadline, exists_and_left, and_assoc,
    exists_eq_left, and_false, false_or, not_lt, Bool.not_eq_true]
  refine or_congr_right ?_
  simp only [Undatable, ← exists_and_right, and_assoc]
  refine exists_congr fun proposal => and_congr_right fun _ => and_congr_right fun _ =>
    and_congr_right fun _ => ?_
  rw [or_and_right]
  refine or_congr_right ?_
  simp only [and_assoc]
  refine and_congr_right fun _ => and_congr_right fun _ => ?_
  cases reached : s.quorumReachedAt id with
  | none => simp
  | some info =>
      simp only [fails_ite, fails_bind, not_fails_pure, fails_checkedDeadline,
        runs_checkedDeadline, Option.some.injEq, exists_eq_left', and_false, false_or,
        exists_false, or_false, not_lt, and_assoc]

/-! ## The execution -/

/-- A call that can be decoded is made if the target does not refuse it. -/
theorem runs_dispatchCall_decoded {target : Address} {calldata : Bytes} {op : CallData}
    (decoded : env.fromXdr calldata = .value op) :
    Runs (dispatchCall id target calldata) env s () s' ↔
      (∀ dispatch ∈ op.dispatches id target, env.rejects s dispatch = false) ∧
        s' = { s with dispatches := s.dispatches ++ op.dispatches id target } := by
  simp only [dispatchCall, decoded, runs_bind, runs_ask, and_assoc, exists_and_left,
    exists_eq_left]
  cases called : op.function with
  | none => simp [CallData.dispatches, called]
  | some function => simp [CallData.dispatches, called, invokeContract]

/-- A call that is not made is rejected as a whole, or the transaction is aborted. -/
theorem fails_dispatchCall {target : Address} {calldata : Bytes}
    (fails : Fails (dispatchCall id target calldata) env s failure) :
    failure = .error .invalidCalldata ∨ failure = .trap := by
  simp only [dispatchCall, fails_bind, runs_ask, not_fails_ask, and_assoc, exists_and_left,
    exists_eq_left, false_or] at fails
  cases decoded : env.fromXdr calldata with
  | malformed =>
      rw [decoded] at fails
      exact Or.inr (fails_reject.mp fails)
  | mismatched =>
      rw [decoded] at fails
      exact Or.inl (fails_reject.mp fails)
  | value op =>
      rw [decoded] at fails
      cases called : op.function with
      | none =>
          simp only [called] at fails
          exact absurd fails not_fails_pure
      | some function =>
          simp only [called, invokeContract, fails_bind, not_fails_peek, not_fails_ask,
            not_fails_update, fails_rejectIf, runs_peek, runs_ask, and_assoc, exists_and_left,
            exists_eq_left, and_false, exists_false, or_false, false_or] at fails
          exact Or.inr fails.2

/-- The contract when an execution makes its call, with the proposal marked. -/
def State.marked (s : State) (id : ℕ) (proposal : Proposal) : State :=
  { s with proposals := Function.update s.proposals id (some { proposal with executed := true }) }

/-- The contract after the execution of a proposal. -/
def State.executedBy (s : State) (executor : Address) (id : ℕ) (proposal : Proposal)
    (op : CallData) : State :=
  { s.marked id proposal with
    dispatches := s.dispatches ++ op.dispatches id proposal.target
    events := s.events ++ [.executed id executor proposal.target proposal.calldata] }

/-- The execution of a proposal that passes the checks succeeds exactly if its target does not
refuse the call. -/
theorem runs_execute_passing {op : CallData} (signed : env.auth executor = true)
    (passes : Passes env s id proposal info)
    (decoded : env.fromXdr proposal.calldata = .value op) :
    Runs (execute executor id) env s () s' ↔
      (∀ dispatch ∈ op.dispatches id proposal.target,
        env.rejects (s.marked id proposal) dispatch = false) ∧
        s' = s.executedBy executor id proposal op := by
  simp only [execute, QuorumInfo.executableAfter, saveProposal, runs_bind, runs_requireAuth,
    runs_loadProposal, runs_requireOpen, runs_peek, runs_getOrReject, runs_rejectIf,
    runs_checkedDeadline, runs_update, runs_ask, runs_publish,
    runs_dispatchCall_decoded decoded, exists_and_left, and_assoc, exists_eq_left,
    exists_const, not_lt, passes.stored, passes.reached, Option.some.injEq, exists_eq_left', signed,
    passes.dated, passes.unfinished, passes.approved, passes.clocked, passes.elapsed, true_and]
  exact Iff.rfl

theorem runs_execute_iff (authorised : env.auth executor = true)
    (accepts : ∀ s dispatch, env.rejects s dispatch = false) :
    (∃ s', Runs (execute executor id) env s () s') ↔
      ∃ proposal info, Passes env s id proposal info ∧
        ∃ op, env.fromXdr proposal.calldata = .value op := by
  constructor
  · rintro ⟨s', run⟩
    simp only [execute, QuorumInfo.executableAfter, saveProposal, runs_bind, runs_requireAuth,
      runs_rejectIf, runs_peek, runs_getOrReject, runs_update, runs_ask, runs_publish,
      runs_loadProposal, runs_requireOpen, runs_checkedDeadline, exists_and_left, and_assoc,
      exists_eq_left, exists_const, not_lt] at run
    rcases run with ⟨_, proposal, stored, dated, unfinished, info, reached, approved, clocked,
      elapsed, _, middle, dispatched, _⟩
    rcases dispatches_of_dispatchCall dispatched with ⟨op, decoded, _⟩
    exact ⟨proposal, info, ⟨stored, dated, unfinished, reached, approved, clocked, elapsed⟩,
      op, decoded⟩
  · rintro ⟨proposal, info, passes, op, decoded⟩
    exact ⟨_, (runs_execute_passing authorised passes decoded).mpr
      ⟨fun dispatch _ => accepts _ dispatch, rfl⟩⟩

theorem fails_requireOpen :
    Fails (requireOpen proposal) env s failure ↔
      proposal.cancelled = true ∧ failure = .error .proposalCancelled ∨
        proposal.cancelled = false ∧ (proposal.executed = true ∧ failure = .error .alreadyExecuted ∨
          proposal.executed = false ∧
            (u64.upper < (proposal.createdAt + maxProposalAgeSeconds : ℕ) ∧
                failure = .error .arithmeticOverflow ∨
              ((proposal.createdAt + maxProposalAgeSeconds : ℕ) : ℤ) ≤ u64.upper ∧
                proposal.createdAt + maxProposalAgeSeconds < env.timestamp ∧
                failure = .error .proposalExpired)) := by
  simp only [requireOpen, fails_bind, fails_rejectIf, runs_rejectIf, runs_ask, not_fails_ask,
    fails_checkedDeadline, runs_checkedDeadline, exists_and_left, exists_const, and_assoc,
    exists_eq_left, false_or, Bool.not_eq_true]

/-- An execution that meets a missing proposal or an undatable deadline fails because of it. -/
theorem fails_execute_iff (authorised : env.auth executor = true)
    (either : failure = .error .proposalNotFound ∨ failure = .error .arithmeticOverflow) :
    Fails (execute executor id) env s failure ↔
      s.proposals id = none ∧ failure = .error .proposalNotFound ∨
        Undatable env s id ∧ failure = .error .arithmeticOverflow := by
  have dispatched : ∀ s target calldata,
      ¬ Fails (dispatchCall id target calldata) env s failure := by
    intro s target calldata fails
    rcases either with rfl | rfl <;> rcases fails_dispatchCall fails with other | other <;>
      cases other
  simp only [execute, QuorumInfo.executableAfter, saveProposal, fails_bind, fails_loadProposal,
    fails_requireOpen, fails_rejectIf, fails_getOrReject, fails_checkedDeadline, requireAuth,
    publish, runs_bind, runs_rejectIf, runs_peek, runs_getOrReject, runs_update, runs_ask,
    not_fails_ask, not_fails_peek, not_fails_update, dispatched, runs_loadProposal,
    runs_requireOpen, runs_checkedDeadline, exists_and_left, and_assoc, exists_eq_left,
    exists_const, not_lt, authorised, reduceCtorEq, not_false_eq_true, false_and, true_and,
    false_or, and_false, exists_false, or_false]
  refine or_congr_right ?_
  rcases either with rfl | rfl
  · simp
  · simp only [Undatable, Failure.error.injEq, reduceCtorEq, and_false, and_true, false_or,
      or_false]
    refine exists_congr fun proposal => and_congr_right fun _ => ?_
    constructor
    · rintro (⟨uncancelled, unexecuted, beyond⟩ | ⟨dated, unfinished, later⟩)
      · exact ⟨uncancelled, unexecuted, Or.inl beyond⟩
      · exact ⟨unfinished.uncancelled, unfinished.unexecuted,
          Or.inr ⟨dated, unfinished.young, later⟩⟩
    · rintro ⟨uncancelled, unexecuted, beyond | ⟨dated, young, later⟩⟩
      · exact Or.inl ⟨uncancelled, unexecuted, beyond⟩
      · exact Or.inr ⟨dated, ⟨uncancelled, unexecuted, young⟩, later⟩

/-! ## The two together -/

/-- When the executor authorises the call and every target accepts it, the view predicts the
execution of a proposal exactly if its call can be decoded or one of the checks holds it back. -/
theorem view_predicts_execution_iff (authorised : env.auth executor = true)
    (accepts : ∀ s dispatch, env.rejects s dispatch = false) :
    ViewPredictsExecution env s executor id ↔
      ∀ proposal info, Passes env s id proposal info →
        ∃ op, env.fromXdr proposal.calldata = .value op := by
  have errors : ∀ failure, Fails (isExecutable id) env s failure ↔
      (failure = .error .proposalNotFound ∨ failure = .error .arithmeticOverflow) ∧
        Fails (execute executor id) env s failure := by
    intro failure
    rw [fails_isExecutable]
    constructor
    · intro fails
      have either := fails.imp And.right And.right
      exact ⟨either, (fails_execute_iff authorised either).mpr fails⟩
    · rintro ⟨either, fails⟩
      exact (fails_execute_iff authorised either).mp fails
  have viewed : (∃ viewed, Runs (isExecutable id) env s true viewed) ↔
      ∃ proposal info, Passes env s id proposal info := by
    simp only [runs_isExecutable, exists_and_left, exists_eq, and_true]
  rw [ViewPredictsExecution, and_iff_left errors, viewed, runs_execute_iff authorised accepts]
  constructor
  · rintro predicts proposal info passes
    rcases predicts.mp ⟨proposal, info, passes⟩ with ⟨proposal', info', passes', decoded⟩
    obtain rfl : proposal' = proposal := Option.some.inj (passes'.stored.symm.trans passes.stored)
    exact decoded
  · intro decodes
    constructor
    · rintro ⟨proposal, info, passes⟩
      exact ⟨proposal, info, passes, decodes proposal info passes⟩
    · rintro ⟨proposal, info, passes, _⟩
      exact ⟨proposal, info, passes⟩

/-- The view says yes when the timelock has run out. -/
theorem view_predicts_execution_iff_ripe :
    let s := ClockedSystem.play Invocation.next Sample.approved .deployed
    (∃ viewed, Runs (isExecutable 0) (Sample.env 9 172802) s true viewed) ∧
      ViewPredictsExecution (Sample.env 9 172802) s (.account 9) 0 := by
  intro s
  have view : ∃ viewed, Runs (isExecutable 0) (Sample.env 9 172802) s true viewed :=
    exists_runs_of_toOption (by decide +kernel)
  have shown : (s.proposals 0).map Proposal.calldata = some Sample.setCap := by decide +kernel
  refine ⟨view, (view_predicts_execution_iff (by decide) fun _ _ => rfl).mpr ?_⟩
  intro proposal info passes
  rw [passes.stored, Option.map_some, Option.some.injEq] at shown
  rw [shown]
  exact ⟨.factorySetCap 1000, by decide⟩

/-- A proposal whose data are the value of another type is approved. -/
def Sample.undecodable : List Invocation :=
  Sample.proposing Sample.fortyTwo ++ Sample.approving

/-- Then the view still says yes, and the execution is rejected. -/
theorem not_always_view_predicts_execution :
    ¬ ∀ env s executor id, Reachable env.timestamp s → env.auth executor = true →
      (∀ s dispatch, env.rejects s dispatch = false) → ViewPredictsExecution env s executor id := by
  intro always
  have ordered : ClockedSystem.Ordered (fun invocation : Invocation => invocation.env.timestamp)
      Sample.undecodable 0 :=
    ⟨by decide, by decide, by decide, by decide, trivial⟩
  let s := ClockedSystem.play Invocation.next Sample.undecodable .deployed
  have reached : Reachable 172802 s := .tick (Sample.recorded ordered).reachable (by decide)
  let env : Env := Sample.env 9 172802
  have predicts := always env s (.account 9) 0 reached (by decide) fun _ _ => rfl
  have view : ∃ viewed, Runs (isExecutable 0) env s true viewed :=
    exists_runs_of_toOption (by decide +kernel)
  have shown : (s.proposals 0).map Proposal.calldata = some Sample.fortyTwo := by decide +kernel
  have mismatched : Sample.fromXdr Sample.fortyTwo = .mismatched := by decide
  rcases (runs_execute_iff (by decide) fun _ _ => rfl).mp (predicts.1.mp view) with
    ⟨proposal, _, passes, op, decoded⟩
  rw [passes.stored, Option.map_some, Option.some.injEq] at shown
  rw [shown] at decoded
  cases mismatched.symm.trans decoded

end Wallie.Governance
