import Wallie.Deployment.Steps
import Wallie.Lib.Simulation

/-!
# The deployment contract by contract

Whatever happens among the three contracts, each of them sees a run of its own.
So what is known of the runs of one contract holds of it in the deployment.
-/

namespace Wallie.Deployment

open Fallible
open StreamContract (Address)

variable {contracts : Contracts} {tx : Transaction contracts} {s s' : State}

/-- A well-typed change of a parameter is a well-typed call of the stream contract. -/
theorem wellTyped_of_streamCall {op : Governance.CallData} {change : StreamContract.Call}
    (asked : op.streamCall = some change) (fits : op.WellTyped) : change.WellTyped := by
  cases op with
  | noop | factorySetCap _ | factorySetMinDuration _ | factorySetAllowlist _ _
  | factorySetStreamContract _ => cases asked
  | streamSetAdmin _ | factorySetAdmin _ =>
      cases asked
      trivial
  | streamSetMaxRate _ =>
      cases asked
      exact fits

theorem wellTyped_of_request {call : Factory.Call} {request : StreamContract.Call}
    (asked : call.request = some request) (fits : call.WellTyped) : request.WellTyped := by
  cases call with
  | init _ _ _ _ | setAdmin _ | setStreamContract _ | setAllowlist _ _ | setCap _
  | setMinDuration _ | setBatchCapEnforcement _ | setRateBounds _ _ | setFactoryPaused _ =>
      cases asked
  | createStream _ _ =>
      cases asked
      exact fits.1
  | createStreams _ _ =>
      simp only [Factory.Call.request, Option.ite_none_left_eq_some, Option.some.injEq] at asked
      rw [← asked.2]
      exact fits

/-! ## Invocations of the parts -/

/-- An invocation of the stream contract in a transaction. -/
def streamInvocation (tx : Transaction contracts) (auth : Address → Bool)
    (unsigned : auth contracts.stream = false) (call : StreamContract.Call)
    (wellTyped : call.WellTyped) : StreamContract.Invocation contracts.stream where
  env := tx.streamEnv auth
  call
  here := rfl
  noSelfAuth := unsigned
  timestamp := tx.timestamp_fits
  sequence := tx.sequence_fits
  wellTyped


/-- The invocation of the stream contract that a step makes, if it makes one. -/
inductive StreamStep (tx : Transaction contracts) (s : State) :
    Call → StreamContract.Invocation contracts.stream → Prop where
  | direct {call : StreamContract.Call} {invocation : StreamContract.Invocation contracts.stream}
      (called : invocation.call = call) (env : invocation.env = tx.streamEnv tx.auth) :
      StreamStep tx s (.stream call) invocation
  | request {call : Factory.Call} {invocation : StreamContract.Invocation contracts.stream}
      (asked : call.request = some invocation.call)
      (env : invocation.env = tx.streamEnv (tx.calledBy contracts.factory)) :
      StreamStep tx s (.factory call) invocation
  | change {executor : Address} {dispatch : Governance.Dispatch} {proposal : Governance.Proposal}
      {info : Governance.QuorumInfo} {invocation : StreamContract.Invocation contracts.stream}
      (cleared : dispatch.Cleared (s.governanceEnv tx) s.governance proposal info)
      (target : dispatch.target = contracts.stream)
      (asked : dispatch.op.streamCall = some invocation.call)
      (env : invocation.env = tx.streamEnv (tx.calledBy contracts.governance)) :
      StreamStep tx s (.governance (.execute executor dispatch.proposalId)) invocation

/-- What a step does to the stream contract is an invocation of it. -/
theorem Step.stream_cases {call : Call} (step : Step tx s call s') (wellTyped : call.WellTyped) :
    s'.stream = s.stream ∨
      ∃ invocation, StreamStep tx s call invocation ∧
        Runs invocation.call.run invocation.env s.stream () s'.stream := by
  cases step with
  | @stream call stream run =>
      have unsigned := (tx.unsigned contracts.stream (Or.inr (Or.inr rfl))).1
      exact Or.inr ⟨streamInvocation tx tx.auth unsigned call wellTyped, .direct rfl rfl, run⟩
  | factory did =>
      cases did with
      | alone _ _ => exact Or.inl rfl
      | creates _ asked _ granted =>
          have unsigned := tx.not_calledBy_stream contracts.factory_ne_stream
          exact Or.inr ⟨streamInvocation tx _ unsigned _ (wellTyped_of_request asked wellTyped),
            .request asked rfl, granted⟩
  | governance _ _ | onFactory _ _ _ _ _ _ => exact Or.inl rfl
  | onStream _ cleared _ target asked changed =>
      have unsigned := tx.not_calledBy_stream contracts.governance_ne_stream
      have fits := tx.decodes _ _ cleared.decoded
      exact Or.inr ⟨streamInvocation tx _ unsigned _ (wellTyped_of_streamCall asked fits),
        .change cleared target asked rfl, changed⟩

/-- What a step does to the factory is an invocation of it. -/
theorem Step.factory_cases {call : Call} (step : Step tx s call s') :
    s'.factory = s.factory ∨
      ∃ (auth : Address → Bool) (change : Factory.Call),
        Runs change.run (s.factoryEnv tx auth) s.factory () s'.factory := by
  cases step with
  | stream _ | governance _ _ | onStream _ _ _ _ _ _ => exact Or.inl rfl
  | factory did =>
      cases did with
      | alone run _ | creates run _ _ _ => exact Or.inr ⟨_, _, run⟩
  | onFactory _ _ _ _ _ changed => exact Or.inr ⟨_, _, changed⟩

/-- What a step does to the governance contract is the call of the transaction. -/
theorem Step.governance_cases {call : Call} (step : Step tx s call s') :
    s'.governance = s.governance ∨
      ∃ change, call = .governance change ∧
        Runs change.run (s.governanceEnv tx) s.governance () s'.governance := by
  cases step with
  | stream _ => exact Or.inl rfl
  | factory did =>
      cases did with
      | alone _ _ | creates _ _ _ _ => exact Or.inl rfl
  | governance run _ => exact Or.inr ⟨_, rfl, run⟩
  | onStream run _ _ _ _ _ => exact Or.inr ⟨_, rfl, run⟩
  | onFactory run _ _ _ _ _ => exact Or.inr ⟨_, rfl, run⟩

/-! ## The parts -/

section Parts

open ClockedSystem

/-- The governance contract in the deployment. -/
def governancePart (contracts : Contracts) :
    Part (system contracts) Governance.system (fun _ _ => True) fun _ _ => True where
  view := State.governance
  time := id
  monotone := monotone_id
  initial := fun _ _ isInitial => isInitial.governance
  step := by
    rintro s (invocation | activity) s' _ stepped
    · change s' = invocation.next s at stepped
      rw [stepped]
      rcases invocation.next_cases s with step | ⟨_, failed⟩
      · rcases step.governance_cases with same | ⟨change, called, run⟩
        · exact Or.inl same
        · have wellTyped := invocation.wellTyped
          rw [called] at wellTyped
          refine Or.inr ⟨⟨s.governanceEnv invocation.tx, change, invocation.tx.timestamp_fits,
            wellTyped⟩, rfl, trivial, ?_⟩
          exact (commit_of_runs run).symm
      · rw [failed]
        exact Or.inl rfl
    · rw [stepped.2]
      exact Or.inl rfl

/-- The factory in the deployment. -/
def factoryPart (contracts : Contracts) :
    Part (system contracts) Factory.system (fun _ _ => True) fun _ _ => True where
  view := State.factory
  time := fun _ => 0
  monotone := monotone_const
  initial := by
    rintro instant s isInitial
    rcases isInitial.factory with ⟨past, recorded⟩
    exact Recorded.reachable recorded
  step := by
    rintro s (invocation | activity) s' _ stepped
    · change s' = invocation.next s at stepped
      rw [stepped]
      rcases invocation.next_cases s with step | ⟨_, failed⟩
      · rcases step.factory_cases with same | ⟨auth, change, run⟩
        · exact Or.inl same
        · refine Or.inr ⟨⟨s.factoryEnv invocation.tx auth, change⟩, rfl, trivial, ?_⟩
          exact (commit_of_runs run).symm
      · rw [failed]
        exact Or.inl rfl
    · rw [stepped.2]
      exact Or.inl rfl

/-- The stream contract in the deployment. -/
def streamPart (contracts : Contracts) :
    Part (system contracts) (StreamContract.system contracts.stream) (fun _ _ => True)
      (StreamContract.onCalls StreamContract.anyCall) where
  view := State.stream
  time := id
  monotone := monotone_id
  initial := fun _ _ isInitial => .start isInitial.stream
  step := by
    rintro s (invocation | activity) s' _ stepped
    · change s' = invocation.next s at stepped
      rw [stepped]
      rcases invocation.next_cases s with step | ⟨_, failed⟩
      · rcases step.stream_cases invocation.wellTyped with same | ⟨made, asked, run⟩
        · exact Or.inl same
        · refine Or.inr ⟨.invoke made, ?_, trivial, (commit_of_runs run).symm⟩
          change made.env.timestamp = invocation.tx.timestamp
          generalize invocation.call = call at asked
          cases asked with
          | direct _ env | request _ env | change _ _ _ env => rw [env]; rfl
      · rw [failed]
        exact Or.inl rfl
    · refine Or.inr ⟨.token activity, rfl, trivial, stepped.1, ?_⟩
      rw [stepped.2]

end Parts

end Wallie.Deployment
