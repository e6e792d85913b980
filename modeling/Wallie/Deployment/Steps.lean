import Wallie.Deployment.System
import Wallie.Governance.Backing

/-!
# What a transaction does

A transaction that succeeds runs one contract, and with it at most one of the
others. `Step` lists the combinations; the contracts that a constructor does not
mention are left alone.
-/

namespace Wallie.Deployment

open Fallible
open StreamContract (Address CreateStreamParams)
open Governance (Dispatch Proposal QuorumInfo)

variable {contracts : Contracts} {tx : Transaction contracts} {auth : Address → Bool}
  {s s' : State}

namespace Transaction

/-- A call is authorised by its caller and by who signs the calls made from there. -/
theorem calledBy_eq_false (tx : Transaction contracts) {caller address : Address}
    (other : address ≠ caller) (unsigned : tx.nestedAuth address = false) :
    tx.calledBy caller address = false := by
  simp [calledBy, other, unsigned]

theorem not_calledBy_stream (tx : Transaction contracts) {caller : Address}
    (other : caller ≠ contracts.stream) : tx.calledBy caller contracts.stream = false :=
  tx.calledBy_eq_false other.symm (tx.unsigned contracts.stream (Or.inr (Or.inr rfl))).2

theorem not_calledBy_governance (tx : Transaction contracts) {caller : Address}
    (other : contracts.governance ≠ caller) : tx.calledBy caller contracts.governance = false :=
  tx.calledBy_eq_false other (tx.unsigned contracts.governance (Or.inl rfl)).2

end Transaction

namespace State

theorem callStream_eq_some {call : StreamContract.Call} :
    callStream tx auth call s = some s' ↔
      ∃ stream, Runs call.run (tx.streamEnv auth) s.stream () stream ∧
        s' = { s with stream } := by
  simp only [callStream, Runs]
  cases call.run (tx.streamEnv auth) s.stream with
  | error failure => simp
  | ok pair =>
      rcases pair with ⟨_, stream⟩
      simp [eq_comm]

end State

/-- What a call of the factory does to the factory and to the stream contract. -/
inductive FactoryStep (tx : Transaction contracts) (auth : Address → Bool) (s : State)
    (call : Factory.Call) : State → Prop where
  | alone {factory : Factory.State}
      (run : Runs call.run (s.factoryEnv tx auth) s.factory () factory)
      (unasked : ∀ request, call.request = some request →
        s.factory.streamContract ≠ some contracts.stream) :
      FactoryStep tx auth s call { s with factory }
  | creates {factory : Factory.State} {stream : StreamContract.State}
      {request : StreamContract.Call}
      (run : Runs call.run (s.factoryEnv tx auth) s.factory () factory)
      (asked : call.request = some request)
      (here : s.factory.streamContract = some contracts.stream)
      (granted : Runs request.run (tx.streamEnv (tx.calledBy contracts.factory)) s.stream ()
        stream) :
      FactoryStep tx auth s call { s with factory, stream }

theorem factoryStep_of_callFactory {call : Factory.Call}
    (ran : State.callFactory tx auth call s = some s') : FactoryStep tx auth s call s' := by
  unfold State.callFactory at ran
  cases run : call.run (s.factoryEnv tx auth) s.factory with
  | error failure =>
      rw [run] at ran
      cases ran
  | ok pair =>
      rcases pair with ⟨_, factory⟩
      simp only [run] at ran
      cases asked : call.request with
      | none =>
          simp only [asked, Option.some.injEq] at ran
          rw [← ran]
          refine .alone run fun request asked' => ?_
          rw [asked] at asked'
          cases asked'
      | some request =>
          simp only [asked] at ran
          split at ran
          · next here =>
              rcases State.callStream_eq_some.mp ran with ⟨stream, granted, rfl⟩
              exact .creates run asked here granted
          · next elsewhere =>
              rw [Option.some.injEq] at ran
              rw [← ran]
              exact .alone run fun _ _ => elsewhere

/-- What a successful transaction does. -/
inductive Step (tx : Transaction contracts) (s : State) : Call → State → Prop where
  | stream {call : StreamContract.Call} {stream : StreamContract.State}
      (run : Runs call.run (tx.streamEnv tx.auth) s.stream () stream) :
      Step tx s (.stream call) { s with stream }
  | factory {call : Factory.Call} {after : State} (did : FactoryStep tx tx.auth s call after) :
      Step tx s (.factory call) after
  | governance {call : Governance.Call} {governance : Governance.State}
      (run : Runs call.run (s.governanceEnv tx) s.governance () governance)
      (elsewhere : governance.dispatches = s.governance.dispatches ∨
        ∃ dispatch : Dispatch, ¬ contracts.Has dispatch.target ∧
          governance.dispatches = s.governance.dispatches ++ [dispatch]) :
      Step tx s (.governance call) { s with governance }
  | onStream {executor : Address} {governance : Governance.State} {dispatch : Dispatch}
      {proposal : Proposal} {info : QuorumInfo} {change : StreamContract.Call}
      {stream : StreamContract.State}
      (run : Runs (Governance.Call.execute executor dispatch.proposalId).run (s.governanceEnv tx)
        s.governance () governance)
      (cleared : dispatch.Cleared (s.governanceEnv tx) s.governance proposal info)
      (dispatched : governance.dispatches = s.governance.dispatches ++ [dispatch])
      (target : dispatch.target = contracts.stream)
      (asked : dispatch.op.streamCall = some change)
      (changed : Runs change.run (tx.streamEnv (tx.calledBy contracts.governance)) s.stream ()
        stream) :
      Step tx s (.governance (.execute executor dispatch.proposalId)) { s with governance, stream }
  | onFactory {executor : Address} {governance : Governance.State} {dispatch : Dispatch}
      {proposal : Proposal} {info : QuorumInfo} {change : Factory.Call} {factory : Factory.State}
      (run : Runs (Governance.Call.execute executor dispatch.proposalId).run (s.governanceEnv tx)
        s.governance () governance)
      (cleared : dispatch.Cleared (s.governanceEnv tx) s.governance proposal info)
      (dispatched : governance.dispatches = s.governance.dispatches ++ [dispatch])
      (target : dispatch.target = contracts.factory)
      (asked : dispatch.op.factoryCall = some change)
      (changed : Runs change.run (s.factoryEnv tx (tx.calledBy contracts.governance)) s.factory ()
        factory) :
      Step tx s (.governance (.execute executor dispatch.proposalId))
        { s with governance, factory }

/-- No change of the factory's parameters creates a stream. -/
theorem request_of_factoryCall {op : Governance.CallData} {change : Factory.Call}
    (asked : op.factoryCall = some change) : change.request = none := by
  cases op with
  | noop | streamSetMaxRate _ => cases asked
  | streamSetAdmin _ | factorySetAdmin _ | factorySetCap _ | factorySetMinDuration _
  | factorySetAllowlist _ _ | factorySetStreamContract _ =>
      cases asked
      rfl

theorem step_of_dispatch {executor : Address} {governance : Governance.State} {dispatch : Dispatch}
    {proposal : Proposal} {info : QuorumInfo}
    (run : Runs (Governance.Call.execute executor dispatch.proposalId).run (s.governanceEnv tx)
      s.governance () governance)
    (cleared : dispatch.Cleared (s.governanceEnv tx) s.governance proposal info)
    (dispatched : governance.dispatches = s.governance.dispatches ++ [dispatch])
    (ran : State.dispatch tx { s with governance } dispatch = some s') :
    Step tx s (.governance (.execute executor dispatch.proposalId)) s' := by
  unfold State.dispatch at ran
  split at ran
  · next target =>
      rcases Option.bind_eq_some_iff.mp ran with ⟨change, asked, ran⟩
      rcases State.callStream_eq_some.mp ran with ⟨stream, changed, rfl⟩
      exact .onStream run cleared dispatched target asked changed
  · next notStream =>
      split at ran
      · next target =>
          rcases Option.bind_eq_some_iff.mp ran with ⟨change, asked, ran⟩
          have step := factoryStep_of_callFactory ran
          cases step with
          | alone changed _ => exact .onFactory run cleared dispatched target asked changed
          | creates _ asked' _ _ =>
              rw [request_of_factoryCall asked] at asked'
              cases asked'
      · next notFactory =>
          split at ran
          · cases ran
          · next notGovernance =>
              split at ran
              · cases ran
              · rw [Option.some.injEq] at ran
                rw [← ran]
                refine .governance run (Or.inr ⟨dispatch, ?_, dispatched⟩)
                rintro (same | same | same)
                · exact notGovernance same
                · exact notFactory same
                · exact notStream same

theorem step_of_callGovernance {call : Governance.Call}
    (ran : State.callGovernance tx call s = some s') : Step tx s (.governance call) s' := by
  unfold State.callGovernance at ran
  cases run : call.run (s.governanceEnv tx) s.governance with
  | error failure =>
      rw [run] at ran
      cases ran
  | ok pair =>
      rcases pair with ⟨_, governance⟩
      simp only [run] at ran
      have run : Runs call.run (s.governanceEnv tx) s.governance () governance := run
      rcases call.dispatched run with same | ⟨_, _, _, dispatch, rfl, cleared, _, _, added⟩
      · rw [same, List.drop_length] at ran
        cases ran
        exact .governance run (Or.inl same)
      · rw [added, List.drop_left] at ran
        rcases Option.bind_eq_some_iff.mp ran with ⟨after, ran, rest⟩
        cases rest
        exact step_of_dispatch run cleared added ran

/-- A successful transaction takes one of the steps listed. -/
theorem Call.step {call : Call} (ran : call.perform tx s = some s') : Step tx s call s' := by
  cases call with
  | governance call => exact step_of_callGovernance ran
  | factory call => exact .factory (factoryStep_of_callFactory ran)
  | stream call =>
      rcases State.callStream_eq_some.mp ran with ⟨stream, run, rfl⟩
      exact .stream run

/-- A transaction takes one of the steps listed, or it fails and changes nothing. -/
theorem Invocation.next_cases (invocation : Invocation contracts) (s : State) :
    Step invocation.tx s invocation.call (invocation.next s) ∨
      invocation.call.perform invocation.tx s = none ∧ invocation.next s = s := by
  unfold Invocation.next
  cases ran : invocation.call.perform invocation.tx s with
  | none => exact Or.inr ⟨rfl, rfl⟩
  | some after => exact Or.inl (invocation.call.step ran)

end Wallie.Deployment
