import Wallie.Deployment.Custody
import Wallie.Deployment.Script
import Wallie.Factory.Queries
import Wallie.Properties.ExecutableView

/-!
# Executed proposals take effect

The execution of a proposal and the call that it makes are one transaction:
either both happen or neither does, and then the proposal can be executed later.
Where governance is the admin of the target, a change within the target's bounds
is never refused.
-/

namespace Wallie.Governance

open StreamContract (Address)

/-- What a target that the change is meant for accepts. -/
def CallData.InRange (version : Address → Bool) : CallData → Prop
  | streamSetMaxRate maxRate => 0 < maxRate
  | factorySetCap maxDeposit => 0 < maxDeposit
  | factorySetMinDuration minDuration => minDuration ≤ Factory.maxMinDurationSeconds
  | factorySetStreamContract newContract => version newContract = true
  | _ => True

end Wallie.Governance

namespace Wallie.StreamContract

open Fallible

variable {env : Env} {s : State}

/-- The admin is not refused a change within range. -/
theorem streamCall_succeeds {op : Governance.CallData} {change : Call} {admin : Address}
    {version : Address → Bool} (asked : op.streamCall = some change)
    (held : s.controls.admin = some admin) (signed : env.auth admin = true)
    (inRange : op.InRange version) : ∃ s', Runs change.run env s () s' := by
  rcases Option.map_eq_some_iff.mp held with ⟨config, stored, rfl⟩
  cases op with
  | noop | factorySetCap _ | factorySetMinDuration _ | factorySetAllowlist _ _
  | factorySetStreamContract _ => cases asked
  | streamSetAdmin _ | factorySetAdmin _ =>
      cases asked
      simp only [Call.run, setAdmin, runs_bind, runs_getConfig, runs_requireAuth, runs_update,
        runs_publish, stored, signed, Option.some.injEq, and_assoc, exists_and_left,
        exists_eq_left, exists_eq_left', exists_const, true_and, exists_eq]
  | streamSetMaxRate maxRate =>
      cases asked
      have positive : ¬ maxRate ≤ 0 := not_le.mpr inRange
      simp only [Call.run, setMaxRatePerSecond, getAdmin, runs_bind, runs_getConfig, runs_pure,
        runs_requireAuth, runs_rejectIf, runs_update, stored, signed, positive,
        Option.some.injEq, and_assoc, exists_and_left, exists_eq_left, exists_eq_left',
        exists_const, true_and, exists_eq, not_false_eq_true]

end Wallie.StreamContract

namespace Wallie.Factory

open Fallible
open StreamContract (Address)

variable {env : Env} {s : State} {config : FactoryConfig}

theorem factoryCall_succeeds {op : Governance.CallData} {change : Call} {admin : Address}
    (asked : op.factoryCall = some change) (configured : s.Configured config)
    (held : s.settings.admin = some admin) (signed : env.auth admin = true)
    (inRange : op.InRange env.version) : ∃ s', Runs change.run env s () s' := by
  have stored : s.admin = some admin := held
  have asks : Runs requireAdmin env s admin s := runs_requireAdmin.mpr ⟨stored, signed, rfl⟩
  rcases runs_getFactoryConfig.mp (configured.stored env) with ⟨_, streamContract, _⟩
  cases op with
  | noop | streamSetMaxRate _ => cases asked
  | streamSetAdmin _ | factorySetAdmin _ =>
      cases asked
      refine asks.andThen ?_
      simp only [runs_bind, runs_update, runs_publish, exists_const, exists_eq_left, exists_eq]
  | factorySetCap maxDeposit =>
      cases asked
      have positive : ¬ maxDeposit ≤ 0 := not_le.mpr inRange
      refine asks.andThen ?_
      simp only [validateCap, runs_bind, runs_rejectIf, runs_peek, runs_update, runs_publish,
        positive, exists_const, exists_and_left, exists_eq_left, exists_eq, and_assoc, true_and,
        not_false_eq_true]
  | factorySetMinDuration minDuration =>
      cases asked
      have bounded : ¬ maxMinDurationSeconds < minDuration := not_lt.mpr inRange
      refine asks.andThen ?_
      simp only [validateMinDuration, runs_bind, runs_rejectIf, runs_peek, runs_update,
        runs_publish, bounded, exists_const, exists_and_left, exists_eq_left, exists_eq, and_assoc,
        true_and, not_false_eq_true]
  | factorySetAllowlist _ _ =>
      cases asked
      refine asks.andThen ?_
      simp only [runs_bind, runs_update, runs_publish, exists_const, exists_eq_left, exists_eq]
  | factorySetStreamContract newContract =>
      cases asked
      have answers : env.version newContract = true := inRange
      refine asks.andThen ?_
      simp only [runs_bind, runs_validateStreamContract, runs_peek, runs_getOrReject, runs_update,
        runs_publish, answers, streamContract, Option.some.injEq, exists_const, exists_and_left,
        exists_eq_left, exists_eq_left', exists_eq, and_assoc, true_and]

end Wallie.Factory

namespace Wallie.Deployment

open Fallible
open StreamContract (Address)
open Governance (CallData Dispatch Passes Proposal QuorumInfo)

variable {contracts : Contracts} {tx : Transaction contracts} {s s' : State} {now id : ℕ}
  {executor : Address} {proposal : Proposal} {info : QuorumInfo} {op : CallData}
  {governance : Governance.State}

theorem State.callStream_with (s : State) (auth : Address → Bool) (call : StreamContract.Call) :
    State.callStream tx auth call { s with governance } =
      (s.callStream tx auth call).map fun after => { after with governance } := by
  unfold State.callStream
  cases call.run (tx.streamEnv auth) s.stream with
  | error _ => rfl
  | ok _ => rfl

theorem State.callFactory_with (s : State) (auth : Address → Bool) (call : Factory.Call) :
    State.callFactory tx auth call { s with governance } =
      (s.callFactory tx auth call).map fun after => { after with governance } := by
  have same : State.factoryEnv tx auth { s with governance } = s.factoryEnv tx auth := rfl
  unfold State.callFactory
  rw [same]
  cases call.run (s.factoryEnv tx auth) s.factory with
  | error _ => rfl
  | ok pair =>
      cases call.request with
      | none => rfl
      | some request =>
          simp only
          split
          · exact State.callStream_with { s with factory := pair.2 } _ request
          · rfl

/-- What a call does to the others does not depend on the governance contract. -/
theorem State.dispatch_with (s : State) (dispatch : Dispatch) :
    State.dispatch tx { s with governance } dispatch =
      (s.dispatch tx dispatch).map fun after => { after with governance } := by
  unfold State.dispatch
  split
  · cases dispatch.op.streamCall with
    | none => rfl
    | some call => exact s.callStream_with _ call
  · split
    · cases dispatch.op.factoryCall with
      | none => rfl
      | some call => exact s.callFactory_with _ call
    · split
      · rfl
      · split
        · rfl
        · rfl

/-- An execution that passes the checks does what the call of the proposal does and marks the
proposal, or it fails. -/
theorem perform_execute (signed : tx.auth executor = true)
    (passes : Passes (s.governanceEnv tx) s.governance id proposal info)
    (decoded : tx.fromXdr proposal.calldata = .value op) :
    Call.perform tx (.governance (.execute executor id)) s =
      ((op.dispatches id proposal.target).foldlM (State.dispatch tx) s).map fun after =>
        { after with governance := s.governance.executedBy executor id proposal op } := by
  have runs : ∀ governance, Runs (Governance.execute executor id) (s.governanceEnv tx) s.governance
      () governance ↔ _ :=
    fun _ => Governance.runs_execute_passing signed passes decoded
  change State.callGovernance tx (.execute executor id) s = _
  unfold State.callGovernance
  by_cases accepted : ∀ dispatch ∈ op.dispatches id proposal.target,
      (s.governanceEnv tx).rejects s.governance dispatch = false
  · have run : (Governance.Call.execute executor id).run (s.governanceEnv tx) s.governance =
        .ok ((), s.governance.executedBy executor id proposal op) :=
      (runs _).mpr ⟨accepted, rfl⟩
    simp only [run]
    have added : (s.governance.executedBy executor id proposal op).dispatches.drop
        s.governance.dispatches.length = op.dispatches id proposal.target :=
      List.drop_left
    rw [added, CallData.dispatches]
    cases op.function with
    | none => rfl
    | some function =>
        simp only [Option.toList_some, List.map_cons, List.map_nil, List.foldlM_cons,
          List.foldlM_nil, bind_pure, State.dispatch_with]
  · cases ran : (Governance.Call.execute executor id).run (s.governanceEnv tx) s.governance with
    | ok pair =>
        have run : Runs (Governance.execute executor id) (s.governanceEnv tx) s.governance ()
            pair.2 := ran
        exact absurd ((runs _).mp run).1 accepted
    | error failure =>
        simp only [not_forall, Bool.not_eq_false, CallData.dispatches, exists_prop] at accepted ⊢
        rcases accepted with ⟨dispatch, made, refused⟩
        have refused : s.dispatch tx dispatch = none := Option.isNone_iff_eq_none.mp refused
        cases called : op.function with
        | none =>
            rw [called] at made
            exact absurd made List.not_mem_nil
        | some function =>
            rw [called] at made
            cases List.mem_singleton.mp made
            simp only [Option.toList_some, List.map_cons, List.map_nil, List.foldlM_cons,
              List.foldlM_nil, bind_pure, refused, Option.map_none]

/-- A change of a parameter of one of the two contracts is one call. -/
theorem dispatches_of_function {function : String} (called : op.function = some function)
    (s : State) : (op.dispatches id proposal.target).foldlM (State.dispatch tx) s =
      s.dispatch tx { proposalId := id, target := proposal.target, function, op } := by
  simp only [CallData.dispatches, called, Option.toList_some, List.map_cons, List.map_nil,
    List.foldlM_cons, List.foldlM_nil, bind_pure]

theorem function_of_streamCall {change : StreamContract.Call}
    (asked : op.streamCall = some change) : ∃ function, op.function = some function := by
  cases op with
  | noop => cases asked
  | _ => exact ⟨_, rfl⟩

theorem function_of_factoryCall {change : Factory.Call} (asked : op.factoryCall = some change) :
    ∃ function, op.function = some function := by
  cases op with
  | noop => cases asked
  | _ => exact ⟨_, rfl⟩

/-- A proposal that the view calls executable can be executed by anybody, as one with the call that
it makes: the execution succeeds exactly if the call does, does what the call does and marks the
proposal, and otherwise nothing changes. It does succeed, and sets the parameter as the proposal
says, when its target is one of the other two contracts, governance is the admin there, and the
change is within range. -/
theorem executable_proposal_takes_effect (reached : Reachable contracts now s)
    (signed : tx.auth executor = true)
    (viewed : Runs (Governance.isExecutable id) (s.governanceEnv tx) s.governance true
      s.governance)
    (stored : s.governance.proposals id = some proposal)
    (decoded : tx.fromXdr proposal.calldata = .value op) :
    Call.perform tx (.governance (.execute executor id)) s =
        ((op.dispatches id proposal.target).foldlM (State.dispatch tx) s).map (fun after =>
          { after with governance := s.governance.executedBy executor id proposal op }) ∧
      (∀ change, proposal.target = contracts.stream → op.streamCall = some change →
        contracts.HoldsStream s.controls → op.InRange (s.factoryEnv tx tx.auth).version →
        ∃ s', Call.perform tx (.governance (.execute executor id)) s = some s' ∧
          s'.controls = s.controls.change change ∧ s'.settings = s.settings) ∧
      ∀ change, proposal.target = contracts.factory → op.factoryCall = some change →
        contracts.HoldsFactory s.settings → op.InRange (s.factoryEnv tx tx.auth).version →
        ∃ s', Call.perform tx (.governance (.execute executor id)) s = some s' ∧
          s'.settings = s.settings.change change ∧ s'.controls = s.controls := by
  rcases Governance.runs_isExecutable.mp viewed with ⟨⟨found, info, passes⟩, _⟩
  obtain rfl : proposal = found := Option.some.inj (stored.symm.trans passes.stored)
  have performed := perform_execute signed passes decoded
  have authorised : tx.calledBy contracts.governance contracts.governance = true := by
    simp [Transaction.calledBy]
  refine ⟨performed, ?_, ?_⟩
  · intro change target asked holds inRange
    rcases function_of_streamCall asked with ⟨function, called⟩
    have permitted : (tx.streamEnv (tx.calledBy contracts.governance)).auth
        contracts.governance = true := authorised
    rcases StreamContract.streamCall_succeeds asked holds permitted inRange with ⟨stream, run⟩
    have ran : s.callStream tx (tx.calledBy contracts.governance) change =
        some { s with stream } :=
      State.callStream_eq_some.mpr ⟨stream, run, rfl⟩
    rw [performed, dispatches_of_function called, State.dispatch, if_pos target, asked,
      Option.bind_some, ran]
    exact ⟨_, rfl, StreamContract.controls_of_streamCall asked run, rfl⟩
  · intro change target asked holds inRange
    rcases function_of_factoryCall asked with ⟨function, called⟩
    rcases (factoryPart contracts).reachable reached |>.recorded with ⟨past, recorded⟩
    rcases Factory.Recorded.configured recorded with fresh | ⟨config, configured⟩
    · have fresh : s.factory = .deployed := fresh
      rw [State.settings, fresh] at holds
      cases holds
    · have permitted : (s.factoryEnv tx (tx.calledBy contracts.governance)).auth
          contracts.governance = true := authorised
      rcases Factory.factoryCall_succeeds asked configured holds permitted inRange with
        ⟨factory, run⟩
      have elsewhere : proposal.target ≠ contracts.stream := by
        rw [target]
        exact contracts.factory_ne_stream
      have ran : s.callFactory tx (tx.calledBy contracts.governance) change =
          some { s with factory } := by
        have ran : change.run (s.factoryEnv tx (tx.calledBy contracts.governance)) s.factory =
            .ok ((), factory) := run
        simp only [State.callFactory, ran, request_of_factoryCall asked]
      rw [performed, dispatches_of_function called, State.dispatch, if_neg elsewhere,
        if_pos target, asked, Option.bind_some, ran]
      exact ⟨_, rfl, Factory.settings_of_factoryCall asked run, rfl⟩

namespace Sample

/-- Both proposals have their quorum, and the former admin has tried in vain. -/
def agreed : State :=
  Script.run (governed.take 7) (Script.run handedOver genesis)

theorem reachable_agreed : Reachable addresses 3 agreed := by
  have before : Script.Ordered handedOver 0 := ⟨by decide, by decide, by decide, by decide, trivial⟩
  have after : Script.Ordered (governed.take 7) 0 :=
    ⟨by decide, by decide, by decide, by decide, by decide, by decide, by decide, trivial⟩
  exact (Script.continues_run after Script.permits_all .here).reachable (reachable_run before)

/-- A stranger executes when the timelock has run out. -/
def ripe : Transaction addresses :=
  Sample.tx 3 172802 (by decide)

end Sample

open Sample in
/-- The rate limit becomes what the first proposal says. -/
theorem executable_proposal_takes_effect_agreed :
    ∃ s', Call.perform ripe (.governance (.execute (.account 3) 0)) agreed = some s' ∧
      s'.controls = { agreed.controls with maxRatePerSecond := 5 } ∧
      s'.settings = agreed.settings := by
  have stored : (agreed.governance.proposals 0).map (fun proposal =>
      (proposal.target, proposal.calldata)) = some (addresses.stream, setMaxRate) := by
    decide +kernel
  rcases Option.map_eq_some_iff.mp stored with ⟨proposal, stored, shown⟩
  rw [Prod.mk.injEq] at shown
  have view : ∃ viewed, Runs (Governance.isExecutable 0) (agreed.governanceEnv ripe)
      agreed.governance true viewed :=
    exists_runs_of_toOption (by decide +kernel)
  rcases view with ⟨viewed, view⟩
  rw [(Governance.runs_isExecutable.mp view).2] at view
  have decoded : ripe.fromXdr proposal.calldata = .value (.streamSetMaxRate 5) := by
    rw [shown.2]
    decide
  have held : addresses.HoldsStream agreed.controls := by decide +kernel
  have signed : ripe.auth (.account 3) = true := by decide
  rcases executable_proposal_takes_effect reachable_agreed signed view stored decoded with
    ⟨_, changed, _⟩
  exact changed (.setMaxRatePerSecond 5) shown.1 rfl held (by decide : (0 : ℤ) < 5)

end Wallie.Deployment
