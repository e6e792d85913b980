import Wallie.Deployment.Parts
import Wallie.Factory.Settings
import Wallie.Ledger.Controls
import Wallie.Lib.ReplayedLog

/-!
# What the governance contract holds

An admin sets the parameters of the stream contract, and another those of the
factory. Once the governance contract is the admin, nobody else can set them: it
signs nothing, so a transaction reaches the setters through an executed proposal
only. The parameters are then those before, changed by the proposals executed
since, until one of these hands the role on.
-/

namespace Wallie.StreamContract

open Fallible

variable {env : Env} {s s' : State}

/-- What governance asks of the contract changes the controls as it says. -/
theorem controls_of_streamCall {op : Governance.CallData} {change : Call}
    (asked : op.streamCall = some change) (run : Runs change.run env s () s') :
    s'.controls = s.controls.change change := by
  cases op with
  | noop | factorySetCap _ | factorySetMinDuration _ | factorySetAllowlist _ _
  | factorySetStreamContract _ => cases asked
  | streamSetAdmin _ | factorySetAdmin _ =>
      cases asked
      exact controls_setAdmin run
  | streamSetMaxRate _ =>
      cases asked
      exact controls_setMaxRatePerSecond run

end Wallie.StreamContract

namespace Wallie.Factory

open Fallible

variable {env : Env} {s s' : State}

/-- What governance asks of the factory changes the settings as it says. -/
theorem settings_of_factoryCall {op : Governance.CallData} {change : Call}
    (asked : op.factoryCall = some change) (run : Runs change.run env s () s') :
    s'.settings = s.settings.change change := by
  have effect := Call.effect run
  cases op with
  | noop | streamSetMaxRate _ => cases asked
  | streamSetAdmin _ | factorySetAdmin _ | factorySetCap _ | factorySetMinDuration _
  | factorySetAllowlist _ _ | factorySetStreamContract _ =>
      cases asked
      cases effect
      rfl

end Wallie.Factory

namespace Wallie.Deployment

open Fallible ReplayedLog
open StreamContract (Controls)
open Factory (Settings)
open Governance (Dispatch)

variable {contracts : Contracts} {tx : Transaction contracts} {s s' : State}

/-- What a call that governance made changes in the stream contract. -/
def Contracts.onStream (contracts : Contracts) (controls : Controls) (dispatch : Dispatch) :
    Controls :=
  if dispatch.target = contracts.stream then
    dispatch.op.streamCall.elim controls controls.change
  else controls

/-- What a call that governance made changes in the factory. -/
def Contracts.onFactory (contracts : Contracts) (settings : Settings) (dispatch : Dispatch) :
    Settings :=
  if dispatch.target = contracts.factory then
    dispatch.op.factoryCall.elim settings settings.change
  else settings

/-- Governance is the admin of the stream contract. -/
def Contracts.HoldsStream (contracts : Contracts) (controls : Controls) : Prop :=
  controls.admin = some contracts.governance

instance : DecidablePred contracts.HoldsStream :=
  fun _ => inferInstanceAs (Decidable (_ = _))

/-- Governance is the admin of the factory. -/
def Contracts.HoldsFactory (contracts : Contracts) (settings : Settings) : Prop :=
  settings.admin = some contracts.governance

instance : DecidablePred contracts.HoldsFactory :=
  fun _ => inferInstanceAs (Decidable (_ = _))

/-- The calls that governance has made. -/
def State.dispatches (s : State) : List Dispatch :=
  s.governance.dispatches

def State.controls (s : State) : Controls :=
  s.stream.controls

def State.settings (s : State) : Settings :=
  s.factory.settings

/-- A step follows the log of governance: it changes the stream contract's controls as the call it
notes says, while governance holds them. -/
theorem Step.controls_follow {call : Call} (step : Step tx s call s') :
    ∃ added, Follows State.dispatches State.controls contracts.onStream contracts.HoldsStream
      s s' added := by
  have unsigned := (tx.unsigned contracts.governance (Or.inl rfl)).1
  cases step with
  | stream run =>
      exact ⟨[], (List.append_nil _).symm, fun throughout =>
        StreamContract.Call.controls_unauthorised run throughout.at_start unsigned⟩
  | factory did =>
      cases did with
      | alone _ _ => exact ⟨[], .of_same rfl rfl⟩
      | creates _ _ _ granted =>
          exact ⟨[], (List.append_nil _).symm, fun throughout =>
            StreamContract.Call.controls_unauthorised granted throughout.at_start
              (tx.not_calledBy_governance contracts.governance_ne_factory)⟩
  | governance _ elsewhere =>
      rcases elsewhere with same | ⟨dispatch, outside, added⟩
      · exact ⟨[], .of_same same rfl⟩
      · have other : dispatch.target ≠ contracts.stream :=
          fun same => outside (Or.inr (Or.inr same))
        refine ⟨[dispatch], added, fun _ => ?_⟩
        change s.controls = contracts.onStream s.controls dispatch
        rw [Contracts.onStream, if_neg other]
  | @onStream _ _ dispatch _ _ change _ _ _ dispatched target asked changed =>
      refine ⟨[dispatch], dispatched, fun _ => ?_⟩
      have moved := StreamContract.controls_of_streamCall asked changed
      change _ = contracts.onStream s.controls dispatch
      rw [Contracts.onStream, if_pos target, asked]
      exact moved
  | @onFactory _ _ dispatch _ _ _ _ _ _ dispatched target _ _ =>
      refine ⟨[dispatch], dispatched, fun _ => ?_⟩
      change s.controls = contracts.onStream s.controls dispatch
      rw [Contracts.onStream, if_neg]
      rw [target]
      exact contracts.factory_ne_stream

/-- A step changes the factory's settings as the call that governance notes says, while governance
holds them. -/
theorem Step.settings_follow {call : Call} (step : Step tx s call s') :
    ∃ added, Follows State.dispatches State.settings contracts.onFactory contracts.HoldsFactory
      s s' added := by
  have unsigned := (tx.unsigned contracts.governance (Or.inl rfl)).1
  cases step with
  | stream _ => exact ⟨[], .of_same rfl rfl⟩
  | factory did =>
      cases did with
      | alone run _ | creates run _ _ _ =>
          exact ⟨[], (List.append_nil _).symm, fun throughout =>
            Factory.Call.settings_kept run throughout.at_start unsigned⟩
  | governance _ elsewhere =>
      rcases elsewhere with same | ⟨dispatch, outside, added⟩
      · exact ⟨[], .of_same same rfl⟩
      · have other : dispatch.target ≠ contracts.factory :=
          fun same => outside (Or.inr (Or.inl same))
        refine ⟨[dispatch], added, fun _ => ?_⟩
        change s.settings = contracts.onFactory s.settings dispatch
        rw [Contracts.onFactory, if_neg other]
  | @onStream _ _ dispatch _ _ _ _ _ _ dispatched target _ _ =>
      refine ⟨[dispatch], dispatched, fun _ => ?_⟩
      change s.settings = contracts.onFactory s.settings dispatch
      rw [Contracts.onFactory, if_neg]
      rw [target]
      exact contracts.factory_ne_stream.symm
  | @onFactory _ _ dispatch _ _ change _ _ _ dispatched target asked changed =>
      refine ⟨[dispatch], dispatched, fun _ => ?_⟩
      have moved := Factory.settings_of_factoryCall asked changed
      change _ = contracts.onFactory s.settings dispatch
      rw [Contracts.onFactory, if_pos target, asked]
      exact moved

/-! ## The calls that governance makes -/

/-- A call is made for a proposal that passes the checks of its execution, and is the one that the
data of the proposal say. -/
theorem Step.dispatch_cleared {call : Call} {rest : List Dispatch} {dispatch : Dispatch}
    (step : Step tx s call s') (added : s'.dispatches = s.dispatches ++ rest)
    (member : dispatch ∈ rest) :
    ∃ executor proposal info, call = .governance (.execute executor dispatch.proposalId) ∧
      dispatch.Cleared (s.governanceEnv tx) s.governance proposal info := by
  -- Without a new entry there is nothing to trace.
  have unchanged : s'.governance.dispatches ≠ s.governance.dispatches := by
    intro same
    rw [List.self_eq_append_right.mp (same.symm.trans added)] at member
    cases member
  rcases step.governance_cases with same | ⟨change, rfl, run⟩
  · exact absurd (congrArg Governance.State.dispatches same) unchanged
  · rcases change.dispatched run with same | ⟨executor, proposal, info, made, rfl, cleared, _, _,
      noted⟩
    · exact absurd same unchanged
    · have only : rest = [made] := List.append_cancel_left (added.symm.trans noted)
      rw [only] at member
      rw [List.mem_singleton.mp member]
      exact ⟨executor, proposal, info, rfl, cleared⟩

end Wallie.Deployment
