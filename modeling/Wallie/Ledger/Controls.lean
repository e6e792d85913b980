import Wallie.Ledger.RefineRegistry
import Wallie.StreamContract.Authority
import Wallie.StreamContract.EntrypointWrites
import Wallie.StreamContract.Spares

/-!
# What the admin controls

The admin names its successor, limits the rate of streams and pauses the
contract. Nobody else does.
-/

namespace Wallie.StreamContract

open Fallible

/-- What the admin of the contract controls. -/
structure Controls where
  admin : Option Address
  maxRatePerSecond : ℤ
  pauseFlags : PauseFlags

def State.controls (s : State) : Controls where
  admin := s.config.map Config.admin
  maxRatePerSecond := s.maxRatePerSecond
  pauseFlags := s.pauseFlags

/-- What a call is to do to the controls when governance makes it. -/
def Controls.change (controls : Controls) : Call → Controls
  | .setAdmin newAdmin => { controls with admin := some newAdmin }
  | .setMaxRatePerSecond maxRate => { controls with maxRatePerSecond := maxRate }
  | _ => controls

variable {env : Env} {s s' : State}

/-- The calls that set a parameter or a pause flag ask the admin. -/
theorem Call.party_eq_admin {call : Call} (sets : call.Sets ∨ .pauses ∈ call.writes) :
    call.party = .admin := by
  cases call with
  | setAdmin _ | setMaxRatePerSecond _ | setGlobalEmergencyPaused _ | globalResume
  | setContractPaused _ | pauseProtocol _ _ | resumeProtocol _ => rfl
  | _ => simp [Call.Sets, Call.writes] at sets

/-- An initialised contract is not initialised again. -/
theorem Call.spares_of_initialised (call : Call) (run : Runs call.run env s () s')
    (initialised : s.config.isSome = true) : Spares call.Sets none env s s' := by
  refine call.spares ?_ run
  rintro token admin rfl
  exact not_runs_init initialised run

/-- A call that does not ask the admin leaves the controls alone. -/
theorem Call.controls_kept {call : Call} (run : Runs call.run env s () s')
    (initialised : s.config.isSome = true) (other : call.party ≠ .admin) :
    s'.controls = s.controls := by
  have unset : ¬ call.Sets := fun sets => other (Call.party_eq_admin (Or.inl sets))
  have unpaused : .pauses ∉ call.writes :=
    fun written => other (Call.party_eq_admin (Or.inr written))
  have spared := call.spares_of_initialised run initialised
  have config := spared.config.resolve_left unset
  have rate := spared.maxRatePerSecond.resolve_left unset
  have flags := (call.onlyWrites run).pauseFlags unpaused
  simp only [State.controls, config, rate, flags]

/-- A call that the admin has not authorised leaves the controls of an initialised contract
alone. -/
theorem Call.controls_unauthorised {call : Call} (run : Runs call.run env s () s')
    {admin : Address} (held : s.controls.admin = some admin) (unsigned : env.auth admin = false) :
    s'.controls = s.controls := by
  rcases Option.map_eq_some_iff.mp held with ⟨config, stored, rfl⟩
  refine call.controls_kept run (by rw [stored]; rfl) fun asked => ?_
  have consents := call.demands run
  rw [asked] at consents
  rcases consents with ⟨found, stored', authorised⟩
  cases stored.symm.trans stored'
  rw [unsigned] at authorised
  cases authorised

theorem controls_setAdmin {newAdmin : Address} (run : Runs (setAdmin newAdmin) env s () s') :
    s'.controls = s.controls.change (.setAdmin newAdmin) := by
  simp only [setAdmin, runs_bind, runs_getConfig, runs_requireAuth, runs_update, runs_publish,
    and_assoc, exists_and_left, exists_eq_left, exists_const] at run
  rcases run with ⟨config, _, _, rfl⟩
  rfl

theorem controls_setMaxRatePerSecond {maxRate : ℤ}
    (run : Runs (setMaxRatePerSecond maxRate) env s () s') :
    s'.controls = s.controls.change (.setMaxRatePerSecond maxRate) := by
  simp only [setMaxRatePerSecond, runs_bind, runs_getAdmin, runs_requireAuth, runs_rejectIf,
    runs_update, and_assoc, exists_and_left, exists_eq_left, exists_const] at run
  rcases run with ⟨_, _, _, _, rfl⟩
  rfl

end Wallie.StreamContract
