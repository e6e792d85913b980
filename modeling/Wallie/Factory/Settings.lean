import Wallie.Factory.Runs

/-!
# What the admin of the factory sets

Everything but the registry is set by the admin, and by nobody else.
-/

namespace Wallie.Factory

open Fallible
open StreamContract (Address)

/-- What the admin of the factory controls. -/
structure Settings where
  admin : Option Address
  streamContract : Option Address
  maxDepositCap : Option ℤ
  minDuration : Option ℕ
  batchCapEnforced : Option Bool
  allowlist : Address → Bool
  creationPaused : Bool
  minRatePerSecond : Option ℤ
  maxRatePerSecond : Option ℤ

def State.settings (s : State) : Settings where
  admin := s.admin
  streamContract := s.streamContract
  maxDepositCap := s.maxDepositCap
  minDuration := s.minDuration
  batchCapEnforced := s.batchCapEnforced
  allowlist := s.allowlist
  creationPaused := s.creationPaused
  minRatePerSecond := s.minRatePerSecond
  maxRatePerSecond := s.maxRatePerSecond

/-- What a call is to do to the settings when governance makes it. -/
def Settings.change (settings : Settings) : Call → Settings
  | .setAdmin newAdmin => { settings with admin := some newAdmin }
  | .setStreamContract newContract => { settings with streamContract := some newContract }
  | .setCap maxDeposit => { settings with maxDepositCap := some maxDeposit }
  | .setMinDuration minDuration => { settings with minDuration := some minDuration }
  | .setAllowlist recipient allowed =>
      { settings with allowlist := Function.update settings.allowlist recipient allowed }
  | _ => settings

variable {env : Env} {s s' : State}

/-- A call that the admin has not authorised leaves the settings of an initialised factory
alone. -/
theorem Call.settings_kept {call : Call} (run : Runs call.run env s () s') {admin : Address}
    (stored : s.admin = some admin) (unauthorised : env.auth admin = false) :
    s'.settings = s.settings := by
  have refused : ∀ found, s.admin = some found → env.auth found ≠ true := by
    intro found stored'
    cases stored.symm.trans stored'
    rw [unauthorised]
    exact Bool.false_ne_true
  -- A setter asks the admin first.
  have asked : ∀ {next : Address → Contract Unit},
      Runs (requireAdmin >>= next) env s () s' → s'.settings = s.settings := by
    intro next run
    rcases runs_bind.mp run with ⟨found, _, guard, _⟩
    rcases runs_requireAdmin.mp guard with ⟨stored', authorised, _⟩
    exact absurd authorised (refused found stored')
  cases call with
  | setAdmin _ | setStreamContract _ | setAllowlist _ _ | setCap _ | setMinDuration _
  | setBatchCapEnforcement _ | setRateBounds _ _ | setFactoryPaused _ => exact asked run
  | init _ _ _ _ =>
      cases Call.effect run with
      | init undeployed _ _ =>
          rw [undeployed] at stored
          cases stored
  | createStream _ _ =>
      cases Call.effect run
      rfl
  | createStreams _ _ =>
      cases Call.effect run with
      | createNoStreams | createStreams _ _ _ _ _ => rfl

end Wallie.Factory
