import Wallie.Factory.Queries
import Wallie.Factory.Settings
import Wallie.Lib.AuditedLog

/-!
# Auditing the factory

Whoever reads the events of the factory knows what its admin has set, but for the
enforcement of the cap on batches, which is not announced. Every event says what
it replaces, and a stream is announced under the policy announced before it.
-/

namespace Wallie.Factory

open AuditedLog Fallible
open StreamContract (Address CreateStreamParams)

variable {env : Env} {s s' : State} {call : Call} {config : FactoryConfig}
  {past : List (State × Invocation)}

/-! ## The auditor -/

/-- The settings that are announced. -/
def State.announced (s : State) : Settings :=
  { s.settings with batchCapEnforced := none }

/-- What an event says about the settings. -/
def Settings.enter (settings : Settings) : Event → Settings
  | .fctInit admin streamContract maxDeposit minDuration =>
      { settings with
        admin := some admin, streamContract := some streamContract
        maxDepositCap := some maxDeposit, minDuration := some minDuration }
  | .adminUpd _ newAdmin => { settings with admin := some newAdmin }
  | .stmUpd _ newContract => { settings with streamContract := some newContract }
  | .allowUpd recipient allowed =>
      { settings with allowlist := Function.update settings.allowlist recipient allowed }
  | .capUpd _ newCap => { settings with maxDepositCap := some newCap }
  | .durUpd _ newMinDuration => { settings with minDuration := some newMinDuration }
  | .rateBnd minRate maxRate =>
      { settings with
        minRatePerSecond := minRate.or settings.minRatePerSecond
        maxRatePerSecond := maxRate.or settings.maxRatePerSecond }
  | .factoryPaused => { settings with creationPaused := true }
  | .factoryResumed => { settings with creationPaused := false }
  | .fctStrm _ _ _ _ _ => settings

/-- The rate bounds are in range and ordered. -/
structure Settings.RatesOrdered (settings : Settings) : Prop where
  minNonneg : ∀ rate ∈ settings.minRatePerSecond, 0 ≤ rate
  maxNonneg : ∀ rate ∈ settings.maxRatePerSecond, 0 ≤ rate
  ordered : ∀ low ∈ settings.minRatePerSecond, ∀ high ∈ settings.maxRatePerSecond, low ≤ high

/-- The settings permit the announced stream. -/
structure Settings.Permits (settings : Settings) (recipient : Address)
    (depositAmount ratePerSecond : ℤ) : Prop where
  unpaused : settings.creationPaused = false
  allowed : settings.allowlist recipient = true
  capped : ∃ cap, settings.maxDepositCap = some cap ∧ depositAmount ≤ cap
  fast : ∀ minRate ∈ settings.minRatePerSecond, minRate ≤ ratePerSecond
  slow : ∀ maxRate ∈ settings.maxRatePerSecond, ratePerSecond ≤ maxRate

/-- The event is one that may come next: it follows the initialisation, unless it is that, it
replaces what is set by what is in range, and a stream is permitted. -/
def Settings.Admits (settings : Settings) : Event → Prop
  | .fctInit _ _ maxDeposit minDuration =>
      settings.admin = none ∧ 0 < maxDeposit ∧ minDuration ≤ maxMinDurationSeconds
  | .adminUpd oldAdmin _ => settings.admin = some oldAdmin
  | .stmUpd oldContract _ => settings.streamContract = some oldContract
  | .allowUpd _ _ | .factoryPaused | .factoryResumed => settings.admin.isSome = true
  | .capUpd oldCap newCap => settings.maxDepositCap = some oldCap ∧ 0 < newCap
  | .durUpd oldMinDuration newMinDuration =>
      settings.minDuration = some oldMinDuration ∧ newMinDuration ≤ maxMinDurationSeconds
  | .rateBnd minRate maxRate => (settings.enter (.rateBnd minRate maxRate)).RatesOrdered
  | .fctStrm _ _ recipient depositAmount ratePerSecond =>
      settings.Permits recipient depositAmount ratePerSecond

/-- The stream that an event announces. -/
def Event.streamId : Event → Option ℕ
  | .fctStrm streamId _ _ _ _ => some streamId
  | _ => none

/-! ## Steps -/

/-- What the policy admits, the announced settings permit. -/
theorem permits_of_policy {policy : FactoryPolicy} {params : CreateStreamParams}
    (loaded : s.policy = some policy) (unpaused : policy.creationPaused = false)
    (admitted : policy.Admits s.allowlist params) :
    s.announced.Permits params.recipient params.depositAmount params.ratePerSecond := by
  simp only [State.policy, Option.bind_eq_bind, Option.bind_eq_some_iff, Option.pure_def,
    Option.some.injEq] at loaded
  rcases loaded with ⟨_, _, cap, stored, _, _, _, _, rfl⟩
  exact
    { unpaused
      allowed := admitted.allowed
      capped := ⟨cap, stored, admitted.capped⟩
      fast := admitted.fast
      slow := admitted.slow }

/-- Every call of a configured factory announces what it does to the settings. -/
theorem Effect.explains (effect : Effect env s call s') (configured : s.Configured config) :
    Explains Settings.Admits Settings.enter State.events State.announced s s' := by
  rcases runs_getFactoryConfig.mp (configured.stored env) with
    ⟨admin, streamContract, maxDeposit, minDuration, enforced, _⟩
  cases effect with
  | init undeployed _ _ =>
      rw [undeployed] at admin
      cases admin
  | setAdmin stored => exact .of_entry rfl stored rfl
  | setStreamContract stored => exact .of_entry rfl stored rfl
  | setAllowlist => exact .of_entry rfl (Option.isSome_of_eq_some admin) rfl
  | setCap positive =>
      refine .of_entry rfl ⟨?_, positive⟩ rfl
      rw [maxDeposit]
      exact maxDeposit
  | setMinDuration bounded =>
      refine .of_entry rfl ⟨?_, bounded⟩ rfl
      rw [minDuration]
      exact minDuration
  | setBatchCapEnforcement | createNoStreams | createStreams _ _ _ _ _ => exact .of_same rfl rfl
  | @setRateBounds minRate maxRate minNonneg maxNonneg ordered =>
      refine .of_entry rfl ⟨?_, ?_, ordered⟩ rfl
      · cases minRate with
        | none => exact configured.minNonneg
        | some _ => exact minNonneg
      · cases maxRate with
        | none => exact configured.maxNonneg
        | some _ => exact maxNonneg
  | @setFactoryPaused paused =>
      cases paused <;> exact .of_entry rfl (Option.isSome_of_eq_some admin) rfl
  | createStream loaded unpaused admitted _ =>
      exact .of_entry rfl (permits_of_policy loaded unpaused admitted) rfl

/-- The streams that are announced are registered, in this order. -/
theorem Effect.announces (effect : Effect env s call s')
    (known : (s.events.filterMap Event.streamId).Sublist s.factoryStreamIds) :
    (s'.events.filterMap Event.streamId).Sublist s'.factoryStreamIds := by
  have silent : ∀ {event : Event}, event.streamId = none →
      ((s.events ++ [event]).filterMap Event.streamId).Sublist s.factoryStreamIds := by
    intro event silent
    rw [List.filterMap_append, List.filterMap_cons_none silent, List.filterMap_nil, List.append_nil]
    exact known
  cases effect with
  | init _ _ _ | setAdmin _ | setStreamContract _ | setAllowlist | setCap _ | setMinDuration _
  | setRateBounds _ _ _ => exact silent rfl
  | @setFactoryPaused paused => cases paused <;> exact silent rfl
  | setBatchCapEnforcement | createNoStreams => exact known
  | createStream _ _ _ _ =>
      simp only [State.withSingle, State.withCreation, List.filterMap_append]
      exact known.append (List.Sublist.refl _)
  | createStreams _ _ _ _ _ => exact known.trans (List.sublist_append_left _ _)

/-! ## Runs -/

end Wallie.Factory
