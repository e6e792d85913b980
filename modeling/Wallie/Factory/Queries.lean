import Wallie.Factory.Runs

/-!
# Queries of the factory

Anybody may read the policy and the registry. The registry is read in pages, by
position.
-/

namespace Wallie.Factory

open Fallible
open StreamContract (Address u32)

def maxPageSize : ℕ := 100

structure FactoryConfig where
  admin : Address
  streamContract : Address
  maxDeposit : ℤ
  minDuration : ℕ
  batchCapEnforced : Bool
  deriving DecidableEq, Repr

def isFactoryPaused : Contract Bool :=
  peek State.creationPaused

def getFactoryConfig : Contract FactoryConfig := do
  let admin ← peek State.admin
  let admin ← getOrReject admin (.error .notInitialized)
  let streamContract ← peek State.streamContract
  let streamContract ← getOrReject streamContract (.error .notInitialized)
  let maxDeposit ← peek State.maxDepositCap
  let maxDeposit ← getOrReject maxDeposit (.error .notInitialized)
  let minDuration ← peek State.minDuration
  let minDuration ← getOrReject minDuration (.error .notInitialized)
  let batchCapEnforced ← peek State.batchCapEnforced
  let batchCapEnforced ← getOrReject batchCapEnforced (.error .notInitialized)
  return { admin, streamContract, maxDeposit, minDuration, batchCapEnforced }

def isAllowlisted (recipient : Address) : Contract Bool :=
  peek fun s => s.allowlist recipient

def getFactoryStreamCount : Contract ℕ :=
  peek fun s => s.factoryStreamIds.length

/-- The loop over the positions from `i` on, with `remaining` of them before the end of the page. -/
def collectIds (ids : List ℕ) : ℕ → ℕ → List ℕ → Contract (List ℕ)
  | 0, _, page => pure page
  | remaining + 1, i, page => do
      let id ← getOrReject ids[i]? .trap
      collectIds ids remaining (i + 1) (page ++ [id])

def getFactoryStreamsPaginated (startIndex limit : ℕ) : Contract (List ℕ) := do
  let ids ← peek State.factoryStreamIds
  let total := ids.length
  if total ≤ startIndex then return []
  else do
    let cappedLimit := min limit maxPageSize
    -- The plain addition traps on a position near the end of the `u32`s.
    rejectIf (u32.upper < (startIndex + cappedLimit : ℕ)) .trap
    let finish := min (startIndex + cappedLimit) total
    collectIds ids (finish - startIndex) startIndex []

variable {env : Env} {s s' : State} {startIndex limit remaining i : ℕ} {ids page page' : List ℕ}
  {config : FactoryConfig} {call : Call}

theorem runs_getFactoryConfig :
    Runs getFactoryConfig env s config s' ↔
      s.admin = some config.admin ∧ s.streamContract = some config.streamContract ∧
        s.maxDepositCap = some config.maxDeposit ∧ s.minDuration = some config.minDuration ∧
        s.batchCapEnforced = some config.batchCapEnforced ∧ s' = s := by
  simp only [getFactoryConfig, runs_bind, runs_peek, runs_getOrReject, runs_pure, and_assoc,
    exists_and_left, exists_eq_left]
  constructor
  · rintro ⟨_, admin, _, streamContract, _, maxDeposit, _, minDuration, _, enforced, rfl, rfl⟩
    exact ⟨admin, streamContract, maxDeposit, minDuration, enforced, rfl⟩
  · rintro ⟨admin, streamContract, maxDeposit, minDuration, enforced, rfl⟩
    exact ⟨_, admin, _, streamContract, _, maxDeposit, _, minDuration, _, enforced, rfl, rfl⟩

theorem runs_collectIds (within : i + remaining ≤ ids.length) :
    Runs (collectIds ids remaining i page) env s page' s' ↔
      page' = page ++ (ids.drop i).take remaining ∧ s' = s := by
  induction remaining generalizing i page with
  | zero => simp [collectIds]
  | succ remaining ih =>
      have inside : i < ids.length := by omega
      have rest : i + 1 + remaining ≤ ids.length := by omega
      simp only [collectIds, runs_bind, runs_getOrReject, List.getElem?_eq_getElem inside,
        Option.some.injEq, and_assoc, exists_and_left, exists_eq_left', exists_eq_left, ih rest,
        List.drop_eq_getElem_cons inside, List.take_succ_cons, List.append_assoc,
        List.singleton_append]

/-- A page holds what the registry has from its start on. -/
theorem runs_getFactoryStreamsPaginated :
    Runs (getFactoryStreamsPaginated startIndex limit) env s page s' ↔
      (startIndex < s.factoryStreamIds.length →
        ((startIndex + min limit maxPageSize : ℕ) : ℤ) ≤ u32.upper) ∧
      page = (s.factoryStreamIds.drop startIndex).take (min limit maxPageSize) ∧ s' = s := by
  simp only [getFactoryStreamsPaginated, runs_bind, runs_peek, and_assoc, exists_and_left,
    exists_eq_left]
  generalize min limit maxPageSize = size
  by_cases beyond : s.factoryStreamIds.length ≤ startIndex
  · rw [if_pos beyond, List.drop_of_length_le beyond, List.take_nil]
    simp only [runs_pure, not_lt.mpr beyond, false_implies, true_and]
  · have within : startIndex +
        (min (startIndex + size) s.factoryStreamIds.length - startIndex) ≤
          s.factoryStreamIds.length := by
      omega
    have cut : (s.factoryStreamIds.drop startIndex).take
        (min (startIndex + size) s.factoryStreamIds.length - startIndex) =
          (s.factoryStreamIds.drop startIndex).take size := by
      rw [List.take_eq_take_iff, List.length_drop]
      omega
    simp only [if_neg beyond, runs_bind, runs_rejectIf, and_assoc, exists_and_left, exists_const,
      exists_eq_left, runs_collectIds within, List.nil_append, cut, not_le.mp beyond,
      true_implies, not_lt]

/-! ## The configuration -/

/-- The factory has a configuration, and what it holds is in range. -/
structure State.Configured (s : State) (config : FactoryConfig) : Prop where
  stored : ∀ env, Runs getFactoryConfig env s config s
  positive : 0 < config.maxDeposit
  bounded : config.minDuration ≤ maxMinDurationSeconds
  minNonneg : ∀ rate ∈ s.minRatePerSecond, 0 ≤ rate
  maxNonneg : ∀ rate ∈ s.maxRatePerSecond, 0 ≤ rate
  ordered : ∀ low ∈ s.minRatePerSecond, ∀ high ∈ s.maxRatePerSecond, low ≤ high

/-- Empty storage refuses every call but the initialisation. -/
theorem init_of_runs_deployed (run : Runs call.run env .deployed () s') :
    ∃ admin streamContract maxDeposit minDuration,
      call = .init admin streamContract maxDeposit minDuration := by
  have refused : ∀ {next : Address → Contract Unit},
      ¬ Runs (requireAdmin >>= next) env .deployed () s' := by
    intro next run
    rcases runs_bind.mp run with ⟨found, _, guard, _⟩
    rcases runs_requireAdmin.mp guard with ⟨stored, _⟩
    cases stored
  cases call with
  | init admin streamContract maxDeposit minDuration => exact ⟨_, _, _, _, rfl⟩
  | setAdmin _ | setStreamContract _ | setAllowlist _ _ | setCap _ | setMinDuration _
  | setBatchCapEnforcement _ | setRateBounds _ _ | setFactoryPaused _ => exact absurd run refused
  | createStream _ _ =>
      simp only [Call.run, runs_bind, runs_createStream] at run
      rcases run with ⟨_, _, ⟨_, loaded, _⟩, _⟩
      cases loaded
  | createStreams _ _ =>
      simp only [Call.run, runs_bind, runs_createStreams] at run
      rcases run with ⟨_, _, ⟨_, loaded, _⟩, _⟩
      cases loaded

/-- The initialisation leaves a configuration behind. -/
theorem Effect.configured_of_deployed (effect : Effect env .deployed call s')
    (called : ∃ admin streamContract maxDeposit minDuration,
      call = .init admin streamContract maxDeposit minDuration) :
    ∃ config, s'.Configured config := by
  rcases called with ⟨admin, streamContract, maxDeposit, minDuration, rfl⟩
  cases effect with
  | init _ positive bounded =>
      exact ⟨{ admin, streamContract, maxDeposit, minDuration, batchCapEnforced := true },
        { stored := fun _ => runs_getFactoryConfig.mpr ⟨rfl, rfl, rfl, rfl, rfl, rfl⟩
          positive
          bounded
          minNonneg := fun _ member => by cases member
          maxNonneg := fun _ member => by cases member
          ordered := fun _ member => by cases member }⟩

/-- Every call keeps the configuration complete and in range. -/
theorem Effect.configured (effect : Effect env s call s') (configured : s.Configured config) :
    ∃ config', s'.Configured config' := by
  rcases runs_getFactoryConfig.mp (configured.stored env) with
    ⟨admin, streamContract, maxDeposit, minDuration, enforced, _⟩
  cases effect with
  | init undeployed _ _ =>
      rw [undeployed] at admin
      cases admin
  | @setAdmin _ newAdmin _ =>
      exact ⟨{ config with admin := newAdmin }, { configured with
        stored := fun _ => runs_getFactoryConfig.mpr
          ⟨rfl, streamContract, maxDeposit, minDuration, enforced, rfl⟩ }⟩
  | @setStreamContract _ newContract _ =>
      exact ⟨{ config with streamContract := newContract }, { configured with
        stored := fun _ => runs_getFactoryConfig.mpr
          ⟨admin, rfl, maxDeposit, minDuration, enforced, rfl⟩ }⟩
  | @setCap newCap positive =>
      exact ⟨{ config with maxDeposit := newCap }, { configured with
        stored := fun _ => runs_getFactoryConfig.mpr
          ⟨admin, streamContract, rfl, minDuration, enforced, rfl⟩
        positive }⟩
  | @setMinDuration newDuration bounded =>
      exact ⟨{ config with minDuration := newDuration }, { configured with
        stored := fun _ => runs_getFactoryConfig.mpr
          ⟨admin, streamContract, maxDeposit, rfl, enforced, rfl⟩
        bounded }⟩
  | @setBatchCapEnforcement enabled =>
      exact ⟨{ config with batchCapEnforced := enabled }, { configured with
        stored := fun _ => runs_getFactoryConfig.mpr
          ⟨admin, streamContract, maxDeposit, minDuration, rfl, rfl⟩ }⟩
  | @setRateBounds minRate maxRate minNonneg maxNonneg ordered =>
      refine ⟨config, { configured with
        stored := fun _ => runs_getFactoryConfig.mpr
          ⟨admin, streamContract, maxDeposit, minDuration, enforced, rfl⟩
        minNonneg := ?_
        maxNonneg := ?_
        ordered := ordered }⟩
      · cases minRate with
        | none => exact configured.minNonneg
        | some _ => exact minNonneg
      · cases maxRate with
        | none => exact configured.maxNonneg
        | some _ => exact maxNonneg
  | setAllowlist | setFactoryPaused | createStream _ _ _ _ | createNoStreams
  | createStreams _ _ _ _ _ =>
      exact ⟨config, { configured with
        stored := fun _ => runs_getFactoryConfig.mpr
          ⟨admin, streamContract, maxDeposit, minDuration, enforced, rfl⟩ }⟩

theorem State.Configured.next (configured : s.Configured config) (invocation : Invocation) :
    ∃ config', (invocation.next s).Configured config' := by
  rcases commit_cases invocation.call.run invocation.env s with ⟨_, run⟩ | failed
  · have effect : Effect invocation.env s invocation.call (invocation.next s) := Call.effect run
    exact effect.configured configured
  · have same : invocation.next s = s := failed
    rw [same]
    exact ⟨config, configured⟩

/-- The factory is untouched, or it is configured. -/
theorem Recorded.configured {past : List (State × Invocation)} (recorded : Recorded past s) :
    s = .deployed ∨ ∃ config, s.Configured config := by
  apply ClockedSystem.Recorded.invariant
    (fun _ s => s = .deployed ∨ ∃ config, s.Configured config) recorded
  · exact fun _ _ deployed => Or.inl deployed
  · rintro _ s invocation s' _ rfl (rfl | ⟨config, configured⟩)
    · rcases commit_cases invocation.call.run invocation.env .deployed with ⟨_, run⟩ | failed
      · exact Or.inr ((Call.effect run).configured_of_deployed (init_of_runs_deployed run))
      · exact Or.inl failed
    · exact Or.inr (configured.next invocation)

end Wallie.Factory
