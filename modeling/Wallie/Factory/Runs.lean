import Wallie.Factory.Contract
import Wallie.Lib.TimedRun

/-!
# Runs of the factory contract

A run starts on empty storage and takes invocations one at a time, each of which
succeeds or leaves the state alone. A successful call has one of the effects
listed here; those of the two creating calls say which policy was in force.
-/

namespace Wallie.Factory

open Fallible
open Bounded (Interval)
open StreamContract (Address CreateStreamParams i128 maxMemoBytes totalDeposit totalDeposit_cons)

structure Invocation where
  env : Env
  call : Call

/-- The contract before its initialisation: storage is empty. -/
def State.deployed : State where
  admin := none
  streamContract := none
  maxDepositCap := none
  minDuration := none
  batchCapEnforced := none
  allowlist := fun _ => false
  factoryStreamIds := []
  creationPaused := false
  minRatePerSecond := none
  maxRatePerSecond := none
  events := []
  creations := []

def Invocation.next (invocation : Invocation) (s : State) : State :=
  invocation.call.run.commit invocation.env s

/-- The factory contract, from its deployment on. It reads no clock, so its runs stay at one
instant. -/
def system : ClockedSystem State Invocation ℕ :=
  .deterministic (fun _ s => s = .deployed) (fun _ => 0) Invocation.next

/-- The states reached, with the invocations that led there, the latest first. -/
abbrev Recorded (past : List (State × Invocation)) (s : State) : Prop :=
  system.Recorded (fun _ _ => True) past 0 s

/-! ## Policy -/

/-- The policy in force, once the contract is initialised. -/
def State.policy (s : State) : Option FactoryPolicy := do
  let streamContract ← s.streamContract
  let maxDeposit ← s.maxDepositCap
  let minDuration ← s.minDuration
  let batchCapEnforced ← s.batchCapEnforced
  return { streamContract, maxDeposit, minDuration, batchCapEnforced,
           creationPaused := s.creationPaused, minRatePerSecond := s.minRatePerSecond,
           maxRatePerSecond := s.maxRatePerSecond }

/-- The policy and the allowlist admit the terms of a stream. -/
structure FactoryPolicy.Admits (policy : FactoryPolicy) (allowlist : Address → Bool)
    (params : CreateStreamParams) : Prop where
  allowed : allowlist params.recipient = true
  capped : params.depositAmount ≤ policy.maxDeposit
  ordered : params.startTime < params.endTime
  started : params.startTime ≤ params.cliffTime
  unended : params.cliffTime ≤ params.endTime
  long : policy.minDuration ≤ params.endTime - params.startTime
  fast : ∀ minRate ∈ policy.minRatePerSecond, minRate ≤ params.ratePerSecond
  slow : ∀ maxRate ∈ policy.maxRatePerSecond, params.ratePerSecond ≤ maxRate
  memo : ∀ memo ∈ params.memo, memo.length ≤ maxMemoBytes

/-! ## Effects -/

/-- The state once a granted request has been registered. -/
def State.withCreation (s : State) (creation : Creation) : State :=
  { s with
    factoryStreamIds := s.factoryStreamIds ++ creation.streamIds
    creations := s.creations ++ [creation] }

/-- The state once a single stream has been registered and announced. -/
def State.withSingle (s : State) (policy : FactoryPolicy) (sender : Address)
    (params : CreateStreamParams) (streamId : ℕ) : State :=
  { s.withCreation
      { streamContract := policy.streamContract, sender, streams := [params],
        streamIds := [streamId] } with
    events := s.events ++
      [.fctStrm streamId sender params.recipient params.depositAmount params.ratePerSecond] }

section Rules

variable {env : Env} {s s' : State} {done : Unit} {policy : FactoryPolicy}

theorem runs_requireAuth {address : Address} :
    Runs (requireAuth address) env s done s' ↔ env.auth address = true ∧ s' = s := by
  simp [requireAuth]

theorem runs_publish {event : Event} :
    Runs (publish event) env s done s' ↔ s' = { s with events := s.events ++ [event] } := by
  simp [publish]

theorem runs_requireAdmin {admin : Address} :
    Runs requireAdmin env s admin s' ↔
      s.admin = some admin ∧ env.auth admin = true ∧ s' = s := by
  simp only [requireAdmin, runs_bind, runs_peek, runs_getOrReject, runs_requireAuth, runs_pure,
    and_assoc, exists_and_left, exists_eq_left, exists_const]
  constructor
  · rintro ⟨found, stored, authorised, rfl, rfl⟩
    exact ⟨stored, authorised, rfl⟩
  · rintro ⟨stored, authorised, rfl⟩
    exact ⟨admin, stored, authorised, rfl, rfl⟩

theorem runs_validateStreamContract {streamContract : Address} :
    Runs (validateStreamContract streamContract) env s done s' ↔
      env.version streamContract = true ∧ s' = s := by
  simp [validateStreamContract]

theorem runs_loadPolicy :
    Runs loadPolicy env s policy s' ↔ s.policy = some policy ∧ s' = s := by
  simp only [loadPolicy, State.policy, runs_bind, runs_peek, runs_getOrReject, runs_pure,
    and_assoc, exists_and_left, exists_eq_left, Option.bind_eq_bind, Option.bind_eq_some_iff,
    Option.pure_def, Option.some.injEq]
  constructor
  · rintro ⟨_, contract, _, deposit, _, duration, _, enforced, rfl, rfl⟩
    exact ⟨⟨_, contract, _, deposit, _, duration, _, enforced, rfl⟩, rfl⟩
  · rintro ⟨⟨_, contract, _, deposit, _, duration, _, enforced, rfl⟩, rfl⟩
    exact ⟨_, contract, _, deposit, _, duration, _, enforced, rfl, rfl⟩

theorem runs_storeRateBound {bound : Option ℤ} {store : ℤ → State → State} :
    Runs (storeRateBound bound store) env s done s' ↔
      (∀ rate ∈ bound, 0 ≤ rate) ∧ s' = bound.elim s fun rate => store rate s := by
  cases bound with
  | none => simp [storeRateBound]
  | some rate => simp [storeRateBound]

theorem runs_tryCreateStream {streamContract sender : Address} {params : CreateStreamParams}
    {streamId : ℕ} :
    Runs (tryCreateStream streamContract sender params) env s streamId s' ↔
      env.createStream streamContract sender params = .created streamId ∧
        s' = { s with
          creations := s.creations ++
            [{ streamContract, sender, streams := [params], streamIds := [streamId] }] } := by
  simp only [tryCreateStream, runs_bind, runs_ask, and_assoc, exists_and_left, exists_eq_left]
  cases env.createStream streamContract sender params with
  | created id =>
      simp only [noteCreation, runs_bind, runs_update, runs_pure, exists_eq_left, exists_const,
        Reply.created.injEq]
      constructor
      · rintro ⟨rfl, rfl⟩
        exact ⟨rfl, rfl⟩
      · rintro ⟨rfl, rfl⟩
        exact ⟨rfl, rfl⟩
  | refused reason =>
      simp only [reduceCtorEq, false_and, iff_false]
      cases reason <;> exact not_runs_reject
  | failed => simp

theorem runs_requestStreams {streamContract sender : Address} {streams : List CreateStreamParams}
    {streamIds : List ℕ} :
    Runs (requestStreams streamContract sender streams) env s streamIds s' ↔
      env.createStreams streamContract sender streams = some streamIds ∧
        s' = { s with
          creations := s.creations ++ [{ streamContract, sender, streams, streamIds }] } := by
  simp only [requestStreams, noteCreation, runs_bind, runs_ask, runs_getOrReject, runs_update,
    runs_pure, and_assoc, exists_and_left, exists_eq_left, exists_const]
  constructor
  · rintro ⟨_, granted, rfl, rfl⟩
    exact ⟨granted, rfl⟩
  · rintro ⟨granted, rfl⟩
    exact ⟨streamIds, granted, rfl, rfl⟩

theorem runs_appendStreamIdsBatch {streamIds : List ℕ} :
    Runs (appendStreamIdsBatch streamIds) env s done s' ↔
      s' = { s with factoryStreamIds := s.factoryStreamIds ++ streamIds } := by
  unfold appendStreamIdsBatch
  split
  · next empty => simp [empty]
  · simp

theorem runs_validateRateBounds {ratePerSecond : ℤ} {minRate maxRate : Option ℤ} :
    Runs (validateRateBounds ratePerSecond minRate maxRate) env s done s' ↔
      ((∀ minR ∈ minRate, minR ≤ ratePerSecond) ∧ ∀ maxR ∈ maxRate, ratePerSecond ≤ maxR) ∧
        s' = s := by
  simp only [validateRateBounds, runs_bind, runs_rejectIf, exists_const, not_exists, not_and,
    not_lt, and_assoc, exists_and_left, exists_eq_left]

theorem runs_addToBatch {total deposit result : ℤ} :
    Runs (addToBatch policy total deposit) env s result s' ↔
      (if policy.batchCapEnforced then
        i128.Contains (total + deposit) ∧ total + deposit ≤ policy.maxDeposit ∧
          result = total + deposit
      else result = total) ∧ s' = s := by
  unfold addToBatch
  split
  · simp only [runs_bind, runs_getOrReject, runs_rejectIf, runs_pure, Interval.check_eq_some,
      and_assoc, exists_and_left, exists_eq_left, exists_const, not_lt]
  · exact runs_pure

/-- The running totals of a batch can be represented and stay within the cap. -/
def FactoryPolicy.SumsCapped (policy : FactoryPolicy) : ℤ → List CreateStreamParams → Prop
  | _, [] => True
  | total, params :: rest =>
      i128.Contains (total + params.depositAmount) ∧
        total + params.depositAmount ≤ policy.maxDeposit ∧
          policy.SumsCapped (total + params.depositAmount) rest

theorem FactoryPolicy.SumsCapped.total_le {streams : List CreateStreamParams} {total : ℤ}
    (sums : policy.SumsCapped total streams) (nonempty : streams ≠ []) :
    total + totalDeposit streams ≤ policy.maxDeposit := by
  induction streams generalizing total with
  | nil => exact absurd rfl nonempty
  | cons params rest ih =>
      rcases sums with ⟨_, capped, sums⟩
      rw [totalDeposit_cons, ← add_assoc]
      cases rest with
      | nil => simpa using capped
      | cons next others => exact ih sums (List.cons_ne_nil _ _)

theorem FactoryPolicy.admits_iff {allowlist : Address → Bool} {params : CreateStreamParams} :
    policy.Admits allowlist params ↔
      ¬ allowlist params.recipient = false ∧ params.depositAmount ≤ policy.maxDeposit ∧
        params.startTime < params.endTime ∧
        (params.startTime ≤ params.cliffTime ∧ params.cliffTime ≤ params.endTime) ∧
        policy.minDuration ≤ params.endTime - params.startTime ∧
        (∀ minRate ∈ policy.minRatePerSecond, minRate ≤ params.ratePerSecond) ∧
        (∀ maxRate ∈ policy.maxRatePerSecond, params.ratePerSecond ≤ maxRate) ∧
        ∀ memo ∈ params.memo, memo.length ≤ maxMemoBytes := by
  constructor
  · rintro ⟨allowed, capped, ordered, started, unended, long, fast, slow, memo⟩
    exact ⟨Bool.not_eq_false _ ▸ allowed, capped, ordered, ⟨started, unended⟩, long, fast, slow,
      memo⟩
  · rintro ⟨allowed, capped, ordered, ⟨started, unended⟩, long, fast, slow, memo⟩
    exact ⟨Bool.not_eq_false _ ▸ allowed, capped, ordered, started, unended, long, fast, slow,
      memo⟩

theorem runs_validateEntries {streams : List CreateStreamParams} {total : ℤ} :
    Runs (validateEntries policy streams total) env s done s' ↔
      (∀ params ∈ streams, policy.Admits s.allowlist params) ∧
        (policy.batchCapEnforced = true → policy.SumsCapped total streams) ∧ s' = s := by
  induction streams generalizing total with
  | nil => simp [validateEntries, FactoryPolicy.SumsCapped]
  | cons params rest ih =>
      rw [List.forall_mem_cons, FactoryPolicy.admits_iff, FactoryPolicy.SumsCapped]
      simp only [validateEntries, runs_bind, runs_peek, runs_rejectIf, runs_validateRateBounds,
        runs_addToBatch, ih, and_assoc, exists_and_left, exists_eq_left, exists_const, not_exists,
        not_and, not_or, not_lt, not_le]
      by_cases enforced : policy.batchCapEnforced = true
      · simp only [enforced, if_true, true_implies, and_assoc, exists_and_left, exists_eq_left]
        tauto
      · simp [enforced]

theorem runs_createStream {sender : Address} {params : CreateStreamParams} {streamId : ℕ} :
    Runs (createStream sender params) env s streamId s' ↔
      ∃ policy, s.policy = some policy ∧ policy.creationPaused = false ∧
        policy.Admits s.allowlist params ∧ env.auth sender = true ∧
        env.createStream policy.streamContract sender params = .created streamId ∧
        s' = s.withSingle policy sender params streamId := by
  simp only [createStream, appendStreamId, runs_bind, runs_loadPolicy, runs_rejectIf, runs_peek,
    runs_requireAuth, runs_tryCreateStream, runs_update, runs_publish, runs_pure, and_assoc,
    exists_and_left, exists_eq_left, exists_const, not_exists, not_and, not_or, not_lt, not_le,
    FactoryPolicy.admits_iff, Bool.not_eq_true]
  refine exists_congr fun policy => ?_
  constructor
  · rintro ⟨loaded, unpaused, allowed, capped, ordered, started, unended, long, fast, slow, memo,
      authorised, _, created, rfl, rfl⟩
    exact ⟨loaded, unpaused, allowed, capped, ordered, started, unended, long, fast, slow, memo,
      authorised, created, rfl⟩
  · rintro ⟨loaded, unpaused, allowed, capped, ordered, started, unended, long, fast, slow, memo,
      authorised, created, rfl⟩
    exact ⟨loaded, unpaused, allowed, capped, ordered, started, unended, long, fast, slow, memo,
      authorised, streamId, created, rfl, rfl⟩

theorem runs_createStreams {sender : Address} {streams : List CreateStreamParams}
    {streamIds : List ℕ} :
    Runs (createStreams sender streams) env s streamIds s' ↔
      ∃ policy, s.policy = some policy ∧ env.auth sender = true ∧
        policy.creationPaused = false ∧
        (∀ params ∈ streams, policy.Admits s.allowlist params) ∧
        (policy.batchCapEnforced = true → policy.SumsCapped 0 streams) ∧
        (streams = [] ∧ streamIds = [] ∧ s' = s ∨
          streams ≠ [] ∧
            env.createStreams policy.streamContract sender streams = some streamIds ∧
            s' = s.withCreation
              { streamContract := policy.streamContract, sender, streams, streamIds }) := by
  simp only [createStreams, runs_bind, runs_loadPolicy, runs_requireAuth, runs_rejectIf,
    runs_validateEntries, runs_ite, runs_requestStreams, runs_appendStreamIdsBatch, runs_pure,
    and_assoc, exists_and_left, exists_eq_left, exists_const, Bool.not_eq_true]
  constructor
  · rintro ⟨policy, loaded, authorised, unpaused, admitted, sums, empty | ⟨nonempty, _, granted,
      rfl, rfl⟩⟩
    · exact ⟨policy, loaded, authorised, unpaused, admitted, sums, Or.inl empty⟩
    · exact ⟨policy, loaded, authorised, unpaused, admitted, sums,
        Or.inr ⟨nonempty, granted, rfl⟩⟩
  · rintro ⟨policy, loaded, authorised, unpaused, admitted, sums, empty | ⟨nonempty, granted,
      rfl⟩⟩
    · exact ⟨policy, loaded, authorised, unpaused, admitted, sums, Or.inl empty⟩
    · exact ⟨policy, loaded, authorised, unpaused, admitted, sums,
        Or.inr ⟨nonempty, streamIds, granted, rfl, rfl⟩⟩

end Rules

/-- What a successful call does. -/
inductive Effect (env : Env) (s : State) : Call → State → Prop where
  | init {admin streamContract : Address} {maxDeposit : ℤ} {minDuration : ℕ}
      (undeployed : s.admin = none) (positive : 0 < maxDeposit)
      (bounded : minDuration ≤ maxMinDurationSeconds) :
      Effect env s (.init admin streamContract maxDeposit minDuration)
        { s with
          admin := some admin, streamContract := some streamContract
          maxDepositCap := some maxDeposit, minDuration := some minDuration
          batchCapEnforced := some true
          events := s.events ++ [.fctInit admin streamContract maxDeposit minDuration] }
  | setAdmin {oldAdmin newAdmin : Address} (stored : s.admin = some oldAdmin) :
      Effect env s (.setAdmin newAdmin)
        { s with admin := some newAdmin, events := s.events ++ [.adminUpd oldAdmin newAdmin] }
  | setStreamContract {oldContract newContract : Address}
      (stored : s.streamContract = some oldContract) :
      Effect env s (.setStreamContract newContract)
        { s with
          streamContract := some newContract
          events := s.events ++ [.stmUpd oldContract newContract] }
  | setAllowlist {recipient : Address} {allowed : Bool} :
      Effect env s (.setAllowlist recipient allowed)
        { s with
          allowlist := Function.update s.allowlist recipient allowed
          events := s.events ++ [.allowUpd recipient allowed] }
  | setCap {maxDeposit : ℤ} (positive : 0 < maxDeposit) :
      Effect env s (.setCap maxDeposit)
        { s with
          maxDepositCap := some maxDeposit
          events := s.events ++ [.capUpd (s.maxDepositCap.getD 0) maxDeposit] }
  | setMinDuration {minDuration : ℕ} (bounded : minDuration ≤ maxMinDurationSeconds) :
      Effect env s (.setMinDuration minDuration)
        { s with
          minDuration := some minDuration
          events := s.events ++ [.durUpd (s.minDuration.getD 0) minDuration] }
  | setBatchCapEnforcement {enabled : Bool} :
      Effect env s (.setBatchCapEnforcement enabled) { s with batchCapEnforced := some enabled }
  | setRateBounds {minRate maxRate : Option ℤ} (minNonneg : ∀ rate ∈ minRate, 0 ≤ rate)
      (maxNonneg : ∀ rate ∈ maxRate, 0 ≤ rate)
      (ordered : ∀ low ∈ minRate.or s.minRatePerSecond, ∀ high ∈ maxRate.or s.maxRatePerSecond,
        low ≤ high) :
      Effect env s (.setRateBounds minRate maxRate)
        { s with
          minRatePerSecond := minRate.or s.minRatePerSecond
          maxRatePerSecond := maxRate.or s.maxRatePerSecond
          events := s.events ++ [.rateBnd minRate maxRate] }
  | setFactoryPaused {paused : Bool} :
      Effect env s (.setFactoryPaused paused)
        { s with
          creationPaused := paused
          events := s.events ++ [if paused then .factoryPaused else .factoryResumed] }
  | createStream {sender : Address} {params : CreateStreamParams} {streamId : ℕ}
      {policy : FactoryPolicy} (loaded : s.policy = some policy)
      (unpaused : policy.creationPaused = false) (admitted : policy.Admits s.allowlist params)
      (replied : env.createStream policy.streamContract sender params = .created streamId) :
      Effect env s (.createStream sender params) (s.withSingle policy sender params streamId)
  | createNoStreams {sender : Address} : Effect env s (.createStreams sender []) s
  | createStreams {sender : Address} {streams : List CreateStreamParams} {streamIds : List ℕ}
      {policy : FactoryPolicy} (loaded : s.policy = some policy)
      (unpaused : policy.creationPaused = false)
      (admitted : ∀ params ∈ streams, policy.Admits s.allowlist params)
      (capped : policy.batchCapEnforced = true → totalDeposit streams ≤ policy.maxDeposit)
      (replied : env.createStreams policy.streamContract sender streams = some streamIds) :
      Effect env s (.createStreams sender streams)
        (s.withCreation
          { streamContract := policy.streamContract, sender, streams, streamIds })

section Effects

variable {env : Env} {s s' : State} {done : Unit} {call : Call}

theorem effect_of_init {admin streamContract : Address} {maxDeposit : ℤ} {minDuration : ℕ}
    (run : Runs (init admin streamContract maxDeposit minDuration) env s done s') :
    Effect env s (.init admin streamContract maxDeposit minDuration) s' := by
  simp only [init, validateCap, validateMinDuration, runs_bind, runs_peek, runs_rejectIf,
    runs_requireAuth, runs_validateStreamContract, runs_update, runs_publish, and_assoc,
    exists_and_left, exists_eq_left, exists_const, not_le, not_lt] at run
  rcases run with ⟨undeployed, _, _, positive, bounded, rfl⟩
  exact .init (Option.not_isSome_iff_eq_none.mp undeployed) positive bounded

theorem effect_of_setRateBounds {minRate maxRate : Option ℤ}
    (run : Runs (setRateBounds minRate maxRate) env s done s') :
    Effect env s (.setRateBounds minRate maxRate) s' := by
  simp only [setRateBounds, runs_bind, runs_requireAdmin, runs_storeRateBound, runs_peek,
    runs_rejectIf, runs_publish, and_assoc, exists_and_left, exists_eq_left, exists_const,
    not_exists, not_and, not_lt] at run
  rcases run with ⟨_, _, _, minNonneg, maxNonneg, ordered, rfl⟩
  cases minRate <;> cases maxRate <;> exact .setRateBounds minNonneg maxNonneg ordered

theorem effect_of_setAdmin {newAdmin : Address} (run : Runs (setAdmin newAdmin) env s done s') :
    Effect env s (.setAdmin newAdmin) s' := by
  simp only [setAdmin, runs_bind, runs_requireAdmin, runs_update, runs_publish, and_assoc,
    exists_and_left, exists_eq_left, exists_const] at run
  rcases run with ⟨oldAdmin, stored, _, rfl⟩
  exact .setAdmin stored

theorem effect_of_setStreamContract {newStreamContract : Address}
    (run : Runs (setStreamContract newStreamContract) env s done s') :
    Effect env s (.setStreamContract newStreamContract) s' := by
  simp only [setStreamContract, runs_bind, runs_requireAdmin, runs_validateStreamContract,
    runs_peek, runs_getOrReject, runs_update, runs_publish, and_assoc, exists_and_left,
    exists_eq_left, exists_const] at run
  rcases run with ⟨_, _, _, _, oldContract, stored, rfl⟩
  exact .setStreamContract stored

theorem effect_of_setAllowlist {recipient : Address} {allowed : Bool}
    (run : Runs (setAllowlist recipient allowed) env s done s') :
    Effect env s (.setAllowlist recipient allowed) s' := by
  simp only [setAllowlist, runs_bind, runs_requireAdmin, runs_update, runs_publish, and_assoc,
    exists_and_left, exists_eq_left, exists_const] at run
  rcases run with ⟨_, _, _, rfl⟩
  exact .setAllowlist

theorem effect_of_setCap {maxDeposit : ℤ} (run : Runs (setCap maxDeposit) env s done s') :
    Effect env s (.setCap maxDeposit) s' := by
  simp only [setCap, validateCap, runs_bind, runs_requireAdmin, runs_rejectIf, runs_peek,
    runs_update, runs_publish, and_assoc, exists_and_left, exists_eq_left, exists_const,
    not_le] at run
  rcases run with ⟨_, _, _, positive, rfl⟩
  exact .setCap positive

theorem effect_of_setMinDuration {minDuration : ℕ}
    (run : Runs (setMinDuration minDuration) env s done s') :
    Effect env s (.setMinDuration minDuration) s' := by
  simp only [setMinDuration, validateMinDuration, runs_bind, runs_requireAdmin, runs_rejectIf,
    runs_peek, runs_update, runs_publish, and_assoc, exists_and_left, exists_eq_left, exists_const,
    not_lt] at run
  rcases run with ⟨_, _, _, bounded, rfl⟩
  exact .setMinDuration bounded

theorem effect_of_setBatchCapEnforcement {enabled : Bool}
    (run : Runs (setBatchCapEnforcement enabled) env s done s') :
    Effect env s (.setBatchCapEnforcement enabled) s' := by
  simp only [setBatchCapEnforcement, runs_bind, runs_requireAdmin, runs_update, and_assoc,
    exists_and_left, exists_eq_left] at run
  rcases run with ⟨_, _, _, rfl⟩
  exact .setBatchCapEnforcement

theorem effect_of_setFactoryPaused {paused : Bool}
    (run : Runs (setFactoryPaused paused) env s done s') :
    Effect env s (.setFactoryPaused paused) s' := by
  simp only [setFactoryPaused, runs_bind, runs_requireAdmin, runs_update, runs_publish, and_assoc,
    exists_and_left, exists_eq_left, exists_const] at run
  rcases run with ⟨_, _, _, rfl⟩
  exact .setFactoryPaused

theorem effect_of_createStream {sender : Address} {params : CreateStreamParams} {streamId : ℕ}
    (run : Runs (createStream sender params) env s streamId s') :
    Effect env s (.createStream sender params) s' := by
  rcases runs_createStream.mp run with ⟨policy, loaded, unpaused, admitted, _, replied, rfl⟩
  exact .createStream loaded unpaused admitted replied

theorem effect_of_createStreams {sender : Address} {streams : List CreateStreamParams}
    {streamIds : List ℕ} (run : Runs (createStreams sender streams) env s streamIds s') :
    Effect env s (.createStreams sender streams) s' := by
  rcases runs_createStreams.mp run with ⟨policy, loaded, _, unpaused, admitted, sums,
    ⟨rfl, _, rfl⟩ | ⟨nonempty, replied, rfl⟩⟩
  · exact .createNoStreams
  · refine .createStreams loaded unpaused admitted (fun enforced => ?_) replied
    have total := (sums enforced).total_le nonempty
    rwa [zero_add] at total

/-- A successful call has the effect listed for it. -/
theorem Call.effect (run : Runs call.run env s done s') : Effect env s call s' := by
  cases call with
  | init admin streamContract maxDeposit minDuration => exact effect_of_init run
  | setAdmin newAdmin => exact effect_of_setAdmin run
  | setStreamContract newStreamContract => exact effect_of_setStreamContract run
  | setAllowlist recipient allowed => exact effect_of_setAllowlist run
  | setCap maxDeposit => exact effect_of_setCap run
  | setMinDuration minDuration => exact effect_of_setMinDuration run
  | setBatchCapEnforcement enabled => exact effect_of_setBatchCapEnforcement run
  | setRateBounds minRate maxRate => exact effect_of_setRateBounds run
  | setFactoryPaused paused => exact effect_of_setFactoryPaused run
  | createStream sender params =>
      simp only [Call.run, runs_bind, runs_pure] at run
      rcases run with ⟨_, _, run, _, rfl⟩
      exact effect_of_createStream run
  | createStreams sender streams =>
      simp only [Call.run, runs_bind, runs_pure] at run
      rcases run with ⟨_, _, run, _, rfl⟩
      exact effect_of_createStreams run

end Effects

/-- Every list of invocations is a run. -/
theorem recorded_played (inputs : List Invocation) :
    Recorded (ClockedSystem.playedPast Invocation.next inputs .deployed)
      (ClockedSystem.play Invocation.next inputs .deployed) := by
  have ordered : ClockedSystem.Ordered (fun _ : Invocation => 0) inputs 0 := by
    induction inputs with
    | nil => trivial
    | cons _ _ ih => exact ⟨le_rfl, ih⟩
  have stays : ClockedSystem.finish (fun _ : Invocation => 0) inputs 0 = 0 := by
    induction inputs with
    | nil => rfl
    | cons _ _ ih => exact ih ordered.2
  have recorded : system.Recorded (fun _ _ => True)
      (ClockedSystem.playedPast Invocation.next inputs .deployed)
      (ClockedSystem.finish (fun _ => 0) inputs 0)
      (ClockedSystem.play Invocation.next inputs .deployed) :=
    ClockedSystem.recorded_played ordered rfl
  rwa [stays] at recorded

/-! ## A factory to run calls on -/

namespace Sample

/-- An invocation that the account `key` authorises, while the stream contract hands out ids from
`nextStreamId` on. -/
def invocation (key nextStreamId : ℕ) (call : Call) : Invocation where
  env :=
    { auth := fun address => decide (address = .account key)
      version := fun _ => true
      createStream := fun _ _ _ => .created nextStreamId
      createStreams := fun _ _ streams =>
        some ((List.range streams.length).map (nextStreamId + ·)) }
  call

def params (deposit : ℤ) : CreateStreamParams where
  recipient := .account 2
  depositAmount := deposit
  ratePerSecond := 10
  startTime := 0
  cliffTime := 0
  endTime := 100
  withdrawDustThreshold := none
  memo := none
  metadata := none
  kind := .linear

/-- A single stream and a batch of two, under a cap of 2500 and with bounded rates. -/
def created : List Invocation :=
  [invocation 0 0 (.init (.account 0) (.contract 1) 2500 50),
    invocation 0 0 (.setRateBounds (some 1) (some 20)),
    invocation 0 0 (.setAllowlist (.account 2) true),
    invocation 1 0 (.createStream (.account 1) (params 2000)),
    invocation 1 1 (.createStreams (.account 1) [params 1000, params 1500])]

end Sample

end Wallie.Factory
