import Wallie.Factory.Runs

/-!
# Batches and single streams of the factory

The two creating entrypoints write the policy out separately. Both refuse what
the first violated check refuses: `FactoryPolicy.violation` lists the checks of
one entry in their order, and `State.refusal` is what a request of several
entries fails with.
-/

namespace Wallie.Factory

open Fallible
open StreamContract (Address CreateStreamParams maxMemoBytes)

variable {env : Env} {s s' : State} {policy : FactoryPolicy} {sender : Address}
  {params : CreateStreamParams} {streams : List CreateStreamParams} {failure : Failure}

/-- The check that an entry fails first. -/
def FactoryPolicy.violation (policy : FactoryPolicy) (allowlist : Address → Bool)
    (params : CreateStreamParams) : Option FactoryError :=
  if allowlist params.recipient = false then some .recipientNotAllowlisted
  else if policy.maxDeposit < params.depositAmount then some .depositExceedsCap
  else if params.endTime ≤ params.startTime then some .invalidTimeRange
  else if params.cliffTime < params.startTime ∨ params.endTime < params.cliffTime then
    some .invalidCliff
  else if params.endTime - params.startTime < policy.minDuration then some .durationTooShort
  else if ∃ minRate ∈ policy.minRatePerSecond, params.ratePerSecond < minRate then
    some .rateBelowMin
  else if ∃ maxRate ∈ policy.maxRatePerSecond, maxRate < params.ratePerSecond then
    some .rateAboveMax
  else if ∃ memo ∈ params.memo, maxMemoBytes < memo.length then some .invalidMemo
  else none

/-- What a request fails with, while nothing limits the sum of its deposits. -/
def State.refusal (s : State) (streams : List CreateStreamParams) : Option FactoryError :=
  match s.policy with
  | none => some .notInitialized
  | some policy =>
      if policy.creationPaused then some .creationPaused
      else streams.findSome? (policy.violation s.allowlist)

/-- The checks of one entry, which both entrypoints write out. -/
def checkEntry (policy : FactoryPolicy) (params : CreateStreamParams) : Contract Unit := do
  let isAllowed ← peek fun s => s.allowlist params.recipient
  rejectIf (isAllowed = false) (.error .recipientNotAllowlisted)
  rejectIf (policy.maxDeposit < params.depositAmount) (.error .depositExceedsCap)
  rejectIf (params.endTime ≤ params.startTime) (.error .invalidTimeRange)
  rejectIf (params.cliffTime < params.startTime ∨ params.endTime < params.cliffTime)
    (.error .invalidCliff)
  rejectIf (params.endTime - params.startTime < policy.minDuration) (.error .durationTooShort)
  validateRateBounds params.ratePerSecond policy.minRatePerSecond policy.maxRatePerSecond
  rejectIf (∃ memo ∈ params.memo, maxMemoBytes < memo.length) (.error .invalidMemo)

theorem createStream_eq :
    createStream sender params = (do
      let policy ← loadPolicy
      rejectIf (policy.creationPaused = true) (.error .creationPaused)
      checkEntry policy params
      requireAuth sender
      let streamId ← tryCreateStream policy.streamContract sender params
      appendStreamId streamId
      publish (.fctStrm streamId sender params.recipient params.depositAmount
        params.ratePerSecond)
      return streamId) := by
  simp only [createStream, checkEntry, validateRateBounds, bind_assoc]

theorem validateEntries_cons {rest : List CreateStreamParams} {total : ℤ} :
    validateEntries policy (params :: rest) total = (do
      checkEntry policy params
      let total ← addToBatch policy total params.depositAmount
      validateEntries policy rest total) := by
  simp only [validateEntries, checkEntry, bind_assoc]

theorem FactoryPolicy.violation_eq_none {allowlist : Address → Bool} :
    policy.violation allowlist params = none ↔ policy.Admits allowlist params := by
  rw [FactoryPolicy.admits_iff]
  simp only [FactoryPolicy.violation, ite_eq_iff, reduceCtorEq, and_false, false_or, not_exists,
    not_and, not_or, not_lt, not_le, and_true]

theorem runs_checkEntry {done : Unit} :
    Runs (checkEntry policy params) env s done s' ↔
      policy.violation s.allowlist params = none ∧ s' = s := by
  rw [FactoryPolicy.violation_eq_none, FactoryPolicy.admits_iff]
  simp only [checkEntry, runs_bind, runs_peek, runs_rejectIf, runs_validateRateBounds, and_assoc,
    exists_and_left, exists_eq_left, exists_const, not_exists, not_and, not_or, not_lt, not_le]

theorem fails_checkEntry :
    Fails (checkEntry policy params) env s failure ↔
      ∃ error, policy.violation s.allowlist params = some error ∧ failure = .error error := by
  simp only [checkEntry, validateRateBounds, bind_assoc, fails_bind, not_fails_peek, runs_peek,
    fails_rejectIf, runs_rejectIf, false_or, and_assoc, exists_and_left, exists_eq_left,
    exists_const]
  simp only [FactoryPolicy.violation, ite_eq_iff, reduceCtorEq, and_false, or_false,
    Option.some.injEq, or_and_right, and_assoc, exists_or, exists_and_left, exists_eq_left']

theorem fails_requireAuth {address : Address} :
    Fails (requireAuth address) env s failure ↔
      env.auth address = false ∧ failure = .trap := by
  simp [requireAuth]

theorem fails_loadPolicy :
    Fails loadPolicy env s failure ↔ s.policy = none ∧ failure = .error .notInitialized := by
  simp only [loadPolicy, State.policy, fails_bind, not_fails_peek, runs_peek, fails_getOrReject,
    runs_getOrReject, not_fails_pure, false_or, and_false, and_assoc, exists_and_left,
    exists_eq_left, exists_const]
  cases s.streamContract with
  | none => simp
  | some _ =>
      cases s.maxDepositCap with
      | none => simp
      | some _ =>
          cases s.minDuration with
          | none => simp
          | some _ =>
              cases s.batchCapEnforced with
              | none => simp
              | some _ => simp

/-- The loop stops at the first entry that violates a check. -/
theorem fails_validateEntries (uncapped : policy.batchCapEnforced = false) {total : ℤ} :
    Fails (validateEntries policy streams total) env s failure ↔
      ∃ error, streams.findSome? (policy.violation s.allowlist) = some error ∧
        failure = .error error := by
  induction streams generalizing total with
  | nil => simp [validateEntries]
  | cons params rest ih =>
      simp only [validateEntries_cons, fails_bind, fails_checkEntry, runs_checkEntry,
        List.findSome?_cons]
      cases policy.violation s.allowlist params with
      | some error => simp
      | none => simp [addToBatch, uncapped, ih]

theorem batchCapEnforced_of_policy (loaded : s.policy = some policy) :
    s.batchCapEnforced = some policy.batchCapEnforced := by
  simp only [State.policy, Option.bind_eq_bind, Option.bind_eq_some_iff, Option.pure_def,
    Option.some.injEq] at loaded
  rcases loaded with ⟨_, _, _, _, _, _, enforced, stored, rfl⟩
  exact stored

/-- A host whose stream contract grants every request. -/
structure Env.Grants (env : Env) : Prop where
  single : ∀ streamContract sender params,
    ∃ streamId, env.createStream streamContract sender params = .created streamId
  batch : ∀ streamContract sender streams,
    ∃ streamIds, env.createStreams streamContract sender streams = some streamIds

theorem Env.Grants.not_fails_tryCreateStream (grants : env.Grants) {streamContract : Address} :
    ¬ Fails (tryCreateStream streamContract sender params) env s failure := by
  rcases grants.single streamContract sender params with ⟨streamId, granted⟩
  exact Runs.not_fails (runs_tryCreateStream.mpr ⟨granted, rfl⟩)

theorem Env.Grants.not_fails_requestStreams (grants : env.Grants) {streamContract : Address} :
    ¬ Fails (requestStreams streamContract sender streams) env s failure := by
  rcases grants.batch streamContract sender streams with ⟨streamIds, granted⟩
  exact Runs.not_fails (runs_requestStreams.mpr ⟨granted, rfl⟩)

theorem not_fails_appendStreamIdsBatch {streamIds : List ℕ} :
    ¬ Fails (appendStreamIdsBatch streamIds) env s failure := by
  have run : Runs (appendStreamIdsBatch streamIds) env s ()
      { s with factoryStreamIds := s.factoryStreamIds ++ streamIds } :=
    runs_appendStreamIdsBatch.mpr rfl
  exact run.not_fails

theorem fails_createStream (authorised : env.auth sender = true) (grants : env.Grants) :
    Fails (createStream sender params) env s failure ↔
      ∃ error, s.refusal [params] = some error ∧ failure = .error error := by
  simp only [createStream_eq, appendStreamId, publish, fails_bind, fails_loadPolicy,
    runs_loadPolicy, fails_rejectIf, runs_rejectIf, fails_checkEntry, runs_checkEntry,
    fails_requireAuth, authorised, grants.not_fails_tryCreateStream, not_fails_update,
    not_fails_pure]
  cases loaded : s.policy with
  | none => simp [State.refusal, loaded]
  | some policy =>
      by_cases paused : policy.creationPaused = true
      · simp [State.refusal, loaded, paused]
      · simp [State.refusal, loaded, paused]

/-- What follows the checks of a batch does not fail. -/
theorem Env.Grants.not_fails_forward (grants : env.Grants) :
    ¬ Fails (if streams = [] then return []
      else do
        let createdIds ← requestStreams policy.streamContract sender streams
        appendStreamIdsBatch createdIds
        return createdIds) env s failure := by
  split
  · exact not_fails_pure
  · simp only [fails_bind, grants.not_fails_requestStreams, not_fails_appendStreamIdsBatch,
      not_fails_pure, and_false, exists_false, or_self, not_false_eq_true]

theorem fails_createStreams (authorised : env.auth sender = true) (grants : env.Grants)
    (uncapped : s.batchCapEnforced = some false) :
    Fails (createStreams sender streams) env s failure ↔
      ∃ error, s.refusal streams = some error ∧ failure = .error error := by
  simp only [createStreams, fails_bind, fails_loadPolicy, runs_loadPolicy, fails_requireAuth,
    runs_requireAuth, fails_rejectIf, runs_rejectIf, authorised, grants.not_fails_forward]
  cases loaded : s.policy with
  | none => simp [State.refusal, loaded]
  | some policy =>
      have unenforced : policy.batchCapEnforced = false := by
        have stored := batchCapEnforced_of_policy loaded
        rw [uncapped] at stored
        exact (Option.some.inj stored).symm
      by_cases paused : policy.creationPaused = true
      · simp [State.refusal, loaded, paused]
      · simp [State.refusal, loaded, paused, fails_validateEntries unenforced]

theorem succeeds_iff_of_fails {α : Type} {call : Contract α} {refusal : Option FactoryError}
    (fails : ∀ failure, Fails call env s failure ↔
      ∃ error, refusal = some error ∧ failure = .error error) :
    (∃ result s', Runs call env s result s') ↔ refusal = none := by
  rw [exists_runs_iff, Option.eq_none_iff_forall_ne_some]
  constructor
  · intro unfailing error refused
    exact unfailing _ ((fails _).mpr ⟨error, refused, rfl⟩)
  · intro unrefused failure failed
    rcases (fails failure).mp failed with ⟨error, refused, _⟩
    exact unrefused error refused

theorem State.refusal_cons {rest : List CreateStreamParams} :
    s.refusal (params :: rest) = (s.refusal [params]).or (s.refusal rest) := by
  cases loaded : s.policy with
  | none => simp [State.refusal, loaded]
  | some policy =>
      by_cases paused : policy.creationPaused = true
      · simp [State.refusal, loaded, paused]
      · cases found : policy.violation s.allowlist params with
        | none => simp [State.refusal, loaded, paused, found]
        | some error => simp [State.refusal, loaded, paused, found]

theorem State.refusal_nil :
    s.refusal [] = none ↔ ∃ policy, s.policy = some policy ∧ policy.creationPaused = false := by
  cases loaded : s.policy with
  | none => simp [State.refusal, loaded]
  | some policy => simp [State.refusal, loaded]

theorem State.refusal_eq_none_iff (nonempty : streams ≠ []) :
    s.refusal streams = none ↔ ∀ params ∈ streams, s.refusal [params] = none := by
  induction streams with
  | nil => exact absurd rfl nonempty
  | cons params rest ih =>
      cases rest with
      | nil => simp
      | cons next others =>
          rw [State.refusal_cons, Option.or_eq_none_iff, ih (List.cons_ne_nil _ _)]
          simp only [List.forall_mem_cons]

/-- A batch is refused for its first entry that is refused alone. -/
theorem State.refusal_of_first {before after : List CreateStreamParams} {error : FactoryError}
    (passed : ∀ earlier ∈ before, s.refusal [earlier] = none)
    (refused : s.refusal [params] = some error) :
    s.refusal (before ++ params :: after) = some error := by
  induction before with
  | nil => rw [List.nil_append, State.refusal_cons, refused, Option.some_or]
  | cons earlier rest ih =>
      rcases List.forall_mem_cons.mp passed with ⟨first, later⟩
      rw [List.cons_append, State.refusal_cons, first, Option.none_or]
      exact ih later

/-! ## Main results -/

/-- While the sum of a batch is not limited, a batch passes the policy when all of its entries
pass it alone, and an empty one when creation is open; otherwise the first entry that fails alone
decides the error. -/
theorem batch_policy_is_single_policy (authorised : env.auth sender = true)
    (grants : env.Grants) (uncapped : s.batchCapEnforced = some false) :
    (streams ≠ [] →
      ((∃ streamIds s', Runs (createStreams sender streams) env s streamIds s') ↔
        ∀ params ∈ streams,
          ∃ streamId s', Runs (createStream sender params) env s streamId s')) ∧
      (streams = [] →
        ((∃ streamIds s', Runs (createStreams sender streams) env s streamIds s') ↔
          ∃ policy, s.policy = some policy ∧ policy.creationPaused = false)) ∧
      ∀ before params after failure, streams = before ++ params :: after →
        (∀ earlier ∈ before,
          ∃ streamId s', Runs (createStream sender earlier) env s streamId s') →
        Fails (createStream sender params) env s failure →
          Fails (createStreams sender streams) env s failure := by
  have batch : (∃ streamIds s', Runs (createStreams sender streams) env s streamIds s') ↔
      s.refusal streams = none :=
    succeeds_iff_of_fails fun _ => fails_createStreams authorised grants uncapped
  have single : ∀ params, (∃ streamId s', Runs (createStream sender params) env s streamId s') ↔
      s.refusal [params] = none :=
    fun params => succeeds_iff_of_fails fun _ => fails_createStream authorised grants
  refine ⟨fun nonempty => ?_, fun empty => ?_, ?_⟩
  · simp only [batch, single]
    exact State.refusal_eq_none_iff nonempty
  · rw [batch, empty]
    exact State.refusal_nil
  · rintro before params after failure rfl passed failed
    simp only [single] at passed
    rcases (fails_createStream authorised grants).mp failed with ⟨error, refused, rfl⟩
    refine (fails_createStreams authorised grants uncapped).mpr ⟨error, ?_, rfl⟩
    exact State.refusal_of_first passed refused

namespace Sample

/-- An initialised factory that allows one recipient and does not limit the sum of a batch. -/
def uncapped : List Invocation :=
  [invocation 0 0 (.init (.account 0) (.contract 1) 2500 50),
    invocation 0 0 (.setAllowlist (.account 2) true),
    invocation 0 0 (.setBatchCapEnforcement false)]

/-- What the account `1` finds when it calls the factory. -/
def host (call : Call) : Env := (invocation 1 0 call).env

theorem host_grants {call : Call} : (host call).Grants where
  single := fun _ _ _ => ⟨0, rfl⟩
  batch := fun _ _ _ => ⟨_, rfl⟩

end Sample

theorem batch_policy_is_single_policy_uncapped :
    let s := ClockedSystem.play Invocation.next Sample.uncapped .deployed
    let streams := [Sample.params 2000, Sample.params 3000]
    Fails (createStreams (.account 1) streams)
      (Sample.host (.createStreams (.account 1) streams)) s (.error .depositExceedsCap) := by
  intro s streams
  refine (batch_policy_is_single_policy (by decide) Sample.host_grants rfl).2.2
    [Sample.params 2000] (Sample.params 3000) [] _ rfl ?_ rfl
  intro earlier member
  rw [List.mem_singleton.mp member]
  exact ⟨0, _, rfl⟩

/-- An empty batch has no entry that fails, and a paused factory rejects it. -/
theorem not_batch_policy_is_single_policy :
    ¬ ∀ (env : Env) (s : State) (sender : Address) (streams : List CreateStreamParams),
      env.auth sender = true → env.Grants → s.batchCapEnforced = some false →
        ((∃ streamIds s', Runs (createStreams sender streams) env s streamIds s') ↔
          ∀ params ∈ streams,
            ∃ streamId s', Runs (createStream sender params) env s streamId s') := by
  intro policies
  let pausing := Sample.invocation 0 0 (.setFactoryPaused true)
  let s := ClockedSystem.play Invocation.next (Sample.uncapped ++ [pausing]) .deployed
  let env := Sample.host (.createStreams (.account 1) [])
  have passes : ∃ streamIds s', Runs (createStreams (.account 1) []) env s streamIds s' :=
    (policies env s (.account 1) [] (by decide) Sample.host_grants rfl).mpr
      fun params member => absurd member List.not_mem_nil
  have fails : Fails (createStreams (.account 1) []) env s (.error .creationPaused) := rfl
  exact exists_runs_iff.mp passes _ fails

end Wallie.Factory
