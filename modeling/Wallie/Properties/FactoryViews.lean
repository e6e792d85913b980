import Wallie.Factory.Queries

/-!
# What readers of the factory see

The configuration is complete and in range from the initialisation on, which
happens once. The registry only grows at its end, so a reader that turns its
pages while other calls come and go misses nothing.
-/

namespace Wallie.Factory

open Fallible
open StreamContract (Address u32)

variable {env : Env} {s s' start : State} {call : Call} {config : FactoryConfig}
  {read page : List ℕ} {past : List (State × Invocation)}

/-! ## The configuration -/

/-- In every run, either nothing has happened yet, nothing is registered and only an initialisation
can succeed; or the configuration can be read, it is in range and stays so whatever is called next,
and no initialisation succeeds any more. -/
theorem factory_configured_once (recorded : Recorded past s) :
    (s = .deployed ∧ ∀ env (call : Call) s', Runs call.run env s () s' →
      ∃ admin streamContract maxDeposit minDuration,
        call = .init admin streamContract maxDeposit minDuration) ∨
    ∃ config, s.Configured config ∧
      (∀ invocation : Invocation, ∃ config', (invocation.next s).Configured config') ∧
      ∀ env admin streamContract maxDeposit minDuration s',
        ¬ Runs (init admin streamContract maxDeposit minDuration) env s () s' := by
  rcases recorded.configured with rfl | ⟨config, configured⟩
  · exact Or.inl ⟨rfl, fun _ _ _ => init_of_runs_deployed⟩
  · right
    refine ⟨config, configured, configured.next, ?_⟩
    intro env admin streamContract maxDeposit minDuration s' run
    cases effect_of_init run with
    | init undeployed _ _ =>
        rcases runs_getFactoryConfig.mp (configured.stored env) with ⟨stored, _⟩
        rw [undeployed] at stored
        cases stored

/-- A factory that has created streams. -/
theorem factory_configured_once_created :
    let s := ClockedSystem.play Invocation.next Sample.created .deployed
    ∃ config, s.Configured config ∧ config.maxDeposit = 2500 ∧
      (∀ invocation : Invocation, ∃ config', (invocation.next s).Configured config') ∧
      ∀ env admin streamContract maxDeposit minDuration s',
        ¬ Runs (init admin streamContract maxDeposit minDuration) env s () s' := by
  intro s
  have stored : s.maxDepositCap = some 2500 := by decide +kernel
  rcases factory_configured_once (recorded_played Sample.created) with
    ⟨fresh, _⟩ | ⟨config, configured, kept, once⟩
  · change s = .deployed at fresh
    rw [fresh] at stored
    cases stored
  · rcases runs_getFactoryConfig.mp (configured.stored (Sample.invocation 0 0 (.setCap 1)).env) with
      ⟨_, _, cap, _⟩
    have same : some config.maxDeposit = some 2500 := cap.symm.trans stored
    exact ⟨config, configured, Option.some.inj same, kept, once⟩

/-! ## The registry -/

theorem Effect.registry_grows (effect : Effect env s call s') :
    s.factoryStreamIds <+: s'.factoryStreamIds := by
  cases effect with
  | init _ _ _ | setAdmin _ | setStreamContract _ | setAllowlist | setCap _ | setMinDuration _
  | setBatchCapEnforcement | setRateBounds _ _ _ | setFactoryPaused | createNoStreams =>
      exact List.prefix_rfl
  | createStream _ _ _ _ | createStreams _ _ _ _ _ => exact List.prefix_append _ _

theorem Invocation.registry_grows (invocation : Invocation) (s : State) :
    s.factoryStreamIds <+: (invocation.next s).factoryStreamIds := by
  rcases commit_cases invocation.call.run invocation.env s with ⟨_, run⟩ | failed
  · have effect : Effect invocation.env s invocation.call (invocation.next s) := Call.effect run
    exact effect.registry_grows
  · have same : (invocation.next s).factoryStreamIds = s.factoryStreamIds :=
      congrArg State.factoryStreamIds failed
    exact same ▸ List.prefix_rfl

/-- A reader that started at `start` has read `read`, one page after the other, each from where the
last one ended, and other calls have led to `s` meanwhile. -/
inductive Reading (start : State) : List ℕ → State → Prop where
  | opened : Reading start [] start
  | called {read : List ℕ} {s : State} (reading : Reading start read s) (invocation : Invocation) :
      Reading start read (invocation.next s)
  | turned {read page : List ℕ} {s viewed : State} {env : Env} {limit : ℕ}
      (reading : Reading start read s)
      (shown : Runs (getFactoryStreamsPaginated read.length limit) env s page viewed) :
      Reading start (read ++ page) s

/-- A page that follows what was read extends it, up to the end of the registry if the page is
short. -/
theorem page_extends {ids : List ℕ} (size : ℕ) (known : read <+: ids) :
    read ++ (ids.drop read.length).take size <+: ids ∧
      (((ids.drop read.length).take size).length < size →
        read ++ (ids.drop read.length).take size = ids) := by
  rcases known with ⟨rest, rfl⟩
  rw [List.drop_left]
  constructor
  · exact List.prefix_append_right_inj read |>.mpr (List.take_prefix _ _)
  · intro short
    rw [List.length_take] at short
    rw [List.take_of_length_le (by omega)]

/-- What a reader has read is the beginning of the registry. -/
theorem Reading.begins (reading : Reading start read s) : read <+: s.factoryStreamIds := by
  induction reading with
  | opened => exact List.nil_prefix
  | called _ invocation ih => exact ih.trans (invocation.registry_grows _)
  | turned _ shown ih =>
      rcases runs_getFactoryStreamsPaginated.mp shown with ⟨_, rfl, _⟩
      exact (page_extends _ ih).1

/-- Whatever is called between two pages: what a reader has read is always the beginning of the
registry, and all of it if it is as long as the count says. While a page fits between the end of
the registry and the largest `u32`, the next page can be read, it goes on from there, and if it is
shorter than its limit the reader has read the whole registry with it. -/
theorem reader_follows_registry (reading : Reading start read s) :
    read <+: s.factoryStreamIds ∧
      (∀ env, Runs getFactoryStreamCount env s read.length s → read = s.factoryStreamIds) ∧
      (((s.factoryStreamIds.length + 100 : ℕ) : ℤ) ≤ u32.upper →
        ∀ env limit, ∃ page, Runs (getFactoryStreamsPaginated read.length limit) env s page s ∧
          read ++ page <+: s.factoryStreamIds ∧
          (page.length < min limit 100 → read ++ page = s.factoryStreamIds)) := by
  have known := reading.begins
  refine ⟨known, ?_, ?_⟩
  · intro env counted
    exact known.eq_of_length (runs_peek.mp counted).1
  · intro fits env limit
    have capped : min limit maxPageSize ≤ 100 := min_le_right _ _
    have begun := known.length_le
    exact ⟨_, runs_getFactoryStreamsPaginated.mpr ⟨fun _ => by omega, rfl, rfl⟩,
      page_extends _ known⟩

/-- A reader waits while a list of calls is made. -/
theorem Reading.played (reading : Reading start read s) (inputs : List Invocation) :
    Reading start read (ClockedSystem.play Invocation.next inputs s) := by
  induction inputs generalizing s with
  | nil => exact reading
  | cons invocation rest ih => exact ih (reading.called invocation)

/-- The reader asks for one stream after the first creation and for one more after the second. Both
are the beginning of the registry, and a page of five is then short and completes them. -/
theorem reader_follows_registry_created :
    let s := ClockedSystem.play Invocation.next Sample.created .deployed
    s.factoryStreamIds = [0, 1, 2] ∧ ∃ page, Runs (getFactoryStreamsPaginated 2 5)
      (Sample.invocation 9 0 (.setCap 1)).env s page s ∧ [0, 1] ++ page = [0, 1, 2] := by
  intro s
  let env := (Sample.invocation 9 0 (.setCap 1)).env
  let middle := ClockedSystem.play Invocation.next (Sample.created.take 4) .deployed
  have first : Runs (getFactoryStreamsPaginated 0 1) env middle [0] middle :=
    runs_getFactoryStreamsPaginated.mpr ⟨fun _ => by decide, by decide +kernel, rfl⟩
  have second : Runs (getFactoryStreamsPaginated 1 1) env s [1] s :=
    runs_getFactoryStreamsPaginated.mpr ⟨fun _ => by decide, by decide +kernel, rfl⟩
  have before : Reading .deployed [] middle := Reading.opened.played (Sample.created.take 4)
  have between : Reading .deployed [0] s := (before.turned first).played (Sample.created.drop 4)
  have turned : Reading .deployed [0, 1] s := between.turned second
  have registered : s.factoryStreamIds = [0, 1, 2] := by decide +kernel
  rcases reader_follows_registry turned with ⟨_, _, pages⟩
  rcases pages (by rw [registered]; decide) env 5 with ⟨page, shown, _, complete⟩
  have short : page.length < min 5 100 := by
    rcases runs_getFactoryStreamsPaginated.mp shown with ⟨_, rfl, _⟩
    rw [registered]
    decide
  rw [registered] at complete
  exact ⟨registered, page, shown, complete short⟩

end Wallie.Factory
