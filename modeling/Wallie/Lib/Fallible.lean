import Mathlib.Tactic.Common

/-!
# Computations that may fail

A `Fallible` computation reads an environment, updates a state and may fail.
A failure carries no state, so the caller keeps the state it started from:
`Fallible.commit` is that all-or-nothing reading of a computation.

Proofs about such computations never unfold the monad. `Fallible.Runs` relates
an environment and a start state to the value and the final state of a
successful run, and each combinator has one rewriting rule for it.
-/

/-- A computation with environment `ρ`, state `σ` and failures `ε`. -/
abbrev Fallible (ρ σ ε : Type) (α : Type) : Type :=
  ReaderT ρ (StateT σ (Except ε)) α

namespace Fallible

variable {ρ σ ε α β : Type}

/-- Fail, leaving no state. -/
def reject (failure : ε) : Fallible ρ σ ε α :=
  fun _ _ => .error failure

/-- A reading of the environment. -/
def ask (reading : ρ → α) : Fallible ρ σ ε α :=
  fun environment state => .ok (reading environment, state)

/-- A reading of the state. -/
def peek (reading : σ → α) : Fallible ρ σ ε α :=
  fun _ state => .ok (reading state, state)

/-- A change of the state that cannot fail. -/
def update (change : σ → σ) : Fallible ρ σ ε Unit :=
  fun _ state => .ok ((), change state)

/-- Fail with `failure` when `condition` holds. -/
def rejectIf (condition : Prop) [Decidable condition] (failure : ε) : Fallible ρ σ ε Unit :=
  if condition then reject failure else pure ()

/-- The value of an option, or `failure` when there is none. -/
def getOrReject (value : Option α) (failure : ε) : Fallible ρ σ ε α :=
  match value with
  | some result => pure result
  | none => reject failure

/-- Run a computation and hand a recoverable failure to the caller, in the state before it. -/
def attempt (computation : Fallible ρ σ ε α) (recoverable : ε → Option β) :
    Fallible ρ σ ε (Except β α) :=
  fun environment state =>
    match computation environment state with
    | .ok (result, final) => .ok (.ok result, final)
    | .error failure =>
        match recoverable failure with
        | some reason => .ok (.error reason, state)
        | none => .error failure

/-- A computation starting at `state` succeeds with `result` and leaves `final`. -/
def Runs (computation : Fallible ρ σ ε α) (environment : ρ) (state : σ)
    (result : α) (final : σ) : Prop :=
  computation environment state = .ok (result, final)

/-- A computation starting at `state` fails with `failure`. -/
def Fails (computation : Fallible ρ σ ε α) (environment : ρ) (state : σ) (failure : ε) : Prop :=
  computation environment state = .error failure

/-- The state after an all-or-nothing run: a failed run changes nothing. -/
def commit (computation : Fallible ρ σ ε α) (environment : ρ) (state : σ) : σ :=
  match computation environment state with
  | .ok (_, final) => final
  | .error _ => state

variable {environment : ρ} {state final : σ} {result : α} {failure : ε}

/-- A computation that evaluates to a result runs. -/
theorem runs_of_toOption {computation : Fallible ρ σ ε α}
    (returned : (computation environment state).toOption = some (result, final)) :
    Runs computation environment state result final := by
  unfold Runs
  cases ran : computation environment state with
  | error _ => simp [ran, Except.toOption] at returned
  | ok pair => simpa [ran, Except.toOption] using returned

/-- A computation whose evaluation returns a result runs to some state. -/
theorem exists_runs_of_toOption {computation : Fallible ρ σ ε α}
    (returned : (computation environment state).toOption.map Prod.fst = some result) :
    ∃ final, Runs computation environment state result final := by
  rcases Option.map_eq_some_iff.mp returned with ⟨pair, ran, rfl⟩
  exact ⟨pair.2, runs_of_toOption ran⟩

@[simp]
theorem runs_pure {value : α} :
    Runs (pure value : Fallible ρ σ ε α) environment state result final ↔
      result = value ∧ final = state := by
  constructor
  · intro run
    have same : (Except.ok (value, state) : Except ε (α × σ)) = .ok (result, final) := run
    cases same
    exact ⟨rfl, rfl⟩
  · rintro ⟨rfl, rfl⟩
    rfl

@[simp]
theorem runs_bind {first : Fallible ρ σ ε α} {next : α → Fallible ρ σ ε β} {output : β} :
    Runs (first >>= next) environment state output final ↔
      ∃ value middle, Runs first environment state value middle ∧
        Runs (next value) environment middle output final := by
  simp only [Runs, bind, ReaderT.bind, StateT.bind, Except.bind]
  cases ran : first environment state with
  | error _ => simp
  | ok pair =>
      rcases pair with ⟨value, middle⟩
      constructor
      · intro run
        exact ⟨value, middle, rfl, run⟩
      · rintro ⟨value', middle', same, run⟩
        simp only [Except.ok.injEq, Prod.mk.injEq] at same
        rcases same with ⟨rfl, rfl⟩
        exact run

/-- A sequence succeeds when its first part does and the rest succeeds from there. -/
theorem Runs.andThen {first : Fallible ρ σ ε α} {next : α → Fallible ρ σ ε β} {value : α}
    {middle : σ} {output : β} (run : Runs first environment state value middle)
    (rest : ∃ final, Runs (next value) environment middle output final) :
    ∃ final, Runs (first >>= next) environment state output final := by
  rcases rest with ⟨final, rest⟩
  exact ⟨final, runs_bind.mpr ⟨value, middle, run, rest⟩⟩

/-- `Runs.andThen` after a part that returns nothing. -/
theorem Runs.followedBy {first : Fallible ρ σ ε Unit} {next : Unit → Fallible ρ σ ε β}
    {middle : σ} {output : β} (run : Runs first environment state () middle)
    (rest : ∃ final, Runs (next ()) environment middle output final) :
    ∃ final, Runs (first >>= next) environment state output final :=
  run.andThen rest

@[simp]
theorem not_runs_reject :
    ¬ Runs (reject failure : Fallible ρ σ ε α) environment state result final := by
  simp [Runs, reject]

@[simp]
theorem runs_ask {reading : ρ → α} :
    Runs (ask reading : Fallible ρ σ ε α) environment state result final ↔
      result = reading environment ∧ final = state := by
  simp only [Runs, ask, Except.ok.injEq, Prod.mk.injEq]
  exact and_congr eq_comm eq_comm

@[simp]
theorem runs_peek {reading : σ → α} :
    Runs (peek reading : Fallible ρ σ ε α) environment state result final ↔
      result = reading state ∧ final = state := by
  simp only [Runs, peek, Except.ok.injEq, Prod.mk.injEq]
  exact and_congr eq_comm eq_comm

@[simp]
theorem runs_update {change : σ → σ} {done : Unit} :
    Runs (update change : Fallible ρ σ ε Unit) environment state done final ↔
      final = change state := by
  simp only [Runs, update, Except.ok.injEq, Prod.mk.injEq, true_and]
  exact eq_comm

@[simp]
theorem runs_rejectIf {condition : Prop} [Decidable condition] {done : Unit} :
    Runs (rejectIf condition failure : Fallible ρ σ ε Unit) environment state done final ↔
      ¬ condition ∧ final = state := by
  unfold rejectIf
  split
  · next holds => simp [holds]
  · next fails => simp [fails]

@[simp]
theorem runs_getOrReject {value : Option α} :
    Runs (getOrReject value failure : Fallible ρ σ ε α) environment state result final ↔
      value = some result ∧ final = state := by
  cases value with
  | none => simp [getOrReject]
  | some found =>
      simp only [getOrReject, runs_pure, Option.some.injEq]
      exact and_congr eq_comm Iff.rfl

/-- A read of what may not be stored. -/
theorem runs_peek_getOrReject {reading : σ → Option α} :
    Runs (peek reading >>= fun value => getOrReject value failure : Fallible ρ σ ε α)
      environment state result final ↔ reading state = some result ∧ final = state := by
  simp only [runs_bind, runs_peek, runs_getOrReject, and_assoc, exists_and_left, exists_eq_left]

/-- An attempt succeeds like the computation, or recovers from its failure without a change. -/
theorem runs_attempt {computation : Fallible ρ σ ε α} {recoverable : ε → Option β}
    {outcome : Except β α} :
    Runs (attempt computation recoverable) environment state outcome final ↔
      (∃ value, outcome = .ok value ∧ Runs computation environment state value final) ∨
        ∃ failure reason, Fails computation environment state failure ∧
          recoverable failure = some reason ∧ outcome = .error reason ∧ final = state := by
  simp only [Runs, Fails, attempt]
  cases computation environment state with
  | ok pair =>
      simp only [Except.ok.injEq, Prod.mk.injEq, reduceCtorEq, false_and, exists_false, or_false]
      constructor
      · rintro ⟨rfl, rfl⟩
        exact ⟨pair.1, rfl, rfl⟩
      · rintro ⟨_, rfl, rfl⟩
        exact ⟨rfl, rfl⟩
  | error reported =>
      cases recovered : recoverable reported with
      | none => simp [recovered]
      | some reason =>
          simp only [recovered, Except.ok.injEq, Prod.mk.injEq, reduceCtorEq, and_false,
            exists_false, false_or, Except.error.injEq]
          constructor
          · rintro ⟨rfl, rfl⟩
            exact ⟨reported, reason, rfl, recovered, rfl, rfl⟩
          · rintro ⟨_, found, rfl, recovered', rfl, rfl⟩
            obtain rfl : reason = found := Option.some.inj (recovered.symm.trans recovered')
            exact ⟨rfl, rfl⟩

/-- An attempt either succeeds like the computation or recovers without a change. -/
theorem Runs.attempt_cases {computation : Fallible ρ σ ε α} {recoverable : ε → Option β}
    {outcome : Except β α}
    (run : Runs (attempt computation recoverable) environment state outcome final) :
    (∃ value, outcome = .ok value ∧ Runs computation environment state value final) ∨
      (∃ reason, outcome = .error reason) ∧ final = state := by
  rcases runs_attempt.mp run with succeeds | ⟨_, reason, _, _, outcome, same⟩
  · exact Or.inl succeeds
  · exact Or.inr ⟨⟨reason, outcome⟩, same⟩

theorem runs_ite {condition : Prop} [Decidable condition]
    {whenTrue whenFalse : Fallible ρ σ ε α} :
    Runs (if condition then whenTrue else whenFalse) environment state result final ↔
      condition ∧ Runs whenTrue environment state result final ∨
        ¬ condition ∧ Runs whenFalse environment state result final := by
  split
  · next holds => simp [holds]
  · next fails => simp [fails]

/-- A run has one outcome. -/
theorem Runs.unique {computation : Fallible ρ σ ε α} {result' : α} {final' : σ}
    (run : Runs computation environment state result final)
    (run' : Runs computation environment state result' final') :
    result = result' ∧ final = final' := by
  have same := run.symm.trans run'
  simpa using same

/-! ## Failures -/

theorem runs_or_fails (computation : Fallible ρ σ ε α) (environment : ρ) (state : σ) :
    (∃ result final, Runs computation environment state result final) ∨
      ∃ failure, Fails computation environment state failure := by
  cases ran : computation environment state with
  | ok pair => exact Or.inl ⟨pair.1, pair.2, ran⟩
  | error failure => exact Or.inr ⟨failure, ran⟩

theorem Runs.not_fails {computation : Fallible ρ σ ε α}
    (run : Runs computation environment state result final) :
    ¬ Fails computation environment state failure := by
  intro fails
  have same := run.symm.trans fails
  cases same

/-- A computation succeeds exactly when no failure is reported. -/
theorem exists_runs_iff {computation : Fallible ρ σ ε α} :
    (∃ result final, Runs computation environment state result final) ↔
      ∀ failure, ¬ Fails computation environment state failure := by
  constructor
  · rintro ⟨result, final, run⟩ failure
    exact run.not_fails
  · intro unfailing
    rcases runs_or_fails computation environment state with succeeds | ⟨failure, fails⟩
    · exact succeeds
    · exact absurd fails (unfailing failure)

section Failures

variable {reported : ε}

@[simp]
theorem not_fails_pure {value : α} :
    ¬ Fails (pure value : Fallible ρ σ ε α) environment state failure :=
  Runs.not_fails (runs_pure.mpr ⟨rfl, rfl⟩)

@[simp]
theorem not_fails_ask {reading : ρ → α} :
    ¬ Fails (ask reading : Fallible ρ σ ε α) environment state failure :=
  Runs.not_fails (runs_ask.mpr ⟨rfl, rfl⟩)

@[simp]
theorem not_fails_peek {reading : σ → α} :
    ¬ Fails (peek reading : Fallible ρ σ ε α) environment state failure :=
  Runs.not_fails (runs_peek.mpr ⟨rfl, rfl⟩)

@[simp]
theorem not_fails_update {change : σ → σ} :
    ¬ Fails (update change : Fallible ρ σ ε Unit) environment state failure := by
  have run : Runs (update change : Fallible ρ σ ε Unit) environment state () (change state) :=
    runs_update.mpr rfl
  exact run.not_fails

@[simp]
theorem fails_reject :
    Fails (reject reported : Fallible ρ σ ε α) environment state failure ↔
      failure = reported := by
  simp only [Fails, reject, Except.error.injEq]
  exact eq_comm

@[simp]
theorem fails_bind {first : Fallible ρ σ ε α} {next : α → Fallible ρ σ ε β} :
    Fails (first >>= next) environment state failure ↔
      Fails first environment state failure ∨
        ∃ value middle, Runs first environment state value middle ∧
          Fails (next value) environment middle failure := by
  simp only [Fails, Runs, bind, ReaderT.bind, StateT.bind, Except.bind]
  cases first environment state with
  | error _ => simp
  | ok pair =>
      rcases pair with ⟨value, middle⟩
      simp only [reduceCtorEq, false_or, Except.ok.injEq, Prod.mk.injEq]
      constructor
      · intro fails
        exact ⟨value, middle, ⟨rfl, rfl⟩, fails⟩
      · rintro ⟨_, _, ⟨rfl, rfl⟩, fails⟩
        exact fails

@[simp]
theorem fails_rejectIf {condition : Prop} [Decidable condition] :
    Fails (rejectIf condition reported : Fallible ρ σ ε Unit) environment state failure ↔
      condition ∧ failure = reported := by
  unfold rejectIf
  split
  · next holds => simp [holds]
  · next fails => simp [fails]

@[simp]
theorem fails_getOrReject {value : Option α} :
    Fails (getOrReject value reported : Fallible ρ σ ε α) environment state failure ↔
      value = none ∧ failure = reported := by
  cases value with
  | none => simp [getOrReject]
  | some found => simp [getOrReject]

theorem fails_ite {condition : Prop} [Decidable condition]
    {whenTrue whenFalse : Fallible ρ σ ε α} :
    Fails (if condition then whenTrue else whenFalse) environment state failure ↔
      condition ∧ Fails whenTrue environment state failure ∨
        ¬ condition ∧ Fails whenFalse environment state failure := by
  split
  · next holds => simp [holds]
  · next fails => simp [fails]

end Failures

theorem commit_of_runs {computation : Fallible ρ σ ε α}
    (run : Runs computation environment state result final) :
    computation.commit environment state = final := by
  unfold commit
  rw [run]

theorem commit_of_fails {computation : Fallible ρ σ ε α}
    (fails : ∀ result final, ¬ Runs computation environment state result final) :
    computation.commit environment state = state := by
  unfold commit
  cases ran : computation environment state with
  | error _ => rfl
  | ok pair => exact absurd ran (fails pair.1 pair.2)

/-- An all-or-nothing run either succeeds or leaves the state alone. -/
theorem commit_cases (computation : Fallible ρ σ ε α) (environment : ρ) (state : σ) :
    (∃ result, Runs computation environment state result
      (computation.commit environment state)) ∨
      computation.commit environment state = state := by
  unfold commit
  cases ran : computation environment state with
  | error _ => exact Or.inr rfl
  | ok pair => exact Or.inl ⟨pair.1, by simpa [Runs] using ran⟩

end Fallible
