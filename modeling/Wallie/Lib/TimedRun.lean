import Mathlib.Order.Defs.PartialOrder

/-!
# Runs of a clocked system

A system moves from state to state on inputs that carry an instant. A run starts
in an initial state and takes steps at instants that never go back; between two
steps the clock may advance alone. `permitted` restricts the inputs a run may
take in a given state, so that one induction rule serves every family of runs.
-/

/-- A system with states `σ`, inputs `ι` and instants `τ`. -/
structure ClockedSystem (σ ι τ : Type*) where
  initial : τ → σ → Prop
  clock : ι → τ
  step : σ → ι → σ → Prop

namespace ClockedSystem

variable {σ ι τ : Type*} [Preorder τ]

/-- The states reached at an instant by runs whose inputs are all permitted. -/
inductive Reachable (system : ClockedSystem σ ι τ) (permitted : σ → ι → Prop) :
    τ → σ → Prop where
  | start {instant : τ} {state : σ} (isInitial : system.initial instant state) :
      Reachable system permitted instant state
  | tick {instant later : τ} {state : σ} (reached : Reachable system permitted instant state)
      (order : instant ≤ later) : Reachable system permitted later state
  | move {instant : τ} {state next : σ} {input : ι}
      (reached : Reachable system permitted instant state)
      (order : instant ≤ system.clock input) (allowed : permitted state input)
      (moved : system.step state input next) :
      Reachable system permitted (system.clock input) next

variable {system : ClockedSystem σ ι τ} {permitted permitted' : σ → ι → Prop}
  {instant : τ} {state : σ}

/-- What holds initially, survives the passing of time and every permitted step, holds of
every reachable state. -/
theorem Reachable.invariant (holds : τ → σ → Prop)
    (reached : system.Reachable permitted instant state)
    (initially : ∀ instant state, system.initial instant state → holds instant state)
    (ticks : ∀ instant later state, instant ≤ later → holds instant state → holds later state)
    (steps : ∀ state input next, permitted state input → system.step state input next →
      holds (system.clock input) state → holds (system.clock input) next) :
    holds instant state := by
  induction reached with
  | start isInitial => exact initially _ _ isInitial
  | tick _ order ih => exact ticks _ _ _ order ih
  | move _ order allowed moved ih =>
      exact steps _ _ _ allowed moved (ticks _ _ _ order ih)

/-- Fewer permitted inputs reach fewer states. -/
theorem Reachable.mono (reached : system.Reachable permitted instant state)
    (weaker : ∀ state input, permitted state input → permitted' state input) :
    system.Reachable permitted' instant state := by
  induction reached with
  | start isInitial => exact .start isInitial
  | tick _ order ih => exact .tick ih order
  | move _ order allowed moved ih => exact .move ih order (weaker _ _ allowed) moved

/-- The states a run can continue to from a given state. -/
inductive Continues (system : ClockedSystem σ ι τ) (permitted : σ → ι → Prop)
    (instant : τ) (state : σ) : τ → σ → Prop where
  | here : Continues system permitted instant state instant state
  | tick {middle later : τ} {current : σ}
      (continued : Continues system permitted instant state middle current)
      (order : middle ≤ later) : Continues system permitted instant state later current
  | move {middle : τ} {current next : σ} {input : ι}
      (continued : Continues system permitted instant state middle current)
      (order : middle ≤ system.clock input) (allowed : permitted current input)
      (moved : system.step current input next) :
      Continues system permitted instant state (system.clock input) next

/-- The clock of a continuation does not go back. -/
theorem Continues.order {later : τ} {final : σ}
    (continued : system.Continues permitted instant state later final) : instant ≤ later := by
  induction continued with
  | here => exact le_rfl
  | tick _ order ih => exact le_trans ih order
  | move _ order _ _ ih => exact le_trans ih order

/-- A continuation of a run is a run. -/
theorem Continues.reachable {later : τ} {final : σ}
    (continued : system.Continues permitted instant state later final)
    (reached : system.Reachable permitted instant state) :
    system.Reachable permitted later final := by
  induction continued with
  | here => exact reached
  | tick _ order ih => exact .tick ih order
  | move _ order allowed moved ih => exact .move ih order allowed moved

/-- Fewer permitted inputs allow fewer continuations. -/
theorem Continues.mono {later : τ} {final : σ}
    (continued : system.Continues permitted instant state later final)
    (weaker : ∀ state input, permitted state input → permitted' state input) :
    system.Continues permitted' instant state later final := by
  induction continued with
  | here => exact .here
  | tick _ order ih => exact .tick ih order
  | move _ order allowed moved ih => exact .move ih order (weaker _ _ allowed) moved

/-- A continuation of a continuation is one. -/
theorem Continues.trans {middle later : τ} {current final : σ}
    (continued : system.Continues permitted instant state middle current)
    (further : system.Continues permitted middle current later final) :
    system.Continues permitted instant state later final := by
  induction further with
  | here => exact continued
  | tick _ order ih => exact .tick ih order
  | move _ order allowed moved ih => exact .move ih order allowed moved

/-- The states of a run with its past: the inputs taken so far, the latest first, each with the
state it found. -/
inductive Recorded (system : ClockedSystem σ ι τ) (permitted : σ → ι → Prop) :
    List (σ × ι) → τ → σ → Prop where
  | start {instant : τ} {state : σ} (isInitial : system.initial instant state) :
      Recorded system permitted [] instant state
  | tick {past : List (σ × ι)} {instant later : τ} {state : σ}
      (recorded : Recorded system permitted past instant state) (order : instant ≤ later) :
      Recorded system permitted past later state
  | move {past : List (σ × ι)} {instant : τ} {state next : σ} {input : ι}
      (recorded : Recorded system permitted past instant state)
      (order : instant ≤ system.clock input) (allowed : permitted state input)
      (moved : system.step state input next) :
      Recorded system permitted ((state, input) :: past) (system.clock input) next

variable {past : List (σ × ι)}

theorem Recorded.reachable (recorded : system.Recorded permitted past instant state) :
    system.Reachable permitted instant state := by
  induction recorded with
  | start isInitial => exact .start isInitial
  | tick _ order ih => exact .tick ih order
  | move _ order allowed moved ih => exact .move ih order allowed moved

/-- Every input was taken at the end of a shorter run. -/
theorem Recorded.before {later earlier : List (σ × ι)} {found : σ} {input : ι}
    (recorded : system.Recorded permitted (later ++ (found, input) :: earlier) instant state) :
    ∃ start, system.Recorded permitted earlier start found ∧ start ≤ system.clock input := by
  generalize split : later ++ (found, input) :: earlier = past at recorded
  induction recorded generalizing later with
  | start _ => exact absurd split (List.append_ne_nil_of_right_ne_nil _ (List.cons_ne_nil _ _))
  | tick _ _ ih => exact ih split
  | move recorded order _ _ ih =>
      cases later with
      | nil =>
          rw [List.nil_append, List.cons.injEq, Prod.mk.injEq] at split
          rcases split with ⟨⟨rfl, rfl⟩, rfl⟩
          exact ⟨_, recorded, order⟩
      | cons latest others =>
          rw [List.cons_append, List.cons.injEq] at split
          exact ih split.2

/-- Every input was taken in the state it is recorded with, and the run went on from there. -/
theorem Recorded.split {later earlier : List (σ × ι)} {found : σ} {input : ι}
    (recorded : system.Recorded permitted (later ++ (found, input) :: earlier) instant state) :
    ∃ start next, system.Recorded permitted earlier start found ∧ start ≤ system.clock input ∧
      system.step found input next ∧
      system.Continues permitted (system.clock input) next instant state := by
  generalize whole : later ++ (found, input) :: earlier = past at recorded
  induction recorded generalizing later with
  | start _ => exact absurd whole (List.append_ne_nil_of_right_ne_nil _ (List.cons_ne_nil _ _))
  | tick _ order ih =>
      rcases ih whole with ⟨start, next, before, sooner, moved, continued⟩
      exact ⟨start, next, before, sooner, moved, .tick continued order⟩
  | @move past start current after latest recorded order allowed moved ih =>
      cases later with
      | nil =>
          rw [List.nil_append, List.cons.injEq, Prod.mk.injEq] at whole
          rcases whole with ⟨⟨rfl, rfl⟩, rfl⟩
          exact ⟨start, after, recorded, order, moved, .here⟩
      | cons entry others =>
          rw [List.cons_append, List.cons.injEq] at whole
          rcases ih whole.2 with ⟨start, next, before, sooner, moved', continued⟩
          exact ⟨start, next, before, sooner, moved', .move continued order allowed moved⟩

/-- What holds initially and is kept by every permitted step holds of every run and its past. -/
theorem Recorded.invariant (holds : List (σ × ι) → σ → Prop)
    (recorded : system.Recorded permitted past instant state)
    (initially : ∀ instant state, system.initial instant state → holds [] state)
    (steps : ∀ past state input next, permitted state input → system.step state input next →
      holds past state → holds ((state, input) :: past) next) : holds past state := by
  induction recorded with
  | start isInitial => exact initially _ _ isInitial
  | tick _ _ ih => exact ih
  | move _ _ allowed moved ih => exact steps _ _ _ _ allowed moved ih

/-- Every run has a past. -/
theorem Reachable.recorded (reached : system.Reachable permitted instant state) :
    ∃ past, system.Recorded permitted past instant state := by
  induction reached with
  | start isInitial => exact ⟨[], .start isInitial⟩
  | tick _ order ih =>
      rcases ih with ⟨past, recorded⟩
      exact ⟨past, .tick recorded order⟩
  | move _ order allowed moved ih =>
      rcases ih with ⟨past, recorded⟩
      exact ⟨_, .move recorded order allowed moved⟩

/-! ## Deterministic systems -/

/-- The system in which an input leads to exactly one state. -/
def deterministic (initial : τ → σ → Prop) (clock : ι → τ) (next : ι → σ → σ) :
    ClockedSystem σ ι τ where
  initial
  clock
  step := fun state input final => final = next input state

section Deterministic

variable {initial : τ → σ → Prop} {clock : ι → τ} {next : ι → σ → σ}

/-- The state after a list of inputs. -/
def play (next : ι → σ → σ) : List ι → σ → σ
  | [], state => state
  | input :: rest, state => play next rest (next input state)

/-- The inputs with the states they find, the latest first. -/
def playedPast (next : ι → σ → σ) : List ι → σ → List (σ × ι)
  | [], _ => []
  | input :: rest, state => playedPast next rest (next input state) ++ [(state, input)]

/-- The instant of the last input. -/
def finish (clock : ι → τ) : List ι → τ → τ
  | [], instant => instant
  | input :: rest, _ => finish clock rest (clock input)

/-- The instants do not go back. -/
def Ordered (clock : ι → τ) : List ι → τ → Prop
  | [], _ => True
  | input :: rest, instant => instant ≤ clock input ∧ Ordered clock rest (clock input)

theorem recorded_play {inputs : List ι} (ordered : Ordered clock inputs instant)
    (recorded : (deterministic initial clock next).Recorded (fun _ _ => True) past instant state) :
    (deterministic initial clock next).Recorded (fun _ _ => True)
      (playedPast next inputs state ++ past) (finish clock inputs instant)
      (play next inputs state) := by
  induction inputs generalizing instant state past with
  | nil => exact recorded
  | cons input rest ih =>
      rcases ordered with ⟨order, ordered⟩
      have moved : (deterministic initial clock next).step state input (next input state) := rfl
      have recorded' := ih ordered (.move recorded order trivial moved)
      rw [playedPast, List.append_assoc, List.singleton_append]
      exact recorded'

/-- A list of inputs in order is a run. -/
theorem recorded_played {inputs : List ι} (ordered : Ordered clock inputs instant)
    (isInitial : initial instant state) :
    (deterministic initial clock next).Recorded (fun _ _ => True) (playedPast next inputs state)
      (finish clock inputs instant) (play next inputs state) := by
  have start : (deterministic initial clock next).Recorded (fun _ _ => True) [] instant state :=
    .start isInitial
  have recorded := recorded_play ordered start
  rwa [List.append_nil] at recorded

/-- A list of inputs in order continues a run. -/
theorem continues_play {inputs : List ι} {start : τ} {before : σ}
    (ordered : Ordered clock inputs instant)
    (continued : (deterministic initial clock next).Continues (fun _ _ => True) start before
      instant state) :
    (deterministic initial clock next).Continues (fun _ _ => True) start before
      (finish clock inputs instant) (play next inputs state) := by
  induction inputs generalizing instant state with
  | nil => exact continued
  | cons input rest ih =>
      rcases ordered with ⟨order, ordered⟩
      have moved : (deterministic initial clock next).step state input (next input state) := rfl
      exact ih ordered (.move continued order trivial moved)

end Deterministic

end ClockedSystem
