import Wallie.Lib.Fallible

/-!
# What every successful run keeps

A relation between the states before and after that is reflexive and transitive
holds of a computation if it holds of every update the computation makes. The
rules follow the structure of a computation, so that `simp` reduces a relation
of an entrypoint to one goal for each update, most of which are trivial.
-/

namespace Fallible

variable {ρ σ ε α β : Type}

/-- A relation between states that does nothing and a sequence of steps satisfy. -/
class StepRelation (relation : ρ → σ → σ → Prop) : Prop where
  refl : ∀ environment state, relation environment state state
  trans : ∀ environment first second third, relation environment first second →
    relation environment second third → relation environment first third

/-- Every successful run is related to the state it started from. -/
def Keeps (relation : ρ → σ → σ → Prop) (computation : Fallible ρ σ ε α) : Prop :=
  ∀ ⦃environment state result final⦄, Runs computation environment state result final →
    relation environment state final

variable {relation : ρ → σ → σ → Prop} [StepRelation relation]

@[simp]
theorem keeps_pure {value : α} : Keeps relation (pure value : Fallible ρ σ ε α) := by
  intro environment state result final run
  rcases runs_pure.mp run with ⟨_, rfl⟩
  exact StepRelation.refl _ _

omit [StepRelation relation] in
@[simp]
theorem keeps_reject {failure : ε} :
    Keeps relation (reject failure : Fallible ρ σ ε α) := by
  intro environment state result final run
  exact absurd run not_runs_reject

@[simp]
theorem keeps_ask {reading : ρ → α} : Keeps relation (ask reading : Fallible ρ σ ε α) := by
  intro environment state result final run
  rcases runs_ask.mp run with ⟨_, rfl⟩
  exact StepRelation.refl _ _

@[simp]
theorem keeps_peek {reading : σ → α} : Keeps relation (peek reading : Fallible ρ σ ε α) := by
  intro environment state result final run
  rcases runs_peek.mp run with ⟨_, rfl⟩
  exact StepRelation.refl _ _

@[simp]
theorem keeps_rejectIf {condition : Prop} [Decidable condition] {failure : ε} :
    Keeps relation (rejectIf condition failure : Fallible ρ σ ε Unit) := by
  intro environment state result final run
  rcases runs_rejectIf.mp run with ⟨_, rfl⟩
  exact StepRelation.refl _ _

@[simp]
theorem keeps_getOrReject {value : Option α} {failure : ε} :
    Keeps relation (getOrReject value failure : Fallible ρ σ ε α) := by
  intro environment state result final run
  rcases runs_getOrReject.mp run with ⟨_, rfl⟩
  exact StepRelation.refl _ _

omit [StepRelation relation] in
theorem keeps_update {change : σ → σ}
    (kept : ∀ environment state, relation environment state (change state)) :
    Keeps relation (update change : Fallible ρ σ ε Unit) := by
  intro environment state result final run
  rw [runs_update] at run
  rw [run]
  exact kept environment state

theorem keeps_bind {first : Fallible ρ σ ε α} {next : α → Fallible ρ σ ε β}
    (first_keeps : Keeps relation first) (next_keeps : ∀ value, Keeps relation (next value)) :
    Keeps relation (first >>= next) := by
  intro environment state result final run
  rcases runs_bind.mp run with ⟨value, middle, ran, rest⟩
  exact StepRelation.trans _ _ _ _ (first_keeps ran) (next_keeps value rest)

/-- The rest of a computation may rely on what holds of every value its first part returns. -/
theorem keeps_bind_of {first : Fallible ρ σ ε α} {next : α → Fallible ρ σ ε β}
    {Returned : α → Prop} (first_keeps : Keeps relation first)
    (returns : ∀ ⦃environment state value final⦄,
      Runs first environment state value final → Returned value)
    (next_keeps : ∀ value, Returned value → Keeps relation (next value)) :
    Keeps relation (first >>= next) := by
  intro environment state result final run
  rcases runs_bind.mp run with ⟨value, middle, ran, rest⟩
  exact StepRelation.trans _ _ _ _ (first_keeps ran) (next_keeps value (returns ran) rest)

omit [StepRelation relation] in
theorem keeps_ite {condition : Prop} [Decidable condition] {accepted refused : Fallible ρ σ ε α}
    (accepted_keeps : Keeps relation accepted) (refused_keeps : Keeps relation refused) :
    Keeps relation (if condition then accepted else refused) := by
  split
  · exact accepted_keeps
  · exact refused_keeps

theorem keeps_attempt {computation : Fallible ρ σ ε α} {recoverable : ε → Option β}
    (keeps : Keeps relation computation) :
    Keeps relation (attempt computation recoverable) := by
  intro environment state result final run
  rcases run.attempt_cases with ⟨_, _, ran⟩ | ⟨_, _, rfl⟩
  · exact keeps ran
  · exact StepRelation.refl _ _

end Fallible
