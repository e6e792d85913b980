import Mathlib.Logic.Relation
import Mathlib.Tactic.Common

/-!
# Finite runs of a labelled transition relation

A run takes any number of labelled steps. Which labels it may take is a
predicate on the state before the step and the label, so a run can be described
first by what its labels look like and later by what they do.
-/

namespace LabelledRun

variable {σ α : Type*} {step : σ → α → σ → Prop} {permits permits' : σ → α → Prop}
  {state middle final : σ} {label : α}

/-- The finite runs whose steps are all permitted. -/
def Run (step : σ → α → σ → Prop) (permits : σ → α → Prop) : σ → σ → Prop :=
  Relation.ReflTransGen fun state next => ∃ label, permits state label ∧ step state label next

namespace Run

theorem refl (state : σ) : Run step permits state state :=
  Relation.ReflTransGen.refl

theorem single (allowed : permits state label) (moved : step state label final) :
    Run step permits state final :=
  Relation.ReflTransGen.single ⟨label, allowed, moved⟩

theorem trans (first : Run step permits state middle) (second : Run step permits middle final) :
    Run step permits state final :=
  Relation.ReflTransGen.trans first second

theorem cons (allowed : permits state label) (moved : step state label middle)
    (rest : Run step permits middle final) : Run step permits state final :=
  (single allowed moved).trans rest

/-- What every permitted step preserves, a run preserves. -/
theorem preserves (holds : σ → Prop) (run : Run step permits state final)
    (steps : ∀ state label next, permits state label → step state label next →
      holds state → holds next) (initially : holds state) : holds final := by
  unfold Run at run
  induction run with
  | refl => exact initially
  | tail _ last ih =>
      rcases last with ⟨label, allowed, moved⟩
      exact steps _ _ _ allowed moved ih

/-- Under an invariant of the run, more is known about the steps it takes. -/
theorem strengthen (holds : σ → Prop) (run : Run step permits state final) (initially : holds state)
    (steps : ∀ state label next, permits state label → step state label next →
      holds state → holds next)
    (stronger : ∀ state label, holds state → permits state label → permits' state label) :
    Run step permits' state final := by
  have both : Run step permits' state final ∧ holds final := by
    unfold Run at run
    induction run with
    | refl => exact ⟨refl state, initially⟩
    | tail _ last ih =>
        rcases last with ⟨label, allowed, moved⟩
        rcases ih with ⟨before, invariant⟩
        exact ⟨before.trans (single (stronger _ _ invariant allowed) moved),
          steps _ _ _ allowed moved invariant⟩
  exact both.1

theorem mono (run : Run step permits state final)
    (weaker : ∀ state label, permits state label → permits' state label) :
    Run step permits' state final :=
  run.strengthen (fun _ => True) trivial (fun _ _ _ _ _ _ => trivial)
    fun state label _ => weaker state label

end Run

end LabelledRun
