import Wallie.Lib.Fallible

/-!
# Failures that a computation never reports

A computation avoids a failure if no run of it ends with that failure. The rules
follow the structure of a computation and reduce the avoidance of a failure to its
difference from the failures the computation names.
-/

namespace Fallible

variable {ρ σ ε α β : Type} {failure reported : ε}

/-- No run of the computation fails with `failure`. -/
def Avoids (failure : ε) (computation : Fallible ρ σ ε α) : Prop :=
  ∀ ⦃environment state⦄, ¬ Fails computation environment state failure

@[simp]
theorem avoids_pure {value : α} : Avoids failure (pure value : Fallible ρ σ ε α) :=
  fun _ _ => not_fails_pure

@[simp]
theorem avoids_ask {reading : ρ → α} : Avoids failure (ask reading : Fallible ρ σ ε α) :=
  fun _ _ => not_fails_ask

@[simp]
theorem avoids_peek {reading : σ → α} : Avoids failure (peek reading : Fallible ρ σ ε α) :=
  fun _ _ => not_fails_peek

@[simp]
theorem avoids_update {change : σ → σ} :
    Avoids failure (update change : Fallible ρ σ ε Unit) :=
  fun _ _ => not_fails_update

@[simp]
theorem avoids_rejectIf {condition : Prop} [Decidable condition] (other : failure ≠ reported) :
    Avoids failure (rejectIf condition reported : Fallible ρ σ ε Unit) :=
  fun _ _ fails => other (fails_rejectIf.mp fails).2

@[simp]
theorem avoids_getOrReject {value : Option α} (other : failure ≠ reported) :
    Avoids failure (getOrReject value reported : Fallible ρ σ ε α) :=
  fun _ _ fails => other (fails_getOrReject.mp fails).2

theorem avoids_bind {first : Fallible ρ σ ε α} {next : α → Fallible ρ σ ε β}
    (first_avoids : Avoids failure first) (next_avoids : ∀ value, Avoids failure (next value)) :
    Avoids failure (first >>= next) := by
  intro environment state fails
  rcases fails_bind.mp fails with fails | ⟨value, _, _, fails⟩
  · exact first_avoids fails
  · exact next_avoids value fails

theorem avoids_ite {condition : Prop} [Decidable condition] {accepted refused : Fallible ρ σ ε α}
    (accepted_avoids : Avoids failure accepted) (refused_avoids : Avoids failure refused) :
    Avoids failure (if condition then accepted else refused) := by
  split
  · exact accepted_avoids
  · exact refused_avoids

end Fallible
