import Mathlib.Order.Monotone.Defs
import Wallie.Lib.TimedRun

/-!
# Parts of a clocked system

A system made of several parts is understood part by part: a view of its states
shows one part, and each step of the whole is a step of that part or does not
show in the view. Then every run of the whole shows a run of the part, and what
is known of the part's runs holds of the view.
-/

namespace ClockedSystem

variable {σ ι τ σ' ι' τ' : Type*} [Preorder τ] [Preorder τ']

/-- A part of a system: how it shows in the whole, and that it takes one step at most when the
whole takes one. The part may have run before the whole starts. -/
structure Part (whole : ClockedSystem σ ι τ) (part : ClockedSystem σ' ι' τ')
    (permitted : σ → ι → Prop) (permitted' : σ' → ι' → Prop) where
  view : σ → σ'
  time : τ → τ'
  monotone : Monotone time
  initial : ∀ instant state, whole.initial instant state →
    part.Reachable permitted' (time instant) (view state)
  step : ∀ state input next, permitted state input → whole.step state input next →
    view next = view state ∨
      ∃ input', part.clock input' = time (whole.clock input) ∧ permitted' (view state) input' ∧
        part.step (view state) input' (view next)

variable {whole : ClockedSystem σ ι τ} {part : ClockedSystem σ' ι' τ'}
  {permitted : σ → ι → Prop} {permitted' : σ' → ι' → Prop}

namespace Part

variable (shown : Part whole part permitted permitted') {instant later : τ} {state final : σ}

/-- A step of the whole continues a run of the part. -/
theorem extend {next : σ} {input : ι} {before : σ'} {start : τ'}
    (continued : part.Continues permitted' start before (shown.time instant) (shown.view state))
    (order : instant ≤ whole.clock input) (allowed : permitted state input)
    (moved : whole.step state input next) :
    part.Continues permitted' start before (shown.time (whole.clock input)) (shown.view next) := by
  rcases shown.step _ _ _ allowed moved with same | ⟨input', clock, allowed', moved'⟩
  · rw [same]
    exact .tick continued (shown.monotone order)
  · have order' : shown.time instant ≤ part.clock input' := by
      rw [clock]
      exact shown.monotone order
    have continued' := Continues.move continued order' allowed' moved'
    rwa [clock] at continued'

/-- What the whole does between two states shows as something the part does. -/
theorem continues (continued : whole.Continues permitted instant state later final) :
    part.Continues permitted' (shown.time instant) (shown.view state) (shown.time later)
      (shown.view final) := by
  induction continued with
  | here => exact .here
  | tick _ order ih => exact .tick ih (shown.monotone order)
  | move _ order allowed moved ih => exact shown.extend ih order allowed moved

/-- Every reachable state of the whole shows a reachable state of the part. -/
theorem reachable (reached : whole.Reachable permitted instant state) :
    part.Reachable permitted' (shown.time instant) (shown.view state) := by
  induction reached with
  | start isInitial => exact shown.initial _ _ isInitial
  | tick _ order ih => exact .tick ih (shown.monotone order)
  | move _ order allowed moved ih =>
      exact (shown.extend .here order allowed moved).reachable ih

end Part

end ClockedSystem
