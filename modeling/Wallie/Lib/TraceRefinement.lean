import Wallie.Lib.LabelledRun
import Wallie.Lib.TimedRun

/-!
# Refinement of runs by traces of actions

A clocked system refines a labelled transition relation on a more abstract kind
of state when each of its steps shows there as a finite run of actions. Then
every recorded run shows as a trace of the relation, and each input accounts for
a piece of the trace of its own.
-/

namespace ClockedSystem

variable {σ ι τ β α : Type*} [Preorder τ]

/-- The machine that takes the steps of a labelled relation, one action at a time. -/
def machine (initial : τ → β → Prop) (step : τ → β → α → β → Prop) :
    ClockedSystem β (τ × α) τ where
  initial
  clock := Prod.fst
  step := fun state entry next => step entry.1 state entry.2 next

/-- Each input of a run, the latest first, accounts for the next piece of a trace: for actions of
its own instant that it may take where it found the system. -/
inductive Explains (clock : ι → τ) (takes : σ → ι → β → α → Prop) :
    List (σ × ι) → List (β × (τ × α)) → Prop where
  | nothing : Explains clock takes [] []
  | piece {past : List (σ × ι)} {trace entries : List (β × (τ × α))} {state : σ} {input : ι}
      (explained : Explains clock takes past trace)
      (own : ∀ entry ∈ entries, entry.2.1 = clock input ∧
        takes state input entry.1 entry.2.2) :
      Explains clock takes ((state, input) :: past) (entries ++ trace)

variable {initial : τ → β → Prop} {step : τ → β → α → β → Prop} {permits : β → α → Prop}
  {trace : List (β × (τ × α))} {instant : τ} {state final : β}

/-- A run of the relation at one instant extends a trace by actions that it permits. -/
theorem recorded_run (run : LabelledRun.Run (step instant) permits state final)
    (recorded : (machine initial step).Recorded (fun _ _ => True) trace instant state) :
    ∃ entries, (machine initial step).Recorded (fun _ _ => True) (entries ++ trace) instant final ∧
      ∀ entry ∈ entries, entry.2.1 = instant ∧ permits entry.1 entry.2.2 := by
  unfold LabelledRun.Run at run
  induction run with
  | refl => exact ⟨[], recorded, fun _ member => absurd member List.not_mem_nil⟩
  | @tail middle next _ last ih =>
      rcases last with ⟨action, allowed, moved⟩
      rcases ih with ⟨entries, recorded, own⟩
      have order : instant ≤ (machine initial step).clock (instant, action) := le_rfl
      have moved : (machine initial step).step middle (instant, action) next := moved
      refine ⟨(middle, (instant, action)) :: entries, .move recorded order trivial moved, ?_⟩
      rw [List.forall_mem_cons]
      exact ⟨⟨rfl, allowed⟩, own⟩

/-- How a system shows in a relation: which runs of actions its steps are. -/
structure TraceRefinement (system : ClockedSystem σ ι τ) (permitted : σ → ι → Prop)
    (initial : τ → β → Prop) (step : τ → β → α → β → Prop) where
  view : σ → β
  takes : σ → ι → β → α → Prop
  start : ∀ instant state, system.initial instant state → initial instant (view state)
  move : ∀ instant state input next, system.Reachable permitted instant state →
    instant ≤ system.clock input → permitted state input → system.step state input next →
    LabelledRun.Run (step (system.clock input)) (takes state input) (view state) (view next)

namespace TraceRefinement

variable {system : ClockedSystem σ ι τ} {permitted : σ → ι → Prop} {past : List (σ × ι)}
  {state : σ}

/-- Every recorded run shows as a trace that its inputs explain. -/
theorem recorded (refinement : TraceRefinement system permitted initial step)
    (run : system.Recorded permitted past instant state) :
    ∃ trace, (machine initial step).Recorded (fun _ _ => True) trace instant
        (refinement.view state) ∧
      Explains system.clock refinement.takes past trace := by
  induction run with
  | start isInitial => exact ⟨[], .start (refinement.start _ _ isInitial), .nothing⟩
  | tick _ order ih =>
      rcases ih with ⟨trace, shown, explained⟩
      exact ⟨trace, .tick shown order, explained⟩
  | move run order allowed moved ih =>
      rcases ih with ⟨trace, shown, explained⟩
      have actions := refinement.move _ _ _ _ run.reachable order allowed moved
      rcases recorded_run actions (.tick shown order) with ⟨entries, shown, own⟩
      exact ⟨entries ++ trace, shown, .piece explained own⟩

end TraceRefinement

end ClockedSystem
