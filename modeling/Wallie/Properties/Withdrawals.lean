import Wallie.Ledger.Entitlement
import Wallie.Ledger.RefineRun
import Wallie.StreamContract.Script

/-!
# Withdrawals and what has been earned

On runs without `updateRate` no recipient withdraws more than has been earned,
and neither what was withdrawn nor what was earned ever goes back.
-/

namespace Wallie.StreamContract

open Fallible

variable {address : Address} {permitted : State → Env → Call → Prop} {s s' : State}
  {now id : ℕ} {stream stream' : Stream}

/-- Without a re-pricing nothing is withdrawn before it is earned. -/
theorem Reachable.earned (reached : Reachable address permitted now s)
    (unpriced : ∀ s env call, permitted s env call → withoutUpdateRate s env call)
    (stored : s.streams id = some stream) :
    stream.withdrawnAmount ≤ stream.entitlement now := by
  apply reached.forall_stored (fun now stream => stream.withdrawnAmount ≤ stream.entitlement now)
    ?_ ?_ ?_ stored
  · intro instant id sender params valid
    exact (Stream.wellFormed_newStream valid).bounded.entitlement_nonneg instant
  · intro instant later id stream order formed earned
    exact earned.trans (formed.bounded.entitlement_mono order)
  · intro s invocation id move stream stream' allowed makes _ formed moves earned
    apply moves.earned formed _ earned
    exact makes.emits.not_reprice (unpriced _ _ _ allowed)

/-- From one step to the next the record of a stream keeps what was withdrawn and earned. -/
theorem Reachable.entitlement_le {input : Input address}
    (reached : Reachable address permitted now s) (order : now ≤ input.clock)
    (allowed : onCalls permitted s input) (step : Input.Steps s input s')
    (unpriced : ∀ s env call, permitted s env call → withoutUpdateRate s env call)
    (stored : s.streams id = some stream) (stored' : s'.streams id = some stream') :
    stream.withdrawnAmount ≤ stream'.withdrawnAmount ∧
      stream.entitlement now ≤ stream'.entitlement input.clock := by
  have formed := reached.book_wellFormed.records id stream stored
  have later := formed.bounded.entitlement_mono order
  rcases reached.record_cases order step stored with same | ⟨invocation, rfl, moved | closed⟩
  · rw [stored', Option.some.injEq] at same
    subst same
    exact ⟨le_rfl, later⟩
  · rcases moved with ⟨move, after, makes, moves, current⟩
    rw [stored', Option.some.injEq] at current
    subst current
    refine ⟨moves.withdrawn_le, later.trans ?_⟩
    apply moves.entitlement_le (formed.mono order)
    exact makes.emits.not_reprice (unpriced _ _ _ allowed)
  · rw [stored'] at closed
    cases closed.2

/-- On every run without `updateRate`: what was withdrawn from a stored stream is at most what
`calculateAccrued` returns, which is at most the deposit, and neither goes back in a step. -/
theorem withdrawn_le_accrued (reached : Reachable address withoutUpdateRate now s)
    (stored : s.streams id = some stream) :
    (0 ≤ stream.withdrawnAmount ∧ stream.withdrawnAmount ≤ stream.entitlement now ∧
      stream.entitlement now ≤ stream.depositAmount) ∧
    (∀ env accrued after, env.timestamp = now → Runs (calculateAccrued id) env s accrued after →
      accrued = stream.entitlement now) ∧
    ∀ (input : Input address) s' stream', now ≤ input.clock →
      onCalls withoutUpdateRate s input → Input.Steps s input s' →
      s'.streams id = some stream' →
        stream.withdrawnAmount ≤ stream'.withdrawnAmount ∧
          stream.entitlement now ≤ stream'.entitlement input.clock := by
  have formed := reached.book_wellFormed.records id stream stored
  refine ⟨⟨formed.withdrawn_nonneg, ?_, formed.bounded.entitlement_le_deposit now⟩, ?_, ?_⟩
  · exact reached.earned (fun _ _ _ allowed => allowed) stored
  · rintro env accrued after rfl run
    exact ((runs_calculateAccrued stored).mp run).2.1
  · intro input s' stream' order allowed step stored'
    exact reached.entitlement_le order allowed step (fun _ _ _ allowed => allowed) stored stored'

/-- The recipient of a drained stream has withdrawn what it earned. -/
theorem withdrawn_le_accrued_drained :
    ∃ stream, (Script.run Sample.drained Sample.genesis).streams 0 = some stream ∧
      stream.withdrawnAmount = 1000 ∧ stream.withdrawnAmount ≤ stream.entitlement 100 := by
  have drawn : ((Script.run Sample.drained Sample.genesis).streams 0).map Stream.withdrawnAmount =
      some 1000 := by decide
  rcases Option.map_eq_some_iff.mp drawn with ⟨stream, stored, withdrawn⟩
  have reached : Reachable Sample.contract withoutUpdateRate 100
      (Script.run Sample.drained Sample.genesis) :=
    Script.reachable_run Sample.ordered_drained ⟨trivial, trivial, trivial, trivial⟩
      (Sample.reachable_genesis _)
  exact ⟨stream, stored, withdrawn, (withdrawn_le_accrued reached stored).1.2.1⟩

end Wallie.StreamContract
