import Wallie.Ledger.RefineRun
import Wallie.StreamContract.EntrypointWrites
import Wallie.StreamContract.WithdrawRules

/-!
# The accrual view on reachable states

The ledger time a contract has noted is never ahead of the clock, so the check
against a clock that goes back never fails and the accrual view always answers.
-/

namespace Wallie.StreamContract

open Fallible

variable {address : Address} {permitted : State → Env → Call → Prop} {s s' : State} {env : Env}
  {now id : ℕ} {stream : Stream}

/-- The accrual view returns `amount`. -/
def State.Accrues (s : State) (env : Env) (id : ℕ) (amount : ℤ) : Prop :=
  ∃ noted, Runs (calculateAccrued id) env s amount noted

theorem OnlyWrites.noted_le {fields : List Field} (writes : OnlyWrites fields env s s')
    (noted_le : s.lastAccrualLedgerTimestamp.getD 0 ≤ env.timestamp) :
    s'.lastAccrualLedgerTimestamp.getD 0 ≤ env.timestamp := by
  rcases writes.clock with same | noted
  · rw [same]
    exact noted_le
  · rw [noted, Option.getD_some]

theorem Reachable.noted_le (reached : Reachable address permitted now s) :
    s.lastAccrualLedgerTimestamp.getD 0 ≤ now := by
  refine reached.invariant (fun now s => s.lastAccrualLedgerTimestamp.getD 0 ≤ now) ?_ ?_ ?_
  · intro instant s fresh
    rcases fresh.initialised with ⟨env, token, admin, balances, allowances, -, rfl, -, run⟩
    have writes := (Call.init token admin).onlyWrites run
    exact writes.noted_le (Nat.zero_le _)
  · exact fun _ _ _ order noted_le => noted_le.trans order
  · intro s input s' _ step noted_le
    cases input with
    | token activity =>
        rcases step with ⟨_, rfl⟩
        exact noted_le
    | invoke invocation =>
        rcases Input.Steps.invoke_cases step with run | ⟨_, rfl⟩
        · exact (invocation.call.onlyWrites run).noted_le noted_le
        · exact noted_le

/-- The accrual view answers with the entitlement of a stored stream. -/
theorem Reachable.accrues_iff (reached : Reachable address permitted now s)
    (order : now ≤ env.timestamp) (stored : s.streams id = some stream) {amount : ℤ} :
    s.Accrues env id amount ↔ amount = stream.entitlement env.timestamp := by
  have formed := reached.book_wellFormed.records id stream stored
  have noted_le := reached.noted_le.trans order
  constructor
  · rintro ⟨_, run⟩
    exact ((runs_calculateAccrued stored).mp run).2.1
  · rintro rfl
    refine ⟨_, (runs_calculateAccrued stored).mpr ⟨⟨?_, fun _ => noted_le⟩, rfl, rfl⟩⟩
    exact formed.cancelledAt_iff.mp

theorem Reachable.accrues (reached : Reachable address permitted now s)
    (order : now ≤ env.timestamp) {amount : ℤ}
    (earned : (s.streams id).map (Stream.entitlement · env.timestamp) = some amount) :
    s.Accrues env id amount := by
  rcases Option.map_eq_some_iff.mp earned with ⟨stream, stored, earned⟩
  exact (reached.accrues_iff order stored).mpr earned.symm

end Wallie.StreamContract
