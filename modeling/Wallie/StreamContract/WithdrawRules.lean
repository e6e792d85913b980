import Wallie.Ledger.Move
import Wallie.StreamContract.StorageRules

/-!
# Rules of the withdrawal helpers

What the accrual view, the completion event and the batch amount compute, in
terms of the entitlement of a stream.
-/

namespace Wallie.StreamContract

open Fallible

variable {env : Env} {s s' : State} {stream : Stream} {id now : ℕ}

/-- The state once the accrual of `stream` has been computed at `now`: only a live stream reads
the clock. -/
def State.accrualRead (s : State) (stream : Stream) (now : ℕ) : State :=
  if stream.Live then { s with lastAccrualLedgerTimestamp := some now } else s

theorem State.accrualRead_clock (s : State) (stream : Stream) (now : ℕ) :
    s.accrualRead stream now = { s with
      lastAccrualLedgerTimestamp :=
        if stream.Live then some now else s.lastAccrualLedgerTimestamp } := by
  unfold State.accrualRead
  split <;> rfl

theorem State.accrualRead_eq (s : State) (stream : Stream) (now : ℕ) :
    ∃ noted, s.accrualRead stream now = { s with lastAccrualLedgerTimestamp := noted } :=
  ⟨_, s.accrualRead_clock stream now⟩

/-- The accrual view returns the entitlement of a stored stream. -/
theorem runs_calculateAccrued {accrued : ℤ} (stored : s.streams id = some stream) :
    Runs (calculateAccrued id) env s accrued s' ↔
      ((stream.status = .cancelled → stream.cancelledAt.isSome = true) ∧
        (stream.Live → s.lastAccrualLedgerTimestamp.getD 0 ≤ env.timestamp)) ∧
        accrued = stream.entitlement env.timestamp ∧
        s' = s.accrualRead stream env.timestamp := by
  simp only [calculateAccrued, runs_bind, runs_loadStream, stored, Option.some.injEq, runs_ite,
    runs_pure, runs_getOrReject, runs_currentAccrualTimestamp, and_assoc, exists_and_left,
    exists_eq_left']
  cases status : stream.status with
  | completed => simp [Stream.entitlement, Stream.Live, State.accrualRead, status]
  | cancelled =>
      cases at_ : stream.cancelledAt with
      | none => simp
      | some instant => simp [Stream.entitlement, Stream.Live, State.accrualRead, status, at_]
  | active | paused => simp [Stream.entitlement, Stream.Live, State.accrualRead, status]

@[simp]
theorem runs_publishCompletion {before after : Stream} {done : Unit} :
    Runs (publishCompletion before after) env s done s' ↔
      s' = { s with events := s.events ++ completionEvents before after } := by
  simp [publishCompletion]

@[simp]
theorem runs_requireWithdrawInterval {currentLedger : ℕ} {done : Unit} :
    Runs (requireWithdrawInterval stream currentLedger) env s done s' ↔
      (stream.lastWithdrawLedger ≤ currentLedger ∧
        minWithdrawIntervalLedgers ≤ currentLedger - stream.lastWithdrawLedger) ∧ s' = s := by
  simp only [requireWithdrawInterval, runs_bind, runs_plainSub, runs_rejectIf, not_lt]
  grind

@[simp]
theorem runs_incrementDelegatedNonce {recipient : Address} {done : Unit} :
    Runs (incrementDelegatedNonce recipient) env s done s' ↔
      ((s.delegatedWithdrawNonce recipient + 1 : ℕ) : ℤ) ≤ u64.upper ∧
        s' = { s with
          delegatedWithdrawNonce := Function.update s.delegatedWithdrawNonce recipient
            (s.delegatedWithdrawNonce recipient + 1) } := by
  simp only [incrementDelegatedNonce, runs_bind, runs_peek, runs_plainAddU64, runs_update]
  grind

/-- Before the dust rule a batch pays what is earned and not withdrawn, as far as the balance
left to it goes. -/
theorem runs_batchWithdrawable_of_unfinished {contractBalance payable : ℤ}
    (unfinished : stream.status ≠ .completed) :
    Runs (batchWithdrawable stream now contractBalance) env s payable s' ↔
      ((stream.status = .cancelled → stream.cancelledAt.isSome = true) ∧
        i128.Contains (stream.entitlement now - stream.withdrawnAmount)) ∧
      payable = min (max (stream.entitlement now - stream.withdrawnAmount) 0) contractBalance ∧
        s' = s := by
  simp only [batchWithdrawable, unfinished, if_false, runs_bind, runs_ite, runs_getOrReject,
    runs_pure, runs_plainI128, and_assoc, exists_and_left, exists_eq_left]
  by_cases cancelled : stream.status = .cancelled
  · rw [Stream.entitlement_of_cancelled cancelled]
    cases at_ : stream.cancelledAt with
    | none => simp [cancelled]
    | some instant => simp [cancelled]
  · have live := Stream.live_iff.mpr ⟨unfinished, cancelled⟩
    rw [live.entitlement]
    simp [cancelled]

theorem batchWithdrawable_of_runs {contractBalance payable : ℤ}
    (unfinished : stream.status ≠ .completed)
    (run : Runs (batchWithdrawable stream now contractBalance) env s payable s') :
    payable = min (max (stream.entitlement now - stream.withdrawnAmount) 0) contractBalance ∧
      s' = s :=
  ((runs_batchWithdrawable_of_unfinished unfinished).mp run).2

theorem batchWithdrawable_of_completed {contractBalance payable : ℤ}
    (completed : stream.status = .completed)
    (run : Runs (batchWithdrawable stream now contractBalance) env s payable s') :
    payable = min 0 contractBalance ∧ s' = s := by
  simpa [batchWithdrawable, completed] using run

/-- On a well-formed record the computation of a batch does not fail. -/
theorem runs_batchWithdrawable {later : ℕ} {contractBalance payable : ℤ}
    (formed : stream.WellFormed id later) :
    Runs (batchWithdrawable stream now contractBalance) env s payable s' ↔
      payable = min (max (stream.entitlement now - stream.withdrawnAmount) 0) contractBalance ∧
        s' = s := by
  by_cases completed : stream.status = .completed
  · have drained := formed.completed completed
    simp [batchWithdrawable, Stream.entitlement, completed, drained]
  · rw [runs_batchWithdrawable_of_unfinished completed]
    exact and_iff_right ⟨formed.cancelledAt_iff.mp, formed.unpaid_fits now⟩

theorem dustFiltered_pos {payable : ℤ} (positive : 0 < dustFiltered stream now payable) :
    dustFiltered stream now payable = payable ∧ ¬ stream.DustBlocks now payable := by
  unfold dustFiltered at positive ⊢
  split at positive
  · exact absurd positive (lt_irrefl 0)
  · next passes =>
      rw [if_neg passes]
      exact ⟨rfl, fun blocked => passes ⟨positive, blocked⟩⟩

/-- What a batch computes for one stream does not touch the state. -/
theorem batchWithdrawable_state {contractBalance payable : ℤ}
    (run : Runs (batchWithdrawable stream now contractBalance) env s payable s') : s' = s := by
  rcases eq_or_ne stream.status .completed with completed | unfinished
  · exact (batchWithdrawable_of_completed completed run).2
  · exact (batchWithdrawable_of_runs unfinished run).2

/-- What a batch pays for one stream. -/
structure Stream.BatchPays (stream : Stream) (now : ℕ) (contractBalance payable : ℤ) : Prop where
  unfiltered : dustFiltered stream now payable = payable
  positive : 0 < payable
  unfinished : stream.status ≠ .completed
  earned : payable ≤ stream.entitlement now - stream.withdrawnAmount
  within : payable ≤ contractBalance
  undusted : ¬ stream.DustBlocks now payable

theorem batchPays_of_runs {contractBalance payable : ℤ}
    (run : Runs (batchWithdrawable stream now contractBalance) env s payable s')
    (positive : 0 < dustFiltered stream now payable) :
    stream.BatchPays now contractBalance payable := by
  rcases dustFiltered_pos positive with ⟨unfiltered, undusted⟩
  rw [unfiltered] at positive
  have unfinished : stream.status ≠ .completed := by
    intro completed
    have owed := (batchWithdrawable_of_completed completed run).1
    omega
  have owed := (batchWithdrawable_of_runs unfinished run).1
  exact ⟨unfiltered, positive, unfinished, by omega, by omega, undusted⟩

end Wallie.StreamContract
