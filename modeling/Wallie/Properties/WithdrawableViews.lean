import Wallie.Ledger.Payments
import Wallie.Ledger.RunInvariant
import Wallie.Properties.HealthView
import Wallie.StreamContract.Queries
import Wallie.StreamContract.TokenRules

/-!
# The withdrawable views and the withdrawal

Two views say what a recipient can draw. The one reports nothing for a paused
stream, the other knows no pause, and neither looks at the dust rule or at the
ledger of the last withdrawal, which decide whether `withdraw` pays.
-/

namespace Wallie.StreamContract

open Fallible

variable {env : Env} {s s' : State} {stream : Stream} {id now : ℕ} {amount : ℤ}

namespace Stream

/-- What the recipient has earned and not drawn. -/
def unpaid (stream : Stream) (now : ℕ) : ℤ :=
  stream.entitlement now - stream.withdrawnAmount

/-- No rule that only one of the views and the withdrawal knows applies: the stream is not paused,
its last withdrawal was in an earlier ledger, and the payment is not dust. -/
structure Unhindered (stream : Stream) (env : Env) : Prop where
  unpaused : stream.status ≠ .paused
  spaced : stream.lastWithdrawLedger + minWithdrawIntervalLedgers ≤ env.sequence
  undusted : ¬ stream.DustBlocks env.timestamp (stream.unpaid env.timestamp)

end Stream

/-- What a withdrawal pays: nothing when it is rejected. -/
def withdrawPays (env : Env) (s : State) (id : ℕ) : ℤ :=
  ((withdraw id env s).toOption.map Prod.fst).getD 0

theorem withdrawPays_of_runs (run : Runs (withdraw id) env s amount s') :
    withdrawPays env s id = amount := by
  have returned : withdraw id env s = .ok (amount, s') := run
  rw [withdrawPays, returned]
  rfl

theorem withdrawPays_cases (env : Env) (s : State) (id : ℕ) :
    withdrawPays env s id = 0 ∨ ∃ s', Runs (withdraw id) env s (withdrawPays env s id) s' := by
  rcases runs_or_fails (withdraw id) env s with ⟨amount, s', run⟩ | ⟨failure, fails⟩
  · right
    rw [withdrawPays_of_runs run]
    exact ⟨s', run⟩
  · left
    have failed : withdraw id env s = .error failure := fails
    rw [withdrawPays, failed]
    rfl

/-- Both views return what a withdrawal pays. -/
def ViewsPredictWithdraw (env : Env) (s : State) (id : ℕ) : Prop :=
  (∃ viewed, Runs (getWithdrawable id) env s (withdrawPays env s id) viewed) ∧
    ∃ viewed, Runs (getClaimableAt id env.timestamp) env s (withdrawPays env s id) viewed

/-! ## What the views return -/

/-- A completed stream has nothing unpaid. -/
theorem unpaid_of_completed (formed : stream.WellFormed id now)
    (completed : stream.status = .completed) (later : ℕ) : stream.unpaid later = 0 := by
  have drained := formed.completed completed
  simp [Stream.unpaid, Stream.entitlement, completed, drained]

/-- What `getWithdrawable` returns when the contract holds what is unpaid. -/
theorem runs_getWithdrawable (stored : s.streams id = some stream)
    (formed : stream.WellFormed id now) (answerable : Answerable env s stream)
    (configured : s.config.isSome = true)
    (solvent : stream.unpaid env.timestamp ≤ s.balances env.currentContractAddress) :
    (∃ viewed, Runs (getWithdrawable id) env s amount viewed) ↔
      amount = if stream.status = .paused then 0 else max 0 (stream.unpaid env.timestamp) := by
  have fits := formed.unpaid_fits env.timestamp
  have held : min (stream.unpaid env.timestamp) (s.balances env.currentContractAddress) =
      stream.unpaid env.timestamp := min_eq_left solvent
  rcases s.accrualRead_eq stream env.timestamp with ⟨noted, same⟩
  simp only [getWithdrawable, runs_bind, runs_loadStream, stored, Option.some.injEq, runs_ite,
    runs_pure, runs_calculateAccrued stored, runs_plainI128, runs_tokenBalance, and_assoc,
    exists_and_left, exists_eq_left, exists_eq_left', same]
  rw [← Stream.unpaid] at fits ⊢
  rw [held]
  by_cases paused : stream.status = .paused
  · simp [paused]
  · by_cases completed : stream.status = .completed
    · simp [completed, unpaid_of_completed formed completed]
    · have positive : (if 0 < stream.unpaid env.timestamp then stream.unpaid env.timestamp
          else 0) = max 0 (stream.unpaid env.timestamp) := by omega
      simp only [paused, completed, or_self, if_false, false_and, not_false_eq_true, true_and,
        false_or, fits, configured, positive, answerable.noted, implies_true, exists_and_left,
        exists_eq, and_true]
      exact and_iff_right answerable.frozen

/-- What `getClaimableAt` returns at the current instant. -/
theorem runs_getClaimableAt (stored : s.streams id = some stream)
    (formed : stream.WellFormed id env.timestamp) :
    (∃ viewed, Runs (getClaimableAt id env.timestamp) env s amount viewed) ↔
      amount = max 0 (stream.unpaid env.timestamp) := by
  have fits := formed.unpaid_fits env.timestamp
  have positive : (if 0 < stream.unpaid env.timestamp then stream.unpaid env.timestamp
      else 0) = max 0 (stream.unpaid env.timestamp) := by omega
  simp only [getClaimableAt, runs_bind, runs_loadStream, stored, Option.some.injEq, runs_ite,
    runs_pure, runs_getOrReject, runs_plainI128, and_assoc, exists_and_left, exists_eq_left,
    exists_eq_left']
  cases status : stream.status with
  | completed => simp [unpaid_of_completed formed status]
  | cancelled =>
      rcases formed.cancelledAt_of_cancelled status with ⟨instant, at_, le⟩
      have frozen : stream.accruedAt (min env.timestamp instant) =
          stream.entitlement env.timestamp := by
        rw [Stream.entitlement_of_cancelled status, at_, min_eq_right le]
        rfl
      rw [Stream.unpaid] at positive ⊢
      rw [← positive]
      simp [at_, frozen, fits]
  | active | paused =>
      have live : stream.Live := by simp [Stream.Live, status]
      rw [← live.entitlement, ← Stream.unpaid, positive]
      simp [Stream.unpaid, fits]

/-! ## What the withdrawal pays -/

/-- A withdrawal never pays more than is unpaid. -/
theorem withdrawPays_of_nothing (stored : s.streams id = some stream)
    (nothing : stream.unpaid env.timestamp ≤ 0) : withdrawPays env s id = 0 := by
  rcases withdrawPays_cases env s id with zero | ⟨s', run⟩
  · exact zero
  · rcases runs_withdraw.mp run with ⟨found, drawable, ⟨_, zero, _⟩ | ⟨pays, _⟩⟩
    · exact zero
    · obtain rfl : found = stream := Option.some.inj (drawable.stored.symm.trans stored)
      have payable_le : found.payable env.timestamp (s.balances env.currentContractAddress) ≤
          found.unpaid env.timestamp := min_le_left _ _
      exact absurd (Or.inl (payable_le.trans nothing)) pays

/-- What is unpaid is paid on a stream that is not paused exactly when nothing else hinders it. -/
theorem withdrawPays_iff (reached : Reachable env.currentContractAddress anyCall env.timestamp s)
    (running : s.globalEmergencyPaused = false) (stored : s.streams id = some stream)
    (authorised : env.auth stream.recipient = true)
    (solvent : stream.unpaid env.timestamp ≤ s.balances env.currentContractAddress)
    (token : env.TokenHonours s) (unpaused : stream.status ≠ .paused)
    (positive : 0 < stream.unpaid env.timestamp) :
    withdrawPays env s id = stream.unpaid env.timestamp ↔ stream.Unhindered env := by
  have formed := reached.book_wellFormed
  have record := formed.records id stream stored
  have payable : stream.payable env.timestamp (s.balances env.currentContractAddress) =
      stream.unpaid env.timestamp := min_eq_left solvent
  constructor
  · intro pays
    rcases withdrawPays_cases env s id with zero | ⟨s', run⟩
    · omega
    · rw [pays] at run
      rcases runs_withdraw.mp run with ⟨found, drawable, ⟨_, zero, _⟩ | ⟨passes, _⟩⟩
      · omega
      · obtain rfl : found = stream := Option.some.inj (drawable.stored.symm.trans stored)
        rw [payable] at passes
        have spaced := drawable.spaced
        exact ⟨unpaused, by omega, (not_or.mp passes).2⟩
  · intro unhindered
    have spaced := unhindered.spaced
    have drawable : Drawable env s id stream :=
      { running, stored, authorised
        configured := formed.initialised
        spaced := ⟨by omega, by omega⟩
        unfinished := fun completed => by
          have nothing := unpaid_of_completed record completed env.timestamp
          omega
        unpaused := fun paused => unpaused paused.1
        frozen := record.cancelledAt_iff.mp
        noted := fun _ => reached.noted_le
        fits := record.unpaid_fits env.timestamp }
    have able : s.CanPayOut env (stream.unpaid env.timestamp) :=
      ⟨formed.initialised, reached.tokenBalances, token, solvent⟩
    rcases drawable.runs record able rfl positive unhindered.undusted with ⟨_, run⟩
    exact withdrawPays_of_runs run

/-- On every reachable state without a pause, when the contract holds what is unpaid on a stream and
the token pays it, the two views predict what a withdrawal by the recipient pays exactly when
nothing is unpaid or nothing else hinders the withdrawal. -/
theorem views_predict_withdraw_iff
    (reached : Reachable env.currentContractAddress anyCall env.timestamp s)
    (running : s.globalEmergencyPaused = false) (stored : s.streams id = some stream)
    (authorised : env.auth stream.recipient = true)
    (solvent : stream.unpaid env.timestamp ≤ s.balances env.currentContractAddress)
    (token : env.TokenHonours s) :
    ViewsPredictWithdraw env s id ↔
      stream.unpaid env.timestamp ≤ 0 ∨ stream.Unhindered env := by
  have formed := reached.book_wellFormed
  have record := formed.records id stream stored
  have answerable : Answerable env s stream := reached.answerable le_rfl stored
  rw [ViewsPredictWithdraw,
    runs_getWithdrawable stored record answerable formed.initialised solvent,
    runs_getClaimableAt stored record]
  rcases le_or_gt (stream.unpaid env.timestamp) 0 with nothing | positive
  · have none_ := withdrawPays_of_nothing stored nothing
    rw [none_, max_eq_left nothing, ite_self]
    exact iff_of_true ⟨rfl, rfl⟩ (Or.inl nothing)
  · rw [max_eq_right positive.le, or_iff_right (not_le.mpr positive)]
    by_cases paused : stream.status = .paused
    · rw [if_pos paused]
      refine iff_of_false ?_ fun unhindered => unhindered.unpaused paused
      rintro ⟨zero, pays⟩
      omega
    · rw [if_neg paused, and_self]
      exact withdrawPays_iff reached running stored authorised solvent token paused positive

/-- After half of its 100 seconds the sample stream of 1000 tokens pays 500, as both views say. -/
theorem views_predict_withdraw_iff_half :
    let s := Script.run (Sample.oneCreation 1000 10 0 0 rfl) Sample.genesis
    withdrawPays (Sample.env 2 50 1) s 0 = 500 ∧
      ViewsPredictWithdraw (Sample.env 2 50 1) s 0 := by
  intro s
  have created : Reachable Sample.contract anyCall 0 s :=
    Sample.reachable_oneCreation fun _ _ _ _ => trivial
  have reached : Reachable Sample.contract anyCall 50 s := .tick created (by decide)
  have balances : s.balances = movedBalances Sample.balances Sample.sender Sample.contract 1000 :=
    rfl
  have token : (Sample.env 2 50 1).TokenHonours s := by
    refine ⟨fun _ _ _ => rfl, ?_⟩
    rw [balances]
    exact Sample.roomy_of_pulled (by decide) (by decide)
  have terms : (s.streams 0).map (fun stream => decide (stream.recipient = Sample.recipient ∧
      stream.unpaid 50 ≤ 1000 ∧ stream.status ≠ .paused ∧
      stream.lastWithdrawLedger + minWithdrawIntervalLedgers ≤ 1 ∧
      ¬ stream.DustBlocks 50 (stream.unpaid 50))) = some true := by
    decide +kernel
  rcases Option.map_eq_some_iff.mp terms with ⟨stream, stored, same⟩
  rcases of_decide_eq_true same with ⟨recipient, solvent, unpaused, spaced, undusted⟩
  have held : s.balances Sample.contract = 1000 := rfl
  have authorised : (Sample.env 2 50 1).auth stream.recipient = true := by
    rw [recipient]
    rfl
  exact ⟨by decide +kernel, (views_predict_withdraw_iff reached rfl stored authorised
    (solvent.trans held.ge) token).mpr (Or.inr ⟨unpaused, spaced, undusted⟩)⟩

/-- A stream that holds back payments below 900 shows 500 after half of its time, and a withdrawal
pays nothing. -/
theorem not_always_views_predict_withdraw :
    ¬ ∀ env s id stream, Reachable env.currentContractAddress anyCall env.timestamp s →
      s.globalEmergencyPaused = false → s.creationPaused = false → s.streams id = some stream →
      env.auth stream.recipient = true →
      stream.unpaid env.timestamp ≤ s.balances env.currentContractAddress →
      env.TokenHonours s → ViewsPredictWithdraw env s id := by
  intro always
  let s := Script.run Sample.dusty Sample.genesis
  have ordered : Script.Ordered Sample.dusty 0 := ⟨le_rfl, trivial⟩
  have created : Reachable Sample.contract anyCall 0 s :=
    Sample.reachable_run ordered
  have reached : Reachable Sample.contract anyCall 50 s := .tick created (by decide)
  have balances : s.balances = movedBalances Sample.balances Sample.sender Sample.contract 1000 :=
    rfl
  have token : (Sample.env 2 50 1).TokenHonours s := by
    refine ⟨fun _ _ _ => rfl, ?_⟩
    rw [balances]
    exact Sample.roomy_of_pulled (by decide) (by decide)
  have terms : (s.streams 0).map (fun stream => decide
      (stream.recipient = Sample.recipient ∧ stream.unpaid 50 ≤ 1000)) = some true := by
    decide +kernel
  rcases Option.map_eq_some_iff.mp terms with ⟨stream, stored, same⟩
  rcases of_decide_eq_true same with ⟨recipient, solvent⟩
  have held : s.balances Sample.contract = 1000 := rfl
  have authorised : (Sample.env 2 50 1).auth stream.recipient = true := by
    rw [recipient]
    rfl
  rcases (always (Sample.env 2 50 1) s 0 stream reached rfl rfl stored authorised
    (solvent.trans held.ge) token).1 with ⟨viewed, run⟩
  have pays : withdrawPays (Sample.env 2 50 1) s 0 = 0 := by decide +kernel
  have shown : (getWithdrawable 0 (Sample.env 2 50 1) s).toOption.map Prod.fst = some 500 := by
    decide +kernel
  rw [pays] at run
  have returned : getWithdrawable 0 (Sample.env 2 50 1) s = .ok (0, viewed) := run
  rw [returned] at shown
  cases shown

end Wallie.StreamContract
