import Wallie.Ledger.AccrualView
import Wallie.StreamContract.Script

/-!
# The fields of the health view

The view computes whether a stream runs out of its deposit from a product, and
when from a quotient that is cast to `u64`. Both are exact on all but the
largest deposits: the sum behind the product saturates at the largest `i128`,
and the cast drops whole multiples of `2 ^ 64` seconds.
-/

namespace Wallie.StreamContract

open Fallible

variable {env : Env} {s s' : State} {stream : Stream} {health : StreamHealth} {id now : ℕ}

namespace Stream

/-- A linear stream with a positive rate, in the epoch that its checkpoint starts. -/
structure Streaming (stream : Stream) (now : ℕ) : Prop where
  linear : stream.kind = .linear
  rate_pos : 0 < stream.ratePerSecond
  checkpoint_nonneg : 0 ≤ stream.checkpointedAmount
  checkpoint_le : stream.checkpointedAmount ≤ stream.depositAmount
  deposit_le : stream.depositAmount ≤ i128.upper
  end_le : (stream.endTime : ℤ) ≤ u64.upper
  started : stream.checkpointedAt ≤ now
  running : now ≤ stream.endTime

/-- How many whole seconds of the rate the deposit covers from the checkpoint on. -/
def secondsCovered (stream : Stream) : ℤ :=
  (stream.depositAmount - stream.checkpointedAmount) / stream.ratePerSecond

/-- What the rate adds from the checkpoint to the end. -/
def scheduled (stream : Stream) : ℤ :=
  stream.ratePerSecond * (stream.endTime - stream.checkpointedAt : ℕ)

/-- The sum of the checkpoint and the schedule saturates at a deposit it exceeds. -/
def SumSaturates (stream : Stream) : Prop :=
  stream.depositAmount = i128.upper ∧ stream.scheduled ≤ i128.upper ∧
    i128.upper < stream.checkpointedAmount + stream.scheduled

/-- The cast of the covered seconds makes a stream look depleted before its end. -/
def CastShortens (stream : Stream) (now : ℕ) : Prop :=
  2 ^ 64 ≤ stream.secondsCovered ∧ now < stream.endTime ∧
    stream.checkpointedAt + stream.secondsCovered % 2 ^ 64 < stream.endTime

instance (stream : Stream) : Decidable stream.SumSaturates :=
  inferInstanceAs (Decidable (_ ∧ _ ∧ _))

instance (stream : Stream) (now : ℕ) : Decidable (stream.CastShortens now) :=
  inferInstanceAs (Decidable (_ ∧ _ ∧ _))

/-- The schedule up to `endTime` costs more than `depositAmount`, by the saturating sum. -/
def Overspends (stream : Stream) (depositAmount : ℤ) (endTime : ℕ) : Prop :=
  i128.upper < stream.ratePerSecond * (endTime - stream.checkpointedAt : ℕ) ∨
    depositAmount < min i128.upper
      (stream.checkpointedAmount + stream.ratePerSecond * (endTime - stream.checkpointedAt : ℕ))

instance (stream : Stream) (depositAmount : ℤ) (endTime : ℕ) :
    Decidable (stream.Overspends depositAmount endTime) :=
  inferInstanceAs (Decidable (_ ∨ _))

/-- The flag of the view, without the machine arithmetic. -/
theorem isUnderfunded_iff_overspends (rate_nonneg : 0 ≤ stream.ratePerSecond)
    (checkpoint_nonneg : 0 ≤ stream.checkpointedAmount) :
    stream.isUnderfunded = true ↔ stream.Overspends stream.depositAmount stream.endTime := by
  have scheduled_nonneg : 0 ≤ stream.scheduled :=
    mul_nonneg rate_nonneg (Int.natCast_nonneg _)
  have lower : i128.lower ≤ 0 := by decide
  unfold Overspends
  rw [← scheduled]
  by_cases fits : stream.scheduled ≤ i128.upper
  · have contained : i128.Contains stream.scheduled := ⟨by omega, fits⟩
    have checked : i128.check
        (stream.ratePerSecond * (stream.endTime - stream.checkpointedAt : ℕ)) =
          some stream.scheduled :=
      Bounded.Interval.check_of_contains contained
    simp only [isUnderfunded, checked]
    rw [decide_eq_true_iff, Bounded.Interval.clamp]
    omega
  · have checked : i128.check
        (stream.ratePerSecond * (stream.endTime - stream.checkpointedAt : ℕ)) = none :=
      Bounded.Interval.check_eq_none.mpr fun contained => fits contained.2
    simp only [isUnderfunded, checked, true_iff]
    omega

namespace Streaming

theorem secondsCovered_nonneg (streaming : stream.Streaming now) : 0 ≤ stream.secondsCovered :=
  Int.ediv_nonneg (sub_nonneg.mpr streaming.checkpoint_le) streaming.rate_pos.le

/-- The deposit runs out before the end exactly when the schedule costs more than it. -/
theorem runsOut_iff (streaming : stream.Streaming now) :
    stream.checkpointedAt + stream.secondsCovered < stream.endTime ↔
      stream.depositAmount < stream.checkpointedAmount + stream.scheduled := by
  have started := streaming.started
  have running := streaming.running
  have span : ((stream.endTime - stream.checkpointedAt : ℕ) : ℤ) =
      stream.endTime - stream.checkpointedAt := by omega
  have covers : stream.secondsCovered < stream.endTime - stream.checkpointedAt ↔
      stream.depositAmount - stream.checkpointedAmount <
        (stream.endTime - stream.checkpointedAt) * stream.ratePerSecond :=
    Int.ediv_lt_iff_lt_mul streaming.rate_pos
  unfold scheduled
  rw [span, mul_comm]
  omega

/-- The saturating sum compares with the deposit like the exact one, except at the largest deposit.
-/
theorem isUnderfunded_iff (streaming : stream.Streaming now) :
    stream.isUnderfunded = true ↔
      stream.depositAmount < stream.checkpointedAmount + stream.scheduled ∧
        ¬ stream.SumSaturates := by
  have nonneg := streaming.checkpoint_nonneg
  have deposit_le := streaming.deposit_le
  rw [isUnderfunded_iff_overspends streaming.rate_pos.le nonneg, Overspends, ← scheduled]
  unfold SumSaturates
  omega

/-- The seconds the view reports until the deposit runs out. -/
theorem depletionTime_eq (streaming : stream.Streaming now) :
    (stream.depletionTime : ℤ) =
      min (stream.checkpointedAt + stream.secondsCovered % 2 ^ 64) (2 ^ 64 - 1) := by
  have nonneg := streaming.checkpoint_nonneg
  have le := streaming.checkpoint_le
  have deposit_le := streaming.deposit_le
  have lower : i128.lower ≤ 0 := by decide
  have fits : i128.Contains (stream.depositAmount - stream.checkpointedAmount) :=
    ⟨by omega, by omega⟩
  have quotient : (stream.depositAmount - stream.checkpointedAmount).tdiv stream.ratePerSecond =
      stream.secondsCovered := Int.tdiv_eq_ediv_of_nonneg (sub_nonneg.mpr le)
  unfold depletionTime
  simp only [Bounded.Interval.clamp_of_contains fits, quotient]
  omega

/-- What the view reports as the seconds until depletion. -/
theorem seconds_eq_iff (streaming : stream.Streaming now) :
    ((if stream.depletionTime < stream.endTime then stream.depletionTime - now
      else stream.endTime - now : ℕ) : ℤ) =
        max 0 (min (stream.checkpointedAt + stream.secondsCovered) stream.endTime - now) ↔
      ¬ stream.CastShortens now := by
  have nonneg := streaming.secondsCovered_nonneg
  have depletion := streaming.depletionTime_eq
  have end_le : (stream.endTime : ℤ) ≤ 2 ^ 64 - 1 := streaming.end_le
  have running := streaming.running
  unfold CastShortens
  split <;> omega

end Streaming

end Stream

/-- The two fields of the view say the same, by the exact number of seconds the deposit covers. -/
structure HealthAgrees (stream : Stream) (now : ℕ) (health : StreamHealth) : Prop where
  underfunded : health.isUnderfunded = true ↔
    stream.checkpointedAt + stream.secondsCovered < stream.endTime
  depletion : health.secondsUntilDepletion.map Nat.cast =
    some (max 0 (min (stream.checkpointedAt + stream.secondsCovered) stream.endTime - (now : ℤ)))
  funded : health.isUnderfunded = false →
    health.secondsUntilDepletion = some (stream.endTime - now)

/-- The fields that the view derives from the schedule. -/
theorem fields_of_getStreamHealth (stored : s.streams id = some stream)
    (run : Runs (getStreamHealth id) env s health s') :
    health.isUnderfunded = stream.isUnderfunded ∧
      (0 < stream.ratePerSecond → health.secondsUntilDepletion =
        some (if stream.depletionTime < stream.endTime then stream.depletionTime - env.timestamp
          else stream.endTime - env.timestamp)) := by
  simp only [getStreamHealth, runs_bind, runs_loadStream, stored, Option.some.injEq, runs_ask,
    runs_pure, and_assoc, exists_and_left, exists_eq_left', exists_eq_left] at run
  rcases run with ⟨_, _, _, rfl, _⟩
  exact ⟨rfl, fun rate_pos => if_pos rate_pos⟩

/-- The accrual view answers: the clock has not gone back, and a cancelled stream says when it was
cancelled. Both hold on every reachable state. -/
structure Answerable (env : Env) (s : State) (stream : Stream) : Prop where
  noted : s.lastAccrualLedgerTimestamp.getD 0 ≤ env.timestamp
  frozen : stream.status = .cancelled → stream.cancelledAt.isSome = true

theorem Reachable.answerable {address : Address} {permitted : State → Env → Call → Prop}
    (reached : Reachable address permitted now s) (order : now ≤ env.timestamp)
    (stored : s.streams id = some stream) : Answerable env s stream where
  noted := reached.noted_le.trans order
  frozen := (reached.book_wellFormed.records id stream stored).cancelledAt_iff.mp

theorem Answerable.runs_getStreamHealth (answerable : Answerable env s stream)
    (stored : s.streams id = some stream) :
    ∃ health viewed, Runs (getStreamHealth id) env s health viewed := by
  simp only [getStreamHealth, runs_bind, runs_loadStream, stored, Option.some.injEq, runs_ask,
    runs_pure, and_assoc, exists_and_left, exists_eq_left', exists_eq_left,
    runs_calculateAccrued stored]
  exact ⟨answerable.frozen, fun _ => answerable.noted, _, rfl⟩

/-- For a linear stream with a positive rate, in its current epoch, the view answers, and its fields
are exact if and only if neither the sum saturates nor the cast drops anything that shows. -/
theorem health_agrees_iff (stored : s.streams id = some stream)
    (answerable : Answerable env s stream) (streaming : stream.Streaming env.timestamp) :
    ∃ health viewed, Runs (getStreamHealth id) env s health viewed ∧
      (HealthAgrees stream env.timestamp health ↔
        ¬ stream.SumSaturates ∧ ¬ stream.CastShortens env.timestamp) := by
  rcases answerable.runs_getStreamHealth stored with ⟨health, viewed, run⟩
  refine ⟨health, viewed, run, ?_⟩
  rcases fields_of_getStreamHealth stored run with ⟨underfunded, seconds⟩
  have seconds := seconds streaming.rate_pos
  have runsOut := streaming.runsOut_iff
  have reports := streaming.isUnderfunded_iff
  have exact := streaming.seconds_eq_iff
  have saturated : stream.SumSaturates →
      stream.depositAmount < stream.checkpointedAmount + stream.scheduled :=
    fun saturates => saturates.1.le.trans_lt saturates.2.2
  constructor
  · intro agrees
    have flag := agrees.underfunded
    have depletion := agrees.depletion
    rw [underfunded, reports, runsOut] at flag
    rw [seconds, Option.map_some, Option.some.injEq] at depletion
    refine ⟨fun saturates => ?_, exact.mp depletion⟩
    exact (flag.mpr (saturated saturates)).2 saturates
  · rintro ⟨unsaturated, uncast⟩
    have flag : health.isUnderfunded = true ↔
        stream.checkpointedAt + stream.secondsCovered < stream.endTime := by
      rw [underfunded, reports, runsOut, and_iff_left unsaturated]
    have depletion := exact.mpr uncast
    refine ⟨flag, by rw [seconds, Option.map_some, depletion], fun funded => ?_⟩
    have covered : ¬ stream.checkpointedAt + stream.secondsCovered < stream.endTime := by
      rw [← flag, funded]
      exact Bool.false_ne_true
    have running := streaming.running
    rw [seconds, Option.some.injEq]
    omega

namespace Sample

/-- Read after 40 of its 100 seconds, the sample stream at rate 20 has spent its deposit in 10. -/
theorem health_agrees_iff_underfunded :
    let s := Script.run (oneCreation 2000 20 0 0 rfl) genesis
    ∃ stream health viewed, s.streams 0 = some stream ∧
      Runs (getStreamHealth 0) (Sample.env 3 40 1) s health viewed ∧
        HealthAgrees stream 40 health := by
  intro s
  have reached : Reachable contract anyCall 0 s := reachable_oneCreation fun _ _ _ _ => trivial
  have terms : (s.streams 0).map (fun stream => decide (stream.kind = .linear ∧
      stream.ratePerSecond = 20 ∧ stream.checkpointedAmount = 0 ∧ stream.depositAmount = 2000 ∧
      stream.checkpointedAt = 0 ∧ stream.endTime = 100 ∧ ¬ stream.SumSaturates ∧
      ¬ stream.CastShortens 40)) = some true := by
    decide +kernel
  rcases Option.map_eq_some_iff.mp terms with ⟨stream, stored, same⟩
  rcases of_decide_eq_true same with
    ⟨linear, rate, checkpoint, deposit, since, finish, unsaturated, uncast⟩
  have bounds : (2000 : ℤ) ≤ i128.upper ∧ (100 : ℤ) ≤ u64.upper := by decide
  have streaming : stream.Streaming 40 :=
    ⟨linear, by omega, by omega, by omega, by omega, by omega, by omega, by omega⟩
  have answerable : Answerable (Sample.env 3 40 1) s stream :=
    reached.answerable (Nat.zero_le _) stored
  rcases health_agrees_iff stored answerable streaming with ⟨health, viewed, run, agrees_iff⟩
  exact ⟨stream, health, viewed, stored, run, agrees_iff.mpr ⟨unsaturated, uncast⟩⟩

/-- `2 ^ 64 + 5` tokens. -/
def overlong : ℤ := 18446744073709551621

/-- A deposit that lasts for `2 ^ 64 + 5` seconds. -/
def overlongCreation : List (Invocation contract) :=
  oneCreation overlong 1 0 0 (Eq.refl true)

end Sample

/-- After 10 seconds a stream that is not underfunded is reported to be depleted, 90 seconds before
its end. -/
theorem not_always_health_agrees :
    ¬ ∀ env s id stream health s', Reachable env.currentContractAddress anyCall env.timestamp s →
      s.streams id = some stream → stream.Streaming env.timestamp →
      Runs (getStreamHealth id) env s health s' → HealthAgrees stream env.timestamp health := by
  intro always
  let s := Script.run Sample.overlongCreation (Sample.funded Sample.overlong)
  have ordered : Script.Ordered Sample.overlongCreation 0 := ⟨le_rfl, trivial⟩
  have created : Reachable Sample.contract anyCall 0 s :=
    Script.reachable_run ordered (Script.permits_anyCall _ _)
      (.start (Sample.fresh_funded (by decide) (by decide)))
  have reached : Reachable Sample.contract anyCall 10 s := .tick created (by decide)
  have terms : (s.streams 0).map (fun stream => decide (stream.kind = .linear ∧
      stream.ratePerSecond = 1 ∧ stream.checkpointedAmount = 0 ∧
      stream.depositAmount = Sample.overlong ∧ stream.checkpointedAt = 0 ∧
      stream.endTime = 100 ∧ stream.depletionTime = 5)) = some true := by
    decide +kernel
  rcases Option.map_eq_some_iff.mp terms with ⟨stream, stored, same⟩
  rcases of_decide_eq_true same with
    ⟨linear, rate, checkpoint, deposit, since, finish, depleted⟩
  have bounds : 0 ≤ Sample.overlong ∧ Sample.overlong ≤ i128.upper ∧ (100 : ℤ) ≤ u64.upper := by
    decide
  have streaming : stream.Streaming 10 :=
    ⟨linear, by omega, by omega, by omega, by omega, by omega, by omega, by omega⟩
  have answerable : Answerable (Sample.env 3 10 1) s stream := reached.answerable le_rfl stored
  rcases answerable.runs_getStreamHealth stored with ⟨health, viewed, run⟩
  have agrees := always (Sample.env 3 10 1) s 0 stream health viewed reached stored streaming run
  have seconds := (fields_of_getStreamHealth stored run).2 streaming.rate_pos
  have depletion := agrees.depletion
  have covered : stream.secondsCovered = Sample.overlong := by
    rw [Stream.secondsCovered, rate, checkpoint, deposit]
    decide
  rw [seconds, depleted, finish, since, covered] at depletion
  revert depletion
  decide

end Wallie.StreamContract
