import Wallie.Properties.ForwardAccrual

/-!
# Moving the end of a stream

An earlier end refunds what the rate does not earn between the start and the new
end, whatever an earlier rate has frozen: this is what can never accrue as long
as the frozen amount is what the current rate would have earned. A later end
lets a stream that has run out of time, but not of deposit, accrue again.
-/

namespace Wallie.StreamContract

open Fallible

variable {address : Address} {s s' : State} {now id endTime : ℕ} {stream stream' : Stream}
  {move : Move}

namespace Stream

/-- What the recipient can be paid at most if the stream ends at `endTime`, decided at `now`. -/
def payableUntil (stream : Stream) (now endTime : ℕ) : ℤ :=
  max (stream.accruedAt now) (min stream.depositAmount
    (stream.checkpointedAmount + stream.ratePerSecond * (endTime - stream.checkpointedAt : ℕ)))

/-- What the checkpoint has frozen is what the current rate earns from the start up to it. -/
def FrozenAtRate (stream : Stream) : Prop :=
  stream.checkpointedAmount =
    stream.ratePerSecond * ((stream.checkpointedAt : ℤ) - stream.startTime)

instance : Decidable stream.FrozenAtRate :=
  inferInstanceAs (Decidable (_ = _))

/-- What the rate earns from the start to the end. -/
def fullEarnings (stream : Stream) (endTime : ℕ) : ℤ :=
  stream.ratePerSecond * ((endTime : ℤ) - stream.startTime)

theorem frozenAtRate_iff (endTime : ℕ) :
    stream.FrozenAtRate ↔ stream.earnedByClock endTime = stream.fullEarnings endTime := by
  have split : stream.earnedByClock endTime - stream.fullEarnings endTime =
      stream.checkpointedAmount -
        stream.ratePerSecond * ((stream.checkpointedAt : ℤ) - stream.startTime) := by
    simp only [earnedByClock, fullEarnings]
    ring
  unfold FrozenAtRate
  omega

/-- The deposit covers the rest of the schedule after the checkpoint, or all of it at the current
rate. -/
def CoversEnd (stream : Stream) : Prop :=
  stream.kind = .linear → stream.earnedByClock stream.endTime ≤ stream.depositAmount ∨
    stream.fullEarnings stream.endTime ≤ stream.depositAmount

theorem coversEnd_newStream {params : CreateStreamParams} {sender : Address}
    (valid : CreateStreamParams.Valid params sender now) :
    (newStream id sender params).CoversEnd := by
  intro linear
  have covered := valid.covered linear
  rw [Nat.cast_sub valid.start_lt_end.le] at covered
  exact Or.inr covered

/-- Every move but the re-pricing leaves one of the two schedules covered. -/
theorem Moves.coversEnd (moves : stream.Moves now move stream')
    (formed : stream.WellFormed id now) (unpriced : ∀ rate, move ≠ .reprice rate)
    (covers : stream.CoversEnd) : stream'.CoversEnd := by
  have ordered := formed.start_lt_end
  cases moves with
  | topUp live linear running positive fits =>
      intro _
      refine (covers linear).imp (fun covered => ?_) (fun covered => ?_)
      · exact covered.trans (le_add_of_nonneg_right positive.le)
      · exact covered.trans (le_add_of_nonneg_right positive.le)
  | raiseRate live linear raised covered =>
      intro _
      rw [Nat.cast_sub ordered.le] at covered
      exact Or.inr covered
  | @lowerRate rate refund live linear running positive lowered nonneg kept =>
      intro _
      rw [Nat.cast_sub running.le] at kept
      have left : (stream.accruedAt now + rate * ((stream.endTime : ℤ) - now)) =
          stream.depositAmount - refund := by omega
      exact Or.inl left.le
  | reprice live positive => exact absurd rfl (unpriced _)
  | @shorten endTime refund live linear future started visible earlier nonneg kept =>
      intro _
      rw [Nat.cast_sub started.le] at kept
      have covered : stream.ratePerSecond * ((endTime : ℤ) - stream.startTime) ≤
          stream.depositAmount - refund := by omega
      exact Or.inr covered
  | @extend endTime live linear later future covered =>
      intro _
      rw [Nat.cast_sub (ordered.trans later).le] at covered
      exact Or.inr covered
  | withdraw _ _ _ _ _ _ | pause _ _ | resume _ _ | cancel _ _ | settle _ _ _
  | keeperCancel _ _ _ _ | rotate => exact covers

end Stream

theorem Reachable.coversEnd (reached : Reachable address withoutUpdateRate now s)
    (stored : s.streams id = some stream) : stream.CoversEnd := by
  refine reached.forall_stored (fun _ stream => stream.CoversEnd) ?_ ?_ ?_ stored
  · exact fun _ _ _ _ valid => Stream.coversEnd_newStream valid
  · exact fun _ _ _ _ _ _ covers => covers
  · intro s invocation id move stream stream' allowed makes _ formed moves covers
    exact moves.coversEnd formed (makes.emits.not_reprice allowed) covers

namespace Stream

/-- Before an end that is still ahead the clock has not earned as much as it has there. -/
theorem WellFormed.accruedAt_lt_earnedByClock (formed : stream.WellFormed id now)
    (linear : stream.kind = .linear) (future : now < endTime)
    (since : stream.checkpointedAt < endTime) :
    stream.accruedAt now < stream.earnedByClock endTime := by
  have within : stream.epoch.value now ≤ stream.epoch.earned now :=
    formed.bounded.epoch_sound.value_le_earned
  have shorter : stream.epoch.elapsed now < (endTime : ℤ) - stream.checkpointedAt := by
    simp only [AccrualEpoch.elapsed, epoch]
    omega
  have product := mul_lt_mul_of_pos_left shorter (formed.rate_pos linear)
  rw [AccrualEpoch.earned, epoch_base_of_linear linear, epoch_rate_of_linear linear] at within
  rw [formed.bounded.accruedAt_eq_value, earnedByClock]
  omega

/-- The larger of the full earnings and the accrual is what the recipient can be paid at most
exactly when the frozen amount is what the rate earned before, or the whole deposit has accrued. -/
theorem WellFormed.payableUntil_iff (formed : stream.WellFormed id now)
    (linear : stream.kind = .linear) (covers : stream.CoversEnd) (future : now < endTime)
    (started : stream.startTime < endTime) (earlier : endTime < stream.endTime)
    (affordable : max (stream.fullEarnings endTime) (stream.accruedAt now) ≤
      stream.depositAmount) :
    max (stream.fullEarnings endTime) (stream.accruedAt now) = stream.payableUntil now endTime ↔
      stream.FrozenAtRate ∨ stream.accruedAt now = stream.depositAmount := by
  have since : stream.checkpointedAt < endTime := by
    rcases formed.since with initial | past <;> omega
  have earned : stream.earnedByClock endTime = stream.checkpointedAmount +
      stream.ratePerSecond * (endTime - stream.checkpointedAt : ℕ) := by
    rw [earnedByClock, Nat.cast_sub since.le]
  have ahead := formed.accruedAt_lt_earnedByClock linear future since
  -- At the old end, which is later, both schedules cost more than at the new one.
  have longer : (0 : ℤ) < stream.endTime - endTime := by omega
  have gain := mul_pos (formed.rate_pos linear) longer
  have clockGain : stream.earnedByClock stream.endTime =
      stream.earnedByClock endTime + stream.ratePerSecond * (stream.endTime - endTime) := by
    simp only [earnedByClock]
    ring
  have fullGain : stream.fullEarnings stream.endTime =
      stream.fullEarnings endTime + stream.ratePerSecond * (stream.endTime - endTime) := by
    simp only [fullEarnings]
    ring
  have covered := covers linear
  rw [frozenAtRate_iff endTime, payableUntil, ← earned]
  omega

end Stream

/-! ## An earlier end -/

/-- What the new deposit is: the full earnings up to the new end, but not less than the accrual. -/
def Stream.shortenedDeposit (stream : Stream) (now endTime : ℕ) : ℤ :=
  max (stream.fullEarnings endTime) (stream.accruedAt now)

def Stream.shortened (stream : Stream) (now endTime : ℕ) : Stream :=
  { stream with endTime, depositAmount := stream.shortenedDeposit now endTime }

/-- A successful shortening of a stored stream, with what it writes and pays. -/
structure Shortens (env : Env) (s : State) (id endTime : ℕ) (stream : Stream) (s' : State) :
    Prop where
  stored : s.streams id = some stream
  live : stream.Live
  linear : stream.kind = .linear
  authorised : env.auth stream.sender = true
  future : env.timestamp < endTime
  started : stream.startTime < endTime
  earlier : endTime < stream.endTime
  affordable : stream.shortenedDeposit env.timestamp endTime ≤ stream.depositAmount
  written : s'.streams stream.streamId = some (stream.shortened env.timestamp endTime)
  paid : s'.balances = movedBalances s.balances env.currentContractAddress stream.sender
    (stream.depositAmount - stream.shortenedDeposit env.timestamp endTime)

theorem shortens_of_run {env : Env} {done : Unit}
    (run : Runs (shortenStreamEndTime id endTime) env s done s') :
    ∃ stream, Shortens env s id endTime stream s' := by
  rcases shortenStreamEndTime_cases run with
    ⟨stream, adjusts, future, started, -, earlier, covered, middle, pushed, rfl⟩
  have nonneg := sub_nonneg.mpr covered
  have balances := congrArg State.balances (runs_pushPositive.mp pushed).2
  rw [State.pushedPositive_balances nonneg] at balances
  have streams := (State.pays_of_pushPositive nonneg pushed).streams
  have same : stream.ratePerSecond * (endTime - stream.startTime : ℕ) =
      stream.fullEarnings endTime := by
    rw [Stream.fullEarnings, Nat.cast_sub started.le]
  rw [same] at covered balances streams
  refine ⟨stream, adjusts.stored, adjusts.live, adjusts.linear, adjusts.authorised, future,
    started, earlier, covered, ?_, balances⟩
  change middle.streams stream.streamId = _
  rw [streams]
  exact Function.update_self _ _ _

/-- The accrual view answers the same in two states. -/
def SameAccrual (env : Env) (id : ℕ) (s s' : State) : Prop :=
  ∀ amount, s.Accrues env id amount ↔ s'.Accrues env id amount

theorem Reachable.sameAccrual_iff {permitted : State → Env → Call → Prop} {env : Env}
    (reached : Reachable address permitted env.timestamp s)
    (reached' : Reachable address permitted env.timestamp s') (stored : s.streams id = some stream)
    (stored' : s'.streams id = some stream') :
    SameAccrual env id s s' ↔
      stream'.entitlement env.timestamp = stream.entitlement env.timestamp := by
  simp only [SameAccrual, reached.accrues_iff le_rfl stored, reached'.accrues_iff le_rfl stored']
  constructor
  · exact fun same => ((same _).mp rfl).symm
  · intro same amount
    rw [same]

/-- On every run without `updateRate` a successful `shortenStreamEndTime` leaves the accrual at that
moment alone and pays nobody but the sender. The refund is the deposit less what the recipient can
still be paid exactly when what the checkpoint has frozen is what the current rate earns from the
start up to it, or the whole deposit has accrued. -/
theorem shorten_refund_iff (reached : Reachable address withoutUpdateRate now s)
    (invocation : Invocation address) (order : now ≤ invocation.env.timestamp)
    (called : invocation.call = .shortenStreamEndTime id endTime)
    (run : Runs invocation.call.run invocation.env s () s') :
    ∃ stream refund, s.streams id = some stream ∧ SameAccrual invocation.env id s s' ∧
      stream.sender ≠ address ∧
      s'.balances = movedBalances s.balances address stream.sender refund ∧
      (refund = stream.depositAmount - stream.payableUntil invocation.env.timestamp endTime ↔
        stream.FrozenAtRate ∨
          stream.accruedAt invocation.env.timestamp = stream.depositAmount) := by
  have allowed : withoutUpdateRate s invocation.env invocation.call := by
    rw [called]
    trivial
  have before : Reachable address withoutUpdateRate invocation.env.timestamp s :=
    .tick reached order
  have after := reached.after order allowed run
  rw [called] at run
  rcases shortens_of_run run with ⟨stream, shortens⟩
  have formed := before.book_wellFormed.records id stream shortens.stored
  have stored' : s'.streams id = some (stream.shortened invocation.env.timestamp endTime) := by
    rw [← formed.streamId]
    exact shortens.written
  have bounded' := (after.book_wellFormed.records id _ stored').bounded
  have unmoved : (stream.shortened invocation.env.timestamp endTime).accruedAt
      invocation.env.timestamp = stream.accruedAt invocation.env.timestamp :=
    formed.bounded.accruedAt_shortened shortens.linear shortens.future.le
      (shortens.future.trans shortens.earlier).le (le_max_right _ _) shortens.affordable bounded'
  have exact_ := formed.payableUntil_iff shortens.linear (before.coversEnd shortens.stored)
    shortens.future shortens.started shortens.earlier shortens.affordable
  refine ⟨stream, _, shortens.stored, ?_, invocation.ne_of_auth shortens.authorised,
    invocation.here ▸ shortens.paid, ?_⟩
  · rw [before.sameAccrual_iff after shortens.stored stored', shortens.live.entitlement,
      shortens.live.entitlement_of_status (by rfl)]
    exact unmoved
  · rw [← exact_, sub_right_inj]
    rfl

namespace Sample

/-- The end of the first stream is moved from 100 to 60. -/
def shortening (instant : ℕ) (valid : decide (u64.Contains instant ∧ u32.Contains (1 : ℕ) ∧
    (Call.shortenStreamEndTime 0 60).WellTyped) = true) : Invocation contract :=
  invocation 1 instant 1 (.shortenStreamEndTime 0 60) valid

/-- A stream of 1000 tokens at rate 10, whose rate is lowered to 5 at 50. -/
def halved : List (Invocation contract) :=
  oneCreation 1000 10 0 0 (Eq.refl true) ++
    [invocation 1 50 1 (.decreaseRatePerSecond 0 5) (Eq.refl true)]

end Sample

/-- Of 1000 tokens at rate 10 the last 400 are refunded when the end moves from 100 to 60. -/
theorem shorten_refund_iff_fresh :
    let s := Script.run (Sample.oneCreation 1000 10 0 0 rfl) Sample.genesis
    let shortening := Sample.shortening 40 rfl
    let s' := shortening.call.run.commit shortening.env s
    SameAccrual shortening.env 0 s s' ∧
      s'.balances = movedBalances s.balances Sample.contract Sample.sender 400 := by
  intro s shortening s'
  have reached : Reachable Sample.contract withoutUpdateRate 0 s :=
    Sample.reachable_oneCreation fun _ _ _ _ => trivial
  have changed : (shortening.call.run.commit shortening.env s).streams 0 ≠ s.streams 0 := by
    decide
  have run : Runs shortening.call.run shortening.env s () s' := Script.runs_of_changed changed
  rcases shorten_refund_iff reached shortening (by decide) rfl run with
    ⟨stream, refund, stored, same, -, paid, exact_⟩
  have terms : (s.streams 0).map (fun stream =>
      (stream.sender, stream.depositAmount - stream.payableUntil 40 60,
        decide stream.FrozenAtRate)) = some (Sample.sender, 400, true) := by
    decide
  rw [stored] at terms
  simp only [Option.map_some, Option.some.injEq, Prod.mk.injEq, decide_eq_true_eq] at terms
  rcases terms with ⟨bySender, payable, frozen⟩
  have refunded : refund = 400 := (exact_.mpr (Or.inl frozen)).trans payable
  rw [refunded, bySender] at paid
  exact ⟨same, paid⟩

/-- After a decrease of the rate at 50 the checkpoint has frozen 500, and at rate 5 another 50 would
accrue up to 60; of the 750 left 250 are refunded instead of 200. -/
theorem not_always_shorten_refund :
    ¬ ∀ address now s, Reachable address withoutUpdateRate now s →
      ∀ (invocation : Invocation address) id endTime s' stream, now ≤ invocation.env.timestamp →
        invocation.call = .shortenStreamEndTime id endTime →
        Runs invocation.call.run invocation.env s () s' → s.streams id = some stream →
          s'.balances stream.sender - s.balances stream.sender =
            stream.depositAmount - stream.payableUntil invocation.env.timestamp endTime := by
  intro always
  let s := Script.run Sample.halved Sample.genesis
  let shortening := Sample.shortening 50 rfl
  let s' := shortening.call.run.commit shortening.env s
  have ordered : Script.Ordered Sample.halved 0 := ⟨by decide, by decide, trivial⟩
  have reached : Reachable Sample.contract withoutUpdateRate 50 s :=
    Script.reachable_run ordered ⟨trivial, trivial, trivial⟩ (Sample.reachable_genesis _)
  have changed : (shortening.call.run.commit shortening.env s).streams 0 ≠ s.streams 0 := by
    decide
  have terms : (s.streams 0).map (fun stream =>
      (stream.sender, stream.depositAmount - stream.payableUntil 50 60)) =
        some (Sample.sender, 200) := by
    decide
  rcases Option.map_eq_some_iff.mp terms with ⟨stream, stored, same⟩
  rcases Prod.mk.inj same with ⟨bySender, payable⟩
  have run : Runs shortening.call.run shortening.env s () s' := Script.runs_of_changed changed
  have claimed := always _ _ s reached shortening 0 60 s' stream (by decide) rfl run stored
  have refunded : s'.balances Sample.sender - s.balances Sample.sender = 250 := by decide
  rw [bySender, refunded] at claimed
  exact absurd (claimed.trans payable) (by decide)

/-! ## A later end -/

/-- Once the old end is past, a later one leaves the accrual alone exactly when all of the deposit
has accrued or nothing has since the checkpoint. -/
theorem Stream.WellFormed.accruedAt_extended_iff (formed : stream.WellFormed id now)
    (bounded' : ({ stream with endTime } : Stream).Bounded) (linear : stream.kind = .linear)
    (future : now ≤ endTime) :
    ({ stream with endTime } : Stream).accruedAt now = stream.accruedAt now ↔
      now ≤ stream.endTime ∨ stream.accruedAt now = stream.depositAmount ∨
        now = stream.checkpointedAt := by
  have same : ({ stream with endTime } : Stream).epoch =
      { stream.epoch with finish := (endTime : ℤ) } := by
    simp [Stream.epoch, linear]
  rw [bounded'.accruedAt_eq_value, formed.bounded.accruedAt_eq_value, same]
  rcases le_or_gt now stream.endTime with running | ended
  · have unmoved : ({ stream.epoch with finish := (endTime : ℤ) } : AccrualEpoch ℤ).value now =
        stream.epoch.value now :=
      AccrualEpoch.value_eq_of_finish (Int.ofNat_le.mpr running) (Int.ofNat_le.mpr future)
    exact iff_of_true unmoved (Or.inl running)
  · have visible : stream.epoch.gate ≤ now :=
      Int.ofNat_le.mpr (formed.cliff_le_end.trans ended.le)
    have since : stream.checkpointedAt ≤ now := by
      have started := formed.start_lt_end
      rcases formed.since with initial | past <;> omega
    have rate_pos : 0 < stream.epoch.rate := by
      rw [Stream.epoch_rate_of_linear linear]
      exact formed.rate_pos linear
    have capped : min stream.epoch.cap (stream.epoch.earned now) = stream.depositAmount ↔
        stream.epoch.cap ≤ stream.epoch.earned now := min_eq_left_iff
    have frozen : (now : ℤ) ≤ stream.epoch.since ↔ now = stream.checkpointedAt := by
      simp only [Stream.epoch]
      omega
    rw [AccrualEpoch.value_extend_iff rate_pos (Int.ofNat_lt.mpr ended) (Int.ofNat_le.mpr future),
      AccrualEpoch.value_of_gate_le visible, capped, frozen]
    have early := not_lt.mpr visible
    have past := not_le.mpr ended
    tauto

/-- On every run without `updateRate` a successful `extendStreamEndTime` leaves the accrual at that
moment alone exactly when the old end has not passed, the whole deposit has accrued, or the accrual
has just been frozen. -/
theorem extend_accrual_iff (reached : Reachable address withoutUpdateRate now s)
    (invocation : Invocation address) (order : now ≤ invocation.env.timestamp)
    (called : invocation.call = .extendStreamEndTime id endTime)
    (run : Runs invocation.call.run invocation.env s () s') :
    ∃ stream, s.streams id = some stream ∧
      (SameAccrual invocation.env id s s' ↔
        invocation.env.timestamp ≤ stream.endTime ∨
          stream.accruedAt invocation.env.timestamp = stream.depositAmount ∨
          invocation.env.timestamp = stream.checkpointedAt) := by
  have allowed : withoutUpdateRate s invocation.env invocation.call := by
    rw [called]
    trivial
  have before : Reachable address withoutUpdateRate invocation.env.timestamp s :=
    .tick reached order
  have after := reached.after order allowed run
  rw [called] at run
  rcases extendStreamEndTime_cases run with ⟨stream, adjusts, -, -, -, future, -, rfl⟩
  have formed := before.book_wellFormed.records id stream adjusts.stored
  let extended : Stream := { stream with endTime }
  have stored' : Function.update s.streams stream.streamId (some extended) id = some extended := by
    rw [formed.streamId, Function.update_self]
  have bounded' := (after.book_wellFormed.records id _ stored').bounded
  refine ⟨stream, adjusts.stored, ?_⟩
  rw [before.sameAccrual_iff after adjusts.stored stored', adjusts.live.entitlement,
    adjusts.live.entitlement_of_status (by rfl)]
  exact formed.accruedAt_extended_iff bounded' adjusts.linear future

namespace Sample

/-- The end of the first stream is moved from 100 to 150. -/
def extending (instant : ℕ) (valid : decide (u64.Contains instant ∧ u32.Contains (1 : ℕ) ∧
    (Call.extendStreamEndTime 0 150).WellTyped) = true) : Invocation contract :=
  invocation 1 instant 1 (.extendStreamEndTime 0 150) valid

end Sample

/-- Before its end at 100 a stream of 2000 tokens at rate 10 is extended to 150. -/
theorem extend_accrual_iff_running :
    let s := Script.run (Sample.oneCreation 2000 10 0 0 rfl) Sample.genesis
    let extending := Sample.extending 40 rfl
    SameAccrual extending.env 0 s (extending.call.run.commit extending.env s) := by
  intro s extending
  have reached : Reachable Sample.contract withoutUpdateRate 0 s :=
    Sample.reachable_oneCreation fun _ _ _ _ => trivial
  have changed : (extending.call.run.commit extending.env s).streams 0 ≠ s.streams 0 := by decide
  rcases extend_accrual_iff reached extending (by decide) rfl (Script.runs_of_changed changed) with
    ⟨stream, stored, same⟩
  have ends : (s.streams 0).map Stream.endTime = some 100 := by decide
  rw [stored, Option.map_some, Option.some.injEq] at ends
  have running : 40 ≤ stream.endTime := by omega
  exact same.mpr (Or.inl running)

/-- At 120, after its end, a stream of 2000 tokens at rate 10 has accrued 1000, and 1200 once it is
extended to 150. -/
theorem not_always_extend_accrual :
    (¬ ∀ address now s, Reachable address withoutUpdateRate now s →
      ∀ (invocation : Invocation address) id endTime s', now ≤ invocation.env.timestamp →
        invocation.call = .extendStreamEndTime id endTime →
        Runs invocation.call.run invocation.env s () s' →
          SameAccrual invocation.env id s s') ∧
    let s := Script.run (Sample.oneCreation 2000 10 0 0 rfl) Sample.genesis
    let extending := Sample.extending 120 rfl
    s.Accrues extending.env 0 1000 ∧
      (extending.call.run.commit extending.env s).Accrues extending.env 0 1200 := by
  let s := Script.run (Sample.oneCreation 2000 10 0 0 rfl) Sample.genesis
  let extending := Sample.extending 120 rfl
  let s' := extending.call.run.commit extending.env s
  have reached : Reachable Sample.contract withoutUpdateRate 0 s :=
    Sample.reachable_oneCreation fun _ _ _ _ => trivial
  have reached' := reached.invoke extending (by decide) trivial
  have ahead : Reachable Sample.contract withoutUpdateRate 120 s := .tick reached (by decide)
  have before : s.Accrues extending.env 0 1000 := ahead.accrues (by decide) (by decide)
  have after : s'.Accrues extending.env 0 1200 := reached'.accrues (by decide) (by decide)
  refine ⟨fun always => ?_, before, after⟩
  have changed : s'.streams 0 ≠ s.streams 0 := by decide
  have same := always _ _ s reached extending 0 150 s' (by decide) rfl
    (Script.runs_of_changed changed)
  let stream' := (s'.streams 0).get (by decide)
  have stored' : s'.streams 0 = some stream' := (Option.some_get _).symm
  have unmoved := (same 1000).mp before
  rw [reached'.accrues_iff le_rfl stored'] at unmoved
  exact absurd unmoved (by decide)

end Wallie.StreamContract
