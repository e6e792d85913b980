import Wallie.Properties.RateChanges

/-!
# The accrual after a rate change

A rate change freezes the accrual the recipient sees and continues from there.
After the cliff that is what has been earned by the clock; before the cliff
nothing is visible, so what was earned by then is lost unless the rest of the
schedule exhausts the deposit anyway.
-/

namespace Wallie.StreamContract

open Fallible

variable {address : Address} {s s' : State} {now later id : ℕ} {stream stream' : Stream}
  {move : Move} {call : Call} {held : ℤ}

/-- The entrypoints that freeze the accrual of stream `id` and change its rate. -/
def Call.CheckpointsRate (id : ℕ) : Call → Prop
  | updateRatePerSecond changed _ | decreaseRatePerSecond changed _ => changed = id
  | _ => False

theorem Call.CheckpointsRate.changesRate (checkpoints : call.CheckpointsRate id) :
    call.ChangesRate id := by
  cases call with
  | updateRatePerSecond _ _ | decreaseRatePerSecond _ _ => exact checkpoints
  | _ => exact absurd checkpoints not_false

theorem Call.CheckpointsRate.withoutUpdateRate {env : Env}
    (checkpoints : call.CheckpointsRate id) : withoutUpdateRate s env call := by
  cases call with
  | updateRate _ _ _ => exact absurd checkpoints not_false
  | _ => trivial

namespace Stream

/-- What has been earned by the clock up to `now`, whatever the cliff and the deposit. -/
def earnedByClock (stream : Stream) (now : ℕ) : ℤ :=
  stream.checkpointedAmount + stream.ratePerSecond * ((now : ℤ) - stream.checkpointedAt)

/-- The accrual at `later` when a rate and a deposit apply from `now` on and those of `stream`
before: what is earned by the clock under both rates, up to the deposit. -/
def forwardAccrual (stream : Stream) (now : ℕ) (ratePerSecond depositAmount : ℤ) (later : ℕ) : ℤ :=
  min depositAmount
    (stream.earnedByClock now + ratePerSecond * ((min later stream.endTime : ℕ) - (now : ℤ)))

/-- A rate change at `now` loses nothing at the cliff: it is past, nothing has been earned since the
last checkpoint, or the new terms exhaust the deposit at the cliff. -/
def LosesNothing (stream : Stream) (now : ℕ) : Call → Prop
  | .updateRatePerSecond _ rate => stream.cliffTime ≤ now ∨ now = stream.checkpointedAt ∨
      stream.depositAmount ≤ rate * ((stream.cliffTime : ℤ) - now)
  | .decreaseRatePerSecond _ _ => stream.cliffTime ≤ now ∨ now = stream.checkpointedAt ∨
      stream.endTime ≤ stream.cliffTime
  | _ => True

/-- The accrual of a checkpointed stream after the cliff. -/
theorem Bounded.accruedAt_after_checkpoint (bounded : stream.Bounded)
    (linear : stream.kind = .linear) {ratePerSecond depositAmount : ℤ}
    (bounded' : ({ stream.checkpointed now ratePerSecond with depositAmount } : Stream).Bounded)
    (running : now ≤ stream.endTime) (order : now ≤ later) (visible : stream.cliffTime ≤ later) :
    ({ stream.checkpointed now ratePerSecond with depositAmount } : Stream).accruedAt later =
      min depositAmount
        (stream.accruedAt now + ratePerSecond * ((min later stream.endTime : ℕ) - (now : ℤ))) := by
  have rebased : ({ stream.checkpointed now ratePerSecond with depositAmount } : Stream).epoch =
      stream.epoch.checkpoint now ratePerSecond depositAmount := by
    rw [epoch_checkpointed linear, bounded.accruedAt_eq_value]
    rfl
  rw [bounded'.accruedAt_eq_value, rebased, bounded.accruedAt_eq_value,
    AccrualEpoch.value_checkpoint_of_le (Int.ofNat_le.mpr running) (Int.ofNat_le.mpr order)
      (Int.ofNat_le.mpr visible), Nat.cast_min]
  rfl

theorem WellFormed.since_le (formed : stream.WellFormed id now) (started : stream.startTime ≤ now) :
    stream.checkpointedAt ≤ now := by
  rcases formed.since with initial | past
  · exact initial.trans_le started
  · exact past

/-- After the cliff the recipient sees what is earned by the clock, up to the deposit. -/
theorem WellFormed.accruedAt_visible (formed : stream.WellFormed id now)
    (linear : stream.kind = .linear) (since : stream.checkpointedAt ≤ later)
    (running : stream.checkpointedAt ≤ stream.endTime) (visible : stream.cliffTime ≤ later) :
    stream.accruedAt later =
      min stream.depositAmount (stream.earnedByClock (min later stream.endTime)) := by
  have started : (0 : ℤ) ≤ min (later : ℤ) stream.endTime - stream.checkpointedAt := by omega
  rw [formed.bounded.accruedAt_eq_value, AccrualEpoch.value_of_gate_le (Int.ofNat_le.mpr visible),
    AccrualEpoch.earned, AccrualEpoch.elapsed, epoch_base_of_linear linear,
    epoch_rate_of_linear linear, earnedByClock, Nat.cast_min]
  simp only [epoch, max_eq_right started]

/-- Before the cliff nothing has been frozen. -/
theorem WellFormed.earnedByClock_early (formed : stream.WellFormed id now)
    (early : now < stream.cliffTime) :
    stream.earnedByClock now = stream.ratePerSecond * ((now : ℤ) - stream.checkpointedAt) := by
  have unfrozen : stream.checkpointedAmount = 0 := by
    rcases formed.base with zero | ⟨visible, past⟩
    · exact zero
    · omega
  rw [earnedByClock, unfrozen, zero_add]

/-- When the accrual after a checkpoint is what is earned by the clock under both rates. -/
theorem WellFormed.forward_iff (formed : stream.WellFormed id now) (linear : stream.kind = .linear)
    {ratePerSecond depositAmount : ℤ}
    (bounded' : ({ stream.checkpointed now ratePerSecond with depositAmount } : Stream).Bounded)
    (started : stream.startTime ≤ now) (running : now < stream.endTime)
    (positive : 0 < ratePerSecond) (lowered : depositAmount ≤ stream.depositAmount) :
    (∀ later, now ≤ later → stream.cliffTime ≤ later →
      ({ stream.checkpointed now ratePerSecond with depositAmount } : Stream).accruedAt later =
        stream.forwardAccrual now ratePerSecond depositAmount later) ↔
      stream.cliffTime ≤ now ∨ now = stream.checkpointedAt ∨
        depositAmount ≤ ratePerSecond * ((stream.cliffTime : ℤ) - now) := by
  have since := formed.since_le started
  have frozen := fun (later : ℕ) (order : now ≤ later) (visible : stream.cliffTime ≤ later) =>
    formed.bounded.accruedAt_after_checkpoint linear bounded' running.le order visible
  rcases le_or_gt stream.cliffTime now with visible | early
  · refine iff_of_true (fun later order visible' => ?_) (Or.inl visible)
    have ahead : (0 : ℤ) ≤ (min later stream.endTime : ℕ) - (now : ℤ) := by omega
    have future := mul_nonneg positive.le ahead
    have seen := formed.accruedAt_visible linear since (by omega) visible
    rw [min_eq_left running.le] at seen
    rw [frozen later order visible', forwardAccrual, seen]
    omega
  · have hidden := accruedAt_of_lt_cliff early
    have earned := formed.earnedByClock_early early
    have rate_pos := formed.rate_pos linear
    constructor
    · intro exact_
      -- At the cliff the least has been earned since `now`.
      have atCliff := exact_ stream.cliffTime early.le le_rfl
      rw [frozen _ early.le le_rfl, forwardAccrual, hidden,
        min_eq_left formed.cliff_le_end] at atCliff
      rcases since.eq_or_lt with same | before
      · exact Or.inr (Or.inl same.symm)
      · have lost : 0 < stream.earnedByClock now := by
          rw [earned]
          exact mul_pos rate_pos (by omega)
        omega
    · intro loses later order visible
      rw [frozen later order visible, forwardAccrual, hidden]
      rcases loses with visible' | same | exhausted
      · omega
      · rw [earned, same, sub_self, mul_zero]
      · have nonneg : 0 ≤ stream.earnedByClock now := by
          rw [earned]
          exact mul_nonneg rate_pos.le (by omega)
        have later_le : ratePerSecond * ((stream.cliffTime : ℤ) - now) ≤
            ratePerSecond * ((min later stream.endTime : ℕ) - (now : ℤ)) := by
          have ends := formed.cliff_le_end
          exact mul_le_mul_of_nonneg_left (by omega) positive.le
        omega

/-- When the accrual after a change of the rate is what is earned by the clock. -/
theorem Moves.forward_iff (moves : stream.Moves now move stream')
    (formed : stream.WellFormed id now) (changing : call.Changing held id move)
    (checkpoints : call.CheckpointsRate id) (started : stream.startTime ≤ now)
    (running : now < stream.endTime) :
    (∀ later, now ≤ later → stream.cliffTime ≤ later →
      stream'.accruedAt later =
        stream.forwardAccrual now stream'.ratePerSecond stream'.depositAmount later) ↔
      stream.LosesNothing now call := by
  have bounded' := (moves.wellFormed formed).bounded
  cases changing with
  | updateRatePerSecond =>
      cases moves with
      | raiseRate live linear raised _ =>
          exact formed.forward_iff linear bounded' started running
            (formed.bounded.rate_nonneg.trans_lt raised) le_rfl
  | @decreaseRatePerSecond rate refund =>
      cases moves with
      | lowerRate live linear _ positive _ nonneg kept =>
          have lowered : stream.depositAmount - refund ≤ stream.depositAmount := by omega
          refine (formed.forward_iff linear bounded' started running positive lowered).trans ?_
          rcases le_or_gt stream.cliffTime now with visible | early
          · exact iff_of_true (Or.inl visible) (Or.inl visible)
          · have left : stream.depositAmount - refund =
                rate * ((stream.endTime : ℤ) - now) := by
              rw [accruedAt_of_lt_cliff early, Nat.cast_sub running.le] at kept
              omega
            rw [left, LosesNothing, mul_le_mul_iff_right₀ positive]
            omega
  | _ => exact absurd checkpoints not_false

theorem Moves.entitlement_eq (moves : stream.Moves now move stream')
    (changing : call.Changing held id move) (checkpoints : call.CheckpointsRate id) (later : ℕ) :
    stream.entitlement later = stream.accruedAt later ∧
      stream'.entitlement later = stream'.accruedAt later := by
  cases changing with
  | updateRatePerSecond =>
      cases moves with
      | raiseRate live _ _ _ =>
          exact ⟨live.entitlement later, live.entitlement_of_status (by rfl) later⟩
  | decreaseRatePerSecond =>
      cases moves with
      | lowerRate live _ _ _ _ _ _ =>
          exact ⟨live.entitlement later, live.entitlement_of_status (by rfl) later⟩
  | _ => exact absurd checkpoints not_false

/-- A higher rate from `now` on earns at least as much by the clock. -/
theorem WellFormed.accruedAt_le_forward (formed : stream.WellFormed id now)
    (linear : stream.kind = .linear) {ratePerSecond : ℤ} (started : stream.startTime ≤ now)
    (running : now < stream.endTime) (raised : stream.ratePerSecond ≤ ratePerSecond)
    (order : now ≤ later) (visible : stream.cliffTime ≤ later) :
    stream.accruedAt later ≤
      stream.forwardAccrual now ratePerSecond stream.depositAmount later := by
  have since := formed.since_le started
  have ahead : (0 : ℤ) ≤ (min later stream.endTime : ℕ) - (now : ℤ) := by omega
  have faster := mul_le_mul_of_nonneg_right raised ahead
  have split : stream.earnedByClock (min later stream.endTime) = stream.earnedByClock now +
      stream.ratePerSecond * ((min later stream.endTime : ℕ) - (now : ℤ)) := by
    simp only [earnedByClock]
    ring
  rw [formed.accruedAt_visible linear (since.trans order) (by omega) visible, forwardAccrual,
    split]
  exact min_le_min le_rfl (by omega)

/-- Where a rise loses nothing it never lowers the accrual. -/
theorem Moves.accruedAt_raised (moves : stream.Moves now move stream')
    (formed : stream.WellFormed id now) {rate : ℤ}
    (changing : (Call.updateRatePerSecond id rate).Changing held id move)
    (started : stream.startTime ≤ now) (running : now < stream.endTime)
    (forward : ∀ later, now ≤ later → stream.cliffTime ≤ later → stream'.accruedAt later =
      stream.forwardAccrual now stream'.ratePerSecond stream'.depositAmount later)
    (order : now ≤ later) : stream.accruedAt later ≤ stream'.accruedAt later := by
  cases changing with
  | updateRatePerSecond =>
      cases moves with
      | raiseRate live linear raised _ =>
          rcases lt_or_ge later stream.cliffTime with early | visible
          · rw [accruedAt_of_lt_cliff early, accruedAt_of_lt_cliff (by exact early)]
          · rw [forward later order visible]
            exact formed.accruedAt_le_forward linear started running raised.le order visible

end Stream

/-- On every run without `updateRate`, after a change of the rate between the start and the end the
accrual is what is earned by the clock under both rates, and a rise never lowers it, exactly when
the change loses nothing at the cliff. -/
theorem forward_accrual_iff (reached : Reachable address withoutUpdateRate now s)
    (invocation : Invocation address) (order : now ≤ invocation.env.timestamp)
    (checkpoints : invocation.call.CheckpointsRate id)
    (run : Runs invocation.call.run invocation.env s () s') (stored : s.streams id = some stream)
    (started : stream.startTime ≤ invocation.env.timestamp)
    (running : invocation.env.timestamp < stream.endTime) :
    ∃ stream', s'.streams id = some stream' ∧
      ((∀ later final, (system address).Continues (onCalls withoutUpdateRate)
            invocation.env.timestamp s' later final → final.streams id = some stream' →
          ∀ env, env.timestamp = later → stream.cliffTime ≤ later →
            final.Accrues env id (stream.forwardAccrual invocation.env.timestamp
              stream'.ratePerSecond stream'.depositAmount later)) ∧
        (∀ rate, invocation.call = .updateRatePerSecond id rate →
          ∀ env, invocation.env.timestamp ≤ env.timestamp → ∀ unchanged raised,
            s.Accrues env id unchanged → s'.Accrues env id raised → unchanged ≤ raised) ↔
        stream.LosesNothing invocation.env.timestamp invocation.call) := by
  have formed := reached.book_wellFormed.mono order
  rcases invocation.moves_of_changesRate formed checkpoints.changesRate run with
    ⟨move, before, stream', changing, stored₀, moves, stored'⟩
  obtain rfl : before = stream := Option.some.inj (stored₀.symm.trans stored)
  have reached' := reached.after order checkpoints.withoutUpdateRate run
  have record := formed.records id before stored
  have entitled := moves.entitlement_eq changing checkpoints
  refine ⟨stream', stored', ?_⟩
  rw [← moves.forward_iff record changing checkpoints started running]
  constructor
  · rintro ⟨exact_, -⟩ later ahead visible
    have answer := exact_ later s' (.tick .here ahead) stored'
      { invocation.env with timestamp := later } rfl visible
    rw [reached'.accrues_iff (by exact ahead) stored', (entitled later).2] at answer
    exact answer.symm
  · intro forward
    constructor
    · rintro later final continued stored'' env rfl visible
      have reached'' : Reachable address withoutUpdateRate env.timestamp final :=
        continued.reachable reached'
      rw [reached''.accrues_iff le_rfl stored'', (entitled _).2]
      exact (forward _ continued.order visible).symm
    · intro rate same env ahead unchanged raised answer answer'
      rw [reached.accrues_iff (order.trans ahead) stored, (entitled _).1] at answer
      rw [reached'.accrues_iff ahead stored', (entitled _).2] at answer'
      rw [answer, answer']
      rw [same] at changing
      exact moves.accruedAt_raised record changing started running forward ahead

namespace Sample

/-- The rate of a stream of 1100 tokens is raised from 10 to 11 at `instant`. -/
def raising (instant : ℕ) (valid : decide (u64.Contains instant ∧ u32.Contains (1 : ℕ) ∧
    (Call.updateRatePerSecond 0 11).WellTyped) = true) : Invocation contract :=
  invocation 1 instant 1 (.updateRatePerSecond 0 11) valid

/-- A stream of 1100 tokens at rate 10 with a cliff. -/
def cliffed (cliffTime : ℕ) (valid : decide (u64.Contains (0 : ℕ) ∧ u32.Contains (0 : ℕ) ∧
    (Call.createStream sender (params 1100 10 0 cliffTime)).WellTyped) = true) :
    List (Invocation contract) :=
  oneCreation 1100 10 0 cliffTime valid

end Sample

/-- A rise at 40, after the cliff at 20: at 60 the stream has accrued 400 + 11 · 20. -/
theorem forward_accrual_iff_raised :
    let s := Script.run (Sample.cliffed 20 rfl) Sample.genesis
    let raising := Sample.raising 40 rfl
    (raising.call.run.commit raising.env s).Accrues (Sample.env 0 60 1) 0 620 := by
  intro s raising
  let s' := raising.call.run.commit raising.env s
  have reached : Reachable Sample.contract withoutUpdateRate 0 s :=
    Sample.reachable_oneCreation fun _ _ _ _ => trivial
  let stream := (s.streams 0).get (by decide)
  have stored : s.streams 0 = some stream := (Option.some_get _).symm
  have changed : s'.streams 0 ≠ s.streams 0 := by decide
  rcases forward_accrual_iff reached raising (by decide) rfl (Script.runs_of_changed changed) stored
    (by decide) (by decide) with ⟨stream', stored', exact_⟩
  have ahead : (40 : ℕ) ≤ 60 := by decide
  have visible : stream.cliffTime ≤ 40 := by decide
  have answer := (exact_.mpr (Or.inl visible)).1 60 s' (.tick .here ahead) stored'
    (Sample.env 0 60 1) rfl (visible.trans ahead)
  have terms : (s'.streams 0).map (fun stream' => stream.forwardAccrual 40 stream'.ratePerSecond
      stream'.depositAmount 60) = some 620 := by decide
  rw [show s'.streams 0 = some stream' from stored', Option.map_some, Option.some.injEq] at terms
  exact terms ▸ answer

/-- A rise at 40, before the cliff at 50: by the clock 620 are earned at 60, and 600 would have
accrued without the call, but the accrual is 220. -/
theorem not_always_forward_accrual :
    (¬ ∀ address now s, Reachable address withoutUpdateRate now s →
      ∀ (invocation : Invocation address) id s' stream stream', now ≤ invocation.env.timestamp →
        invocation.call.CheckpointsRate id → Runs invocation.call.run invocation.env s () s' →
        s.streams id = some stream → s'.streams id = some stream' →
        stream.startTime ≤ invocation.env.timestamp →
        invocation.env.timestamp < stream.endTime →
        ∀ env, invocation.env.timestamp ≤ env.timestamp → stream.cliffTime ≤ env.timestamp →
          s'.Accrues env id (stream.forwardAccrual invocation.env.timestamp
            stream'.ratePerSecond stream'.depositAmount env.timestamp)) ∧
    let s := Script.run (Sample.cliffed 50 rfl) Sample.genesis
    let raising := Sample.raising 40 rfl
    let s' := raising.call.run.commit raising.env s
    s.Accrues (Sample.env 0 60 1) 0 600 ∧ s'.Accrues (Sample.env 0 60 1) 0 220 := by
  let s := Script.run (Sample.cliffed 50 rfl) Sample.genesis
  let raising := Sample.raising 40 rfl
  let s' := raising.call.run.commit raising.env s
  have reached : Reachable Sample.contract withoutUpdateRate 0 s :=
    Sample.reachable_oneCreation fun _ _ _ _ => trivial
  have reached' := reached.invoke raising (by decide) trivial
  refine ⟨fun always => ?_, reached.accrues (by decide) (by decide),
    reached'.accrues (by decide) (by decide)⟩
  let stream := (s.streams 0).get (by decide)
  let stream' := (s'.streams 0).get (by decide)
  have stored : s.streams 0 = some stream := (Option.some_get _).symm
  have stored' : s'.streams 0 = some stream' := (Option.some_get _).symm
  have changed : s'.streams 0 ≠ s.streams 0 := by decide
  have claimed := always _ _ s reached raising 0 s' stream stream' (by decide) rfl
    (Script.runs_of_changed changed) stored stored' (by decide) (by decide) (Sample.env 0 60 1)
    (by decide) (by decide)
  rw [reached'.accrues_iff (by decide) stored'] at claimed
  exact absurd claimed (by decide)

end Wallie.StreamContract
