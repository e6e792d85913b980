import Wallie.Ledger.Emissions
import Wallie.StreamContract.Script

/-!
# Accrual before the start

The accrual function does not read the start of a stream: the checkpoint stands
in for it. A new stream is checkpointed at its start, and a rate change moves the
checkpoint to the present.
-/

namespace Wallie.StreamContract

open Fallible

variable {address : Address} {s : State} {env : Env} {now id : ℕ} {stream stream' : Stream}
  {move : Move} {call : Call} {held : ℤ}

namespace Stream

/-- The checkpoint is not before the start, and at the start nothing is frozen. -/
structure CheckpointedFromStart (stream : Stream) : Prop where
  start_le : stream.startTime ≤ stream.checkpointedAt
  base_eq_zero : stream.checkpointedAt = stream.startTime → stream.checkpointedAmount = 0

/-- Up to the start a stream shows nothing but a base frozen later. -/
theorem CheckpointedFromStart.accruedAt (fromStart : stream.CheckpointedFromStart)
    (formed : stream.WellFormed id now) (linear : stream.kind = .linear) {instant : ℕ}
    (before : instant ≤ stream.startTime) :
    stream.accruedAt instant =
      if stream.cliffTime ≤ instant ∧ stream.startTime < stream.checkpointedAt then
        stream.checkpointedAmount
      else 0 := by
  by_cases visible : stream.cliffTime ≤ instant
  · have gate : stream.epoch.gate ≤ (instant : ℤ) := Int.ofNat_le.mpr visible
    have passed : (instant : ℤ) ≤ stream.epoch.since :=
      Int.ofNat_le.mpr (before.trans fromStart.start_le)
    have frozen : stream.accruedAt instant = stream.checkpointedAmount := by
      rw [formed.bounded.accruedAt_eq_value, AccrualEpoch.value_of_gate_le gate,
        AccrualEpoch.earned, AccrualEpoch.elapsed_of_le ((min_le_left _ _).trans passed),
        mul_zero, add_zero, epoch_base_of_linear linear]
      exact min_eq_right formed.bounded.checkpoint_le
    by_cases later : stream.startTime < stream.checkpointedAt
    · rw [frozen, if_pos ⟨visible, later⟩]
    · have same : stream.checkpointedAt = stream.startTime :=
        le_antisymm (not_lt.mp later) fromStart.start_le
      rw [frozen, fromStart.base_eq_zero same, ite_self]
  · rw [accruedAt_of_lt_cliff (not_le.mp visible), if_neg fun both => visible both.1]

/-- Freezing the accrual of a started stream. -/
theorem CheckpointedFromStart.checkpointed (fromStart : stream.CheckpointedFromStart)
    (formed : stream.WellFormed id now) (linear : stream.kind = .linear)
    (started : stream.startTime ≤ now) (ratePerSecond : ℤ) :
    (stream.checkpointed now ratePerSecond).CheckpointedFromStart where
  start_le := started
  base_eq_zero := by
    intro (same : now = stream.startTime)
    subst same
    have unmoved : ¬ stream.startTime < stream.checkpointedAt := by
      have since := formed.since
      omega
    change stream.accruedAt stream.startTime = 0
    rw [fromStart.accruedAt formed linear le_rfl, if_neg fun both => unmoved both.2]

theorem CheckpointedFromStart.moves (fromStart : stream.CheckpointedFromStart)
    (formed : stream.WellFormed id now) (moves : stream.Moves now move stream')
    (started : (∀ rate, move ≠ .raiseRate rate) ∧ (∀ rate refund, move ≠ .lowerRate rate refund) ∨
      stream.startTime ≤ now) : stream'.CheckpointedFromStart := by
  cases moves with
  | raiseRate _ linear _ _ =>
      rcases started with ⟨unraised, _⟩ | started
      · exact absurd rfl (unraised _)
      · exact fromStart.checkpointed formed linear started _
  | @lowerRate rate _ _ linear _ _ _ _ _ =>
      rcases started with ⟨_, unlowered⟩ | started
      · exact absurd rfl (unlowered _ _)
      · rcases fromStart.checkpointed formed linear started rate with ⟨start_le, base_eq_zero⟩
        exact ⟨start_le, base_eq_zero⟩
  | withdraw _ _ _ _ _ _ | topUp _ _ _ _ _ | reprice _ _ | shorten _ _ _ _ _ _ _ _
  | extend _ _ _ _ _ | pause _ _ | resume _ _ | cancel _ _ | settle _ _ _
  | keeperCancel _ _ _ _ | rotate => exact ⟨fromStart.start_le, fromStart.base_eq_zero⟩

theorem checkpointedFromStart_newStream {params : CreateStreamParams} {sender : Address} :
    (newStream id sender params).CheckpointedFromStart :=
  ⟨le_rfl, fun _ => rfl⟩

end Stream

/-- The rate of stream `id` is raised or lowered once the stream has started. -/
def rateChangesFromStart (id : ℕ) (s : State) (env : Env) : Call → Prop
  | .updateRatePerSecond streamId _ | .decreaseRatePerSecond streamId _ =>
      streamId = id → ∀ stream, s.streams id = some stream → stream.startTime ≤ env.timestamp
  | _ => True

theorem rateChangesFromStart.of_changing (fromStart : rateChangesFromStart id s env call)
    {streamId : ℕ} (changing : call.Changing held streamId move) (same : streamId = id)
    (stored : s.streams streamId = some stream) :
    (∀ rate, move ≠ .raiseRate rate) ∧ (∀ rate refund, move ≠ .lowerRate rate refund) ∨
      stream.startTime ≤ env.timestamp := by
  cases changing with
  | updateRatePerSecond | decreaseRatePerSecond =>
      subst same
      exact Or.inr (fromStart rfl stream stored)
  | withdraw _ | withdrawTo _ | batchWithdraw _ _ | batchWithdrawTo _ _ _ | delegatedWithdraw _
  | triggerAutoClaim _ | shortenStreamEndTime | extendStreamEndTime | topUpStream | updateRate
  | pauseStream | pauseStreamAsAdmin | resumeStream | resumeStreamAsAdmin | cancelStream
  | cancelStreamAsAdmin | keeperCancel | bulkCancelStreams _ | acceptRecipientUpdate =>
      exact Or.inl ⟨by simp, by simp⟩

/-- On every run that changes the rate of a linear stream only once it has started, its checkpoint
is not before its start, and up to its start the accrual function gives nothing but a base that a
later rate change froze. -/
theorem accrual_before_start
    (reached : Reachable address (onSuccess (rateChangesFromStart id)) now s)
    (stored : s.streams id = some stream) (linear : stream.kind = .linear) :
    stream.startTime ≤ stream.checkpointedAt ∧
      ∀ instant ≤ stream.startTime,
        calculateAccruedAmountCheckpointed stream.checkpointState stream.ratePerSecond instant =
          if stream.cliffTime ≤ instant ∧ stream.startTime < stream.checkpointedAt then
            stream.checkpointedAmount
          else 0 := by
  have formed := reached.book_wellFormed.records id stream stored
  have fromStart : stream.streamId = id → stream.CheckpointedFromStart := by
    apply reached.forall_stored
      (fun _ stream => stream.streamId = id → stream.CheckpointedFromStart) ?_ ?_ ?_ stored
    · exact fun _ _ _ _ _ _ => Stream.checkpointedFromStart_newStream
    · exact fun _ _ _ _ _ _ fromStart => fromStart
    · intro s invocation streamId move stream stream' allowed makes found formed moves from_ same
      have key : streamId = id := (moves.wellFormed formed).streamId.symm.trans same
      have started := (allowed makes.succeeds).of_changing makes.emits.changing key found
      exact (from_ (formed.streamId.trans key)).moves formed moves started
  have fromStart := fromStart formed.streamId
  exact ⟨fromStart.start_le, fun _ before => fromStart.accruedAt formed linear before⟩

namespace Sample

/-- The rate of a stream that starts at `startTime` is raised at 40. -/
def raisedAtForty (startTime : ℕ)
    (valid : decide (u64.Contains (0 : ℕ) ∧ u32.Contains (0 : ℕ) ∧ (Call.createStream sender
      (params 1100 10 startTime startTime)).WellTyped) = true) : List (Invocation contract) :=
  oneCreation 1100 10 startTime startTime valid ++
    [invocation 1 40 1 (.updateRatePerSecond 0 11) (Eq.refl true)]

end Sample

/-- The rate of a stream that starts at 40 is raised at its start, and nothing is frozen. -/
theorem accrual_before_start_raised :
    ∃ stream, (Script.run (Sample.raisedAtForty 40 rfl) Sample.genesis).streams 0 = some stream ∧
      stream.ratePerSecond = 11 ∧ stream.startTime ≤ stream.checkpointedAt ∧
      ∀ instant ≤ stream.startTime,
        calculateAccruedAmountCheckpointed stream.checkpointState stream.ratePerSecond instant =
          if stream.cliffTime ≤ instant ∧ stream.startTime < stream.checkpointedAt then
            stream.checkpointedAmount
          else 0 := by
  let s := Script.run (Sample.raisedAtForty 40 rfl) Sample.genesis
  have ordered : Script.Ordered (Sample.raisedAtForty 40 rfl) 0 := ⟨by decide, by decide, trivial⟩
  let created := Script.run (Sample.oneCreation 1100 10 40 40 rfl) Sample.genesis
  have starts : (created.streams 0).map Stream.startTime = some 40 := by decide
  have fromStart :
      rateChangesFromStart 0 created (Sample.env 1 40 1) (.updateRatePerSecond 0 11) := by
    intro _ stream stored
    rw [stored, Option.map_some, Option.some.injEq] at starts
    exact starts.le
  have reached : Reachable Sample.contract (onSuccess (rateChangesFromStart 0)) 40 s :=
    Script.reachable_run ordered ⟨fun _ => trivial, fun _ => fromStart, trivial⟩
      (Sample.reachable_genesis _)
  let stream := (s.streams 0).get (by decide)
  have stored : s.streams 0 = some stream := (Option.some_get _).symm
  exact ⟨stream, stored, by decide, accrual_before_start reached stored (by decide)⟩

/-- A rate change at 40 shows 400 tokens at the start 0 of a running stream, and moves the
checkpoint of a stream that starts at 100 before its start. -/
theorem not_always_accrual_before_start :
    (¬ ∀ address now s, Reachable address withoutUpdateRate now s →
      ∀ id stream, s.streams id = some stream → stream.kind = .linear →
        stream.startTime ≤ stream.checkpointedAt ∧
          ∀ instant ≤ stream.startTime, calculateAccruedAmountCheckpointed stream.checkpointState
            stream.ratePerSecond instant = 0) ∧
    ((Script.run (Sample.raisedAtForty 0 rfl) Sample.genesis).streams 0).map (fun stream =>
      (stream.startTime, stream.checkpointedAt, stream.accruedAt 0)) = some (0, 40, 400) ∧
    ((Script.run (Sample.raisedAtForty 100 rfl) Sample.genesis).streams 0).map (fun stream =>
      (stream.startTime, stream.checkpointedAt, stream.accruedAt 100)) = some (100, 40, 660) := by
  refine ⟨fun always => ?_, by decide, by decide⟩
  let s := Script.run (Sample.raisedAtForty 0 rfl) Sample.genesis
  have ordered : Script.Ordered (Sample.raisedAtForty 0 rfl) 0 := ⟨by decide, by decide, trivial⟩
  have reached : Reachable Sample.contract withoutUpdateRate 40 s :=
    Script.reachable_run ordered ⟨trivial, trivial, trivial⟩ (Sample.reachable_genesis _)
  let stream := (s.streams 0).get (by decide)
  have stored : s.streams 0 = some stream := (Option.some_get _).symm
  have nothing := (always _ _ _ reached 0 stream stored (by decide)).2 0 (by decide)
  exact absurd nothing (by decide)

end Wallie.StreamContract
