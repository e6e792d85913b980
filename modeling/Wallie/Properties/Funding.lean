import Wallie.Ledger.Emissions
import Wallie.StreamContract.Script

/-!
# Funding of live streams

The deposit of a stream covers its base and the rest of its schedule. The guards
of a rate rise, a shortening and an extension compare with the whole duration at
the current rate instead, which is the same as long as the rate never changed.
-/

namespace Wallie.StreamContract

open Fallible

variable {address : Address} {s s' : State} {env : Env} {now id : ℕ} {stream stream' : Stream}
  {move : Move} {call : Call} {held : ℤ}

namespace Stream

/-- What the recipient is scheduled to earn in all. -/
def scheduledTotal (stream : Stream) : ℤ :=
  stream.checkpointedAmount +
    stream.ratePerSecond * max 0 ((stream.endTime : ℤ) - stream.checkpointedAt)

/-- The deposit covers the schedule. -/
def Funded (stream : Stream) : Prop :=
  stream.scheduledTotal ≤ stream.depositAmount

/-- Whether the deposit after a move covers the new schedule. -/
def KeepsFunding (stream : Stream) (now : ℕ) : Move → Prop
  | .raiseRate rate =>
      stream.accruedAt now + rate * max 0 ((stream.endTime : ℤ) - now) ≤ stream.depositAmount
  | .shorten endTime _ => { stream with endTime }.scheduledTotal ≤
      max (stream.ratePerSecond * (endTime - stream.startTime : ℕ)) (stream.accruedAt now)
  | .extend endTime => { stream with endTime }.scheduledTotal ≤ stream.depositAmount
  | _ => True

/-- A move keeps a stream funded exactly when it meets its condition. -/
theorem Moves.funded_iff (moves : stream.Moves now move stream') (funded : stream.Funded)
    (unpriced : ∀ rate, move ≠ .reprice rate) :
    stream'.Funded ↔ stream.KeepsFunding now move := by
  cases moves with
  | raiseRate _ _ _ _ | extend _ _ _ _ _ => exact Iff.rfl
  | @shorten endTime refund _ _ _ _ _ _ _ kept =>
      have left : stream.depositAmount - refund =
          max (stream.ratePerSecond * (endTime - stream.startTime : ℕ)) (stream.accruedAt now) := by
        omega
      simp only [KeepsFunding]
      rw [← left]
      exact Iff.rfl
  | @lowerRate rate refund _ _ running _ _ _ kept =>
      refine iff_of_true ?_ trivial
      have remaining : max 0 ((stream.endTime : ℤ) - now) = (stream.endTime - now : ℕ) := by omega
      change stream.accruedAt now + rate * max 0 ((stream.endTime : ℤ) - now) ≤
        stream.depositAmount - refund
      rw [remaining]
      omega
  | topUp _ _ _ positive _ =>
      refine iff_of_true ?_ trivial
      exact le_add_of_le_of_nonneg funded positive.le
  | reprice _ _ => exact absurd rfl (unpriced _)
  | withdraw _ _ _ _ _ _ | pause _ _ | resume _ _ | cancel _ _ | settle _ _ _
  | keeperCancel _ _ _ _ | rotate => exact iff_of_true funded trivial

/-- New streams are funded. -/
theorem funded_newStream {params : CreateStreamParams} {sender : Address}
    (valid : params.Valid sender now) : (newStream id sender params).Funded := by
  change 0 + params.ratePerSecond * max 0 ((params.endTime : ℤ) - params.startTime) ≤
    params.depositAmount
  cases kind : params.kind with
  | cliffOnly =>
      have deposit_pos := valid.deposit_pos
      rw [valid.rate_of_cliffOnly kind]
      omega
  | linear =>
      have ordered := valid.start_lt_end
      have duration : max 0 ((params.endTime : ℤ) - params.startTime) =
          (params.endTime - params.startTime : ℕ) := by omega
      rw [duration, zero_add]
      exact valid.covered kind

end Stream

/-- The calls whose guard protects the funding: a rise, a shortening and an extension leave a
deposit that covers the schedule from the last checkpoint, and nothing is re-priced. -/
def keepsFunding (s : State) (env : Env) : Call → Prop
  | .updateRatePerSecond id rate => ∀ stream, s.streams id = some stream →
      stream.accruedAt env.timestamp + rate * max 0 ((stream.endTime : ℤ) - env.timestamp) ≤
        stream.depositAmount
  | .shortenStreamEndTime id endTime => ∀ stream, s.streams id = some stream →
      { stream with endTime }.scheduledTotal ≤
        max (stream.ratePerSecond * (endTime - stream.startTime : ℕ))
          (stream.accruedAt env.timestamp)
  | .extendStreamEndTime id endTime => ∀ stream, s.streams id = some stream →
      { stream with endTime }.scheduledTotal ≤ stream.depositAmount
  | .updateRate _ _ _ => False
  | _ => True

theorem keepsFunding.of_changing (keeps : keepsFunding s env call)
    (changing : call.Changing held id move) (stored : s.streams id = some stream) :
    stream.KeepsFunding env.timestamp move ∧ ∀ rate, move ≠ .reprice rate := by
  cases changing with
  | updateRatePerSecond | shortenStreamEndTime | extendStreamEndTime =>
      exact ⟨keeps stream stored, by simp⟩
  | updateRate => exact absurd keeps not_false
  | withdraw _ | withdrawTo _ | batchWithdraw _ _ | batchWithdrawTo _ _ _ | delegatedWithdraw _
  | triggerAutoClaim _ | decreaseRatePerSecond | topUpStream | pauseStream | pauseStreamAsAdmin
  | resumeStream | resumeStreamAsAdmin | cancelStream | cancelStreamAsAdmin | keeperCancel
  | bulkCancelStreams _ | acceptRecipientUpdate => exact ⟨trivial, by simp⟩

/-- On every run without `updateRate` whose successful rises, shortenings and extensions meet their
conditions, the deposit of every stored stream covers its schedule. -/
theorem streams_funded (reached : Reachable address (onSuccess keepsFunding) now s)
    (stored : s.streams id = some stream) :
    stream.checkpointedAmount +
        stream.ratePerSecond * max 0 ((stream.endTime : ℤ) - stream.checkpointedAt) ≤
      stream.depositAmount := by
  apply reached.forall_stored (fun _ stream => stream.Funded) ?_ ?_ ?_ stored
  · exact fun _ _ _ _ valid => Stream.funded_newStream valid
  · exact fun _ _ _ _ _ _ funded => funded
  · intro s invocation id move stream stream' allowed makes stored formed moves funded
    rcases (allowed makes.succeeds).of_changing makes.emits.changing stored with ⟨keeps, unpriced⟩
    exact (moves.funded_iff funded unpriced).mpr keeps

namespace Sample

/-- The rate of a stream of 1000 tokens is lowered from 10 to 1 half way. -/
def lowered : List (Invocation contract) :=
  oneCreation 1000 10 0 0 (Eq.refl true) ++
    [invocation 1 50 1 (.decreaseRatePerSecond 0 1) (Eq.refl true)]

/-- Then it is raised to 5. -/
def loweredThenRaised : List (Invocation contract) :=
  lowered ++
    [invocation 1 50 1 (.updateRatePerSecond 0 5) (Eq.refl true)]

end Sample

/-- Once the rate is lowered the deposit of 550 is just enough. -/
theorem streams_funded_lowered :
    ∃ stream, (Script.run Sample.lowered Sample.genesis).streams 0 = some stream ∧
      stream.depositAmount = 550 ∧ stream.checkpointedAmount +
        stream.ratePerSecond * max 0 ((stream.endTime : ℤ) - stream.checkpointedAt) ≤
          stream.depositAmount := by
  have ordered : Script.Ordered Sample.lowered 0 := ⟨by decide, by decide, trivial⟩
  have reached : Reachable Sample.contract (onSuccess keepsFunding) 50
      (Script.run Sample.lowered Sample.genesis) :=
    Script.reachable_run ordered ⟨fun _ => trivial, fun _ => trivial, trivial⟩
      (Sample.reachable_genesis _)
  have left : ((Script.run Sample.lowered Sample.genesis).streams 0).map Stream.depositAmount =
      some 550 := by decide
  rcases Option.map_eq_some_iff.mp left with ⟨stream, stored, left⟩
  exact ⟨stream, stored, left, streams_funded reached stored⟩

/-- Raised again to 5, the schedule comes to 750 on a deposit of 550. -/
theorem not_always_streams_funded :
    ¬ ∀ address now s, Reachable address withoutUpdateRate now s →
      ∀ id stream, s.streams id = some stream → stream.Live → stream.kind = .linear →
        stream.checkpointedAmount +
            stream.ratePerSecond * max 0 ((stream.endTime : ℤ) - stream.checkpointedAt) ≤
          stream.depositAmount := by
  intro always
  let s := Script.run Sample.loweredThenRaised Sample.genesis
  have ordered : Script.Ordered Sample.loweredThenRaised 0 :=
    ⟨by decide, by decide, by decide, trivial⟩
  have reached : Reachable Sample.contract withoutUpdateRate 50 s :=
    Script.reachable_run ordered ⟨trivial, trivial, trivial, trivial⟩ (Sample.reachable_genesis _)
  let stream := (s.streams 0).get (by decide)
  have stored : s.streams 0 = some stream := (Option.some_get _).symm
  exact absurd (always _ _ _ reached 0 stream stored (by decide) (by decide)) (by decide)

end Wallie.StreamContract
