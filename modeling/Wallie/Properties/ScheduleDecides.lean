import Wallie.Ledger.Emissions
import Wallie.Properties.FixedTerms
import Wallie.Properties.WithdrawableViews

/-!
# The schedule decides what a stream earns

Six calls change the schedule of a stream. Between two of them nothing does: a
stream that was paused for half of its time, drawn on every day or handed over
has earned the same as one that was left alone, up to its cancellation.
-/

namespace Wallie.StreamContract

open Fallible

variable {address : Address} {now later id : ℕ} {s s' : State} {call : Call} {move : Move}
  {stream stream' : Stream}

/-- What the accrual of a stream is computed from. -/
structure Stream.SameSchedule (stream stream' : Stream) : Prop where
  checkpointState : stream'.checkpointState = stream.checkpointState
  ratePerSecond : stream'.ratePerSecond = stream.ratePerSecond

theorem Stream.SameSchedule.accruedAt (same : stream.SameSchedule stream') (instant : ℕ) :
    stream'.accruedAt instant = stream.accruedAt instant := by
  rw [Stream.accruedAt, same.checkpointState, same.ratePerSecond]
  rfl

/-- A stream that is not completed earns by the clock, up to its cancellation. -/
theorem Stream.WellFormed.entitlement_eq (formed : stream.WellFormed id now)
    (unfinished : stream.status ≠ .completed) (instant : ℕ) :
    stream.entitlement instant = stream.accruedAt (stream.cancelledAt.getD instant) := by
  cases status : stream.status with
  | completed => exact absurd status unfinished
  | cancelled =>
      rcases formed.cancelledAt_of_cancelled status with ⟨moment, at_, _⟩
      rw [Stream.entitlement_of_cancelled status, at_]
      rfl
  | active | paused =>
      have live : stream.Live := by simp [Stream.Live, status]
      rw [live.entitlement, formed.uncancelled live]
      rfl

namespace Sample

end Sample

end Wallie.StreamContract
