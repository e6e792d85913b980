import Wallie.Lib.EventLog
import Wallie.StreamContract.Storage

/-!
# The indexer

The documented rules by which an indexer follows the streams from the published
events alone. Each event changes the row of one stream or tells it nothing. The
rules are those of the documentation, not of the contract.
-/

namespace Wallie.StreamContract

/-- What an indexer keeps of a stream. -/
structure IndexedStream where
  sender : Address
  recipient : Address
  depositAmount : ℤ
  ratePerSecond : ℤ
  startTime : ℕ
  cliffTime : ℕ
  endTime : ℕ
  withdrawnAmount : ℤ
  status : StreamStatus
  deriving DecidableEq, Repr

namespace IndexedStream

variable (row : IndexedStream)

def withdraw (amount : ℤ) : IndexedStream :=
  { row with withdrawnAmount := row.withdrawnAmount + amount }

def withStatus (status : StreamStatus) : IndexedStream :=
  { row with status }

end IndexedStream

/-- The row an event is about and its change, if it is one an indexer follows. -/
@[simp]
def Event.indexed : Event → Option (EventLog.Update ℕ IndexedStream)
  | .created id sender recipient depositAmount ratePerSecond startTime cliffTime endTime _ _ _ =>
      some (id, fun _ => some {
        sender, recipient, depositAmount, ratePerSecond, startTime, cliffTime, endTime,
        withdrawnAmount := 0, status := .active })
  | .withdrew id _ amount | .withdrewTo id _ _ amount | .wdrawTo id _ _ amount =>
      some (id, Option.map (IndexedStream.withdraw · amount))
  | .completed id => some (id, Option.map (IndexedStream.withStatus · .completed))
  | .cancelled id | .kpCncl id _ _ _ _ =>
      some (id, Option.map (IndexedStream.withStatus · .cancelled))
  | .paused id _ => some (id, Option.map (IndexedStream.withStatus · .paused))
  | .resumed id => some (id, Option.map (IndexedStream.withStatus · .active))
  | .rateUpd id _ ratePerSecond _ =>
      some (id, Option.map fun row => { row with ratePerSecond })
  | .rateDec id _ ratePerSecond _ _ refundAmount =>
      some (id, Option.map fun row =>
        { row with ratePerSecond, depositAmount := row.depositAmount - refundAmount })
  | .endShrt id _ endTime refundAmount =>
      some (id, Option.map fun row =>
        { row with endTime, depositAmount := row.depositAmount - refundAmount })
  | .endExt id _ endTime => some (id, Option.map fun row => { row with endTime })
  | .topUp id _ depositAmount _ => some (id, Option.map fun row => { row with depositAmount })
  | .recpUpd id _ recipient => some (id, Option.map fun row => { row with recipient })
  | .closed id => some (id, fun _ => none)
  | _ => none

/-- What an indexer should know of a stored stream. -/
def Stream.indexed (stream : Stream) : IndexedStream where
  sender := stream.sender
  recipient := stream.recipient
  depositAmount := stream.depositAmount
  ratePerSecond := stream.ratePerSecond
  startTime := stream.startTime
  cliffTime := stream.cliffTime
  endTime := stream.endTime
  withdrawnAmount := stream.withdrawnAmount
  status := stream.status

namespace State

/-- The updates an indexer makes on the published events, in order. -/
def announcements (s : State) : List (EventLog.Update ℕ IndexedStream) :=
  s.events.filterMap Event.indexed

/-- The table of an indexer that has seen all published events. -/
def replayedIndex (s : State) : ℕ → Option IndexedStream :=
  EventLog.replay (fun _ => none) s.announcements

/-- The stored streams as rows of an indexer. -/
def storedIndex (s : State) : ℕ → Option IndexedStream :=
  fun id => (s.streams id).map Stream.indexed

end State

end Wallie.StreamContract
