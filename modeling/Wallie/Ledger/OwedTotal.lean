import Wallie.Ledger.Coverage
import Wallie.Lib.KeyedSum

/-!
# What is owed on all streams

The total owed on the stored streams moves with each action by what the action
adds and pays out, as long as no stream is closed on which something is owed.
-/

namespace Wallie.StreamContract

open KeyedSum

/-- What an action adds to the total owed. -/
def Action.owes : Action → ℤ
  | create _ deposit => deposit
  | change _ move => move.received - move.paid + move.settledByKeeper
  | _ => 0

namespace Book

variable {book book' : Book} {now id : ℕ} {action : Action} {stream : Stream}

/-- What is owed on the stored streams. -/
def owedTotal (book : Book) : ℤ :=
  storeTotal Stream.owed book.streams book.nextStreamId

theorem Blank.owedTotal (blank : book.Blank) : book.owedTotal = 0 := by
  simp [Book.owedTotal, storeTotal, blank.nextStreamId]

theorem WellFormed.absent (formed : book.WellFormed now) (above : book.nextStreamId ≤ id) :
    book.streams id = none :=
  (formed.blank id (Or.inl above)).1

theorem Allocates.lt {sender : Address} {nextStreamId : ℕ}
    {idReservation : Address → Option IdReservation}
    (allocates : book.Allocates sender id nextStreamId idReservation) (reserves : book.Reserves) :
    id < nextStreamId := by
  cases allocates with
  | counter _ => exact Nat.lt_succ_self _
  | reserved held =>
      have below := reserves.below _ _ held
      have unconsumed := reserves.unconsumed _ _ held
      omega

/-- Creating a stream under a fresh id adds what is owed on it. -/
theorem Allocates.owedTotal_created {sender : Address} {nextStreamId : ℕ}
    {idReservation : Address → Option IdReservation} {vault : ℤ}
    (allocates : book.Allocates sender stream.streamId nextStreamId idReservation)
    (formed : book.WellFormed now) :
    (book.created stream nextStreamId idReservation vault).owedTotal =
      book.owedTotal + stream.owed := by
  have next_le := allocates.next_le
  have fresh := (formed.blank _ (allocates.fresh formed.reserves)).1
  have inside := allocates.lt formed.reserves
  have grown : storeTotal Stream.owed book.streams nextStreamId = book.owedTotal :=
    storeTotal_of_le next_le fun _ above _ => formed.absent above
  change storeTotal Stream.owed (Function.update book.streams stream.streamId (some stream))
    nextStreamId = _
  rw [storeTotal_update inside, grown, fresh, slot_none, slot_some, sub_zero]

theorem owedTotal_updated (formed : book.WellFormed now) (stored : book.streams id = some stream)
    (written : Option Stream) :
    storeTotal Stream.owed (Function.update book.streams id written) book.nextStreamId =
      book.owedTotal - stream.owed + slot Stream.owed written := by
  rw [storeTotal_update (formed.stored_lt stored), stored, slot_some, owedTotal]

/-- The ids that a reservation gives back were never used. -/
theorem owedTotal_reclaimed (formed : book.WellFormed now) {holder : Address}
    {res : IdReservation} (held : book.idReservation holder = some res)
    (last : res.startId + res.count = book.nextStreamId) :
    storeTotal Stream.owed book.streams (res.startId + res.consumed) = book.owedTotal := by
  have unconsumed := formed.reserves.unconsumed holder res held
  symm
  apply storeTotal_of_le (by omega)
  intro key above below
  have fresh : book.Fresh key := Or.inr ⟨holder, res, held, above, by omega⟩
  exact (formed.blank key fresh).1

/-- How an action moves the total owed. -/
theorem Steps.owedTotal (step : book.Steps now action book') (formed : book.WellFormed now)
    (closes : ∀ id stream, action = .close id → book.streams id = some stream →
      stream.Drained now → stream.owed = 0) :
    book'.owedTotal = book.owedTotal + action.owes := by
  cases step with
  | @create sender params id nextStreamId idReservation vault allocates _ _ =>
      have total : (book.created (newStream id sender params) nextStreamId idReservation
          vault).owedTotal = book.owedTotal + (newStream id sender params).owed :=
        Allocates.owedTotal_created allocates formed
      rwa [Stream.owed_newStream] at total
  | @change id stream stream' move vault stored moves _ _ =>
      change storeTotal Stream.owed (Function.update book.streams id (some stream'))
        book.nextStreamId = _
      rw [owedTotal_updated formed stored, slot_some, moves.owed, Action.owes]
      omega
  | @close id stream stored drained =>
      change storeTotal Stream.owed (Function.update book.streams id none) book.nextStreamId = _
      rw [owedTotal_updated formed stored, slot_none, closes id stream rfl stored drained,
        sub_zero]
      rfl
  | @reserve holder count expiry _ =>
      have same : storeTotal Stream.owed book.streams (book.nextStreamId + count) =
          book.owedTotal :=
        storeTotal_of_le (Nat.le_add_right _ _) fun _ above _ => formed.absent above
      exact same.trans (add_zero _).symm
  | reclaim held last => exact (owedTotal_reclaimed formed held last).trans (add_zero _).symm
  | release | sweep _ _ | receive _ => exact (add_zero _).symm

/-- No stored stream is owed more than the total. -/
theorem WellFormed.owed_le_total (formed : book.WellFormed now)
    (nonneg : ∀ id stream, book.streams id = some stream → 0 ≤ stream.owed)
    (stored : book.streams id = some stream) : stream.owed ≤ book.owedTotal :=
  measure_le_storeTotal nonneg stored (formed.stored_lt stored)

end Book

end Wallie.StreamContract
