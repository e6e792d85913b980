import Wallie.Ledger.Entitlement
import Wallie.Ledger.Records

/-!
# Deposits cover payments

By the ledger equation a stored stream has been paid no more than was deposited
for it as long as what is owed on it covers what a keeper has settled. A move
keeps this exactly if it pays no more than what is left.
-/

namespace Wallie.StreamContract

/-- A cancelled stream stays cancelled, and a stream that a keeper settles is cancelled. -/
theorem Stream.Moves.uncancelled {now : ℕ} {stream stream' : Stream} {move : Move}
    (moves : stream.Moves now move stream') (uncancelled : stream'.status ≠ .cancelled) :
    stream.status ≠ .cancelled ∧ move.settledByKeeper = 0 := by
  cases moves with
  | withdraw _ _ _ _ _ _ =>
      refine ⟨fun cancelled => uncancelled (Eq.trans (if_neg ?_) cancelled), rfl⟩
      exact fun drained => Live.not_cancelled drained.1 cancelled
  | cancel _ _ | settle _ _ _ | keeperCancel _ _ _ _ => exact absurd rfl uncancelled
  | pause active _ => exact ⟨Live.not_cancelled (Or.inl active), rfl⟩
  | resume paused _ => exact ⟨Live.not_cancelled (Or.inr paused), rfl⟩
  | topUp _ _ _ _ _ | raiseRate _ _ _ _ | lowerRate _ _ _ _ _ _ _ | reprice _ _
  | shorten _ _ _ _ _ _ _ _ | extend _ _ _ _ _ | rotate => exact ⟨uncancelled, rfl⟩

namespace Book

variable {book book' : Book} {now later id : ℕ} {action : Action} {stream : Stream}

/-- Only a cancellation by a keeper settles a stream. -/
def SettlesCancelled (book : Book) : Prop :=
  ∀ id stream, book.streams id = some stream → stream.status ≠ .cancelled →
    book.settledByKeeper id = 0

/-- No more was paid out on account of any stream than was deposited for it. -/
def Conserved (book : Book) : Prop :=
  ∀ id, book.paidOut id ≤ book.deposited id

/-- What the contract can pay on account of a stream without paying twice. -/
def left (book : Book) (id : ℕ) (stream : Stream) : ℤ :=
  stream.owed - book.settledByKeeper id

theorem WellFormed.left_nonneg (formed : book.WellFormed now) (conserved : book.Conserved)
    (stored : book.streams id = some stream) : 0 ≤ book.left id stream := by
  have balanced := formed.balanced id stream stored
  have covered := conserved id
  unfold left
  omega

theorem SettlesCancelled.left_of_live (settles : book.SettlesCancelled)
    (stored : book.streams id = some stream) (live : stream.Live) :
    book.left id stream = stream.depositAmount - stream.withdrawnAmount := by
  rw [left, settles id stream stored live.not_cancelled, live.owed, sub_zero]

theorem Steps.settlesCancelled (step : book.Steps now action book')
    (formed : book.WellFormed now) (settles : book.SettlesCancelled) :
    book'.SettlesCancelled := by
  cases step with
  | @create sender params new nextStreamId reservations vault allocates _ _ =>
      intro key stream stored uncancelled
      rcases eq_or_ne key new with rfl | other
      · exact (formed.blank key (allocates.fresh formed.reserves)).2.2.2
      · apply settles key stream _ uncancelled
        simpa [created, newStream, other] using stored
  | @change changed before after move vault stored moves _ _ =>
      intro key stream stored' uncancelled
      rcases eq_or_ne key changed with rfl | other
      · obtain rfl : after = stream := by simpa [moved] using stored'
        rcases moves.uncancelled uncancelled with ⟨before_uncancelled, unsettled⟩
        simp only [moved, Function.update_self]
        rw [settles key before stored before_uncancelled, unsettled, add_zero]
      · have old := settles key stream (by simpa [moved, other] using stored') uncancelled
        simpa [moved, other] using old
  | @close closed _ stored _ =>
      intro key stream stored' uncancelled
      rcases eq_or_ne key closed with rfl | other
      · simp at stored'
      · exact settles key stream (by simpa [other] using stored') uncancelled
  | reserve _ | release | reclaim _ _ | sweep _ _ | receive _ => exact settles

/-- An action keeps deposits above payments, if a move pays no more than what is left. -/
theorem Steps.conserved (step : book.Steps now action book') (formed : book.WellFormed now)
    (conserved : book.Conserved)
    (affordable : ∀ id move stream stream', action = .change id move →
      book.streams id = some stream → stream.Moves now move stream' →
      move.paid ≤ book.left id stream + move.received) : book'.Conserved := by
  cases step with
  | @create sender params new nextStreamId reservations vault _ valid _ =>
      intro key
      have covered := conserved key
      have positive := valid.deposit_pos
      rcases eq_or_ne key new with rfl | other
      · simp only [created, newStream, Function.update_self]
        omega
      · simpa [created, newStream, other] using covered
  | @change changed before after move vault stored moves _ _ =>
      intro key
      have covered := conserved key
      rcases eq_or_ne key changed with rfl | other
      · have balanced := formed.balanced key before stored
        have affordable := affordable key move before after rfl stored moves
        unfold left at affordable
        simp only [moved, Function.update_self]
        omega
      · simpa [moved, other] using covered
  | close _ _ | reserve _ | release | reclaim _ _ | sweep _ _ | receive _ => exact conserved

/-- What holds of a book whose streams are neither re-priced nor cancelled by keepers: nothing is
withdrawn before it is earned, and the records show every payment. -/
structure Earned (now : ℕ) (book : Book) : Prop where
  earned : ∀ id stream, book.streams id = some stream →
    stream.withdrawnAmount ≤ stream.entitlement now
  unsettled : ∀ id, book.settledByKeeper id = 0

theorem Earned.mono (earned : book.Earned now) (formed : book.WellFormed now)
    (order : now ≤ later) : book.Earned later where
  earned := fun id stream stored => (earned.earned id stream stored).trans
    ((formed.records id stream stored).bounded.entitlement_mono order)
  unsettled := earned.unsettled

theorem Blank.earned (blank : book.Blank) (now : ℕ) : book.Earned now where
  earned := by simp [blank.streams]
  unsettled := blank.settledByKeeper

theorem Earned.owed_nonneg (earned : book.Earned now) (formed : book.WellFormed now)
    (stored : book.streams id = some stream) : 0 ≤ stream.owed := by
  have bounded := (formed.records id stream stored).bounded
  have within := earned.earned id stream stored
  have accrued_le := bounded.accruedAt_le_deposit now
  cases status : stream.status with
  | active | paused =>
      have live : stream.Live := by simp [Stream.Live, status]
      rw [live.entitlement] at within
      rw [live.owed]
      omega
  | cancelled =>
      rw [Stream.entitlement_of_cancelled status] at within
      rw [Stream.owed_of_cancelled status]
      omega
  | completed => simp [Stream.owed, status]

theorem Earned.owed_of_drained (earned : book.Earned now) (formed : book.WellFormed now)
    (stored : book.streams id = some stream) (drained : stream.Drained now) : stream.owed = 0 := by
  have nonneg := earned.owed_nonneg formed stored
  rcases drained with completed | ⟨cancelled, nothing⟩
  · simp [Stream.owed, completed]
  · rw [Stream.entitlement_of_cancelled cancelled] at nothing
    rw [Stream.owed_of_cancelled cancelled] at nonneg ⊢
    omega

theorem Steps.earned (step : book.Steps now action book') (formed : book.WellFormed now)
    (earned : book.Earned now)
    (unpriced : ∀ id rate, action ≠ .change id (.reprice rate))
    (unkept : ∀ id payment refund, action ≠ .change id (.keeperCancel payment refund)) :
    book'.Earned now where
  earned := by
    apply step.forall_stored earned.earned
    · intro id sender params valid
      exact (Stream.wellFormed_newStream valid).bounded.entitlement_nonneg now
    · rintro id move before after rfl stored moves within
      apply moves.earned (formed.records id before stored) _ within
      rintro rate rfl
      exact unpriced id rate rfl
  unsettled := by
    cases step with
    | @change changed before after move vault stored moves _ _ =>
        intro key
        have none_yet := earned.unsettled key
        rcases eq_or_ne key changed with rfl | other
        · have unsettled : move.settledByKeeper = 0 := by
            cases move with
            | keeperCancel payment refund => exact absurd rfl (unkept key payment refund)
            | _ => rfl
          simp only [moved, Function.update_self]
          omega
        · simpa [moved, other] using none_yet
    | create _ _ _ | close _ _ | reserve _ | release | reclaim _ _ | sweep _ _ | receive _ =>
        exact earned.unsettled

/-- A stream that is not stored has been paid out in full. -/
def ClosedInFull (book : Book) : Prop :=
  ∀ id, book.streams id = none → book.paidOut id = book.deposited id

theorem Steps.closedInFull (step : book.Steps now action book') (formed : book.WellFormed now)
    (earned : book.Earned now) (inFull : book.ClosedInFull) : book'.ClosedInFull := by
  cases step with
  | @create sender params new _ _ _ _ _ _ =>
      intro key absent
      rcases eq_or_ne key new with rfl | other
      · simp [created, newStream] at absent
      · have old := inFull key (by simpa [created, newStream, other] using absent)
        simpa [created, newStream, other] using old
  | @change changed _ _ _ _ _ _ _ _ =>
      intro key absent
      rcases eq_or_ne key changed with rfl | other
      · simp [moved] at absent
      · have old := inFull key (by simpa [moved, other] using absent)
        simpa [moved, other] using old
  | @close closed stream stored drained =>
      intro key absent
      rcases eq_or_ne key closed with rfl | other
      · have balanced := formed.balanced key stream stored
        have unsettled := earned.unsettled key
        have nothing := earned.owed_of_drained formed stored drained
        change book.paidOut key = book.deposited key
        omega
      · exact inFull key (by simpa [other] using absent)
  | reserve _ | release | reclaim _ _ | sweep _ _ | receive _ => exact inFull

end Book

end Wallie.StreamContract
