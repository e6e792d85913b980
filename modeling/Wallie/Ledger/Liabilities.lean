import Wallie.Ledger.OwedTotal

/-!
# The liabilities counter

As long as the counter and its updates fit in an `i128`, the fallbacks of its
saturating arithmetic are not taken: a move changes it by what is received and
paid, except for the payments that some paths do not book.
-/

namespace Wallie.StreamContract

/-- The part of a payment by which the liabilities counter is not reduced. -/
def Move.unbooked : Move → ℤ
  | withdraw path amount => if path.booked = true then 0 else amount
  | lowerRate _ refund => refund
  | _ => 0

variable {liabilities amount : ℤ} {now id : ℕ} {stream stream' : Stream} {move : Move}

theorem increasedLiabilities_eq (fits : i128.Contains (liabilities + amount)) :
    increasedLiabilities liabilities amount = liabilities + amount := by
  rw [increasedLiabilities, Bounded.Interval.check_of_contains fits, Option.getD_some]

theorem reducedLiabilities_eq (fits : i128.Contains (liabilities - amount)) :
    reducedLiabilities liabilities amount = liabilities - amount := by
  rw [reducedLiabilities, Bounded.Interval.check_of_contains fits, Option.getD_some]

theorem releasedLiabilities_eq (nonneg : 0 ≤ amount) (fits : i128.Contains (liabilities - amount)) :
    releasedLiabilities liabilities amount = liabilities - amount := by
  unfold releasedLiabilities
  split
  · exact reducedLiabilities_eq fits
  · omega

/-! ## The counter does not overflow -/

theorem increasedLiabilities_le : increasedLiabilities liabilities amount ≤ i128.upper := by
  unfold increasedLiabilities Bounded.Interval.check
  split
  · next fits => exact fits.2
  · exact le_rfl

theorem reducedLiabilities_le : reducedLiabilities liabilities amount ≤ i128.upper := by
  unfold reducedLiabilities Bounded.Interval.check
  split
  · next fits => exact fits.2
  · exact (by decide : 0 ≤ i128.upper)

theorem releasedLiabilities_le (le : liabilities ≤ i128.upper) :
    releasedLiabilities liabilities amount ≤ i128.upper := by
  unfold releasedLiabilities
  split
  · exact reducedLiabilities_le
  · exact le

theorem Move.liabilities_le (le : liabilities ≤ i128.upper) :
    move.liabilities liabilities ≤ i128.upper := by
  cases move with
  | topUp _ => exact increasedLiabilities_le
  | withdraw path _ =>
      rcases Bool.eq_false_or_eq_true path.booked with booked | unbooked
      · simpa only [Move.liabilities, booked, if_true] using reducedLiabilities_le
      · simpa [Move.liabilities, unbooked] using le
  | shorten _ _ | cancel _ | keeperCancel _ _ => exact releasedLiabilities_le le
  | settle _ _ => exact releasedLiabilities_le (releasedLiabilities_le le)
  | _ => exact le

theorem Book.Steps.totalLiabilities_le {book book' : Book} {action : Action}
    (step : Book.Steps now book action book') (le : book.totalLiabilities ≤ i128.upper) :
    book'.totalLiabilities ≤ i128.upper := by
  cases step with
  | create _ _ _ => exact increasedLiabilities_le
  | change _ _ _ _ => exact Move.liabilities_le le
  | close _ _ | reserve _ | release | reclaim _ _ | sweep _ _ | receive _ => exact le

/-! ## The counter after a move -/

namespace Stream

theorem Moves.refund_nonneg (formed : stream.WellFormed id now) {refund : ℤ}
    (split : stream.accruedAt now + refund = stream.depositAmount) : 0 ≤ refund := by
  have accrued_le := formed.bounded.accruedAt_le_deposit now
  omega

theorem Moves.unbooked_nonneg (moves : stream.Moves now move stream') : 0 ≤ move.unbooked := by
  cases moves with
  | withdraw _ _ positive _ _ _ =>
      simp only [Move.unbooked]
      split <;> omega
  | lowerRate _ _ _ _ _ nonneg _ => exact nonneg
  | topUp _ _ _ _ _ | raiseRate _ _ _ _ | reprice _ _ | shorten _ _ _ _ _ _ _ _
  | extend _ _ _ _ _ | pause _ _ | resume _ _ | cancel _ _ | settle _ _ _
  | keeperCancel _ _ _ _ | rotate => exact le_rfl

theorem Moves.unbooked_le_paid (moves : stream.Moves now move stream')
    (formed : stream.WellFormed id now) : move.unbooked ≤ move.paid := by
  cases moves with
  | withdraw _ _ positive _ _ _ =>
      simp only [Move.unbooked, Move.paid]
      split <;> omega
  | shorten _ _ _ _ _ _ nonneg _ => exact nonneg
  | cancel _ split => exact Moves.refund_nonneg formed split
  | settle _ due split | keeperCancel _ _ due split =>
      have refund_nonneg := Moves.refund_nonneg formed split
      simp only [Move.unbooked, Move.paid]
      omega
  | lowerRate _ _ _ _ _ _ _ | topUp _ _ _ _ _ | raiseRate _ _ _ _ | reprice _ _
  | extend _ _ _ _ _ | pause _ _ | resume _ _ | rotate => exact le_rfl

theorem Moves.received_nonneg (moves : stream.Moves now move stream') : 0 ≤ move.received := by
  cases moves with
  | topUp _ _ _ positive _ => exact positive.le
  | _ => exact le_rfl

/-- The counter after a move, while nothing overflows. -/
theorem Moves.liabilities_eq (moves : stream.Moves now move stream')
    (formed : stream.WellFormed id now) (fits : i128.Contains liabilities)
    (fits' : i128.Contains (liabilities + move.received - move.paid + move.unbooked)) :
    move.liabilities liabilities =
      liabilities + move.received - move.paid + move.unbooked := by
  cases moves with
  | @withdraw path amount ledger _ _ _ _ _ _ =>
      simp only [Move.liabilities, Move.received, Move.paid, Move.unbooked] at fits' ⊢
      split at fits'
      · next booked =>
        rw [if_pos booked, if_pos booked, reducedLiabilities_eq (by simpa using fits')]
        omega
      · next unbooked =>
        rw [if_neg unbooked, if_neg unbooked]
        omega
  | topUp _ _ _ _ _ =>
      simp only [Move.liabilities, Move.received, Move.paid, Move.unbooked] at fits' ⊢
      rw [increasedLiabilities_eq (by simpa using fits')]
      omega
  | shorten _ _ _ _ _ _ nonneg _ =>
      simp only [Move.liabilities, Move.received, Move.paid, Move.unbooked] at fits' ⊢
      rw [releasedLiabilities_eq nonneg (by simpa using fits')]
      omega
  | cancel _ split =>
      have nonneg := Moves.refund_nonneg formed split
      simp only [Move.liabilities, Move.received, Move.paid, Move.unbooked] at fits' ⊢
      rw [releasedLiabilities_eq nonneg (by simpa using fits')]
      omega
  | @settle payment refund _ due split =>
      have nonneg := Moves.refund_nonneg formed split
      rcases fits with ⟨_, upper⟩
      rcases fits' with ⟨lower, _⟩
      simp only [Move.liabilities, Move.received, Move.paid, Move.unbooked] at lower ⊢
      -- What remains between the two reductions lies between the first and the last value.
      have middle : i128.Contains (liabilities - payment) := ⟨by omega, by omega⟩
      rw [releasedLiabilities_eq (by omega) middle,
        releasedLiabilities_eq nonneg ⟨by omega, by omega⟩]
      omega
  | @keeperCancel payment refund _ _ due split =>
      have nonneg := Moves.refund_nonneg formed split
      simp only [Move.liabilities, Move.received, Move.paid, Move.unbooked] at fits' ⊢
      rw [releasedLiabilities_eq (by omega) (by simpa using fits')]
      omega
  | lowerRate _ _ _ _ _ _ _ | raiseRate _ _ _ _ | reprice _ _ | extend _ _ _ _ _
  | pause _ _ | resume _ _ | rotate =>
      simp only [Move.liabilities, Move.received, Move.paid, Move.unbooked]
      omega

end Stream

end Wallie.StreamContract
