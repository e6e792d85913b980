import Wallie.Ledger.Emissions
import Wallie.Ledger.Liabilities
import Wallie.StreamContract.Script

/-!
# Solvency

On runs without `updateRate` and keepers the contract holds what it owes on the
stored streams. Some payments are not booked, so the liabilities counter can
exceed what is owed but never falls short of it, and a sweep that leaves the
counter in the contract leaves what is owed there.
-/

namespace Wallie.StreamContract

namespace Book

variable {book book' : Book} {now id : ℕ} {action : Action} {stream : Stream}

/-- The tokens held and the liabilities counter cover what is owed on the stored streams. -/
structure Solvent (book : Book) : Prop where
  covered : book.owedTotal ≤ book.vault
  counted : book.owedTotal ≤ book.totalLiabilities
  bounded : book.totalLiabilities ≤ book.totalDeposited

theorem Blank.solvent (blank : book.Blank) : book.Solvent where
  covered := blank.owedTotal ▸ blank.vault_nonneg
  counted := by rw [blank.owedTotal, blank.totalLiabilities]
  bounded := by rw [blank.totalLiabilities, blank.totalDeposited]

theorem Steps.totalDeposited_le (step : book.Steps now action book') :
    book.totalDeposited ≤ book'.totalDeposited := by
  cases step with
  | create _ valid _ => exact le_add_of_nonneg_right valid.deposit_pos.le
  | change _ moves _ _ => exact le_add_of_nonneg_right moves.received_nonneg
  | close _ _ | reserve _ | release | reclaim _ _ | sweep _ _ | receive _ => exact le_rfl

theorem Earned.owedTotal_nonneg (earned : book.Earned now) (formed : book.WellFormed now) :
    0 ≤ book.owedTotal :=
  KeyedSum.storeTotal_nonneg fun _ _ stored => earned.owed_nonneg formed stored

/-- A move of a stream on which nothing is overdrawn keeps the counter between what is owed and
what was deposited. -/
theorem Solvent.moved {stream' : Stream} {move : Move} {vault : ℤ} (solvent : book.Solvent)
    (formed : book.WellFormed now) (earned : book.Earned now)
    (formed' : (book.moved id stream stream' move vault).WellFormed now)
    (earned' : (book.moved id stream stream' move vault).Earned now)
    (stored : book.streams id = some stream) (moves : stream.Moves now move stream')
    (funded : book.vault + move.received - move.paid ≤ vault)
    (total : (book.moved id stream stream' move vault).owedTotal =
      book.owedTotal + (Action.change id move).owes)
    (fits : book.totalDeposited + move.received ≤ i128.upper) :
    (book.moved id stream stream' move vault).Solvent := by
  rcases solvent with ⟨covered, counted, bounded⟩
  have record := formed.records id stream stored
  have owed_nonneg := earned.owedTotal_nonneg formed
  have received_nonneg := moves.received_nonneg
  have unbooked_nonneg := moves.unbooked_nonneg
  have unbooked_le := moves.unbooked_le_paid record
  have lower : i128.lower ≤ 0 := by decide
  -- The records show every payment, so no keeper has settled the stream.
  have unsettled : move.settledByKeeper = 0 := by
    have before := earned.unsettled id
    have after := earned'.unsettled id
    simp only [Book.moved, Function.update_self] at after
    omega
  -- The move pays no more than is owed on the stream.
  have paid_le : move.paid ≤ book.owedTotal + move.received := by
    have owed_le := formed.owed_le_total (fun _ _ => earned.owed_nonneg formed) stored
    have stored' : (book.moved id stream stream' move vault).streams id = some stream' :=
      Function.update_self ..
    have owed'_nonneg := earned'.owed_nonneg formed' stored'
    have owed := moves.owed
    omega
  have counter : move.liabilities book.totalLiabilities =
      book.totalLiabilities + move.received - move.paid + move.unbooked :=
    moves.liabilities_eq record ⟨by omega, by omega⟩ ⟨by omega, by omega⟩
  rw [Action.owes, unsettled] at total
  constructor
  · rw [total]
    change _ ≤ vault
    omega
  · rw [total]
    change _ ≤ move.liabilities book.totalLiabilities
    omega
  · change move.liabilities book.totalLiabilities ≤ book.totalDeposited + move.received
    omega

theorem Steps.solvent (step : book.Steps now action book') (formed : book.WellFormed now)
    (earned : book.Earned now) (earned' : book'.Earned now) (solvent : book.Solvent)
    (fits : book'.totalDeposited ≤ i128.upper) : book'.Solvent := by
  have formed' := step.wellFormed formed
  have total := step.owedTotal formed fun _ _ _ stored drained =>
    earned.owed_of_drained formed stored drained
  cases step with
  | @create sender params id _ _ vault _ valid funded =>
      rcases solvent with ⟨covered, counted, bounded⟩
      have owed_nonneg := earned.owedTotal_nonneg formed
      have lower : i128.lower ≤ 0 := by decide
      have deposit_pos := valid.deposit_pos
      have fits : book.totalDeposited + params.depositAmount ≤ i128.upper := fits
      have counter : increasedLiabilities book.totalLiabilities params.depositAmount =
          book.totalLiabilities + params.depositAmount :=
        increasedLiabilities_eq ⟨by omega, by omega⟩
      rw [Action.owes] at total
      constructor
      · rw [total]
        change _ ≤ vault
        omega
      · rw [total]
        change _ ≤ increasedLiabilities book.totalLiabilities params.depositAmount
        omega
      · change increasedLiabilities book.totalLiabilities params.depositAmount ≤
          book.totalDeposited + params.depositAmount
        omega
  | change stored moves _ funded =>
      exact solvent.moved formed earned formed' earned' stored moves funded total fits
  | close _ _ | reserve _ | release | reclaim _ _ =>
      have same := total.trans (add_zero _)
      exact ⟨same ▸ solvent.covered, same ▸ solvent.counted, solvent.bounded⟩
  | @sweep amount vault excess funded =>
      refine ⟨?_, solvent.counted, solvent.bounded⟩
      have counted := solvent.counted
      change book.owedTotal ≤ vault
      omega
  | receive funded =>
      exact ⟨solvent.covered.trans funded, solvent.counted, solvent.bounded⟩

end Book

variable {address : Address} {permitted : State → Env → Call → Prop} {s : State} {now : ℕ}

/-- On every run without `updateRate` and `keeperCancel` the contract holds at least what it owes
on the stored streams, as long as what was ever deposited fits in an `i128`. -/
theorem owed_le_balance (reached : Reachable address withoutUpdateRateAndKeeperCancel now s)
    (fits : s.totalDeposited ≤ i128.upper) :
    KeyedSum.storeTotal Stream.owed s.streams s.nextStreamId ≤ s.balances address ∧
      ∀ id stream, s.streams id = some stream → id < s.nextStreamId := by
  have invariant := reached.earned_invariant
    (fun book => book.totalDeposited ≤ i128.upper → book.Solvent) (fun _ _ _ allowed => allowed)
    ?_ ?_ ?_
  · exact ⟨(invariant.2 fits).covered, fun _ _ stored => reached.book_wellFormed.stored_lt stored⟩
  · exact fun book blank _ => blank.solvent
  · intro book vault funded solvent fits
    exact ⟨(solvent fits).covered.trans funded, (solvent fits).counted, (solvent fits).bounded⟩
  · intro now book action book' step formed earned earned' solvent fits
    have solvent := solvent (step.totalDeposited_le.trans fits)
    exact step.solvent formed earned earned' solvent fits

/-- The contract of the drained stream holds the deposit of the other one. -/
theorem owed_le_balance_drained :
    KeyedSum.storeTotal Stream.owed (Script.run Sample.drained Sample.genesis).streams 2 ≤
      (Script.run Sample.drained Sample.genesis).balances Sample.contract := by
  have reached : Reachable Sample.contract withoutUpdateRateAndKeeperCancel 100
      (Script.run Sample.drained Sample.genesis) :=
    Script.reachable_run Sample.ordered_drained ⟨trivial, trivial, trivial, trivial⟩
      (Sample.reachable_genesis _)
  exact (owed_le_balance reached (by decide)).1

end Wallie.StreamContract
