import Wallie.Ledger.Payments

/-!
# Payments to recipients on the book

Each of the six payment entrypoints either leaves the book alone or makes one
withdrawal on each stream it pays. They differ in their checks, in the events
and in whether the liabilities follow; the effect on the book is one lemma.
-/

namespace Wallie.StreamContract

open Fallible

variable {env : Env} {s s' middle : State} {stream : Stream} {id : ℕ} {path : PayoutPath}
  {destination : Address} {amount : ℤ}

theorem State.SameButClock.book_eq {address : Address} (same : s.SameButClock s') :
    s'.book address = s.book address := by
  rcases same with ⟨noted, rfl⟩
  rfl

/-- The events of a payment record no deposit. -/
theorem fundings_of_payment {after : Stream}
    (published : s'.events = s.events ++ path.events stream id destination amount ++
      completionEvents stream after) : s'.fundings = s.fundings := by
  have quiet : (path.events stream id destination amount).filterMap Event.funding = [] := by
    cases path <;> rfl
  have completed : (completionEvents stream after).filterMap Event.funding = [] := by
    unfold completionEvents
    split <;> rfl
  rw [State.fundings, published, List.filterMap_append, List.filterMap_append, quiet, completed,
    List.append_nil, List.append_nil, State.fundings]

/-- A payment is a withdrawal of the record. -/
theorem PaysThrough.moves (pays : PaysThrough env path id stream destination amount s s') :
    stream.Moves env.timestamp (.withdraw path amount) (stream.paid path amount env.sequence) := by
  have earned := pays.earned
  refine .withdraw pays.unfinished ?_ pays.positive (by omega) pays.undusted pays.expired
  intro isPaused
  by_contra running
  exact pays.unpaused ⟨isPaused, running⟩

/-- A payment is a withdrawal on the book. -/
theorem PaysThrough.steps (pays : PaysThrough env path id stream destination amount s s')
    (formed : stream.WellFormed id env.timestamp) :
    Book.Steps env.timestamp (s.book env.currentContractAddress)
      (.change id (.withdraw path amount)) (s'.book env.currentContractAddress) := by
  have moves := pays.moves
  rcases pays.result with ⟨noted, lock, rfl⟩
  have fundings : State.fundings { s.paid env path id stream destination amount with
      lastAccrualLedgerTimestamp := noted, reentrancyLock := lock } = s.fundings :=
    fundings_of_payment rfl
  have unsettled : path.kind ≠ .keeperSettlement := by
    cases path <;> decide
  have moved : State.MovedBy s { s.paid env path id stream destination amount with
      lastAccrualLedgerTimestamp := noted, reentrancyLock := lock } id stream
      (stream.paid path amount env.sequence) (.withdraw path amount) := by
    constructor
    · rfl
    · rw [← formed.streamId]
      rfl
    · rfl
    · rfl
    · rfl
    · rfl
    · simp [State.deposited, fundings, Move.received]
    · simp [State.paidOut, State.payments, State.paid, payoutsOf, Move.paid]
    · simp [State.settledByKeeper, State.settlements, State.paid, payoutsOf, unsettled,
        Move.settledByKeeper]
    · simp [State.totalDeposited, fundings, Move.received]
  refine moved.steps pays.stored moves ?_ ?_
  · rintro _ _ ⟨⟩
    exact pays.covered
  · have source : s.balances env.currentContractAddress - amount ≤
        movedBalances s.balances env.currentContractAddress destination amount
          env.currentContractAddress := movedBalances_source pays.positive.le
    change s.balances env.currentContractAddress + 0 - amount ≤ _
    rwa [add_zero]

/-- A withdrawal through `path` that the contract can pay from `held`. -/
@[simp]
def Move.Withdraws (path : PayoutPath) (held : ℤ) (move : Move) : Prop :=
  ∃ amount ≤ held, move = .withdraw path amount

/-- One payment, or none. -/
theorem refines_of_payment
    (outcome : amount = 0 ∧ s.SameButClock s' ∨
      ∃ stream destination, PaysThrough env path id stream destination amount s s')
    (formed : (s.book env.currentContractAddress).WellFormed env.timestamp) :
    Refines env (Changes (Move.Withdraws path (s.balances env.currentContractAddress)) id)
      s s' := by
  rcases outcome with ⟨_, same⟩ | ⟨stream, destination, pays⟩
  · exact .of_book_eq same.book_eq
  · exact .single ⟨_, ⟨amount, pays.covered, rfl⟩, rfl⟩
      (pays.steps (formed.records id stream pays.stored))

/-- A payment leaves the contract with at most what it held. -/
theorem PaysThrough.balance_le (pays : PaysThrough env path id stream destination amount s s') :
    s'.balances env.currentContractAddress ≤ s.balances env.currentContractAddress := by
  rcases pays.result with ⟨noted, lock, rfl⟩
  exact movedBalances_source_le pays.positive.le

/-- The payments of a batch on different streams. -/
theorem PaymentsOf.refines {entries : List (ℕ × Option Address)} {held : ℤ}
    (payments : PaymentsOf env path entries s s')
    (formed : (s.book env.currentContractAddress).WellFormed env.timestamp)
    (nodup : (entries.map Prod.fst).Nodup)
    (within : s.balances env.currentContractAddress ≤ held) :
    Refines env (ChangesOneOf (Move.Withdraws path held) (entries.map Prod.fst)) s s' := by
  induction payments with
  | nil => exact .refl _
  | skip rest ih =>
      exact (ih formed (List.nodup_cons.mp nodup).2 within).mono fun _ => ChangesOneOf.tail
  | @pay s middle s' id stream chosen amount entries pays rest ih =>
      have step := pays.steps (formed.records id stream pays.stored)
      refine .cons (.head ⟨_, ⟨amount, pays.covered.trans within, rfl⟩, rfl⟩) step
        (ih (step.wellFormed formed) (List.nodup_cons.mp nodup).2 ?_) (fun _ => ChangesOneOf.tail)
        (ChangesOneOf.others nodup)
      exact pays.balance_le.trans within

/-! ## The entrypoints -/

theorem withdraw_refines (run : Runs (withdraw id) env s amount s')
    (formed : (s.book env.currentContractAddress).WellFormed env.timestamp) :
    Refines env (Changes (Move.Withdraws .withdraw (s.balances env.currentContractAddress)) id)
      s s' := by
  refine refines_of_payment ((pays_of_withdraw run).imp_right ?_) formed
  rintro ⟨stream, pays⟩
  exact ⟨stream, _, pays⟩

theorem withdrawTo_refines (run : Runs (withdrawTo id destination) env s amount s')
    (formed : (s.book env.currentContractAddress).WellFormed env.timestamp) :
    Refines env (Changes (Move.Withdraws .withdrawTo (s.balances env.currentContractAddress)) id)
      s s' := by
  refine refines_of_payment ((pays_of_withdrawTo run).imp_right ?_) formed
  rintro ⟨stream, pays⟩
  exact ⟨stream, _, pays⟩

theorem delegatedWithdraw_refines {relayer : Address} {recipientPublicKey nonce deadline : ℕ}
    {expectedMinimumAmount : ℤ} {signature : Bytes}
    (run : Runs (delegatedWithdraw id relayer recipientPublicKey nonce deadline
      expectedMinimumAmount signature) env s amount s')
    (formed : (s.book env.currentContractAddress).WellFormed env.timestamp) :
    Refines env (Changes (Move.Withdraws .delegatedWithdraw
      (s.balances env.currentContractAddress)) id) s s' := by
  refine refines_of_payment ((pays_of_delegatedWithdraw run).imp_right ?_) formed
  rintro ⟨stream, pays, _, _⟩
  exact ⟨stream, _, pays⟩

theorem triggerAutoClaim_refines (run : Runs (triggerAutoClaim id) env s amount s')
    (formed : (s.book env.currentContractAddress).WellFormed env.timestamp) :
    Refines env (Changes (Move.Withdraws .autoClaim (s.balances env.currentContractAddress)) id)
      s s' := by
  refine refines_of_payment ((pays_of_triggerAutoClaim run (formed.records id)).imp_right ?_)
    formed
  rintro ⟨stream, destination, _, pays⟩
  exact ⟨stream, destination, pays⟩

/-- A batch reads the clock before it pays. -/
theorem refines_of_batch {entries : List (ℕ × Option Address)} {ids : List ℕ} {s₀ : State}
    (read : s.SameButClock s₀) (payments : PaymentsOf env path entries s₀ s')
    (keys : entries.map Prod.fst = ids) (nodup : ids.Nodup)
    (formed : (s.book env.currentContractAddress).WellFormed env.timestamp) :
    Refines env (ChangesOneOf (Move.Withdraws path (s.balances env.currentContractAddress)) ids)
      s s' := by
  subst keys
  rcases read with ⟨noted, rfl⟩
  exact payments.refines formed nodup le_rfl

theorem batchWithdraw_refines {recipient : Address} {ids : List ℕ}
    {results : List BatchWithdrawResult}
    (run : Runs (batchWithdraw recipient ids) env s results s')
    (formed : (s.book env.currentContractAddress).WellFormed env.timestamp) :
    Refines env (ChangesOneOf (Move.Withdraws .batchWithdraw
      (s.balances env.currentContractAddress)) ids) s s' := by
  rcases paymentsOf_batchWithdraw run with ⟨nodup, s₀, read, payments⟩
  have keys : (ids.map fun id => (id, (none : Option Address))).map Prod.fst = ids := by
    rw [List.map_map]
    exact List.map_id ids
  exact refines_of_batch read payments keys nodup formed

theorem batchWithdrawTo_refines {recipient : Address} {withdrawals : List WithdrawToParam}
    {results : List BatchWithdrawResult}
    (run : Runs (batchWithdrawTo recipient withdrawals) env s results s')
    (formed : (s.book env.currentContractAddress).WellFormed env.timestamp) :
    Refines env (ChangesOneOf (Move.Withdraws .batchWithdrawTo
      (s.balances env.currentContractAddress)) (withdrawals.map WithdrawToParam.streamId))
      s s' := by
  rcases paymentsOf_batchWithdrawTo run with ⟨nodup, s₀, read, payments⟩
  have keys : (withdrawals.map fun param => (param.streamId, some param.destination)).map
      Prod.fst = withdrawals.map WithdrawToParam.streamId := by
    simp
  exact refines_of_batch read payments keys nodup formed

end Wallie.StreamContract
