import Wallie.Ledger.Projection
import Wallie.StreamContract.Entrypoints
import Wallie.StreamContract.TokenRules
import Wallie.StreamContract.WithdrawRules
import Mathlib.Data.List.Nodup

/-!
# Payments to recipients

What a call of one of the six payment entrypoints does to the state: for each of
its streams it makes one payment, or nothing. The entrypoints differ in their
checks and in a few of the writes; `PaysThrough` has them as functions of the
path, and each entrypoint is shown to pay through its own.
-/

namespace Wallie.StreamContract

open Fallible

variable {env : Env} {s s' middle : State} {stream : Stream} {id : ℕ} {path : PayoutPath}
  {destination : Address} {amount result : ℤ}

/-! ## One payment -/

namespace PayoutPath

/-- Whether the path compares the ledger with that of the last withdrawal, and notes it. -/
def spaced : PayoutPath → Bool
  | withdraw | batchWithdraw | delegatedWithdraw => true
  | withdrawTo | batchWithdrawTo | autoClaim => false

def kind : PayoutPath → PayoutKind
  | autoClaim => .autoClaim
  | _ => .withdrawal

/-- The events of a payment, before that of the completion. -/
def events (stream : Stream) (id : ℕ) (destination : Address) (amount : ℤ) :
    PayoutPath → List Event
  | withdraw | batchWithdraw | delegatedWithdraw => [.withdrew id stream.recipient amount]
  | withdrawTo | batchWithdrawTo => [.wdrawTo id stream.recipient destination amount]
  | autoClaim =>
      [.acTrig id destination amount, .withdrewTo id stream.recipient destination amount]

/-- The nonces after a payment to `recipient`. -/
def nonces (nonces : Address → ℕ) (recipient : Address) : PayoutPath → Address → ℕ
  | delegatedWithdraw => Function.update nonces recipient (nonces recipient + 1)
  | _ => nonces

end PayoutPath

/-- The record after a payment. -/
def Stream.paid (stream : Stream) (path : PayoutPath) (amount : ℤ) (ledger : ℕ) : Stream :=
  (stream.withdrawnTo (stream.withdrawnAmount + amount)).notedAt
    (if path.spaced then ledger else stream.lastWithdrawLedger)

/-- The state after a payment, up to the clock and the lock. -/
def State.paid (s : State) (env : Env) (path : PayoutPath) (id : ℕ) (stream : Stream)
    (destination : Address) (amount : ℤ) : State :=
  let after := stream.paid path amount env.sequence
  let streams := Function.update s.streams stream.streamId (some after)
  { s with
    streams
    pausedStreamCount := reconciledCount stream.status after.status s.pausedStreamCount
    totalLiabilities :=
      if path.booked then reducedLiabilities s.totalLiabilities amount else s.totalLiabilities
    delegatedWithdrawNonce := path.nonces s.delegatedWithdrawNonce stream.recipient
    balances := movedBalances s.balances env.currentContractAddress destination amount
    payouts := s.payouts ++
      payoutsOf env { s with streams } destination [⟨id, path.kind, amount⟩]
    events := s.events ++ path.events stream id destination amount ++
      completionEvents stream after }

/-- A payment of `amount` on stream `id` to `destination`. -/
structure PaysThrough (env : Env) (path : PayoutPath) (id : ℕ) (stream : Stream)
    (destination : Address) (amount : ℤ) (s s' : State) : Prop where
  stored : s.streams id = some stream
  spaced : path.spaced = true →
    stream.lastWithdrawLedger + minWithdrawIntervalLedgers ≤ env.sequence
  unfinished : stream.status ≠ .completed
  unpaused : ¬ (stream.status = .paused ∧ ¬ stream.IsTerminal env.timestamp)
  positive : 0 < amount
  earned : amount ≤ stream.entitlement env.timestamp - stream.withdrawnAmount
  covered : amount ≤ s.balances env.currentContractAddress
  undusted : path.respectsDust = true → ¬ stream.DustBlocks env.timestamp amount
  expired : path = .autoClaim → stream.Live ∧ stream.endTime ≤ env.timestamp
  result : ∃ noted lock,
    s' = { s.paid env path id stream destination amount with
      lastAccrualLedgerTimestamp := noted, reentrancyLock := lock }

namespace PaysThrough

theorem streams (pays : PaysThrough env path id stream destination amount s s') :
    s'.streams = Function.update s.streams stream.streamId
      (some (stream.paid path amount env.sequence)) := by
  rcases pays.result with ⟨noted, lock, rfl⟩
  rfl

theorem events (pays : PaysThrough env path id stream destination amount s s') :
    s'.events = s.events ++ path.events stream id destination amount ++
      completionEvents stream (stream.paid path amount env.sequence) := by
  rcases pays.result with ⟨noted, lock, rfl⟩
  rfl

/-- A payment keeps the records under their ids. -/
theorem keyed (pays : PaysThrough env path id stream destination amount s s')
    (keyed : ∀ id stream, s.streams id = some stream → stream.streamId = id) :
    ∀ id stream, s'.streams id = some stream → stream.streamId = id := by
  intro other record stored
  rw [pays.streams] at stored
  rcases eq_or_ne other stream.streamId with rfl | distinct
  · rw [Function.update_self, Option.some.injEq] at stored
    rw [← stored]
    rfl
  · rw [Function.update_of_ne distinct] at stored
    exact keyed other record stored

end PaysThrough

/-- Nothing but the clock of the accrual is written. -/
def State.SameButClock (s s' : State) : Prop :=
  ∃ noted, s' = { s with lastAccrualLedgerTimestamp := noted }

/-! ## Single withdrawals -/

/-- What `withdraw` has checked when it comes to the payment. -/
structure Drawable (env : Env) (s : State) (id : ℕ) (stream : Stream) : Prop where
  running : s.globalEmergencyPaused = false
  configured : s.config.isSome = true
  stored : s.streams id = some stream
  authorised : env.auth stream.recipient = true
  spaced : stream.lastWithdrawLedger ≤ env.sequence ∧
    minWithdrawIntervalLedgers ≤ env.sequence - stream.lastWithdrawLedger
  unfinished : stream.status ≠ .completed
  unpaused : ¬ (stream.status = .paused ∧ ¬ stream.IsTerminal env.timestamp)
  frozen : stream.status = .cancelled → stream.cancelledAt.isSome = true
  noted : stream.Live → s.lastAccrualLedgerTimestamp.getD 0 ≤ env.timestamp
  fits : i128.Contains (stream.entitlement env.timestamp - stream.withdrawnAmount)

/-- What can be paid on the stream out of `balance`. -/
def Stream.payable (stream : Stream) (now : ℕ) (balance : ℤ) : ℤ :=
  min (stream.entitlement now - stream.withdrawnAmount) balance

/-- The payment is not made. -/
def Stream.Withholds (stream : Stream) (now : ℕ) (amount : ℤ) : Prop :=
  amount ≤ 0 ∨ stream.DustBlocks now amount

instance (stream : Stream) (now : ℕ) (amount : ℤ) : Decidable (stream.Withholds now amount) :=
  inferInstanceAs (Decidable (_ ∨ _))

/-- The state in which `withdraw` asks the token for the payment. -/
def State.drawn (s : State) (env : Env) (stream : Stream) (amount : ℤ) : State :=
  let after := stream.paid .withdraw amount env.sequence
  { s.accrualRead stream env.timestamp with
    streams := Function.update s.streams stream.streamId (some after)
    pausedStreamCount := reconciledCount stream.status after.status s.pausedStreamCount
    totalLiabilities := reducedLiabilities s.totalLiabilities amount }

@[simp]
theorem State.drawn_balances : (s.drawn env stream amount).balances = s.balances := by
  rcases s.accrualRead_eq stream env.timestamp with ⟨clock, same⟩
  rw [State.drawn, same]

@[simp]
theorem State.drawn_allowances : (s.drawn env stream amount).allowances = s.allowances := by
  rcases s.accrualRead_eq stream env.timestamp with ⟨clock, same⟩
  rw [State.drawn, same]

@[simp]
theorem State.drawn_config : (s.drawn env stream amount).config = s.config := by
  rcases s.accrualRead_eq stream env.timestamp with ⟨clock, same⟩
  rw [State.drawn, same]

/-- What a withdrawal rests on and what it does. -/
theorem runs_withdraw :
    Runs (withdraw id) env s amount s' ↔ ∃ stream, Drawable env s id stream ∧
      let payable := stream.payable env.timestamp (s.balances env.currentContractAddress)
      (stream.Withholds env.timestamp payable ∧ amount = 0 ∧
          s' = s.accrualRead stream env.timestamp ∨
        ¬ stream.Withholds env.timestamp payable ∧ amount = payable ∧
          i128.Contains (stream.withdrawnAmount + amount) ∧
          TransferAllowed env (s.drawn env stream amount) env.currentContractAddress
            stream.recipient amount ∧
          s' = { s.paid env .withdraw id stream stream.recipient amount with
            lastAccrualLedgerTimestamp :=
              (s.accrualRead stream env.timestamp).lastAccrualLedgerTimestamp }) := by
  constructor
  · intro run
    simp only [withdraw, runs_bind, runs_requireNotGloballyPaused, runs_loadStream,
      runs_requireAuth, runs_ask, runs_requireWithdrawInterval, runs_rejectIf, and_assoc,
      exists_and_left, exists_eq_left, exists_const] at run
    rcases run with ⟨running, stream, stored, authorised, last, spaced, unfinished, unpaused, _, _,
      read, run⟩
    rcases (runs_calculateAccrued stored).mp read with ⟨⟨frozen, noted⟩, rfl, rfl⟩
    rcases s.accrualRead_eq stream env.timestamp with ⟨clock, same⟩
    simp only [same, runs_bind, runs_plainI128, runs_tokenBalance, runs_ite, runs_pure,
      runs_saveStream, runs_reconcilePausedStreamCount, runs_reduceLiabilities, runs_pushToken,
      runs_publish, runs_publishCompletion, and_assoc, exists_and_left, exists_eq_left,
      exists_const] at run
    rcases run with ⟨fits, configured, outcome⟩
    refine ⟨stream,
      { running, configured, stored, authorised, unfinished, unpaused, frozen, noted, fits
        spaced := ⟨last, spaced⟩ }, ?_⟩
    rw [same]
    rcases outcome with ⟨nothing, rfl, rfl⟩ | ⟨payable, ⟨dust, rfl, rfl⟩ |
      ⟨undusted, ⟨dust, rfl, rfl⟩ | ⟨-, total, -, allowed, rfl, rfl⟩⟩⟩
    · exact Or.inl ⟨Or.inl nothing, rfl, rfl⟩
    · exact Or.inl ⟨Or.inr dust, rfl, rfl⟩
    · exact Or.inl ⟨Or.inr dust, rfl, rfl⟩
    · refine Or.inr ⟨not_or.mpr ⟨payable, undusted⟩, rfl, total, ?_, rfl⟩
      rw [State.drawn, same]
      exact allowed
  · rintro ⟨stream, drawable, outcome⟩
    rcases s.accrualRead_eq stream env.timestamp with ⟨clock, same⟩
    simp only [withdraw, runs_bind, runs_requireNotGloballyPaused, runs_loadStream,
      runs_requireAuth, runs_ask, runs_requireWithdrawInterval, runs_rejectIf, and_assoc,
      exists_and_left, exists_eq_left, exists_const]
    refine ⟨drawable.running, stream, drawable.stored, drawable.authorised, drawable.spaced.1,
      drawable.spaced.2, drawable.unfinished, drawable.unpaused, _, _,
      (runs_calculateAccrued drawable.stored).mpr ⟨⟨drawable.frozen, drawable.noted⟩, rfl, rfl⟩, ?_⟩
    rw [same] at outcome
    simp only [same, runs_bind, runs_plainI128, runs_tokenBalance, runs_ite, runs_pure,
      runs_saveStream, runs_reconcilePausedStreamCount, runs_reduceLiabilities, runs_pushToken,
      runs_publish, runs_publishCompletion, and_assoc, exists_and_left, exists_eq_left,
      exists_const]
    refine ⟨drawable.fits, drawable.configured, ?_⟩
    rcases outcome with ⟨nothing | dust, rfl, rfl⟩ | ⟨pays, rfl, total, allowed, rfl⟩
    · exact Or.inl ⟨nothing, rfl, rfl⟩
    · by_cases nothing : stream.payable env.timestamp (s.balances env.currentContractAddress) ≤ 0
      · exact Or.inl ⟨nothing, rfl, rfl⟩
      · exact Or.inr ⟨nothing, Or.inl ⟨dust, rfl, rfl⟩⟩
    · rcases not_or.mp pays with ⟨positive, undusted⟩
      rw [State.drawn, same] at allowed
      exact Or.inr ⟨positive, Or.inr ⟨undusted, Or.inr ⟨undusted, total, drawable.configured,
        allowed, rfl, rfl⟩⟩⟩

/-- A withdrawal draws all that is unpaid if the contract can pay it and it is not dust. -/
theorem Drawable.runs {now : ℕ} (drawable : Drawable env s id stream)
    (record : stream.WellFormed id now) (able : s.CanPayOut env amount)
    (unpaid : stream.entitlement env.timestamp - stream.withdrawnAmount = amount)
    (positive : 0 < amount) (undusted : ¬ stream.DustBlocks env.timestamp amount) :
    ∃ after, Runs (withdraw id) env s amount after := by
  have payable : stream.payable env.timestamp (s.balances env.currentContractAddress) =
      amount := by
    rw [Stream.payable, unpaid]
    exact min_eq_left able.covered
  have total : i128.Contains (stream.withdrawnAmount + amount) := by
    have lower : i128.lower ≤ 0 := by decide
    have withdrawn_nonneg := record.withdrawn_nonneg
    have entitled := record.bounded.entitlement_le_deposit env.timestamp
    have deposit_le := record.bounded.deposit_le
    exact ⟨by omega, by omega⟩
  have passes : ¬ stream.Withholds env.timestamp amount :=
    not_or.mpr ⟨not_le.mpr positive, undusted⟩
  have able' : (s.drawn env stream amount).CanPayOut env amount :=
    able.of_same State.drawn_config State.drawn_balances
  exact ⟨_, runs_withdraw.mpr ⟨stream, drawable,
    Or.inr ⟨by rwa [payable], payable.symm, total, able'.transferAllowed positive.le, rfl⟩⟩⟩

theorem pays_of_withdraw (run : Runs (withdraw id) env s result s') :
    result = 0 ∧ s.SameButClock s' ∨
      ∃ stream, PaysThrough env .withdraw id stream stream.recipient result s s' := by
  rcases runs_withdraw.mp run with ⟨stream, drawable, ⟨-, rfl, rfl⟩ | ⟨pays, rfl, -, -, rfl⟩⟩
  · exact Or.inl ⟨rfl, s.accrualRead_eq stream env.timestamp⟩
  · rcases not_or.mp pays with ⟨payable, undusted⟩
    have spaced := drawable.spaced
    exact Or.inr ⟨stream,
      { stored := drawable.stored
        spaced := fun _ => by omega
        unfinished := drawable.unfinished
        unpaused := drawable.unpaused
        positive := not_le.mp payable
        earned := min_le_left _ _
        covered := min_le_right _ _
        undusted := fun _ => undusted
        expired := by rintro ⟨⟩
        result := ⟨_, s.reentrancyLock, rfl⟩ }⟩

theorem pays_of_withdrawTo (run : Runs (withdrawTo id destination) env s result s') :
    result = 0 ∧ s.SameButClock s' ∨
      ∃ stream, PaysThrough env .withdrawTo id stream destination result s s' := by
  simp only [withdrawTo, runs_bind, runs_requireNotGloballyPaused, runs_loadStream,
    runs_requireAuth, runs_ask, runs_rejectIf, and_assoc, exists_and_left, exists_eq_left,
    exists_const] at run
  rcases run with ⟨-, stream, stored, -, -, unfinished, unpaused, _, _, read, run⟩
  rcases (runs_calculateAccrued stored).mp read with ⟨-, rfl, rfl⟩
  rcases s.accrualRead_eq stream env.timestamp with ⟨noted, same⟩
  simp only [same, runs_bind, runs_plainI128, runs_tokenBalance, runs_ite, runs_pure,
    runs_saveStream, runs_reconcilePausedStreamCount, runs_reduceLiabilities, runs_pushToken,
    runs_publish, runs_publishCompletion, and_assoc, exists_and_left, exists_eq_left,
    exists_const] at run
  rcases run with ⟨-, -, ⟨-, rfl, rfl⟩ | ⟨payable, ⟨-, rfl, rfl⟩ | ⟨undusted, -, -, -, rfl, rfl⟩⟩⟩
  · exact Or.inl ⟨rfl, noted, rfl⟩
  · exact Or.inl ⟨rfl, noted, rfl⟩
  · exact Or.inr ⟨stream,
      { stored, unfinished, unpaused
        spaced := by rintro ⟨⟩
        positive := not_le.mp payable
        earned := min_le_left _ _
        covered := min_le_right _ _
        undusted := fun _ => undusted
        expired := by rintro ⟨⟩
        result := ⟨noted, s.reentrancyLock, rfl⟩ }⟩

/-- What a relayer must present to have a stream paid. -/
structure Delegated (env : Env) (s : State) (stream : Stream) (id recipientPublicKey nonce
    deadline : ℕ) (expectedMinimumAmount : ℤ) (signature : Bytes) : Prop where
  inTime : env.timestamp ≤ deadline
  current : nonce = s.delegatedWithdrawNonce stream.recipient
  key : stream.recipient = .account recipientPublicKey
  verified : env.ed25519Verify recipientPublicKey
    (delegatedMessage id nonce deadline expectedMinimumAmount) signature = true

/-- A relayed withdrawal pays what can be paid, whatever the dust threshold. -/
theorem delegatedWithdraw_cases {relayer : Address} {recipientPublicKey nonce deadline : ℕ}
    {expectedMinimumAmount : ℤ} {signature : Bytes}
    (run : Runs (delegatedWithdraw id relayer recipientPublicKey nonce deadline
      expectedMinimumAmount signature) env s result s') :
    ∃ stream, s.streams id = some stream ∧
      let payable := stream.payable env.timestamp (s.balances env.currentContractAddress)
      (payable ≤ 0 ∧ result = 0 ∧ s.SameButClock s' ∨
        result = payable ∧ expectedMinimumAmount ≤ result ∧
          PaysThrough env .delegatedWithdraw id stream stream.recipient result s s' ∧
          Delegated env s stream id recipientPublicKey nonce deadline expectedMinimumAmount
            signature) := by
  simp only [delegatedWithdraw, runs_bind, runs_requireNotGloballyPaused, runs_loadStream,
    runs_requireAuth, runs_ask, runs_peek, runs_requireWithdrawInterval, runs_rejectIf, and_assoc,
    exists_and_left, exists_eq_left, exists_const] at run
  rcases run with ⟨-, -, inTime, stream, stored, last, spaced, current, key, verified, unfinished,
    unpaused, _, _, read, run⟩
  rcases (runs_calculateAccrued stored).mp read with ⟨-, rfl, rfl⟩
  rcases s.accrualRead_eq stream env.timestamp with ⟨noted, same⟩
  simp only [same, runs_bind, runs_plainI128, runs_tokenBalance, runs_ite, runs_pure,
    runs_saveStream, runs_reconcilePausedStreamCount, runs_incrementDelegatedNonce,
    runs_pushToken, runs_publish, runs_publishCompletion, and_assoc, exists_and_left,
    exists_eq_left, exists_const] at run
  rcases run with ⟨-, -, enough, ⟨nothing, rfl, rfl⟩ | ⟨payable, -, -, -, -, rfl, rfl⟩⟩
  · exact ⟨stream, stored, Or.inl ⟨nothing, rfl, noted, rfl⟩⟩
  · refine ⟨stream, stored, Or.inr ⟨rfl, not_lt.mp enough, ?_, ?_⟩⟩
    · exact
        { stored, unfinished, unpaused
          spaced := fun _ => by omega
          positive := not_le.mp payable
          earned := min_le_left _ _
          covered := min_le_right _ _
          undusted := by rintro ⟨⟩
          expired := by rintro ⟨⟩
          result := ⟨noted, s.reentrancyLock, rfl⟩ }
    · exact ⟨not_lt.mp inTime, not_not.mp current, not_not.mp key, Bool.not_eq_false _ ▸ verified⟩

theorem pays_of_delegatedWithdraw {relayer : Address} {recipientPublicKey nonce deadline : ℕ}
    {expectedMinimumAmount : ℤ} {signature : Bytes}
    (run : Runs (delegatedWithdraw id relayer recipientPublicKey nonce deadline
      expectedMinimumAmount signature) env s result s') :
    result = 0 ∧ s.SameButClock s' ∨
      ∃ stream, PaysThrough env .delegatedWithdraw id stream stream.recipient result s s' ∧
        expectedMinimumAmount ≤ result ∧
        Delegated env s stream id recipientPublicKey nonce deadline expectedMinimumAmount
          signature := by
  rcases delegatedWithdraw_cases run with ⟨stream, -, ⟨-, rfl, same⟩ | ⟨-, enough, pays, given⟩⟩
  · exact Or.inl ⟨rfl, same⟩
  · exact Or.inr ⟨stream, pays, enough, given⟩

/-! ## Batches -/

/-- The payments of a batch, entry by entry; an entry may also be paid nothing. -/
inductive PaymentsOf (env : Env) (path : PayoutPath) : List (ℕ × Option Address) → State → State →
    Prop where
  | nil {s : State} : PaymentsOf env path [] s s
  | skip {s s' : State} {entry : ℕ × Option Address} {entries : List (ℕ × Option Address)}
      (rest : PaymentsOf env path entries s s') : PaymentsOf env path (entry :: entries) s s'
  | pay {s middle s' : State} {id : ℕ} {stream : Stream} {chosen : Option Address} {amount : ℤ}
      {entries : List (ℕ × Option Address)}
      (pays : PaysThrough env path id stream (chosen.getD stream.recipient) amount s middle)
      (rest : PaymentsOf env path entries middle s') :
      PaymentsOf env path ((id, chosen) :: entries) s s'

theorem paymentsOf_batchWithdrawLoop {recipient : Address} {ids : List ℕ} {contractBalance : ℤ}
    {results : List BatchWithdrawResult}
    (run : Runs (batchWithdrawLoop recipient env.timestamp ids contractBalance) env s results s')
    (left : contractBalance ≤ s.balances env.currentContractAddress) :
    PaymentsOf env .batchWithdraw (ids.map fun id => (id, none)) s s' := by
  induction ids generalizing s results contractBalance with
  | nil =>
      rcases runs_pure.mp run with ⟨-, rfl⟩
      exact .nil
  | cons id rest ih =>
      simp only [batchWithdrawLoop, runs_bind, runs_loadStream, runs_rejectIf, runs_ask,
        runs_requireWithdrawInterval, and_assoc, exists_and_left, exists_eq_left,
        exists_const] at run
      rcases run with ⟨stream, stored, -, last, spaced, unpaused, payable, middle, computed, run⟩
      have same := batchWithdrawable_state computed
      subst middle
      simp only [runs_ite, runs_bind, runs_plainI128, runs_saveStream,
        runs_reconcilePausedStreamCount, runs_reduceLiabilities, runs_pushToken, runs_publish,
        runs_publishCompletion, runs_pure, and_assoc, exists_and_left, exists_eq_left,
        exists_const] at run
      rcases run with ⟨positive, -, -, -, _, _, next, -, rfl⟩ | ⟨-, _, _, next, -, rfl⟩
      · have due := batchPays_of_runs computed positive
        rw [due.unfiltered] at next
        have within := due.within
        have pays : PaysThrough env .batchWithdraw id stream stream.recipient payable s
            (s.paid env .batchWithdraw id stream stream.recipient payable) :=
          { due with
            stored, unpaused
            spaced := fun _ => by omega
            covered := within.trans left
            undusted := fun _ => due.undusted
            expired := by rintro ⟨⟩
            result := ⟨s.lastAccrualLedgerTimestamp, s.reentrancyLock, rfl⟩ }
        have left : contractBalance - payable ≤
            movedBalances s.balances env.currentContractAddress stream.recipient payable
              env.currentContractAddress :=
          (sub_le_sub_right left _).trans (movedBalances_source due.positive.le)
        exact .pay pays (ih next left)
      · exact .skip (ih next left)

theorem paymentsOf_batchWithdrawToLoop {recipient : Address} {withdrawals : List WithdrawToParam}
    {contractBalance : ℤ} {results : List BatchWithdrawResult}
    (run : Runs (batchWithdrawToLoop recipient env.timestamp withdrawals contractBalance)
      env s results s')
    (left : contractBalance ≤ s.balances env.currentContractAddress) :
    PaymentsOf env .batchWithdrawTo
      (withdrawals.map fun param => (param.streamId, some param.destination)) s s' := by
  induction withdrawals generalizing s results contractBalance with
  | nil =>
      rcases runs_pure.mp run with ⟨-, rfl⟩
      exact .nil
  | cons param rest ih =>
      simp only [batchWithdrawToLoop, runs_bind, runs_loadStream, runs_rejectIf, and_assoc,
        exists_and_left, exists_eq_left, exists_const] at run
      rcases run with ⟨stream, stored, -, unpaused, payable, middle, computed, run⟩
      have same := batchWithdrawable_state computed
      subst middle
      simp only [runs_ite, runs_bind, runs_plainI128, runs_saveStream,
        runs_reconcilePausedStreamCount, runs_pushToken, runs_publish,
        runs_publishCompletion, runs_pure, and_assoc, exists_and_left, exists_eq_left,
        exists_const] at run
      rcases run with ⟨positive, -, -, -, _, _, next, -, rfl⟩ | ⟨-, _, _, next, -, rfl⟩
      · have due := batchPays_of_runs computed positive
        rw [due.unfiltered] at next
        have within := due.within
        have pays : PaysThrough env .batchWithdrawTo param.streamId stream param.destination
            payable s
            (s.paid env .batchWithdrawTo param.streamId stream param.destination payable) :=
          { due with
            stored, unpaused
            spaced := by rintro ⟨⟩
            covered := within.trans left
            undusted := fun _ => due.undusted
            expired := by rintro ⟨⟩
            result := ⟨s.lastAccrualLedgerTimestamp, s.reentrancyLock, rfl⟩ }
        have left : contractBalance - payable ≤
            movedBalances s.balances env.currentContractAddress param.destination payable
              env.currentContractAddress :=
          (sub_le_sub_right left _).trans (movedBalances_source due.positive.le)
        exact .pay pays (ih next left)
      · exact .skip (ih next left)

/-- A batch checks its caller and its list, reads the clock and goes through the list. -/
theorem runs_batchWithdraw {recipient : Address} {ids : List ℕ}
    {results : List BatchWithdrawResult} :
    Runs (batchWithdraw recipient ids) env s results s' ↔
      s.globalEmergencyPaused = false ∧ env.auth recipient = true ∧ ids.Nodup ∧
        s.config.isSome = true ∧ s.lastAccrualLedgerTimestamp.getD 0 ≤ env.timestamp ∧
        Runs (batchWithdrawLoop recipient env.timestamp ids
          (s.balances env.currentContractAddress)) env
          { s with lastAccrualLedgerTimestamp := some env.timestamp } results s' := by
  simp only [batchWithdraw, runs_bind, runs_requireNotGloballyPaused, runs_requireAuth,
    runs_rejectIf, runs_tokenBalance, runs_currentAccrualTimestamp, not_not, and_assoc,
    exists_and_left, exists_eq_left, exists_const]

/-- A batch reads the clock and then makes its payments. -/
theorem paymentsOf_batchWithdraw {recipient : Address} {ids : List ℕ}
    {results : List BatchWithdrawResult}
    (run : Runs (batchWithdraw recipient ids) env s results s') :
    ids.Nodup ∧ ∃ s₀, s.SameButClock s₀ ∧
      PaymentsOf env .batchWithdraw (ids.map fun id => (id, none)) s₀ s' := by
  rcases runs_batchWithdraw.mp run with ⟨-, -, unique, -, -, loop⟩
  exact ⟨unique, _, ⟨_, rfl⟩, paymentsOf_batchWithdrawLoop loop le_rfl⟩

theorem runs_checkDestinations {address : Address} {withdrawals : List WithdrawToParam}
    {done : Unit} (run : Runs (checkDestinations address withdrawals) env s done s') :
    s' = s ∧ (withdrawals.map WithdrawToParam.streamId).Nodup := by
  induction withdrawals with
  | nil => exact ⟨(runs_pure.mp run).2, List.nodup_nil⟩
  | cons param rest ih =>
      simp only [checkDestinations, runs_bind, runs_rejectIf, and_assoc, exists_and_left,
        exists_eq_left, exists_const] at run
      rcases run with ⟨-, unique, run⟩
      rcases ih run with ⟨same, nodup⟩
      refine ⟨same, List.nodup_cons.mpr ⟨?_, nodup⟩⟩
      intro member
      rcases List.mem_map.mp member with ⟨other, otherMem, sameId⟩
      exact unique ⟨other, otherMem, sameId.symm⟩

theorem paymentsOf_batchWithdrawTo {recipient : Address} {withdrawals : List WithdrawToParam}
    {results : List BatchWithdrawResult}
    (run : Runs (batchWithdrawTo recipient withdrawals) env s results s') :
    (withdrawals.map WithdrawToParam.streamId).Nodup ∧ ∃ s₀, s.SameButClock s₀ ∧
      PaymentsOf env .batchWithdrawTo
        (withdrawals.map fun param => (param.streamId, some param.destination)) s₀ s' := by
  simp only [batchWithdrawTo, runs_bind, runs_requireNotGloballyPaused, runs_requireAuth,
    runs_ask, runs_tokenBalance, runs_currentAccrualTimestamp, and_assoc, exists_and_left,
    exists_eq_left, exists_const] at run
  rcases run with ⟨-, -, _, _, checked, -, -, run⟩
  rcases runs_checkDestinations checked with ⟨rfl, unique⟩
  exact ⟨unique, _, ⟨_, rfl⟩, paymentsOf_batchWithdrawToLoop run le_rfl⟩

/-! ## Auto-claim -/

/-- A live stream is completed by an auto-claim exactly when it is drained. -/
theorem autoClaimedTo_eq (live : stream.Live) {withdrawnAmount : ℤ}
    (covered : withdrawnAmount ≤ stream.depositAmount) :
    stream.autoClaimedTo withdrawnAmount =
      (stream.withdrawnTo withdrawnAmount).notedAt stream.lastWithdrawLedger := by
  have drained : stream.depositAmount ≤ withdrawnAmount ↔
      stream.Live ∧ withdrawnAmount = stream.depositAmount :=
    ⟨fun reached => ⟨live, le_antisymm covered reached⟩, fun ⟨_, same⟩ => same.ge⟩
  have status : (if stream.depositAmount ≤ withdrawnAmount then StreamStatus.completed
      else stream.status) = (stream.withdrawnTo withdrawnAmount).status := by
    rw [Stream.withdrawnTo_status]
    simp only [drained]
  unfold Stream.autoClaimedTo
  rw [status]
  rfl

/-- A payment on a live stream announces its completion when it drains the stream. -/
theorem Stream.Live.completionEvents_eq (live : stream.Live) {ledger : ℕ} :
    completionEvents stream (stream.paid path amount ledger) =
      if (stream.paid path amount ledger).status = .completed then [.completed stream.streamId]
      else [] := by
  have status : (stream.paid path amount ledger).status =
      if stream.Live ∧ stream.withdrawnAmount + amount = stream.depositAmount then .completed
      else stream.status := rfl
  unfold completionEvents
  rw [status]
  by_cases drained : stream.Live ∧ stream.withdrawnAmount + amount = stream.depositAmount
  · rw [if_pos drained, if_neg live.not_completed.symm, if_pos rfl]
    rfl
  · rw [if_neg drained, if_pos rfl, if_neg live.not_completed]

/-- What an auto-claim of `amount` to `destination` rests on. -/
structure AutoClaimable (env : Env) (s : State) (id : ℕ) (stream : Stream) (destination : Address)
    (amount : ℤ) : Prop where
  running : s.globalEmergencyPaused = false
  configured : s.config.isSome = true
  stored : s.streams id = some stream
  live : stream.Live
  noted : s.lastAccrualLedgerTimestamp.getD 0 ≤ env.timestamp
  expired : stream.endTime ≤ env.timestamp
  chosen : s.autoClaimDestination id = some destination
  elsewhere : destination ≠ env.currentContractAddress
  unlocked : s.reentrancyLock = false
  claimable : stream.claimable env.timestamp = amount
  positive : 0 < amount

/-- The state in which `triggerAutoClaim` asks the token for the payment. -/
def State.claimed (s : State) (env : Env) (id : ℕ) (stream : Stream) (destination : Address)
    (amount : ℤ) : State :=
  let after := stream.paid .autoClaim amount env.sequence
  { s with
    lastAccrualLedgerTimestamp := some env.timestamp
    reentrancyLock := true
    streams := Function.update s.streams stream.streamId (some after)
    pausedStreamCount := reconciledCount stream.status after.status s.pausedStreamCount
    events := s.events ++ PayoutPath.autoClaim.events stream id destination amount ++
      completionEvents stream after }

/-- The record an auto-claim writes is that of any payment. -/
theorem Stream.Live.autoClaimedTo_claimable {now timestamp : ℕ} (live : stream.Live)
    (record : stream.WellFormed id now) (something : stream.claimable timestamp ≠ 0)
    (ledger : ℕ) :
    stream.autoClaimedTo
        ((i128.check (stream.withdrawnAmount + stream.claimable timestamp)).getD i128.upper) =
      stream.paid .autoClaim (stream.claimable timestamp) ledger := by
  have claimable := record.claimable_eq timestamp
  have covered := record.bounded.accruedAt_le_deposit timestamp
  rw [record.check_withdrawn, Option.getD_some]
  exact autoClaimedTo_eq live (by omega)

/-- The events of an auto-claim, with that of the completion. -/
theorem Stream.Live.autoClaim_events {now ledger : ℕ} (live : stream.Live)
    (record : stream.WellFormed id now) {events : List Event} :
    events ++ [.acTrig id destination amount] ++
        [.withdrewTo id stream.recipient destination amount] ++
        (if (stream.paid .autoClaim amount ledger).status = .completed then [.completed id]
          else []) =
      events ++ PayoutPath.autoClaim.events stream id destination amount ++
        completionEvents stream (stream.paid .autoClaim amount ledger) := by
  rw [live.completionEvents_eq, record.streamId, List.append_assoc events]
  rfl

/-- What an auto-claim rests on and what it does. -/
theorem claims_of_triggerAutoClaim {now : ℕ} (run : Runs (triggerAutoClaim id) env s amount s')
    (records : ∀ stream, s.streams id = some stream → stream.WellFormed id now) :
    amount = 0 ∧ s.SameButClock s' ∨
      ∃ stream destination, AutoClaimable env s id stream destination amount ∧
        TransferAllowed env (s.claimed env id stream destination amount)
          env.currentContractAddress destination amount ∧
        s' = { s.paid env .autoClaim id stream destination amount with
          lastAccrualLedgerTimestamp := some env.timestamp, reentrancyLock := false } := by
  simp only [triggerAutoClaim, runs_bind, runs_requireNotGloballyPaused, runs_loadStream,
    runs_rejectIf, runs_currentAccrualTimestamp, runs_peek, runs_getOrReject, isValidDestination,
    runs_ask, ↓runs_publishIf, runs_ite, runs_pure, runs_saveStream,
    runs_reconcilePausedStreamCount, runs_publish, runs_acquireReentrancyLock, runs_pushToken,
    runs_releaseReentrancyLock, State.pushed, and_assoc, exists_and_left, exists_eq_left,
    exists_const] at run
  rcases run with
    ⟨running, stream, stored, open_, noted, expired, destination, chosen, elsewhere, outcome⟩
  rcases outcome with ⟨-, rfl, rfl⟩ | ⟨something, unlocked, configured, allowed, rfl, rfl⟩
  · exact Or.inl ⟨rfl, _, rfl⟩
  · have record := records stream stored
    have live : stream.Live := Stream.live_iff.mpr (not_or.mp open_)
    have claimable := record.claimable_eq env.timestamp
    rw [live.autoClaimedTo_claimable record something env.sequence,
      live.autoClaim_events record] at allowed
    rw [live.autoClaimedTo_claimable record something env.sequence, live.autoClaim_events record]
    refine Or.inr ⟨stream, destination, ?_, allowed, rfl⟩
    exact
      { running, configured, stored, live, noted, chosen, unlocked
        expired := not_lt.mp expired
        elsewhere := by simpa using elsewhere
        claimable := rfl
        positive := by omega }

/-- An auto-claim that the token pays. -/
theorem AutoClaimable.runs {now : ℕ} (claims : AutoClaimable env s id stream destination amount)
    (record : stream.WellFormed id now)
    (allowed : TransferAllowed env (s.claimed env id stream destination amount)
      env.currentContractAddress destination amount) :
    Runs (triggerAutoClaim id) env s amount
      { s.paid env .autoClaim id stream destination amount with
        lastAccrualLedgerTimestamp := some env.timestamp, reentrancyLock := false } := by
  have live := claims.live
  have something : stream.claimable env.timestamp ≠ 0 := claims.claimable ▸ claims.positive.ne'
  have after := live.autoClaimedTo_claimable record something env.sequence
  rw [claims.claimable] at after something
  simp only [triggerAutoClaim, runs_bind, runs_requireNotGloballyPaused, runs_loadStream,
    runs_rejectIf, runs_currentAccrualTimestamp, runs_peek, runs_getOrReject, isValidDestination,
    runs_ask, ↓runs_publishIf, runs_ite, runs_pure, runs_saveStream,
    runs_reconcilePausedStreamCount, runs_publish, runs_acquireReentrancyLock, runs_pushToken,
    runs_releaseReentrancyLock, State.pushed, and_assoc, exists_and_left, exists_eq_left,
    exists_const]
  refine ⟨claims.running, stream, claims.stored, not_or.mpr (Stream.live_iff.mp live),
    claims.noted, not_lt.mpr claims.expired, destination, claims.chosen,
    by simpa using claims.elsewhere, ?_⟩
  rw [claims.claimable, after, live.autoClaim_events record]
  exact Or.inr ⟨something, claims.unlocked, claims.configured, allowed, rfl, rfl⟩

/-- An auto-claim that pays something pays what is claimable to the destination that was set. -/
theorem autoClaimable_of_runs {now : ℕ} (run : Runs (triggerAutoClaim id) env s amount s')
    (records : ∀ stream, s.streams id = some stream → stream.WellFormed id now)
    (paid : amount ≠ 0) :
    ∃ stream destination, AutoClaimable env s id stream destination amount ∧
      s'.balances = movedBalances s.balances env.currentContractAddress destination amount := by
  rcases claims_of_triggerAutoClaim run records with
    ⟨nothing, -⟩ | ⟨stream, destination, claims, -, rfl⟩
  · exact absurd nothing paid
  · exact ⟨stream, destination, claims, rfl⟩

theorem pays_of_triggerAutoClaim {now : ℕ} (run : Runs (triggerAutoClaim id) env s result s')
    (records : ∀ stream, s.streams id = some stream → stream.WellFormed id now) :
    result = 0 ∧ s.SameButClock s' ∨
      ∃ stream destination, s.autoClaimDestination id = some destination ∧
        PaysThrough env .autoClaim id stream destination result s s' := by
  refine (claims_of_triggerAutoClaim run records).imp_right ?_
  rintro ⟨stream, destination, claims, allowed, same⟩
  have live := claims.live
  have claimable := (records stream claims.stored).claimable_eq env.timestamp
  have entitled := live.entitlement env.timestamp
  have amount_eq := claims.claimable
  have positive := claims.positive
  refine ⟨stream, destination, claims.chosen, ?_⟩
  exact
    { positive
      stored := claims.stored
      spaced := by rintro ⟨⟩
      unfinished := live.not_completed
      unpaused := fun paused => paused.2 (Or.inr (Or.inr claims.expired))
      earned := by omega
      covered := allowed.covered
      undusted := by rintro ⟨⟩
      expired := fun _ => ⟨live, claims.expired⟩
      result := ⟨_, _, same⟩ }

/-! ## Calls -/

/-- The path and the streams of a payment entrypoint. -/
def Call.payments : Call → Option (PayoutPath × List ℕ)
  | withdraw streamId => some (.withdraw, [streamId])
  | withdrawTo streamId _ => some (.withdrawTo, [streamId])
  | batchWithdraw _ streamIds => some (.batchWithdraw, streamIds)
  | batchWithdrawTo _ withdrawals =>
      some (.batchWithdrawTo, withdrawals.map WithdrawToParam.streamId)
  | delegatedWithdraw streamId _ _ _ _ _ _ => some (.delegatedWithdraw, [streamId])
  | triggerAutoClaim streamId => some (.autoClaim, [streamId])
  | _ => none

/-- A call of a payment entrypoint reads the clock and makes payments on its streams. -/
structure PaysStreams (env : Env) (path : PayoutPath) (ids : List ℕ) (s s' : State) : Prop where
  nodup : ids.Nodup
  payments : ∃ entries s₀, entries.map Prod.fst = ids ∧ s.SameButClock s₀ ∧
    PaymentsOf env path entries s₀ s'

theorem PaysStreams.single
    (outcome : result = 0 ∧ s.SameButClock s' ∨
      ∃ stream destination, PaysThrough env path id stream destination result s s') :
    PaysStreams env path [id] s s' := by
  refine ⟨List.nodup_singleton id, ?_⟩
  rcases outcome with ⟨_, same⟩ | ⟨stream, destination, pays⟩
  · exact ⟨[(id, none)], s', rfl, same, .skip .nil⟩
  · exact ⟨[(id, some destination)], s, rfl, ⟨_, rfl⟩, .pay pays .nil⟩

/-- Every successful call of a payment entrypoint does. -/
theorem Call.paysStreams {call : Call} {ids : List ℕ} {now : ℕ}
    (run : Runs call.run env s () s') (paying : call.payments = some (path, ids))
    (records : ∀ id stream, s.streams id = some stream → stream.WellFormed id now) :
    PaysStreams env path ids s s' := by
  cases call <;> simp only [payments, reduceCtorEq, Option.some.injEq, Prod.mk.injEq] at paying
  case withdraw streamId =>
    rcases paying with ⟨rfl, rfl⟩
    rcases runs_effect.mp run with ⟨amount, run⟩
    refine .single ((pays_of_withdraw run).imp_right ?_)
    rintro ⟨stream, pays⟩
    exact ⟨stream, _, pays⟩
  case withdrawTo streamId destination =>
    rcases paying with ⟨rfl, rfl⟩
    rcases runs_effect.mp run with ⟨amount, run⟩
    refine .single ((pays_of_withdrawTo run).imp_right ?_)
    rintro ⟨stream, pays⟩
    exact ⟨stream, _, pays⟩
  case batchWithdraw recipient streamIds =>
    rcases paying with ⟨rfl, rfl⟩
    rcases runs_effect.mp run with ⟨results, run⟩
    rcases paymentsOf_batchWithdraw run with ⟨nodup, s₀, read, payments⟩
    refine ⟨nodup, _, s₀, ?_, read, payments⟩
    rw [List.map_map]
    exact List.map_id _
  case batchWithdrawTo recipient withdrawals =>
    rcases paying with ⟨rfl, rfl⟩
    rcases runs_effect.mp run with ⟨results, run⟩
    rcases paymentsOf_batchWithdrawTo run with ⟨nodup, s₀, read, payments⟩
    refine ⟨nodup, _, s₀, ?_, read, payments⟩
    rw [List.map_map]
    rfl
  case delegatedWithdraw streamId relayer recipientPublicKey nonce deadline expectedMinimumAmount
    signature =>
    rcases paying with ⟨rfl, rfl⟩
    rcases runs_effect.mp run with ⟨amount, run⟩
    refine .single ((pays_of_delegatedWithdraw run).imp_right ?_)
    rintro ⟨stream, pays, _, _⟩
    exact ⟨stream, _, pays⟩
  case triggerAutoClaim streamId =>
    rcases paying with ⟨rfl, rfl⟩
    rcases runs_effect.mp run with ⟨amount, run⟩
    refine .single ((pays_of_triggerAutoClaim run (records streamId)).imp_right ?_)
    rintro ⟨stream, destination, _, pays⟩
    exact ⟨stream, destination, pays⟩

end Wallie.StreamContract
