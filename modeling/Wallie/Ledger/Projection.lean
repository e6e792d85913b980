import Wallie.Ledger.BookInvariant
import Wallie.StreamContract.TokenRules
import Mathlib.Algebra.BigOperators.Group.List.Basic

/-!
# The book of a state

What the storage, the token and the logs of the contract say about its
accounting. Deposits are read off the published events and payments off the
payout log. A change of the state that touches one stream moves the book as the
corresponding action does.
-/

namespace Wallie.StreamContract

open Fallible

/-- The sum of the amounts recorded for key `id`. -/
def sumFor (id : ℕ) (entries : List (ℕ × ℤ)) : ℤ :=
  (entries.map fun entry => if entry.1 = id then entry.2 else 0).sum

@[simp]
theorem sumFor_nil (id : ℕ) : sumFor id [] = 0 := rfl

@[simp]
theorem sumFor_append (id : ℕ) (entries entries' : List (ℕ × ℤ)) :
    sumFor id (entries ++ entries') = sumFor id entries + sumFor id entries' := by
  simp [sumFor]

@[simp]
theorem sumFor_cons (id key : ℕ) (amount : ℤ) (entries : List (ℕ × ℤ)) :
    sumFor id ((key, amount) :: entries) =
      (if key = id then amount else 0) + sumFor id entries := by
  simp [sumFor]

/-- The deposit an event records: the stream it is for and the amount. -/
def Event.funding : Event → Option (ℕ × ℤ)
  | .created streamId _ _ depositAmount _ _ _ _ _ _ _ => some (streamId, depositAmount)
  | .topUp streamId topUpAmount _ _ => some (streamId, topUpAmount)
  | _ => none

/-- The part of a payment of this kind that a keeper makes to the recipient. -/
def PayoutKind.settled (kind : PayoutKind) (amount : ℤ) : ℤ :=
  if kind = .keeperSettlement then amount else 0

namespace State

def fundings (s : State) : List (ℕ × ℤ) :=
  s.events.filterMap Event.funding

def payments (s : State) : List (ℕ × ℤ) :=
  s.payouts.map fun payout => (payout.streamId, payout.amount)

/-- The payments that keepers made to recipients. -/
def settlements (s : State) : List (ℕ × ℤ) :=
  s.payouts.filterMap fun payout =>
    if payout.kind = .keeperSettlement then some (payout.streamId, payout.amount) else none

/-- What was ever deposited for stream `id`: at its creation and by top-ups. -/
def deposited (s : State) (id : ℕ) : ℤ :=
  sumFor id s.fundings

/-- What was ever deposited for any stream. -/
def totalDeposited (s : State) : ℤ :=
  (s.fundings.map Prod.snd).sum

/-- What was ever paid out on account of stream `id`, to anyone. -/
def paidOut (s : State) (id : ℕ) : ℤ :=
  sumFor id s.payments

/-- What keepers paid to the recipient of stream `id` when they cancelled it. -/
def settledByKeeper (s : State) (id : ℕ) : ℤ :=
  sumFor id s.settlements

def book (address : Address) (s : State) : Book where
  initialised := s.config.isSome
  streams := s.streams
  nextStreamId := s.nextStreamId
  idReservation := s.idReservation
  totalLiabilities := s.totalLiabilities
  pausedStreamCount := s.pausedStreamCount
  vault := s.balances address
  deposited := s.deposited
  paidOut := s.paidOut
  settledByKeeper := s.settledByKeeper
  totalDeposited := s.totalDeposited

variable {address : Address} {s s' : State} {id : ℕ}

/-- The accounting of two states agrees, up to the tokens the contract holds. -/
structure SameAccounts (s s' : State) : Prop where
  initialised : s'.config.isSome = s.config.isSome
  streams : s'.streams = s.streams
  nextStreamId : s'.nextStreamId = s.nextStreamId
  idReservation : s'.idReservation = s.idReservation
  totalLiabilities : s'.totalLiabilities = s.totalLiabilities
  pausedStreamCount : s'.pausedStreamCount = s.pausedStreamCount
  fundings : s'.fundings = s.fundings
  payments : s'.payments = s.payments
  settlements : s'.settlements = s.settlements

theorem SameAccounts.refl (s : State) : SameAccounts s s :=
  ⟨rfl, rfl, rfl, rfl, rfl, rfl, rfl, rfl, rfl⟩

theorem SameAccounts.trans {middle : State} (first : SameAccounts s middle)
    (second : SameAccounts middle s') : SameAccounts s s' where
  initialised := second.initialised.trans first.initialised
  streams := second.streams.trans first.streams
  nextStreamId := second.nextStreamId.trans first.nextStreamId
  idReservation := second.idReservation.trans first.idReservation
  totalLiabilities := second.totalLiabilities.trans first.totalLiabilities
  pausedStreamCount := second.pausedStreamCount.trans first.pausedStreamCount
  fundings := second.fundings.trans first.fundings
  payments := second.payments.trans first.payments
  settlements := second.settlements.trans first.settlements

theorem SameAccounts.book (same : SameAccounts s s') :
    s'.book address = { s.book address with vault := s'.balances address } := by
  rcases same with
    ⟨initialised, streams, next, reservations, liabilities, paused, fundings, payments, settlements⟩
  have deposited : s'.deposited = s.deposited := by
    funext key
    rw [State.deposited, fundings, State.deposited]
  have paidOut : s'.paidOut = s.paidOut := by
    funext key
    rw [State.paidOut, payments, State.paidOut]
  have settled : s'.settledByKeeper = s.settledByKeeper := by
    funext key
    rw [State.settledByKeeper, settlements, State.settledByKeeper]
  have total : s'.totalDeposited = s.totalDeposited := by
    rw [State.totalDeposited, fundings, State.totalDeposited]
  simp only [State.book, initialised, streams, next, reservations, liabilities, paused,
    deposited, paidOut, settled, total]

/-- Nothing the book shows has changed. -/
theorem SameAccounts.book_eq (same : SameAccounts s s')
    (balances : s'.balances address = s.balances address) :
    s'.book address = s.book address := by
  rw [same.book, balances]
  rfl

/-- The state changes as a move of stream `id` says. -/
structure MovedBy (s s' : State) (id : ℕ) (stream stream' : Stream) (move : Move) : Prop where
  initialised : s'.config.isSome = s.config.isSome
  streams : s'.streams = Function.update s.streams id (some stream')
  nextStreamId : s'.nextStreamId = s.nextStreamId
  idReservation : s'.idReservation = s.idReservation
  totalLiabilities : s'.totalLiabilities = move.liabilities s.totalLiabilities
  pausedStreamCount :
    s'.pausedStreamCount = reconciledCount stream.status stream'.status s.pausedStreamCount
  deposited : ∀ key, s'.deposited key = s.deposited key + if id = key then move.received else 0
  paidOut : ∀ key, s'.paidOut key = s.paidOut key + if id = key then move.paid else 0
  settledByKeeper : ∀ key,
    s'.settledByKeeper key = s.settledByKeeper key + if id = key then move.settledByKeeper else 0
  totalDeposited : s'.totalDeposited = s.totalDeposited + move.received

theorem update_add {before after : ℕ → ℤ} {amount : ℤ}
    (added : ∀ key, after key = before key + if id = key then amount else 0) :
    after = Function.update before id (before id + amount) := by
  funext key
  rw [added]
  rcases eq_or_ne id key with rfl | other
  · simp
  · rw [if_neg other, Function.update_of_ne other.symm, add_zero]

theorem MovedBy.book {stream stream' : Stream} {move : Move}
    (moved : MovedBy s s' id stream stream' move) :
    s'.book address = (s.book address).moved id stream stream' move (s'.balances address) := by
  unfold State.book Book.moved
  simp only [moved.initialised, moved.streams, moved.nextStreamId, moved.idReservation,
    moved.totalLiabilities, moved.pausedStreamCount, moved.totalDeposited,
    update_add moved.deposited, update_add moved.paidOut, update_add moved.settledByKeeper]

/-- A state that changes as a move says takes one step of the book. -/
theorem MovedBy.steps {now : ℕ} {stream stream' : Stream} {move : Move}
    (moved : MovedBy s s' id stream stream' move) (stored : s.streams id = some stream)
    (moves : stream.Moves now move stream')
    (covered : ∀ path amount, move = .withdraw path amount → amount ≤ s.balances address)
    (funded : s.balances address + move.received - move.paid ≤ s'.balances address) :
    Book.Steps now (s.book address) (.change id move) (s'.book address) := by
  rw [moved.book]
  exact .change stored moves covered funded

end State

/-- What an invocation does to the book is a run of permitted actions at its timestamp. A stream
is changed at most once, in the record the invocation found. -/
def Refines (env : Env) (permits : Action → Prop) (s s' : State) : Prop :=
  Book.Run env.timestamp
    (fun book action => permits action ∧ action.ActsOn (s.book env.currentContractAddress) book)
    (s.book env.currentContractAddress) (s'.book env.currentContractAddress)

namespace Refines

variable {env : Env} {permits permits' : Action → Prop} {s middle s' : State} {action : Action}

theorem refl (s : State) : Refines env permits s s :=
  LabelledRun.Run.refl _

theorem of_book_eq
    (same : s'.book env.currentContractAddress = s.book env.currentContractAddress) :
    Refines env permits s s' := by
  unfold Refines
  rw [same]
  exact LabelledRun.Run.refl _

/-- A refinement is about the books only. -/
theorem congr {start final : State} (refines : Refines env permits s s')
    (starts : start.book env.currentContractAddress = s.book env.currentContractAddress)
    (ends : final.book env.currentContractAddress = s'.book env.currentContractAddress) :
    Refines env permits start final := by
  unfold Refines
  rwa [starts, ends]

theorem single (permitted : permits action)
    (step : Book.Steps env.timestamp (s.book env.currentContractAddress) action
      (s'.book env.currentContractAddress)) : Refines env permits s s' :=
  LabelledRun.Run.single ⟨permitted, action.actsOn_self _⟩ step

theorem mono (refines : Refines env permits s s')
    (weaker : ∀ action, permits action → permits' action) : Refines env permits' s s' :=
  LabelledRun.Run.mono refines fun _ action allowed => ⟨weaker action allowed.1, allowed.2⟩

/-- A first part, then the rest, which finds no stored stream. -/
theorem append (first : Refines env permits s middle) (rest : Refines env permits' middle s')
    (weaker : ∀ action, permits' action → permits action)
    (free : ∀ action found book, permits' action → action.ActsOn found book) :
    Refines env permits s s' := by
  refine LabelledRun.Run.trans first (LabelledRun.Run.mono rest ?_)
  rintro book action ⟨permitted, _⟩
  exact ⟨weaker action permitted, free action _ _ permitted⟩

/-- A change of one stream, then the rest, which changes other streams. -/
theorem cons {id : ℕ} {move : Move} (permitted : permits (.change id move))
    (step : Book.Steps env.timestamp (s.book env.currentContractAddress) (.change id move)
      (middle.book env.currentContractAddress)) (rest : Refines env permits' middle s')
    (weaker : ∀ action, permits' action → permits action)
    (others : ∀ action, permits' action → ∃ other move, action = .change other move ∧ other ≠ id) :
    Refines env permits s s' := by
  refine LabelledRun.Run.trans (single permitted step) (LabelledRun.Run.mono rest ?_)
  rintro book action ⟨permitted', acts⟩
  refine ⟨weaker action permitted', ?_⟩
  rcases others action permitted' with ⟨other, move, rfl, distinct⟩
  have untouched := step.agrees distinct
  have found : (middle.book env.currentContractAddress).Agrees book other := acts
  exact ⟨found.streams.trans untouched.streams,
    found.settledByKeeper.trans untouched.settledByKeeper⟩

end Refines

/-- A change of stream `id` by a move that `shape` describes. -/
@[simp]
def Changes (shape : Move → Prop) (id : ℕ) (action : Action) : Prop :=
  ∃ move, shape move ∧ action = .change id move

/-- A change of one of the streams `ids`. -/
@[simp]
def ChangesOneOf (shape : Move → Prop) (ids : List ℕ) (action : Action) : Prop :=
  ∃ id ∈ ids, Changes shape id action

/-- What an invocation does to the book is one change of stream `id`, as `shape` describes. -/
def Performs (env : Env) (shape : Move → Prop) (id : ℕ) (s s' : State) : Prop :=
  ∃ move, shape move ∧ Book.Steps env.timestamp (s.book env.currentContractAddress)
    (.change id move) (s'.book env.currentContractAddress)

namespace Performs

variable {env : Env} {shape : Move → Prop} {id : ℕ} {s s' : State}

theorem refines (performs : Performs env shape id s s') : Refines env (Changes shape id) s s' := by
  rcases performs with ⟨move, shaped, step⟩
  exact .single ⟨move, shaped, rfl⟩ step

/-- The record of the stream before and after. -/
theorem moves (performs : Performs env shape id s s') :
    ∃ move stream stream', shape move ∧ s.streams id = some stream ∧
      stream.Moves env.timestamp move stream' ∧ s'.streams id = some stream' := by
  rcases performs with ⟨move, shaped, step⟩
  rcases step.moves with ⟨stream, stream', stored, moves, stored'⟩
  exact ⟨move, stream, stream', shaped, stored, moves, stored'⟩

end Performs

namespace ChangesOneOf

variable {shape : Move → Prop} {ids : List ℕ} {id : ℕ} {action : Action}

theorem head (changes : Changes shape id action) : ChangesOneOf shape (id :: ids) action :=
  ⟨id, List.mem_cons_self, changes⟩

theorem tail (changes : ChangesOneOf shape ids action) :
    ChangesOneOf shape (id :: ids) action := by
  rcases changes with ⟨key, member, changes⟩
  exact ⟨key, List.mem_cons_of_mem _ member, changes⟩

/-- A batch that is done with stream `id` goes on with other streams. -/
theorem others (nodup : (id :: ids).Nodup) (action : Action)
    (changes : ChangesOneOf shape ids action) :
    ∃ other move, action = .change other move ∧ other ≠ id := by
  rcases changes with ⟨other, member, move, _, rfl⟩
  refine ⟨other, move, rfl, ?_⟩
  rintro rfl
  exact (List.nodup_cons.mp nodup).1 member

end ChangesOneOf

/-! ## Payments -/

namespace State

variable {env : Env} {address destination : Address} {s middle s' : State} {id : ℕ}
  {amount amount' settled settled' : ℤ} {kind : PayoutKind} {done : Unit}

/-- Between two states `amount` is paid out on account of stream `id`, `settled` of it by a
keeper to the recipient, and nothing else changes in the book. -/
structure Pays (address : Address) (s s' : State) (id : ℕ) (amount settled : ℤ) : Prop where
  initialised : s'.config.isSome = s.config.isSome
  streams : s'.streams = s.streams
  nextStreamId : s'.nextStreamId = s.nextStreamId
  idReservation : s'.idReservation = s.idReservation
  totalLiabilities : s'.totalLiabilities = s.totalLiabilities
  pausedStreamCount : s'.pausedStreamCount = s.pausedStreamCount
  fundings : s'.fundings = s.fundings
  paidOut : ∀ key, s'.paidOut key = s.paidOut key + if id = key then amount else 0
  settledByKeeper : ∀ key,
    s'.settledByKeeper key = s.settledByKeeper key + if id = key then settled else 0
  funded : s.balances address - amount ≤ s'.balances address

theorem SameAccounts.pays (same : SameAccounts s s')
    (balances : s'.balances address = s.balances address) : Pays address s s' id 0 0 where
  initialised := same.initialised
  streams := same.streams
  nextStreamId := same.nextStreamId
  idReservation := same.idReservation
  totalLiabilities := same.totalLiabilities
  pausedStreamCount := same.pausedStreamCount
  fundings := same.fundings
  paidOut := by simp [State.paidOut, same.payments]
  settledByKeeper := by simp [State.settledByKeeper, same.settlements]
  funded := by rw [balances, sub_zero]

theorem Pays.trans (first : Pays address s middle id amount settled)
    (second : Pays address middle s' id amount' settled') :
    Pays address s s' id (amount + amount') (settled + settled') where
  initialised := second.initialised.trans first.initialised
  streams := second.streams.trans first.streams
  nextStreamId := second.nextStreamId.trans first.nextStreamId
  idReservation := second.idReservation.trans first.idReservation
  totalLiabilities := second.totalLiabilities.trans first.totalLiabilities
  pausedStreamCount := second.pausedStreamCount.trans first.pausedStreamCount
  fundings := second.fundings.trans first.fundings
  paidOut := by
    intro key
    rw [second.paidOut, first.paidOut]
    split <;> ring
  settledByKeeper := by
    intro key
    rw [second.settledByKeeper, first.settledByKeeper]
    split <;> ring
  funded := by
    have first := first.funded
    have second := second.funded
    omega

theorem Pays.of_eq (pays : Pays address s s' id amount settled) (amounts : amount = amount')
    (settlements : settled = settled') : Pays address s s' id amount' settled' := by
  rwa [← amounts, ← settlements]

theorem Pays.followed (pays : Pays address s middle id amount settled)
    (same : SameAccounts middle s') (balances : s'.balances address = middle.balances address) :
    Pays address s s' id amount settled := by
  simpa using pays.trans (same.pays balances)

theorem Pays.refl (s : State) : Pays address s s id 0 0 :=
  (SameAccounts.refl s).pays rfl

/-- Publishing events that record no deposit leaves the accounts alone. -/
theorem sameAccounts_of_events {events : List Event}
    (quiet : events.filterMap Event.funding = s.fundings) : SameAccounts s { s with events } :=
  ⟨rfl, rfl, rfl, rfl, rfl, rfl, quiet, rfl, rfl⟩

theorem pays_of_pushed (kind : PayoutKind) (nonneg : 0 ≤ amount) :
    Pays env.currentContractAddress s (s.pushed env destination amount [⟨id, kind, amount⟩]) id
      amount (kind.settled amount) where
  initialised := rfl
  streams := rfl
  nextStreamId := rfl
  idReservation := rfl
  totalLiabilities := rfl
  pausedStreamCount := rfl
  fundings := rfl
  paidOut := by simp [State.paidOut, payments, pushed, payoutsOf]
  settledByKeeper := by
    intro key
    by_cases settles : kind = .keeperSettlement
    · simp [State.settledByKeeper, settlements, pushed, payoutsOf, PayoutKind.settled, settles]
    · simp [State.settledByKeeper, settlements, pushed, payoutsOf, PayoutKind.settled, settles]
  funded := movedBalances_source nonneg

theorem pays_of_pushPositive (nonneg : 0 ≤ amount)
    (run : Runs (pushPositive destination amount id kind) env s done s') :
    Pays env.currentContractAddress s s' id amount (kind.settled amount) := by
  unfold pushPositive at run
  split at run
  · rcases runs_pushToken.mp run with ⟨-, rfl⟩
    exact pays_of_pushed kind nonneg
  · next nothing =>
      rcases runs_pure.mp run with ⟨-, rfl⟩
      obtain rfl : amount = 0 := by omega
      have settled : kind.settled 0 = 0 := ite_self 0
      rw [settled]
      exact Pays.refl _

/-- The state with the record of stream `id` and the counters written for a move, and nothing
paid yet. -/
structure Written (address : Address) (s s' : State) (stream stream' : Stream) (move : Move) :
    Prop where
  initialised : s'.config.isSome = s.config.isSome
  streams : s'.streams = Function.update s.streams stream.streamId (some stream')
  nextStreamId : s'.nextStreamId = s.nextStreamId
  idReservation : s'.idReservation = s.idReservation
  totalLiabilities : s'.totalLiabilities = move.liabilities s.totalLiabilities
  pausedStreamCount :
    s'.pausedStreamCount = reconciledCount stream.status stream'.status s.pausedStreamCount
  fundings : s'.fundings = s.fundings
  payments : s'.payments = s.payments
  settlements : s'.settlements = s.settlements
  balances : s'.balances address = s.balances address

/-- Writing the record and the counters for a move and paying what it pays is one step. -/
theorem Written.steps {stream stream' : Stream} {move : Move} {now : ℕ}
    (written : Written address s middle stream stream' move)
    (pays : Pays address middle s' id move.paid move.settledByKeeper)
    (formed : stream.WellFormed id now) (stored : s.streams id = some stream)
    (moves : stream.Moves now move stream') (received : move.received = 0)
    (covered : ∀ path amount, move = .withdraw path amount → amount ≤ s.balances address) :
    Book.Steps now (s.book address) (.change id move) (s'.book address) := by
  have moved : MovedBy s s' id stream stream' move := by
    constructor
    · rw [pays.initialised, written.initialised]
    · rw [pays.streams, written.streams, formed.streamId]
    · rw [pays.nextStreamId, written.nextStreamId]
    · rw [pays.idReservation, written.idReservation]
    · rw [pays.totalLiabilities, written.totalLiabilities]
    · rw [pays.pausedStreamCount, written.pausedStreamCount]
    · simp [deposited, pays.fundings, written.fundings, received]
    · intro key
      rw [pays.paidOut, State.paidOut, written.payments, State.paidOut]
    · intro key
      rw [pays.settledByKeeper, State.settledByKeeper, written.settlements,
        State.settledByKeeper]
    · simp [totalDeposited, pays.fundings, written.fundings, received]
  refine moved.steps stored moves covered ?_
  have funded := pays.funded
  rw [written.balances] at funded
  rwa [received, add_zero]

end State

end Wallie.StreamContract
