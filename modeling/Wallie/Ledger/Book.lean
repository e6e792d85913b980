import Wallie.Ledger.WellFormed
import Wallie.Lib.LabelledRun
import Wallie.StreamContract.Create

/-!
# The book of the contract

An abstract view of the contract that keeps what its accounting is about: the
stored records, the space of ids, the two counters the contract maintains, the
tokens it holds, and for every stream what was ever deposited and paid out. An
action of the book creates, changes or closes one stream, moves ids, or moves
tokens that belong to no stream.
-/

namespace Wallie.StreamContract

structure Book where
  initialised : Bool
  streams : ℕ → Option Stream
  nextStreamId : ℕ
  idReservation : Address → Option IdReservation
  totalLiabilities : ℤ
  pausedStreamCount : ℕ
  /-- The tokens the contract holds. -/
  vault : ℤ
  /-- What was ever deposited for each stream. -/
  deposited : ℕ → ℤ
  /-- What was ever paid out on account of each stream. -/
  paidOut : ℕ → ℤ
  /-- The part of it that keepers paid to recipients. -/
  settledByKeeper : ℕ → ℤ
  totalDeposited : ℤ

inductive Action where
  | create (streamId : ℕ) (deposit : ℤ)
  | change (streamId : ℕ) (move : Move)
  | close (streamId : ℕ)
  | reserve (holder : Address) (count : ℕ)
  | release (holder : Address)
  | reclaim (holder : Address)
  | sweep (amount : ℤ)
  | receive

/-- The liabilities counter after a move. -/
def Move.liabilities : Move → ℤ → ℤ
  | topUp amount, liabilities => increasedLiabilities liabilities amount
  | withdraw path amount, liabilities =>
      if path.booked = true then reducedLiabilities liabilities amount else liabilities
  | shorten _ refund, liabilities | cancel refund, liabilities =>
      releasedLiabilities liabilities refund
  | settle payment refund, liabilities =>
      releasedLiabilities (releasedLiabilities liabilities payment) refund
  | keeperCancel payment refund, liabilities => releasedLiabilities liabilities (payment + refund)
  | _, liabilities => liabilities

/-- The terms a stream can be created with at `now`. -/
structure CreateStreamParams.Valid (params : CreateStreamParams) (sender : Address) (now : ℕ) :
    Prop where
  deposit_pos : 0 < params.depositAmount
  deposit_le : params.depositAmount ≤ i128.upper
  rate_of_linear : params.kind = .linear → 0 < params.ratePerSecond
  rate_of_cliffOnly : params.kind = .cliffOnly → params.ratePerSecond = 0
  sender_ne : sender ≠ params.recipient
  start_lt_end : params.startTime < params.endTime
  now_le_start : now ≤ params.startTime
  start_le_cliff : params.startTime ≤ params.cliffTime
  cliff_le_end : params.cliffTime ≤ params.endTime
  covered : params.kind = .linear →
    params.ratePerSecond * (params.endTime - params.startTime : ℕ) ≤ params.depositAmount

namespace Book

variable {book book' : Book} {now id : ℕ} {action : Action}

/-- The id the next stream of `sender` gets, with the counter and the reservations after it. -/
inductive Allocates (book : Book) (sender : Address) :
    ℕ → ℕ → (Address → Option IdReservation) → Prop where
  | counter (unreserved : book.idReservation sender = none) :
      Allocates book sender book.nextStreamId (book.nextStreamId + 1) book.idReservation
  | reserved {res : IdReservation} (held : book.idReservation sender = some res) :
      Allocates book sender (res.startId + res.consumed) book.nextStreamId
        (Function.update book.idReservation sender
          (if res.count ≤ res.consumed + 1 then none
            else some { res with consumed := res.consumed + 1 }))

/-- The book after the creation of `stream`. -/
def created (book : Book) (stream : Stream) (nextStreamId : ℕ)
    (idReservation : Address → Option IdReservation) (vault : ℤ) : Book where
  initialised := book.initialised
  streams := Function.update book.streams stream.streamId (some stream)
  nextStreamId
  idReservation
  totalLiabilities := increasedLiabilities book.totalLiabilities stream.depositAmount
  pausedStreamCount := book.pausedStreamCount
  vault
  deposited := Function.update book.deposited stream.streamId
    (book.deposited stream.streamId + stream.depositAmount)
  paidOut := book.paidOut
  settledByKeeper := book.settledByKeeper
  totalDeposited := book.totalDeposited + stream.depositAmount

/-- The book after a move turned the record of stream `id` from `stream` into `stream'`. -/
def moved (book : Book) (id : ℕ) (stream stream' : Stream) (move : Move) (vault : ℤ) : Book where
  initialised := book.initialised
  streams := Function.update book.streams id (some stream')
  nextStreamId := book.nextStreamId
  idReservation := book.idReservation
  totalLiabilities := move.liabilities book.totalLiabilities
  pausedStreamCount := reconciledCount stream.status stream'.status book.pausedStreamCount
  vault
  deposited := Function.update book.deposited id (book.deposited id + move.received)
  paidOut := Function.update book.paidOut id (book.paidOut id + move.paid)
  settledByKeeper := Function.update book.settledByKeeper id
    (book.settledByKeeper id + move.settledByKeeper)
  totalDeposited := book.totalDeposited + move.received

/-- The actions of the book at `now`. A payment to the contract's own address leaves its tokens
where they are, so the tokens held after a payment are bounded from below only. -/
inductive Steps (now : ℕ) : Book → Action → Book → Prop where
  | create {book : Book} {sender : Address} {params : CreateStreamParams} {id nextStreamId : ℕ}
      {idReservation : Address → Option IdReservation} {vault : ℤ}
      (allocates : book.Allocates sender id nextStreamId idReservation)
      (valid : params.Valid sender now) (funded : book.vault + params.depositAmount ≤ vault) :
      Steps now book (.create id params.depositAmount)
        (book.created (newStream id sender params) nextStreamId idReservation vault)
  | change {book : Book} {id : ℕ} {stream stream' : Stream} {move : Move} {vault : ℤ}
      (stored : book.streams id = some stream) (moves : stream.Moves now move stream')
      (covered : ∀ path amount, move = .withdraw path amount → amount ≤ book.vault)
      (funded : book.vault + move.received - move.paid ≤ vault) :
      Steps now book (.change id move) (book.moved id stream stream' move vault)
  | close {book : Book} {id : ℕ} {stream : Stream} (stored : book.streams id = some stream)
      (drained : stream.Drained now) :
      Steps now book (.close id)
        { book with streams := Function.update book.streams id none }
  | reserve {book : Book} {holder : Address} {count : ℕ} {expiry : Option ℕ}
      (positive : 0 < count) :
      Steps now book (.reserve holder count)
        { book with
          nextStreamId := book.nextStreamId + count
          idReservation := Function.update book.idReservation holder
            (some { startId := book.nextStreamId, count, consumed := 0, expiry }) }
  | release {book : Book} {holder : Address} :
      Steps now book (.release holder)
        { book with idReservation := Function.update book.idReservation holder none }
  | reclaim {book : Book} {holder : Address} {res : IdReservation}
      (held : book.idReservation holder = some res)
      (last : res.startId + res.count = book.nextStreamId) :
      Steps now book (.reclaim holder)
        { book with
          nextStreamId := res.startId + res.consumed
          idReservation := Function.update book.idReservation holder none }
  | sweep {book : Book} {amount vault : ℤ}
      (excess : amount ≤ book.vault - book.totalLiabilities)
      (funded : book.vault - amount ≤ vault) :
      Steps now book (.sweep amount) { book with vault }
  | receive {book : Book} {vault : ℤ} (funded : book.vault ≤ vault) :
      Steps now book .receive { book with vault }

/-- The finite sequences of permitted actions at `now`. -/
abbrev Run (now : ℕ) (permits : Book → Action → Prop) : Book → Book → Prop :=
  LabelledRun.Run (Steps now) permits

end Book

/-- The record of stream `id` and what keepers have settled for it are the same. -/
structure Book.Agrees (found book : Book) (id : ℕ) : Prop where
  streams : book.streams id = found.streams id
  settledByKeeper : book.settledByKeeper id = found.settledByKeeper id

/-- An action on a stored stream finds what the book `found` has for it. -/
def Action.ActsOn (found book : Book) : Action → Prop
  | change id _ | close id => found.Agrees book id
  | _ => True

theorem Action.actsOn_self (action : Action) (book : Book) : action.ActsOn book book := by
  cases action with
  | change _ _ | close _ => exact ⟨rfl, rfl⟩
  | _ => trivial

/-- The record of a stream before and after its change. -/
theorem Book.Steps.moves {book book' : Book} {now id : ℕ} {move : Move}
    (step : book.Steps now (.change id move) book') :
    ∃ stream stream', book.streams id = some stream ∧ stream.Moves now move stream' ∧
      book'.streams id = some stream' := by
  cases step with
  | @change _ stream stream' _ _ stored moves _ _ =>
      exact ⟨stream, stream', stored, moves, by simp [Book.moved]⟩

/-- A change of one stream leaves the others alone. -/
theorem Book.Steps.agrees {book book' : Book} {now id other : ℕ} {move : Move}
    (step : book.Steps now (.change id move) book') (distinct : other ≠ id) :
    book.Agrees book' other := by
  cases step with
  | change _ _ _ _ => constructor <;> simp [Book.moved, distinct]

end Wallie.StreamContract
