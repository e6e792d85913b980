import Wallie.Ledger.Book
import Mathlib.Tactic.Ring

/-!
# Invariants of the book

Ids are handed out once: an id that is not fresh never becomes fresh again, and
only fresh ids are allocated. Every stored record is well formed, and for every
stored stream what was deposited and not paid out is what is still owed on it,
up to what a keeper has settled without noting it in the record.
-/

namespace Wallie.StreamContract

namespace Book

variable {book book' : Book} {now later id : ℕ} {action : Action}

/-- The ids that can still be handed out. -/
def Fresh (book : Book) (id : ℕ) : Prop :=
  book.nextStreamId ≤ id ∨ ∃ holder res, book.idReservation holder = some res ∧
    res.startId + res.consumed ≤ id ∧ id < res.startId + res.count

/-- Reservations lie below the counter, are not used up, and do not overlap. -/
structure Reserves (book : Book) : Prop where
  unconsumed : ∀ holder res, book.idReservation holder = some res → res.consumed < res.count
  below : ∀ holder res, book.idReservation holder = some res →
    res.startId + res.count ≤ book.nextStreamId
  disjoint : ∀ holder holder' res res', holder ≠ holder' →
    book.idReservation holder = some res → book.idReservation holder' = some res' →
    res.startId + res.count ≤ res'.startId ∨ res'.startId + res'.count ≤ res.startId

structure WellFormed (now : ℕ) (book : Book) : Prop where
  initialised : book.initialised = true
  reserves : book.Reserves
  records : ∀ id stream, book.streams id = some stream → stream.WellFormed id now
  /-- Nothing is recorded for an id before it is handed out. -/
  blank : ∀ id, book.Fresh id → book.streams id = none ∧ book.deposited id = 0 ∧
    book.paidOut id = 0 ∧ book.settledByKeeper id = 0
  /-- The ledger equation. -/
  balanced : ∀ id stream, book.streams id = some stream →
    book.deposited id - book.paidOut id = stream.owed - book.settledByKeeper id

theorem WellFormed.mono (formed : book.WellFormed now) (order : now ≤ later) :
    book.WellFormed later where
  initialised := formed.initialised
  reserves := formed.reserves
  records := fun id stream stored => (formed.records id stream stored).mono order
  blank := formed.blank
  balanced := formed.balanced

/-- The book of a contract that has just been initialised. -/
structure Blank (book : Book) : Prop where
  initialised : book.initialised = true
  streams : ∀ id, book.streams id = none
  nextStreamId : book.nextStreamId = 0
  idReservation : ∀ holder, book.idReservation holder = none
  totalLiabilities : book.totalLiabilities = 0
  pausedStreamCount : book.pausedStreamCount = 0
  vault_nonneg : 0 ≤ book.vault
  deposited : ∀ id, book.deposited id = 0
  paidOut : ∀ id, book.paidOut id = 0
  settledByKeeper : ∀ id, book.settledByKeeper id = 0
  totalDeposited : book.totalDeposited = 0

theorem Blank.wellFormed (blank : book.Blank) (now : ℕ) : book.WellFormed now where
  initialised := blank.initialised
  reserves := by
    constructor <;> simp [blank.idReservation]
  records := by simp [blank.streams]
  blank := fun id _ => ⟨blank.streams id, blank.deposited id, blank.paidOut id,
    blank.settledByKeeper id⟩
  balanced := by simp [blank.streams]

/-- Stored streams have ids below the counter. -/
theorem WellFormed.stored_lt (formed : book.WellFormed now) {stream : Stream}
    (stored : book.streams id = some stream) : id < book.nextStreamId := by
  by_contra above
  have blank := (formed.blank id (Or.inl (not_lt.mp above))).1
  rw [stored] at blank
  cases blank

theorem WellFormed.not_fresh (formed : book.WellFormed now) {stream : Stream}
    (stored : book.streams id = some stream) : ¬ book.Fresh id := by
  intro fresh
  have blank := (formed.blank id fresh).1
  rw [stored] at blank
  cases blank

/-! ## Ids -/

/-- Reservations that only shrink stay apart and below the counter. -/
theorem Reserves.of_shrunk (reserves : book.Reserves)
    (next_le : book.nextStreamId ≤ book'.nextStreamId)
    (shrunk : ∀ holder res', book'.idReservation holder = some res' →
      ∃ res, book.idReservation holder = some res ∧ res.startId = res'.startId ∧
        res.count = res'.count ∧ res'.consumed < res'.count) : book'.Reserves where
  unconsumed := by
    intro holder res' held'
    rcases shrunk holder res' held' with ⟨_, _, _, _, unconsumed⟩
    exact unconsumed
  below := by
    intro holder res' held'
    rcases shrunk holder res' held' with ⟨res, held, start, count, _⟩
    have below := reserves.below holder res held
    omega
  disjoint := by
    intro holder holder' res₁ res₂ distinct held₁ held₂
    rcases shrunk holder res₁ held₁ with ⟨old₁, oldHeld₁, start₁, count₁, _⟩
    rcases shrunk holder' res₂ held₂ with ⟨old₂, oldHeld₂, start₂, count₂, _⟩
    have disjoint := reserves.disjoint holder holder' old₁ old₂ distinct oldHeld₁ oldHeld₂
    omega

section Allocation

variable {sender : Address} {nextStreamId : ℕ} {idReservation : Address → Option IdReservation}

theorem Allocates.next_le (allocates : book.Allocates sender id nextStreamId idReservation) :
    book.nextStreamId ≤ nextStreamId := by
  cases allocates <;> omega

/-- Only fresh ids are allocated. -/
theorem Allocates.fresh (allocates : book.Allocates sender id nextStreamId idReservation)
    (reserves : book.Reserves) : book.Fresh id := by
  cases allocates with
  | counter _ => exact Or.inl le_rfl
  | reserved held =>
      have unconsumed := reserves.unconsumed _ _ held
      exact Or.inr ⟨_, _, held, le_rfl, by omega⟩

/-- A reservation after an allocation is one from before, or one that lost the id. -/
theorem Allocates.held_cases (allocates : book.Allocates sender id nextStreamId idReservation)
    (reserves : book.Reserves) {holder : Address} {res' : IdReservation}
    (held' : idReservation holder = some res') :
    ∃ res, book.idReservation holder = some res ∧ res.startId = res'.startId ∧
      res.count = res'.count ∧ res.consumed ≤ res'.consumed ∧ res'.consumed < res'.count ∧
      (id < res'.startId + res'.consumed ∨ res'.startId + res'.count ≤ id) := by
  cases allocates with
  | counter _ =>
      have below := reserves.below holder res' held'
      exact ⟨res', held', rfl, rfl, le_rfl, reserves.unconsumed holder res' held', Or.inr below⟩
  | @reserved res held =>
      have unconsumed := reserves.unconsumed sender res held
      by_cases same : holder = sender
      · subst same
        rw [Function.update_self] at held'
        split at held'
        · cases held'
        · cases held'
          exact ⟨res, held, rfl, rfl, by dsimp only; omega, by dsimp only; omega,
            Or.inl (by dsimp only; omega)⟩
      · rw [Function.update_of_ne same] at held'
        have disjoint := reserves.disjoint holder sender res' res same held' held
        exact ⟨res', held', rfl, rfl, le_rfl, reserves.unconsumed holder res' held', by omega⟩

theorem Allocates.reserves_created
    (allocates : book.Allocates sender id nextStreamId idReservation) (reserves : book.Reserves)
    (stream : Stream) (vault : ℤ) :
    (book.created stream nextStreamId idReservation vault).Reserves := by
  refine reserves.of_shrunk allocates.next_le ?_
  intro holder res' held'
  rcases allocates.held_cases reserves held' with ⟨res, held, start, count, _, unconsumed, _⟩
  exact ⟨res, held, start, count, unconsumed⟩

/-- The allocated id is no longer fresh, and no other id becomes fresh. -/
theorem Allocates.fresh_of_fresh
    (allocates : book.Allocates sender id nextStreamId idReservation) (reserves : book.Reserves)
    {stream : Stream} {vault : ℤ} {key : ℕ}
    (fresh : (book.created stream nextStreamId idReservation vault).Fresh key) :
    book.Fresh key ∧ key ≠ id := by
  rcases fresh with above | ⟨holder, res', held', lower, upper⟩
  · have above : nextStreamId ≤ key := above
    refine ⟨Or.inl (allocates.next_le.trans above), ?_⟩
    cases allocates with
    | counter _ => omega
    | reserved held =>
        have below := reserves.below _ _ held
        have unconsumed := reserves.unconsumed _ _ held
        omega
  · rcases allocates.held_cases reserves held' with ⟨res, held, start, count, consumed, _, outside⟩
    exact ⟨Or.inr ⟨holder, res, held, by omega, by omega⟩, by omega⟩

end Allocation

theorem held_of_released {idReservation : Address → Option IdReservation}
    {holder other : Address} {res : IdReservation}
    (held : Function.update idReservation holder none other = some res) :
    other ≠ holder ∧ idReservation other = some res := by
  by_cases same : other = holder
  · subst same
    simp at held
  · rw [Function.update_of_ne same] at held
    exact ⟨same, held⟩

theorem reserves_released (reserves : book.Reserves) (holder : Address) :
    Reserves { book with idReservation := Function.update book.idReservation holder none } := by
  refine reserves.of_shrunk le_rfl ?_
  intro other res held'
  rcases held_of_released held' with ⟨_, held⟩
  exact ⟨res, held, rfl, rfl, reserves.unconsumed other res held⟩

theorem held_of_reserved {idReservation : Address → Option IdReservation}
    {holder other : Address} {reserved res : IdReservation}
    (held : Function.update idReservation holder (some reserved) other = some res) :
    other = holder ∧ res = reserved ∨ other ≠ holder ∧ idReservation other = some res := by
  by_cases same : other = holder
  · subst same
    rw [Function.update_self] at held
    exact Or.inl ⟨rfl, (Option.some.inj held).symm⟩
  · rw [Function.update_of_ne same] at held
    exact Or.inr ⟨same, held⟩

theorem reserves_reserved (reserves : book.Reserves) (holder : Address) {count : ℕ}
    (positive : 0 < count) (expiry : Option ℕ) :
    Reserves
      { book with
        nextStreamId := book.nextStreamId + count
        idReservation := Function.update book.idReservation holder
          (some { startId := book.nextStreamId, count, consumed := 0, expiry }) } := by
  constructor
  · intro other res held
    rcases held_of_reserved held with ⟨_, rfl⟩ | ⟨_, old⟩
    · exact positive
    · exact reserves.unconsumed other res old
  · intro other res held
    change res.startId + res.count ≤ book.nextStreamId + count
    rcases held_of_reserved held with ⟨_, rfl⟩ | ⟨_, old⟩
    · exact le_rfl
    · exact (reserves.below other res old).trans (Nat.le_add_right _ _)
  · intro first second res₁ res₂ distinct held₁ held₂
    rcases held_of_reserved held₁ with ⟨rfl, rfl⟩ | ⟨_, old₁⟩
    · rcases held_of_reserved held₂ with ⟨rfl, _⟩ | ⟨_, old₂⟩
      · exact absurd rfl distinct
      · exact Or.inr (reserves.below second res₂ old₂)
    · rcases held_of_reserved held₂ with ⟨rfl, rfl⟩ | ⟨_, old₂⟩
      · exact Or.inl (reserves.below first res₁ old₁)
      · exact reserves.disjoint first second res₁ res₂ distinct old₁ old₂

/-- A reservation that ends at the counter can give back what it has left. -/
theorem reserves_reclaimed (reserves : book.Reserves) {holder : Address} {res : IdReservation}
    (held : book.idReservation holder = some res)
    (last : res.startId + res.count = book.nextStreamId) :
    Reserves
      { book with
        nextStreamId := res.startId + res.consumed
        idReservation := Function.update book.idReservation holder none } := by
  constructor
  · intro other res' held'
    exact reserves.unconsumed other res' (held_of_released held').2
  · intro other res' held'
    change res'.startId + res'.count ≤ res.startId + res.consumed
    rcases held_of_released held' with ⟨distinct, oldHeld⟩
    have disjoint := reserves.disjoint other holder res' res distinct oldHeld held
    have below := reserves.below other res' oldHeld
    have unconsumed := reserves.unconsumed other res' oldHeld
    omega
  · intro first second res₁ res₂ distinct held₁ held₂
    exact reserves.disjoint first second res₁ res₂ distinct (held_of_released held₁).2
      (held_of_released held₂).2

end Book

/-! ## Records -/

namespace Stream

variable {stream stream' : Stream} {move : Move} {now id : ℕ}

theorem Live.owed_of_status (live : stream.Live) (same : stream'.status = stream.status) :
    stream'.owed = stream'.depositAmount - stream'.withdrawnAmount := by
  apply Live.owed
  unfold Live
  rwa [same]

theorem owed_withdrawnTo (unfinished : stream.status ≠ .completed) (withdrawnAmount : ℤ)
    (ledger : ℕ) :
    ((stream.withdrawnTo withdrawnAmount).notedAt ledger).owed =
      stream.owed + stream.withdrawnAmount - withdrawnAmount := by
  by_cases live : stream.Live
  · rw [live.owed]
    by_cases drained : withdrawnAmount = stream.depositAmount
    · have completed : ((stream.withdrawnTo withdrawnAmount).notedAt ledger).status = .completed :=
        if_pos ⟨live, drained⟩
      rw [Stream.owed, completed, drained]
      ring
    · have same : ((stream.withdrawnTo withdrawnAmount).notedAt ledger).status = stream.status :=
        if_neg fun both => drained both.2
      rw [live.owed_of_status same]
      simp only [Stream.notedAt, Stream.withdrawnTo]
      ring
  · have cancelled : stream.status = .cancelled := by
      by_contra other
      exact live (live_iff.mpr ⟨unfinished, other⟩)
    have cancelled' :
        ((stream.withdrawnTo withdrawnAmount).notedAt ledger).status = .cancelled := by
      rw [← cancelled]
      exact if_neg fun both => live both.1
    rw [owed_of_cancelled cancelled', owed_of_cancelled cancelled]
    change stream.accruedAt (stream.cancelledAt.getD 0) - withdrawnAmount = _
    ring

theorem owed_cancelledNow (stream : Stream) (now : ℕ) :
    (stream.cancelledNow now).owed = stream.accruedAt now - stream.withdrawnAmount :=
  rfl

/-- The amount owed moves with the tokens received and paid. A keeper's payment to the
recipient is the one payment the record does not show. -/
theorem Moves.owed (moves : stream.Moves now move stream') :
    stream'.owed = stream.owed + move.received - move.paid + move.settledByKeeper := by
  cases moves with
  | withdraw unfinished _ _ _ _ _ =>
      rw [owed_withdrawnTo unfinished]
      simp only [Move.received, Move.paid, Move.settledByKeeper]
      ring
  | topUp live _ _ _ _ | raiseRate live _ _ _ | lowerRate live _ _ _ _ _ _ | reprice live _
  | shorten live _ _ _ _ _ _ _ | extend live _ _ _ _ =>
      refine (live.owed_of_status ?_).trans ?_
      · rfl
      · rw [live.owed]
        simp only [Move.received, Move.paid, Move.settledByKeeper, checkpointed]
        ring
  | pause active _ =>
      rw [Live.owed (Or.inl active), Live.owed (Or.inr rfl)]
      simp only [Move.received, Move.paid, Move.settledByKeeper]
      ring
  | resume paused _ =>
      rw [Live.owed (Or.inr paused), Live.owed (Or.inl rfl)]
      simp only [Move.received, Move.paid, Move.settledByKeeper]
      ring
  | cancel live split | keeperCancel live _ _ split =>
      rw [live.owed, owed_cancelledNow]
      simp only [Move.received, Move.paid, Move.settledByKeeper]
      omega
  | @settle payment refund live _ split =>
      rw [live.owed, owed_cancelledNow]
      have same : Stream.accruedAt
          { stream with withdrawnAmount := stream.withdrawnAmount + payment } now =
          stream.accruedAt now := rfl
      simp only [Move.received, Move.paid, Move.settledByKeeper]
      omega
  | rotate =>
      simp only [Move.received, Move.paid, Move.settledByKeeper, Stream.owed, accruedAt,
        checkpointState]
      ring

/-- A stream created on valid terms is well formed. -/
theorem wellFormed_newStream {params : CreateStreamParams} {sender : Address}
    (valid : params.Valid sender now) : (newStream id sender params).WellFormed id now where
  streamId := rfl
  bounded := by
    refine ⟨valid.deposit_pos, valid.deposit_le, ?_, le_rfl, valid.deposit_pos.le⟩
    change 0 ≤ params.ratePerSecond
    cases kind : params.kind with
    | linear => exact (valid.rate_of_linear kind).le
    | cliffOnly => exact (valid.rate_of_cliffOnly kind).ge
  withdrawn_nonneg := le_rfl
  withdrawn_le := (by decide : (0 : ℤ) ≤ i128.upper)
  start_lt_end := valid.start_lt_end
  start_le_cliff := valid.start_le_cliff
  cliff_le_end := valid.cliff_le_end
  rate_pos := valid.rate_of_linear
  cancelledAt_iff := by simp [newStream]
  cancelledAt_le := by simp [newStream]
  completed := by simp [newStream]
  base := Or.inl rfl
  since := Or.inl rfl

theorem owed_newStream (params : CreateStreamParams) (sender : Address) (id : ℕ) :
    (newStream id sender params).owed = params.depositAmount := by
  simp [Stream.owed, newStream]

end Stream

namespace Book

variable {book book' : Book} {now id : ℕ} {action : Action} {permits : Book → Action → Prop}

/-- An id that is not fresh never becomes fresh again. -/
theorem Steps.fresh {key : ℕ} (step : book.Steps now action book') (reserves : book.Reserves)
    (fresh : book'.Fresh key) : book.Fresh key := by
  cases step with
  | create allocates _ _ => exact (allocates.fresh_of_fresh reserves fresh).1
  | change _ _ _ _ | close _ _ | sweep _ _ | receive _ => exact fresh
  | reserve _ =>
      rcases fresh with above | ⟨other, res, held, lower, upper⟩
      · exact Or.inl ((Nat.le_add_right _ _).trans above)
      · rcases held_of_reserved held with ⟨_, rfl⟩ | ⟨_, held⟩
        · exact Or.inl lower
        · exact Or.inr ⟨other, res, held, lower, upper⟩
  | release =>
      rcases fresh with above | ⟨other, res, held, range⟩
      · exact Or.inl above
      · exact Or.inr ⟨other, res, (held_of_released held).2, range⟩
  | @reclaim holder res held last =>
      rcases fresh with above | ⟨other, res', held', range⟩
      · rcases lt_or_ge key book.nextStreamId with below | above'
        · exact Or.inr ⟨holder, res, held, above, by omega⟩
        · exact Or.inl above'
      · exact Or.inr ⟨other, res', (held_of_released held').2, range⟩

/-- Actions preserve the invariants of the book. -/
theorem Steps.wellFormed (step : book.Steps now action book') (formed : book.WellFormed now) :
    book'.WellFormed now := by
  have reserves := formed.reserves
  have blank := fun key fresh => formed.blank key (step.fresh reserves fresh)
  cases step with
  | @create sender params id nextStreamId idReservation vault allocates valid _ =>
      refine ⟨formed.initialised, allocates.reserves_created reserves _ vault, ?_, ?_, ?_⟩
      · intro key stream stored
        rcases eq_or_ne key id with rfl | other
        · obtain rfl : newStream key sender params = stream := by
            simpa [created, newStream] using stored
          exact Stream.wellFormed_newStream valid
        · exact formed.records key stream (by simpa [created, newStream, other] using stored)
      · intro key fresh
        have other := (allocates.fresh_of_fresh reserves fresh).2
        simpa [created, newStream, other] using blank key fresh
      · intro key stream stored
        rcases eq_or_ne key id with rfl | other
        · obtain rfl : newStream key sender params = stream := by
            simpa [created, newStream] using stored
          have blank := formed.blank key (allocates.fresh reserves)
          rw [Stream.owed_newStream]
          simp [created, newStream, blank]
        · simpa [created, newStream, other] using
            formed.balanced key stream (by simpa [created, newStream, other] using stored)
  | @change id stream stream' move vault stored moves _ _ =>
      refine ⟨formed.initialised, ⟨reserves.unconsumed, reserves.below, reserves.disjoint⟩,
        ?_, ?_, ?_⟩
      · intro key record stored'
        rcases eq_or_ne key id with rfl | other
        · obtain rfl : stream' = record := by simpa [moved] using stored'
          exact moves.wellFormed (formed.records key stream stored)
        · exact formed.records key record (by simpa [moved, other] using stored')
      · intro key fresh
        have other : key ≠ id := by
          rintro rfl
          exact formed.not_fresh stored fresh
        simpa [moved, other] using blank key fresh
      · intro key record stored'
        rcases eq_or_ne key id with rfl | other
        · obtain rfl : stream' = record := by simpa [moved] using stored'
          have balanced := formed.balanced key stream stored
          have owed := moves.owed
          simp only [moved, Function.update_self]
          omega
        · simpa [moved, other] using
            formed.balanced key record (by simpa [moved, other] using stored')
  | @close id stream stored _ =>
      have kept : ∀ key record, Function.update book.streams id none key = some record →
          book.streams key = some record := by
        intro key record stored'
        rcases eq_or_ne key id with rfl | other
        · simp at stored'
        · simpa [other] using stored'
      refine ⟨formed.initialised, ⟨reserves.unconsumed, reserves.below, reserves.disjoint⟩,
        ?_, ?_, ?_⟩
      · exact fun key record stored' => formed.records key record (kept key record stored')
      · intro key fresh
        have other : key ≠ id := by
          rintro rfl
          exact formed.not_fresh stored fresh
        simpa [other] using blank key fresh
      · exact fun key record stored' => formed.balanced key record (kept key record stored')
  | @reserve holder count expiry positive =>
      exact ⟨formed.initialised, reserves_reserved reserves holder positive expiry,
        formed.records, blank, formed.balanced⟩
  | @release holder =>
      exact ⟨formed.initialised, reserves_released reserves holder, formed.records, blank,
        formed.balanced⟩
  | @reclaim holder res held last =>
      exact ⟨formed.initialised, reserves_reclaimed reserves held last, formed.records, blank,
        formed.balanced⟩
  | sweep _ _ | receive _ =>
      exact ⟨formed.initialised, ⟨reserves.unconsumed, reserves.below, reserves.disjoint⟩,
        formed.records, blank, formed.balanced⟩

theorem Run.wellFormed (run : Book.Run now permits book book') (formed : book.WellFormed now) :
    book'.WellFormed now :=
  run.preserves (WellFormed now) (fun _ _ _ _ step => step.wellFormed) formed

end Book

end Wallie.StreamContract
