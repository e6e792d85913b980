import Wallie.Ledger.Emissions
import Wallie.Ledger.Liabilities
import Wallie.Ledger.RunInvariant
import Wallie.StreamContract.Script

/-!
# The liabilities counter is exact

The counter equals what is owed on the stored streams as long as nothing is
paid on a path that does not book the payment, no keeper pays a recipient, and
no overdrawn stream is closed. Within one call what is owed only grows or only
shrinks, so it fits in an `i128` throughout the call if it does before and
after.
-/

namespace Wallie.StreamContract

open Fallible

variable {address : Address} {s : State} {env : Env} {now id : ℕ} {stream stream' : Stream}
  {move : Move} {call : Call} {held : ℤ}

/-- What is owed on the stored streams. -/
def State.owedTotal (s : State) : ℤ :=
  KeyedSum.storeTotal Stream.owed s.streams s.nextStreamId

/-- A withdrawal finds nothing to pay for the stream: nothing is earned, nothing is held, or the
dust rule holds the payment back. -/
def State.PaysNothing (s : State) (env : Env) (respectsDust : Bool) (id : ℕ) : Prop :=
  ∀ stream, s.streams id = some stream →
    stream.entitlement env.timestamp ≤ stream.withdrawnAmount ∨
    s.balances env.currentContractAddress ≤ 0 ∨
    respectsDust = true ∧ stream.DustBlocks env.timestamp
      (min (stream.entitlement env.timestamp - stream.withdrawnAmount)
        (s.balances env.currentContractAddress))

/-- The calls whose payments are all booked: the paths that do not reduce the counter pay nothing,
a keeper pays the recipient nothing, and a closed stream is not overdrawn. -/
def booking (s : State) (env : Env) : Call → Prop
  | .batchWithdrawTo _ withdrawals => ∀ param ∈ withdrawals, s.PaysNothing env true param.streamId
  | .delegatedWithdraw id _ _ _ _ _ _ | .triggerAutoClaim id => s.PaysNothing env false id
  | .decreaseRatePerSecond id rate => ∀ stream, s.streams id = some stream →
      stream.depositAmount ≤
        stream.accruedAt env.timestamp + rate * (stream.endTime - env.timestamp : ℕ)
  | .keeperCancel id _ => ∀ stream, s.streams id = some stream →
      stream.accruedAt env.timestamp ≤ stream.withdrawnAmount
  | .closeCompletedStream id | .closeCancelledStream id => ∀ stream,
      s.streams id = some stream → stream.status = .cancelled →
      stream.withdrawnAmount ≤ stream.accruedAt (stream.cancelledAt.getD 0)
  | _ => True

/-- What `booking` says of a single move. -/
def Stream.Books (stream : Stream) (now : ℕ) : Move → Prop
  | .withdraw path amount => path.booked = true ∨
      stream.entitlement now ≤ stream.withdrawnAmount ∨ amount ≤ 0 ∨
      path.respectsDust = true ∧ stream.DustBlocks now amount
  | .lowerRate rate _ =>
      stream.depositAmount ≤ stream.accruedAt now + rate * (stream.endTime - now : ℕ)
  | .keeperCancel _ _ => stream.accruedAt now ≤ stream.withdrawnAmount
  | _ => True

/-- The dust rule that holds back a payment holds back a smaller one. -/
theorem Stream.DustBlocks.mono {amount amount' : ℤ} (blocked : stream.DustBlocks now amount)
    (smaller : amount' ≤ amount) : stream.DustBlocks now amount' := by
  rcases blocked with ⟨dust, running, undrained⟩
  exact ⟨by omega, running, by omega⟩

theorem State.PaysNothing.books {respectsDust : Bool} {path : PayoutPath} {amount : ℤ}
    (nothing : s.PaysNothing env respectsDust id) (stored : s.streams id = some stream)
    (within : amount ≤ s.balances env.currentContractAddress)
    (dust : respectsDust = true → path.respectsDust = true)
    (earned : stream.withdrawnAmount + amount ≤ stream.entitlement env.timestamp) :
    stream.Books env.timestamp (.withdraw path amount) := by
  rcases nothing stream stored with unearned | unheld | ⟨respects, blocked⟩
  · exact Or.inr (Or.inl unearned)
  · exact Or.inr (Or.inr (Or.inl (within.trans unheld)))
  · exact Or.inr (Or.inr (Or.inr ⟨dust respects, blocked.mono (le_min (by omega) within)⟩))

theorem booking.of_changing (booked : booking s env call)
    (here : env.currentContractAddress = address)
    (changing : call.Changing (s.balances address) id move) (stored : s.streams id = some stream)
    (moves : stream.Moves env.timestamp move stream') : stream.Books env.timestamp move := by
  subst here
  cases changing with
  | withdraw _ | withdrawTo _ | batchWithdraw _ _ => exact Or.inl rfl
  | batchWithdrawTo member same within =>
      subst same
      cases moves with
      | withdraw _ _ _ earned _ _ =>
          exact (booked _ member).books stored within (fun _ => rfl) earned
  | delegatedWithdraw within | triggerAutoClaim within =>
      cases moves with
      | withdraw _ _ _ earned _ _ => exact booked.books stored within (by simp) earned
  | decreaseRatePerSecond | keeperCancel => exact booked stream stored
  | updateRatePerSecond | shortenStreamEndTime | extendStreamEndTime | topUpStream | updateRate
  | pauseStream | pauseStreamAsAdmin | resumeStream | resumeStreamAsAdmin | cancelStream
  | cancelStreamAsAdmin | bulkCancelStreams _ | acceptRecipientUpdate => trivial

theorem booking.owed_of_drained (booked : booking s env call)
    (closes : call = .closeCompletedStream id ∨ call = .closeCancelledStream id)
    (stored : s.streams id = some stream) (drained : stream.Drained now) : stream.owed = 0 := by
  rcases drained with completed | ⟨cancelled, nothing⟩
  · simp [Stream.owed, completed]
  · rw [Stream.entitlement_of_cancelled cancelled] at nothing
    rw [Stream.owed_of_cancelled cancelled]
    have within : stream.withdrawnAmount ≤ stream.accruedAt (stream.cancelledAt.getD 0) := by
      rcases closes with rfl | rfl <;> exact booked stream stored cancelled
    omega

/-- A move that is booked changes the counter and what is owed by the same amount. -/
theorem Stream.Moves.booked (moves : stream.Moves now move stream')
    (books : stream.Books now move) : move.unbooked = 0 ∧ move.settledByKeeper = 0 := by
  cases moves with
  | @withdraw path amount _ _ _ positive earned undusted _ =>
      refine ⟨?_, rfl⟩
      simp only [Move.unbooked]
      rcases books with booked | unearned | nothing | ⟨respects, blocked⟩
      · exact if_pos booked
      · omega
      · omega
      · exact absurd blocked (undusted respects)
  | lowerRate _ _ _ _ _ nonneg kept =>
      refine ⟨?_, rfl⟩
      simp only [Stream.Books] at books
      simp only [Move.unbooked]
      omega
  | keeperCancel _ _ due _ =>
      refine ⟨rfl, ?_⟩
      simp only [Stream.Books] at books
      simp only [Move.settledByKeeper]
      omega
  | topUp _ _ _ _ _ | raiseRate _ _ _ _ | reprice _ _ | shorten _ _ _ _ _ _ _ _
  | extend _ _ _ _ _ | pause _ _ | resume _ _ | cancel _ _ | settle _ _ _ | rotate =>
      exact ⟨rfl, rfl⟩

/-! ## What is owed grows or shrinks in a call -/

/-- Whether a call adds to what is owed. -/
def Call.Adds : Call → Prop
  | .createStream _ _ | .createStreamRelative _ _ | .createStreams _ _
  | .createStreamsRelative _ _ | .createStreamsPartial _ _
  | .createStreamFromTemplate _ _ _ _ _ _ _ _ _ | .cloneStream _ _ _ _ _ _
  | .topUpStream _ _ _ => True
  | _ => False

namespace Book

variable {book book' : Book} {action : Action}

/-- The counter stays exact under an action whose payments are booked. -/
theorem Steps.counted (step : book.Steps now action book') (formed : book.WellFormed now)
    (books : ∀ id move stream stream', action = .change id move →
      book.streams id = some stream → stream.Moves now move stream' → stream.Books now move)
    (total : book'.owedTotal = book.owedTotal + action.owes)
    (fits : i128.Contains book.owedTotal) (fits' : i128.Contains book'.owedTotal)
    (counted : book.totalLiabilities = book.owedTotal) :
    book'.totalLiabilities = book'.owedTotal := by
  rw [total] at fits' ⊢
  cases step with
  | @create _ params _ _ _ _ _ _ _ =>
      change increasedLiabilities book.totalLiabilities params.depositAmount = _
      rw [counted]
      exact increasedLiabilities_eq fits'
  | @change id stream stream' move vault stored moves _ _ =>
      have booked := moves.booked (books id move stream stream' rfl stored moves)
      have record := formed.records id stream stored
      rcases booked with ⟨unbooked, unsettled⟩
      simp only [Action.owes, unsettled, add_zero] at fits' ⊢
      have sum : book.owedTotal + move.received - move.paid + move.unbooked =
          book.owedTotal + (move.received - move.paid) := by
        rw [unbooked]
        omega
      change move.liabilities book.totalLiabilities = _
      rw [counted, moves.liabilities_eq record fits (by rwa [sum]), sum]
  | close _ _ | reserve _ | release | reclaim _ _ | sweep _ _ | receive _ =>
      exact counted.trans (add_zero _).symm

end Book

theorem Call.Emits.adds_cases {action : Action} (emits : call.Emits held action)
    (adds : call.Adds) :
    (∃ id deposit, action = .create id deposit) ∨ action = .receive ∨
      ∃ id amount, action = .change id (.topUp amount) := by
  cases call with
  | createStream _ _ | createStreamRelative _ _ | createStreams _ _ | createStreamsRelative _ _
  | createStreamsPartial _ _ | createStreamFromTemplate _ _ _ _ _ _ _ _ _
  | cloneStream _ _ _ _ _ _ =>
      exact emits.imp_right Or.inl
  | topUpStream id funder amount =>
      rcases emits with ⟨_, rfl, rfl⟩
      exact Or.inr (Or.inr ⟨id, amount, rfl⟩)
  | _ => cases adds

theorem Call.Emits.adds_of_create {deposit : ℤ} (emits : call.Emits held (.create id deposit)) :
    call.Adds := by
  cases call <;> simp [Emits, GivesBack] at emits <;> trivial

theorem Call.Changing.adds_of_topUp {amount : ℤ}
    (changing : call.Changing held id (.topUp amount)) : call.Adds := by
  cases changing
  trivial

theorem Stream.Moves.received_le (moves : stream.Moves now move stream')
    (formed : stream.WellFormed id now) (other : ∀ amount, move ≠ .topUp amount) :
    move.received - move.paid + move.settledByKeeper ≤ 0 := by
  cases moves with
  | topUp _ _ _ _ _ => exact absurd rfl (other _)
  | withdraw _ _ positive _ _ _ =>
      simp only [Move.received, Move.paid, Move.settledByKeeper]
      omega
  | lowerRate _ _ _ _ _ nonneg _ | shorten _ _ _ _ _ _ nonneg _ =>
      simp only [Move.received, Move.paid, Move.settledByKeeper]
      omega
  | cancel _ split | settle _ _ split | keeperCancel _ _ _ split =>
      have nonneg := Moves.refund_nonneg formed split
      simp only [Move.received, Move.paid, Move.settledByKeeper]
      omega
  | raiseRate _ _ _ _ | reprice _ _ | extend _ _ _ _ _ | pause _ _ | resume _ _ | rotate =>
      exact le_rfl

namespace Book

variable {book book' : Book} {action : Action}

theorem Steps.owes_nonneg (step : book.Steps now action book') (emits : call.Emits held action)
    (adds : call.Adds) : 0 ≤ action.owes := by
  rcases emits.adds_cases adds with ⟨id, deposit, rfl⟩ | rfl | ⟨id, amount, rfl⟩
  · cases step with
    | create _ valid _ => exact valid.deposit_pos.le
  · exact le_rfl
  · cases step with
    | change _ moves _ _ =>
        cases moves with
        | topUp _ _ _ positive _ =>
            simp only [Action.owes, Move.received, Move.paid, Move.settledByKeeper]
            omega

theorem Steps.owes_nonpos (step : book.Steps now action book') (formed : book.WellFormed now)
    (emits : call.Emits held action) (adds : ¬ call.Adds) : action.owes ≤ 0 := by
  cases step with
  | create _ _ _ => exact absurd emits.adds_of_create adds
  | @change id stream _ _ _ stored moves _ _ =>
      apply moves.received_le (formed.records id stream stored)
      rintro amount rfl
      exact adds emits.changing.adds_of_topUp
  | close _ _ | reserve _ | release | reclaim _ _ | sweep _ _ | receive _ => exact le_rfl

/-- The counter stays exact over the actions of a call, if what is owed fits before and after. -/
theorem Run.counted (run : Book.Run now permits book book') (formed : book.WellFormed now)
    (emits : ∀ middle action, permits middle action → call.Emits held action)
    (books : ∀ middle id move stream stream', permits middle (.change id move) →
      middle.streams id = some stream → stream.Moves now move stream' → stream.Books now move)
    (closes : ∀ middle id stream, permits middle (.close id) → middle.streams id = some stream →
      stream.Drained now → stream.owed = 0)
    (fits : i128.Contains book.owedTotal) (counted : book.totalLiabilities = book.owedTotal)
    (fits' : i128.Contains book'.owedTotal) : book'.totalLiabilities = book'.owedTotal := by
  have kept := run.preserves
    (fun middle => middle.WellFormed now ∧
      (call.Adds → book.owedTotal ≤ middle.owedTotal) ∧
      (¬ call.Adds → middle.owedTotal ≤ book.owedTotal) ∧
      (i128.Contains middle.owedTotal → middle.totalLiabilities = middle.owedTotal)) ?_
    ⟨formed, fun _ => le_rfl, fun _ => le_rfl, fun _ => counted⟩
  · exact kept.2.2.2 fits'
  · rintro middle action next permitted step ⟨formed, above, below, counted⟩
    have emitted := emits middle action permitted
    have total : next.owedTotal = middle.owedTotal + action.owes := by
      apply step.owedTotal formed
      rintro id stream rfl stored drained
      exact closes middle id stream permitted stored drained
    refine ⟨step.wellFormed formed, ?_, ?_, ?_⟩
    · intro adds
      have grows := step.owes_nonneg emitted adds
      have above := above adds
      omega
    · intro adds
      have shrinks := step.owes_nonpos formed emitted adds
      have below := below adds
      omega
    · intro fitsNext
      rcases fits with ⟨lower, upper⟩
      rcases fitsNext with ⟨lowerNext, upperNext⟩
      -- What is owed before the action lies between what is owed at the start and after it.
      have fitsMiddle : i128.Contains middle.owedTotal := by
        by_cases adds : call.Adds
        · have grows := step.owes_nonneg emitted adds
          have above := above adds
          exact ⟨by omega, by omega⟩
        · have shrinks := step.owes_nonpos formed emitted adds
          have below := below adds
          exact ⟨by omega, by omega⟩
      apply step.counted formed _ total fitsMiddle ⟨lowerNext, upperNext⟩ (counted fitsMiddle)
      rintro id move stream stream' rfl stored moves
      exact books middle id move stream stream' permitted stored moves

end Book

/-- On every run whose successful calls are `booking`, in states where what is owed on the stored
streams fits in an `i128`, the counter equals what is owed on them. -/
theorem totalLiabilities_eq
    (reached : Reachable address
      (onSuccess fun s env call => i128.Contains s.owedTotal ∧ booking s env call) now s)
    (fits : i128.Contains s.owedTotal) :
    s.totalLiabilities = s.owedTotal ∧
      ∀ id stream, s.streams id = some stream → id < s.nextStreamId := by
  have counted := reached.runs_invariant
    (fun s => i128.Contains s.owedTotal → s.totalLiabilities = s.owedTotal) ?_ ?_ ?_
  · exact ⟨counted fits, fun _ _ stored => reached.book_wellFormed.stored_lt stored⟩
  · intro instant s fresh _
    exact fresh.blank.totalLiabilities.trans fresh.blank.owedTotal.symm
  · exact fun _ _ counted => counted
  · intro instant s invocation s' reached order allowed succeeds counted fits'
    have formed := reached.book_wellFormed.mono order
    have step : Input.Steps s (.invoke invocation) s' := (commit_of_runs succeeds).symm
    have run := invocation.runs step formed
    rcases allowed ⟨_, succeeds⟩ with ⟨fits, booked⟩
    have emits : ∀ middle action, invocation.Takes s middle action →
        invocation.call.Emits (s.balances address) action :=
      fun _ _ takes => takes.1.emits
    refine Book.Run.counted run formed emits ?_ ?_ fits (counted fits) fits'
    · rintro middle id move stream stream' ⟨makes, acts⟩ stored moves
      have agrees : (s.book address).Agrees middle id := acts
      have found : s.streams id = some stream := agrees.streams.symm.trans stored
      exact booked.of_changing invocation.here makes.emits.changing found moves
    · rintro middle id stream ⟨makes, acts⟩ stored drained
      have agrees : (s.book address).Agrees middle id := acts
      have found : s.streams id = some stream := agrees.streams.symm.trans stored
      exact booked.owed_of_drained makes.emits.closes found drained

/-- The counter of the drained stream's contract is what is owed on the other stream. -/
theorem totalLiabilities_eq_drained :
    (Script.run Sample.drained Sample.genesis).totalLiabilities =
      (Script.run Sample.drained Sample.genesis).owedTotal := by
  have permits : Script.Permits
      (onSuccess fun s env call => i128.Contains s.owedTotal ∧ booking s env call)
      Sample.drained Sample.genesis :=
    ⟨fun _ => ⟨by decide, trivial⟩, fun _ => ⟨by decide, trivial⟩, fun _ => ⟨by decide, trivial⟩,
      trivial⟩
  have reached := Script.reachable_run Sample.ordered_drained permits (Sample.reachable_genesis _)
  exact (totalLiabilities_eq reached (by decide)).1

/-- Half of the first stream is drawn to another address. -/
def Sample.drawnElsewhere : List (Invocation Sample.contract) :=
  Sample.twoCreations ++
    [Sample.invocation 2 50 1 (.batchWithdrawTo Sample.recipient [⟨0, Sample.keeper⟩])
      (Eq.refl true)]

/-- A batch of withdrawals to other addresses leaves the counter 500 above what is owed. -/
theorem not_always_totalLiabilities_eq :
    ¬ ∀ address now s, Reachable address anyCall now s → i128.Contains s.owedTotal →
      s.totalLiabilities = s.owedTotal := by
  intro always
  have ordered : Script.Ordered Sample.drawnElsewhere 0 :=
    ⟨by decide, by decide, by decide, trivial⟩
  have reached : Reachable Sample.contract anyCall 50
      (Script.run Sample.drawnElsewhere Sample.genesis) :=
    Sample.reachable_run ordered
  have counted : (Script.run Sample.drawnElsewhere Sample.genesis).totalLiabilities = 11000 := by
    decide
  have owed : (Script.run Sample.drawnElsewhere Sample.genesis).owedTotal = 10500 := by decide
  have exact_ := always _ _ _ reached (by rw [owed]; decide)
  omega

end Wallie.StreamContract
