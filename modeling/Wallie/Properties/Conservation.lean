import Wallie.Ledger.Coverage
import Wallie.Ledger.Emissions
import Wallie.Ledger.StreamRegistry
import Wallie.StreamContract.Script

/-!
# Conservation of value

No more is paid out on account of a stream than was deposited for it, unless a
stream whose recipient has drawn more than has accrued is cancelled or cut, or a
stream that a keeper has settled pays its recipient again. On runs without
`updateRate` and keepers a stream that is closed has been paid out in full.
-/

namespace Wallie.StreamContract

open Fallible

variable {address : Address} {permitted : State → Env → Call → Prop} {s s' : State} {env : Env}
  {now id : ℕ} {stream stream' : Stream} {move : Move} {call : Call} {held settled : ℤ}

/-- The recipient of a live stream has drawn no more than has accrued. -/
def State.AccrualCovers (s : State) (now id : ℕ) : Prop :=
  ∀ stream, s.streams id = some stream → stream.Live →
    stream.withdrawnAmount ≤ stream.accruedAt now

/-- No keeper has paid the recipient of the stream, or there is nothing to pay it again with. -/
def State.Unsettled (s : State) (address : Address) (id : ℕ) : Prop :=
  s.settledByKeeper id ≤ 0 ∨ s.balances address ≤ 0

/-- The calls that do not pay out more than is left: a stream is cancelled or cut only above what
its recipient has drawn, and a stream that a keeper has settled is not paid again. -/
def conserving (s : State) (env : Env) : Call → Prop
  | .cancelStream id | .cancelStreamAsAdmin id | .keeperCancel id _ =>
      s.AccrualCovers env.timestamp id
  | .bulkCancelStreams _ ids => ∀ id ∈ ids, s.AccrualCovers env.timestamp id
  | .shortenStreamEndTime id endTime => ∀ stream, s.streams id = some stream →
      stream.withdrawnAmount ≤ max (stream.ratePerSecond * (endTime - stream.startTime : ℕ))
        (stream.accruedAt env.timestamp)
  | .decreaseRatePerSecond id rate => ∀ stream, s.streams id = some stream →
      stream.withdrawnAmount ≤
        stream.accruedAt env.timestamp + rate * (stream.endTime - env.timestamp : ℕ)
  | .withdraw id | .withdrawTo id _ | .delegatedWithdraw id _ _ _ _ _ _ =>
      s.Unsettled env.currentContractAddress id
  | .batchWithdraw _ ids => ∀ id ∈ ids, s.Unsettled env.currentContractAddress id
  | .batchWithdrawTo _ withdrawals => ∀ param ∈ withdrawals,
      s.Unsettled env.currentContractAddress param.streamId
  | _ => True

/-- What `conserving` says of a single move of a stream that keepers have paid `settled`. -/
def Stream.Conserves (stream : Stream) (now : ℕ) (settled : ℤ) : Move → Prop
  | .withdraw path amount => path = .autoClaim ∨ settled ≤ 0 ∨ amount ≤ 0
  | .lowerRate rate _ => stream.withdrawnAmount ≤
      stream.accruedAt now + rate * (stream.endTime - now : ℕ)
  | .shorten endTime _ => stream.withdrawnAmount ≤
      max (stream.ratePerSecond * (endTime - stream.startTime : ℕ)) (stream.accruedAt now)
  | .cancel _ | .settle _ _ | .keeperCancel _ _ =>
      stream.Live → stream.withdrawnAmount ≤ stream.accruedAt now
  | _ => True

theorem conserving.of_changing (conserves : conserving s env call)
    (here : env.currentContractAddress = address)
    (changing : call.Changing (s.balances address) id move) (stored : s.streams id = some stream) :
    stream.Conserves env.timestamp (s.settledByKeeper id) move := by
  subst here
  cases changing with
  | withdraw within | withdrawTo within | delegatedWithdraw within =>
      exact Or.inr (conserves.imp_right within.trans)
  | batchWithdraw member within => exact Or.inr ((conserves id member).imp_right within.trans)
  | batchWithdrawTo member same within =>
      subst same
      exact Or.inr ((conserves _ member).imp_right within.trans)
  | triggerAutoClaim _ => exact Or.inl rfl
  | decreaseRatePerSecond | shortenStreamEndTime | cancelStream | cancelStreamAsAdmin
  | keeperCancel => exact conserves stream stored
  | bulkCancelStreams member => exact conserves id member stream stored
  | updateRatePerSecond | extendStreamEndTime | topUpStream | updateRate | pauseStream
  | pauseStreamAsAdmin | resumeStream | resumeStreamAsAdmin | acceptRecipientUpdate => trivial

/-- A move that conserves pays no more than what is left. -/
theorem Book.affordable {book : Book} (formed : book.WellFormed now)
    (settles : book.SettlesCancelled) (conserved : book.Conserved)
    (stored : book.streams id = some stream) (moves : stream.Moves now move stream')
    (conserves : stream.Conserves now (book.settledByKeeper id) move) :
    move.paid ≤ book.left id stream + move.received := by
  have nonneg := formed.left_nonneg conserved stored
  have bounded := (formed.records id stream stored).bounded
  have accrued_le := bounded.accruedAt_le_deposit now
  cases moves with
  | withdraw unfinished unpaused positive earned _ expired =>
      by_cases live : stream.Live
      · rw [live.entitlement] at earned
        rw [settles.left_of_live stored live]
        simp only [Move.paid, Move.received]
        omega
      · have cancelled : stream.status = .cancelled := by
          by_contra other
          exact live (Stream.live_iff.mpr ⟨unfinished, other⟩)
        have unsettled : book.settledByKeeper id ≤ 0 := by
          rcases conserves with auto | unsettled | nothing
          · exact absurd (expired auto).1 live
          · exact unsettled
          · exact absurd nothing (not_le.mpr positive)
        rw [Stream.entitlement_of_cancelled cancelled] at earned
        rw [Book.left, Stream.owed_of_cancelled cancelled]
        simp only [Move.paid, Move.received]
        omega
  | lowerRate live _ _ _ _ _ kept | shorten live _ _ _ _ _ _ kept =>
      rw [settles.left_of_live stored live]
      simp only [Stream.Conserves] at conserves
      simp only [Move.paid, Move.received]
      omega
  | cancel live split =>
      have covers := conserves live
      rw [settles.left_of_live stored live]
      simp only [Move.paid, Move.received]
      omega
  | settle live due split | keeperCancel live _ due split =>
      have covers := conserves live
      rw [settles.left_of_live stored live]
      simp only [Move.paid, Move.received]
      omega
  | topUp _ _ _ positive _ =>
      simp only [Move.paid, Move.received]
      omega
  | raiseRate _ _ _ _ | reprice _ _ | extend _ _ _ _ _ | pause _ _ | resume _ _ | rotate =>
      simp only [Move.paid, Move.received]
      omega

/-- On every run whose successful calls are `conserving`, no more is paid out on account of a
stream than was deposited for it. -/
theorem paidOut_le_deposited (reached : Reachable address (onSuccess conserving) now s) (id : ℕ) :
    s.paidOut id ≤ s.deposited id := by
  have invariant := reached.book_invariant
    (fun _ book => book.SettlesCancelled ∧ book.Conserved) ?_ ?_ ?_ ?_
  · exact invariant.2 id
  · intro instant book blank
    exact ⟨by simp [Book.SettlesCancelled, blank.streams],
      fun key => by rw [blank.paidOut, blank.deposited]⟩
  · exact fun _ _ _ _ _ kept => kept
  · exact fun _ _ _ _ kept => kept
  · rintro s invocation allowed book action book' ⟨makes, acts⟩ step formed ⟨settles, conserved⟩
    refine ⟨step.settlesCancelled formed settles, step.conserved formed conserved ?_⟩
    rintro id move before after rfl stored moves
    have agrees : (s.book address).Agrees book id := acts
    have found : s.streams id = some before := agrees.streams.symm.trans stored
    have changing := makes.emits.changing
    have conserves := (allowed makes.succeeds).of_changing invocation.here changing found
    apply Book.affordable formed settles conserved stored moves
    rw [agrees.settledByKeeper]
    exact conserves

/-- A stream that is drained as it is earned conserves its deposit. -/
theorem paidOut_le_deposited_drained :
    (Script.run Sample.drained Sample.genesis).paidOut 0 ≤
      (Script.run Sample.drained Sample.genesis).deposited 0 := by
  have permits : Script.Permits (onSuccess conserving) Sample.drained Sample.genesis :=
    ⟨fun _ => trivial, fun _ => trivial, fun _ => Or.inl (by decide), trivial⟩
  exact paidOut_le_deposited
    (Script.reachable_run Sample.ordered_drained permits (Sample.reachable_genesis _)) 0

namespace Sample

/-- The rate is cut after most of the stream was drawn, and the sender is refunded as if nothing
had been. -/
def repricedThenCancelled : List (Invocation contract) :=
  twoCreations ++
    [invocation 2 90 1 (.withdraw 0) (Eq.refl true),
      invocation 1 90 1 (.updateRate 0 1 sender) (Eq.refl true),
      invocation 1 90 1 (.cancelStream 0) (Eq.refl true)]

/-- A keeper pays the recipient, who then draws the same amount. -/
def settledTwice : List (Invocation contract) :=
  twoCreations ++
    [invocation 3 604900 1 (.keeperCancel 0 keeper) (Eq.refl true),
      invocation 2 604900 2 (.withdraw 0) (Eq.refl true)]

theorem reachable_settledTwice :
    Reachable contract anyCall 604900 (Script.run settledTwice genesis) := by
  have ordered : Script.Ordered settledTwice 0 :=
    ⟨by decide, by decide, by decide, by decide, trivial⟩
  exact reachable_run ordered

end Sample

/-- Payments can exceed the deposit: 2000 tokens are paid for a stream of 1000 that a keeper
cancelled, and 1810 for one that was re-priced before it was cancelled. -/
theorem not_always_paidOut_le_deposited :
    (¬ ∀ address now s, Reachable address anyCall now s → ∀ id, s.paidOut id ≤ s.deposited id) ∧
    (Script.run Sample.settledTwice Sample.genesis).paidOut 0 = 2000 ∧
    (Script.run Sample.settledTwice Sample.genesis).deposited 0 = 1000 ∧
    (Script.run Sample.repricedThenCancelled Sample.genesis).paidOut 0 = 1810 ∧
    (Script.run Sample.repricedThenCancelled Sample.genesis).deposited 0 = 1000 := by
  have twice : (Script.run Sample.settledTwice Sample.genesis).paidOut 0 = 2000 := by decide
  have once : (Script.run Sample.settledTwice Sample.genesis).deposited 0 = 1000 := by decide
  refine ⟨fun always => ?_, twice, once, by decide, by decide⟩
  have bounded := always _ _ _ Sample.reachable_settledTwice 0
  omega

/-! ## Closing -/

/-- Without re-pricings and keepers a stream that is not stored has been paid out in full. -/
theorem Reachable.closedInFull (reached : Reachable address permitted now s)
    (plain : ∀ s env call, permitted s env call → withoutUpdateRateAndKeeperCancel s env call) :
    (s.book address).ClosedInFull := by
  apply (reached.earned_invariant Book.ClosedInFull plain ?_ ?_ ?_).2
  · exact fun book blank key _ => by rw [blank.paidOut, blank.deposited]
  · exact fun _ _ _ kept => kept
  · exact fun _ _ _ _ step formed earned _ inFull => step.closedInFull formed earned inFull

/-- On every run without `updateRate` and `keeperCancel`, when a closing call removes a stream,
exactly what was deposited for it has been paid out on its account. -/
theorem closed_in_full (reached : Reachable address withoutUpdateRateAndKeeperCancel now s)
    (invocation : Invocation address) (order : now ≤ invocation.env.timestamp)
    (closes : invocation.call = .closeCompletedStream id ∨
      invocation.call = .closeCancelledStream id)
    (run : Runs invocation.call.run invocation.env s () s') :
    s'.streams id = none ∧ s'.paidOut id = s'.deposited id := by
  have removed : s'.streams id = none := by
    rcases removes_of_closes closes run with ⟨_, _, streams, _⟩
    rw [streams, Function.update_self]
  have allowed : withoutUpdateRateAndKeeperCancel s invocation.env invocation.call := by
    rcases closes with same | same <;> rw [same] <;> trivial
  have reached' := reached.after order allowed run
  exact ⟨removed, reached'.closedInFull (fun _ _ _ allowed => allowed) id removed⟩

/-- The drained stream is closed. -/
theorem closed_in_full_drained :
    let s := Script.run Sample.drained Sample.genesis
    let closing := Sample.invocation 3 200 2 (.closeCompletedStream 0) rfl
    let s' := closing.call.run.commit closing.env s
    s'.streams 0 = none ∧ s'.paidOut 0 = s'.deposited 0 := by
  intro s closing s'
  have reached : Reachable Sample.contract withoutUpdateRateAndKeeperCancel 100 s :=
    Script.reachable_run Sample.ordered_drained ⟨trivial, trivial, trivial, trivial⟩
      (Sample.reachable_genesis _)
  have changed : s'.streams 0 ≠ s.streams 0 := by decide
  exact closed_in_full reached closing (by decide) (Or.inl rfl) (Script.runs_of_changed changed)

end Wallie.StreamContract
