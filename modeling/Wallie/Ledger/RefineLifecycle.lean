import Wallie.Ledger.Projection
import Wallie.StreamContract.LifecycleRules

/-!
# Pausing, cancelling and closing on the book

A pause, a resumption or a cancellation is one move of the record, and a close
is one action. The bulk cancellation pays its refunds after all records are
written; on the book each refund is paid with the settlement of its stream.
-/

namespace Wallie.StreamContract

open Fallible

variable {env : Env} {s middle s' : State} {stream stream' : Stream} {id now : ℕ}
  {address sender : Address} {done : Unit}

/-! ## Pausing -/

theorem pauseLoadedStream_performs (run : Runs (pauseLoadedStream stream) env s done middle)
    (formed : (s.book env.currentContractAddress).WellFormed env.timestamp)
    (stored : s.streams id = some stream) (same : State.SameAccounts middle s')
    (balances : s'.balances env.currentContractAddress =
      middle.balances env.currentContractAddress) :
    Performs env (· = .pause) id s s' := by
  rcases pauseLoadedStream_cases run with ⟨running, active, -, rfl⟩
  have moves : stream.Moves env.timestamp .pause
      { stream with status := .paused, lastPauseToggleLedger := env.sequence } :=
    .pause active running
  refine ⟨_, rfl, State.Written.steps ?_ (same.pays balances)
    (formed.records id stream stored) stored moves rfl (by simp)⟩
  exact ⟨rfl, rfl, rfl, rfl, rfl, rfl, rfl, rfl, rfl, rfl⟩

theorem pauseStream_performs {reason : PauseReason}
    (run : Runs (pauseStream id reason) env s done s')
    (formed : (s.book env.currentContractAddress).WellFormed env.timestamp) :
    Performs env (· = .pause) id s s' := by
  rcases pauseStream_cases run with ⟨stream, middle, stored, -, paused, rfl⟩
  exact pauseLoadedStream_performs paused formed stored
    (State.sameAccounts_of_events (by simp [State.fundings, Event.funding])) rfl

theorem pauseStreamAsAdmin_performs {reason : PauseReason}
    (run : Runs (pauseStreamAsAdmin id reason) env s done s')
    (formed : (s.book env.currentContractAddress).WellFormed env.timestamp) :
    Performs env (· = .pause) id s s' := by
  rcases pauseStreamAsAdmin_cases run with ⟨admin, stream, middle, -, -, stored, paused, rfl⟩
  exact pauseLoadedStream_performs paused formed stored
    ⟨rfl, rfl, rfl, rfl, rfl, rfl, by simp [State.fundings, Event.funding], rfl, rfl⟩ rfl

theorem resumeLoadedStream_performs (run : Runs (resumeLoadedStream stream) env s done middle)
    (formed : (s.book env.currentContractAddress).WellFormed env.timestamp)
    (stored : s.streams id = some stream) (same : State.SameAccounts middle s')
    (balances : s'.balances env.currentContractAddress =
      middle.balances env.currentContractAddress) :
    Performs env (· = .resume) id s s' := by
  rcases resumeLoadedStream_cases run with ⟨running, paused, -, rfl⟩
  have moves : stream.Moves env.timestamp .resume
      { stream with status := .active, lastPauseToggleLedger := env.sequence } :=
    .resume paused running
  refine ⟨_, rfl, State.Written.steps ?_ (same.pays balances)
    (formed.records id stream stored) stored moves rfl (by simp)⟩
  exact ⟨rfl, rfl, rfl, rfl, rfl, rfl, rfl, rfl, rfl, rfl⟩

theorem resumeStream_performs (run : Runs (resumeStream id) env s done s')
    (formed : (s.book env.currentContractAddress).WellFormed env.timestamp) :
    Performs env (· = .resume) id s s' := by
  rcases resumeStream_cases run with ⟨stream, middle, stored, -, resumed, rfl⟩
  exact resumeLoadedStream_performs resumed formed stored
    (State.sameAccounts_of_events (by simp [State.fundings, Event.funding])) rfl

theorem resumeStreamAsAdmin_performs (run : Runs (resumeStreamAsAdmin id) env s done s')
    (formed : (s.book env.currentContractAddress).WellFormed env.timestamp) :
    Performs env (· = .resume) id s s' := by
  rcases resumeStreamAsAdmin_cases run with ⟨admin, stream, middle, -, -, stored, resumed, rfl⟩
  exact resumeLoadedStream_performs resumed formed stored
    (State.sameAccounts_of_events (by simp [State.fundings, Event.funding])) rfl

/-! ## Cancelling -/

/-- The part of the deposit that has not accrued. -/
def Stream.unstreamed (stream : Stream) (now : ℕ) : ℤ :=
  stream.depositAmount - stream.accruedAt now

theorem Stream.Bounded.unstreamed_nonneg (bounded : stream.Bounded) (now : ℕ) :
    0 ≤ stream.unstreamed now :=
  sub_nonneg.mpr (bounded.accruedAt_le_deposit now)

/-- A cancellation that refunds the sender. -/
@[simp]
def Move.Cancels (move : Move) : Prop :=
  ∃ refund, move = .cancel refund

theorem cancelStreamInternal_performs (run : Runs (cancelStreamInternal stream) env s done s')
    (formed : (s.book env.currentContractAddress).WellFormed env.timestamp)
    (stored : s.streams id = some stream) :
    Performs env Move.Cancels id s s' := by
  rcases cancelStreamInternal_cases run with ⟨live, -, -, middle, pushed, rfl⟩
  have record := formed.records id stream stored
  obtain rfl := record.streamId
  have nonneg := sub_nonneg.mpr (record.bounded.accruedAt_le_deposit env.timestamp)
  have moves : stream.Moves env.timestamp
      (.cancel (stream.depositAmount - stream.accruedAt env.timestamp))
      (stream.cancelledNow env.timestamp) :=
    .cancel live (add_sub_cancel _ _)
  refine ⟨_, ⟨_, rfl⟩, State.Written.steps ?_
    ((State.pays_of_pushPositive nonneg pushed).followed
      (State.sameAccounts_of_events (by simp [State.fundings, Event.funding])) rfl)
    record stored moves rfl (by simp)⟩
  exact ⟨rfl, rfl, rfl, rfl, rfl, rfl, rfl, rfl, rfl, rfl⟩

theorem cancelStream_performs (run : Runs (cancelStream id) env s done s')
    (formed : (s.book env.currentContractAddress).WellFormed env.timestamp) :
    Performs env Move.Cancels id s s' := by
  rcases cancelStream_cases run with ⟨stream, -, stored, -, run⟩
  exact cancelStreamInternal_performs run formed stored

theorem cancelStreamAsAdmin_performs (run : Runs (cancelStreamAsAdmin id) env s done s')
    (formed : (s.book env.currentContractAddress).WellFormed env.timestamp) :
    Performs env Move.Cancels id s s' := by
  rcases cancelStreamAsAdmin_cases run with ⟨admin, stream, -, -, stored, run⟩
  exact cancelStreamInternal_performs run formed stored

/-! ## Cancellation by a keeper -/

/-- The report of a change of health, if there is one. -/
def healthEvents (stream : Stream) (wasUnderfunded : Bool) (now : ℕ) : List Event :=
  if stream.isUnderfunded = wasUnderfunded then []
  else [.health stream.streamId stream.isUnderfunded
    (i128.clamp (stream.depositAmount - stream.withdrawnAmount)) (stream.endTime - now)]

theorem runs_maybeEmitHealthChanged {wasUnderfunded : Bool} :
    Runs (maybeEmitHealthChanged stream wasUnderfunded now) env s done s' ↔
      s' = { s with events := s.events ++ healthEvents stream wasUnderfunded now } := by
  by_cases unchanged : stream.isUnderfunded = wasUnderfunded
  · simp [maybeEmitHealthChanged, computeStreamHealth, healthEvents, unchanged]
  · simp [maybeEmitHealthChanged, computeStreamHealth, healthEvents, unchanged]

/-- What is read of events of other kinds is not read of a report of health. -/
theorem filterMap_healthEvents {β : Type} {read : Event → Option β}
    (ignores : ∀ streamId isUnderfunded remainingBalance secondsRemaining,
      read (.health streamId isUnderfunded remainingBalance secondsRemaining) = none)
    (stream : Stream) (wasUnderfunded : Bool) (now : ℕ) :
    (healthEvents stream wasUnderfunded now).filterMap read = [] := by
  unfold healthEvents
  split
  · rfl
  · exact List.filterMap_cons_none (ignores _ _ _ _)

theorem fundings_health (stream : Stream) (wasUnderfunded : Bool) (now : ℕ) :
    (healthEvents stream wasUnderfunded now).filterMap Event.funding = [] :=
  filterMap_healthEvents (fun _ _ _ _ => rfl) stream wasUnderfunded now

theorem sameAccounts_of_health {wasUnderfunded : Bool}
    (run : Runs (maybeEmitHealthChanged stream wasUnderfunded now) env s done s') :
    State.SameAccounts s s' ∧ s'.balances = s.balances := by
  obtain rfl := runs_maybeEmitHealthChanged.mp run
  refine ⟨State.sameAccounts_of_events ?_, rfl⟩
  rw [List.filterMap_append, fundings_health, List.append_nil, State.fundings]

theorem pays_of_payKeeperFee {keeper : Address} {keeperFee : ℤ} (nonneg : 0 ≤ keeperFee)
    (run : Runs (payKeeperFee keeper keeperFee id) env s done s') :
    State.Pays env.currentContractAddress s s' id keeperFee 0 := by
  unfold payKeeperFee at run
  split at run
  · simp only [runs_bind, runs_pushToken, runs_incrementTotalKeeperFeesPaid, and_assoc,
      exists_and_left, exists_eq_left, exists_const] at run
    rcases run with ⟨-, -, -, rfl⟩
    exact (State.pays_of_pushed .keeperFee nonneg).followed
      ⟨rfl, rfl, rfl, rfl, rfl, rfl, rfl, rfl, rfl⟩ rfl
  · next nothing =>
      rcases runs_pure.mp run with ⟨-, rfl⟩
      obtain rfl : keeperFee = 0 := by omega
      exact .refl _

/-- The fee of a keeper is a part of the refund it is taken from. -/
theorem keeperFee_bounds {gross : ℤ} (nonneg : 0 ≤ gross) :
    0 ≤ gross * keeperFeeBps / 10000 ∧ gross * keeperFeeBps / 10000 ≤ gross := by
  unfold keeperFeeBps
  omega

/-- A cancellation by a keeper, who pays the recipient and refunds the sender. -/
@[simp]
def Move.KeeperCancels (move : Move) : Prop :=
  ∃ payment refund, move = .keeperCancel payment refund

theorem keeperCancel_performs {keeper : Address}
    (run : Runs (keeperCancel id keeper) env s done s')
    (formed : (s.book env.currentContractAddress).WellFormed env.timestamp) :
    Performs env Move.KeeperCancels id s s' := by
  rcases keeperCancel_cases run with
    ⟨stream, stored, live, -, late, -, paidRecipient, paidSender, paidKeeper, toRecipient, toSender,
      toKeeper, health⟩
  have record := formed.records id stream stored
  have unstreamed := sub_nonneg.mpr (record.bounded.accruedAt_le_deposit env.timestamp)
  have due := record.claimable_eq env.timestamp
  rcases keeperFee_bounds unstreamed with ⟨feeNonneg, feeLe⟩
  simp only [max_eq_left unstreamed] at toRecipient toSender toKeeper health
  rcases sameAccounts_of_health health with ⟨same, balances⟩
  have published := (State.sameAccounts_of_events
    (by simp [State.fundings, Event.funding])).trans same
  have pays := (((State.pays_of_pushPositive (by omega) toRecipient).trans
    (State.pays_of_pushPositive (sub_nonneg.mpr feeLe) toSender)).trans
    (pays_of_payKeeperFee feeNonneg toKeeper)).followed published (by rw [balances])
  have moves := Stream.Moves.keeperCancel live late due (add_sub_cancel _ _)
  refine ⟨_, ⟨_, _, rfl⟩, State.Written.steps ?_ (pays.of_eq ?_ ?_) record stored
    moves rfl (by simp)⟩
  · exact ⟨rfl, rfl, rfl, rfl, rfl, rfl, rfl, rfl, rfl, rfl⟩
  · simp only [Move.paid]
    ring
  · simp [PayoutKind.settled, Move.settledByKeeper]

/-! ## Closing -/

theorem close_refines (stored : s.streams id = some stream)
    (drained : stream.Drained env.timestamp) :
    Refines env (· = .close id) s (s.closed stream id) := by
  have same : State.SameAccounts { s with streams := Function.update s.streams id none }
      (s.closed stream id) :=
    ⟨rfl, rfl, rfl, rfl, rfl, rfl, by simp [State.closed, State.fundings, Event.funding], rfl, rfl⟩
  refine .single rfl ?_
  rw [same.book_eq rfl]
  exact Book.Steps.close stored drained

/-- A cancelled stream with nothing to claim has been drawn up to what it has earned. -/
theorem Stream.WellFormed.drawn_of_nothingClaimable (formed : stream.WellFormed id now)
    (cancelled : stream.status = .cancelled)
    (nothing : ∃ instant, stream.cancelledAt = some instant ∧ stream.claimable instant ≤ 0) :
    stream.entitlement now ≤ stream.withdrawnAmount := by
  rcases nothing with ⟨instant, at_, nothing⟩
  rw [formed.claimable_eq] at nothing
  rw [Stream.entitlement_of_cancelled cancelled, at_, Option.getD_some]
  omega

theorem closeCompletedStream_refines (run : Runs (closeCompletedStream id) env s done s')
    (formed : (s.book env.currentContractAddress).WellFormed env.timestamp) :
    Refines env (· = .close id) s s' := by
  rcases closeCompletedStream_cases run with
    ⟨stream, stored, completed | ⟨cancelled, nothing⟩, rfl⟩
  · exact close_refines stored (Or.inl completed)
  · have record := formed.records id stream stored
    exact close_refines stored
      (Or.inr ⟨cancelled, record.drawn_of_nothingClaimable cancelled nothing⟩)

theorem closeCancelledStream_refines (run : Runs (closeCancelledStream id) env s done s')
    (formed : (s.book env.currentContractAddress).WellFormed env.timestamp) :
    Refines env (· = .close id) s s' := by
  rcases runs_closeCancelledStream.mp run with ⟨stream, stored, cancelled, nothing, rfl⟩
  have record := formed.records id stream stored
  exact close_refines stored
    (Or.inr ⟨cancelled, record.drawn_of_nothingClaimable cancelled nothing⟩)

end Wallie.StreamContract
