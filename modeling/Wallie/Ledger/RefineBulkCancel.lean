import Wallie.Ledger.RefineLifecycle
import Wallie.StreamContract.TokenRules

/-!
# The bulk cancellation on the book

The bulk cancellation settles the recipients one by one and refunds the sender
in one transfer at the end. The state in which the refunds collected so far have
been paid is the view of the loop: between two rounds of the loop it takes one
step of the book, and after the last round it is the final state.
-/

namespace Wallie.StreamContract

open Fallible

variable {env : Env} {s middle next s' : State} {stream stream' : Stream} {id now : ℕ}
  {address sender : Address} {done : Unit} {lines : List PayoutLine} {aggregateRefund : ℤ}

/-! ## States with refunds paid -/

section Refunded

variable {amount : ℤ}

theorem payments_pushed (s : State) : (s.pushed env sender amount lines).payments =
    s.payments ++ lines.map fun line => (line.streamId, line.amount) := by
  simp [State.payments, State.pushed, payoutsOf, List.map_map, Function.comp_def]

theorem settlements_pushed (s : State) : (s.pushed env sender amount lines).settlements =
    s.settlements ++ lines.filterMap fun line =>
      if line.kind = .keeperSettlement then some (line.streamId, line.amount) else none := by
  simp [State.settlements, State.pushed, payoutsOf, List.filterMap_map]

theorem balances_pushed (s : State) (other : sender ≠ env.currentContractAddress) :
    (s.pushed env sender amount lines).balances env.currentContractAddress =
      s.balances env.currentContractAddress - amount := by
  simp [State.pushed, movedBalances, Function.update_of_ne other.symm]

/-- Nothing has been paid when no refund is collected. -/
theorem book_pushed_nothing (other : sender ≠ env.currentContractAddress) :
    (s.pushed env sender 0 []).book env.currentContractAddress =
      s.book env.currentContractAddress := by
  have same : State.SameAccounts s (s.pushed env sender 0 []) :=
    ⟨rfl, rfl, rfl, rfl, rfl, rfl, rfl, by simp [payments_pushed], by simp [settlements_pushed]⟩
  exact same.book_eq (by rw [balances_pushed s other, sub_zero])

end Refunded

/-- The line of a refund, if there is one. -/
def refundLines (id : ℕ) (refund : ℤ) : List PayoutLine :=
  if 0 < refund then [⟨id, .cancelRefund, refund⟩] else []

theorem sumFor_refundLines {refund : ℤ} (nonneg : 0 ≤ refund) (key : ℕ) :
    sumFor key ((refundLines id refund).map fun line => (line.streamId, line.amount)) =
      if id = key then refund else 0 := by
  unfold refundLines
  split
  · simp
  · obtain rfl : refund = 0 := by omega
    simp

theorem settlements_refundLines (id : ℕ) (refund : ℤ) :
    ((refundLines id refund).filterMap fun line =>
      if line.kind = .keeperSettlement then some (line.streamId, line.amount) else none) = [] := by
  unfold refundLines
  split <;> simp

/-- The payment of a recipient with the refund of the sender is one step of the book. -/
theorem settle_steps {payment refund : ℤ} (nonneg : 0 ≤ refund)
    (pays : State.Pays env.currentContractAddress
      { s with totalLiabilities := releasedLiabilities s.totalLiabilities payment } middle id
      payment 0)
    (written : State.Written env.currentContractAddress middle next stream stream'
      (.cancel refund))
    (formed : stream.WellFormed id now) (stored : s.streams id = some stream)
    (moves : stream.Moves now (.settle payment refund) stream')
    (other : sender ≠ env.currentContractAddress) :
    Book.Steps now ((s.pushed env sender aggregateRefund lines).book env.currentContractAddress)
      (.change id (.settle payment refund))
      ((next.pushed env sender (aggregateRefund + refund) (lines ++ refundLines id refund)).book
        env.currentContractAddress) := by
  have moved : State.MovedBy (s.pushed env sender aggregateRefund lines)
      (next.pushed env sender (aggregateRefund + refund) (lines ++ refundLines id refund))
      id stream stream' (.settle payment refund) := by
    constructor
    · exact written.initialised.trans pays.initialised
    · exact written.streams.trans (by rw [pays.streams, formed.streamId]; rfl)
    · exact written.nextStreamId.trans pays.nextStreamId
    · exact written.idReservation.trans pays.idReservation
    · exact written.totalLiabilities.trans (by rw [pays.totalLiabilities]; rfl)
    · exact written.pausedStreamCount.trans (by rw [pays.pausedStreamCount]; rfl)
    · intro key
      have fundings := written.fundings.trans pays.fundings
      simp only [State.deposited, Move.received, ite_self, add_zero]
      exact congrArg (sumFor key) fundings
    · intro key
      have paidOut : sumFor key middle.payments =
          sumFor key s.payments + if id = key then payment else 0 := pays.paidOut key
      simp only [State.paidOut, payments_pushed, written.payments, List.map_append, sumFor_append,
        sumFor_refundLines nonneg, Move.paid]
      rw [paidOut]
      split <;> ring
    · intro key
      have settled : sumFor key middle.settlements =
          sumFor key s.settlements + if id = key then 0 else 0 := pays.settledByKeeper key
      simp only [State.settledByKeeper, settlements_pushed, written.settlements,
        List.filterMap_append, settlements_refundLines, sumFor_append, sumFor_nil,
        Move.settledByKeeper]
      rw [settled]
      ring
    · have fundings := written.fundings.trans pays.fundings
      simp only [State.totalDeposited, Move.received, add_zero]
      exact congrArg (fun entries => (entries.map Prod.snd).sum) fundings
  refine moved.steps stored moves (by simp) ?_
  have funded := pays.funded
  rw [balances_pushed _ other, balances_pushed _ other, written.balances]
  simp only [Move.received, Move.paid]
  dsimp only at funded
  omega

/-! ## The loop -/

/-- A settlement of the recipient with a refund of the sender. -/
@[simp]
def Move.Settles (move : Move) : Prop :=
  ∃ payment refund, move = .settle payment refund

theorem runs_loadCancellable {ids : List ℕ} {streams : List Stream}
    (run : Runs (loadCancellable sender ids) env s streams s')
    (formed : (s.book address).WellFormed now) :
    s' = s ∧ ids.Nodup ∧ streams.map Stream.streamId = ids ∧
      ∀ stream ∈ streams, s.streams stream.streamId = some stream ∧ stream.Live ∧
        stream.sender = sender := by
  induction ids generalizing streams with
  | nil =>
      rcases runs_pure.mp run with ⟨rfl, rfl⟩
      simp
  | cons id rest ih =>
      simp only [loadCancellable, requireCancellableStatus, runs_bind, runs_rejectIf,
        runs_loadStream, runs_pure, and_assoc, exists_and_left, exists_eq_left,
        exists_const] at run
      rcases run with ⟨unique, stream, stored, owned, open_, others, _, loaded, rfl, rfl⟩
      rcases ih loaded with ⟨rfl, nodup, ids_eq, found⟩
      have record := formed.records id stream stored
      refine ⟨rfl, List.nodup_cons.mpr ⟨unique, nodup⟩, ?_, ?_⟩
      · rw [List.map_cons, ids_eq, record.streamId]
      · rw [List.forall_mem_cons, record.streamId]
        exact ⟨⟨stored, Stream.live_of_open open_, not_not.mp owned⟩, found⟩

/-! ## One round of the loop -/

/-- The record once its recipient is paid what has accrued and the stream is cancelled. -/
def Stream.settledNow (stream : Stream) (now : ℕ) : Stream :=
  ({ stream with
    withdrawnAmount := stream.withdrawnAmount + stream.claimable now }).cancelledNow now

/-- The state once the recipient is paid what is claimable. -/
def State.recipientSettled (s : State) (env : Env) (stream : Stream) : State :=
  let payment := stream.claimable env.timestamp
  { s.pushedPositive env stream.recipient payment stream.streamId .bulkSettlement with
    totalLiabilities := releasedLiabilities s.totalLiabilities payment
    events := s.events ++
      if 0 < payment then [.withdrew stream.streamId stream.recipient payment] else [] }

/-- The state after one round, in which the refund is not yet paid. -/
def State.settled (s : State) (env : Env) (stream : Stream) : State :=
  let middle := s.recipientSettled env stream
  { middle with
    streams :=
      Function.update middle.streams stream.streamId (some (stream.settledNow env.timestamp))
    pausedStreamCount := reconciledCount stream.status .cancelled middle.pausedStreamCount
    totalLiabilities :=
      releasedLiabilities middle.totalLiabilities (stream.unstreamed env.timestamp)
    events := middle.events ++ .cancelled stream.streamId ::
      healthEvents (stream.settledNow env.timestamp) stream.isUnderfunded env.timestamp }

/-- The events of one round. -/
def Stream.settlementEvents (stream : Stream) (now : ℕ) : List Event :=
  (if 0 < stream.claimable now then
      [.withdrew stream.streamId stream.recipient (stream.claimable now)]
    else []) ++
    .cancelled stream.streamId :: healthEvents (stream.settledNow now) stream.isUnderfunded now

/-- The contract can pay the recipient what is claimable. -/
def State.SettlesRecipient (s : State) (env : Env) (stream : Stream) : Prop :=
  let payment := stream.claimable env.timestamp
  0 < payment → s.config.isSome = true ∧ TransferAllowed env
    { s with totalLiabilities := reducedLiabilities s.totalLiabilities payment }
    env.currentContractAddress stream.recipient payment

theorem runs_payRecipientAccrual {paid : Stream}
    (formed : stream.WellFormed stream.streamId env.timestamp) :
    Runs (payRecipientAccrual stream env.timestamp) env s paid s' ↔
      s.SettlesRecipient env stream ∧
      paid = { stream with
        withdrawnAmount := stream.withdrawnAmount + stream.claimable env.timestamp } ∧
      s' = s.recipientSettled env stream := by
  have nonneg : 0 ≤ stream.claimable env.timestamp := le_max_right _ _
  unfold payRecipientAccrual State.SettlesRecipient State.recipientSettled State.pushedPositive
  dsimp only
  rcases nonneg.lt_or_eq with positive | nothing
  · simp only [positive, if_true, runs_bind, runs_reduceLiabilities, runs_pushToken, runs_publish,
      runs_pure, formed.check_withdrawn, Option.getD_some, releasedLiabilities, and_assoc,
      exists_and_left, exists_eq_left, exists_const, true_implies]
    rfl
  · simp [← nothing, releasedLiabilities]

/-- A round settles the first stream and leaves the others to the next rounds. -/
theorem runs_bulkCancelLoop_cons {rest : List Stream} {collected : ℤ × List PayoutLine}
    (formed : stream.WellFormed stream.streamId env.timestamp) :
    Runs (bulkCancelLoop env.timestamp (stream :: rest) aggregateRefund lines) env s collected
        s' ↔
      i128.Contains (stream.unstreamed env.timestamp) ∧ s.SettlesRecipient env stream ∧
      (0 < stream.unstreamed env.timestamp →
        i128.Contains (aggregateRefund + stream.unstreamed env.timestamp)) ∧
      Runs (bulkCancelLoop env.timestamp rest (aggregateRefund + stream.unstreamed env.timestamp)
        (lines ++ refundLines stream.streamId (stream.unstreamed env.timestamp))) env
        (s.settled env stream) collected s' := by
  have nonneg := formed.bounded.unstreamed_nonneg env.timestamp
  have same : stream.depositAmount - stream.accruedAt env.timestamp =
      stream.unstreamed env.timestamp := rfl
  simp only [bulkCancelLoop, runs_bind, runs_checkedI128, runs_payRecipientAccrual formed,
    runs_saveStream, runs_reconcilePausedStreamCount, same, and_assoc, exists_and_left,
    exists_eq_left]
  refine and_congr_right fun _ => and_congr_right fun _ => ?_
  unfold State.settled refundLines releasedLiabilities
  rcases nonneg.lt_or_eq with positive | nothing
  · simp only [positive, if_true, runs_bind, runs_checkedI128, runs_reduceLiabilities, runs_publish,
      runs_maybeEmitHealthChanged, and_assoc, exists_and_left, exists_eq_left, exists_const,
      true_implies, List.append_assoc, List.singleton_append]
    rfl
  · simp only [← nothing, lt_irrefl, if_false, runs_bind, runs_publish,
      runs_maybeEmitHealthChanged, exists_const, exists_eq_left, false_implies, true_and,
      add_zero, List.append_nil, List.append_assoc, List.singleton_append]
    rfl

@[simp]
theorem State.settled_streams : (s.settled env stream).streams =
    Function.update s.streams stream.streamId (some (stream.settledNow env.timestamp)) := by
  simp [State.settled, State.recipientSettled]

/-- A stream listed after the settled one keeps its record. -/
theorem State.stored_settled {later : Stream} {rest : List Stream}
    (fresh : stream.streamId ∉ rest.map Stream.streamId) (member : later ∈ rest) :
    (s.settled env stream).streams later.streamId = s.streams later.streamId := by
  have distinct : later.streamId ≠ stream.streamId := by
    intro same
    exact fresh (same ▸ List.mem_map_of_mem member)
  rw [State.settled_streams, Function.update_of_ne distinct]

theorem State.settled_events : (s.settled env stream).events =
    s.events ++ stream.settlementEvents env.timestamp := by
  simp [State.settled, State.recipientSettled, Stream.settlementEvents]

/-- The payment of the recipient, and the liabilities follow. -/
theorem pays_recipientSettled :
    State.Pays env.currentContractAddress
      { s with
        totalLiabilities := releasedLiabilities s.totalLiabilities
          (stream.claimable env.timestamp) }
      (s.recipientSettled env stream) stream.streamId (stream.claimable env.timestamp) 0 := by
  have nonneg : 0 ≤ stream.claimable env.timestamp := le_max_right _ _
  unfold State.recipientSettled State.pushedPositive
  rcases nonneg.lt_or_eq with positive | nothing
  · simp only [if_pos positive]
    exact (State.pays_of_pushed .bulkSettlement nonneg).followed
      (State.sameAccounts_of_events (by simp [State.fundings, Event.funding, State.pushed])) rfl
  · simp only [← nothing, lt_irrefl, if_false]
    exact (State.SameAccounts.refl _).pays rfl |>.followed
      (State.sameAccounts_of_events (by simp [State.fundings])) rfl

/-- The cancellation of the record, and the refund is released but not yet paid. -/
theorem written_settled :
    State.Written env.currentContractAddress (s.recipientSettled env stream)
      (s.settled env stream) stream (stream.settledNow env.timestamp)
      (.cancel (stream.unstreamed env.timestamp)) := by
  have quiet : (Event.cancelled stream.streamId :: healthEvents (stream.settledNow env.timestamp)
      stream.isUnderfunded env.timestamp).filterMap Event.funding = [] :=
    fundings_health _ _ _
  refine ⟨rfl, rfl, rfl, rfl, rfl, rfl, ?_, rfl, rfl, rfl⟩
  exact List.filterMap_append.trans (by rw [quiet, List.append_nil]; rfl)

/-- The refunds collected so far, with their lines. -/
structure Collected (aggregateRefund : ℤ) (lines : List PayoutLine) : Prop where
  nonneg : 0 ≤ aggregateRefund
  nothing : aggregateRefund = 0 → lines = []

theorem Collected.add (collected : Collected aggregateRefund lines) {refund : ℤ}
    (nonneg : 0 ≤ refund) :
    Collected (aggregateRefund + refund) (lines ++ refundLines id refund) where
  nonneg := add_nonneg collected.nonneg nonneg
  nothing := by
    intro zero
    have before := collected.nonneg
    rw [collected.nothing (by omega), refundLines, if_neg (by omega), List.append_nil]

theorem bulkCancelLoop_refines {streams : List Stream} {collected : ℤ × List PayoutLine}
    (run : Runs (bulkCancelLoop env.timestamp streams aggregateRefund lines) env s collected s')
    (records : ∀ stream ∈ streams, s.streams stream.streamId = some stream ∧ stream.Live ∧
      stream.WellFormed stream.streamId env.timestamp)
    (nodup : (streams.map Stream.streamId).Nodup) (other : sender ≠ env.currentContractAddress)
    (before : Collected aggregateRefund lines) :
    Refines env (ChangesOneOf Move.Settles (streams.map Stream.streamId))
      (s.pushed env sender aggregateRefund lines) (s'.pushed env sender collected.1 collected.2) ∧
      Collected collected.1 collected.2 := by
  induction streams generalizing s aggregateRefund lines with
  | nil =>
      rcases runs_pure.mp run with ⟨rfl, rfl⟩
      exact ⟨.refl _, before⟩
  | cons stream rest ih =>
      rcases List.forall_mem_cons.mp records with ⟨⟨stored, live, record⟩, others⟩
      rcases List.nodup_cons.mp nodup with ⟨fresh, nodup⟩
      rcases (runs_bulkCancelLoop_cons record).mp run with ⟨-, -, -, run⟩
      have nonneg := record.bounded.unstreamed_nonneg env.timestamp
      have moves : stream.Moves env.timestamp (.settle (stream.claimable env.timestamp)
          (stream.unstreamed env.timestamp)) (stream.settledNow env.timestamp) :=
        .settle live (record.claimable_eq env.timestamp) (add_sub_cancel _ _)
      have stillStored : ∀ later ∈ rest, (s.settled env stream).streams later.streamId =
          some later ∧ later.Live ∧ later.WellFormed later.streamId env.timestamp := by
        intro later member
        rw [State.stored_settled fresh member]
        exact others later member
      rcases ih run stillStored nodup (before.add nonneg) with ⟨refines, after⟩
      refine ⟨?_, after⟩
      exact .cons (.head ⟨_, ⟨_, _, rfl⟩, rfl⟩)
        (settle_steps nonneg pays_recipientSettled written_settled record stored moves other)
        refines (fun _ => ChangesOneOf.tail)
        (ChangesOneOf.others (List.nodup_cons.mpr ⟨fresh, nodup⟩))

/-- A bulk cancellation loads the listed streams, settles them one by one and pays their refunds in
one transfer. -/
theorem bulkCancelStreams_cases {ids : List ℕ}
    (run : Runs (bulkCancelStreams sender ids) env s done s')
    (formed : (s.book address).WellFormed now) :
    env.auth sender = true ∧ ∃ streams : List Stream, ids = streams.map Stream.streamId ∧
      ids.Nodup ∧ (∀ stream ∈ streams, s.streams stream.streamId = some stream ∧ stream.Live ∧
        stream.sender = sender) ∧
      ∃ collected settled,
        Runs (bulkCancelLoop env.timestamp streams 0 []) env s collected settled ∧
        (0 < collected.1 ∧ s' = settled.pushed env sender collected.1 collected.2 ∨
          ¬ 0 < collected.1 ∧ s' = settled) := by
  simp only [bulkCancelStreams, runs_bind, runs_requireNotGloballyPaused, runs_requireAuth,
    runs_ite, runs_pure, runs_ask, runs_pushToken, and_assoc, exists_and_left, exists_eq_left,
    exists_const] at run
  rcases run with
    ⟨-, authorised, ⟨rfl, -, rfl⟩ | ⟨-, streams, _, loaded, collected, settled, looped, run⟩⟩
  · exact ⟨authorised, [], rfl, List.nodup_nil, by simp, _, _, runs_pure.mpr ⟨rfl, rfl⟩,
      Or.inr ⟨lt_irrefl 0, rfl⟩⟩
  · rcases runs_loadCancellable loaded formed with ⟨rfl, nodup, rfl, found⟩
    refine ⟨authorised, streams, rfl, nodup, found, collected, settled, looped, ?_⟩
    rcases run with ⟨positive, -, -, rfl⟩ | ⟨nothing, -, rfl⟩
    · exact Or.inl ⟨positive, rfl⟩
    · exact Or.inr ⟨nothing, rfl⟩

theorem bulkCancelStreams_refines {ids : List ℕ}
    (run : Runs (bulkCancelStreams sender ids) env s done s')
    (formed : (s.book env.currentContractAddress).WellFormed env.timestamp)
    (noSelfAuth : env.auth env.currentContractAddress = false) :
    Refines env (ChangesOneOf Move.Settles ids) s s' := by
  rcases bulkCancelStreams_cases run formed with
    ⟨authorised, streams, rfl, nodup, found, collected, settled, looped, paid⟩
  have other : sender ≠ env.currentContractAddress := by
    rintro rfl
    simp [authorised] at noSelfAuth
  have records : ∀ stream ∈ streams, _ ∧ stream.Live ∧ _ := fun stream member =>
    ⟨(found stream member).1, (found stream member).2.1,
      formed.records _ stream (found stream member).1⟩
  rcases bulkCancelLoop_refines looped records nodup other ⟨le_rfl, fun _ => rfl⟩ with
    ⟨refines, complete⟩
  rcases paid with ⟨-, rfl⟩ | ⟨unrefunded, rfl⟩
  · exact refines.congr (book_pushed_nothing other).symm rfl
  · have zero : collected.1 = 0 := by
      have nonneg := complete.nonneg
      omega
    rw [complete.nothing zero, zero] at refines
    exact refines.congr (book_pushed_nothing other).symm (book_pushed_nothing other).symm

end Wallie.StreamContract
