import Wallie.Ledger.Payments
import Wallie.Ledger.RefineBulkCancel
import Wallie.Ledger.RefineRegistry
import Wallie.StreamContract.EntrypointWrites
import Wallie.StreamContract.ScheduleRules

/-!
# What is published of the records

An indexer keeps a row for each stream and changes it by the events alone. Every
entrypoint publishes exactly the updates that take the rows of the stored
records before to those after. A change of one record is checked on its row; the
rest of what an entrypoint does leaves the records and the updates alone.
-/

namespace Wallie.StreamContract

open Fallible

variable {env : Env} {s middle s' : State} {stream after : Stream} {id : ℕ} {done : Unit}
  {path : PayoutPath} {destination sender : Address} {amount : ℤ} {call : Call}
  {change : Option IndexedStream → Option IndexedStream}
  {log : List (EventLog.Update ℕ IndexedStream)}

/-- The published updates take the rows of the stored records before to those after. -/
def Announced (_ : Env) (s s' : State) : Prop :=
  EventLog.Explains State.announcements State.storedIndex s s'

instance : StepRelation Announced where
  refl := fun _ s => .refl s
  trans := fun _ _ _ _ first second => first.trans second

/-- The records are stored under their ids. -/
def State.Keyed (s : State) : Prop :=
  ∀ id stream, s.streams id = some stream → stream.streamId = id

theorem Book.WellFormed.keyed {address : Address} {now : ℕ}
    (formed : (s.book address).WellFormed now) : s.Keyed :=
  fun id stream stored => (formed.records id stream stored).streamId

/-! ## One record -/

theorem storedIndex_update {record : Option Stream}
    (streams : s'.streams = Function.update s.streams id record) :
    s'.storedIndex = Function.update s.storedIndex id (record.map Stream.indexed) := by
  funext key
  rw [State.storedIndex, streams]
  rcases eq_or_ne key id with rfl | other
  · rw [Function.update_self, Function.update_self]
  · rw [Function.update_of_ne other, Function.update_of_ne other, State.storedIndex]

theorem storedIndex_of_stored (stored : s.streams id = some stream) :
    s.storedIndex id = some stream.indexed := by
  rw [State.storedIndex, stored, Option.map_some]

theorem announcements_publish {event : Event} (published : s'.events = middle.events ++ [event])
    (unpublished : middle.announcements = s.announcements) :
    s'.announcements = s.announcements ++ event.indexed.toList := by
  rw [← unpublished, State.announcements, published, List.filterMap_append]
  cases indexed : event.indexed with
  | none => rw [List.filterMap_cons_none indexed, State.announcements]; rfl
  | some update => rw [List.filterMap_cons_some indexed, State.announcements]; rfl

namespace Announced

theorem of_same (streams : s'.streams = s.streams)
    (announcements : s'.announcements = s.announcements) : Announced env s s' := by
  refine EventLog.Explains.of_same announcements ?_
  unfold State.storedIndex
  rw [streams]

/-- One record changes, and the updates published are those of its row. -/
theorem of_record {record : Option Stream}
    (streams : s'.streams = Function.update s.streams id record)
    (announced : s'.announcements = s.announcements ++ log)
    (about : ∀ update ∈ log, update.1 = id)
    (told : log.foldl (fun row update => update.2 row) (s.storedIndex id) =
      record.map Stream.indexed) : Announced env s s' := by
  refine ⟨log, announced, ?_⟩
  rw [EventLog.replay_of_key about, told, storedIndex_update streams]

/-- One record is written, and one event published of it. -/
theorem of_event {record : Option Stream} {event : Event}
    (announced : s'.announcements = s.announcements ++ event.indexed.toList)
    (indexed : event.indexed = some (id, change))
    (streams : s'.streams = Function.update s.streams id record)
    (told : change (s.storedIndex id) = record.map Stream.indexed) : Announced env s s' := by
  rw [indexed] at announced
  exact of_record streams announced (by simp) told

/-- A stored record changes, and its row changes in the same way. -/
theorem of_change {event : Event} (stored : s.streams id = some stream)
    (announced : s'.announcements = s.announcements ++ event.indexed.toList)
    (indexed : event.indexed = some (id, change))
    (streams : s'.streams = Function.update s.streams id (some after))
    (told : change (some stream.indexed) = some after.indexed) : Announced env s s' :=
  of_event announced indexed streams (by rw [storedIndex_of_stored stored, told, Option.map_some])

end Announced

/-- What leaves the records and the updates alone. -/
theorem announces_of_keeps {α : Type} {computation : Contract α}
    (keeps : Keeps (OnlyWrites [.balances, .recipientStreams, .ids]) computation) :
    Keeps Announced computation := by
  intro env s result s' run
  have unwritten := keeps run
  exact .of_same (unwritten.streams (by simp)) (unwritten.announcements (by simp))

/-! ## Creations -/

theorem announces_persistStream {addToIndex : Address → ℕ → Contract Unit}
    {params : CreateStreamParams}
    (indexes : ∀ recipient id,
      Keeps (OnlyWrites [.balances, .recipientStreams, .ids]) (addToIndex recipient id)) :
    Keeps Announced (persistStream addToIndex sender params) := by
  intro env s id s' run
  simp only [persistStream, runs_bind, runs_rejectIf, runs_saveStream, runs_increaseLiabilities,
    runs_publish, runs_pure, and_assoc, exists_and_left, exists_eq_left, exists_const] at run
  rcases run with ⟨-, _, counted, allocated, _, middle, added, rfl, rfl⟩
  have ids : OnlyWrites [.ids] env s counted := keeps_nextStreamIdFor (by simp) allocated
  have index := indexes _ _ added
  have streams : middle.streams =
      Function.update s.streams id (some (newStream id sender params)) :=
    (index.streams (by simp)).trans (by rw [ids.streams (by simp)]; rfl)
  have announcements : middle.announcements = s.announcements :=
    (index.announcements (by simp)).trans (ids.announcements (by simp))
  exact .of_event (announcements_publish rfl announcements) rfl streams rfl

/-- Every creating entrypoint does. -/
theorem announces_persistAll {streams : List CreateStreamParams} {ids : List ℕ}
    {cache : RecipientCache} : Keeps Announced (persistAll sender streams ids cache) := by
  induction streams generalizing ids cache with
  | nil => exact keeps_pure
  | cons params rest ih =>
      exact keeps_bind (announces_persistStream fun _ _ => keeps_pure) fun _ => ih

theorem announces_persistNewStream {params : CreateStreamParams} :
    Keeps Announced (persistNewStream sender params) :=
  announces_persistStream fun _ _ => keeps_addStreamToRecipientIndex (by simp)

theorem announces_createOnePartial {now : ℕ} {params : CreateStreamParams} :
    Keeps Announced (createOnePartial sender now params) := by
  refine keeps_bind (keeps_attempt (announces_of_keeps keeps_validateStreamParams))
    fun validation => ?_
  cases validation with
  | error _ => exact keeps_pure
  | ok _ =>
      refine keeps_bind (keeps_attempt (announces_of_keeps (keeps_pullToken (by simp))))
        fun transfer => ?_
      cases transfer with
      | error _ => exact keeps_pure
      | ok _ =>
          refine keeps_bind (keeps_attempt announces_persistNewStream) fun persisted => ?_
          cases persisted <;> exact keeps_pure

theorem announces_createAllPartial {now : ℕ} {streams : List CreateStreamParams} :
    Keeps Announced (createAllPartial sender now streams) := by
  induction streams with
  | nil => exact keeps_pure
  | cons params rest ih =>
      exact keeps_bind announces_createOnePartial fun _ => keeps_bind ih fun _ => keeps_pure

theorem Call.announces_of_creates (creates : .creations ∈ call.writes) :
    Keeps Announced call.run := by
  cases call <;> simp only [Call.writes, List.mem_cons, reduceCtorEq, List.not_mem_nil, or_false,
    or_true, or_self] at creates
  all_goals
    simp only [Call.run, effect, StreamContract.createStream, StreamContract.createStreamRelative,
      StreamContract.createStreams, StreamContract.createStreamsRelative,
      StreamContract.createStreamsPartial, StreamContract.createStreamFromTemplate,
      loadStreamTemplate, StreamContract.cloneStream]
    repeat' with_reducible
      first
      | exact announces_persistNewStream
      | exact announces_persistAll
      | exact announces_createAllPartial
      | exact announces_of_keeps keeps_validateAll
      | exact announces_of_keeps keeps_absoluteAll
      | exact announces_of_keeps (keeps_flushCache (by simp))
      | refine keeps_bind ?_ fun _ => ?_
      | refine keeps_ite ?_ ?_
      | exact announces_of_keeps (by simp)

/-! ## Changes of the terms -/

theorem announced_of_updateRatePerSecond {rate : ℤ}
    (run : Runs (updateRatePerSecond id rate) env s done s') (keyed : s.Keyed) :
    Announced env s s' := by
  rcases updateRatePerSecond_cases run with ⟨stream, adjusts, -, -, -, -, rfl⟩
  have stored := adjusts.stored
  obtain rfl := keyed id stream stored
  exact .of_change stored (announcements_publish rfl rfl) rfl rfl rfl

theorem announced_of_updateRate {rate : ℤ} {caller : Address}
    (run : Runs (updateRate id rate caller) env s done s') (keyed : s.Keyed) :
    Announced env s s' := by
  rcases updateRate_cases run with ⟨stream, stored, -, -, -, rfl⟩
  obtain rfl := keyed id stream stored
  exact .of_change stored (announcements_publish rfl rfl) rfl rfl rfl

theorem announced_of_extendStreamEndTime {endTime : ℕ}
    (run : Runs (extendStreamEndTime id endTime) env s done s') (keyed : s.Keyed) :
    Announced env s s' := by
  rcases extendStreamEndTime_cases run with ⟨stream, adjusts, -, -, -, -, -, rfl⟩
  have stored := adjusts.stored
  obtain rfl := keyed id stream stored
  exact .of_change stored (announcements_publish rfl rfl) rfl rfl rfl

theorem announced_of_topUpStream {funder : Address}
    (run : Runs (topUpStream id funder amount) env s done s') (keyed : s.Keyed) :
    Announced env s s' := by
  rcases topUpStream_cases run with ⟨stream, -, stored, -, -, -, -, -, -, rfl⟩
  obtain rfl := keyed id stream stored
  exact .of_change stored (announcements_publish rfl rfl) rfl rfl rfl

/-- A refund leaves the records and the updates alone. -/
theorem frame_of_pushPositive {kind : PayoutKind} (undrawn : ¬ kind.drawn)
    (run : Runs (pushPositive destination amount id kind) env s done s') :
    s'.streams = s.streams ∧ s'.announcements = s.announcements := by
  have unwritten : OnlyWrites [.balances, .payouts] env s s' :=
    keeps_pushPositive (by simp) (by simp) undrawn run
  exact ⟨unwritten.streams (by simp), unwritten.announcements (by simp)⟩

theorem announced_of_decreaseRatePerSecond {rate : ℤ}
    (run : Runs (decreaseRatePerSecond id rate) env s done s') (keyed : s.Keyed) :
    Announced env s s' := by
  rcases decreaseRatePerSecond_cases run with
    ⟨stream, adjusts, -, -, -, -, middle, pushed, rfl⟩
  have stored := adjusts.stored
  obtain rfl := keyed id stream stored
  rcases frame_of_pushPositive (by simp) pushed with ⟨streams, announcements⟩
  refine .of_change stored (announcements_publish rfl announcements) rfl streams ?_
  simp [Stream.indexed, Stream.checkpointed]

theorem announced_of_shortenStreamEndTime {endTime : ℕ}
    (run : Runs (shortenStreamEndTime id endTime) env s done s') (keyed : s.Keyed) :
    Announced env s s' := by
  rcases shortenStreamEndTime_cases run with
    ⟨stream, adjusts, -, -, -, -, -, middle, pushed, rfl⟩
  have stored := adjusts.stored
  obtain rfl := keyed id stream stored
  rcases frame_of_pushPositive (by simp) pushed with ⟨streams, announcements⟩
  refine .of_change stored (announcements_publish rfl announcements) rfl streams ?_
  simp [Stream.indexed]

/-! ## Changes of the status -/

theorem writes_of_pauseLoadedStream (run : Runs (pauseLoadedStream stream) env s done s') :
    s'.announcements = s.announcements ∧ s'.streams = Function.update s.streams stream.streamId
      (some { stream with status := .paused, lastPauseToggleLedger := env.sequence }) := by
  rcases pauseLoadedStream_cases run with ⟨-, -, -, rfl⟩
  exact ⟨rfl, rfl⟩

theorem writes_of_resumeLoadedStream (run : Runs (resumeLoadedStream stream) env s done s') :
    s'.announcements = s.announcements ∧ s'.streams = Function.update s.streams stream.streamId
      (some { stream with status := .active, lastPauseToggleLedger := env.sequence }) := by
  rcases resumeLoadedStream_cases run with ⟨-, -, -, rfl⟩
  exact ⟨rfl, rfl⟩

theorem announced_of_pauseStream {reason : PauseReason}
    (run : Runs (pauseStream id reason) env s done s') (keyed : s.Keyed) : Announced env s s' := by
  rcases pauseStream_cases run with ⟨stream, middle, stored, -, paused, rfl⟩
  obtain rfl := keyed id stream stored
  rcases writes_of_pauseLoadedStream paused with ⟨announcements, streams⟩
  exact .of_change stored (announcements_publish rfl announcements) rfl streams rfl

theorem announced_of_pauseStreamAsAdmin {reason : PauseReason}
    (run : Runs (pauseStreamAsAdmin id reason) env s done s') (keyed : s.Keyed) :
    Announced env s s' := by
  rcases pauseStreamAsAdmin_cases run with ⟨admin, stream, middle, -, -, stored, paused, rfl⟩
  obtain rfl := keyed id stream stored
  rcases writes_of_pauseLoadedStream paused with ⟨announcements, streams⟩
  exact .of_change stored (announcements_publish rfl announcements) rfl streams rfl

theorem announced_of_resumeStream (run : Runs (resumeStream id) env s done s') (keyed : s.Keyed) :
    Announced env s s' := by
  rcases resumeStream_cases run with ⟨stream, middle, stored, -, resumed, rfl⟩
  obtain rfl := keyed id stream stored
  rcases writes_of_resumeLoadedStream resumed with ⟨announcements, streams⟩
  exact .of_change stored (announcements_publish rfl announcements) rfl streams rfl

theorem announced_of_resumeStreamAsAdmin (run : Runs (resumeStreamAsAdmin id) env s done s')
    (keyed : s.Keyed) : Announced env s s' := by
  rcases resumeStreamAsAdmin_cases run with ⟨admin, stream, middle, -, -, stored, resumed, rfl⟩
  obtain rfl := keyed id stream stored
  rcases writes_of_resumeLoadedStream resumed with ⟨announcements, streams⟩
  exact .of_change stored (announcements_publish rfl announcements) rfl streams rfl

theorem announced_of_cancelStreamInternal
    (run : Runs (cancelStreamInternal stream) env s done s')
    (stored : s.streams stream.streamId = some stream) : Announced env s s' := by
  rcases cancelStreamInternal_cases run with ⟨-, -, -, middle, pushed, rfl⟩
  rcases frame_of_pushPositive (by simp) pushed with ⟨streams, announcements⟩
  exact .of_change stored (announcements_publish rfl announcements) rfl streams rfl

theorem announced_of_cancelStream (run : Runs (cancelStream id) env s done s') (keyed : s.Keyed) :
    Announced env s s' := by
  rcases cancelStream_cases run with ⟨stream, -, stored, -, cancels⟩
  obtain rfl := keyed id stream stored
  exact announced_of_cancelStreamInternal cancels stored

theorem announced_of_cancelStreamAsAdmin (run : Runs (cancelStreamAsAdmin id) env s done s')
    (keyed : s.Keyed) : Announced env s s' := by
  rcases cancelStreamAsAdmin_cases run with ⟨admin, stream, -, -, stored, cancels⟩
  obtain rfl := keyed id stream stored
  exact announced_of_cancelStreamInternal cancels stored

theorem frame_of_health {wasUnderfunded : Bool} {now : ℕ}
    (run : Runs (maybeEmitHealthChanged stream wasUnderfunded now) env s done s') :
    s'.streams = s.streams ∧ s'.announcements = s.announcements := by
  have unwritten : OnlyWrites [] env s s' := keeps_maybeEmitHealthChanged run
  exact ⟨unwritten.streams (by simp), unwritten.announcements (by simp)⟩

theorem announced_of_keeperCancel {keeper : Address}
    (run : Runs (keeperCancel id keeper) env s done s') (keyed : s.Keyed) : Announced env s s' := by
  rcases keeperCancel_cases run with
    ⟨stream, stored, -, -, -, -, _, _, last, toRecipient, toSender, toKeeper, health⟩
  obtain rfl := keyed id stream stored
  have transfers : OnlyWrites [.balances, .payouts] env _ last :=
    StepRelation.trans _ _ _ _ (keeps_pushPositive (by simp) (by simp) (by simp) toRecipient)
      (StepRelation.trans _ _ _ _ (keeps_pushPositive (by simp) (by simp) (by simp) toSender)
        (keeps_payKeeperFee (by simp) (by simp) toKeeper))
  rcases frame_of_health health with ⟨streams, announcements⟩
  refine .of_change stored (announcements.trans
    (announcements_publish rfl (transfers.announcements (by simp)))) rfl
    (streams.trans (transfers.streams (by simp))) rfl

theorem announced_closed : Announced env s (s.closed stream id) :=
  .of_event (announcements_publish rfl rfl) rfl rfl rfl

theorem announced_of_closeCompletedStream (run : Runs (closeCompletedStream id) env s done s') :
    Announced env s s' := by
  rcases closeCompletedStream_cases run with ⟨stream, -, -, rfl⟩
  exact announced_closed

theorem announced_of_closeCancelledStream (run : Runs (closeCancelledStream id) env s done s') :
    Announced env s s' := by
  rcases runs_closeCancelledStream.mp run with ⟨stream, -, -, -, rfl⟩
  exact announced_closed

theorem announced_of_acceptRecipientUpdate (run : Runs (acceptRecipientUpdate id) env s done s')
    (keyed : s.Keyed) : Announced env s s' := by
  rcases acceptRecipientUpdate_cases run with ⟨stream, pending, -, stored, -, -, rfl⟩
  obtain rfl := keyed id stream stored
  exact .of_change stored (announcements_publish rfl rfl) rfl rfl rfl

/-! ## The bulk cancellation -/

/-- A round of the bulk cancellation announces the payment, if there is one, and the
cancellation. -/
theorem announced_settled (stored : s.streams stream.streamId = some stream) :
    Announced env s (s.settled env stream) := by
  have health : (healthEvents (stream.settledNow env.timestamp) stream.isUnderfunded
      env.timestamp).filterMap Event.indexed = [] :=
    filterMap_healthEvents (fun _ _ _ _ => rfl) _ _ _
  have cancelled : (Event.cancelled stream.streamId :: healthEvents
      (stream.settledNow env.timestamp) stream.isUnderfunded env.timestamp).filterMap
        Event.indexed = [(stream.streamId, Option.map (IndexedStream.withStatus · .cancelled))] :=
    congrArg (List.cons _) health
  have nonneg : 0 ≤ stream.claimable env.timestamp := le_max_right _ _
  have published : (s.settled env stream).announcements =
      s.announcements ++ (stream.settlementEvents env.timestamp).filterMap Event.indexed := by
    rw [State.announcements, State.settled_events, List.filterMap_append, State.announcements]
  rw [Stream.settlementEvents, List.filterMap_append, cancelled] at published
  refine .of_record State.settled_streams published ?_ ?_
  · split <;> simp [Event.indexed]
  · rw [storedIndex_of_stored stored]
    rcases nonneg.lt_or_eq with positive | nothing
    · rw [if_pos positive]
      rfl
    · rw [← nothing, if_neg (lt_irrefl 0), Stream.settledNow, ← nothing, add_zero]
      rfl

theorem announced_of_bulkCancelLoop {streams : List Stream} {aggregateRefund : ℤ}
    {lines : List PayoutLine} {collected : ℤ × List PayoutLine}
    (run : Runs (bulkCancelLoop env.timestamp streams aggregateRefund lines) env s collected s')
    (records : ∀ stream ∈ streams, s.streams stream.streamId = some stream ∧
      stream.WellFormed stream.streamId env.timestamp)
    (nodup : (streams.map Stream.streamId).Nodup) : Announced env s s' := by
  induction streams generalizing s aggregateRefund lines with
  | nil =>
      rcases runs_pure.mp run with ⟨-, rfl⟩
      exact StepRelation.refl _ _
  | cons stream rest ih =>
      rcases List.forall_mem_cons.mp records with ⟨⟨stored, formed⟩, others⟩
      rcases List.nodup_cons.mp nodup with ⟨fresh, nodup⟩
      rcases (runs_bulkCancelLoop_cons formed).mp run with ⟨-, -, -, run⟩
      refine (announced_settled stored).trans (ih run ?_ nodup)
      intro later member
      rw [State.stored_settled fresh member]
      exact others later member

theorem announced_of_bulkCancelStreams {address : Address} {ids : List ℕ}
    (run : Runs (bulkCancelStreams sender ids) env s done s')
    (formed : (s.book address).WellFormed env.timestamp) : Announced env s s' := by
  rcases bulkCancelStreams_cases run formed with
    ⟨-, streams, rfl, nodup, found, collected, settled, looped, paid⟩
  have cancels : Announced env s settled := announced_of_bulkCancelLoop looped
    (fun stream member => ⟨(found stream member).1,
      formed.records _ stream (found stream member).1⟩) nodup
  rcases paid with ⟨-, rfl⟩ | ⟨-, rfl⟩
  · exact cancels.trans (.of_same rfl rfl)
  · exact cancels

/-! ## Payments -/

/-- A payment that changes the status completes the stream. -/
theorem Stream.paid_status {ledger : ℕ}
    (changed : (stream.paid path amount ledger).status ≠ stream.status) :
    (stream.paid path amount ledger).status = .completed := by
  have status : (stream.paid path amount ledger).status =
      (stream.withdrawnTo (stream.withdrawnAmount + amount)).status := rfl
  rw [status, Stream.withdrawnTo] at changed ⊢
  dsimp only at changed ⊢
  split at changed
  · next drained => rw [if_pos drained]
  · exact absurd rfl changed

theorem Stream.indexed_paid {ledger : ℕ} :
    (stream.paid path amount ledger).indexed =
      (stream.indexed.withdraw amount).withStatus (stream.paid path amount ledger).status :=
  rfl

theorem PaysThrough.announced (pays : PaysThrough env path id stream destination amount s s')
    (keyed : s.Keyed) : Announced env s s' := by
  obtain rfl := keyed id stream pays.stored
  have drawn : (path.events stream stream.streamId destination amount).filterMap Event.indexed =
      [(stream.streamId, Option.map (IndexedStream.withdraw · amount))] := by
    cases path <;> rfl
  have published : s'.announcements = s.announcements ++
      ([(stream.streamId, Option.map (IndexedStream.withdraw · amount))] ++
        (completionEvents stream (stream.paid path amount env.sequence)).filterMap
          Event.indexed) := by
    rw [State.announcements, pays.events, List.filterMap_append, List.filterMap_append, drawn,
      List.append_assoc, State.announcements]
  unfold completionEvents at published
  by_cases same : (stream.paid path amount env.sequence).status = stream.status
  · rw [if_pos same] at published
    refine .of_record pays.streams published (by simp) ?_
    rw [storedIndex_of_stored pays.stored, Option.map_some, Stream.indexed_paid, same]
    rfl
  · rw [if_neg same] at published
    refine .of_record pays.streams published (by simp [Stream.paid, Stream.withdrawnTo,
      Stream.notedAt]) ?_
    rw [storedIndex_of_stored pays.stored, Option.map_some, Stream.indexed_paid,
      Stream.paid_status same]
    rfl

theorem PaymentsOf.announced {entries : List (ℕ × Option Address)}
    (payments : PaymentsOf env path entries s s') (keyed : s.Keyed) : Announced env s s' := by
  induction payments with
  | nil => exact StepRelation.refl _ _
  | skip rest ih => exact ih keyed
  | pay pays rest ih => exact (pays.announced keyed).trans (ih (pays.keyed keyed))

theorem PaysStreams.announced {ids : List ℕ} (pays : PaysStreams env path ids s s')
    (keyed : s.Keyed) : Announced env s s' := by
  rcases pays.payments with ⟨entries, s₀, -, ⟨noted, rfl⟩, payments⟩
  have read : Announced env s { s with lastAccrualLedgerTimestamp := noted } := .of_same rfl rfl
  exact read.trans (payments.announced keyed)

/-! ## Calls -/

/-- Every call publishes the changes it makes to the records. -/
theorem Call.announced {address : Address} (run : Runs call.run env s () s')
    (formed : (s.book address).WellFormed env.timestamp) : Announced env s s' := by
  have keyed := formed.keyed
  by_cases creates : .creations ∈ call.writes
  · exact call.announces_of_creates creates run
  by_cases pays : call.payments.isSome
  · rcases Option.isSome_iff_exists.mp pays with ⟨⟨path, ids⟩, paying⟩
    exact (call.paysStreams run paying formed.records).announced keyed
  by_cases announces : .announcements ∈ call.writes
  · cases call <;> simp [Call.writes, Call.payments] at creates pays announces
    case updateRatePerSecond => exact announced_of_updateRatePerSecond run keyed
    case decreaseRatePerSecond => exact announced_of_decreaseRatePerSecond run keyed
    case shortenStreamEndTime => exact announced_of_shortenStreamEndTime run keyed
    case extendStreamEndTime => exact announced_of_extendStreamEndTime run keyed
    case topUpStream => exact announced_of_topUpStream run keyed
    case updateRate => exact announced_of_updateRate run keyed
    case pauseStream => exact announced_of_pauseStream run keyed
    case pauseStreamAsAdmin => exact announced_of_pauseStreamAsAdmin run keyed
    case resumeStream => exact announced_of_resumeStream run keyed
    case resumeStreamAsAdmin => exact announced_of_resumeStreamAsAdmin run keyed
    case cancelStream => exact announced_of_cancelStream run keyed
    case cancelStreamAsAdmin => exact announced_of_cancelStreamAsAdmin run keyed
    case keeperCancel => exact announced_of_keeperCancel run keyed
    case bulkCancelStreams => exact announced_of_bulkCancelStreams run formed
    case closeCompletedStream => exact announced_of_closeCompletedStream run
    case closeCancelledStream => exact announced_of_closeCancelledStream run
    case acceptRecipientUpdate => exact announced_of_acceptRecipientUpdate run keyed
  · have stores : .streams ∉ call.writes := by
      cases call <;> simp_all [Call.writes]
    have unwritten := call.onlyWrites run
    exact .of_same (unwritten.streams stores) (unwritten.announcements announces)

end Wallie.StreamContract
