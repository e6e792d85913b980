import Wallie.Ledger.RefineBulkCancel
import Wallie.Ledger.RefineSchedule
import Wallie.Ledger.RefineWithdraw
import Wallie.StreamContract.EntrypointWrites

/-!
# Transfers out of the contract

What a call adds to the log of payouts: for which move of which record, and the
record stored at the moment of the transfer. All entrypoints save the record
before they pay, except that the bulk cancellation pays the recipients first.
-/

namespace Wallie.StreamContract

open Fallible

variable {env : Env} {s middle s' : State} {stream : Stream} {id now : ℕ} {kind : PayoutKind}
  {destination : Address} {amount : ℤ} {path : PayoutPath} {payout : Payout} {done : Unit}

/-- The payouts that lead from one state to another. -/
def State.transfers (s s' : State) : List Payout :=
  s'.payouts.drop s.payouts.length

theorem State.transfers_of_append {more : List Payout}
    (appended : s'.payouts = s.payouts ++ more) : s.transfers s' = more := by
  rw [State.transfers, appended, List.drop_left]

/-- The payout of an amount that is positive. -/
def positivePayouts (env : Env) (destination : Address) (amount : ℤ) (id : ℕ) (kind : PayoutKind)
    (stored : Option Stream) : List Payout :=
  if 0 < amount then
    [{ streamId := id, kind, destination, amount, sequence := env.sequence, stored }]
  else []

theorem State.pushedPositive_payouts :
    (s.pushedPositive env destination amount id kind).payouts =
      s.payouts ++ positivePayouts env destination amount id kind (s.streams id) := by
  unfold State.pushedPositive positivePayouts
  split
  · rfl
  · exact (List.append_nil _).symm

theorem payouts_of_pushPositive
    (pushed : Runs (pushPositive destination amount id kind) env s done s') :
    s'.streams = s.streams ∧
      s'.payouts = s.payouts ++ positivePayouts env destination amount id kind (s.streams id) := by
  rcases runs_pushPositive.mp pushed with ⟨-, rfl⟩
  exact ⟨State.pushedPositive_streams, State.pushedPositive_payouts⟩

theorem mem_positivePayouts {stored : Option Stream} :
    payout ∈ positivePayouts env destination amount id kind stored ↔ 0 < amount ∧
      payout =
        { streamId := id, kind, destination, amount, sequence := env.sequence, stored } := by
  unfold positivePayouts
  split
  · next positive => simp [positive]
  · next nothing => simp [nothing]

theorem exists_mem_positivePayouts (positive : 0 < amount) (stored : Option Stream) :
    ∃ payout, payout ∈ positivePayouts env destination amount id kind stored :=
  ⟨_, mem_positivePayouts.mpr ⟨positive, rfl⟩⟩

/-- The payout is made once the record of its stream has moved. -/
def Payout.Follows (payout : Payout) (s : State) (now : ℕ) (move : Move) : Prop :=
  ∃ stream stream', s.streams payout.streamId = some stream ∧ stream.Moves now move stream' ∧
    payout.stored = some stream'

/-! ## Withdrawals -/

/-- The payout of a payment. -/
def PayoutPath.payoutFor (path : PayoutPath) (env : Env) (id : ℕ) (stream : Stream)
    (destination : Address) (amount : ℤ) : Payout where
  streamId := id
  kind := path.kind
  destination
  amount
  sequence := env.sequence
  stored := some (stream.paid path amount env.sequence)

theorem PaysThrough.payouts (pays : PaysThrough env path id stream destination amount s s')
    (keyed : stream.streamId = id) :
    s'.payouts = s.payouts ++ [path.payoutFor env id stream destination amount] := by
  rcases pays.result with ⟨noted, lock, rfl⟩
  subst keyed
  simp [State.paid, payoutsOf, PayoutPath.payoutFor]

/-- Each payment of a batch follows the withdrawal of a record stored before the batch. -/
theorem PaymentsOf.transfers {entries : List (ℕ × Option Address)}
    (payments : PaymentsOf env path entries s s')
    (keyed : ∀ id stream, s.streams id = some stream → stream.streamId = id)
    (nodup : (entries.map Prod.fst).Nodup) :
    ∃ more, s'.payouts = s.payouts ++ more ∧
      ∀ payout ∈ more, payout.streamId ∈ entries.map Prod.fst ∧ payout.kind = path.kind ∧
        payout.Follows s env.timestamp (.withdraw path payout.amount) := by
  induction payments with
  | nil => exact ⟨[], (List.append_nil _).symm, by simp⟩
  | skip rest ih =>
      rcases ih keyed (List.nodup_cons.mp nodup).2 with ⟨more, appended, each⟩
      refine ⟨more, appended, fun payout member => ?_⟩
      rcases each payout member with ⟨listed, found⟩
      exact ⟨List.mem_cons_of_mem _ listed, found⟩
  | @pay s middle s' id stream chosen amount entries pays rest ih =>
      rcases List.nodup_cons.mp nodup with ⟨fresh, nodup⟩
      rcases ih (pays.keyed keyed) nodup with ⟨more, appended, each⟩
      have own := keyed id stream pays.stored
      refine ⟨path.payoutFor env id stream (chosen.getD stream.recipient) amount :: more, ?_, ?_⟩
      · rw [appended, pays.payouts own, List.append_assoc, List.singleton_append]
      · intro payout member
        rcases List.mem_cons.mp member with rfl | later
        · exact ⟨List.mem_cons_self, rfl, stream, _, pays.stored, pays.moves, rfl⟩
        · rcases each payout later with ⟨listed, kind, record, record', stored, moves, saved⟩
          have apart : payout.streamId ≠ stream.streamId := by
            rw [own]
            intro same
            exact fresh (same ▸ listed)
          rw [pays.streams, Function.update_of_ne apart] at stored
          exact ⟨List.mem_cons_of_mem _ listed, kind, record, record', stored, moves, saved⟩

/-! ## Refunds -/

/-- The payout of a transfer that is the only one of a call. -/
theorem eq_of_mem_transfers {saved paid : State}
    (pushed : Runs (pushPositive destination amount id kind) env saved done paid)
    (before : saved.payouts = s.payouts) (after : s'.payouts = paid.payouts)
    (streams : s'.streams = paid.streams) (member : payout ∈ s.transfers s') :
    payout.streamId = id ∧ payout.kind = kind ∧ payout.amount = amount ∧ 0 < amount ∧
      payout.stored = s'.streams id := by
  rcases payouts_of_pushPositive pushed with ⟨kept, payouts⟩
  rw [payouts, before] at after
  rw [State.transfers_of_append after] at member
  rcases mem_positivePayouts.mp member with ⟨positive, rfl⟩
  rw [streams, kept]
  exact ⟨rfl, rfl, rfl, positive, rfl⟩

theorem transfers_of_decreaseRatePerSecond {rate : ℤ}
    (run : Runs (decreaseRatePerSecond id rate) env s done s')
    (formed : (s.book env.currentContractAddress).WellFormed env.timestamp)
    (member : payout ∈ s.transfers s') :
    payout.kind = .decreaseRefund ∧
      payout.Follows s env.timestamp (.lowerRate rate payout.amount) := by
  rcases (decreaseRatePerSecond_performs run formed).moves with
    ⟨_, stream, stream', ⟨refund, rfl⟩, stored, moves, stored'⟩
  rcases decreaseRatePerSecond_cases run with
    ⟨record, adjusts, -, -, -, -, middle, pushed, rfl⟩
  obtain rfl : record = stream := Option.some.inj (adjusts.stored.symm.trans stored)
  rcases eq_of_mem_transfers pushed rfl rfl rfl member with ⟨rfl, kind, amount, -, saved⟩
  have same : payout.amount = refund := by
    cases moves with
    | lowerRate _ _ _ _ _ _ kept => omega
  rw [same]
  exact ⟨kind, record, stream', stored, moves, saved.trans stored'⟩

theorem transfers_of_shortenStreamEndTime {endTime : ℕ}
    (run : Runs (shortenStreamEndTime id endTime) env s done s')
    (formed : (s.book env.currentContractAddress).WellFormed env.timestamp)
    (member : payout ∈ s.transfers s') :
    payout.kind = .shortenRefund ∧
      payout.Follows s env.timestamp (.shorten endTime payout.amount) := by
  rcases (shortenStreamEndTime_performs run formed).moves with
    ⟨_, stream, stream', ⟨refund, rfl⟩, stored, moves, stored'⟩
  rcases shortenStreamEndTime_cases run with
    ⟨record, adjusts, -, -, -, -, -, middle, pushed, rfl⟩
  obtain rfl : record = stream := Option.some.inj (adjusts.stored.symm.trans stored)
  rcases eq_of_mem_transfers pushed rfl rfl rfl member with ⟨rfl, kind, amount, -, saved⟩
  have same : payout.amount = refund := by
    cases moves with
    | shorten _ _ _ _ _ _ _ kept => omega
  rw [same]
  exact ⟨kind, record, stream', stored, moves, saved.trans stored'⟩

theorem transfers_of_cancelStreamInternal
    (run : Runs (cancelStreamInternal stream) env s done s')
    (formed : (s.book env.currentContractAddress).WellFormed env.timestamp)
    (stored : s.streams id = some stream) (member : payout ∈ s.transfers s') :
    payout.kind = .cancelRefund ∧
      payout.Follows s env.timestamp (.cancel payout.amount) := by
  obtain rfl := (formed.records id stream stored).streamId
  rcases (cancelStreamInternal_performs run formed stored).moves with
    ⟨_, record, stream', ⟨refund, rfl⟩, found, moves, stored'⟩
  obtain rfl : record = stream := Option.some.inj (found.symm.trans stored)
  rcases cancelStreamInternal_cases run with ⟨-, -, -, middle, pushed, rfl⟩
  rcases eq_of_mem_transfers pushed rfl rfl rfl member with ⟨same, kind, amount, -, saved⟩
  have paid : payout.amount = refund := by
    cases moves with
    | cancel _ split => omega
  rw [paid]
  exact ⟨kind, record, stream', same ▸ stored, moves, saved.trans stored'⟩

/-- The sender and the admin cancel a stream alike. -/
theorem transfers_of_cancelStream (run : Runs (cancelStream id) env s done s')
    (formed : (s.book env.currentContractAddress).WellFormed env.timestamp)
    (member : payout ∈ s.transfers s') :
    payout.kind = .cancelRefund ∧ payout.Follows s env.timestamp (.cancel payout.amount) := by
  rcases cancelStream_cases run with ⟨stream, -, stored, -, run⟩
  exact transfers_of_cancelStreamInternal run formed stored member

theorem transfers_of_cancelStreamAsAdmin (run : Runs (cancelStreamAsAdmin id) env s done s')
    (formed : (s.book env.currentContractAddress).WellFormed env.timestamp)
    (member : payout ∈ s.transfers s') :
    payout.kind = .cancelRefund ∧ payout.Follows s env.timestamp (.cancel payout.amount) := by
  rcases cancelStreamAsAdmin_cases run with ⟨admin, stream, -, -, stored, run⟩
  exact transfers_of_cancelStreamInternal run formed stored member

/-! ## The bulk cancellation -/

/-- The payout of a recipient in the bulk cancellation, with the record as it was. -/
def Stream.settlementPayouts (stream : Stream) (env : Env) : List Payout :=
  positivePayouts env stream.recipient (stream.claimable env.timestamp) stream.streamId
    .bulkSettlement (some stream)

theorem State.settled_payouts (stored : s.streams stream.streamId = some stream) :
    (s.settled env stream).payouts = s.payouts ++ stream.settlementPayouts env := by
  have paid : (s.settled env stream).payouts = (s.pushedPositive env stream.recipient
    (stream.claimable env.timestamp) stream.streamId .bulkSettlement).payouts := rfl
  rw [paid, State.pushedPositive_payouts, stored, Stream.settlementPayouts]

/-- The loop pays the recipients and collects the refunds. -/
theorem payouts_of_bulkCancelLoop {streams : List Stream} {aggregateRefund : ℤ}
    {lines : List PayoutLine} {collected : ℤ × List PayoutLine}
    (run : Runs (bulkCancelLoop env.timestamp streams aggregateRefund lines) env s collected s')
    (records : ∀ stream ∈ streams, s.streams stream.streamId = some stream ∧
      stream.WellFormed stream.streamId env.timestamp)
    (nodup : (streams.map Stream.streamId).Nodup) :
    s'.payouts = s.payouts ++ streams.flatMap (Stream.settlementPayouts · env) ∧
      collected.2 = lines ++ streams.flatMap fun stream =>
        refundLines stream.streamId (stream.unstreamed env.timestamp) := by
  induction streams generalizing s aggregateRefund lines with
  | nil =>
      rcases runs_pure.mp run with ⟨rfl, rfl⟩
      simp
  | cons stream rest ih =>
      rcases List.forall_mem_cons.mp records with ⟨⟨stored, formed⟩, others⟩
      rcases List.nodup_cons.mp nodup with ⟨fresh, nodup⟩
      rcases (runs_bulkCancelLoop_cons formed).mp run with ⟨-, -, -, run⟩
      have others' : ∀ later ∈ rest,
          (s.settled env stream).streams later.streamId = some later ∧
            later.WellFormed later.streamId env.timestamp := by
        intro later member
        rw [State.stored_settled fresh member]
        exact others later member
      rcases ih run others' nodup with ⟨payouts, refunds⟩
      rw [State.settled_payouts stored, List.append_assoc] at payouts
      rw [List.append_assoc] at refunds
      exact ⟨payouts, refunds⟩

/-- The loop settles the records of its streams and leaves the others alone. -/
theorem records_of_bulkCancelLoop {streams : List Stream} {aggregateRefund : ℤ}
    {lines : List PayoutLine} {collected : ℤ × List PayoutLine}
    (run : Runs (bulkCancelLoop env.timestamp streams aggregateRefund lines) env s collected s')
    (formed : ∀ stream ∈ streams, stream.WellFormed stream.streamId env.timestamp)
    (nodup : (streams.map Stream.streamId).Nodup) :
    (∀ stream ∈ streams,
      s'.streams stream.streamId = some (stream.settledNow env.timestamp)) ∧
      ∀ id, id ∉ streams.map Stream.streamId → s'.streams id = s.streams id := by
  induction streams generalizing s aggregateRefund lines with
  | nil =>
      rcases runs_pure.mp run with ⟨-, rfl⟩
      simp
  | cons stream rest ih =>
      rcases List.forall_mem_cons.mp formed with ⟨first, others⟩
      rcases List.nodup_cons.mp nodup with ⟨fresh, nodup⟩
      rcases (runs_bulkCancelLoop_cons first).mp run with ⟨-, -, -, run⟩
      rcases ih run others nodup with ⟨settled, unlisted⟩
      constructor
      · rw [List.forall_mem_cons]
        refine ⟨?_, settled⟩
        rw [unlisted _ fresh, State.settled_streams, Function.update_self]
      · intro id absent
        rw [List.map_cons, List.mem_cons, not_or] at absent
        rw [unlisted id absent.2, State.settled_streams, Function.update_of_ne absent.1]

theorem mem_refundLines {refund : ℤ} {line : PayoutLine} (listed : line ∈ refundLines id refund) :
    line = ⟨id, .cancelRefund, refund⟩ := by
  unfold refundLines at listed
  split at listed
  · exact List.mem_singleton.mp listed
  · cases listed

/-- The payouts of a bulk cancellation: those of the recipients, and one to the sender with a line
for each refund. -/
theorem transfers_of_bulkCancelStreams {sender : Address} {ids : List ℕ}
    (run : Runs (bulkCancelStreams sender ids) env s done s')
    (formed : (s.book env.currentContractAddress).WellFormed env.timestamp) :
    ∃ streams : List Stream, streams.map Stream.streamId = ids ∧
      (∀ stream ∈ streams, s.streams stream.streamId = some stream ∧ stream.Live) ∧
      (∀ stream ∈ streams, ∀ payout ∈ stream.settlementPayouts env,
        payout ∈ s.transfers s') ∧
      ∀ payout ∈ s.transfers s', ∃ stream ∈ streams, payout ∈ stream.settlementPayouts env ∨
        payout.streamId = stream.streamId ∧ payout.kind = .cancelRefund ∧
          payout.amount = stream.unstreamed env.timestamp ∧
          payout.stored = some (stream.settledNow env.timestamp) := by
  rcases bulkCancelStreams_cases run formed with
    ⟨-, streams, rfl, nodup, found, collected, middle, looped, paid⟩
  have records : ∀ stream ∈ streams, s.streams stream.streamId = some stream ∧
      stream.WellFormed stream.streamId env.timestamp := by
    intro stream member
    exact ⟨(found stream member).1, formed.records _ stream (found stream member).1⟩
  rcases payouts_of_bulkCancelLoop looped records nodup with ⟨payouts, refunds⟩
  rcases records_of_bulkCancelLoop looped (fun stream member => (records stream member).2)
    nodup with ⟨settled, -⟩
  rw [List.nil_append] at refunds
  refine ⟨streams, rfl, fun stream member => ⟨(found stream member).1, (found stream member).2.1⟩,
    ?_⟩
  rcases paid with ⟨-, rfl⟩ | ⟨-, rfl⟩
  · have appended : (middle.pushed env sender collected.1 collected.2).payouts = s.payouts ++
        (streams.flatMap (Stream.settlementPayouts · env) ++
          payoutsOf env middle sender collected.2) := by
      rw [← List.append_assoc, ← payouts]
      rfl
    rw [State.transfers_of_append appended]
    constructor
    · intro stream member payout paid
      exact List.mem_append_left _ (List.mem_flatMap.mpr ⟨stream, member, paid⟩)
    · intro payout paid
      rcases List.mem_append.mp paid with paid | refunded
      · rcases List.mem_flatMap.mp paid with ⟨stream, member, paid⟩
        exact ⟨stream, member, Or.inl paid⟩
      · rcases List.mem_map.mp refunded with ⟨line, listed, rfl⟩
        rw [refunds] at listed
        rcases List.mem_flatMap.mp listed with ⟨stream, member, listed⟩
        rcases mem_refundLines listed with rfl
        exact ⟨stream, member, Or.inr ⟨rfl, rfl, rfl, settled stream member⟩⟩
  · rw [State.transfers_of_append payouts]
    constructor
    · intro stream member payout paid
      exact List.mem_flatMap.mpr ⟨stream, member, paid⟩
    · intro payout paid
      rcases List.mem_flatMap.mp paid with ⟨stream, member, paid⟩
      exact ⟨stream, member, Or.inl paid⟩

end Wallie.StreamContract
