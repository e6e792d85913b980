import Wallie.Ledger.Entitlement
import Wallie.Ledger.RunInvariant
import Wallie.Ledger.Transfers
import Wallie.Properties.KeeperSplit
import Wallie.StreamContract.Script

/-!
# Effects before interactions

A transfer out of the contract finds the record of its stream already reduced by
what is paid. The exceptions are the payments of recipients in a cancellation: a
keeper never notes its payment in the record, and the bulk cancellation saves the
record only after the payment.
-/

namespace Wallie.StreamContract

open Fallible

variable {address : Address} {s s' : State} {env : Env} {now id : ℕ} {stream stream' : Stream}
  {move : Move} {kind : PayoutKind} {amount : ℤ} {payout : Payout} {done : Unit}

/-! ## What is due on a record -/

/-- What the recipient can still be paid, by a withdrawal or with a cancellation. -/
def Stream.drawable (stream : Stream) (now : ℕ) : ℤ :=
  max (stream.entitlement now - stream.withdrawnAmount) 0

/-- What a cancellation gives back to the sender. -/
def Stream.refundable (stream : Stream) (now : ℕ) : ℤ :=
  if stream.Live then stream.unstreamed now else 0

/-- The payment is of what a recipient has earned, not of what a sender gets back. -/
def PayoutKind.earned : PayoutKind → Bool
  | .withdrawal | .autoClaim | .bulkSettlement | .keeperSettlement => true
  | .cancelRefund | .keeperRefund | .keeperFee | .shortenRefund | .decreaseRefund => false

/-- What is still due on the stored record, with the payment, was due before. -/
structure Stream.Reflects (before stored : Stream) (now : ℕ) (kind : PayoutKind) (amount : ℤ) :
    Prop where
  drawable :
    stored.drawable now + (if kind.earned then amount else 0) ≤ before.drawable now
  refundable :
    stored.refundable now + (if kind.earned then 0 else amount) ≤ before.refundable now

/-- The record that is stored when the payment is made reflects it. -/
def Payout.Reflected (payout : Payout) (s : State) (now : ℕ) : Prop :=
  ∃ before stored, s.streams payout.streamId = some before ∧ payout.stored = some stored ∧
    before.Reflects stored now payout.kind payout.amount

/-- The streams whose recipients are paid with a cancellation. -/
def Call.settles : Call → List ℕ
  | keeperCancel id _ => [id]
  | bulkCancelStreams _ ids => ids
  | _ => []

/-- The call cancels a stream and pays its recipient what it has earned and not drawn. -/
def Call.PaysAhead (now : ℕ) (s : State) (call : Call) : Prop :=
  ∃ id ∈ call.settles, ∃ stream, s.streams id = some stream ∧
    stream.withdrawnAmount < stream.accruedAt now

/-! ## Payments that follow a move -/

/-- The payments a move makes, but those of the recipients in a cancellation. -/
def Move.Pays (kind : PayoutKind) (amount : ℤ) : Move → Prop
  | withdraw path paid => kind = path.kind ∧ amount = paid
  | lowerRate _ refund => kind = .decreaseRefund ∧ amount = refund
  | shorten _ refund => kind = .shortenRefund ∧ amount = refund
  | cancel refund | settle _ refund => kind = .cancelRefund ∧ amount = refund
  | keeperCancel _ refund => (kind = .keeperRefund ∨ kind = .keeperFee) ∧ amount ≤ refund
  | _ => False

theorem Stream.Live.drawable_eq (live : stream.Live) :
    stream.drawable now = max (stream.accruedAt now - stream.withdrawnAmount) 0 := by
  rw [Stream.drawable, live.entitlement]

theorem Stream.Live.refundable_eq (live : stream.Live) :
    stream.refundable now = stream.depositAmount - stream.accruedAt now :=
  if_pos live

theorem Stream.Live.drawable_cancelledNow (live : stream.Live) :
    (stream.cancelledNow now).drawable now = stream.drawable now := by
  rw [live.drawable_eq]
  rfl

theorem Stream.Live.of_same (live : stream.Live) (same : stream'.status = stream.status) :
    stream'.Live := by
  unfold Stream.Live
  rwa [same]

theorem Stream.Bounded.refundable_nonneg (bounded : stream.Bounded) :
    0 ≤ stream.refundable now := by
  unfold Stream.refundable
  split
  · exact bounded.unstreamed_nonneg now
  · exact le_rfl

theorem Stream.refundable_of_status (same : stream'.status = stream.status)
    (unstreamed : stream'.unstreamed now = stream.unstreamed now) :
    stream'.refundable now = stream.refundable now := by
  have live : stream'.Live ↔ stream.Live := by
    unfold Stream.Live
    rw [same]
  simp only [Stream.refundable, live, unstreamed]

theorem PayoutPath.kind_earned (path : PayoutPath) : path.kind.earned = true := by
  cases path <;> rfl

/-- What a record reflects was due before. -/
theorem Stream.Reflects.le_due (reflects : stream.Reflects stream' now kind amount)
    (bounded : stream'.Bounded) :
    amount ≤ if kind.earned then stream.drawable now else stream.refundable now := by
  have drawable := reflects.drawable
  have refundable := reflects.refundable
  have left : 0 ≤ stream'.drawable now := le_max_right _ _
  have left' : 0 ≤ stream'.refundable now := bounded.refundable_nonneg
  split_ifs at drawable refundable ⊢
  · omega
  · omega

/-- A withdrawal takes what it pays off what is due to the recipient. -/
theorem Stream.reflects_withdrawnTo {ledger : ℕ} (bounded : stream.Bounded) (positive : 0 < amount)
    (earned : stream.withdrawnAmount + amount ≤ stream.entitlement now)
    (draws : kind.earned = true) :
    stream.Reflects ((stream.withdrawnTo (stream.withdrawnAmount + amount)).notedAt ledger) now
      kind amount := by
  have refundable : 0 ≤ stream.refundable now := bounded.refundable_nonneg
  by_cases drained : stream.Live ∧ stream.withdrawnAmount + amount = stream.depositAmount
  · have completed : ((stream.withdrawnTo (stream.withdrawnAmount + amount)).notedAt
        ledger).status = .completed := if_pos drained
    have all : ((stream.withdrawnTo (stream.withdrawnAmount + amount)).notedAt
        ledger).entitlement now = stream.depositAmount := by
      rw [Stream.entitlement, completed]
      rfl
    have closed : ¬ ((stream.withdrawnTo (stream.withdrawnAmount + amount)).notedAt
        ledger).Live := fun live => live.not_completed completed
    constructor
    · rw [draws, Stream.drawable, Stream.drawable, all]
      change max (stream.depositAmount - (stream.withdrawnAmount + amount)) 0 + amount ≤ _
      omega
    · rw [draws, Stream.refundable, if_neg closed]
      simpa using refundable
  · have same : ((stream.withdrawnTo (stream.withdrawnAmount + amount)).notedAt ledger).status =
        stream.status := if_neg drained
    have kept : ((stream.withdrawnTo (stream.withdrawnAmount + amount)).notedAt
        ledger).entitlement now = stream.entitlement now := by
      rw [Stream.entitlement, Stream.entitlement, same]
      rfl
    constructor
    · rw [draws, Stream.drawable, Stream.drawable, kept]
      change max (stream.entitlement now - (stream.withdrawnAmount + amount)) 0 + amount ≤ _
      omega
    · rw [draws, Stream.refundable_of_status same rfl]
      exact (add_zero _).le

/-- A refund of a change of the terms leaves what has accrued in place. -/
theorem Stream.Live.reflects_refund (live : stream.Live) (refunds : kind.earned = false)
    (status : stream'.status = stream.status)
    (withdrawn : stream'.withdrawnAmount = stream.withdrawnAmount)
    (accrued : stream'.accruedAt now = stream.accruedAt now)
    (deposit : stream'.depositAmount = stream.depositAmount - amount) :
    stream.Reflects stream' now kind amount := by
  have live' := live.of_same status
  constructor
  · rw [refunds, live.drawable_eq, live'.drawable_eq, accrued, withdrawn]
    exact (add_zero _).le
  · rw [refunds, live.refundable_eq, live'.refundable_eq, accrued, deposit]
    simp only [Bool.false_eq_true, if_false]
    omega

/-- So does a cancellation. -/
theorem Stream.Live.reflects_cancelled (live : stream.Live) (refunds : kind.earned = false)
    (refund : amount ≤ stream.unstreamed now) (cancelled : stream'.status = .cancelled)
    (drawable : stream'.drawable now ≤ stream.drawable now) :
    stream.Reflects stream' now kind amount := by
  have closed : ¬ stream'.Live := fun live' => live'.not_cancelled cancelled
  constructor
  · rw [refunds]
    exact (add_zero _).trans_le drawable
  · rw [refunds, Stream.refundable, if_neg closed, Stream.refundable, if_pos live]
    simpa using refund

/-- A payment that follows a move is reflected in the record. -/
theorem Stream.Moves.reflects (moves : stream.Moves now move stream')
    (formed : stream.WellFormed id now) (pays : move.Pays kind amount) :
    stream.Reflects stream' now kind amount := by
  have bounded := formed.bounded
  have bounded' := (moves.wellFormed formed).bounded
  have accrued_le := bounded.accruedAt_le_deposit now
  cases moves with
  | withdraw _ _ positive earned _ _ =>
      rcases pays with ⟨rfl, rfl⟩
      exact Stream.reflects_withdrawnTo bounded positive earned (PayoutPath.kind_earned _)
  | lowerRate live linear running positive _ nonneg kept =>
      rcases pays with ⟨rfl, rfl⟩
      have remaining : (0 : ℤ) < (stream.endTime - now : ℕ) := by omega
      have future := mul_pos positive remaining
      exact live.reflects_refund rfl rfl rfl
        (bounded.accruedAt_checkpointed linear bounded' (by omega)) rfl
  | shorten live linear future _ _ earlier nonneg kept =>
      rcases pays with ⟨rfl, rfl⟩
      exact live.reflects_refund rfl rfl rfl
        (bounded.accruedAt_shortened linear (by omega) (by omega) (by omega) (by omega) bounded')
        rfl
  | cancel live split =>
      rcases pays with ⟨rfl, rfl⟩
      exact live.reflects_cancelled rfl (le_sub_iff_add_le'.mpr split.le) rfl
        live.drawable_cancelledNow.le
  | settle live due split =>
      rcases pays with ⟨rfl, rfl⟩
      refine live.reflects_cancelled rfl (le_sub_iff_add_le'.mpr split.le) rfl ?_
      rw [live.drawable_eq, Stream.drawable, Stream.entitlement_cancelledNow]
      change max (stream.accruedAt now - (stream.withdrawnAmount + _)) 0 ≤ _
      omega
  | keeperCancel live _ due split =>
      rcases pays with ⟨paid, le⟩
      refine live.reflects_cancelled ?_ (le.trans (le_sub_iff_add_le'.mpr split.le)) rfl
        live.drawable_cancelledNow.le
      rcases paid with rfl | rfl
      · rfl
      · rfl
  | _ => exact pays.elim

/-- The payment is one of a move that has been written. -/
def Payout.Booked (payout : Payout) (s : State) (now : ℕ) : Prop :=
  ∃ move, payout.Follows s now move ∧ move.Pays payout.kind payout.amount

theorem Payout.Booked.reflected (booked : payout.Booked s now)
    (records : ∀ id stream, s.streams id = some stream → stream.WellFormed id now) :
    payout.Reflected s now := by
  rcases booked with ⟨move, ⟨stream, stream', stored, moves, saved⟩, pays⟩
  exact ⟨stream, stream', stored, saved, moves.reflects (records _ stream stored) pays⟩

/-! ## Payments that run ahead -/

/-- A recipient is paid all that is due, and the stored record shows it as due still. -/
structure Payout.Ahead (payout : Payout) (s : State) (now : ℕ) : Prop where
  earned : payout.kind.earned = true
  positive : 0 < payout.amount
  due : (s.streams payout.streamId).map (Stream.drawable · now) = some payout.amount
  unnoted : payout.stored.map (Stream.drawable · now) = some payout.amount

theorem Payout.Ahead.not_reflected (ahead : payout.Ahead s now) : ¬ payout.Reflected s now := by
  rintro ⟨before, stored, found, saved, reflects⟩
  have due := ahead.due
  have unnoted := ahead.unnoted
  have positive := ahead.positive
  have drawable := reflects.drawable
  rw [found, Option.map_some, Option.some.injEq] at due
  rw [saved, Option.map_some, Option.some.injEq] at unnoted
  rw [ahead.earned, due, unnoted, if_pos rfl] at drawable
  omega

/-- The payment of a recipient in a cancellation runs ahead if the record does not note it. -/
theorem ahead_of_settlement {destination : Address} (live : stream.Live)
    (formed : stream.WellFormed id env.timestamp) (stored : s.streams id = some stream)
    (earned : kind.earned = true)
    (unnoted : stream'.drawable env.timestamp = stream.drawable env.timestamp)
    (member : payout ∈ positivePayouts env destination (stream.claimable env.timestamp) id kind
      (some stream')) : payout.Ahead s env.timestamp := by
  rcases mem_positivePayouts.mp member with ⟨positive, rfl⟩
  have due : stream.drawable env.timestamp = stream.claimable env.timestamp := by
    rw [live.drawable_eq, formed.claimable_eq]
  refine ⟨earned, positive, ?_, ?_⟩
  · rw [stored, Option.map_some, due]
  · rw [Option.map_some, unnoted, due]

/-- The payouts of a call on streams of the given ids, some of which may run ahead. -/
structure PaysOn (s s' : State) (now : ℕ) (ids : List ℕ) : Prop where
  live : ∀ id ∈ ids, ∃ stream, s.streams id = some stream ∧ stream.Live
  ahead : ∀ id ∈ ids, ∀ stream, s.streams id = some stream → 0 < stream.drawable now →
    ∃ payout ∈ s.transfers s', payout.Ahead s now
  each : ∀ payout ∈ s.transfers s', payout.streamId ∈ ids ∧
    (payout.Ahead s now ∨ payout.Booked s now)

/-- Such a call pays ahead exactly if something is due to a recipient. -/
theorem PaysOn.reflected_iff {ids : List ℕ} (pays : PaysOn s s' now ids)
    (records : ∀ id stream, s.streams id = some stream → stream.WellFormed id now) :
    (∀ payout ∈ s.transfers s', payout.Reflected s now) ↔
      ¬ ∃ id ∈ ids, ∃ stream, s.streams id = some stream ∧
        stream.withdrawnAmount < stream.accruedAt now := by
  constructor
  · rintro reflected ⟨id, listed, stream, stored, unpaid⟩
    rcases pays.live id listed with ⟨record, found, live⟩
    obtain rfl : record = stream := Option.some.inj (found.symm.trans stored)
    have due : 0 < record.drawable now := by
      rw [live.drawable_eq]
      omega
    rcases pays.ahead id listed record stored due with ⟨payout, member, ahead⟩
    exact ahead.not_reflected (reflected payout member)
  · intro paid payout member
    rcases pays.each payout member with ⟨listed, ahead | booked⟩
    · rcases pays.live _ listed with ⟨stream, stored, live⟩
      have positive := ahead.positive
      have due := ahead.due
      rw [stored, Option.map_some, live.drawable_eq, Option.some.injEq] at due
      exact absurd ⟨_, listed, stream, stored, by omega⟩ paid
    · exact booked.reflected records

theorem payouts_of_payKeeperFee {keeper : Address}
    (run : Runs (payKeeperFee keeper amount id) env s done s') :
    s'.payouts = s.payouts ++
      positivePayouts env keeper amount id .keeperFee (s.streams id) := by
  rcases runs_payKeeperFee.mp run with ⟨-, rfl⟩
  unfold State.keeperPaid positivePayouts
  split
  · rfl
  · exact (List.append_nil _).symm

/-- The three payouts of a keeper. All find the record cancelled, and as much withdrawn as
before. -/
theorem transfers_of_keeperCancel {keeper : Address} (formed : stream.WellFormed id env.timestamp)
    (stored : s.streams id = some stream) (run : Runs (keeperCancel id keeper) env s done s') :
    s.transfers s' =
      positivePayouts env stream.recipient (stream.claimable env.timestamp) id .keeperSettlement
        (some (stream.cancelledNow env.timestamp)) ++
      positivePayouts env stream.sender
        (stream.unstreamed env.timestamp - stream.keeperFee env.timestamp) id .keeperRefund
        (some (stream.cancelledNow env.timestamp)) ++
      positivePayouts env keeper (stream.keeperFee env.timestamp) id .keeperFee
        (some (stream.cancelledNow env.timestamp)) := by
  have unstreamed := formed.bounded.unstreamed_nonneg env.timestamp
  rcases keeperCancel_cases run with
    ⟨record, stored', -, -, -, -, paidRecipient, paidSender, paidKeeper, toRecipient, toSender,
      toKeeper, health⟩
  obtain rfl : record = stream := Option.some.inj (stored'.symm.trans stored)
  obtain rfl := runs_maybeEmitHealthChanged.mp health
  rcases payouts_of_pushPositive toRecipient with ⟨streams, recipientPayouts⟩
  rcases payouts_of_pushPositive toSender with ⟨streams', senderPayouts⟩
  have saved : paidRecipient.streams id = some (record.cancelledNow env.timestamp) := by
    rw [streams, ← formed.streamId]
    exact Function.update_self ..
  have gross : max (record.depositAmount - record.accruedAt env.timestamp) 0 =
      record.unstreamed env.timestamp := max_eq_left unstreamed
  have fee : record.unstreamed env.timestamp * keeperFeeBps / 10000 =
      record.keeperFee env.timestamp := rfl
  have keeperPayouts := payouts_of_payKeeperFee toKeeper
  rw [← streams, saved] at recipientPayouts
  rw [saved, gross, fee] at senderPayouts
  rw [streams', saved, gross, fee, senderPayouts, recipientPayouts, List.append_assoc,
    List.append_assoc, ← List.append_assoc (positivePayouts ..)] at keeperPayouts
  exact State.transfers_of_append keeperPayouts

theorem paysOn_of_keeperCancel {keeper : Address}
    (run : Runs (keeperCancel id keeper) env s done s')
    (formed : (s.book env.currentContractAddress).WellFormed env.timestamp) :
    PaysOn s s' env.timestamp [id] := by
  rcases (keeperCancel_performs run formed).moves with
    ⟨_, stream, _, ⟨payment, refund, rfl⟩, stored, moves, -⟩
  have record := formed.records id stream stored
  have bounds := record.bounded.keeperFee_bounds env.timestamp
  have written := moves
  cases moves with
  | keeperCancel live abandoned due split =>
      have unstreamed : stream.unstreamed env.timestamp = refund := (eq_sub_of_add_eq' split).symm
      have settles : ∀ payout ∈ positivePayouts env stream.recipient
          (stream.claimable env.timestamp) id .keeperSettlement
          (some (stream.cancelledNow env.timestamp)), payout.Ahead s env.timestamp :=
        fun payout => ahead_of_settlement live record stored rfl live.drawable_cancelledNow
      have transfers := transfers_of_keeperCancel record stored run
      constructor
      · intro other listed
        obtain rfl := List.mem_singleton.mp listed
        exact ⟨stream, stored, live⟩
      · intro other listed found stored' unpaid
        obtain rfl := List.mem_singleton.mp listed
        obtain rfl : found = stream := Option.some.inj (stored'.symm.trans stored)
        rw [live.drawable_eq, ← record.claimable_eq] at unpaid
        rcases exists_mem_positivePayouts unpaid _ with ⟨payout, member⟩
        refine ⟨payout, ?_, settles payout member⟩
        rw [transfers]
        exact List.mem_append_left _ (List.mem_append_left _ member)
      · intro payout member
        rw [transfers, List.mem_append, List.mem_append] at member
        rcases member with (settlement | refunded) | fee
        · have ahead := settles payout settlement
          rcases mem_positivePayouts.mp settlement with ⟨-, rfl⟩
          exact ⟨List.mem_singleton_self _, Or.inl ahead⟩
        · rcases mem_positivePayouts.mp refunded with ⟨positive, rfl⟩
          refine ⟨List.mem_singleton_self _, Or.inr ⟨_, ⟨stream, _, stored, written, rfl⟩,
            Or.inl rfl, ?_⟩⟩
          dsimp only
          omega
        · rcases mem_positivePayouts.mp fee with ⟨positive, rfl⟩
          refine ⟨List.mem_singleton_self _, Or.inr ⟨_, ⟨stream, _, stored, written, rfl⟩,
            Or.inr rfl, ?_⟩⟩
          dsimp only
          omega

theorem paysOn_of_bulkCancelStreams {sender : Address} {ids : List ℕ}
    (run : Runs (bulkCancelStreams sender ids) env s done s')
    (formed : (s.book env.currentContractAddress).WellFormed env.timestamp) :
    PaysOn s s' env.timestamp ids := by
  rcases transfers_of_bulkCancelStreams run formed with
    ⟨streams, rfl, found, settled, each⟩
  have settles : ∀ stream ∈ streams, ∀ payout ∈ stream.settlementPayouts env,
      payout.Ahead s env.timestamp := by
    intro stream listed payout member
    rcases found stream listed with ⟨stored, live⟩
    exact ahead_of_settlement live (formed.records _ stream stored) stored rfl rfl member
  constructor
  · intro id member
    rcases List.mem_map.mp member with ⟨stream, listed, rfl⟩
    exact ⟨stream, found stream listed⟩
  · intro id member record stored' unpaid
    rcases List.mem_map.mp member with ⟨stream, listed, rfl⟩
    rcases found stream listed with ⟨stored, live⟩
    obtain rfl : record = stream := Option.some.inj (stored'.symm.trans stored)
    rw [live.drawable_eq, ← (formed.records _ record stored).claimable_eq] at unpaid
    rcases exists_mem_positivePayouts unpaid _ with ⟨payout, member⟩
    exact ⟨payout, settled record listed payout member, settles record listed payout member⟩
  · intro payout member
    rcases each payout member with ⟨stream, listed, settlement | ⟨about, kind, amount, saved⟩⟩
    · have ahead := settles stream listed payout settlement
      rcases mem_positivePayouts.mp settlement with ⟨-, rfl⟩
      exact ⟨List.mem_map_of_mem listed, Or.inl ahead⟩
    · rcases found stream listed with ⟨stored, live⟩
      have record := formed.records _ stream stored
      have moves : stream.Moves env.timestamp (.settle (stream.claimable env.timestamp)
          payout.amount) (stream.settledNow env.timestamp) :=
        .settle live (record.claimable_eq _) (by rw [amount]; exact add_sub_cancel _ _)
      rw [about]
      exact ⟨List.mem_map_of_mem listed, Or.inr ⟨_, ⟨stream, _, about ▸ stored, moves, saved⟩,
        kind, rfl⟩⟩

/-! ## All calls -/

/-- A call that settles nobody only makes payments of moves it has written. -/
theorem booked_of_runs {call : Call} (run : Runs call.run env s () s')
    (formed : (s.book env.currentContractAddress).WellFormed env.timestamp)
    (plain : call.settles = [])
    (member : payout ∈ s.transfers s') : payout.Booked s env.timestamp := by
  cases paying : call.payments with
  | some drawn =>
      rcases drawn with ⟨path, ids⟩
      have pays := call.paysStreams run paying formed.records
      rcases pays.payments with ⟨entries, s₀, rfl, ⟨noted, rfl⟩, payments⟩
      rcases payments.transfers (fun id stream stored =>
        (formed.records id stream stored).streamId) pays.nodup with ⟨more, appended, each⟩
      have same : s'.payouts = s.payouts ++ more := appended
      rw [State.transfers_of_append same] at member
      rcases each payout member with ⟨-, kind, follows⟩
      exact ⟨_, follows, kind, rfl⟩
  | none =>
      by_cases logs : .payouts ∈ call.writes
      · cases call <;> simp [Call.writes, Call.payments] at logs paying
        case decreaseRatePerSecond id rate =>
          rcases transfers_of_decreaseRatePerSecond run formed member with ⟨kind, follows⟩
          exact ⟨_, follows, kind, rfl⟩
        case shortenStreamEndTime id endTime =>
          rcases transfers_of_shortenStreamEndTime run formed member with ⟨kind, follows⟩
          exact ⟨_, follows, kind, rfl⟩
        case cancelStream id =>
          rcases transfers_of_cancelStream run formed member with ⟨kind, follows⟩
          exact ⟨_, follows, kind, rfl⟩
        case cancelStreamAsAdmin id =>
          rcases transfers_of_cancelStreamAsAdmin run formed member with ⟨kind, follows⟩
          exact ⟨_, follows, kind, rfl⟩
        case keeperCancel id keeper => cases plain
        case bulkCancelStreams sender ids =>
          have listed := ((paysOn_of_bulkCancelStreams run formed).each payout member).1
          rw [show ids = [] from plain] at listed
          cases listed
      · rw [State.transfers, (call.onlyWrites run).payouts logs, List.drop_length] at member
        cases member

theorem ahead_or_booked {call : Call} (run : Runs call.run env s () s')
    (formed : (s.book env.currentContractAddress).WellFormed env.timestamp)
    (member : payout ∈ s.transfers s') :
    payout.Ahead s env.timestamp ∨ payout.Booked s env.timestamp := by
  cases call with
  | keeperCancel id keeper => exact ((paysOn_of_keeperCancel run formed).each payout member).2
  | bulkCancelStreams sender ids =>
      exact ((paysOn_of_bulkCancelStreams run formed).each payout member).2
  | _ => exact Or.inr (booked_of_runs run formed rfl member)

/-- No call pays more on account of a stream than is due on the record it finds. So what a stored
record reflects cannot be paid again. -/
theorem paid_le_due (reached : Reachable address anyCall now s)
    (invocation : Invocation address) (order : now ≤ invocation.env.timestamp)
    (run : Runs invocation.call.run invocation.env s () s') (member : payout ∈ s.transfers s') :
    ∃ stream, s.streams payout.streamId = some stream ∧
      payout.amount ≤ if payout.kind.earned then stream.drawable invocation.env.timestamp
        else stream.refundable invocation.env.timestamp := by
  have formed := reached.book_wellFormed.mono order
  rcases invocation with ⟨env, call, rfl, noSelfAuth, timestamp, sequence, wellTyped⟩
  rcases ahead_or_booked run formed member with ahead | ⟨move, ⟨stream, stream', stored, moves, -⟩,
    pays⟩
  · rcases Option.map_eq_some_iff.mp ahead.due with ⟨stream, stored, due⟩
    refine ⟨stream, stored, ?_⟩
    rw [ahead.earned, if_pos rfl]
    exact due.ge
  · have record := formed.records _ stream stored
    exact ⟨stream, stored, (moves.reflects record pays).le_due (moves.wellFormed record).bounded⟩

/-- In every reachable state, each payment of a successful call finds its record reduced by what is
paid exactly when the call does not cancel a stream with something left to draw and pay it to the
recipient. -/
theorem effects_first_iff (reached : Reachable address anyCall now s)
    (invocation : Invocation address) (order : now ≤ invocation.env.timestamp)
    (run : Runs invocation.call.run invocation.env s () s') :
    (∀ payout ∈ s.transfers s', payout.Reflected s invocation.env.timestamp) ↔
      ¬ invocation.call.PaysAhead invocation.env.timestamp s := by
  have formed := reached.book_wellFormed.mono order
  have records := formed.records
  rcases invocation with ⟨env, call, rfl, noSelfAuth, timestamp, sequence, wellTyped⟩
  cases call with
  | keeperCancel id keeper => exact (paysOn_of_keeperCancel run formed).reflected_iff records
  | bulkCancelStreams sender ids =>
      exact (paysOn_of_bulkCancelStreams run formed).reflected_iff records
  | _ =>
      refine iff_of_true ?_ ?_
      · exact fun payout member => (booked_of_runs run formed rfl member).reflected records
      · rintro ⟨_, listed, _⟩
        cases listed

namespace Sample

/-- The recipient of two streams draws both. -/
def drawingBoth : Invocation contract :=
  invocation 2 50 5 (.batchWithdraw recipient [0, 1]) (Eq.refl true)

def bulkCancellingBoth : Invocation contract :=
  invocation 1 50 5 (.bulkCancelStreams Sample.sender [0, 1]) (Eq.refl true)

def keeperCancellingFirst : Invocation contract :=
  invocation 3 604900 5 (.keeperCancel 0 keeper) (Eq.refl true)

end Sample

theorem effects_first_iff_batch :
    let s := Script.run Sample.twoCreations Sample.genesis
    let s' := Sample.drawingBoth.call.run.commit Sample.drawingBoth.env s
    (s.transfers s').map Payout.amount = [500, 5000] ∧
      ∀ payout ∈ s.transfers s', payout.Reflected s 50 := by
  intro s s'
  have ordered : Script.Ordered Sample.twoCreations 0 := ⟨le_rfl, le_rfl, trivial⟩
  have reached : Reachable Sample.contract anyCall 0 s :=
    Sample.reachable_run ordered
  have changed : (Sample.drawingBoth.call.run.commit Sample.drawingBoth.env s).streams 0 ≠
      s.streams 0 := by
    decide
  have run := Script.runs_of_changed changed
  refine ⟨by decide, (effects_first_iff reached Sample.drawingBoth (Nat.zero_le _) run).mpr ?_⟩
  rintro ⟨_, listed, _⟩
  cases listed

/-- Neither a bulk cancellation nor a keeper notes the payment of the recipient in time. -/
theorem not_always_effects_first :
    let s := Script.run Sample.twoCreations Sample.genesis
    let bulk := Sample.bulkCancellingBoth
    let single := Sample.keeperCancellingFirst
    (¬ ∀ payout ∈ s.transfers (bulk.call.run.commit bulk.env s),
        payout.Reflected s bulk.env.timestamp) ∧
      ¬ ∀ payout ∈ s.transfers (single.call.run.commit single.env s),
        payout.Reflected s single.env.timestamp := by
  intro s bulk single
  constructor
  · intro reflected
    have ahead : ∃ payout ∈ s.transfers (bulk.call.run.commit bulk.env s),
        payout.kind.earned = true ∧ 0 < payout.amount ∧
          (s.streams payout.streamId).map (Stream.drawable · 50) = some payout.amount ∧
          payout.stored.map (Stream.drawable · 50) = some payout.amount := by
      decide +kernel
    rcases ahead with ⟨payout, member, earned, positive, due, unnoted⟩
    exact Payout.Ahead.not_reflected ⟨earned, positive, due, unnoted⟩ (reflected payout member)
  · intro reflected
    have ahead : ∃ payout ∈ s.transfers (single.call.run.commit single.env s),
        payout.kind.earned = true ∧ 0 < payout.amount ∧
          (s.streams payout.streamId).map (Stream.drawable · 604900) = some payout.amount ∧
          payout.stored.map (Stream.drawable · 604900) = some payout.amount := by
      decide +kernel
    rcases ahead with ⟨payout, member, earned, positive, due, unnoted⟩
    exact Payout.Ahead.not_reflected ⟨earned, positive, due, unnoted⟩ (reflected payout member)

end Wallie.StreamContract
