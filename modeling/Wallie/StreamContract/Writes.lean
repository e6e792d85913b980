import Wallie.Lib.Keeps
import Wallie.StreamContract.Indexer
import Wallie.StreamContract.Registry
import Wallie.StreamContract.Withdraw
import Wallie.StreamContract.StorageRules

/-!
# What the storage helpers write

A computation writes to a few fields of the state and leaves the others alone.
The fields followed here are the records with what is published of them, the
token balances with the payouts, the registries of ids, recipients, templates and
rotations, and the nonces. The ledger time a call notes is always its own.
-/

namespace Wallie.StreamContract

open Fallible

inductive Field where
  | streams
  | balances
  | recipientStreams
  | autoClaimDestination
  | ids
  | creations
  | announcements
  | payouts
  | recipientPayouts
  | nonces
  | templates
  | rotations
  | lock
  | pauses
  deriving DecidableEq

/-- The creation an event records: the id and the sender of the stream. -/
@[simp]
def Event.creation : Event → Option (ℕ × Address)
  | .created streamId sender _ _ _ _ _ _ _ _ _ => some (streamId, sender)
  | _ => none

/-- The streams that were ever created, with their senders, in order. -/
def State.creations (s : State) : List (ℕ × Address) :=
  s.events.filterMap Event.creation

/-- The payments a recipient draws or has drawn automatically, as opposed to the settlements of
a cancellation. -/
@[simp]
def PayoutKind.drawn : PayoutKind → Bool
  | .withdrawal | .autoClaim => true
  | .bulkSettlement | .keeperSettlement | .cancelRefund | .keeperRefund | .keeperFee
  | .shortenRefund | .decreaseRefund => false

/-- The payouts that recipients have drawn, in order. -/
def State.recipientPayouts (s : State) : List Payout :=
  s.payouts.filter fun payout => payout.kind.drawn

/-- The template an event defines. -/
@[simp]
def Event.template : Event → Option StreamScheduleTemplate
  | .tmplDef template => some template
  | _ => none

/-- The templates with what is kept about them. -/
structure TemplateRegistry where
  streamTemplate : ℕ → Option StreamScheduleTemplate
  ownerTemplateIds : Address → List ℕ
  activeTemplateCount : ℕ
  nextTemplateId : ℕ
  /-- The templates that were ever defined, in order. -/
  defined : List StreamScheduleTemplate

def State.templateRegistry (s : State) : TemplateRegistry where
  streamTemplate := s.streamTemplate
  ownerTemplateIds := s.ownerTemplateIds
  activeTemplateCount := s.activeTemplateCount
  nextTemplateId := s.nextTemplateId
  defined := s.events.filterMap Event.template

/-- The pause flags with what is kept about a pause. -/
structure PauseFlags where
  globalEmergencyPaused : Bool
  creationPaused : Bool
  pausedAt : Option ℕ
  pausedBy : Option Address
  deriving DecidableEq, Repr

def State.pauseFlags (s : State) : PauseFlags where
  globalEmergencyPaused := s.globalEmergencyPaused
  creationPaused := s.creationPaused
  pausedAt := s.globalPauseTimestamp
  pausedBy := s.globalPauseAdmin

/-- The number of streams is a value of its type. -/
def State.CountFits (s : State) : Prop :=
  (s.nextStreamId : ℤ) ≤ u64.upper

/-- At most the given fields have changed, balances and the number of streams stay values of their
types, and the ledger time noted is that of the call. -/
structure OnlyWrites (fields : List Field) (env : Env) (s s' : State) : Prop where
  streams : .streams ∉ fields → s'.streams = s.streams
  balances : .balances ∉ fields → s'.balances = s.balances
  recipientStreams : .recipientStreams ∉ fields → s'.recipientStreams = s.recipientStreams
  autoClaimDestination :
    .autoClaimDestination ∉ fields → s'.autoClaimDestination = s.autoClaimDestination
  nextStreamId : .ids ∉ fields → s'.nextStreamId = s.nextStreamId
  idReservation : .ids ∉ fields → s'.idReservation = s.idReservation
  creations : .creations ∉ fields → s'.creations = s.creations
  announcements : .announcements ∉ fields → s'.announcements = s.announcements
  payouts : .payouts ∉ fields → s'.payouts = s.payouts
  recipientPayouts : .recipientPayouts ∉ fields → s'.recipientPayouts = s.recipientPayouts
  delegatedWithdrawNonce :
    .nonces ∉ fields → s'.delegatedWithdrawNonce = s.delegatedWithdrawNonce
  templateRegistry : .templates ∉ fields → s'.templateRegistry = s.templateRegistry
  pendingRecipientUpdate :
    .rotations ∉ fields → s'.pendingRecipientUpdate = s.pendingRecipientUpdate
  rotationHistory : .rotations ∉ fields → s'.rotationHistory = s.rotationHistory
  reentrancyLock : .lock ∉ fields → s'.reentrancyLock = s.reentrancyLock
  pauseFlags : .pauses ∉ fields → s'.pauseFlags = s.pauseFlags
  countFits : s.CountFits → s'.CountFits
  tokens : TokenBalances s.balances → TokenBalances s'.balances
  clock : s'.lastAccrualLedgerTimestamp = s.lastAccrualLedgerTimestamp ∨
    s'.lastAccrualLedgerTimestamp = some env.timestamp

variable {fields : List Field}

instance : StepRelation (OnlyWrites fields) where
  refl := fun _ _ => ⟨fun _ => rfl, fun _ => rfl, fun _ => rfl, fun _ => rfl, fun _ => rfl,
    fun _ => rfl, fun _ => rfl, fun _ => rfl, fun _ => rfl, fun _ => rfl, fun _ => rfl,
    fun _ => rfl, fun _ => rfl, fun _ => rfl, fun _ => rfl, fun _ => rfl, id, id, Or.inl rfl⟩
  trans := fun _ _ _ _ first second =>
    { streams := fun other => (second.streams other).trans (first.streams other)
      balances := fun other => (second.balances other).trans (first.balances other)
      recipientStreams := fun other =>
        (second.recipientStreams other).trans (first.recipientStreams other)
      autoClaimDestination := fun other =>
        (second.autoClaimDestination other).trans (first.autoClaimDestination other)
      nextStreamId := fun other => (second.nextStreamId other).trans (first.nextStreamId other)
      idReservation := fun other => (second.idReservation other).trans (first.idReservation other)
      creations := fun other => (second.creations other).trans (first.creations other)
      announcements := fun other =>
        (second.announcements other).trans (first.announcements other)
      payouts := fun other => (second.payouts other).trans (first.payouts other)
      recipientPayouts := fun other =>
        (second.recipientPayouts other).trans (first.recipientPayouts other)
      delegatedWithdrawNonce := fun other =>
        (second.delegatedWithdrawNonce other).trans (first.delegatedWithdrawNonce other)
      templateRegistry := fun other =>
        (second.templateRegistry other).trans (first.templateRegistry other)
      pendingRecipientUpdate := fun other =>
        (second.pendingRecipientUpdate other).trans (first.pendingRecipientUpdate other)
      rotationHistory := fun other =>
        (second.rotationHistory other).trans (first.rotationHistory other)
      reentrancyLock := fun other =>
        (second.reentrancyLock other).trans (first.reentrancyLock other)
      pauseFlags := fun other => (second.pauseFlags other).trans (first.pauseFlags other)
      countFits := fun fits => second.countFits (first.countFits fits)
      tokens := fun sound => second.tokens (first.tokens sound)
      clock := second.clock.elim (fun same => same ▸ first.clock) Or.inr }

/-- A field that an entrypoint writes changes freely, the others agree by definition. Balances only
change in transfers. -/
theorem keeps_writes {change : State → State}
    (streams : .streams ∈ fields ∨ ∀ s, (change s).streams = s.streams)
    (balances : ∀ s, (change s).balances = s.balances)
    (recipientStreams : .recipientStreams ∈ fields ∨
      ∀ s, (change s).recipientStreams = s.recipientStreams)
    (autoClaimDestination : .autoClaimDestination ∈ fields ∨
      ∀ s, (change s).autoClaimDestination = s.autoClaimDestination)
    (nextStreamId : .ids ∈ fields ∨ ∀ s, (change s).nextStreamId = s.nextStreamId)
    (idReservation : .ids ∈ fields ∨ ∀ s, (change s).idReservation = s.idReservation)
    (creations : .creations ∈ fields ∨ ∀ s, (change s).creations = s.creations)
    (announcements : .announcements ∈ fields ∨ ∀ s, (change s).announcements = s.announcements)
    (payouts : .payouts ∈ fields ∨ ∀ s, (change s).payouts = s.payouts)
    (recipientPayouts : .recipientPayouts ∈ fields ∨
      ∀ s, (change s).recipientPayouts = s.recipientPayouts)
    (delegatedWithdrawNonce : .nonces ∈ fields ∨
      ∀ s, (change s).delegatedWithdrawNonce = s.delegatedWithdrawNonce)
    (templateRegistry : .templates ∈ fields ∨
      ∀ s, (change s).templateRegistry = s.templateRegistry)
    (pendingRecipientUpdate : .rotations ∈ fields ∨
      ∀ s, (change s).pendingRecipientUpdate = s.pendingRecipientUpdate)
    (rotationHistory : .rotations ∈ fields ∨
      ∀ s, (change s).rotationHistory = s.rotationHistory)
    (reentrancyLock : .lock ∈ fields ∨ ∀ s, (change s).reentrancyLock = s.reentrancyLock)
    (pauseFlags : .pauses ∈ fields ∨ ∀ s, (change s).pauseFlags = s.pauseFlags)
    (counts : ∀ s, (change s).nextStreamId = s.nextStreamId ∨
      ((change s).nextStreamId : ℤ) ≤ u64.upper)
    (clock : ∀ s, (change s).lastAccrualLedgerTimestamp = s.lastAccrualLedgerTimestamp) :
    Keeps (OnlyWrites fields) (update change : Contract Unit) := by
  apply keeps_update
  intro env s
  have countFits : s.CountFits → (change s).CountFits := by
    rcases counts s with same | fits
    · unfold State.CountFits
      rw [same]
      exact id
    · exact fun _ => fits
  exact ⟨fun other => streams.resolve_left other s, fun _ => balances s,
    fun other => recipientStreams.resolve_left other s,
    fun other => autoClaimDestination.resolve_left other s,
    fun other => nextStreamId.resolve_left other s,
    fun other => idReservation.resolve_left other s,
    fun other => creations.resolve_left other s,
    fun other => announcements.resolve_left other s,
    fun other => payouts.resolve_left other s,
    fun other => recipientPayouts.resolve_left other s,
    fun other => delegatedWithdrawNonce.resolve_left other s,
    fun other => templateRegistry.resolve_left other s,
    fun other => pendingRecipientUpdate.resolve_left other s,
    fun other => rotationHistory.resolve_left other s,
    fun other => reentrancyLock.resolve_left other s,
    fun other => pauseFlags.resolve_left other s, countFits,
    fun sound => (balances s).symm ▸ sound, Or.inl (clock s)⟩

section Leaves

@[simp]
theorem keeps_checkedI128 {value : ℤ} {reason : ContractError} :
    Keeps (OnlyWrites fields) (checkedI128 value reason) :=
  keeps_getOrReject

@[simp]
theorem keeps_plainI128 {value : ℤ} : Keeps (OnlyWrites fields) (plainI128 value) :=
  keeps_getOrReject

@[simp]
theorem keeps_checkedAddU64 {left right : ℕ} {reason : ContractError} :
    Keeps (OnlyWrites fields) (checkedAddU64 left right reason) :=
  keeps_bind keeps_rejectIf fun _ => keeps_pure

@[simp]
theorem keeps_plainAddU64 {left right : ℕ} :
    Keeps (OnlyWrites fields) (plainAddU64 left right) :=
  keeps_bind keeps_rejectIf fun _ => keeps_pure

@[simp]
theorem keeps_plainSub {left right : ℕ} : Keeps (OnlyWrites fields) (plainSub left right) :=
  keeps_bind keeps_rejectIf fun _ => keeps_pure

@[simp]
theorem keeps_requireAuth {address : Address} :
    Keeps (OnlyWrites fields) (requireAuth address) :=
  keeps_bind keeps_ask fun _ => keeps_rejectIf

@[simp]
theorem keeps_currentAccrualTimestamp :
    Keeps (OnlyWrites fields) currentAccrualTimestamp := by
  intro env s now s' run
  rcases runs_currentAccrualTimestamp.mp run with ⟨_, _, rfl⟩
  exact ⟨fun _ => rfl, fun _ => rfl, fun _ => rfl, fun _ => rfl, fun _ => rfl, fun _ => rfl,
    fun _ => rfl, fun _ => rfl, fun _ => rfl, fun _ => rfl, fun _ => rfl, fun _ => rfl,
    fun _ => rfl, fun _ => rfl, fun _ => rfl, fun _ => rfl, id, id, Or.inr rfl⟩

@[simp]
theorem keeps_getConfig : Keeps (OnlyWrites fields) getConfig :=
  keeps_bind keeps_peek fun _ => keeps_getOrReject

@[simp]
theorem keeps_getToken : Keeps (OnlyWrites fields) getToken :=
  keeps_bind keeps_getConfig fun _ => keeps_pure

@[simp]
theorem keeps_getAdmin : Keeps (OnlyWrites fields) getAdmin :=
  keeps_bind keeps_getConfig fun _ => keeps_pure

@[simp]
theorem keeps_requireNotGloballyPaused :
    Keeps (OnlyWrites fields) requireNotGloballyPaused :=
  keeps_bind keeps_peek fun _ => keeps_rejectIf

@[simp]
theorem keeps_requireNotCreationPaused :
    Keeps (OnlyWrites fields) requireNotCreationPaused :=
  keeps_bind keeps_requireNotGloballyPaused fun _ => keeps_bind keeps_peek fun _ => keeps_rejectIf

@[simp]
theorem keeps_loadStream {streamId : ℕ} : Keeps (OnlyWrites fields) (loadStream streamId) :=
  keeps_bind keeps_peek fun _ => keeps_getOrReject

@[simp]
theorem keeps_isValidDestination {destination : Address} :
    Keeps (OnlyWrites fields) (isValidDestination destination) :=
  keeps_ask

@[simp]
theorem keeps_tokenBalance : Keeps (OnlyWrites fields) tokenBalance :=
  keeps_bind keeps_getToken fun _ => keeps_bind keeps_ask fun _ => keeps_peek

@[simp]
theorem keeps_calculateAccrued {streamId : ℕ} :
    Keeps (OnlyWrites fields) (calculateAccrued streamId) := by
  refine keeps_bind keeps_loadStream fun stream => ?_
  refine keeps_ite keeps_pure (keeps_ite ?_ ?_)
  · exact keeps_bind keeps_getOrReject fun _ => keeps_pure
  · exact keeps_bind keeps_currentAccrualTimestamp fun _ => keeps_pure

@[simp]
theorem keeps_requireWithdrawInterval {stream : Stream} {currentLedger : ℕ} :
    Keeps (OnlyWrites fields) (requireWithdrawInterval stream currentLedger) :=
  keeps_bind keeps_plainSub fun _ => keeps_rejectIf

end Leaves

/-! ## Writes and transfers -/

section Helpers

attribute [local simp] keeps_writes State.creations State.announcements State.recipientPayouts
  State.templateRegistry State.pauseFlags

@[simp]
theorem keeps_publish {event : Event} (uncreated : event.creation = none ∨ .creations ∈ fields)
    (unindexed : event.indexed = none ∨ .announcements ∈ fields)
    (undefined : event.template = none ∨ .templates ∈ fields) :
    Keeps (OnlyWrites fields) (publish event) := by
  apply keeps_writes
  case creations =>
    refine uncreated.symm.imp_right fun plain s => ?_
    simp only [State.creations, List.filterMap_append, List.filterMap_cons_none plain,
      List.filterMap_nil, List.append_nil]
  case announcements =>
    refine unindexed.symm.imp_right fun plain s => ?_
    simp only [State.announcements, List.filterMap_append, List.filterMap_cons_none plain,
      List.filterMap_nil, List.append_nil]
  case templateRegistry =>
    refine undefined.symm.imp_right fun plain s => ?_
    simp only [State.templateRegistry, List.filterMap_append, List.filterMap_cons_none plain,
      List.filterMap_nil, List.append_nil]
  all_goals simp

@[simp]
theorem keeps_publishCompletion {before after : Stream} (member : .announcements ∈ fields) :
    Keeps (OnlyWrites fields) (publishCompletion before after) := by
  have uncreated : (completionEvents before after).filterMap Event.creation = [] := by
    unfold completionEvents
    split <;> rfl
  have undefined : (completionEvents before after).filterMap Event.template = [] := by
    unfold completionEvents
    split <;> rfl
  simp [publishCompletion, member, uncreated, undefined]

@[simp]
theorem keeps_reconcilePausedStreamCount {previous next : StreamStatus} :
    Keeps (OnlyWrites fields) (reconcilePausedStreamCount previous next) := by
  simp [reconcilePausedStreamCount]

@[simp]
theorem keeps_increaseLiabilities {amount : ℤ} :
    Keeps (OnlyWrites fields) (increaseLiabilities amount) := by
  simp [increaseLiabilities]

@[simp]
theorem keeps_reduceLiabilities {amount : ℤ} :
    Keeps (OnlyWrites fields) (reduceLiabilities amount) := by
  simp [reduceLiabilities]

@[simp]
theorem keeps_releaseLiabilities {amount : ℤ} :
    Keeps (OnlyWrites fields) (releaseLiabilities amount) := by
  simp [releaseLiabilities]

/-- A count below one that fits. -/
theorem onlyWrites_setStreamCount {count : ℕ} {env : Env} {s s' : State} (member : .ids ∈ fields)
    (fits : s.CountFits → (count : ℤ) ≤ u64.upper)
    (run : Runs (setStreamCount count) env s () s') : OnlyWrites fields env s s' := by
  rcases runs_setStreamCount.mp run with rfl
  exact ⟨fun _ => rfl, fun _ => rfl, fun _ => rfl, fun _ => rfl, fun other => absurd member other,
    fun _ => rfl, fun _ => rfl, fun _ => rfl, fun _ => rfl, fun _ => rfl, fun _ => rfl,
    fun _ => rfl, fun _ => rfl, fun _ => rfl, fun _ => rfl, fun _ => rfl, fits, id, Or.inl rfl⟩

@[simp]
theorem keeps_setStreamCount {count : ℕ} (member : .ids ∈ fields)
    (fits : (count : ℤ) ≤ u64.upper) : Keeps (OnlyWrites fields) (setStreamCount count) :=
  fun _ _ _ _ run => onlyWrites_setStreamCount member (fun _ => fits) run

@[simp]
theorem keeps_saveIdReservation {caller : Address} {res : IdReservation}
    (member : .ids ∈ fields) : Keeps (OnlyWrites fields) (saveIdReservation caller res) := by
  simp [saveIdReservation, member]

@[simp]
theorem keeps_removeIdReservation {caller : Address} (member : .ids ∈ fields) :
    Keeps (OnlyWrites fields) (removeIdReservation caller) := by
  simp [removeIdReservation, member]

@[simp]
theorem keeps_savePendingRecipientUpdate {streamId : ℕ}
    {pending : Option PendingRecipientUpdate} (member : .rotations ∈ fields) :
    Keeps (OnlyWrites fields) (savePendingRecipientUpdate streamId pending) := by
  simp [savePendingRecipientUpdate, member]

@[simp]
theorem keeps_saveStream {stream : Stream} (member : .streams ∈ fields) :
    Keeps (OnlyWrites fields) (saveStream stream) := by
  simp [saveStream, member]

@[simp]
theorem keeps_removeStream {streamId : ℕ} (member : .streams ∈ fields) :
    Keeps (OnlyWrites fields) (removeStream streamId) := by
  simp [removeStream, member]

@[simp]
theorem keeps_saveRecipientStreams {recipient : Address} {ids : List ℕ}
    (member : .recipientStreams ∈ fields) :
    Keeps (OnlyWrites fields) (saveRecipientStreams recipient ids) := by
  simp [saveRecipientStreams, member]

@[simp]
theorem keeps_saveAutoClaimDestination {streamId : ℕ} {destination : Option Address}
    (member : .autoClaimDestination ∈ fields) :
    Keeps (OnlyWrites fields) (saveAutoClaimDestination streamId destination) := by
  simp [saveAutoClaimDestination, member]

@[simp]
theorem keeps_acquireReentrancyLock (member : .lock ∈ fields) :
    Keeps (OnlyWrites fields) acquireReentrancyLock :=
  keeps_bind keeps_peek fun _ => keeps_bind keeps_rejectIf fun _ => by simp [member]

@[simp]
theorem keeps_releaseReentrancyLock (member : .lock ∈ fields) :
    Keeps (OnlyWrites fields) releaseReentrancyLock := by
  simp [releaseReentrancyLock, member]

@[simp]
theorem keeps_tokenTransfer {source destination : Address} {amount : ℤ}
    (member : .balances ∈ fields) :
    Keeps (OnlyWrites fields) (tokenTransfer source destination amount) := by
  intro env s done s' run
  rcases runs_tokenTransfer.mp run with ⟨allowed, rfl⟩
  exact ⟨fun _ => rfl, fun other => absurd member other, fun _ => rfl, fun _ => rfl, fun _ => rfl,
    fun _ => rfl, fun _ => rfl, fun _ => rfl, fun _ => rfl, fun _ => rfl, fun _ => rfl,
    fun _ => rfl, fun _ => rfl, fun _ => rfl, fun _ => rfl, fun _ => rfl, id,
    allowed.tokenBalances, Or.inl rfl⟩

/-- A payment that no recipient draws. -/
def PayoutLine.Undrawn (line : PayoutLine) : Prop :=
  ¬ line.kind.drawn

@[simp]
theorem keeps_pushToken {destination : Address} {amount : ℤ} {lines : List PayoutLine}
    (member : .balances ∈ fields) (logged : .payouts ∈ fields ∨ lines = [])
    (drawn : .recipientPayouts ∈ fields ∨ ∀ line ∈ lines, line.Undrawn) :
    Keeps (OnlyWrites fields) (pushToken destination amount lines) := by
  refine keeps_bind keeps_getToken fun _ => keeps_bind keeps_ask fun env => ?_
  refine keeps_bind (keeps_tokenTransfer member) fun _ => ?_
  apply keeps_writes
  case payouts =>
    refine logged.imp_right ?_
    rintro rfl s
    exact List.append_nil _
  case recipientPayouts =>
    refine drawn.imp_right fun undrawn s => ?_
    have none_drawn : ((lines.map fun line : PayoutLine =>
        ({ streamId := line.streamId, kind := line.kind, destination, amount := line.amount,
           sequence := env.sequence, stored := s.streams line.streamId } : Payout)).filter
        fun payout => payout.kind.drawn) = [] := by
      apply List.filter_eq_nil_iff.mpr
      intro payout mem
      rcases List.mem_map.mp mem with ⟨line, lineMem, rfl⟩
      exact undrawn line lineMem
    rw [State.recipientPayouts, List.filter_append, none_drawn, List.append_nil,
      State.recipientPayouts]
  all_goals simp

@[simp]
theorem keeps_pushPositive {destination : Address} {amount : ℤ} {streamId : ℕ}
    {kind : PayoutKind} (member : .balances ∈ fields) (logged : .payouts ∈ fields)
    (undrawn : ¬ kind.drawn) :
    Keeps (OnlyWrites fields) (pushPositive destination amount streamId kind) := by
  refine keeps_ite (keeps_pushToken member (Or.inl logged) (Or.inr ?_)) keeps_pure
  simpa [PayoutLine.Undrawn] using undrawn

@[simp]
theorem keeps_pullToken {source : Address} {amount : ℤ} (member : .balances ∈ fields) :
    Keeps (OnlyWrites fields) (pullToken source amount) := by
  unfold pullToken
  repeat' with_reducible first | refine keeps_bind ?_ fun _ => ?_ | simp [member]

@[simp]
theorem keeps_addStreamToRecipientIndex {recipient : Address} {streamId : ℕ}
    (member : .recipientStreams ∈ fields) :
    Keeps (OnlyWrites fields) (addStreamToRecipientIndex recipient streamId) :=
  keeps_bind keeps_peek fun _ => keeps_saveRecipientStreams member

@[simp]
theorem keeps_removeStreamFromRecipientIndex {recipient : Address} {streamId : ℕ}
    (member : .recipientStreams ∈ fields) :
    Keeps (OnlyWrites fields) (removeStreamFromRecipientIndex recipient streamId) :=
  keeps_bind keeps_peek fun _ => keeps_saveRecipientStreams member

/-- A counter that is advanced stays a value of its type. -/
theorem keeps_bind_plainAddU64 {left right : ℕ} {α : Type} {next : ℕ → Contract α}
    (keeps : ∀ sum : ℕ, (sum : ℤ) ≤ u64.upper → Keeps (OnlyWrites fields) (next sum)) :
    Keeps (OnlyWrites fields) (plainAddU64 left right >>= next) := by
  refine keeps_bind_of keeps_plainAddU64 (fun env s sum s' run => ?_) keeps
  rcases runs_plainAddU64.mp run with ⟨fits, rfl, _⟩
  exact fits

@[simp]
theorem keeps_nextStreamIdFor {caller : Address} (member : .ids ∈ fields) :
    Keeps (OnlyWrites fields) (nextStreamIdFor caller) := by
  refine keeps_bind keeps_peek fun reservation => ?_
  cases reservation with
  | none =>
      refine keeps_bind keeps_peek fun _ => keeps_bind_plainAddU64 fun _ fits => ?_
      exact keeps_bind (keeps_setStreamCount member fits) fun _ => keeps_pure
  | some res =>
      refine keeps_bind keeps_plainAddU64 fun _ => keeps_ite ?_ ?_
      · exact keeps_bind (keeps_removeIdReservation member) fun _ => keeps_pure
      · exact keeps_bind (keeps_saveIdReservation member) fun _ => keeps_pure

end Helpers

end Wallie.StreamContract
