import Wallie.StreamContract.Entrypoints
import Wallie.StreamContract.Writes

/-!
# What each entrypoint writes

One frame rule for each loop of the entrypoints, and one statement for all
calls: what a call does not list in `Call.writes` it leaves alone.
-/

namespace Wallie.StreamContract

open Fallible

attribute [local simp] State.creations State.announcements State.recipientPayouts
  State.templateRegistry State.pauseFlags

variable {fields : List Field}

/-- The fields every creation may write. -/
abbrev creationFields : List Field :=
  [.streams, .balances, .recipientStreams, .ids, .creations, .announcements]

/-- The fields every change of the record of a stream may write. -/
abbrev recordFields : List Field := [.streams, .announcements]

/-- The fields a change of the record that pays somebody out may write. -/
abbrev settlementFields : List Field := [.streams, .balances, .announcements, .payouts]

/-- The fields every payment to a recipient may write. -/
abbrev paymentFields : List Field :=
  [.streams, .balances, .announcements, .payouts, .recipientPayouts]

/-- The fields an entrypoint may write. -/
def Call.writes : Call → List Field
  | init _ _ => [.balances, .ids, .templates]
  | setGlobalEmergencyPaused _ | globalResume | setContractPaused _ | pauseProtocol _ _
  | resumeProtocol _ => [.pauses]
  | sweepExcess _ => [.balances, .lock]
  | createStream _ _ | createStreamRelative _ _ | createStreams _ _ | createStreamsRelative _ _
  | createStreamsPartial _ _ | createStreamFromTemplate _ _ _ _ _ _ _ _ _
  | cloneStream _ _ _ _ _ _ => creationFields
  | withdraw _ | withdrawTo _ _ | batchWithdraw _ _ | batchWithdrawTo _ _ => paymentFields
  | delegatedWithdraw _ _ _ _ _ _ _ => .nonces :: paymentFields
  | triggerAutoClaim _ => .lock :: paymentFields
  | decreaseRatePerSecond _ _ | shortenStreamEndTime _ _ | cancelStream _ | cancelStreamAsAdmin _
  | keeperCancel _ _ | bulkCancelStreams _ _ => settlementFields
  | topUpStream _ _ _ => .balances :: recordFields
  | updateRatePerSecond _ _ | extendStreamEndTime _ _ | updateRate _ _ _ | pauseStream _ _
  | pauseStreamAsAdmin _ _ | resumeStream _ | resumeStreamAsAdmin _ => recordFields
  | closeCompletedStream _ | closeCancelledStream _ => .recipientStreams :: recordFields
  | acceptRecipientUpdate _ => .rotations :: .recipientStreams :: recordFields
  | updateRecipient _ _ | cancelRecipientUpdate _ => [.rotations]
  | setAutoClaim _ _ | revokeAutoClaim _ => [.autoClaimDestination]
  | registerStreamTemplate _ _ _ _ | deleteStreamTemplate _ _ => [.templates]
  | reserveStreamIds _ _ _ | releaseIdReservation _ | reclaimExpiredIdReservation _ => [.ids]
  | _ => []

@[simp]
theorem keeps_validateStreamParams {sender : Address} {now : ℕ} {params : CreateStreamParams} :
    Keeps (OnlyWrites fields) (validateStreamParams sender now params) := by
  unfold validateStreamParams
  repeat' with_reducible first | refine keeps_bind ?_ fun _ => ?_ | simp

@[simp]
theorem keeps_absoluteParams {now : ℕ} {params : CreateStreamRelativeParams} :
    Keeps (OnlyWrites fields) (absoluteParams now params) := by
  unfold absoluteParams
  repeat' with_reducible first | refine keeps_bind ?_ fun _ => ?_ | simp

theorem keeps_persistStream {addToIndex : Address → ℕ → Contract Unit} {sender : Address}
    {params : CreateStreamParams} (member : .streams ∈ fields) (ids : .ids ∈ fields)
    (creations : .creations ∈ fields) (announced : .announcements ∈ fields)
    (indexes : ∀ recipient id, Keeps (OnlyWrites fields) (addToIndex recipient id)) :
    Keeps (OnlyWrites fields) (persistStream addToIndex sender params) := by
  unfold persistStream
  repeat' with_reducible
    first
    | exact keeps_publish (Or.inr creations) (Or.inr announced) (Or.inl rfl)
    | refine keeps_bind ?_ fun _ => ?_
    | simp [member, ids, indexes]

@[simp]
theorem keeps_persistNewStream {sender : Address} {params : CreateStreamParams}
    (streams : .streams ∈ fields) (recipientStreams : .recipientStreams ∈ fields)
    (ids : .ids ∈ fields) (creations : .creations ∈ fields)
    (announced : .announcements ∈ fields) :
    Keeps (OnlyWrites fields) (persistNewStream sender params) :=
  keeps_persistStream streams ids creations announced
    fun _ _ => keeps_addStreamToRecipientIndex recipientStreams

theorem keeps_validateAll {sender : Address} {now : ℕ} {streams : List CreateStreamParams}
    {total : ℤ} : Keeps (OnlyWrites fields) (validateAll sender now streams total) := by
  induction streams generalizing total with
  | nil => exact keeps_pure
  | cons params rest ih =>
      exact keeps_bind keeps_validateStreamParams fun _ => keeps_bind keeps_checkedI128 fun _ => ih

theorem keeps_persistAll {sender : Address} {streams : List CreateStreamParams} {ids : List ℕ}
    {cache : RecipientCache} (member : .streams ∈ fields) (counts : .ids ∈ fields)
    (creations : .creations ∈ fields) (announced : .announcements ∈ fields) :
    Keeps (OnlyWrites fields) (persistAll sender streams ids cache) := by
  induction streams generalizing ids cache with
  | nil => exact keeps_pure
  | cons params rest ih =>
      refine keeps_bind ?_ fun _ => ih
      exact keeps_persistStream member counts creations announced fun _ _ => keeps_pure

theorem keeps_flushCache {cache : RecipientCache} (member : .recipientStreams ∈ fields) :
    Keeps (OnlyWrites fields) (flushCache cache) := by
  induction cache with
  | nil => exact keeps_pure
  | cons entry rest ih =>
      exact keeps_bind keeps_peek fun _ =>
        keeps_bind (keeps_saveRecipientStreams member) fun _ => ih

theorem keeps_absoluteAll {now : ℕ} {streams : List CreateStreamRelativeParams} :
    Keeps (OnlyWrites fields) (absoluteAll now streams) := by
  induction streams with
  | nil => exact keeps_pure
  | cons params rest ih =>
      exact keeps_bind keeps_absoluteParams fun _ => keeps_bind ih fun _ => keeps_pure

@[simp]
theorem keeps_createStream {sender : Address} {params : CreateStreamParams} :
    Keeps (OnlyWrites creationFields) (createStream sender params) := by
  unfold createStream
  repeat' with_reducible first | refine keeps_bind ?_ fun _ => ?_ | simp

@[simp]
theorem keeps_createStreamRelative {sender : Address} {params : CreateStreamRelativeParams} :
    Keeps (OnlyWrites creationFields) (createStreamRelative sender params) :=
  keeps_bind keeps_ask fun _ => keeps_bind keeps_absoluteParams fun _ => keeps_createStream

@[simp]
theorem keeps_createStreams {sender : Address} {streams : List CreateStreamParams} :
    Keeps (OnlyWrites creationFields) (createStreams sender streams) := by
  unfold createStreams
  repeat' with_reducible
    first
    | exact keeps_validateAll
    | exact keeps_persistAll (by simp) (by simp) (by simp) (by simp)
    | exact keeps_flushCache (by simp)
    | refine keeps_bind ?_ fun _ => ?_
    | refine keeps_ite ?_ ?_
    | simp

@[simp]
theorem keeps_createOnePartial {sender : Address} {now : ℕ} {params : CreateStreamParams} :
    Keeps (OnlyWrites creationFields) (createOnePartial sender now params) := by
  refine keeps_bind (keeps_attempt keeps_validateStreamParams) fun validation => ?_
  cases validation with
  | error _ => exact keeps_pure
  | ok _ =>
      refine keeps_bind (keeps_attempt (keeps_pullToken (by simp))) fun transfer => ?_
      cases transfer with
      | error _ => exact keeps_pure
      | ok _ =>
          have persists : Keeps (OnlyWrites creationFields)
              (persistNewStream sender params.withFinalRate) :=
            keeps_persistNewStream (by simp) (by simp) (by simp) (by simp) (by simp)
          refine keeps_bind (keeps_attempt persists) fun persisted => ?_
          cases persisted <;> exact keeps_pure

theorem keeps_createAllPartial {sender : Address} {now : ℕ} {streams : List CreateStreamParams} :
    Keeps (OnlyWrites creationFields) (createAllPartial sender now streams) := by
  induction streams with
  | nil => exact keeps_pure
  | cons params rest ih =>
      exact keeps_bind keeps_createOnePartial fun _ => keeps_bind ih fun _ => keeps_pure

@[simp]
theorem keeps_batchWithdrawable {stream : Stream} {now : ℕ} {contractBalance : ℤ} :
    Keeps (OnlyWrites fields) (batchWithdrawable stream now contractBalance) := by
  unfold batchWithdrawable
  repeat' with_reducible
    first
    | refine keeps_bind ?_ fun _ => ?_
    | refine keeps_ite ?_ ?_
    | simp

theorem keeps_batchWithdrawLoop {recipient : Address} {now : ℕ} {ids : List ℕ}
    {contractBalance : ℤ} :
    Keeps (OnlyWrites paymentFields) (batchWithdrawLoop recipient now ids contractBalance) := by
  induction ids generalizing contractBalance with
  | nil => exact keeps_pure
  | cons id rest ih =>
      unfold batchWithdrawLoop
      repeat' with_reducible
        first
        | exact ih
        | refine keeps_bind ?_ fun _ => ?_
        | refine keeps_ite ?_ ?_
        | simp

theorem keeps_checkDestinations {address : Address} {withdrawals : List WithdrawToParam} :
    Keeps (OnlyWrites fields) (checkDestinations address withdrawals) := by
  induction withdrawals with
  | nil => exact keeps_pure
  | cons param rest ih =>
      exact keeps_bind keeps_rejectIf fun _ => keeps_bind keeps_rejectIf fun _ => ih

theorem keeps_batchWithdrawToLoop {recipient : Address} {now : ℕ}
    {withdrawals : List WithdrawToParam} {contractBalance : ℤ} :
    Keeps (OnlyWrites paymentFields)
      (batchWithdrawToLoop recipient now withdrawals contractBalance) := by
  induction withdrawals generalizing contractBalance with
  | nil => exact keeps_pure
  | cons param rest ih =>
      unfold batchWithdrawToLoop
      repeat' with_reducible
        first
        | exact ih
        | refine keeps_bind ?_ fun _ => ?_
        | refine keeps_ite ?_ ?_
        | simp

theorem keeps_loadCancellable {sender : Address} {ids : List ℕ} :
    Keeps (OnlyWrites fields) (loadCancellable sender ids) := by
  induction ids with
  | nil => exact keeps_pure
  | cons id rest ih =>
      exact keeps_bind keeps_rejectIf fun _ => keeps_bind keeps_loadStream fun _ =>
        keeps_bind keeps_rejectIf fun _ => keeps_bind keeps_rejectIf fun _ =>
          keeps_bind ih fun _ => keeps_pure

@[simp]
theorem keeps_maybeEmitHealthChanged {stream : Stream} {wasUnderfunded : Bool} {now : ℕ} :
    Keeps (OnlyWrites fields) (maybeEmitHealthChanged stream wasUnderfunded now) :=
  keeps_ite keeps_pure (keeps_publish (Or.inl rfl) (Or.inl rfl) (Or.inl rfl))

@[simp]
theorem keeps_payRecipientAccrual {stream : Stream} {now : ℕ} (member : .balances ∈ fields)
    (logged : .payouts ∈ fields) (announced : .announcements ∈ fields) :
    Keeps (OnlyWrites fields) (payRecipientAccrual stream now) := by
  unfold payRecipientAccrual
  repeat' with_reducible
    first
    | refine keeps_bind ?_ fun _ => ?_
    | refine keeps_ite ?_ ?_
    | simp [member, logged, announced, PayoutLine.Undrawn]

theorem keeps_bulkCancelLoop {now : ℕ} {streams : List Stream} {aggregateRefund : ℤ}
    {lines : List PayoutLine} :
    Keeps (OnlyWrites settlementFields) (bulkCancelLoop now streams aggregateRefund lines) := by
  induction streams generalizing aggregateRefund lines with
  | nil => exact keeps_pure
  | cons stream rest ih =>
      unfold bulkCancelLoop
      repeat' with_reducible
        first
        | exact ih
        | refine keeps_bind ?_ fun _ => ?_
        | refine keeps_ite ?_ ?_
        | simp

/-- The payments of a bulk cancellation to the sender are refunds. -/
theorem undrawn_of_bulkCancelLoop {env : Env} {s s' : State} {now : ℕ} {streams : List Stream}
    {aggregateRefund : ℤ} {lines : List PayoutLine} {settled : ℤ × List PayoutLine}
    (undrawn : ∀ line ∈ lines, line.Undrawn)
    (run : Runs (bulkCancelLoop now streams aggregateRefund lines) env s settled s') :
    ∀ line ∈ settled.2, line.Undrawn := by
  induction streams generalizing aggregateRefund lines s with
  | nil =>
      rcases runs_pure.mp run with ⟨rfl, _⟩
      exact undrawn
  | cons stream rest ih =>
      simp only [bulkCancelLoop, runs_bind, runs_ite] at run
      obtain ⟨_, _, _, _, _, _, _, _, _, _, _, _, run⟩ := run
      rcases run with ⟨_, _, _, _, _, _, _, _, _, _, _, _, _, run⟩ | ⟨_, _, _, _, _, _, _, run⟩
      · refine ih (fun line member => ?_) run
        rcases List.mem_append.mp member with earlier | latest
        · exact undrawn line earlier
        · rcases List.mem_singleton.mp latest with rfl
          simp [PayoutLine.Undrawn]
      · exact ih undrawn run

theorem keeps_settleAll {now : ℕ} {streams : List Stream} {sender : Address} :
    Keeps (OnlyWrites settlementFields) (do
      let (aggregateRefund, lines) ← bulkCancelLoop now streams 0 []
      if 0 < aggregateRefund then pushToken sender aggregateRefund lines) := by
  refine keeps_bind_of keeps_bulkCancelLoop
    (fun env s settled s' run => undrawn_of_bulkCancelLoop (by simp) run)
    fun settled undrawn => ?_
  exact keeps_ite (keeps_pushToken (by simp) (by simp) (Or.inr undrawn)) keeps_pure

@[simp]
theorem keeps_pauseLoadedStream {stream : Stream} :
    Keeps (OnlyWrites recordFields) (pauseLoadedStream stream) := by
  unfold pauseLoadedStream
  repeat' with_reducible first | refine keeps_bind ?_ fun _ => ?_ | simp

@[simp]
theorem keeps_resumeLoadedStream {stream : Stream} :
    Keeps (OnlyWrites recordFields) (resumeLoadedStream stream) := by
  unfold resumeLoadedStream
  repeat' with_reducible first | refine keeps_bind ?_ fun _ => ?_ | simp

@[simp]
theorem keeps_requireCancellableStatus {status : StreamStatus} :
    Keeps (OnlyWrites fields) (requireCancellableStatus status) :=
  keeps_rejectIf

@[simp]
theorem keeps_cancelStreamInternal {stream : Stream} :
    Keeps (OnlyWrites settlementFields) (cancelStreamInternal stream) := by
  unfold cancelStreamInternal
  repeat' with_reducible first | refine keeps_bind ?_ fun _ => ?_ | simp

@[simp]
theorem keeps_removeClosedStream {stream : Stream} {streamId : ℕ} :
    Keeps (OnlyWrites (.recipientStreams :: recordFields))
      (removeClosedStream stream streamId) := by
  unfold removeClosedStream
  repeat' with_reducible first | refine keeps_bind ?_ fun _ => ?_ | simp

theorem keeps_effect {α : Type} {computation : Contract α}
    (keeps : Keeps (OnlyWrites fields) computation) :
    Keeps (OnlyWrites fields) (effect computation) :=
  keeps_bind keeps fun _ => keeps_pure

@[simp]
theorem keeps_incrementDelegatedNonce {recipient : Address} (member : .nonces ∈ fields) :
    Keeps (OnlyWrites fields) (incrementDelegatedNonce recipient) :=
  keeps_bind keeps_peek fun _ => keeps_bind keeps_plainAddU64 fun _ => by
    simp [keeps_writes, member]

@[simp]
theorem keeps_payKeeperFee {keeper : Address} {keeperFee : ℤ} {streamId : ℕ}
    (member : .balances ∈ fields) (logged : .payouts ∈ fields) :
    Keeps (OnlyWrites fields) (payKeeperFee keeper keeperFee streamId) := by
  have undrawn : ∀ line ∈ [(⟨streamId, .keeperFee, keeperFee⟩ : PayoutLine)], line.Undrawn := by
    simp [PayoutLine.Undrawn]
  refine keeps_ite (keeps_bind (keeps_pushToken member (Or.inl logged) (Or.inr undrawn))
    fun _ => ?_) keeps_pure
  exact keeps_bind keeps_peek fun _ => keeps_bind keeps_checkedI128 fun _ => by
    simp [keeps_writes]

@[simp]
theorem keeps_requireNothingClaimable {stream : Stream} :
    Keeps (OnlyWrites fields) (requireNothingClaimable stream) :=
  keeps_bind keeps_getOrReject fun _ => keeps_rejectIf

@[simp]
theorem keeps_appendRotationEntry {streamId : ℕ} {entry : RotationEntry}
    (member : .rotations ∈ fields) :
    Keeps (OnlyWrites fields) (appendRotationEntry streamId entry) :=
  keeps_bind keeps_peek fun _ => by simp [keeps_writes, member]

@[simp]
theorem keeps_validateTemplateDelays {startDelay cliffDelay duration : ℕ} :
    Keeps (OnlyWrites fields) (validateTemplateDelays startDelay cliffDelay duration) := by
  unfold validateTemplateDelays
  repeat' with_reducible first | refine keeps_bind ?_ fun _ => ?_ | simp

@[simp]
theorem keeps_removeTemplateIdForOwner {owner : Address} {templateId : ℕ}
    (member : .templates ∈ fields) :
    Keeps (OnlyWrites fields) (removeTemplateIdForOwner owner templateId) := by
  refine keeps_bind keeps_peek fun ids => ?_
  cases binarySearch ids templateId with
  | ok position => simp [saveOwnerTemplateIds, keeps_writes, member]
  | error _ => exact keeps_reject

@[simp]
theorem keeps_releaseReservation {holder : Address} {res : IdReservation}
    (member : .ids ∈ fields) : Keeps (OnlyWrites fields) (releaseReservation holder res) := by
  have released : ∀ {event : Event}, event.creation = none → event.indexed = none →
      event.template = none → Keeps (OnlyWrites fields)
        (do removeIdReservation holder; publish event : Contract Unit) :=
    fun uncreated unindexed undefined => keeps_bind (keeps_removeIdReservation member) fun _ =>
      keeps_publish (Or.inl uncreated) (Or.inl unindexed) (Or.inl undefined)
  intro env s done s' run
  rcases runs_bind.mp run with ⟨currentCount, _, peeked, run⟩
  rcases runs_peek.mp peeked with ⟨rfl, rfl⟩
  rcases runs_ite.mp run with ⟨reclaims, run⟩ | ⟨_, run⟩
  · -- What is given back lies below the counter.
    have below := of_decide_eq_true reclaims
    rcases runs_bind.mp run with ⟨_, middle, counted, run⟩
    refine StepRelation.trans _ _ _ _ (onlyWrites_setStreamCount member ?_ counted)
      (released rfl rfl rfl run)
    intro fits
    unfold State.CountFits at fits
    omega
  · exact released rfl rfl rfl run

@[simp]
theorem keeps_getAutoClaimStatus {streamId : ℕ} :
    Keeps (OnlyWrites fields) (getAutoClaimStatus streamId) := by
  refine keeps_bind keeps_loadStream fun stream => keeps_bind keeps_peek fun destination => ?_
  cases destination with
  | none => exact keeps_pure
  | some destination =>
      refine keeps_bind keeps_isValidDestination fun _ => keeps_ite keeps_pure ?_
      exact keeps_bind keeps_currentAccrualTimestamp fun _ => keeps_pure

/-! ## Administration -/

theorem keeps_init {token admin : Address} :
    Keeps (OnlyWrites [.balances, .ids, .templates]) (init token admin) := by
  have zero_fits : (0 : ℤ) ≤ u64.upper := by decide
  unfold init verifyTokenBehavior
  repeat' with_reducible first | refine keeps_bind ?_ fun _ => ?_ | simp [keeps_writes, zero_fits]

theorem keeps_setAdmin {newAdmin : Address} : Keeps (OnlyWrites fields) (setAdmin newAdmin) := by
  unfold setAdmin
  repeat' with_reducible first | refine keeps_bind ?_ fun _ => ?_ | simp [keeps_writes]

theorem keeps_setMaxRatePerSecond {maxRate : ℤ} :
    Keeps (OnlyWrites fields) (setMaxRatePerSecond maxRate) := by
  unfold setMaxRatePerSecond
  repeat' with_reducible first | refine keeps_bind ?_ fun _ => ?_ | simp [keeps_writes]

theorem keeps_setGlobalEmergencyPaused {paused : Bool} :
    Keeps (OnlyWrites [.pauses]) (setGlobalEmergencyPaused paused) := by
  unfold setGlobalEmergencyPaused
  repeat' with_reducible first | refine keeps_bind ?_ fun _ => ?_ | simp [keeps_writes]

theorem keeps_globalResume : Keeps (OnlyWrites [.pauses]) globalResume := by
  unfold globalResume
  repeat' with_reducible first | refine keeps_bind ?_ fun _ => ?_ | simp [keeps_writes]

theorem keeps_setContractPaused {paused : Bool} :
    Keeps (OnlyWrites [.pauses]) (setContractPaused paused) := by
  unfold setContractPaused
  repeat' with_reducible first | refine keeps_bind ?_ fun _ => ?_ | simp [keeps_writes]

theorem keeps_pauseProtocol {admin : Address} {reason : Option String} :
    Keeps (OnlyWrites [.pauses]) (pauseProtocol admin reason) := by
  unfold pauseProtocol isProtocolPaused
  repeat' with_reducible
    first
    | refine keeps_bind ?_ fun _ => ?_
    | refine keeps_ite ?_ ?_
    | simp [keeps_writes]

theorem keeps_resumeProtocol {admin : Address} :
    Keeps (OnlyWrites [.pauses]) (resumeProtocol admin) := by
  unfold resumeProtocol isProtocolPaused
  repeat' with_reducible
    first
    | refine keeps_bind ?_ fun _ => ?_
    | refine keeps_ite ?_ ?_
    | simp [keeps_writes]

theorem keeps_sweepExcess {recipient : Address} :
    Keeps (OnlyWrites [.balances, .lock]) (sweepExcess recipient) := by
  unfold sweepExcess
  repeat' with_reducible first | refine keeps_bind ?_ fun _ => ?_ | refine keeps_ite ?_ ?_ | simp

/-! ## Creations -/

theorem keeps_createStreamsRelative {sender : Address}
    {streams : List CreateStreamRelativeParams} :
    Keeps (OnlyWrites creationFields) (createStreamsRelative sender streams) := by
  unfold createStreamsRelative
  repeat' with_reducible
    first
    | exact keeps_absoluteAll
    | refine keeps_bind ?_ fun _ => ?_
    | refine keeps_ite ?_ ?_
    | simp

theorem keeps_createStreamsPartial {sender : Address} {streams : List CreateStreamParams} :
    Keeps (OnlyWrites creationFields) (createStreamsPartial sender streams) := by
  unfold createStreamsPartial
  repeat' with_reducible
    first
    | exact keeps_createAllPartial
    | refine keeps_bind ?_ fun _ => ?_
    | refine keeps_ite ?_ ?_
    | simp

theorem keeps_createStreamFromTemplate {sender recipient : Address} {templateId : ℕ}
    {depositAmount ratePerSecond withdrawDustThreshold : ℤ} {memo : Option Bytes}
    {metadata : Option Metadata} {kind : StreamKind} :
    Keeps (OnlyWrites creationFields) (createStreamFromTemplate sender templateId recipient
      depositAmount ratePerSecond withdrawDustThreshold memo metadata kind) := by
  unfold createStreamFromTemplate loadStreamTemplate
  repeat' with_reducible first | refine keeps_bind ?_ fun _ => ?_ | simp

theorem keeps_cloneStream {streamId startTime endTime : ℕ} {newRecipient : Address}
    {deposit : ℤ} {force : Bool} :
    Keeps (OnlyWrites creationFields)
      (cloneStream streamId newRecipient startTime endTime deposit force) := by
  unfold cloneStream
  repeat' with_reducible first | refine keeps_bind ?_ fun _ => ?_ | simp

/-! ## Payments -/

theorem keeps_withdraw {streamId : ℕ} : Keeps (OnlyWrites paymentFields) (withdraw streamId) := by
  unfold withdraw
  repeat' with_reducible first | refine keeps_bind ?_ fun _ => ?_ | refine keeps_ite ?_ ?_ | simp

theorem keeps_withdrawTo {streamId : ℕ} {destination : Address} :
    Keeps (OnlyWrites paymentFields) (withdrawTo streamId destination) := by
  unfold withdrawTo
  repeat' with_reducible first | refine keeps_bind ?_ fun _ => ?_ | refine keeps_ite ?_ ?_ | simp

theorem keeps_batchWithdraw {recipient : Address} {streamIds : List ℕ} :
    Keeps (OnlyWrites paymentFields) (batchWithdraw recipient streamIds) := by
  unfold batchWithdraw
  repeat' with_reducible
    first
    | exact keeps_batchWithdrawLoop
    | refine keeps_bind ?_ fun _ => ?_
    | simp

theorem keeps_batchWithdrawTo {recipient : Address} {withdrawals : List WithdrawToParam} :
    Keeps (OnlyWrites paymentFields) (batchWithdrawTo recipient withdrawals) := by
  unfold batchWithdrawTo
  repeat' with_reducible
    first
    | exact keeps_batchWithdrawToLoop
    | exact keeps_checkDestinations
    | refine keeps_bind ?_ fun _ => ?_
    | simp

theorem keeps_delegatedWithdraw {streamId recipientPublicKey nonce deadline : ℕ}
    {relayer : Address} {expectedMinimumAmount : ℤ} {signature : Bytes} :
    Keeps (OnlyWrites (.nonces :: paymentFields))
      (delegatedWithdraw streamId relayer recipientPublicKey nonce deadline expectedMinimumAmount
        signature) := by
  unfold delegatedWithdraw
  repeat' with_reducible first | refine keeps_bind ?_ fun _ => ?_ | refine keeps_ite ?_ ?_ | simp

theorem keeps_triggerAutoClaim {streamId : ℕ} :
    Keeps (OnlyWrites (.lock :: paymentFields)) (triggerAutoClaim streamId) := by
  unfold triggerAutoClaim
  repeat' with_reducible first | refine keeps_bind ?_ fun _ => ?_ | refine keeps_ite ?_ ?_ | simp

/-! ## Changes of the terms -/

theorem keeps_updateRatePerSecond {streamId : ℕ} {newRatePerSecond : ℤ} :
    Keeps (OnlyWrites recordFields) (updateRatePerSecond streamId newRatePerSecond) := by
  unfold updateRatePerSecond requireStreamSender
  repeat' with_reducible first | refine keeps_bind ?_ fun _ => ?_ | refine keeps_ite ?_ ?_ | simp

theorem keeps_decreaseRatePerSecond {streamId : ℕ} {newRatePerSecond : ℤ} :
    Keeps (OnlyWrites settlementFields) (decreaseRatePerSecond streamId newRatePerSecond) := by
  unfold decreaseRatePerSecond requireStreamSender
  repeat' with_reducible first | refine keeps_bind ?_ fun _ => ?_ | simp

theorem keeps_shortenStreamEndTime {streamId newEndTime : ℕ} :
    Keeps (OnlyWrites settlementFields) (shortenStreamEndTime streamId newEndTime) := by
  unfold shortenStreamEndTime requireStreamSender
  repeat' with_reducible first | refine keeps_bind ?_ fun _ => ?_ | simp

theorem keeps_extendStreamEndTime {streamId newEndTime : ℕ} :
    Keeps (OnlyWrites recordFields) (extendStreamEndTime streamId newEndTime) := by
  unfold extendStreamEndTime requireStreamSender
  repeat' with_reducible first | refine keeps_bind ?_ fun _ => ?_ | simp

theorem keeps_topUpStream {streamId : ℕ} {funder : Address} {amount : ℤ} :
    Keeps (OnlyWrites (.balances :: recordFields)) (topUpStream streamId funder amount) := by
  unfold topUpStream
  repeat' with_reducible first | refine keeps_bind ?_ fun _ => ?_ | simp

theorem keeps_updateRate {streamId : ℕ} {newRatePerSecond : ℤ} {caller : Address} :
    Keeps (OnlyWrites recordFields) (updateRate streamId newRatePerSecond caller) := by
  unfold updateRate
  repeat' with_reducible first | refine keeps_bind ?_ fun _ => ?_ | simp

/-! ## Changes of the status -/

theorem keeps_pauseStream {streamId : ℕ} {reason : PauseReason} :
    Keeps (OnlyWrites recordFields) (pauseStream streamId reason) := by
  unfold pauseStream requireStreamSender
  repeat' with_reducible first | refine keeps_bind ?_ fun _ => ?_ | simp

theorem keeps_pauseStreamAsAdmin {streamId : ℕ} {reason : PauseReason} :
    Keeps (OnlyWrites recordFields) (pauseStreamAsAdmin streamId reason) := by
  unfold pauseStreamAsAdmin
  repeat' with_reducible first | refine keeps_bind ?_ fun _ => ?_ | simp [keeps_writes]

theorem keeps_resumeStream {streamId : ℕ} :
    Keeps (OnlyWrites recordFields) (resumeStream streamId) := by
  unfold resumeStream requireStreamSender
  repeat' with_reducible first | refine keeps_bind ?_ fun _ => ?_ | simp

theorem keeps_resumeStreamAsAdmin {streamId : ℕ} :
    Keeps (OnlyWrites recordFields) (resumeStreamAsAdmin streamId) := by
  unfold resumeStreamAsAdmin
  repeat' with_reducible first | refine keeps_bind ?_ fun _ => ?_ | simp

theorem keeps_cancelStream {streamId : ℕ} :
    Keeps (OnlyWrites settlementFields) (cancelStream streamId) := by
  unfold cancelStream requireStreamSender
  repeat' with_reducible first | refine keeps_bind ?_ fun _ => ?_ | simp

theorem keeps_cancelStreamAsAdmin {streamId : ℕ} :
    Keeps (OnlyWrites settlementFields) (cancelStreamAsAdmin streamId) := by
  unfold cancelStreamAsAdmin
  repeat' with_reducible first | refine keeps_bind ?_ fun _ => ?_ | simp

theorem keeps_keeperCancel {streamId : ℕ} {keeper : Address} :
    Keeps (OnlyWrites settlementFields) (keeperCancel streamId keeper) := by
  unfold keeperCancel
  repeat' with_reducible first | refine keeps_bind ?_ fun _ => ?_ | simp

theorem keeps_bulkCancelStreams {sender : Address} {streamIds : List ℕ} :
    Keeps (OnlyWrites settlementFields) (bulkCancelStreams sender streamIds) := by
  unfold bulkCancelStreams
  repeat' with_reducible
    first
    | exact keeps_settleAll
    | exact keeps_loadCancellable
    | refine keeps_bind ?_ fun _ => ?_
    | refine keeps_ite ?_ ?_
    | simp

theorem keeps_closeCompletedStream {streamId : ℕ} :
    Keeps (OnlyWrites (.recipientStreams :: recordFields)) (closeCompletedStream streamId) := by
  unfold closeCompletedStream
  repeat' with_reducible first | refine keeps_bind ?_ fun _ => ?_ | refine keeps_ite ?_ ?_ | simp

theorem keeps_closeCancelledStream {streamId : ℕ} :
    Keeps (OnlyWrites (.recipientStreams :: recordFields)) (closeCancelledStream streamId) := by
  unfold closeCancelledStream
  repeat' with_reducible first | refine keeps_bind ?_ fun _ => ?_ | simp

/-! ## Registries -/

theorem keeps_updateRecipient {streamId : ℕ} {newRecipient : Address} :
    Keeps (OnlyWrites [.rotations]) (updateRecipient streamId newRecipient) := by
  unfold updateRecipient
  repeat' with_reducible first | refine keeps_bind ?_ fun _ => ?_ | simp

theorem keeps_acceptRecipientUpdate {streamId : ℕ} :
    Keeps (OnlyWrites (.rotations :: .recipientStreams :: recordFields))
      (acceptRecipientUpdate streamId) := by
  unfold acceptRecipientUpdate
  repeat' with_reducible first | refine keeps_bind ?_ fun _ => ?_ | simp

theorem keeps_cancelRecipientUpdate {streamId : ℕ} :
    Keeps (OnlyWrites [.rotations]) (cancelRecipientUpdate streamId) := by
  unfold cancelRecipientUpdate
  repeat' with_reducible first | refine keeps_bind ?_ fun _ => ?_ | simp

theorem keeps_setAutoClaim {streamId : ℕ} {destination : Address} :
    Keeps (OnlyWrites [.autoClaimDestination]) (setAutoClaim streamId destination) := by
  unfold setAutoClaim
  repeat' with_reducible first | refine keeps_bind ?_ fun _ => ?_ | simp

theorem keeps_revokeAutoClaim {streamId : ℕ} :
    Keeps (OnlyWrites [.autoClaimDestination]) (revokeAutoClaim streamId) := by
  unfold revokeAutoClaim
  repeat' with_reducible first | refine keeps_bind ?_ fun _ => ?_ | simp

theorem keeps_registerStreamTemplate {owner : Address} {startDelay cliffDelay duration : ℕ} :
    Keeps (OnlyWrites [.templates])
      (registerStreamTemplate owner startDelay cliffDelay duration) := by
  unfold registerStreamTemplate saveStreamTemplate saveOwnerTemplateIds setActiveTemplateCount
    setNextTemplateId
  repeat' with_reducible first | refine keeps_bind ?_ fun _ => ?_ | simp [keeps_writes]

theorem keeps_deleteStreamTemplate {owner : Address} {templateId : ℕ} :
    Keeps (OnlyWrites [.templates]) (deleteStreamTemplate owner templateId) := by
  unfold deleteStreamTemplate saveStreamTemplate setActiveTemplateCount
  repeat' with_reducible first | refine keeps_bind ?_ fun _ => ?_ | simp [keeps_writes]

theorem keeps_reserveStreamIds {caller : Address} {count : ℕ} {expiry : Option ℕ} :
    Keeps (OnlyWrites [.ids]) (reserveStreamIds caller count expiry) := by
  unfold reserveStreamIds
  repeat' with_reducible
    first
    | refine keeps_bind_plainAddU64 fun _ fits => ?_
    | exact keeps_setStreamCount (by simp) fits
    | refine keeps_bind ?_ fun _ => ?_
    | refine keeps_ite ?_ ?_
    | simp

theorem keeps_releaseIdReservation {caller : Address} :
    Keeps (OnlyWrites [.ids]) (releaseIdReservation caller) := by
  unfold releaseIdReservation
  repeat' with_reducible first | refine keeps_bind ?_ fun _ => ?_ | simp

theorem keeps_reclaimExpiredIdReservation {holder : Address} :
    Keeps (OnlyWrites [.ids]) (reclaimExpiredIdReservation holder) := by
  unfold reclaimExpiredIdReservation
  repeat' with_reducible first | refine keeps_bind ?_ fun _ => ?_ | refine keeps_ite ?_ ?_ | simp

/-! ## Views -/

theorem keeps_getWithdrawable {streamId : ℕ} :
    Keeps (OnlyWrites fields) (getWithdrawable streamId) := by
  unfold getWithdrawable
  repeat' with_reducible first | refine keeps_bind ?_ fun _ => ?_ | refine keeps_ite ?_ ?_ | simp

theorem keeps_getStreamHealth {streamId : ℕ} :
    Keeps (OnlyWrites fields) (getStreamHealth streamId) := by
  unfold getStreamHealth
  repeat' with_reducible first | refine keeps_bind ?_ fun _ => ?_ | refine keeps_ite ?_ ?_ | simp

/-! ## Calls -/

/-- A call leaves alone what it does not list. -/
theorem Call.onlyWrites (call : Call) : Keeps (OnlyWrites call.writes) call.run := by
  cases call with
  | init _ _ => exact keeps_init
  | setAdmin _ => exact keeps_setAdmin
  | setMaxRatePerSecond _ => exact keeps_setMaxRatePerSecond
  | setGlobalEmergencyPaused _ => exact keeps_setGlobalEmergencyPaused
  | globalResume => exact keeps_globalResume
  | setContractPaused _ => exact keeps_setContractPaused
  | pauseProtocol _ _ => exact keeps_pauseProtocol
  | resumeProtocol _ => exact keeps_resumeProtocol
  | sweepExcess _ => exact keeps_effect keeps_sweepExcess
  | createStream _ _ => exact keeps_effect keeps_createStream
  | createStreamRelative _ _ => exact keeps_effect keeps_createStreamRelative
  | createStreams _ _ => exact keeps_effect keeps_createStreams
  | createStreamsRelative _ _ => exact keeps_effect keeps_createStreamsRelative
  | createStreamsPartial _ _ => exact keeps_effect keeps_createStreamsPartial
  | createStreamFromTemplate _ _ _ _ _ _ _ _ _ =>
      exact keeps_effect keeps_createStreamFromTemplate
  | cloneStream _ _ _ _ _ _ => exact keeps_effect keeps_cloneStream
  | withdraw _ => exact keeps_effect keeps_withdraw
  | withdrawTo _ _ => exact keeps_effect keeps_withdrawTo
  | batchWithdraw _ _ => exact keeps_effect keeps_batchWithdraw
  | batchWithdrawTo _ _ => exact keeps_effect keeps_batchWithdrawTo
  | delegatedWithdraw _ _ _ _ _ _ _ => exact keeps_effect keeps_delegatedWithdraw
  | triggerAutoClaim _ => exact keeps_effect keeps_triggerAutoClaim
  | setAutoClaim _ _ => exact keeps_setAutoClaim
  | revokeAutoClaim _ => exact keeps_revokeAutoClaim
  | updateRatePerSecond _ _ => exact keeps_updateRatePerSecond
  | decreaseRatePerSecond _ _ => exact keeps_decreaseRatePerSecond
  | shortenStreamEndTime _ _ => exact keeps_shortenStreamEndTime
  | extendStreamEndTime _ _ => exact keeps_extendStreamEndTime
  | topUpStream _ _ _ => exact keeps_topUpStream
  | updateRate _ _ _ => exact keeps_updateRate
  | pauseStream _ _ => exact keeps_pauseStream
  | pauseStreamAsAdmin _ _ => exact keeps_pauseStreamAsAdmin
  | resumeStream _ => exact keeps_resumeStream
  | resumeStreamAsAdmin _ => exact keeps_resumeStreamAsAdmin
  | cancelStream _ => exact keeps_cancelStream
  | cancelStreamAsAdmin _ => exact keeps_cancelStreamAsAdmin
  | keeperCancel _ _ => exact keeps_keeperCancel
  | bulkCancelStreams _ _ => exact keeps_bulkCancelStreams
  | closeCompletedStream _ => exact keeps_closeCompletedStream
  | closeCancelledStream _ => exact keeps_closeCancelledStream
  | updateRecipient _ _ => exact keeps_updateRecipient
  | acceptRecipientUpdate _ => exact keeps_acceptRecipientUpdate
  | cancelRecipientUpdate _ => exact keeps_cancelRecipientUpdate
  | registerStreamTemplate _ _ _ _ => exact keeps_effect keeps_registerStreamTemplate
  | deleteStreamTemplate _ _ => exact keeps_deleteStreamTemplate
  | reserveStreamIds _ _ _ => exact keeps_effect keeps_reserveStreamIds
  | releaseIdReservation _ => exact keeps_releaseIdReservation
  | reclaimExpiredIdReservation _ => exact keeps_reclaimExpiredIdReservation
  | calculateAccrued _ => exact keeps_effect keeps_calculateAccrued
  | getWithdrawable _ => exact keeps_effect keeps_getWithdrawable
  | getStreamHealth _ => exact keeps_effect keeps_getStreamHealth
  | getAutoClaimStatus _ => exact keeps_effect keeps_getAutoClaimStatus

end Wallie.StreamContract
