import Wallie.Lib.Keeps
import Wallie.StreamContract.Entrypoints
import Wallie.StreamContract.TokenRules

/-!
# Whom a call spares

A call takes tokens and allowances only from holders that authorised it, counts
the fees of keepers as it pays them, and leaves the parameters of the contract
alone unless it is one of the calls that set them. Each helper is followed up to
the payer that authorised the call, if it needs one.
-/

namespace Wallie.StreamContract

open Fallible

/-- What keepers were paid. -/
def State.keeperFees (s : State) : ℤ :=
  ((s.payouts.filter fun payout => payout.kind = .keeperFee).map Payout.amount).sum

/-- The relation between the states before and after. `sets` says whether the call sets parameters,
and `payer` whom it takes tokens from, once that holder has authorised the call. -/
structure Spares (sets : Prop) (payer : Option Address) (env : Env) (s s' : State) : Prop where
  config : sets ∨ s'.config = s.config
  maxRatePerSecond : sets ∨ s'.maxRatePerSecond = s.maxRatePerSecond
  keeperFees : s'.totalKeeperFeesPaid - s'.keeperFees = s.totalKeeperFeesPaid - s.keeperFees
  counter : s.totalKeeperFeesPaid ≤ s'.totalKeeperFeesPaid
  holders : (∀ source ∈ payer, env.auth source = true) → ∀ holder, env.auth holder = false →
    holder ≠ env.currentContractAddress →
    s.balances holder ≤ s'.balances holder ∧ s'.allowances holder = s.allowances holder

variable {sets : Prop} {payer : Option Address}

instance : StepRelation (Spares sets payer) where
  refl := fun _ _ => ⟨Or.inr rfl, Or.inr rfl, rfl, le_rfl, fun _ _ _ _ => ⟨le_rfl, rfl⟩⟩
  trans := fun _ _ _ _ first second =>
    { config := second.config.elim Or.inl fun same => first.config.imp_right same.trans
      maxRatePerSecond :=
        second.maxRatePerSecond.elim Or.inl fun same => first.maxRatePerSecond.imp_right same.trans
      keeperFees := second.keeperFees.trans first.keeperFees
      counter := first.counter.trans second.counter
      holders := fun paid holder unauthorised other =>
        have before := first.holders paid holder unauthorised other
        have after := second.holders paid holder unauthorised other
        ⟨before.1.trans after.1, after.2.trans before.2⟩ }

/-- A write to none of the fields the relation looks at. -/
@[simp]
theorem spares_update {change : State → State}
    (config : sets ∨ ∀ s, (change s).config = s.config)
    (maxRatePerSecond : sets ∨ ∀ s, (change s).maxRatePerSecond = s.maxRatePerSecond)
    (counted : ∀ s, (change s).totalKeeperFeesPaid = s.totalKeeperFeesPaid)
    (payouts : ∀ s, (change s).payouts = s.payouts)
    (balances : ∀ s, (change s).balances = s.balances)
    (allowances : ∀ s, (change s).allowances = s.allowances) :
    Keeps (Spares sets payer) (update change : Contract Unit) := by
  apply keeps_update
  intro env s
  refine ⟨config.imp_right fun same => same s, maxRatePerSecond.imp_right fun same => same s, ?_,
    (counted s).ge, fun _ holder _ _ => ⟨?_, ?_⟩⟩
  · unfold State.keeperFees
    rw [counted, payouts]
  · rw [balances]
  · rw [allowances]

/-- A payer that has authorised the call may be charged from there on. -/
theorem spares_requireAuth {source : Address} {α : Type} {next : Unit → Contract α}
    (rest : Keeps (Spares sets (some source)) (next ())) :
    Keeps (Spares sets none) (requireAuth source >>= next) := by
  intro env s result s' run
  rcases runs_bind.mp run with ⟨_, _, guard, after⟩
  rcases runs_requireAuth.mp guard with ⟨authorised, rfl⟩
  have spared := rest after
  refine ⟨spared.config, spared.maxRatePerSecond, spared.keeperFees, spared.counter, fun _ => ?_⟩
  refine spared.holders fun payer member => ?_
  rw [Option.mem_some_iff] at member
  rw [← member]
  exact authorised

/-! ## Reads and guards -/

section Leaves

@[simp]
theorem spares_checkedI128 {value : ℤ} {reason : ContractError} :
    Keeps (Spares sets payer) (checkedI128 value reason) :=
  keeps_getOrReject

@[simp]
theorem spares_plainI128 {value : ℤ} : Keeps (Spares sets payer) (plainI128 value) :=
  keeps_getOrReject

@[simp]
theorem spares_checkedAddU64 {left right : ℕ} {reason : ContractError} :
    Keeps (Spares sets payer) (checkedAddU64 left right reason) :=
  keeps_bind keeps_rejectIf fun _ => keeps_pure

@[simp]
theorem spares_plainAddU64 {left right : ℕ} :
    Keeps (Spares sets payer) (plainAddU64 left right) :=
  keeps_bind keeps_rejectIf fun _ => keeps_pure

@[simp]
theorem spares_plainSub {left right : ℕ} : Keeps (Spares sets payer) (plainSub left right) :=
  keeps_bind keeps_rejectIf fun _ => keeps_pure

@[simp]
theorem spares_auth {address : Address} : Keeps (Spares sets payer) (requireAuth address) :=
  keeps_bind keeps_ask fun _ => keeps_rejectIf

@[simp]
theorem spares_currentAccrualTimestamp :
    Keeps (Spares sets payer) currentAccrualTimestamp := by
  intro env s now s' run
  rcases runs_currentAccrualTimestamp.mp run with ⟨_, _, rfl⟩
  exact ⟨Or.inr rfl, Or.inr rfl, rfl, le_rfl, fun _ _ _ _ => ⟨le_rfl, rfl⟩⟩

@[simp]
theorem spares_getConfig : Keeps (Spares sets payer) getConfig :=
  keeps_bind keeps_peek fun _ => keeps_getOrReject

@[simp]
theorem spares_getToken : Keeps (Spares sets payer) getToken :=
  keeps_bind spares_getConfig fun _ => keeps_pure

@[simp]
theorem spares_getAdmin : Keeps (Spares sets payer) getAdmin :=
  keeps_bind spares_getConfig fun _ => keeps_pure

@[simp]
theorem spares_requireNotGloballyPaused : Keeps (Spares sets payer) requireNotGloballyPaused :=
  keeps_bind keeps_peek fun _ => keeps_rejectIf

@[simp]
theorem spares_requireNotCreationPaused : Keeps (Spares sets payer) requireNotCreationPaused :=
  keeps_bind spares_requireNotGloballyPaused fun _ =>
    keeps_bind keeps_peek fun _ => keeps_rejectIf

@[simp]
theorem spares_loadStream {streamId : ℕ} : Keeps (Spares sets payer) (loadStream streamId) :=
  keeps_bind keeps_peek fun _ => keeps_getOrReject

@[simp]
theorem spares_tokenBalance : Keeps (Spares sets payer) tokenBalance :=
  keeps_bind spares_getToken fun _ => keeps_bind keeps_ask fun _ => keeps_peek

@[simp]
theorem spares_calculateAccrued {streamId : ℕ} :
    Keeps (Spares sets payer) (calculateAccrued streamId) := by
  refine keeps_bind spares_loadStream fun stream => ?_
  refine keeps_ite keeps_pure (keeps_ite ?_ ?_)
  · exact keeps_bind keeps_getOrReject fun _ => keeps_pure
  · exact keeps_bind spares_currentAccrualTimestamp fun _ => keeps_pure

end Leaves

/-! ## Writes and transfers -/

section Helpers

@[simp]
theorem spares_publish {event : Event} : Keeps (Spares sets payer) (publish event) := by
  simp [publish]

@[simp]
theorem spares_publishCompletion {before after : Stream} :
    Keeps (Spares sets payer) (publishCompletion before after) := by
  simp [publishCompletion]

@[simp]
theorem spares_reconcilePausedStreamCount {previous next : StreamStatus} :
    Keeps (Spares sets payer) (reconcilePausedStreamCount previous next) := by
  simp [reconcilePausedStreamCount]

@[simp]
theorem spares_increaseLiabilities {amount : ℤ} :
    Keeps (Spares sets payer) (increaseLiabilities amount) := by
  simp [increaseLiabilities]

@[simp]
theorem spares_reduceLiabilities {amount : ℤ} :
    Keeps (Spares sets payer) (reduceLiabilities amount) := by
  simp [reduceLiabilities]

@[simp]
theorem spares_releaseLiabilities {amount : ℤ} :
    Keeps (Spares sets payer) (releaseLiabilities amount) := by
  simp [releaseLiabilities]

@[simp]
theorem spares_setStreamCount {count : ℕ} : Keeps (Spares sets payer) (setStreamCount count) := by
  simp [setStreamCount]

@[simp]
theorem spares_saveIdReservation {caller : Address} {res : IdReservation} :
    Keeps (Spares sets payer) (saveIdReservation caller res) := by
  simp [saveIdReservation]

@[simp]
theorem spares_removeIdReservation {caller : Address} :
    Keeps (Spares sets payer) (removeIdReservation caller) := by
  simp [removeIdReservation]

@[simp]
theorem spares_saveStream {stream : Stream} : Keeps (Spares sets payer) (saveStream stream) := by
  simp [saveStream]

@[simp]
theorem spares_saveRecipientStreams {recipient : Address} {ids : List ℕ} :
    Keeps (Spares sets payer) (saveRecipientStreams recipient ids) := by
  simp [saveRecipientStreams]

@[simp]
theorem spares_addStreamToRecipientIndex {recipient : Address} {streamId : ℕ} :
    Keeps (Spares sets payer) (addStreamToRecipientIndex recipient streamId) :=
  keeps_bind keeps_peek fun _ => spares_saveRecipientStreams

@[simp]
theorem spares_removeStreamFromRecipientIndex {recipient : Address} {streamId : ℕ} :
    Keeps (Spares sets payer) (removeStreamFromRecipientIndex recipient streamId) :=
  keeps_bind keeps_peek fun _ => spares_saveRecipientStreams

@[simp]
theorem spares_savePendingRecipientUpdate {streamId : ℕ}
    {pending : Option PendingRecipientUpdate} :
    Keeps (Spares sets payer) (savePendingRecipientUpdate streamId pending) := by
  simp [savePendingRecipientUpdate]

@[simp]
theorem spares_saveAutoClaimDestination {streamId : ℕ} {destination : Option Address} :
    Keeps (Spares sets payer) (saveAutoClaimDestination streamId destination) := by
  simp [saveAutoClaimDestination]

@[simp]
theorem spares_acquireReentrancyLock : Keeps (Spares sets payer) acquireReentrancyLock :=
  keeps_bind keeps_peek fun _ => keeps_bind keeps_rejectIf fun _ => by simp

@[simp]
theorem spares_releaseReentrancyLock : Keeps (Spares sets payer) releaseReentrancyLock := by
  simp [releaseReentrancyLock]

/-- A transfer costs nobody but its source. -/
theorem TransferAllowed.le_movedBalances {env : Env} {s : State} {source destination : Address}
    {amount : ℤ} (allowed : TransferAllowed env s source destination amount) {holder : Address}
    (other : holder ≠ source) :
    s.balances holder ≤ movedBalances s.balances source destination amount holder := by
  have nonneg := allowed.amount_nonneg
  rcases eq_or_ne holder destination with rfl | elsewhere
  · rw [movedBalances_destination other]
    omega
  · simp [movedBalances, other, elsewhere]

/-- What is taken from the payer. -/
@[simp]
theorem spares_pullToken {source : Address} {amount : ℤ} :
    Keeps (Spares sets (some source)) (pullToken source amount) := by
  intro env s done s' run
  rcases runs_pullToken.mp run with ⟨⟨_, _, allowed⟩, rfl⟩
  refine ⟨Or.inr rfl, Or.inr rfl, rfl, le_rfl, fun paid holder unauthorised _ => ?_⟩
  have other : holder ≠ source := by
    rintro rfl
    rw [paid holder rfl] at unauthorised
    cases unauthorised
  exact ⟨allowed.le_movedBalances other, Function.update_of_ne other _ _⟩

/-- The fees among what is paid in one transfer. -/
def feesOf (lines : List PayoutLine) : ℤ :=
  ((lines.filter fun line => line.kind = .keeperFee).map PayoutLine.amount).sum

@[simp]
theorem State.keeperFees_pushed {s : State} {env : Env} {destination : Address} {amount : ℤ}
    {lines : List PayoutLine} :
    (s.pushed env destination amount lines).keeperFees = s.keeperFees + feesOf lines := by
  simp only [State.keeperFees, State.pushed, payoutsOf, feesOf, List.filter_append,
    List.map_append, List.sum_append, List.filter_map, List.map_map]
  rfl

/-- What is paid to others than keepers. -/
@[simp]
theorem spares_pushToken {destination : Address} {amount : ℤ} {lines : List PayoutLine}
    (unpaid : feesOf lines = 0) :
    Keeps (Spares sets payer) (pushToken destination amount lines) := by
  intro env s done s' run
  rcases runs_pushToken.mp run with ⟨⟨_, allowed⟩, rfl⟩
  refine ⟨Or.inr rfl, Or.inr rfl, ?_, le_rfl, fun _ holder _ other =>
    ⟨allowed.le_movedBalances other, rfl⟩⟩
  rw [State.keeperFees_pushed, unpaid, add_zero]
  rfl

@[simp]
theorem feesOf_nil : feesOf [] = 0 := by
  simp [feesOf]

/-- Only fees are fees. -/
@[simp]
theorem feesOf_single {streamId : ℕ} {kind : PayoutKind} {amount : ℤ}
    (other : kind ≠ .keeperFee) : feesOf [⟨streamId, kind, amount⟩] = 0 := by
  simp [feesOf, other]

@[simp]
theorem spares_pushPositive {destination : Address} {amount : ℤ} {streamId : ℕ}
    {kind : PayoutKind} (other : kind ≠ .keeperFee) :
    Keeps (Spares sets payer) (pushPositive destination amount streamId kind) :=
  keeps_ite (spares_pushToken (feesOf_single other)) keeps_pure

/-- A fee is counted when it is paid. -/
@[simp]
theorem spares_payKeeperFee {keeper : Address} {keeperFee : ℤ} {streamId : ℕ} :
    Keeps (Spares sets payer) (payKeeperFee keeper keeperFee streamId) := by
  refine keeps_ite ?_ keeps_pure
  intro env s done s' run
  rcases runs_bind.mp run with ⟨_, middle, pushed, counted⟩
  rcases runs_pushToken.mp pushed with ⟨⟨_, allowed⟩, rfl⟩
  rcases runs_incrementTotalKeeperFeesPaid.mp counted with ⟨_, rfl⟩
  refine ⟨Or.inr rfl, Or.inr rfl, ?_, le_add_of_nonneg_right allowed.amount_nonneg,
    fun _ holder _ other => ⟨allowed.le_movedBalances other, rfl⟩⟩
  have fee : feesOf [⟨streamId, .keeperFee, keeperFee⟩] = keeperFee := by simp [feesOf]
  have fees : (s.pushed env keeper keeperFee [⟨streamId, .keeperFee, keeperFee⟩]).keeperFees =
      s.keeperFees + feesOf [⟨streamId, .keeperFee, keeperFee⟩] := State.keeperFees_pushed
  rw [fee] at fees
  change s.totalKeeperFeesPaid + keeperFee -
    (s.pushed env keeper keeperFee [⟨streamId, .keeperFee, keeperFee⟩]).keeperFees = _
  omega

@[simp]
theorem spares_nextStreamIdFor {caller : Address} :
    Keeps (Spares sets payer) (nextStreamIdFor caller) := by
  refine keeps_bind keeps_peek fun reservation => ?_
  cases reservation with
  | none =>
      refine keeps_bind keeps_peek fun _ => keeps_bind spares_plainAddU64 fun _ => ?_
      exact keeps_bind spares_setStreamCount fun _ => keeps_pure
  | some res =>
      refine keeps_bind spares_plainAddU64 fun _ => keeps_ite ?_ ?_
      · exact keeps_bind spares_removeIdReservation fun _ => keeps_pure
      · exact keeps_bind spares_saveIdReservation fun _ => keeps_pure

@[simp]
theorem spares_validateStreamParams {sender : Address} {now : ℕ} {params : CreateStreamParams} :
    Keeps (Spares sets payer) (validateStreamParams sender now params) := by
  unfold validateStreamParams
  repeat' with_reducible first | refine keeps_bind ?_ fun _ => ?_ | simp

@[simp]
theorem spares_absoluteParams {now : ℕ} {params : CreateStreamRelativeParams} :
    Keeps (Spares sets payer) (absoluteParams now params) := by
  unfold absoluteParams
  repeat' with_reducible first | refine keeps_bind ?_ fun _ => ?_ | simp

theorem spares_persistStream {addToIndex : Address → ℕ → Contract Unit} {sender : Address}
    {params : CreateStreamParams}
    (indexes : ∀ recipient id, Keeps (Spares sets payer) (addToIndex recipient id)) :
    Keeps (Spares sets payer) (persistStream addToIndex sender params) := by
  unfold persistStream
  repeat' with_reducible first | refine keeps_bind ?_ fun _ => ?_ | simp [indexes]

@[simp]
theorem spares_persistNewStream {sender : Address} {params : CreateStreamParams} :
    Keeps (Spares sets payer) (persistNewStream sender params) :=
  spares_persistStream fun _ _ => spares_addStreamToRecipientIndex

@[simp]
theorem spares_requireCancellableStatus {status : StreamStatus} :
    Keeps (Spares sets payer) (requireCancellableStatus status) :=
  keeps_rejectIf

@[simp]
theorem spares_requireWithdrawInterval {stream : Stream} {currentLedger : ℕ} :
    Keeps (Spares sets payer) (requireWithdrawInterval stream currentLedger) :=
  keeps_bind spares_plainSub fun _ => keeps_rejectIf

@[simp]
theorem spares_isValidDestination {destination : Address} :
    Keeps (Spares sets payer) (isValidDestination destination) :=
  keeps_ask

@[simp]
theorem spares_maybeEmitHealthChanged {stream : Stream} {wasUnderfunded : Bool} {now : ℕ} :
    Keeps (Spares sets payer) (maybeEmitHealthChanged stream wasUnderfunded now) :=
  keeps_ite keeps_pure spares_publish

@[simp]
theorem spares_payRecipientAccrual {stream : Stream} {now : ℕ} :
    Keeps (Spares sets payer) (payRecipientAccrual stream now) := by
  unfold payRecipientAccrual
  repeat' with_reducible first | refine keeps_bind ?_ fun _ => ?_ | refine keeps_ite ?_ ?_ | simp

@[simp]
theorem spares_batchWithdrawable {stream : Stream} {now : ℕ} {contractBalance : ℤ} :
    Keeps (Spares sets payer) (batchWithdrawable stream now contractBalance) := by
  unfold batchWithdrawable
  repeat' with_reducible first | refine keeps_bind ?_ fun _ => ?_ | refine keeps_ite ?_ ?_ | simp

@[simp]
theorem spares_pauseLoadedStream {stream : Stream} :
    Keeps (Spares sets payer) (pauseLoadedStream stream) := by
  unfold pauseLoadedStream
  repeat' with_reducible first | refine keeps_bind ?_ fun _ => ?_ | simp

@[simp]
theorem spares_resumeLoadedStream {stream : Stream} :
    Keeps (Spares sets payer) (resumeLoadedStream stream) := by
  unfold resumeLoadedStream
  repeat' with_reducible first | refine keeps_bind ?_ fun _ => ?_ | simp

@[simp]
theorem spares_cancelStreamInternal {stream : Stream} :
    Keeps (Spares sets payer) (cancelStreamInternal stream) := by
  unfold cancelStreamInternal
  repeat' with_reducible first | refine keeps_bind ?_ fun _ => ?_ | simp

@[simp]
theorem spares_requireNothingClaimable {stream : Stream} :
    Keeps (Spares sets payer) (requireNothingClaimable stream) :=
  keeps_bind keeps_getOrReject fun _ => keeps_rejectIf

@[simp]
theorem spares_removeClosedStream {stream : Stream} {streamId : ℕ} :
    Keeps (Spares sets payer) (removeClosedStream stream streamId) := by
  unfold removeClosedStream removeStream
  repeat' with_reducible first | refine keeps_bind ?_ fun _ => ?_ | simp

@[simp]
theorem spares_incrementDelegatedNonce {recipient : Address} :
    Keeps (Spares sets payer) (incrementDelegatedNonce recipient) :=
  keeps_bind keeps_peek fun _ => keeps_bind spares_plainAddU64 fun _ => by simp

@[simp]
theorem spares_appendRotationEntry {streamId : ℕ} {entry : RotationEntry} :
    Keeps (Spares sets payer) (appendRotationEntry streamId entry) :=
  keeps_bind keeps_peek fun _ => by simp

@[simp]
theorem spares_validateTemplateDelays {startDelay cliffDelay duration : ℕ} :
    Keeps (Spares sets payer) (validateTemplateDelays startDelay cliffDelay duration) := by
  unfold validateTemplateDelays
  repeat' with_reducible first | refine keeps_bind ?_ fun _ => ?_ | simp

@[simp]
theorem spares_removeTemplateIdForOwner {owner : Address} {templateId : ℕ} :
    Keeps (Spares sets payer) (removeTemplateIdForOwner owner templateId) := by
  refine keeps_bind keeps_peek fun ids => ?_
  cases binarySearch ids templateId with
  | ok position => simp [saveOwnerTemplateIds]
  | error _ => exact keeps_reject

@[simp]
theorem spares_releaseReservation {holder : Address} {res : IdReservation} :
    Keeps (Spares sets payer) (releaseReservation holder res) := by
  unfold releaseReservation
  repeat' with_reducible first | refine keeps_bind ?_ fun _ => ?_ | refine keeps_ite ?_ ?_ | simp

theorem spares_effect {α : Type} {computation : Contract α}
    (keeps : Keeps (Spares sets payer) computation) :
    Keeps (Spares sets payer) (effect computation) :=
  keeps_bind keeps fun _ => keeps_pure

@[simp]
theorem spares_getAutoClaimStatus {streamId : ℕ} :
    Keeps (Spares sets payer) (getAutoClaimStatus streamId) := by
  refine keeps_bind spares_loadStream fun stream => keeps_bind keeps_peek fun destination => ?_
  cases destination with
  | none => exact keeps_pure
  | some destination =>
      refine keeps_bind spares_isValidDestination fun _ => keeps_ite keeps_pure ?_
      exact keeps_bind spares_currentAccrualTimestamp fun _ => keeps_pure

end Helpers

/-! ## Loops -/

section Loops

theorem spares_validateAll {sender : Address} {now : ℕ} {streams : List CreateStreamParams}
    {total : ℤ} : Keeps (Spares sets payer) (validateAll sender now streams total) := by
  induction streams generalizing total with
  | nil => exact keeps_pure
  | cons params rest ih =>
      exact keeps_bind spares_validateStreamParams fun _ =>
        keeps_bind spares_checkedI128 fun _ => ih

theorem spares_persistAll {sender : Address} {streams : List CreateStreamParams} {ids : List ℕ}
    {cache : RecipientCache} :
    Keeps (Spares sets payer) (persistAll sender streams ids cache) := by
  induction streams generalizing ids cache with
  | nil => exact keeps_pure
  | cons params rest ih =>
      exact keeps_bind (spares_persistStream fun _ _ => keeps_pure) fun _ => ih

theorem spares_flushCache {cache : RecipientCache} :
    Keeps (Spares sets payer) (flushCache cache) := by
  induction cache with
  | nil => exact keeps_pure
  | cons entry rest ih =>
      exact keeps_bind keeps_peek fun _ => keeps_bind spares_saveRecipientStreams fun _ => ih

theorem spares_absoluteAll {now : ℕ} {streams : List CreateStreamRelativeParams} :
    Keeps (Spares sets payer) (absoluteAll now streams) := by
  induction streams with
  | nil => exact keeps_pure
  | cons params rest ih =>
      exact keeps_bind spares_absoluteParams fun _ => keeps_bind ih fun _ => keeps_pure

theorem spares_createOnePartial {sender : Address} {now : ℕ} {params : CreateStreamParams} :
    Keeps (Spares sets (some sender)) (createOnePartial sender now params) := by
  refine keeps_bind (keeps_attempt spares_validateStreamParams) fun validation => ?_
  cases validation with
  | error _ => exact keeps_pure
  | ok _ =>
      refine keeps_bind (keeps_attempt spares_pullToken) fun transfer => ?_
      cases transfer with
      | error _ => exact keeps_pure
      | ok _ =>
          refine keeps_bind (keeps_attempt spares_persistNewStream) fun persisted => ?_
          cases persisted <;> exact keeps_pure

theorem spares_createAllPartial {sender : Address} {now : ℕ} {streams : List CreateStreamParams} :
    Keeps (Spares sets (some sender)) (createAllPartial sender now streams) := by
  induction streams with
  | nil => exact keeps_pure
  | cons params rest ih =>
      exact keeps_bind spares_createOnePartial fun _ => keeps_bind ih fun _ => keeps_pure

theorem spares_batchWithdrawLoop {recipient : Address} {now : ℕ} {ids : List ℕ}
    {contractBalance : ℤ} :
    Keeps (Spares sets payer) (batchWithdrawLoop recipient now ids contractBalance) := by
  induction ids generalizing contractBalance with
  | nil => exact keeps_pure
  | cons id rest ih =>
      unfold batchWithdrawLoop
      repeat' with_reducible
        first
        | exact ih
        | refine keeps_bind ?_ fun _ => ?_
        | refine keeps_ite ?_ ?_
        | simp

theorem spares_checkDestinations {address : Address} {withdrawals : List WithdrawToParam} :
    Keeps (Spares sets payer) (checkDestinations address withdrawals) := by
  induction withdrawals with
  | nil => exact keeps_pure
  | cons param rest ih =>
      exact keeps_bind keeps_rejectIf fun _ => keeps_bind keeps_rejectIf fun _ => ih

theorem spares_batchWithdrawToLoop {recipient : Address} {now : ℕ}
    {withdrawals : List WithdrawToParam} {contractBalance : ℤ} :
    Keeps (Spares sets payer) (batchWithdrawToLoop recipient now withdrawals contractBalance) := by
  induction withdrawals generalizing contractBalance with
  | nil => exact keeps_pure
  | cons param rest ih =>
      unfold batchWithdrawToLoop
      repeat' with_reducible
        first
        | exact ih
        | refine keeps_bind ?_ fun _ => ?_
        | refine keeps_ite ?_ ?_
        | simp

theorem spares_loadCancellable {sender : Address} {ids : List ℕ} :
    Keeps (Spares sets payer) (loadCancellable sender ids) := by
  induction ids with
  | nil => exact keeps_pure
  | cons id rest ih =>
      exact keeps_bind keeps_rejectIf fun _ => keeps_bind spares_loadStream fun _ =>
        keeps_bind keeps_rejectIf fun _ => keeps_bind keeps_rejectIf fun _ =>
          keeps_bind ih fun _ => keeps_pure

theorem spares_bulkCancelLoop {now : ℕ} {streams : List Stream} {aggregateRefund : ℤ}
    {lines : List PayoutLine} :
    Keeps (Spares sets payer) (bulkCancelLoop now streams aggregateRefund lines) := by
  induction streams generalizing aggregateRefund lines with
  | nil => exact keeps_pure
  | cons stream rest ih =>
      unfold bulkCancelLoop
      repeat' with_reducible
        first
        | exact ih
        | refine keeps_bind ?_ fun _ => ?_
        | refine keeps_ite ?_ ?_
        | simp

/-- The payments of a bulk cancellation to the sender are refunds. -/
theorem feesOf_bulkCancelLoop {env : Env} {s s' : State} {now : ℕ} {streams : List Stream}
    {aggregateRefund : ℤ} {lines : List PayoutLine} {settled : ℤ × List PayoutLine}
    (unpaid : feesOf lines = 0)
    (run : Runs (bulkCancelLoop now streams aggregateRefund lines) env s settled s') :
    feesOf settled.2 = 0 := by
  induction streams generalizing aggregateRefund lines s with
  | nil =>
      rcases runs_pure.mp run with ⟨rfl, _⟩
      exact unpaid
  | cons stream rest ih =>
      simp only [bulkCancelLoop, runs_bind, runs_ite] at run
      obtain ⟨_, _, _, _, _, _, _, _, _, _, _, _, run⟩ := run
      rcases run with ⟨_, _, _, _, _, _, _, _, _, _, _, _, _, run⟩ | ⟨_, _, _, _, _, _, _, run⟩
      · refine ih ?_ run
        simpa [feesOf] using unpaid
      · exact ih unpaid run

end Loops

/-! ## Calls -/

section Calls

theorem spares_setAdmin {newAdmin : Address} : Keeps (Spares True payer) (setAdmin newAdmin) := by
  unfold setAdmin
  repeat' with_reducible first | refine keeps_bind ?_ fun _ => ?_ | refine keeps_ite ?_ ?_ | simp

theorem spares_setMaxRatePerSecond {maxRate : ℤ} :
    Keeps (Spares True payer) (setMaxRatePerSecond maxRate) := by
  unfold setMaxRatePerSecond
  repeat' with_reducible first | refine keeps_bind ?_ fun _ => ?_ | refine keeps_ite ?_ ?_ | simp

theorem spares_setGlobalEmergencyPaused {paused : Bool} :
    Keeps (Spares sets payer) (setGlobalEmergencyPaused paused) := by
  unfold setGlobalEmergencyPaused
  repeat' with_reducible first | refine keeps_bind ?_ fun _ => ?_ | refine keeps_ite ?_ ?_ | simp

theorem spares_globalResume : Keeps (Spares sets payer) globalResume := by
  unfold globalResume
  repeat' with_reducible first | refine keeps_bind ?_ fun _ => ?_ | refine keeps_ite ?_ ?_ | simp

theorem spares_setContractPaused {paused : Bool} :
    Keeps (Spares sets payer) (setContractPaused paused) := by
  unfold setContractPaused
  repeat' with_reducible first | refine keeps_bind ?_ fun _ => ?_ | refine keeps_ite ?_ ?_ | simp

theorem spares_pauseProtocol {admin : Address} {reason : Option String} :
    Keeps (Spares sets payer) (pauseProtocol admin reason) := by
  unfold pauseProtocol isProtocolPaused
  repeat' with_reducible first | refine keeps_bind ?_ fun _ => ?_ | refine keeps_ite ?_ ?_ | simp

theorem spares_resumeProtocol {admin : Address} :
    Keeps (Spares sets payer) (resumeProtocol admin) := by
  unfold resumeProtocol isProtocolPaused
  repeat' with_reducible first | refine keeps_bind ?_ fun _ => ?_ | refine keeps_ite ?_ ?_ | simp

theorem spares_sweepExcess {recipient : Address} :
    Keeps (Spares sets payer) (sweepExcess recipient) := by
  unfold sweepExcess
  repeat' with_reducible first | refine keeps_bind ?_ fun _ => ?_ | refine keeps_ite ?_ ?_ | simp

theorem spares_withdraw {streamId : ℕ} : Keeps (Spares sets payer) (withdraw streamId) := by
  unfold withdraw
  repeat' with_reducible first | refine keeps_bind ?_ fun _ => ?_ | refine keeps_ite ?_ ?_ | simp

theorem spares_withdrawTo {streamId : ℕ} {destination : Address} :
    Keeps (Spares sets payer) (withdrawTo streamId destination) := by
  unfold withdrawTo
  repeat' with_reducible first | refine keeps_bind ?_ fun _ => ?_ | refine keeps_ite ?_ ?_ | simp

theorem spares_delegatedWithdraw {streamId : ℕ} {relayer : Address}
    {recipientPublicKey nonce deadline : ℕ} {expectedMinimumAmount : ℤ} {signature : Bytes} :
    Keeps (Spares sets payer) (delegatedWithdraw streamId relayer recipientPublicKey nonce deadline
      expectedMinimumAmount signature) := by
  unfold delegatedWithdraw
  repeat' with_reducible first | refine keeps_bind ?_ fun _ => ?_ | refine keeps_ite ?_ ?_ | simp

theorem spares_triggerAutoClaim {streamId : ℕ} :
    Keeps (Spares sets payer) (triggerAutoClaim streamId) := by
  unfold triggerAutoClaim
  repeat' with_reducible first | refine keeps_bind ?_ fun _ => ?_ | refine keeps_ite ?_ ?_ | simp

theorem spares_setAutoClaim {streamId : ℕ} {destination : Address} :
    Keeps (Spares sets payer) (setAutoClaim streamId destination) := by
  unfold setAutoClaim
  repeat' with_reducible first | refine keeps_bind ?_ fun _ => ?_ | refine keeps_ite ?_ ?_ | simp

theorem spares_revokeAutoClaim {streamId : ℕ} :
    Keeps (Spares sets payer) (revokeAutoClaim streamId) := by
  unfold revokeAutoClaim
  repeat' with_reducible first | refine keeps_bind ?_ fun _ => ?_ | refine keeps_ite ?_ ?_ | simp

theorem spares_updateRatePerSecond {streamId : ℕ} {newRatePerSecond : ℤ} :
    Keeps (Spares sets payer) (updateRatePerSecond streamId newRatePerSecond) := by
  unfold updateRatePerSecond requireStreamSender
  repeat' with_reducible first | refine keeps_bind ?_ fun _ => ?_ | refine keeps_ite ?_ ?_ | simp

theorem spares_decreaseRatePerSecond {streamId : ℕ} {newRatePerSecond : ℤ} :
    Keeps (Spares sets payer) (decreaseRatePerSecond streamId newRatePerSecond) := by
  unfold decreaseRatePerSecond requireStreamSender
  repeat' with_reducible first | refine keeps_bind ?_ fun _ => ?_ | refine keeps_ite ?_ ?_ | simp

theorem spares_shortenStreamEndTime {streamId newEndTime : ℕ} :
    Keeps (Spares sets payer) (shortenStreamEndTime streamId newEndTime) := by
  unfold shortenStreamEndTime requireStreamSender
  repeat' with_reducible first | refine keeps_bind ?_ fun _ => ?_ | refine keeps_ite ?_ ?_ | simp

theorem spares_extendStreamEndTime {streamId newEndTime : ℕ} :
    Keeps (Spares sets payer) (extendStreamEndTime streamId newEndTime) := by
  unfold extendStreamEndTime requireStreamSender
  repeat' with_reducible first | refine keeps_bind ?_ fun _ => ?_ | refine keeps_ite ?_ ?_ | simp

theorem spares_updateRate {streamId : ℕ} {newRatePerSecond : ℤ} {caller : Address} :
    Keeps (Spares sets payer) (updateRate streamId newRatePerSecond caller) := by
  unfold updateRate
  repeat' with_reducible first | refine keeps_bind ?_ fun _ => ?_ | refine keeps_ite ?_ ?_ | simp

theorem spares_pauseStream {streamId : ℕ} {reason : PauseReason} :
    Keeps (Spares sets payer) (pauseStream streamId reason) := by
  unfold pauseStream requireStreamSender
  repeat' with_reducible first | refine keeps_bind ?_ fun _ => ?_ | refine keeps_ite ?_ ?_ | simp

theorem spares_pauseStreamAsAdmin {streamId : ℕ} {reason : PauseReason} :
    Keeps (Spares sets payer) (pauseStreamAsAdmin streamId reason) := by
  unfold pauseStreamAsAdmin
  repeat' with_reducible first | refine keeps_bind ?_ fun _ => ?_ | refine keeps_ite ?_ ?_ | simp

theorem spares_resumeStream {streamId : ℕ} : Keeps (Spares sets payer) (resumeStream streamId) := by
  unfold resumeStream requireStreamSender
  repeat' with_reducible first | refine keeps_bind ?_ fun _ => ?_ | refine keeps_ite ?_ ?_ | simp

theorem spares_resumeStreamAsAdmin {streamId : ℕ} :
    Keeps (Spares sets payer) (resumeStreamAsAdmin streamId) := by
  unfold resumeStreamAsAdmin
  repeat' with_reducible first | refine keeps_bind ?_ fun _ => ?_ | refine keeps_ite ?_ ?_ | simp

theorem spares_cancelStream {streamId : ℕ} : Keeps (Spares sets payer) (cancelStream streamId) := by
  unfold cancelStream requireStreamSender
  repeat' with_reducible first | refine keeps_bind ?_ fun _ => ?_ | refine keeps_ite ?_ ?_ | simp

theorem spares_cancelStreamAsAdmin {streamId : ℕ} :
    Keeps (Spares sets payer) (cancelStreamAsAdmin streamId) := by
  unfold cancelStreamAsAdmin
  repeat' with_reducible first | refine keeps_bind ?_ fun _ => ?_ | refine keeps_ite ?_ ?_ | simp

theorem spares_keeperCancel {streamId : ℕ} {keeper : Address} :
    Keeps (Spares sets payer) (keeperCancel streamId keeper) := by
  unfold keeperCancel
  repeat' with_reducible first | refine keeps_bind ?_ fun _ => ?_ | refine keeps_ite ?_ ?_ | simp

theorem spares_closeCompletedStream {streamId : ℕ} :
    Keeps (Spares sets payer) (closeCompletedStream streamId) := by
  unfold closeCompletedStream
  repeat' with_reducible first | refine keeps_bind ?_ fun _ => ?_ | refine keeps_ite ?_ ?_ | simp

theorem spares_closeCancelledStream {streamId : ℕ} :
    Keeps (Spares sets payer) (closeCancelledStream streamId) := by
  unfold closeCancelledStream
  repeat' with_reducible first | refine keeps_bind ?_ fun _ => ?_ | refine keeps_ite ?_ ?_ | simp

theorem spares_updateRecipient {streamId : ℕ} {newRecipient : Address} :
    Keeps (Spares sets payer) (updateRecipient streamId newRecipient) := by
  unfold updateRecipient
  repeat' with_reducible first | refine keeps_bind ?_ fun _ => ?_ | refine keeps_ite ?_ ?_ | simp

theorem spares_acceptRecipientUpdate {streamId : ℕ} :
    Keeps (Spares sets payer) (acceptRecipientUpdate streamId) := by
  unfold acceptRecipientUpdate
  repeat' with_reducible first | refine keeps_bind ?_ fun _ => ?_ | refine keeps_ite ?_ ?_ | simp

theorem spares_cancelRecipientUpdate {streamId : ℕ} :
    Keeps (Spares sets payer) (cancelRecipientUpdate streamId) := by
  unfold cancelRecipientUpdate
  repeat' with_reducible first | refine keeps_bind ?_ fun _ => ?_ | refine keeps_ite ?_ ?_ | simp

theorem spares_registerStreamTemplate {owner : Address} {startDelay cliffDelay duration : ℕ} :
    Keeps (Spares sets payer) (registerStreamTemplate owner startDelay cliffDelay duration) := by
  unfold registerStreamTemplate saveStreamTemplate saveOwnerTemplateIds
    setActiveTemplateCount setNextTemplateId
  repeat' with_reducible first | refine keeps_bind ?_ fun _ => ?_ | refine keeps_ite ?_ ?_ | simp

theorem spares_deleteStreamTemplate {owner : Address} {templateId : ℕ} :
    Keeps (Spares sets payer) (deleteStreamTemplate owner templateId) := by
  unfold deleteStreamTemplate saveStreamTemplate setActiveTemplateCount
  repeat' with_reducible first | refine keeps_bind ?_ fun _ => ?_ | refine keeps_ite ?_ ?_ | simp

theorem spares_reserveStreamIds {caller : Address} {count : ℕ} {expiry : Option ℕ} :
    Keeps (Spares sets payer) (reserveStreamIds caller count expiry) := by
  unfold reserveStreamIds
  repeat' with_reducible first | refine keeps_bind ?_ fun _ => ?_ | refine keeps_ite ?_ ?_ | simp

theorem spares_releaseIdReservation {caller : Address} :
    Keeps (Spares sets payer) (releaseIdReservation caller) := by
  unfold releaseIdReservation
  repeat' with_reducible first | refine keeps_bind ?_ fun _ => ?_ | refine keeps_ite ?_ ?_ | simp

theorem spares_reclaimExpiredIdReservation {holder : Address} :
    Keeps (Spares sets payer) (reclaimExpiredIdReservation holder) := by
  unfold reclaimExpiredIdReservation
  repeat' with_reducible first | refine keeps_bind ?_ fun _ => ?_ | refine keeps_ite ?_ ?_ | simp

theorem spares_getWithdrawable {streamId : ℕ} :
    Keeps (Spares sets payer) (getWithdrawable streamId) := by
  unfold getWithdrawable
  repeat' with_reducible first | refine keeps_bind ?_ fun _ => ?_ | refine keeps_ite ?_ ?_ | simp

theorem spares_getStreamHealth {streamId : ℕ} :
    Keeps (Spares sets payer) (getStreamHealth streamId) := by
  unfold getStreamHealth
  repeat' with_reducible first | refine keeps_bind ?_ fun _ => ?_ | refine keeps_ite ?_ ?_ | simp

theorem spares_batchWithdraw {recipient : Address} {streamIds : List ℕ} :
    Keeps (Spares sets payer) (batchWithdraw recipient streamIds) := by
  unfold batchWithdraw
  repeat' with_reducible
    first
    | exact spares_batchWithdrawLoop
    | refine keeps_bind ?_ fun _ => ?_
    | simp

theorem spares_batchWithdrawTo {recipient : Address} {withdrawals : List WithdrawToParam} :
    Keeps (Spares sets payer) (batchWithdrawTo recipient withdrawals) := by
  unfold batchWithdrawTo
  repeat' with_reducible
    first
    | exact spares_batchWithdrawToLoop
    | exact spares_checkDestinations
    | refine keeps_bind ?_ fun _ => ?_
    | simp

theorem spares_bulkCancelStreams {sender : Address} {streamIds : List ℕ} :
    Keeps (Spares sets payer) (bulkCancelStreams sender streamIds) := by
  unfold bulkCancelStreams
  refine keeps_bind spares_requireNotGloballyPaused fun _ => keeps_bind spares_auth fun _ => ?_
  refine keeps_ite keeps_pure (keeps_bind spares_loadCancellable fun streams => ?_)
  refine keeps_bind keeps_ask fun now => ?_
  refine keeps_bind_of spares_bulkCancelLoop
    (fun env s settled s' run => feesOf_bulkCancelLoop feesOf_nil run) fun settled unpaid => ?_
  exact keeps_ite (spares_pushToken unpaid) keeps_pure

/-! ### Calls that charge a payer -/

theorem spares_createStream {sender : Address} {params : CreateStreamParams} :
    Keeps (Spares sets none) (createStream sender params) := by
  unfold createStream
  refine spares_requireAuth ?_
  repeat' with_reducible first | refine keeps_bind ?_ fun _ => ?_ | simp

theorem spares_createStreamRelative {sender : Address} {params : CreateStreamRelativeParams} :
    Keeps (Spares sets none) (createStreamRelative sender params) :=
  keeps_bind keeps_ask fun _ => keeps_bind spares_absoluteParams fun _ => spares_createStream

theorem spares_createStreams {sender : Address} {streams : List CreateStreamParams} :
    Keeps (Spares sets none) (createStreams sender streams) := by
  unfold createStreams
  refine spares_requireAuth ?_
  repeat' with_reducible
    first
    | exact spares_validateAll
    | exact spares_persistAll
    | exact spares_flushCache
    | refine keeps_bind ?_ fun _ => ?_
    | refine keeps_ite ?_ ?_
    | simp

theorem spares_createStreamsRelative {sender : Address}
    {streams : List CreateStreamRelativeParams} :
    Keeps (Spares sets none) (createStreamsRelative sender streams) :=
  keeps_ite keeps_pure (keeps_bind keeps_ask fun _ =>
    keeps_bind spares_absoluteAll fun _ => spares_createStreams)

theorem spares_createStreamsPartial {sender : Address} {streams : List CreateStreamParams} :
    Keeps (Spares sets none) (createStreamsPartial sender streams) := by
  unfold createStreamsPartial
  refine spares_requireAuth ?_
  refine keeps_ite keeps_pure (keeps_bind spares_requireNotCreationPaused fun _ => ?_)
  exact keeps_bind keeps_ask fun _ => spares_createAllPartial

theorem spares_createStreamFromTemplate {sender : Address} {templateId : ℕ} {recipient : Address}
    {depositAmount ratePerSecond withdrawDustThreshold : ℤ} {memo : Option Bytes}
    {metadata : Option Metadata} {kind : StreamKind} :
    Keeps (Spares sets none) (createStreamFromTemplate sender templateId recipient depositAmount
      ratePerSecond withdrawDustThreshold memo metadata kind) :=
  keeps_bind (keeps_bind keeps_peek fun _ => keeps_getOrReject) fun _ =>
    spares_createStreamRelative

theorem spares_cloneStream {streamId : ℕ} {newRecipient : Address} {startTime endTime : ℕ}
    {deposit : ℤ} {force : Bool} :
    Keeps (Spares sets none)
      (cloneStream streamId newRecipient startTime endTime deposit force) := by
  unfold cloneStream
  refine keeps_bind spares_requireNotCreationPaused fun _ => ?_
  refine keeps_bind spares_loadStream fun source => keeps_bind keeps_rejectIf fun _ => ?_
  refine spares_requireAuth ?_
  repeat' with_reducible first | refine keeps_bind ?_ fun _ => ?_ | simp

theorem spares_topUpStream {streamId : ℕ} {funder : Address} {amount : ℤ} :
    Keeps (Spares sets none) (topUpStream streamId funder amount) := by
  unfold topUpStream
  repeat' with_reducible
    first
    | refine spares_requireAuth ?_
    | refine keeps_bind ?_ fun _ => ?_
    | simp

/-- The calls that set the parameters of the contract. -/
def Call.Sets : Call → Prop
  | setAdmin _ | setMaxRatePerSecond _ => True
  | _ => False

/-- Every call but the initialisation spares the holders that did not authorise it. -/
theorem Call.spares (call : Call) (initialised : ∀ token admin, call ≠ .init token admin) :
    Keeps (Spares call.Sets none) call.run := by
  cases call with
  | init token admin => exact absurd rfl (initialised token admin)
  | setAdmin _ => exact spares_setAdmin
  | setMaxRatePerSecond _ => exact spares_setMaxRatePerSecond
  | setGlobalEmergencyPaused _ => exact spares_setGlobalEmergencyPaused
  | globalResume => exact spares_globalResume
  | setContractPaused _ => exact spares_setContractPaused
  | pauseProtocol _ _ => exact spares_pauseProtocol
  | resumeProtocol _ => exact spares_resumeProtocol
  | sweepExcess _ => exact spares_effect spares_sweepExcess
  | createStream _ _ => exact spares_effect spares_createStream
  | createStreamRelative _ _ => exact spares_effect spares_createStreamRelative
  | createStreams _ _ => exact spares_effect spares_createStreams
  | createStreamsRelative _ _ => exact spares_effect spares_createStreamsRelative
  | createStreamsPartial _ _ => exact spares_effect spares_createStreamsPartial
  | createStreamFromTemplate _ _ _ _ _ _ _ _ _ =>
      exact spares_effect spares_createStreamFromTemplate
  | cloneStream _ _ _ _ _ _ => exact spares_effect spares_cloneStream
  | withdraw _ => exact spares_effect spares_withdraw
  | withdrawTo _ _ => exact spares_effect spares_withdrawTo
  | batchWithdraw _ _ => exact spares_effect spares_batchWithdraw
  | batchWithdrawTo _ _ => exact spares_effect spares_batchWithdrawTo
  | delegatedWithdraw _ _ _ _ _ _ _ => exact spares_effect spares_delegatedWithdraw
  | triggerAutoClaim _ => exact spares_effect spares_triggerAutoClaim
  | setAutoClaim _ _ => exact spares_setAutoClaim
  | revokeAutoClaim _ => exact spares_revokeAutoClaim
  | updateRatePerSecond _ _ => exact spares_updateRatePerSecond
  | decreaseRatePerSecond _ _ => exact spares_decreaseRatePerSecond
  | shortenStreamEndTime _ _ => exact spares_shortenStreamEndTime
  | extendStreamEndTime _ _ => exact spares_extendStreamEndTime
  | topUpStream _ _ _ => exact spares_topUpStream
  | updateRate _ _ _ => exact spares_updateRate
  | pauseStream _ _ => exact spares_pauseStream
  | pauseStreamAsAdmin _ _ => exact spares_pauseStreamAsAdmin
  | resumeStream _ => exact spares_resumeStream
  | resumeStreamAsAdmin _ => exact spares_resumeStreamAsAdmin
  | cancelStream _ => exact spares_cancelStream
  | cancelStreamAsAdmin _ => exact spares_cancelStreamAsAdmin
  | keeperCancel _ _ => exact spares_keeperCancel
  | bulkCancelStreams _ _ => exact spares_bulkCancelStreams
  | closeCompletedStream _ => exact spares_closeCompletedStream
  | closeCancelledStream _ => exact spares_closeCancelledStream
  | updateRecipient _ _ => exact spares_updateRecipient
  | acceptRecipientUpdate _ => exact spares_acceptRecipientUpdate
  | cancelRecipientUpdate _ => exact spares_cancelRecipientUpdate
  | registerStreamTemplate _ _ _ _ => exact spares_effect spares_registerStreamTemplate
  | deleteStreamTemplate _ _ => exact spares_deleteStreamTemplate
  | reserveStreamIds _ _ _ => exact spares_effect spares_reserveStreamIds
  | releaseIdReservation _ => exact spares_releaseIdReservation
  | reclaimExpiredIdReservation _ => exact spares_reclaimExpiredIdReservation
  | calculateAccrued _ => exact spares_effect spares_calculateAccrued
  | getWithdrawable _ => exact spares_effect spares_getWithdrawable
  | getStreamHealth _ => exact spares_effect spares_getStreamHealth
  | getAutoClaimStatus _ => exact spares_effect spares_getAutoClaimStatus

end Calls

end Wallie.StreamContract
