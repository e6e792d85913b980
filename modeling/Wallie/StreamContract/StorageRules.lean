import Wallie.StreamContract.Storage

/-!
# Rules of the storage and host helpers

One rewriting rule for each helper of `Storage`: when it runs, what it returns
and which state it leaves. Proofs about entrypoints use these rules and do not
unfold the helpers.
-/

namespace Wallie.StreamContract

open Fallible

variable {env : Env} {s s' : State} {done : Unit}

/-! ## Arithmetic -/

@[simp]
theorem runs_checkedI128 {value result : ℤ} {reason : ContractError} :
    Runs (checkedI128 value reason) env s result s' ↔
      (i128.Contains value ∧ result = value) ∧ s' = s := by
  simp [checkedI128]

@[simp]
theorem runs_plainI128 {value result : ℤ} :
    Runs (plainI128 value) env s result s' ↔
      (i128.Contains value ∧ result = value) ∧ s' = s := by
  simp [plainI128]

@[simp]
theorem runs_checkedAddU64 {left right result : ℕ} {reason : ContractError} :
    Runs (checkedAddU64 left right reason) env s result s' ↔
      ((left + right : ℕ) : ℤ) ≤ u64.upper ∧ result = left + right ∧ s' = s := by
  simp only [checkedAddU64, runs_bind, runs_rejectIf, runs_pure, not_lt]
  grind

@[simp]
theorem runs_plainAddU64 {left right result : ℕ} :
    Runs (plainAddU64 left right) env s result s' ↔
      ((left + right : ℕ) : ℤ) ≤ u64.upper ∧ result = left + right ∧ s' = s := by
  simp only [plainAddU64, runs_bind, runs_rejectIf, runs_pure, not_lt]
  grind

@[simp]
theorem runs_plainSub {left right result : ℕ} :
    Runs (plainSub left right) env s result s' ↔
      right ≤ left ∧ result = left - right ∧ s' = s := by
  simp only [plainSub, runs_bind, runs_rejectIf, runs_pure, not_lt]
  grind

/-! ## Host and instance storage -/

@[simp]
theorem runs_requireAuth {address : Address} :
    Runs (requireAuth address) env s done s' ↔ env.auth address = true ∧ s' = s := by
  simp [requireAuth]

@[simp]
theorem runs_publish {event : Event} :
    Runs (publish event) env s done s' ↔ s' = { s with events := s.events ++ [event] } := by
  simp [publish]

/-- An event published on a condition, before what follows either way. -/
theorem runs_publishIf {α : Type} {event : Event} {returned : α} {next : Contract α}
    {due : Prop} [Decidable due] :
    Runs (if due then (do publish event; next) else next) env s returned s' ↔
      Runs next env { s with events := s.events ++ if due then [event] else [] } returned s' := by
  by_cases done : due
  · simp only [if_pos done, runs_bind, runs_publish, exists_eq_left, exists_const]
  · simp only [if_neg done, List.append_nil]

@[simp]
theorem runs_currentAccrualTimestamp {now : ℕ} :
    Runs currentAccrualTimestamp env s now s' ↔
      s.lastAccrualLedgerTimestamp.getD 0 ≤ env.timestamp ∧ now = env.timestamp ∧
        s' = { s with lastAccrualLedgerTimestamp := some env.timestamp } := by
  simp only [currentAccrualTimestamp, assertLedgerTimeMonotonic, runs_bind, runs_ask, runs_peek,
    runs_rejectIf, runs_update, runs_pure, not_lt]
  grind

@[simp]
theorem runs_acquireReentrancyLock :
    Runs acquireReentrancyLock env s done s' ↔
      s.reentrancyLock = false ∧ s' = { s with reentrancyLock := true } := by
  simp [acquireReentrancyLock]

@[simp]
theorem runs_releaseReentrancyLock :
    Runs releaseReentrancyLock env s done s' ↔ s' = { s with reentrancyLock := false } := by
  simp [releaseReentrancyLock]

@[simp]
theorem runs_getConfig {config : Config} :
    Runs getConfig env s config s' ↔ s.config = some config ∧ s' = s :=
  runs_peek_getOrReject

@[simp]
theorem runs_getToken {token : Address} :
    Runs getToken env s token s' ↔ s.config.map Config.token = some token ∧ s' = s := by
  simp only [getToken, runs_bind, runs_getConfig, runs_pure, Option.map_eq_some_iff]
  grind

@[simp]
theorem runs_getAdmin {admin : Address} :
    Runs getAdmin env s admin s' ↔ s.config.map Config.admin = some admin ∧ s' = s := by
  simp only [getAdmin, runs_bind, runs_getConfig, runs_pure, Option.map_eq_some_iff]
  grind

@[simp]
theorem runs_requireNotGloballyPaused :
    Runs requireNotGloballyPaused env s done s' ↔ s.globalEmergencyPaused = false ∧ s' = s := by
  simp [requireNotGloballyPaused]

@[simp]
theorem runs_requireNotCreationPaused :
    Runs requireNotCreationPaused env s done s' ↔
      (s.globalEmergencyPaused = false ∧ s.creationPaused = false) ∧ s' = s := by
  simp only [requireNotCreationPaused, runs_bind, runs_requireNotGloballyPaused, runs_peek,
    runs_rejectIf, Bool.not_eq_true]
  grind

@[simp]
theorem runs_setStreamCount {count : ℕ} :
    Runs (setStreamCount count) env s done s' ↔ s' = { s with nextStreamId := count } := by
  simp [setStreamCount]

@[simp]
theorem runs_reconcilePausedStreamCount {previous next : StreamStatus} :
    Runs (reconcilePausedStreamCount previous next) env s done s' ↔
      s' = { s with
        pausedStreamCount := reconciledCount previous next s.pausedStreamCount } := by
  simp [reconcilePausedStreamCount]

@[simp]
theorem runs_increaseLiabilities {amount : ℤ} :
    Runs (increaseLiabilities amount) env s done s' ↔
      s' = { s with totalLiabilities := increasedLiabilities s.totalLiabilities amount } := by
  simp [increaseLiabilities]

@[simp]
theorem runs_reduceLiabilities {amount : ℤ} :
    Runs (reduceLiabilities amount) env s done s' ↔
      s' = { s with totalLiabilities := reducedLiabilities s.totalLiabilities amount } := by
  simp [reduceLiabilities]

@[simp]
theorem runs_releaseLiabilities {amount : ℤ} :
    Runs (releaseLiabilities amount) env s done s' ↔
      s' = { s with totalLiabilities := releasedLiabilities s.totalLiabilities amount } := by
  simp [releaseLiabilities]

@[simp]
theorem runs_incrementTotalKeeperFeesPaid {amount : ℤ} :
    Runs (incrementTotalKeeperFeesPaid amount) env s done s' ↔
      i128.Contains (s.totalKeeperFeesPaid + amount) ∧
        s' = { s with totalKeeperFeesPaid := s.totalKeeperFeesPaid + amount } := by
  simp only [incrementTotalKeeperFeesPaid, runs_bind, runs_peek, runs_checkedI128, runs_update,
    and_assoc, exists_and_left, exists_eq_left]

@[simp]
theorem reconciledCount_self (status : StreamStatus) (count : ℕ) :
    reconciledCount status status count = count := by
  simp [reconciledCount]

/-! ## Streams and reservations -/

@[simp]
theorem runs_saveIdReservation {caller : Address} {res : IdReservation} :
    Runs (saveIdReservation caller res) env s done s' ↔
      s' = { s with idReservation := Function.update s.idReservation caller (some res) } := by
  simp [saveIdReservation]

@[simp]
theorem runs_removeIdReservation {caller : Address} :
    Runs (removeIdReservation caller) env s done s' ↔
      s' = { s with idReservation := Function.update s.idReservation caller none } := by
  simp [removeIdReservation]

@[simp]
theorem runs_loadStream {streamId : ℕ} {stream : Stream} :
    Runs (loadStream streamId) env s stream s' ↔ s.streams streamId = some stream ∧ s' = s :=
  runs_peek_getOrReject

@[simp]
theorem runs_saveStream {stream : Stream} :
    Runs (saveStream stream) env s done s' ↔
      s' = { s with streams := Function.update s.streams stream.streamId (some stream) } := by
  simp [saveStream]

@[simp]
theorem runs_removeStream {streamId : ℕ} :
    Runs (removeStream streamId) env s done s' ↔
      s' = { s with streams := Function.update s.streams streamId none } := by
  simp [removeStream]

@[simp]
theorem runs_saveRecipientStreams {recipient : Address} {ids : List ℕ} :
    Runs (saveRecipientStreams recipient ids) env s done s' ↔
      s' = { s with recipientStreams := Function.update s.recipientStreams recipient ids } := by
  simp [saveRecipientStreams]

@[simp]
theorem runs_addStreamToRecipientIndex {recipient : Address} {streamId : ℕ} :
    Runs (addStreamToRecipientIndex recipient streamId) env s done s' ↔
      s' = { s with
        recipientStreams := Function.update s.recipientStreams recipient
          (insertSorted (s.recipientStreams recipient) streamId) } := by
  simp [addStreamToRecipientIndex]

@[simp]
theorem runs_removeStreamFromRecipientIndex {recipient : Address} {streamId : ℕ} :
    Runs (removeStreamFromRecipientIndex recipient streamId) env s done s' ↔
      s' = { s with
        recipientStreams := Function.update s.recipientStreams recipient
          (removeSorted (s.recipientStreams recipient) streamId) } := by
  simp [removeStreamFromRecipientIndex]

/-! ## Token -/

@[simp]
theorem runs_tokenBalance {balance : ℤ} :
    Runs tokenBalance env s balance s' ↔
      s.config.isSome = true ∧ balance = s.balances env.currentContractAddress ∧ s' = s := by
  simp only [tokenBalance, runs_bind, runs_getToken, runs_ask, runs_peek,
    Option.isSome_iff_exists, Option.map_eq_some_iff]
  grind

@[simp]
theorem runs_tokenTransfer {source destination : Address} {amount : ℤ} :
    Runs (tokenTransfer source destination amount) env s done s' ↔
      TransferAllowed env s source destination amount ∧
        s' = { s with balances := movedBalances s.balances source destination amount } := by
  simp [tokenTransfer]

/-- A transfer leaves balances that the token can represent. -/
theorem TransferAllowed.tokenBalances {source destination : Address} {amount : ℤ}
    (allowed : TransferAllowed env s source destination amount)
    (sound : TokenBalances s.balances) :
    TokenBalances (movedBalances s.balances source destination amount) := by
  have nonneg := allowed.amount_nonneg
  have covered := allowed.covered
  intro holder
  rcases eq_or_ne holder destination with rfl | other
  · refine ⟨?_, allowed.fits.2⟩
    unfold movedBalances
    rw [Function.update_self]
    rcases eq_or_ne holder source with rfl | apart
    · rw [Function.update_self]
      linarith [(sound holder).1]
    · rw [Function.update_of_ne apart]
      linarith [(sound holder).1]
  · unfold movedBalances
    rw [Function.update_of_ne other]
    rcases eq_or_ne holder source with rfl | apart
    · rw [Function.update_self]
      exact ⟨by linarith, by linarith [(sound holder).2]⟩
    · rw [Function.update_of_ne apart]
      exact sound holder

/-- The state after `amount` was pulled from `source` on its allowance. -/
def State.pulled (s : State) (address source : Address) (amount : ℤ) : State :=
  { s with
    balances := movedBalances s.balances source address amount
    allowances := Function.update s.allowances source (s.allowances source - amount) }

/-- The payouts of a transfer, one for each of its lines. -/
def payoutsOf (env : Env) (s : State) (destination : Address) (lines : List PayoutLine) :
    List Payout :=
  lines.map fun line =>
    { streamId := line.streamId, kind := line.kind, destination, amount := line.amount,
      sequence := env.sequence, stored := s.streams line.streamId }

/-- The state after `amount` was pushed to `destination`. -/
def State.pushed (s : State) (env : Env) (destination : Address) (amount : ℤ)
    (lines : List PayoutLine) : State :=
  { s with
    balances := movedBalances s.balances env.currentContractAddress destination amount
    payouts := s.payouts ++ payoutsOf env s destination lines }

@[simp]
theorem runs_pullToken {source : Address} {amount : ℤ} :
    Runs (pullToken source amount) env s done s' ↔
      (s.config.isSome = true ∧ amount ≤ s.allowances source ∧
        TransferAllowed env s source env.currentContractAddress amount) ∧
        s' = s.pulled env.currentContractAddress source amount := by
  simp only [pullToken, runs_bind, runs_getToken, runs_ask, runs_peek, runs_rejectIf, not_lt,
    runs_tokenTransfer, runs_update, Option.isSome_iff_exists, Option.map_eq_some_iff,
    State.pulled]
  grind

@[simp]
theorem runs_pushToken {destination : Address} {amount : ℤ} {lines : List PayoutLine} :
    Runs (pushToken destination amount lines) env s done s' ↔
      (s.config.isSome = true ∧
        TransferAllowed env s env.currentContractAddress destination amount) ∧
        s' = s.pushed env destination amount lines := by
  simp only [pushToken, runs_bind, runs_getToken, runs_ask, runs_tokenTransfer, runs_update,
    Option.isSome_iff_exists, Option.map_eq_some_iff, State.pushed, payoutsOf]
  grind

end Wallie.StreamContract
