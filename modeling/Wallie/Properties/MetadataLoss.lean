import Wallie.Ledger.RunInvariant
import Wallie.Lib.Avoids
import Wallie.StreamContract.Queries
import Wallie.StreamContract.Script

/-!
# The metadata of new streams

Five entrypoints take a metadata map for the streams they create. None of them
checks its size, and none stores it. So no map is ever read back, and none is
ever reported as too large.
-/

namespace Wallie.StreamContract

open Fallible

variable {address : Address} {env : Env} {s s' : State} {stream stream' : Stream} {call : Call}
  {now position id : ℕ} {metadata : Metadata} {move : Move}

/-! ## Sizes -/

def metadataBytes (metadata : Metadata) : ℕ :=
  (metadata.map fun entry => entry.1.length + entry.2.length).sum

theorem validateEntries_eq_ok_iff {totalBytes : ℕ} (within : totalBytes ≤ maxMetadataBytes) :
    validateEntries totalBytes metadata = .ok () ↔
      (∀ entry ∈ metadata, entry.1.length ≤ maxMetadataKeyBytes ∧
        entry.2.length ≤ maxMetadataValueBytes) ∧
        totalBytes + metadataBytes metadata ≤ maxMetadataBytes := by
  induction metadata generalizing totalBytes with
  | nil => simpa [validateEntries, metadataBytes] using within
  | cons entry rest ih =>
      rcases entry with ⟨key, value⟩
      have bytes : totalBytes + metadataBytes ((key, value) :: rest) =
          totalBytes + key.length + value.length + metadataBytes rest := by
        simp only [metadataBytes, List.map_cons, List.sum_cons]
        omega
      rw [List.forall_mem_cons, bytes, validateEntries]
      split_ifs with key_long value_long bytes_many
      · simp [not_le.mpr key_long]
      · simp [not_le.mpr value_long]
      · simp only [false_iff, not_and]
        omega
      · rw [ih (not_lt.mp bytes_many)]
        simp [not_lt.mp key_long, not_lt.mp value_long]

/-- The bounds that the size check enforces. -/
theorem validateMetadata_eq_ok_iff :
    validateMetadata metadata = .ok () ↔
      metadata.length ≤ maxMetadataKeys ∧
        (∀ entry ∈ metadata, entry.1.length ≤ maxMetadataKeyBytes ∧
          entry.2.length ≤ maxMetadataValueBytes) ∧
        metadataBytes metadata ≤ maxMetadataBytes := by
  unfold validateMetadata
  split_ifs with many
  · simp [not_le.mpr many]
  · rw [validateEntries_eq_ok_iff (Nat.zero_le _), Nat.zero_add]
    simp [not_lt.mp many]

/-! ## What the creations do with a map -/

/-- The map a creation carries for its entry at `position`. -/
def Call.metadataAt (position : ℕ) : Call → Option Metadata
  | createStreams _ streams | createStreamsPartial _ streams =>
      streams[position]?.bind CreateStreamParams.metadata
  | createStreamsRelative _ streamsRelative =>
      streamsRelative[position]?.bind CreateStreamRelativeParams.metadata
  | createStreamRelative _ params => if position = 0 then params.metadata else none
  | createStreamFromTemplate _ _ _ _ _ _ _ metadata _ => if position = 0 then metadata else none
  | _ => none

/-- The call succeeds and creates stream `id` for its entry at `position`. -/
def Call.CreatesAt (env : Env) (s : State) (position id : ℕ) (s' : State) : Call → Prop
  | createStreams sender streams =>
      ∃ ids, Runs (StreamContract.createStreams sender streams) env s ids s' ∧
        ids[position]? = some id
  | createStreamsPartial sender streams =>
      ∃ results, Runs (StreamContract.createStreamsPartial sender streams) env s results s' ∧
        results[position]?.bind CreateStreamResult.streamId = some id
  | createStreamsRelative sender streamsRelative =>
      ∃ ids, Runs (StreamContract.createStreamsRelative sender streamsRelative) env s ids s' ∧
        ids[position]? = some id
  | createStreamRelative sender params =>
      Runs (StreamContract.createStreamRelative sender params) env s id s' ∧ position = 0
  | createStreamFromTemplate sender templateId recipient depositAmount ratePerSecond
      withdrawDustThreshold memo metadata kind =>
      Runs (StreamContract.createStreamFromTemplate sender templateId recipient depositAmount
        ratePerSecond withdrawDustThreshold memo metadata kind) env s id s' ∧ position = 0
  | _ => False

/-- The entry at `position` is rejected because of the size of its map. The partial batch reports
that in its results and goes on in the state before the entry; the other calls fail. -/
def Call.RejectsAt (env : Env) (s : State) (position : ℕ) : Call → Prop
  | createStreamsPartial sender streams =>
      ∃ results s', Runs (StreamContract.createStreamsPartial sender streams) env s results s' ∧
        ∃ params earlier middle, streams[position]? = some params ∧
          Runs (createAllPartial sender env.timestamp (streams.take position)) env s earlier
            middle ∧
          Runs (createOnePartial sender env.timestamp params) env middle
            (failedResult .metadataTooLarge) middle
  | call => Fails call.run env s (.error .metadataTooLarge)

/-- A map within the limits is read back from the stream created with it, and a larger one is
rejected. -/
def Call.KeepsMetadata (call : Call) (env : Env) (s : State) (position : ℕ)
    (metadata : Metadata) : Prop :=
  (validateMetadata metadata = .ok () → ∀ id s', call.CreatesAt env s position id s' →
      ∃ viewed, Runs (getStreamMetadata id) env s' (some metadata) viewed) ∧
    (validateMetadata metadata ≠ .ok () → call.RejectsAt env s position)

/-! ## Nothing is stored -/

theorem Stream.Moves.keeps_metadata (moves : stream.Moves now move stream') :
    stream'.metadata = stream.metadata := by
  cases moves with
  | _ => rfl

theorem Reachable.metadata_none (reached : Reachable address anyCall now s)
    (stored : s.streams id = some stream) : stream.metadata = none := by
  refine reached.forall_stored (fun _ stream => stream.metadata = none) ?_ ?_ ?_ stored
  · exact fun _ _ _ _ _ => rfl
  · exact fun _ _ _ _ _ _ same => same
  · intro _ _ _ _ _ _ _ _ _ _ moves same
    exact moves.keeps_metadata.trans same

theorem Call.CreatesAt.runs (creates : call.CreatesAt env s position id s') :
    Runs call.run env s () s' := by
  cases call with
  | createStreams | createStreamsPartial | createStreamsRelative =>
      rcases creates with ⟨_, run, _⟩
      exact runs_effect.mpr ⟨_, run⟩
  | createStreamRelative | createStreamFromTemplate =>
      exact runs_effect.mpr ⟨_, creates.1⟩
  | _ => exact creates.elim

/-! ## Nothing is checked -/

section Avoids

variable {sender recipient : Address} {amount : ℤ} {left right : ℕ}

@[simp]
theorem avoids_requireAuth {signer : Address} :
    Avoids (.error .metadataTooLarge) (requireAuth signer) :=
  avoids_bind avoids_ask fun _ => avoids_rejectIf (by simp)

@[simp]
theorem avoids_requireNotCreationPaused :
    Avoids (.error .metadataTooLarge) requireNotCreationPaused := by
  unfold requireNotCreationPaused requireNotGloballyPaused
  repeat' with_reducible first | refine avoids_bind ?_ fun _ => ?_ | simp

@[simp]
theorem avoids_plainAddU64 : Avoids (.error .metadataTooLarge) (plainAddU64 left right) :=
  avoids_bind (avoids_rejectIf (by simp)) fun _ => avoids_pure

@[simp]
theorem avoids_checkedAddU64 {reason : ContractError} (other : .metadataTooLarge ≠ reason) :
    Avoids (.error .metadataTooLarge) (checkedAddU64 left right reason) :=
  avoids_bind (avoids_rejectIf (by simpa using other)) fun _ => avoids_pure

@[simp]
theorem avoids_validateStreamParams {params : CreateStreamParams} :
    Avoids (.error .metadataTooLarge) (validateStreamParams sender now params) := by
  unfold validateStreamParams
  repeat' with_reducible first | refine avoids_bind ?_ fun _ => ?_ | simp

@[simp]
theorem avoids_pullToken : Avoids (.error .metadataTooLarge) (pullToken sender amount) := by
  unfold pullToken getToken getConfig tokenTransfer
  repeat' with_reducible first | refine avoids_bind ?_ fun _ => ?_ | simp

@[simp]
theorem avoids_nextStreamIdFor : Avoids (.error .metadataTooLarge) (nextStreamIdFor sender) := by
  refine avoids_bind avoids_peek ?_
  rintro (_ | reservation)
  · exact avoids_bind avoids_peek fun _ => avoids_bind avoids_plainAddU64 fun _ =>
      avoids_bind avoids_update fun _ => avoids_pure
  · refine avoids_bind avoids_plainAddU64 fun _ => ?_
    exact avoids_ite (avoids_bind avoids_update fun _ => avoids_pure)
      (avoids_bind avoids_update fun _ => avoids_pure)

@[simp]
theorem avoids_addStreamToRecipientIndex :
    Avoids (.error .metadataTooLarge) (addStreamToRecipientIndex recipient id) :=
  avoids_bind avoids_peek fun _ => avoids_update

theorem avoids_persistStream {addToIndex : Address → ℕ → Contract Unit}
    {params : CreateStreamParams}
    (adds : ∀ recipient id, Avoids (.error .metadataTooLarge) (addToIndex recipient id)) :
    Avoids (.error .metadataTooLarge) (persistStream addToIndex sender params) := by
  unfold persistStream saveStream increaseLiabilities publish
  repeat' with_reducible first | refine avoids_bind ?_ fun _ => ?_ | simp [adds]

@[simp]
theorem avoids_persistNewStream {params : CreateStreamParams} :
    Avoids (.error .metadataTooLarge) (persistNewStream sender params) :=
  avoids_persistStream fun _ _ => avoids_addStreamToRecipientIndex

@[simp]
theorem avoids_absoluteParams {params : CreateStreamRelativeParams} :
    Avoids (.error .metadataTooLarge) (absoluteParams now params) := by
  unfold absoluteParams
  repeat' with_reducible first | refine avoids_bind ?_ fun _ => ?_ | simp

@[simp]
theorem avoids_createStream {params : CreateStreamParams} :
    Avoids (.error .metadataTooLarge) (createStream sender params) := by
  unfold createStream
  repeat' with_reducible first | refine avoids_bind ?_ fun _ => ?_ | simp

theorem avoids_createStreamRelative {params : CreateStreamRelativeParams} :
    Avoids (.error .metadataTooLarge) (createStreamRelative sender params) :=
  avoids_bind avoids_ask fun _ => avoids_bind avoids_absoluteParams fun _ => avoids_createStream

theorem avoids_validateAll {streams : List CreateStreamParams} {total : ℤ} :
    Avoids (.error .metadataTooLarge) (validateAll sender now streams total) := by
  induction streams generalizing total with
  | nil => exact avoids_pure
  | cons params rest ih =>
      exact avoids_bind avoids_validateStreamParams fun _ =>
        avoids_bind (avoids_getOrReject (by simp)) fun _ => ih

theorem avoids_persistAll {streams : List CreateStreamParams} {ids : List ℕ}
    {cache : RecipientCache} :
    Avoids (.error .metadataTooLarge) (persistAll sender streams ids cache) := by
  induction streams generalizing ids cache with
  | nil => exact avoids_pure
  | cons params rest ih =>
      exact avoids_bind (avoids_persistStream fun _ _ => avoids_pure) fun _ => ih

theorem avoids_flushCache {cache : RecipientCache} :
    Avoids (.error .metadataTooLarge) (flushCache cache) := by
  induction cache with
  | nil => exact avoids_pure
  | cons entry rest ih =>
      exact avoids_bind avoids_peek fun _ => avoids_bind avoids_update fun _ => ih

theorem avoids_createStreams {streams : List CreateStreamParams} :
    Avoids (.error .metadataTooLarge) (createStreams sender streams) := by
  unfold createStreams
  repeat' with_reducible
    first
    | exact avoids_validateAll
    | exact avoids_persistAll
    | exact avoids_flushCache
    | refine avoids_bind ?_ fun _ => ?_
    | refine avoids_ite ?_ ?_
    | simp

theorem avoids_absoluteAll {streams : List CreateStreamRelativeParams} :
    Avoids (.error .metadataTooLarge) (absoluteAll now streams) := by
  induction streams with
  | nil => exact avoids_pure
  | cons params rest ih =>
      exact avoids_bind avoids_absoluteParams fun _ => avoids_bind ih fun _ => avoids_pure

theorem avoids_createStreamsRelative {streams : List CreateStreamRelativeParams} :
    Avoids (.error .metadataTooLarge) (createStreamsRelative sender streams) :=
  avoids_ite avoids_pure <| avoids_bind avoids_ask fun _ =>
    avoids_bind avoids_absoluteAll fun _ => avoids_createStreams

theorem avoids_createStreamFromTemplate {templateId : ℕ} {depositAmount rate threshold : ℤ}
    {memo : Option Bytes} {metadata : Option Metadata} {kind : StreamKind} :
    Avoids (.error .metadataTooLarge) (createStreamFromTemplate sender templateId recipient
      depositAmount rate threshold memo metadata kind) := by
  refine avoids_bind ?_ fun _ => avoids_createStreamRelative
  exact avoids_bind avoids_peek fun _ => avoids_getOrReject (by simp)

/-- An attempt hands on no error that its computation avoids. -/
theorem ne_of_attempt {α : Type} {computation : Contract α} {avoided reason : ContractError}
    (avoids : Avoids (.error avoided) computation)
    (run : Runs (attempt computation Failure.returned) env s (.error reason) s') :
    reason ≠ avoided := by
  rintro rfl
  rcases runs_attempt.mp run with ⟨_, same, _⟩ | ⟨failure, handled, fails, returned, same, _⟩
  · cases same
  · cases same
    cases failure with
    | error _ =>
        cases returned
        exact avoids fails
    | trap => cases returned

theorem failedResult_metadataTooLarge {reason : ContractError}
    (same : failedResult reason = failedResult .metadataTooLarge) : reason = .metadataTooLarge := by
  cases reason <;> first | rfl | simp [failedResult, ContractError.code] at same

theorem not_runs_createOnePartial {params : CreateStreamParams} :
    ¬ Runs (createOnePartial sender now params) env s (failedResult .metadataTooLarge) s' := by
  intro run
  rcases runs_bind.mp run with ⟨validation, _, validated, run⟩
  cases validation with
  | error reason =>
      have same := failedResult_metadataTooLarge (runs_pure.mp run).1.symm
      exact ne_of_attempt avoids_validateStreamParams validated same
  | ok _ =>
      rcases runs_bind.mp run with ⟨transfer, _, _, run⟩
      cases transfer with
      | error _ => cases failedResult_metadataTooLarge (runs_pure.mp run).1.symm
      | ok _ =>
          rcases runs_bind.mp run with ⟨persisted, _, persists, run⟩
          cases persisted with
          | error reason =>
              have same := failedResult_metadataTooLarge (runs_pure.mp run).1.symm
              exact ne_of_attempt avoids_persistNewStream persists same
          | ok _ => simp [runs_pure, failedResult] at run

end Avoids

theorem avoids_effect {α : Type} {computation : Contract α}
    (avoids : Avoids (.error .metadataTooLarge) computation) :
    Avoids (.error .metadataTooLarge) (effect computation) :=
  avoids_bind avoids fun _ => avoids_pure

/-- No creation that carries a map is rejected because of the size of the map. -/
theorem Call.not_rejectsAt (carries : call.metadataAt position = some metadata) :
    ¬ call.RejectsAt env s position := by
  intro rejects
  cases call with
  | createStreams => exact avoids_effect avoids_createStreams rejects
  | createStreamsRelative => exact avoids_effect avoids_createStreamsRelative rejects
  | createStreamRelative => exact avoids_effect avoids_createStreamRelative rejects
  | createStreamFromTemplate => exact avoids_effect avoids_createStreamFromTemplate rejects
  | createStreamsPartial =>
      rcases rejects with ⟨_, _, _, _, _, _, _, _, run⟩
      exact not_runs_createOnePartial run
  | _ => cases carries

/-! ## The maps are lost -/

/-- No creation keeps the map of an entry: the stream of a created entry has no metadata, and an
entry with a map beyond the limits is not rejected for that. -/
theorem never_keepsMetadata {invocation : Invocation address}
    (reached : Reachable address anyCall now s) (order : now ≤ invocation.env.timestamp)
    (carries : invocation.call.metadataAt position = some metadata)
    (concerned : validateMetadata metadata = .ok () →
      ∃ id s', invocation.call.CreatesAt invocation.env s position id s') :
    ¬ invocation.call.KeepsMetadata invocation.env s position metadata := by
  rintro ⟨kept, rejected⟩
  by_cases valid : validateMetadata metadata = .ok ()
  · rcases concerned valid with ⟨id, s', creates⟩
    rcases kept valid id s' creates with ⟨viewed, run⟩
    have after : Reachable address anyCall _ s' := reached.after order trivial creates.runs
    simp only [getStreamMetadata, runs_bind, runs_loadStream, runs_pure] at run
    rcases run with ⟨stream, _, ⟨stored, rfl⟩, same, _⟩
    rw [after.metadata_none stored] at same
    cases same
  · exact Call.not_rejectsAt carries (rejected valid)

namespace Sample

/-- Terms of a relative stream with a metadata map. -/
def labelledParams (metadata : Metadata) : CreateStreamRelativeParams where
  recipient
  depositAmount := 1000
  ratePerSecond := 10
  startDelay := 0
  cliffDelay := 0
  duration := 100
  withdrawDustThreshold := none
  memo := none
  metadata := some metadata
  kind := .linear

/-- One entry of three bytes. -/
def label : Metadata :=
  [([1], [2, 3])]

/-- One key more than a map may have. -/
def labels : Metadata :=
  List.replicate (maxMetadataKeys + 1) ([1], [2, 3])

theorem creates_label : ∃ s', (Call.createStreamRelative sender (labelledParams label)).CreatesAt
    (Sample.env 1 0 0) genesis 0 0 s' := by
  have created : ((createStreamRelative sender (labelledParams label) (Sample.env 1 0 0)
      genesis).toOption.map Prod.fst) = some 0 := by decide
  rcases exists_runs_of_toOption created with ⟨s', run⟩
  exact ⟨s', run, rfl⟩

end Sample

theorem never_keepsMetadata_label :
    ¬ (Call.createStreamRelative Sample.sender (Sample.labelledParams Sample.label)).KeepsMetadata
      (Sample.env 1 0 0) Sample.genesis 0 Sample.label := by
  refine @never_keepsMetadata _ _ 0 0 _ (Sample.invocation 1 0 0
    (.createStreamRelative Sample.sender (Sample.labelledParams Sample.label)) (Eq.refl true))
    (Sample.reachable_genesis _) le_rfl rfl fun _ => ?_
  exact ⟨0, Sample.creates_label⟩

/-- A map of one entry is lost, and one with too many keys is accepted. -/
theorem not_always_keepsMetadata :
    ¬ (Call.createStreamRelative Sample.sender (Sample.labelledParams Sample.label)).KeepsMetadata
      (Sample.env 1 0 0) Sample.genesis 0 Sample.label ∧
    ¬ (Call.createStreamRelative Sample.sender (Sample.labelledParams Sample.labels)).KeepsMetadata
      (Sample.env 1 0 0) Sample.genesis 0 Sample.labels := by
  constructor
  · rintro ⟨kept, _⟩
    rcases Sample.creates_label with ⟨s', creates⟩
    rcases kept rfl 0 s' creates with ⟨viewed, run⟩
    have read : ((do
        let id ← createStreamRelative Sample.sender (Sample.labelledParams Sample.label)
        getStreamMetadata id : Contract (Option Metadata)) (Sample.env 1 0 0)
          Sample.genesis).toOption.map Prod.fst = some none := by decide
    rcases exists_runs_of_toOption read with ⟨viewed', run'⟩
    have same := (runs_bind.mpr ⟨0, s', creates.1, run⟩).unique run'
    cases same.1
  · rintro ⟨_, rejected⟩
    have created : ((Call.createStreamRelative Sample.sender
        (Sample.labelledParams Sample.labels)).run (Sample.env 1 0 0)
          Sample.genesis).toOption.map Prod.fst = some () := by decide
    rcases exists_runs_of_toOption created with ⟨_, run⟩
    exact run.not_fails (rejected (by decide))

end Wallie.StreamContract
