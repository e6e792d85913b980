import Mathlib.Algebra.Order.BigOperators.Group.List
import Wallie.Ledger.Projection

/-!
# Rules of the creating entrypoints

When a creation succeeds and what it leaves, for single streams and for batches.
A batch collects the new ids of each recipient and flushes them at its end; the
flush leaves the index that single creations leave.
-/

namespace Wallie.StreamContract

open Fallible

variable {env : Env} {s middle s' : State} {id now : ℕ} {address sender : Address} {done : Unit}
  {params : CreateStreamParams}

/-! ## The recipient index as a value -/

abbrev RecipientIndex := Address → List ℕ

/-- The index with one more stream for `recipient`. -/
def RecipientIndex.add (index : RecipientIndex) (recipient : Address) (streamId : ℕ) :
    RecipientIndex :=
  Function.update index recipient (insertSorted (index recipient) streamId)

/-- The index after the flush of a cache. -/
def RecipientCache.flush : RecipientCache → RecipientIndex → RecipientIndex
  | [], index => index
  | (recipient, newIds) :: rest, index =>
      RecipientCache.flush rest
        (Function.update index recipient (newIds.foldl insertSorted (index recipient)))

namespace RecipientCache

variable {cache : RecipientCache} {index : RecipientIndex} {recipient : Address} {streamId : ℕ}

/-- The recipients of a cache, each of which has one entry. -/
def recipients (cache : RecipientCache) : List Address :=
  cache.map Prod.fst

theorem mem_recipients_add {other : Address}
    (member : other ∈ recipients (cache.add recipient streamId)) :
    other = recipient ∨ other ∈ recipients cache := by
  induction cache with
  | nil =>
      left
      simpa [add, recipients] using member
  | cons entry rest ih =>
      rcases entry with ⟨key, ids⟩
      unfold add at member
      split at member
      · exact Or.inr member
      · simp only [recipients, List.map_cons, List.mem_cons] at member ⊢
        rcases member with rfl | member
        · exact Or.inr (Or.inl rfl)
        · exact (ih member).imp_right Or.inr

theorem nodup_recipients_add (nodup : (recipients cache).Nodup) :
    (recipients (cache.add recipient streamId)).Nodup := by
  induction cache with
  | nil => simp [add, recipients]
  | cons entry rest ih =>
      rcases entry with ⟨key, ids⟩
      simp only [recipients, List.map_cons, List.nodup_cons] at nodup
      unfold add
      split
      · simpa only [recipients, List.map_cons, List.nodup_cons] using nodup
      · next other =>
          simp only [recipients, List.map_cons, List.nodup_cons]
          refine ⟨fun member => ?_, ih nodup.2⟩
          rcases mem_recipients_add member with same | member
          · exact other same
          · exact nodup.1 member

/-- A recipient that is not in the cache is flushed independently of it. -/
theorem flush_update (absent : recipient ∉ recipients cache) (ids : List ℕ) :
    flush cache (Function.update index recipient ids) =
      Function.update (flush cache index) recipient ids := by
  induction cache generalizing index with
  | nil => rfl
  | cons entry rest ih =>
      rcases entry with ⟨key, newIds⟩
      simp only [recipients, List.map_cons, List.mem_cons, not_or] at absent
      rw [flush, flush, Function.update_of_ne (Ne.symm absent.1),
        Function.update_comm absent.1, ih absent.2]

/-- An id that joins the cache joins the flushed index. -/
theorem flush_add (nodup : (recipients cache).Nodup) :
    flush (cache.add recipient streamId) index = (flush cache index).add recipient streamId := by
  induction cache generalizing index with
  | nil => rfl
  | cons entry rest ih =>
      rcases entry with ⟨key, newIds⟩
      simp only [recipients, List.map_cons, List.nodup_cons] at nodup
      unfold add
      split
      · next same =>
          subst same
          rw [flush, flush, RecipientIndex.add, flush_update nodup.1, flush_update nodup.1,
            Function.update_self, Function.update_idem, List.foldl_concat]
      · rw [flush, flush, ih nodup.2]

end RecipientCache

@[simp]
theorem runs_flushCache_iff {cache : RecipientCache} :
    Runs (flushCache cache) env s done s' ↔
      s' = { s with recipientStreams := cache.flush s.recipientStreams } := by
  induction cache generalizing s with
  | nil => simp [flushCache, RecipientCache.flush]
  | cons entry rest ih =>
      simp only [flushCache, runs_bind, runs_peek, runs_saveRecipientStreams, and_assoc,
        exists_and_left, exists_eq_left, exists_const, ih]
      rfl

/-! ## Persisting -/

/-- The id and its successor are values of their type. -/
def State.IdFits (s : State) (sender : Address) (id : ℕ) : Prop :=
  (id : ℤ) ≤ u64.upper ∧ (s.idReservation sender = none → ((id + 1 : ℕ) : ℤ) ≤ u64.upper)

/-- The state after a record was persisted, the recipient index apart. -/
def State.persisted (s : State) (stream : Stream) (nextStreamId : ℕ)
    (idReservation : Address → Option IdReservation) : State :=
  { s with
    nextStreamId
    idReservation
    streams := Function.update s.streams stream.streamId (some stream)
    totalLiabilities := increasedLiabilities s.totalLiabilities stream.depositAmount
    events := s.events ++ [createdEvent stream] }

def State.withIndex (s : State) (index : RecipientIndex) : State :=
  { s with recipientStreams := index }

theorem runs_nextStreamIdFor (address : Address) :
    Runs (nextStreamIdFor sender) env s id s' ↔
      ∃ nextStreamId idReservation,
        (s.book address).Allocates sender id nextStreamId idReservation ∧ s.IdFits sender id ∧
          s' = { s with nextStreamId, idReservation } := by
  simp only [nextStreamIdFor, runs_bind, runs_peek, exists_eq_left, and_assoc, exists_and_left]
  cases held : s.idReservation sender with
  | none =>
      simp only [runs_bind, runs_peek, runs_plainAddU64, runs_setStreamCount, runs_pure, and_assoc,
        exists_and_left, exists_eq_left, exists_const]
      constructor
      · rintro ⟨fits, rfl, rfl⟩
        refine ⟨_, _, .counter held, ⟨?_, fun _ => fits⟩, rfl⟩
        omega
      · rintro ⟨_, _, allocates, fits, rfl⟩
        cases allocates with
        | counter _ => exact ⟨fits.2 held, rfl, rfl⟩
        | reserved held' =>
            have clash := held.symm.trans held'
            cases clash
  | some res =>
      simp only [runs_bind, runs_plainAddU64, runs_ite, runs_removeIdReservation,
        runs_saveIdReservation, runs_pure, and_assoc, exists_and_left, exists_eq_left,
        exists_const]
      constructor
      · rintro ⟨fits, branch⟩
        rcases branch with ⟨exhausted, rfl, rfl⟩ | ⟨kept, rfl, rfl⟩
        · refine ⟨_, _, .reserved held, ⟨fits, by simp [held]⟩, ?_⟩
          rw [if_pos exhausted]
          rfl
        · refine ⟨_, _, .reserved held, ⟨fits, by simp [held]⟩, ?_⟩
          rw [if_neg kept]
          rfl
      · rintro ⟨_, _, allocates, fits, rfl⟩
        cases allocates with
        | counter unreserved =>
            have clash := held.symm.trans unreserved
            cases clash
        | @reserved res' held' =>
            have same : res' = res := Option.some.inj (held'.symm.trans held)
            subst same
            refine ⟨fits.1, ?_⟩
            by_cases exhausted : res'.count ≤ res'.consumed + 1
            · rw [if_pos exhausted]
              exact Or.inl ⟨exhausted, rfl, rfl⟩
            · rw [if_neg exhausted]
              exact Or.inr ⟨exhausted, rfl, rfl⟩

/-- The memo of the terms is short enough to be stored. -/
def CreateStreamParams.MemoFits (params : CreateStreamParams) : Prop :=
  ∀ memo ∈ params.memo, memo.length ≤ maxMemoBytes

theorem runs_persistNewStreamSkipIndex (address : Address) :
    Runs (persistNewStreamSkipIndex sender params) env s id s' ↔
      params.MemoFits ∧ ∃ nextStreamId idReservation,
        (s.book address).Allocates sender id nextStreamId idReservation ∧ s.IdFits sender id ∧
          s' = s.persisted (newStream id sender params) nextStreamId idReservation := by
  simp only [persistNewStreamSkipIndex, persistStream, runs_bind, runs_rejectIf,
    runs_nextStreamIdFor address, runs_saveStream, runs_increaseLiabilities, runs_publish,
    runs_pure, and_assoc, exists_and_left, exists_eq_left, exists_const, not_exists, not_and,
    not_lt]
  constructor
  · rintro ⟨fits, _, _, ⟨next, reservation, allocates, idFits, rfl⟩, -, rfl, rfl⟩
    exact ⟨fits, next, reservation, allocates, idFits, rfl⟩
  · rintro ⟨fits, next, reservation, allocates, idFits, rfl⟩
    exact ⟨fits, id, _, ⟨next, reservation, allocates, idFits, rfl⟩, trivial, rfl, rfl⟩

theorem runs_persistNewStream (address : Address) :
    Runs (persistNewStream sender params) env s id s' ↔
      params.MemoFits ∧ ∃ nextStreamId idReservation,
        (s.book address).Allocates sender id nextStreamId idReservation ∧ s.IdFits sender id ∧
          s' = (s.persisted (newStream id sender params) nextStreamId idReservation).withIndex
            (RecipientIndex.add s.recipientStreams params.recipient id) := by
  simp only [persistNewStream, persistStream, runs_bind, runs_rejectIf,
    runs_nextStreamIdFor address, runs_saveStream, runs_addStreamToRecipientIndex,
    runs_increaseLiabilities, runs_publish, runs_pure, and_assoc, exists_and_left, exists_eq_left,
    exists_const, not_exists, not_and, not_lt]
  constructor
  · rintro ⟨fits, _, _, ⟨next, reservation, allocates, idFits, rfl⟩, rfl, rfl⟩
    exact ⟨fits, next, reservation, allocates, idFits, rfl⟩
  · rintro ⟨fits, next, reservation, allocates, idFits, rfl⟩
    exact ⟨fits, id, _, ⟨next, reservation, allocates, idFits, rfl⟩, rfl, rfl⟩

/-- Persisting with and without the index differ in the index only. -/
theorem runs_persistNewStream_withIndex {index : RecipientIndex} :
    Runs (persistNewStream sender params) env (s.withIndex index) id s' ↔
      ∃ middle, Runs (persistNewStreamSkipIndex sender params) env s id middle ∧
        middle.recipientStreams = s.recipientStreams ∧
          s' = middle.withIndex (index.add params.recipient id) := by
  rw [runs_persistNewStream sender]
  simp only [runs_persistNewStreamSkipIndex sender]
  constructor
  · rintro ⟨fits, next, reservation, allocates, idFits, rfl⟩
    exact ⟨_, ⟨fits, next, reservation, allocates, idFits, rfl⟩, rfl, rfl⟩
  · rintro ⟨_, ⟨fits, next, reservation, allocates, idFits, rfl⟩, -, rfl⟩
    exact ⟨fits, next, reservation, allocates, idFits, rfl⟩

/-- The entries of a batch, persisted one by one with the index kept up to date. -/
def persistEach (sender : Address) : List CreateStreamParams → Contract (List ℕ)
  | [] => pure []
  | params :: rest => do
      let streamId ← persistNewStream sender params.withFinalRate
      let others ← persistEach sender rest
      return streamId :: others

theorem runs_persistEach_cons {rest : List CreateStreamParams} {ids : List ℕ} :
    Runs (persistEach sender (params :: rest)) env s ids s' ↔
      ∃ id middle others, Runs (persistNewStream sender params.withFinalRate) env s id middle ∧
        Runs (persistEach sender rest) env middle others s' ∧ ids = id :: others := by
  simp only [persistEach, runs_bind, runs_pure]
  constructor
  · rintro ⟨id, middle, persisted, others, _, each, rfl, rfl⟩
    exact ⟨id, middle, others, persisted, each, rfl⟩
  · rintro ⟨id, middle, others, persisted, each, rfl⟩
    exact ⟨id, middle, persisted, others, s', each, rfl, rfl⟩

/-- Persisting a batch and flushing its cache is persisting its entries one by one, from the state
whose index has the cache flushed already. -/
theorem runs_persistAll_flush {streams : List CreateStreamParams} {createdIds ids : List ℕ}
    {cache : RecipientCache} (nodup : (RecipientCache.recipients cache).Nodup) :
    (∃ cache' final, Runs (persistAll sender streams createdIds cache) env s (ids, cache') final ∧
        s' = final.withIndex (cache'.flush final.recipientStreams)) ↔
      ∃ newIds, ids = createdIds ++ newIds ∧
        Runs (persistEach sender streams) env (s.withIndex (cache.flush s.recipientStreams)) newIds
          s' := by
  induction streams generalizing s createdIds cache with
  | nil =>
      simp only [persistAll, persistEach, runs_pure, Prod.mk.injEq]
      constructor
      · rintro ⟨_, _, ⟨⟨rfl, rfl⟩, rfl⟩, rfl⟩
        exact ⟨[], (List.append_nil _).symm, rfl, rfl⟩
      · rintro ⟨_, rfl, rfl, rfl⟩
        exact ⟨cache, s, ⟨⟨List.append_nil _, rfl⟩, rfl⟩, rfl⟩
  | cons params rest ih =>
      simp only [persistAll, persistEach, runs_bind, runs_pure, runs_persistNewStream_withIndex]
      constructor
      · rintro ⟨cache', final, ⟨id, middle, persisted, run⟩, rfl⟩
        have index : middle.recipientStreams = s.recipientStreams := by
          rcases (runs_persistNewStreamSkipIndex sender).mp persisted with ⟨_, _, _, _, _, rfl⟩
          rfl
        have added := (ih (RecipientCache.nodup_recipients_add nodup)).mp ⟨cache', final, run, rfl⟩
        rcases added with ⟨newIds, rfl, each⟩
        rw [RecipientCache.flush_add nodup, index] at each
        exact ⟨id :: newIds, List.append_assoc _ _ _, id, _, ⟨middle, persisted, index, rfl⟩,
          newIds, _, each, rfl, rfl⟩
      · rintro ⟨_, rfl, id, _, ⟨middle, persisted, index, rfl⟩, newIds, final, each, rfl, rfl⟩
        change Runs (persistEach sender rest) env (middle.withIndex
          (RecipientIndex.add _ params.recipient id)) newIds s' at each
        rw [← RecipientCache.flush_add nodup, ← index] at each
        have added := (ih (RecipientCache.nodup_recipients_add nodup)).mpr
          ⟨newIds, (List.append_assoc createdIds [id] newIds).symm, each⟩
        rcases added with ⟨cache', final, run, rfl⟩
        exact ⟨cache', final, ⟨id, middle, persisted, run⟩, rfl⟩

/-! ## Terms -/

/-- The terms pass the checks of the contract at `now`. -/
structure CreateStreamParams.Passes (params : CreateStreamParams) (maxRate : ℤ) (sender : Address)
    (now : ℕ) : Prop where
  deposit : ¬ params.depositAmount ≤ 0
  rate : ¬ (params.kind = .linear ∧ params.ratePerSecond ≤ 0)
  capped : ¬ (params.kind = .linear ∧ maxRate < params.ratePerSecond)
  rateless : ¬ (params.kind = .cliffOnly ∧ params.ratePerSecond ≠ 0)
  distinct : sender ≠ params.recipient
  ordered : ¬ params.endTime ≤ params.startTime
  future : ¬ params.startTime < now
  cliff : ¬ (params.cliffTime < params.startTime ∨ params.endTime < params.cliffTime)
  representable : ¬ (params.kind = .linear ∧
    ¬ i128.Contains (params.ratePerSecond * (params.endTime - params.startTime : ℕ)))
  covered : ¬ (params.kind = .linear ∧
    params.depositAmount < params.ratePerSecond * (params.endTime - params.startTime : ℕ))

theorem runs_validateStreamParams :
    Runs (validateStreamParams sender now params) env s done s' ↔
      params.Passes s.maxRatePerSecond sender now ∧ s' = s := by
  simp only [validateStreamParams, runs_bind, runs_rejectIf, runs_peek, and_assoc,
    exists_and_left, exists_eq_left, exists_const]
  constructor
  · rintro ⟨deposit, rate, capped, rateless, distinct, ordered, future, cliff, representable,
      covered, rfl⟩
    exact ⟨⟨deposit, rate, capped, rateless, distinct, ordered, future, cliff, representable,
      covered⟩, rfl⟩
  · rintro ⟨⟨deposit, rate, capped, rateless, distinct, ordered, future, cliff, representable,
      covered⟩, rfl⟩
    exact ⟨deposit, rate, capped, rateless, distinct, ordered, future, cliff, representable,
      covered, rfl⟩

/-- The running totals of the deposits of a batch can be represented. -/
def SumsFit : ℤ → List CreateStreamParams → Prop
  | _, [] => True
  | total, params :: rest =>
      i128.Contains (total + params.depositAmount) ∧ SumsFit (total + params.depositAmount) rest

theorem runs_validateAll {streams : List CreateStreamParams} {total result : ℤ} :
    Runs (validateAll sender now streams total) env s result s' ↔
      ((∀ params ∈ streams, params.withFinalRate.Passes s.maxRatePerSecond sender now) ∧
        SumsFit total streams ∧ result = total + totalDeposit streams) ∧ s' = s := by
  induction streams generalizing total with
  | nil => simp [validateAll, SumsFit, totalDeposit]
  | cons params rest ih =>
      have sum : total + params.depositAmount + totalDeposit rest =
          total + totalDeposit (params :: rest) := by
        rw [totalDeposit_cons, add_assoc]
      simp only [validateAll, runs_bind, runs_validateStreamParams, runs_checkedI128, and_assoc,
        exists_and_left, exists_eq_left, exists_const, ih, sum, SumsFit, List.forall_mem_cons]
      tauto

theorem totalDeposit_pos {streams : List CreateStreamParams} {maxRate : ℤ}
    (nonempty : streams ≠ [])
    (passes : ∀ params ∈ streams, params.withFinalRate.Passes maxRate sender now) :
    0 < totalDeposit streams := by
  refine List.sum_pos _ ?_ (by simpa using nonempty)
  simp only [List.mem_map, forall_exists_index, and_imp, forall_apply_eq_imp_iff₂]
  exact fun params member => not_le.mp (passes params member).deposit

/-! ## Entrypoints -/

/-- A single creation is accepted or refused as a whole, pulls its deposit and persists the
record. -/
theorem runs_createStream :
    Runs (createStream sender params) env s id s' ↔
      env.auth sender = true ∧ (s.globalEmergencyPaused = false ∧ s.creationPaused = false) ∧
        params.withFinalRate.Passes s.maxRatePerSecond sender env.timestamp ∧
        (s.config.isSome = true ∧ params.depositAmount ≤ s.allowances sender ∧
          TransferAllowed env s sender env.currentContractAddress params.depositAmount) ∧
        Runs (persistNewStream sender params.withFinalRate) env
          (s.pulled env.currentContractAddress sender params.depositAmount) id s' := by
  simp only [createStream, runs_bind, runs_requireAuth, runs_requireNotCreationPaused, runs_ask,
    runs_validateStreamParams, runs_pullToken, and_assoc, exists_and_left, exists_eq_left,
    exists_const]
  rfl

/-- Persisting a batch and flushing its cache is persisting its entries one by one. -/
theorem runs_persistBatch {streams : List CreateStreamParams} {ids : List ℕ} :
    (∃ value middle, Runs (persistAll sender streams [] []) env s value middle ∧ ids = value.1 ∧
        s' = middle.withIndex (value.2.flush middle.recipientStreams)) ↔
      Runs (persistEach sender streams) env s ids s' := by
  have nodup : (RecipientCache.recipients []).Nodup := List.nodup_nil
  have flushed := @runs_persistAll_flush env s s' sender streams [] ids [] nodup
  constructor
  · rintro ⟨⟨_, cache⟩, middle, run, rfl, rfl⟩
    rcases flushed.mp ⟨cache, middle, run, rfl⟩ with ⟨_, rfl, each⟩
    exact each
  · intro each
    rcases flushed.mpr ⟨ids, rfl, each⟩ with ⟨cache, middle, run, rfl⟩
    exact ⟨(ids, cache), middle, run, rfl, rfl⟩

/-- A batch is accepted or refused as a whole, pulls its deposits together, and then persists its
entries one by one. -/
theorem runs_createStreams {streams : List CreateStreamParams} {ids : List ℕ} :
    Runs (createStreams sender streams) env s ids s' ↔
      env.auth sender = true ∧ (streams = [] ∧ ids = [] ∧ s' = s ∨
        streams ≠ [] ∧ (s.globalEmergencyPaused = false ∧ s.creationPaused = false) ∧
          (∀ params ∈ streams,
            params.withFinalRate.Passes s.maxRatePerSecond sender env.timestamp) ∧
          SumsFit 0 streams ∧ (s.config.isSome = true ∧
            totalDeposit streams ≤ s.allowances sender ∧
            TransferAllowed env s sender env.currentContractAddress (totalDeposit streams)) ∧
          Runs (persistEach sender streams) env
            (s.pulled env.currentContractAddress sender (totalDeposit streams)) ids s') := by
  simp only [createStreams, runs_bind, runs_requireAuth, runs_ite, runs_pure,
    runs_requireNotCreationPaused, runs_ask, runs_validateAll, runs_pullToken, runs_flushCache_iff,
    and_assoc, exists_and_left, exists_eq_left, exists_const, zero_add]
  refine and_congr_right fun _ => or_congr Iff.rfl (and_congr_right fun nonempty => ?_)
  refine and_congr_right fun _ => and_congr_right fun _ => and_congr_right fun passes => ?_
  have positive := totalDeposit_pos nonempty passes
  rw [← runs_persistBatch]
  constructor
  · rintro ⟨fits, ⟨_, configured, allowed, transfer, batch⟩ | ⟨unpaid, _⟩⟩
    · exact ⟨fits, configured, allowed, transfer, batch⟩
    · exact absurd positive unpaid
  · rintro ⟨fits, configured, allowed, transfer, batch⟩
    exact ⟨fits, Or.inl ⟨positive, configured, allowed, transfer, batch⟩⟩

/-! ## Other terms -/

theorem runs_absoluteParams {currentTime : ℕ} {rel : CreateStreamRelativeParams}
    (run : Runs (absoluteParams currentTime rel) env s params s') :
    s' = s ∧ params.depositAmount = rel.depositAmount := by
  simp only [absoluteParams, runs_bind, runs_checkedAddU64, runs_pure, and_assoc,
    exists_and_left, exists_eq_left] at run
  rcases run with ⟨-, -, -, rfl, rfl⟩
  exact ⟨rfl, rfl⟩

/-- Relative terms are those of a single creation of the same deposit. -/
theorem createStreamRelative_cases {rel : CreateStreamRelativeParams}
    (run : Runs (createStreamRelative sender rel) env s id s') :
    ∃ params, params.depositAmount = rel.depositAmount ∧
      Runs (createStream sender params) env s id s' := by
  simp only [createStreamRelative, runs_bind, runs_ask, and_assoc, exists_and_left,
    exists_eq_left] at run
  rcases run with ⟨params, _, absolute, created⟩
  rcases runs_absoluteParams absolute with ⟨rfl, deposit⟩
  exact ⟨params, deposit, created⟩

theorem createStreamFromTemplate_cases {templateId : ℕ} {recipient : Address}
    {depositAmount ratePerSecond withdrawDustThreshold : ℤ} {memo : Option Bytes}
    {metadata : Option Metadata} {kind : StreamKind}
    (run : Runs (createStreamFromTemplate sender templateId recipient depositAmount ratePerSecond
      withdrawDustThreshold memo metadata kind) env s id s') :
    ∃ rel, rel.depositAmount = depositAmount ∧
      Runs (createStreamRelative sender rel) env s id s' := by
  simp only [createStreamFromTemplate, loadStreamTemplate, runs_bind, runs_peek, runs_getOrReject,
    and_assoc, exists_and_left, exists_eq_left] at run
  rcases run with ⟨template, -, created⟩
  exact ⟨_, rfl, created⟩

/-- A clone is a creation by the sender of its source, announced once more. -/
theorem cloneStream_cases {streamId startTime endTime : ℕ} {newRecipient : Address} {deposit : ℤ}
    {force : Bool}
    (run : Runs (cloneStream streamId newRecipient startTime endTime deposit force) env s id s') :
    ∃ (source : Stream) (params : CreateStreamParams) (created : State),
      env.auth source.sender = true ∧ params.depositAmount = deposit ∧
      params.Passes s.maxRatePerSecond source.sender env.timestamp ∧
      Runs (persistNewStream source.sender params) env
        (s.pulled env.currentContractAddress source.sender params.depositAmount) id created ∧
      ∃ cliffTime, s' = { created with events := created.events ++
        [.cloned id streamId source.sender newRecipient deposit source.ratePerSecond startTime
          cliffTime endTime] } := by
  simp only [cloneStream, runs_bind, runs_requireNotCreationPaused, runs_loadStream,
    runs_rejectIf, runs_requireAuth, runs_checkedAddU64, runs_ask, runs_validateStreamParams,
    runs_pullToken, runs_publish, runs_pure, and_assoc, exists_and_left, exists_eq_left,
    exists_const] at run
  rcases run with
    ⟨-, -, source, -, -, authorised, -, -, passes, -, -, -, _, created, persisted, rfl, rfl⟩
  exact ⟨source, _, created, authorised, rfl, passes, persisted, _, rfl⟩

theorem runs_absoluteAll {currentTime : ℕ} {rels : List CreateStreamRelativeParams}
    {streams : List CreateStreamParams}
    (run : Runs (absoluteAll currentTime rels) env s streams s') :
    s' = s ∧ streams.length = rels.length ∧
      ∀ params ∈ streams, ∃ rel ∈ rels, params.depositAmount = rel.depositAmount := by
  induction rels generalizing streams with
  | nil =>
      rcases runs_pure.mp run with ⟨rfl, rfl⟩
      simp
  | cons rel rest ih =>
      simp only [absoluteAll, runs_bind, runs_pure] at run
      rcases run with ⟨params, middle, absolute, others, _, run, rfl, rfl⟩
      rcases runs_absoluteParams absolute with ⟨rfl, deposit⟩
      rcases ih run with ⟨rfl, length, deposits⟩
      refine ⟨rfl, congrArg Nat.succ length,
        List.forall_mem_cons.mpr ⟨⟨rel, List.mem_cons_self, deposit⟩, ?_⟩⟩
      intro other member
      rcases deposits other member with ⟨rel', member', deposit'⟩
      exact ⟨rel', List.mem_cons_of_mem _ member', deposit'⟩

theorem createStreamsRelative_cases {rels : List CreateStreamRelativeParams} {ids : List ℕ}
    (run : Runs (createStreamsRelative sender rels) env s ids s') :
    rels = [] ∧ ids = [] ∧ s' = s ∨ rels ≠ [] ∧ ∃ streams, streams ≠ [] ∧
      (∀ params ∈ streams, ∃ rel ∈ rels, params.depositAmount = rel.depositAmount) ∧
      Runs (createStreams sender streams) env s ids s' := by
  simp only [createStreamsRelative, runs_bind, runs_ite, runs_pure, runs_ask, and_assoc,
    exists_and_left, exists_eq_left] at run
  rcases run with empty | ⟨nonempty, streams, _, absolute, created⟩
  · exact Or.inl empty
  · rcases runs_absoluteAll absolute with ⟨rfl, length, deposits⟩
    refine Or.inr ⟨nonempty, streams, ?_, deposits, created⟩
    rintro rfl
    exact nonempty (List.eq_nil_of_length_eq_zero length.symm)

/-! ## Partial batches -/

/-- A pull returns an error, and does not trap, only where there is no token to pull. -/
theorem unconfigured_of_fails {source : Address} {amount : ℤ} {reason : ContractError}
    (fails : Fails (pullToken source amount) env s (.error reason)) : s.config = none := by
  simp only [pullToken, getToken, getConfig, tokenTransfer, fails_bind, fails_getOrReject,
    fails_rejectIf, not_fails_peek, not_fails_ask, not_fails_update, not_fails_pure, runs_bind,
    runs_peek, runs_getOrReject, runs_ask, runs_rejectIf, runs_pure, reduceCtorEq, and_false,
    false_or, or_false, exists_false, and_assoc, exists_and_left, exists_eq_left] at fails
  exact fails.1

theorem fails_plainAddU64 {left right : ℕ} {failure : Failure} :
    Fails (plainAddU64 left right) env s failure ↔
      u64.upper < (left + right : ℕ) ∧ failure = .trap := by
  simp only [plainAddU64, fails_bind, fails_rejectIf, not_fails_pure, and_false, exists_false,
    or_false]

/-- The allocation of an id returns no error. -/
theorem trap_of_nextStreamIdFor {failure : Failure}
    (fails : Fails (nextStreamIdFor sender) env s failure) : failure = .trap := by
  simp only [nextStreamIdFor, fails_bind, not_fails_peek, runs_peek, false_or, and_assoc,
    exists_and_left, exists_eq_left] at fails
  cases held : s.idReservation sender with
  | none =>
      simp only [held, setStreamCount, fails_bind, fails_plainAddU64, not_fails_peek,
        not_fails_update, not_fails_pure, runs_peek, and_assoc, and_false, exists_false, or_false,
        false_or, exists_and_left, exists_eq_left] at fails
      exact fails.2
  | some res =>
      simp only [held, fails_bind, fails_plainAddU64] at fails
      rcases fails with ⟨_, trap⟩ | ⟨_, _, _, stored⟩
      · exact trap
      · split at stored
        · simp only [removeIdReservation, fails_bind, not_fails_update, not_fails_pure, and_false,
            exists_false, or_false] at stored
        · simp only [saveIdReservation, fails_bind, not_fails_update, not_fails_pure, and_false,
            exists_false, or_false] at stored

/-- Persisting returns an error only for a memo that is too long. -/
theorem unfit_of_fails {reason : ContractError}
    (fails : Fails (persistNewStream sender params) env s (.error reason)) :
    reason = .invalidParams ∧ ¬ params.MemoFits := by
  simp only [persistNewStream, persistStream, addStreamToRecipientIndex, saveRecipientStreams,
    saveStream, increaseLiabilities, publish, fails_bind, fails_rejectIf, not_fails_peek,
    not_fails_update, not_fails_pure, or_false, and_false, exists_false] at fails
  rcases fails with ⟨⟨memo, stored, long⟩, same⟩ | ⟨_, _, _, unallocated⟩
  · refine ⟨by simpa using same, fun fits => ?_⟩
    have := fits memo stored
    omega
  · cases trap_of_nextStreamIdFor unallocated
/-- How an entry of a partial batch can end: refused as it came, refused after its deposit was
pulled, or created. -/
inductive PartialOutcome (env : Env) (s : State) (sender : Address) (now : ℕ)
    (params : CreateStreamParams) : CreateStreamResult → State → Prop where
  | refused {reason : ContractError}
      (refused : params.withFinalRate.Passes s.maxRatePerSecond sender now → s.config = none) :
      PartialOutcome env s sender now params (failedResult reason) s
  | charged (passes : params.withFinalRate.Passes s.maxRatePerSecond sender now)
      (pulled : TransferAllowed env s sender env.currentContractAddress params.depositAmount)
      (unfit : ¬ params.withFinalRate.MemoFits) :
      PartialOutcome env s sender now params (failedResult .invalidParams)
        (s.pulled env.currentContractAddress sender params.depositAmount)
  | created {id : ℕ} {s' : State}
      (passes : params.withFinalRate.Passes s.maxRatePerSecond sender now)
      (pulled : TransferAllowed env s sender env.currentContractAddress params.depositAmount)
      (persisted : Runs (persistNewStream sender params.withFinalRate) env
        (s.pulled env.currentContractAddress sender params.depositAmount) id s') :
      PartialOutcome env s sender now params { success := true, streamId := some id, error := none }
        s'

theorem createOnePartial_outcome {result : CreateStreamResult}
    (run : Runs (createOnePartial sender now params) env s result s') :
    PartialOutcome env s sender now params result s' := by
  simp only [createOnePartial, runs_bind, runs_attempt] at run
  rcases run with ⟨_, _, ⟨_, rfl, validated⟩ | ⟨_, _, fails, _, rfl, rfl⟩, run⟩
  rotate_left
  · rcases runs_pure.mp run with ⟨rfl, rfl⟩
    refine .refused fun passes => ?_
    have validated : Runs (validateStreamParams sender now params.withFinalRate) env s' () s' :=
      runs_validateStreamParams.mpr ⟨passes, rfl⟩
    exact absurd fails validated.not_fails
  rcases runs_validateStreamParams.mp validated with ⟨passes, rfl⟩
  simp only [runs_bind, runs_attempt] at run
  rcases run with ⟨_, _, ⟨_, rfl, pulled⟩ | ⟨failure, reason, fails, returned, rfl, rfl⟩, run⟩
  rotate_left
  · rcases runs_pure.mp run with ⟨rfl, rfl⟩
    refine .refused fun _ => ?_
    cases failure with
    | error _ => exact unconfigured_of_fails fails
    | trap => cases returned
  rcases runs_pullToken.mp pulled with ⟨⟨_, _, allowed⟩, rfl⟩
  simp only [runs_bind, runs_attempt] at run
  rcases run with ⟨_, _, ⟨_, rfl, persisted⟩ | ⟨failure, reason, fails, returned, rfl, rfl⟩, run⟩
  · rcases runs_pure.mp run with ⟨rfl, rfl⟩
    exact .created passes allowed persisted
  · rcases runs_pure.mp run with ⟨rfl, rfl⟩
    cases failure with
    | error _ =>
        cases returned
        rcases unfit_of_fails fails with ⟨rfl, unfit⟩
        exact .charged passes allowed unfit
    | trap => cases returned

/-- A batch that is not refused as a whole goes through its entries. -/
theorem runs_createStreamsPartial {streams : List CreateStreamParams}
    {results : List CreateStreamResult} :
    Runs (createStreamsPartial sender streams) env s results s' ↔
      env.auth sender = true ∧
        (streams = [] ∨ s.globalEmergencyPaused = false ∧ s.creationPaused = false) ∧
        Runs (createAllPartial sender env.timestamp streams) env s results s' := by
  simp only [createStreamsPartial, runs_bind, runs_requireAuth, runs_ite, runs_pure,
    runs_requireNotCreationPaused, runs_ask, and_assoc, exists_and_left, exists_eq_left,
    exists_const]
  refine and_congr_right fun _ => ?_
  rcases eq_or_ne streams [] with rfl | nonempty
  · simp [createAllPartial]
  · simp [nonempty, and_assoc]

end Wallie.StreamContract
