import Wallie.Properties.FactoryPolicy
import Mathlib.Data.List.Nodup

/-!
# The registry of the factory and its announcements

A batch enters the same ids into the registry as its entries would one by one,
but it announces none of the streams. The registry keeps bare ids: an id stands
for one stream as long as no other stream contract has returned the same one.
-/

namespace Wallie.Factory

open Fallible
open StreamContract (Address CreateStreamParams)

variable {env : Env} {s s' : State} {sender : Address} {streams : List CreateStreamParams}
  {streamIds : List ℕ} {past : List (State × Invocation)}

/-! ## Announcements -/

/-- The event is a `FactoryStreamCreated`. -/
def Event.announcesStream : Event → Bool
  | .fctStrm .. => true
  | _ => false

/-- The sequence of `FactoryStreamCreated` events. -/
def State.announcements (s : State) : List Event :=
  s.events.filter Event.announcesStream

@[simp]
theorem State.announcements_withCreation {creation : Creation} :
    (s.withCreation creation).announcements = s.announcements :=
  rfl

@[simp]
theorem State.announcements_withSingle {policy : FactoryPolicy} {params : CreateStreamParams}
    {streamId : ℕ} :
    (s.withSingle policy sender params streamId).announcements = s.announcements ++
      [.fctStrm streamId sender params.recipient params.depositAmount params.ratePerSecond] := by
  simp [State.announcements, State.withSingle, Event.announcesStream]

/-- The same host, with a stream contract that grants the next request under `streamId`. -/
def Env.answering (env : Env) (streamId : ℕ) : Env :=
  { env with createStream := fun _ _ _ => .created streamId }

/-- The entries go through `create_stream` one by one, and the stream contract returns the ids
listed. -/
inductive OneByOne (env : Env) (sender : Address) :
    State → List CreateStreamParams → List ℕ → State → Prop where
  | done {s : State} : OneByOne env sender s [] [] s
  | next {s middle s' : State} {params : CreateStreamParams} {rest : List CreateStreamParams}
      {streamId : ℕ} {others : List ℕ}
      (created : Runs (createStream sender params) (env.answering streamId) s streamId middle)
      (continued : OneByOne env sender middle rest others s') :
      OneByOne env sender s (params :: rest) (streamId :: others) s'

/-- Each entry that goes through alone is registered and announced. -/
theorem OneByOne.effects (singles : OneByOne env sender s streams streamIds s') :
    s'.factoryStreamIds = s.factoryStreamIds ++ streamIds ∧
      s'.announcements.length = s.announcements.length + streams.length := by
  induction singles with
  | done => simp
  | next created _ ih =>
      rcases runs_createStream.mp created with ⟨policy, _, _, _, _, _, rfl⟩
      rcases ih with ⟨registered, announced⟩
      constructor
      · rw [registered]
        simp [State.withSingle, State.withCreation]
      · rw [announced]
        simp only [State.announcements_withSingle, List.length_append, List.length_cons,
          List.length_nil]
        omega

/-- Entries that the policy admits go through one by one: registering a stream changes neither
the policy nor the allowlist. -/
theorem oneByOne_of_admits {policy : FactoryPolicy} (loaded : s.policy = some policy)
    (authorised : env.auth sender = true) (unpaused : policy.creationPaused = false)
    (admitted : ∀ params ∈ streams, policy.Admits s.allowlist params)
    (answered : streamIds.length = streams.length) :
    ∃ s', OneByOne env sender s streams streamIds s' := by
  induction streams generalizing s streamIds with
  | nil =>
      rw [List.eq_nil_of_length_eq_zero answered]
      exact ⟨s, .done⟩
  | cons params rest ih =>
      cases streamIds with
      | nil => cases answered
      | cons streamId others =>
          rcases List.forall_mem_cons.mp admitted with ⟨first, later⟩
          have created : Runs (createStream sender params) (env.answering streamId) s streamId
              (s.withSingle policy sender params streamId) :=
            runs_createStream.mpr ⟨policy, loaded, unpaused, first, authorised, rfl, rfl⟩
          rcases ih (s := s.withSingle policy sender params streamId) loaded later
            (Nat.succ.inj answered) with ⟨s', continued⟩
          exact ⟨s', .next created continued⟩

/-- A batch registers its ids and announces nothing. -/
theorem batch_effects (run : Runs (createStreams sender streams) env s streamIds s') :
    s'.factoryStreamIds = s.factoryStreamIds ++ streamIds ∧
      s'.announcements = s.announcements := by
  rcases runs_createStreams.mp run with ⟨_, _, _, _, _, _, ⟨_, rfl, rfl⟩ | ⟨_, _, rfl⟩⟩
  · exact ⟨(List.append_nil _).symm, rfl⟩
  · exact ⟨rfl, rfl⟩

/-- A batch that led to `s'` has the registry and the announcements of its entries one by one. -/
def SameEffects (env : Env) (sender : Address) (s : State) (streams : List CreateStreamParams)
    (streamIds : List ℕ) (s' : State) : Prop :=
  ∃ single, OneByOne env sender s streams streamIds single ∧
    s'.factoryStreamIds = single.factoryStreamIds ∧ s'.announcements = single.announcements

/-- The registry after a batch is that of its entries one by one. The announcements are so
exactly when the batch is empty: one by one each stream is announced, in a batch none is. -/
theorem batch_effects_are_single_effects
    (run : Runs (createStreams sender streams) env s streamIds s')
    (answered : streamIds.length = streams.length) :
    (∃ single, OneByOne env sender s streams streamIds single ∧
        s'.factoryStreamIds = single.factoryStreamIds) ∧
      (SameEffects env sender s streams streamIds s' ↔ streams = []) := by
  rcases runs_createStreams.mp run with ⟨policy, loaded, authorised, unpaused, admitted, _, _⟩
  rcases oneByOne_of_admits loaded authorised unpaused admitted answered with ⟨single, singles⟩
  rcases batch_effects run with ⟨registered, announced⟩
  have sameRegistry : s'.factoryStreamIds = single.factoryStreamIds :=
    registered.trans singles.effects.1.symm
  refine ⟨⟨single, singles, sameRegistry⟩, ?_, ?_⟩
  · rintro ⟨other, others, _, same⟩
    have length := others.effects.2
    rw [← same, announced] at length
    exact List.eq_nil_of_length_eq_zero (by omega)
  · rintro rfl
    refine ⟨single, singles, sameRegistry, ?_⟩
    cases singles
    exact announced

namespace Sample

/-- Two streams for the recipient that the sample factory allows. -/
def pair : List CreateStreamParams := [params 1000, params 1500]

/-- The sample factory before its batch. -/
def beforeBatch : State := ClockedSystem.play Invocation.next (created.take 4) .deployed

/-- The stream contract hands out `1` and `2` to the batch. -/
def batchHost : Env := (invocation 1 1 (.createStreams (.account 1) pair)).env

def afterBatch : State :=
  beforeBatch.withCreation
    { streamContract := .contract 1, sender := .account 1, streams := pair, streamIds := [1, 2] }

theorem runs_batch :
    Runs (createStreams (.account 1) pair) batchHost beforeBatch [1, 2] afterBatch :=
  rfl

end Sample

theorem batch_effects_are_single_effects_pair :
    Sample.afterBatch.factoryStreamIds = [0, 1, 2] ∧
      ¬ SameEffects Sample.batchHost (.account 1) Sample.beforeBatch Sample.pair [1, 2]
        Sample.afterBatch := by
  refine ⟨by decide, fun same => ?_⟩
  have empty := (batch_effects_are_single_effects Sample.runs_batch rfl).2.mp same
  cases empty

/-- A batch of two streams is registered like its entries, and neither of them is announced. -/
theorem not_batch_effects_are_single_effects :
    ¬ ∀ (env : Env) (sender : Address) (s : State) (streams : List CreateStreamParams)
      (streamIds : List ℕ) (s' : State),
      Runs (createStreams sender streams) env s streamIds s' →
        streamIds.length = streams.length → SameEffects env sender s streams streamIds s' := by
  intro agree
  rcases agree _ _ _ _ _ _ Sample.runs_batch rfl with ⟨single, singles, _, same⟩
  have length := singles.effects.2
  rw [← same] at length
  exact absurd length (by decide)

/-! ## Duplicates -/

/-- The ids that were returned, each with the stream contract that returned it. -/
def State.issued (s : State) : List (Address × ℕ) :=
  s.creations.flatMap fun creation =>
    creation.streamIds.map fun streamId => (creation.streamContract, streamId)

/-- The ids that one stream contract returned. -/
def State.issuedBy (s : State) (streamContract : Address) : List ℕ :=
  (s.creations.filter fun creation => creation.streamContract = streamContract).flatMap
    Creation.streamIds

theorem State.issuedBy_eq (streamContract : Address) :
    s.issuedBy streamContract =
      (s.issued.filter fun entry => entry.1 = streamContract).map Prod.snd := by
  unfold State.issuedBy State.issued
  induction s.creations with
  | nil => rfl
  | cons creation rest ih =>
      rw [List.flatMap_cons, List.filter_append, List.map_append, ← ih]
      by_cases same : creation.streamContract = streamContract
      · simp [same, List.filter_map, Function.comp_def]
      · simp [same, List.filter_map, Function.comp_def]

theorem mem_issuedBy {streamContract : Address} {streamId : ℕ} :
    streamId ∈ s.issuedBy streamContract ↔ (streamContract, streamId) ∈ s.issued := by
  simp [State.issuedBy_eq]

/-- Each stream contract returns an id at most once exactly when no pair is repeated. -/
theorem nodup_issued_iff :
    s.issued.Nodup ↔ ∀ streamContract, (s.issuedBy streamContract).Nodup := by
  constructor
  · intro distinct streamContract
    rw [State.issuedBy_eq]
    refine (distinct.filter _).map_on ?_
    rintro ⟨first, _⟩ member ⟨second, _⟩ member' same
    have byFirst : first = streamContract := by simpa using (List.mem_filter.mp member).2
    have bySecond : second = streamContract := by simpa using (List.mem_filter.mp member').2
    exact Prod.ext (byFirst.trans bySecond.symm) same
  · intro fresh
    rw [List.nodup_iff_count_le_one]
    intro entry
    have once := List.Nodup.of_map Prod.snd ((State.issuedBy_eq entry.1).subst (fresh entry.1))
    have bound := List.nodup_iff_count_le_one.mp once entry
    rwa [List.count_filter (by simp)] at bound

/-- In every run in which no stream contract has returned an id twice, the registry holds the
returned ids in their order, a stream contract and an id identify one created stream, and the
registry holds an id twice exactly when two stream contracts have returned it. -/
theorem registry_without_duplicates (recorded : Recorded past s)
    (fresh : ∀ streamContract, (s.issuedBy streamContract).Nodup) :
    s.factoryStreamIds = s.issued.map Prod.snd ∧ s.issued.Nodup ∧
      (s.factoryStreamIds.Nodup ↔
        ∀ first second streamId, streamId ∈ s.issuedBy first → streamId ∈ s.issuedBy second →
          first = second) := by
  have registry : s.factoryStreamIds = s.issued.map Prod.snd := by
    rw [(accounts_of_recorded recorded).registry]
    simp [State.issued, List.map_flatMap, Function.comp_def]
  have distinct := nodup_issued_iff.mpr fresh
  refine ⟨registry, distinct, ?_⟩
  rw [registry, List.nodup_map_iff_inj_on distinct]
  simp only [mem_issuedBy]
  constructor
  · intro injective first second streamId byFirst bySecond
    exact congrArg Prod.fst (injective _ byFirst _ bySecond rfl)
  · intro separate entry member other member' same
    rcases entry with ⟨first, streamId⟩
    rcases other with ⟨second, _⟩
    cases same
    rw [separate first second streamId member member']

theorem registry_without_duplicates_created :
    (ClockedSystem.play Invocation.next Sample.created .deployed).factoryStreamIds.Nodup := by
  have distinct : (ClockedSystem.play Invocation.next Sample.created .deployed).issued.Nodup := by
    decide
  refine (registry_without_duplicates (recorded_played Sample.created)
    (nodup_issued_iff.mp distinct)).2.2.mpr ?_
  intro first second streamId byFirst bySecond
  have single : ∀ entry ∈ (ClockedSystem.play Invocation.next Sample.created .deployed).issued,
      entry.1 = .contract 1 := by
    decide
  have isFirst := single _ (mem_issuedBy.mp byFirst)
  exact isFirst.trans (single _ (mem_issuedBy.mp bySecond)).symm

namespace Sample

/-- The admin replaces the stream contract, and the new one starts its ids at `0` too. -/
def switched : List Invocation :=
  created ++ [invocation 0 0 (.setStreamContract (.contract 2)),
    invocation 1 0 (.createStream (.account 1) (params 1000))]

end Sample

/-- Two stream contracts return the id `0` once each, and the registry holds it twice. -/
theorem not_registry_without_duplicates :
    ¬ ∀ (past : List (State × Invocation)) (s : State), Recorded past s →
      (∀ streamContract, (s.issuedBy streamContract).Nodup) → s.factoryStreamIds.Nodup := by
  intro unique
  have distinct : (ClockedSystem.play Invocation.next Sample.switched .deployed).issued.Nodup := by
    decide
  have single := unique _ _ (recorded_played Sample.switched) (nodup_issued_iff.mp distinct)
  exact absurd single (by decide)

end Wallie.Factory
