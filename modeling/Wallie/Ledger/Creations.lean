import Mathlib.Logic.Relation
import Wallie.Ledger.RefineCreate
import Wallie.StreamContract.EntrypointWrites

/-!
# Creations one by one

Whatever entrypoint creates streams, its effect on the records, the ids, the
recipient index and the published creations is that of a sequence of single
creations by one sender.
-/

namespace Wallie.StreamContract

open Fallible

variable {env : Env} {s middle s' : State} {id now : ℕ} {address sender : Address} {done : Unit}
  {params : CreateStreamParams}

/-! ## Creations by one sender -/

/-- What is known of the streams has not changed. -/
structure SameRegistry (s s' : State) : Prop where
  streams : s'.streams = s.streams
  nextStreamId : s'.nextStreamId = s.nextStreamId
  idReservation : s'.idReservation = s.idReservation
  recipientStreams : s'.recipientStreams = s.recipientStreams
  creations : s'.creations = s.creations

/-- A stream of `sender` is created under the id its allocation gives. -/
structure CreatesStream (address sender : Address) (id : ℕ) (params : CreateStreamParams)
    (s s' : State) : Prop where
  allocates : (s.book address).Allocates sender id s'.nextStreamId s'.idReservation
  streams : s'.streams = Function.update s.streams id (some (newStream id sender params))
  recipientStreams :
    s'.recipientStreams = RecipientIndex.add s.recipientStreams params.recipient id
  creations : s'.creations = s.creations ++ [(id, sender)]

/-- Any number of creations by one sender. -/
def CreatesBy (address sender : Address) : State → State → Prop :=
  Relation.ReflTransGen fun s s' =>
    SameRegistry s s' ∨ ∃ id params, CreatesStream address sender id params s s'

namespace CreatesBy

theorem refl (s : State) : CreatesBy address sender s s :=
  Relation.ReflTransGen.refl

theorem trans (first : CreatesBy address sender s middle)
    (second : CreatesBy address sender middle s') : CreatesBy address sender s s' :=
  Relation.ReflTransGen.trans first second

theorem of_same (same : SameRegistry s s') : CreatesBy address sender s s' :=
  Relation.ReflTransGen.single (Or.inl same)

theorem pulled (s : State) (vault source : Address) (amount : ℤ) :
    CreatesBy address sender s (s.pulled vault source amount) :=
  of_same ⟨rfl, rfl, rfl, rfl, rfl⟩

/-- What the single creations preserve, the sequence preserves. -/
theorem preserves (creates : CreatesBy address sender s s') (holds : State → Prop)
    (same : ∀ s s', SameRegistry s s' → holds s → holds s')
    (creation : ∀ s s' id params, CreatesStream address sender id params s s' → holds s → holds s')
    (initially : holds s) : holds s' := by
  unfold CreatesBy at creates
  induction creates with
  | refl => exact initially
  | tail _ last ih =>
      rcases last with unchanged | ⟨id, params, created⟩
      · exact same _ _ unchanged ih
      · exact creation _ _ _ _ created ih

end CreatesBy

theorem creates_persistNewStream (address : Address)
    (run : Runs (persistNewStream sender params) env s id s') : CreatesBy address sender s s' := by
  rcases (runs_persistNewStream address).mp run with ⟨_, next, reservation, allocates, _, rfl⟩
  refine Relation.ReflTransGen.single (Or.inr ⟨id, params, ?_⟩)
  exact ⟨allocates, rfl, rfl, by simp [State.creations, State.withIndex, State.persisted,
    createdEvent, newStream]⟩

theorem creates_persistEach (address : Address) {streams : List CreateStreamParams} {ids : List ℕ}
    (run : Runs (persistEach sender streams) env s ids s') : CreatesBy address sender s s' := by
  induction streams generalizing s ids with
  | nil =>
      rcases runs_pure.mp run with ⟨_, rfl⟩
      exact .refl _
  | cons params rest ih =>
      rcases runs_persistEach_cons.mp run with ⟨_, middle, _, persisted, others, _⟩
      exact (creates_persistNewStream address persisted).trans (ih others)

theorem creates_createStream (address : Address)
    (run : Runs (createStream sender params) env s id s') : CreatesBy address sender s s' := by
  rcases runs_createStream.mp run with ⟨_, _, _, _, persisted⟩
  exact (CreatesBy.pulled _ _ _ _).trans (creates_persistNewStream address persisted)

theorem creates_createStreamRelative (address : Address) {rel : CreateStreamRelativeParams}
    (run : Runs (createStreamRelative sender rel) env s id s') : CreatesBy address sender s s' := by
  rcases createStreamRelative_cases run with ⟨params, _, created⟩
  exact creates_createStream address created

theorem creates_createStreamFromTemplate (address : Address) {templateId : ℕ}
    {recipient : Address} {depositAmount ratePerSecond withdrawDustThreshold : ℤ}
    {memo : Option Bytes} {metadata : Option Metadata} {kind : StreamKind}
    (run : Runs (createStreamFromTemplate sender templateId recipient depositAmount ratePerSecond
      withdrawDustThreshold memo metadata kind) env s id s') : CreatesBy address sender s s' := by
  rcases createStreamFromTemplate_cases run with ⟨rel, _, created⟩
  exact creates_createStreamRelative address created

/-- A clone is a creation by the sender of its source. -/
theorem creates_cloneStream (address : Address) {streamId startTime endTime : ℕ}
    {newRecipient : Address} {deposit : ℤ} {force : Bool}
    (run : Runs (cloneStream streamId newRecipient startTime endTime deposit force) env s id s') :
    ∃ sender, CreatesBy address sender s s' := by
  rcases cloneStream_cases run with ⟨source, params, created, _, _, _, persisted, _, rfl⟩
  refine ⟨source.sender, ?_⟩
  have persists := creates_persistNewStream address persisted
  refine ((CreatesBy.pulled _ _ _ _).trans persists).trans (.of_same ?_)
  exact ⟨rfl, rfl, rfl, rfl, by simp [State.creations]⟩

theorem creates_createStreams (address : Address) {streams : List CreateStreamParams}
    {ids : List ℕ} (run : Runs (createStreams sender streams) env s ids s') :
    CreatesBy address sender s s' := by
  rcases runs_createStreams.mp run with ⟨_, ⟨_, _, rfl⟩ | ⟨_, _, _, _, _, run⟩⟩
  · exact .refl _
  · exact (CreatesBy.pulled _ _ _ _).trans (creates_persistEach address run)

theorem creates_createStreamsRelative (address : Address) {rels : List CreateStreamRelativeParams}
    {ids : List ℕ} (run : Runs (createStreamsRelative sender rels) env s ids s') :
    CreatesBy address sender s s' := by
  rcases createStreamsRelative_cases run with ⟨_, _, rfl⟩ | ⟨_, streams, _, _, created⟩
  · exact .refl _
  · exact creates_createStreams address created

theorem creates_createOnePartial (address : Address) {result : CreateStreamResult}
    (run : Runs (createOnePartial sender now params) env s result s') :
    CreatesBy address sender s s' := by
  cases createOnePartial_outcome run with
  | refused _ => exact .refl _
  | charged _ _ _ => exact .pulled _ _ _ _
  | created _ _ persisted =>
      exact (CreatesBy.pulled _ _ _ _).trans (creates_persistNewStream address persisted)

theorem creates_createAllPartial (address : Address) {streams : List CreateStreamParams}
    {results : List CreateStreamResult}
    (run : Runs (createAllPartial sender now streams) env s results s') :
    CreatesBy address sender s s' := by
  induction streams generalizing s results with
  | nil =>
      rcases runs_pure.mp run with ⟨_, rfl⟩
      exact .refl _
  | cons params rest ih =>
      simp only [createAllPartial, runs_bind, runs_pure] at run
      rcases run with ⟨_, middle, first, _, _, others, _, rfl⟩
      exact (creates_createOnePartial address first).trans (ih others)

theorem creates_createStreamsPartial (address : Address) {streams : List CreateStreamParams}
    {results : List CreateStreamResult}
    (run : Runs (createStreamsPartial sender streams) env s results s') :
    CreatesBy address sender s s' := by
  rcases runs_createStreamsPartial.mp run with ⟨_, _, all⟩
  exact creates_createAllPartial address all

end Wallie.StreamContract
