import Wallie.Ledger.Creations
import Wallie.Ledger.Emissions
import Wallie.Ledger.RunInvariant
import Wallie.Lib.AscendingList

/-!
# The registry of streams

Which streams exist is kept three times: as the stored records, as the index of
the recipients, and as the log of the creations that were published. The three
agree in every reachable state, and an id in the log is never handed out again.
-/

namespace Wallie.StreamContract

open Fallible

variable {address sender recipient : Address} {permitted : State → Env → Call → Prop} {env : Env}
  {s s' : State} {now id : ℕ} {stream stream' : Stream} {move : Move} {action : Action}
  {call : Call} {held : ℤ} {done : Unit}

/-! ## The index -/

theorem searchPosition_eq (ids : List ℕ) (id : ℕ) :
    searchPosition ids id = AscendingList.place ids id := by
  unfold searchPosition binarySearch
  dsimp only
  split
  · next found =>
      split at found
      · exact (Except.ok.inj found).symm
      · cases found
  · next missing =>
      split at missing
      · cases missing
      · exact (Except.error.inj missing).symm

theorem insertSorted_eq (ids : List ℕ) (id : ℕ) :
    insertSorted ids id = ids.orderedInsert (· ≤ ·) id := by
  rw [insertSorted, searchPosition_eq, AscendingList.insertIdx_place]

theorem binarySearch_of_mem {ids : List ℕ} (ascending : ids.Pairwise (· < ·)) (member : id ∈ ids) :
    binarySearch ids id = .ok (AscendingList.place ids id) :=
  if_pos ((AscendingList.getElem?_place ascending).mpr member)

theorem binarySearch_of_not_mem {ids : List ℕ} (ascending : ids.Pairwise (· < ·))
    (missing : id ∉ ids) : binarySearch ids id = .error (AscendingList.place ids id) :=
  if_neg (mt (AscendingList.getElem?_place ascending).mp missing)

theorem eraseIdx_of_mem {ids : List ℕ} (ascending : ids.Pairwise (· < ·)) (member : id ∈ ids) :
    ids.eraseIdx (AscendingList.place ids id) = ids.erase id :=
  AscendingList.eraseIdx_place ((AscendingList.getElem?_place ascending).mpr member)

theorem removeSorted_eq {ids : List ℕ} (ascending : ids.Pairwise (· < ·)) (id : ℕ) :
    removeSorted ids id = ids.erase id := by
  unfold removeSorted
  by_cases member : id ∈ ids
  · rw [binarySearch_of_mem ascending member]
    exact eraseIdx_of_mem ascending member
  · rw [binarySearch_of_not_mem ascending member]
    exact (List.erase_of_not_mem member).symm

namespace RecipientIndex

/-- The index without one stream of `recipient`. -/
def remove (index : RecipientIndex) (recipient : Address) (streamId : ℕ) : RecipientIndex :=
  Function.update index recipient (removeSorted (index recipient) streamId)

/-- The index lists the ids of the streams of every recipient in ascending order. -/
structure Exact (index : RecipientIndex) (streams : ℕ → Option Stream) : Prop where
  ascending : ∀ recipient, (index recipient).Pairwise (· < ·)
  mem_iff : ∀ recipient id, id ∈ index recipient ↔
    ∃ stream, streams id = some stream ∧ stream.recipient = recipient

variable {index : RecipientIndex} {streams streams' : ℕ → Option Stream}

theorem Exact.not_mem (exact_ : index.Exact streams) (absent : streams id = none)
    (recipient : Address) : id ∉ index recipient := by
  intro member
  rcases (exact_.mem_iff recipient id).mp member with ⟨stream, stored, _⟩
  rw [absent] at stored
  cases stored

theorem Exact.congr (exact_ : index.Exact streams)
    (same : ∀ id, (streams' id).map Stream.recipient = (streams id).map Stream.recipient) :
    index.Exact streams' where
  ascending := exact_.ascending
  mem_iff := by
    intro recipient id
    rw [exact_.mem_iff, ← Option.map_eq_some_iff, ← Option.map_eq_some_iff, same]

theorem Exact.add (exact_ : index.Exact streams) (absent : streams id = none) (stream : Stream) :
    (index.add stream.recipient id).Exact (Function.update streams id (some stream)) where
  ascending := by
    intro recipient
    rcases eq_or_ne recipient stream.recipient with rfl | other
    · rw [RecipientIndex.add, Function.update_self, insertSorted_eq]
      exact AscendingList.pairwise_orderedInsert (exact_.ascending _) (exact_.not_mem absent _)
    · rw [RecipientIndex.add, Function.update_of_ne other]
      exact exact_.ascending recipient
  mem_iff := by
    intro recipient key
    have listed : key ∈ index.add stream.recipient id recipient ↔
        key = id ∧ stream.recipient = recipient ∨ key ∈ index recipient := by
      rcases eq_or_ne recipient stream.recipient with rfl | other
      · rw [RecipientIndex.add, Function.update_self, insertSorted_eq, List.mem_orderedInsert,
          and_iff_left rfl]
      · rw [RecipientIndex.add, Function.update_of_ne other]
        exact (or_iff_right fun both => other both.2.symm).symm
    rw [listed, exact_.mem_iff]
    rcases eq_or_ne key id with rfl | distinct
    · simp [absent]
    · simp [distinct]

theorem Exact.remove (exact_ : index.Exact streams) (stored : streams id = some stream) :
    (index.remove stream.recipient id).Exact (Function.update streams id none) where
  ascending := by
    intro recipient
    rcases eq_or_ne recipient stream.recipient with rfl | other
    · rw [RecipientIndex.remove, Function.update_self, removeSorted_eq (exact_.ascending _)]
      exact (exact_.ascending _).erase id
    · rw [RecipientIndex.remove, Function.update_of_ne other]
      exact exact_.ascending recipient
  mem_iff := by
    intro recipient key
    have listed : key ∈ index.remove stream.recipient id recipient ↔
        key ∈ index recipient ∧ ¬ (key = id ∧ recipient = stream.recipient) := by
      rcases eq_or_ne recipient stream.recipient with rfl | other
      · rw [RecipientIndex.remove, Function.update_self, removeSorted_eq (exact_.ascending _),
          (exact_.ascending _).nodup.mem_erase_iff]
        tauto
      · rw [RecipientIndex.remove, Function.update_of_ne other]
        exact (and_iff_left fun both => other both.2).symm
    rw [listed, exact_.mem_iff]
    rcases eq_or_ne key id with rfl | distinct
    · simp only [stored, Option.some.injEq, Function.update_self]
      grind
    · simp [distinct]

end RecipientIndex

/-! ## Parties -/

/-- The sender and the recipient of a stream. -/
def Stream.parties (stream : Stream) : Address × Address :=
  (stream.sender, stream.recipient)

/-- Only a rotation changes who takes part in a stream. -/
theorem Stream.Moves.parties (moves : stream.Moves now move stream')
    (unrotated : ∀ recipient, move ≠ .rotate recipient) : stream'.parties = stream.parties := by
  cases moves with
  | rotate => exact absurd rfl (unrotated _)
  | withdraw _ _ _ _ _ _ | topUp _ _ _ _ _ | raiseRate _ _ _ _ | lowerRate _ _ _ _ _ _ _
  | reprice _ _ | shorten _ _ _ _ _ _ _ _ | extend _ _ _ _ _ | pause _ _ | resume _ _ | cancel _ _
  | settle _ _ _ | keeperCancel _ _ _ _ => rfl

/-- The same streams are stored, between the same parties. -/
def Book.SameParties (book book' : Book) : Prop :=
  ∀ id, (book'.streams id).map Stream.parties = (book.streams id).map Stream.parties

/-- The action creates and closes no stream and rotates no recipient. -/
def Action.KeepsParties : Action → Prop
  | create _ _ | close _ => False
  | change _ move => ∀ recipient, move ≠ .rotate recipient
  | _ => True

theorem Book.Steps.sameParties {book book' : Book} (step : book.Steps now action book')
    (keeps : action.KeepsParties) : book.SameParties book' := by
  intro key
  cases step with
  | create _ _ _ | close _ _ => exact absurd keeps not_false
  | @change changed before after _ _ stored moves _ _ =>
      rcases eq_or_ne key changed with rfl | other
      · simp [Book.moved, stored, moves.parties keeps]
      · simp [Book.moved, other]
  | reserve _ | release | reclaim _ _ | sweep _ _ | receive _ => rfl

/-- A call that does not write the index keeps the parties. -/
theorem Call.Emits.keepsParties (emits : call.Emits held action)
    (unindexed : .recipientStreams ∉ call.writes) : action.KeepsParties := by
  cases action with
  | create id deposit => cases call <;> simp [Emits, Call.writes] at emits unindexed
  | close id =>
      rcases emits.closes with rfl | rfl
      · simp [Call.writes] at unindexed
      · simp [Call.writes] at unindexed
  | change id move =>
      rintro recipient rfl
      cases emits.changing
      simp [Call.writes] at unindexed
  | reserve _ _ | release _ | reclaim _ | sweep _ | receive => trivial

/-! ## The registry -/

/-- The records, the index and the log of the creations agree. -/
structure State.RegistrySound (address : Address) (s : State) : Prop where
  index : RecipientIndex.Exact s.recipientStreams s.streams
  distinct : (s.creations.map Prod.fst).Nodup
  used : ∀ creation ∈ s.creations, ¬ (s.book address).Fresh creation.1
  logged : ∀ id stream, s.streams id = some stream → (id, stream.sender) ∈ s.creations

/-- The ids of a state are sound and those still to be handed out are not in use. -/
structure State.IdsSound (address : Address) (s : State) : Prop where
  reserves : (s.book address).Reserves
  blank : ∀ id, (s.book address).Fresh id → s.streams id = none

theorem Book.WellFormed.idsSound (formed : (s.book address).WellFormed now) :
    s.IdsSound address :=
  ⟨formed.reserves, fun id fresh => (formed.blank id fresh).1⟩

theorem SameRegistry.fresh (same : SameRegistry s s') (fresh : (s'.book address).Fresh id) :
    (s.book address).Fresh id := by
  simpa only [Book.Fresh, State.book, same.nextStreamId, same.idReservation] using fresh

theorem SameRegistry.idsSound (same : SameRegistry s s') (sound : s.IdsSound address) :
    s'.IdsSound address where
  reserves := by
    rcases sound.reserves with ⟨unconsumed, below, disjoint⟩
    constructor
    all_goals simpa only [State.book, same.nextStreamId, same.idReservation]
  blank := by
    intro id fresh
    rw [same.streams]
    exact sound.blank id (same.fresh fresh)

theorem SameRegistry.registrySound (same : SameRegistry s s') (sound : s.RegistrySound address) :
    s'.RegistrySound address := by
  rcases sound with ⟨index, distinct, used, logged⟩
  constructor
  · rwa [same.recipientStreams, same.streams]
  · rwa [same.creations]
  · rw [same.creations]
    exact fun creation member fresh => used creation member (same.fresh fresh)
  · rwa [same.creations, same.streams]

namespace CreatesStream

variable {params : CreateStreamParams}

theorem fresh (creation : CreatesStream address sender id params s s') (ids : s.IdsSound address) :
    (s.book address).Fresh id :=
  creation.allocates.fresh ids.reserves

theorem fresh_of_fresh (creation : CreatesStream address sender id params s s')
    (ids : s.IdsSound address) {key : ℕ} (fresh : (s'.book address).Fresh key) :
    (s.book address).Fresh key ∧ key ≠ id := by
  have fresh : ((s.book address).created (newStream id sender params) s'.nextStreamId
      s'.idReservation 0).Fresh key := fresh
  exact creation.allocates.fresh_of_fresh ids.reserves fresh

theorem idsSound (creation : CreatesStream address sender id params s s')
    (ids : s.IdsSound address) : s'.IdsSound address where
  reserves := by
    rcases creation.allocates.reserves_created ids.reserves (newStream id sender params) 0 with
      ⟨unconsumed, below, disjoint⟩
    exact ⟨unconsumed, below, disjoint⟩
  blank := by
    intro key fresh
    rcases creation.fresh_of_fresh ids fresh with ⟨fresh, other⟩
    rw [creation.streams, Function.update_of_ne other]
    exact ids.blank key fresh

theorem registrySound (creation : CreatesStream address sender id params s s')
    (ids : s.IdsSound address) (sound : s.RegistrySound address) : s'.RegistrySound address where
  index := by
    rw [creation.recipientStreams, creation.streams]
    exact sound.index.add (ids.blank id (creation.fresh ids)) (newStream id sender params)
  distinct := by
    have unused : id ∉ s.creations.map Prod.fst := by
      intro member
      rcases List.mem_map.mp member with ⟨logged, found, rfl⟩
      exact sound.used logged found (creation.fresh ids)
    rw [creation.creations, List.map_append]
    exact sound.distinct.append (List.nodup_singleton _) (List.disjoint_singleton.mpr unused)
  used := by
    rw [creation.creations]
    intro logged member fresh
    rcases creation.fresh_of_fresh ids fresh with ⟨fresh, other⟩
    rcases List.mem_append.mp member with member | member
    · exact sound.used logged member fresh
    · rw [List.mem_singleton.mp member] at other
      exact other rfl
  logged := by
    intro key stream stored
    rw [creation.streams] at stored
    rw [creation.creations]
    rcases eq_or_ne key id with rfl | other
    · rw [Function.update_self, Option.some.injEq] at stored
      subst stored
      exact List.mem_append_right _ List.mem_cons_self
    · rw [Function.update_of_ne other] at stored
      exact List.mem_append_left _ (sound.logged key stream stored)

end CreatesStream

/-- Creations keep the registry sound. -/
theorem CreatesBy.registrySound (creates : CreatesBy address sender s s')
    (ids : s.IdsSound address) (sound : s.RegistrySound address) : s'.RegistrySound address := by
  have both := creates.preserves (fun s => s.IdsSound address ∧ s.RegistrySound address) ?_ ?_
    ⟨ids, sound⟩
  · exact both.2
  · exact fun s s' same both => ⟨same.idsSound both.1, same.registrySound both.2⟩
  · exact fun s s' id params creation both =>
      ⟨creation.idsSound both.1, creation.registrySound both.1 both.2⟩

/-! ## The calls -/

/-- Only creations are published as such, and creations are indexed. -/
theorem Call.indexes_of_publishes (publishes : .creations ∈ call.writes) :
    .recipientStreams ∈ call.writes := by
  cases call <;> simp_all [Call.writes]

/-- A call hands out no id that was not fresh. -/
theorem Invocation.fresh (invocation : Invocation address)
    (run : Runs invocation.call.run invocation.env s () s')
    (formed : (s.book address).WellFormed invocation.env.timestamp)
    (fresh : (s'.book address).Fresh id) : (s.book address).Fresh id := by
  have step : Input.Steps s (.invoke invocation) s' := (commit_of_runs run).symm
  have kept := (invocation.runs step formed).preserves
    (fun book => book.WellFormed invocation.env.timestamp ∧
      (book.Fresh id → (s.book address).Fresh id)) ?_ ⟨formed, fun fresh => fresh⟩
  · exact kept.2 fresh
  · intro book action book' _ step both
    exact ⟨step.wellFormed both.1, fun fresh => both.2 (step.fresh both.1.reserves fresh)⟩

/-- A call that does not write the index keeps the streams and their parties. -/
theorem Invocation.sameParties (invocation : Invocation address)
    (unindexed : .recipientStreams ∉ invocation.call.writes)
    (run : Runs invocation.call.run invocation.env s () s')
    (formed : (s.book address).WellFormed invocation.env.timestamp) :
    (s.book address).SameParties (s'.book address) := by
  have step : Input.Steps s (.invoke invocation) s' := (commit_of_runs run).symm
  refine (invocation.runs step formed).preserves (s.book address).SameParties ?_ fun _ => rfl
  intro book action book' takes step same key
  have keeps := takes.1.emits.keepsParties unindexed
  rw [step.sameParties keeps key, same key]

namespace State.RegistrySound

theorem unindexed (sound : s.RegistrySound address) (invocation : Invocation address)
    (unindexed : .recipientStreams ∉ invocation.call.writes)
    (run : Runs invocation.call.run invocation.env s () s')
    (formed : (s.book address).WellFormed invocation.env.timestamp) :
    s'.RegistrySound address := by
  have writes := invocation.call.onlyWrites run
  have creations := writes.creations (mt Call.indexes_of_publishes unindexed)
  have parties := invocation.sameParties unindexed run formed
  constructor
  · rw [writes.recipientStreams unindexed]
    refine sound.index.congr fun id => ?_
    have same := congrArg (Option.map Prod.snd) (parties id)
    rw [Option.map_map, Option.map_map] at same
    exact same
  · rw [creations]
    exact sound.distinct
  · rw [creations]
    exact fun creation member fresh =>
      sound.used creation member (invocation.fresh run formed fresh)
  · intro id stream' stored'
    have same := parties id
    have found : (s'.book address).streams id = some stream' := stored'
    rw [found, Option.map_some, eq_comm, Option.map_eq_some_iff] at same
    rcases same with ⟨stream, stored, same⟩
    have sender : stream.sender = stream'.sender := congrArg Prod.fst same
    rw [creations, ← sender]
    exact sound.logged id stream stored

/-- A call that removes one stream. -/
theorem closed (sound : s.RegistrySound address) (stored : s.streams id = some stream)
    (streams : s'.streams = Function.update s.streams id none)
    (recipientStreams :
      s'.recipientStreams = RecipientIndex.remove s.recipientStreams stream.recipient id)
    (creations : s'.creations = s.creations)
    (fresh : ∀ key, (s'.book address).Fresh key → (s.book address).Fresh key) :
    s'.RegistrySound address := by
  constructor
  · rw [recipientStreams, streams]
    exact sound.index.remove stored
  · rw [creations]
    exact sound.distinct
  · rw [creations]
    exact fun creation member still => sound.used creation member (fresh _ still)
  · intro key stream' stored'
    rw [streams] at stored'
    rcases eq_or_ne key id with rfl | other
    · simp at stored'
    · rw [Function.update_of_ne other] at stored'
      rw [creations]
      exact sound.logged key stream' stored'

/-- A call that replaces the recipient of one stream. -/
theorem rotated (sound : s.RegistrySound address) (stored : s.streams id = some stream)
    (streams : s'.streams = Function.update s.streams id (some { stream with recipient }))
    (recipientStreams : s'.recipientStreams = RecipientIndex.add
      (RecipientIndex.remove s.recipientStreams stream.recipient id) recipient id)
    (creations : s'.creations = s.creations)
    (fresh : ∀ key, (s'.book address).Fresh key → (s.book address).Fresh key) :
    s'.RegistrySound address := by
  constructor
  · rw [recipientStreams, streams]
    have removed := sound.index.remove stored
    have added := removed.add (Function.update_self _ _ _) { stream with recipient }
    rwa [Function.update_idem] at added
  · rw [creations]
    exact sound.distinct
  · rw [creations]
    exact fun creation member still => sound.used creation member (fresh _ still)
  · intro key stream' stored'
    rw [streams] at stored'
    rw [creations]
    rcases eq_or_ne key id with rfl | other
    · rw [Function.update_self, Option.some.injEq] at stored'
      subst stored'
      exact sound.logged key stream stored
    · rw [Function.update_of_ne other] at stored'
      exact sound.logged key stream' stored'

end State.RegistrySound

/-- What a closing call does to the records and to the index. -/
theorem removes_of_closes
    (closes : call = .closeCompletedStream id ∨ call = .closeCancelledStream id)
    (run : Runs call.run env s done s') :
    ∃ stream, s.streams id = some stream ∧ s'.streams = Function.update s.streams id none ∧
      s'.recipientStreams = RecipientIndex.remove s.recipientStreams stream.recipient id := by
  rcases closes with rfl | rfl
  · rcases closeCompletedStream_cases run with ⟨stream, stored, -, rfl⟩
    exact ⟨stream, stored, rfl, rfl⟩
  · rcases runs_closeCancelledStream.mp run with ⟨stream, stored, -, -, rfl⟩
    exact ⟨stream, stored, rfl, rfl⟩

/-- What the acceptance of a recipient update does to the records and to the index. -/
theorem rotates_of_acceptRecipientUpdate (run : Runs (acceptRecipientUpdate id) env s done s') :
    ∃ stream recipient, s.streams id = some stream ∧
      (s.pendingRecipientUpdate id).map PendingRecipientUpdate.proposedRecipient = some recipient ∧
      s'.streams = Function.update s.streams stream.streamId (some { stream with recipient }) ∧
      s'.recipientStreams = RecipientIndex.add
        (RecipientIndex.remove s.recipientStreams stream.recipient id) recipient id := by
  rcases acceptRecipientUpdate_cases run with ⟨stream, pending, -, stored, waiting, -, rfl⟩
  exact ⟨stream, pending.proposedRecipient, stored, by rw [waiting, Option.map_some], rfl, rfl⟩

/-- Every creating entrypoint creates streams of one sender. -/
theorem Call.createsBy (creates : .creations ∈ call.writes) (run : Runs call.run env s done s')
    (address : Address) : ∃ sender, CreatesBy address sender s s' := by
  cases call <;> simp only [Call.writes, List.mem_cons, reduceCtorEq, List.not_mem_nil, or_false,
    or_true, or_self] at creates
  case createStream sender params =>
    rcases runs_effect.mp run with ⟨_, run⟩
    exact ⟨sender, creates_createStream address run⟩
  case createStreamRelative sender params =>
    rcases runs_effect.mp run with ⟨_, run⟩
    exact ⟨sender, creates_createStreamRelative address run⟩
  case createStreams sender streams =>
    rcases runs_effect.mp run with ⟨_, run⟩
    exact ⟨sender, creates_createStreams address run⟩
  case createStreamsRelative sender rels =>
    rcases runs_effect.mp run with ⟨_, run⟩
    exact ⟨sender, creates_createStreamsRelative address run⟩
  case createStreamsPartial sender streams =>
    rcases runs_effect.mp run with ⟨_, run⟩
    exact ⟨sender, creates_createStreamsPartial address run⟩
  case createStreamFromTemplate sender _ _ _ _ _ _ _ _ =>
    rcases runs_effect.mp run with ⟨_, run⟩
    exact ⟨sender, creates_createStreamFromTemplate address run⟩
  case cloneStream =>
    rcases runs_effect.mp run with ⟨_, run⟩
    exact creates_cloneStream address run

/-- The calls that write the index create streams, close one, or rotate a recipient. -/
theorem Call.indexed_cases (indexed : .recipientStreams ∈ call.writes) :
    .creations ∈ call.writes ∨
      (∃ id, call = .closeCompletedStream id ∨ call = .closeCancelledStream id) ∨
      ∃ id, call = .acceptRecipientUpdate id := by
  cases call <;> simp_all [Call.writes]

/-- Every call keeps the registry sound. -/
theorem State.RegistrySound.runs (sound : s.RegistrySound address) (invocation : Invocation address)
    (run : Runs invocation.call.run invocation.env s () s')
    (formed : (s.book address).WellFormed invocation.env.timestamp) :
    s'.RegistrySound address := by
  by_cases indexed : .recipientStreams ∈ invocation.call.writes
  · rcases Call.indexed_cases indexed with creates | ⟨id, closes⟩ | ⟨id, accepts⟩
    · rcases Call.createsBy creates run address with ⟨sender, creates⟩
      exact creates.registrySound formed.idsSound sound
    · have unpublished : .creations ∉ invocation.call.writes := by
        rcases closes with same | same <;> simp [same, Call.writes]
      have creations := (invocation.call.onlyWrites run).creations unpublished
      rcases removes_of_closes closes run with ⟨stream, stored, streams, recipientStreams⟩
      exact sound.closed stored streams recipientStreams creations
        fun key => invocation.fresh run formed
    · have unpublished : .creations ∉ invocation.call.writes := by simp [accepts, Call.writes]
      have creations := (invocation.call.onlyWrites run).creations unpublished
      have fresh : ∀ key, (s'.book address).Fresh key → (s.book address).Fresh key :=
        fun key => invocation.fresh run formed
      rw [accepts] at run
      rcases rotates_of_acceptRecipientUpdate run with
        ⟨stream, recipient, stored, _, streams, recipientStreams⟩
      have keyed : stream.streamId = id := (formed.records id stream stored).streamId
      subst keyed
      exact sound.rotated stored streams recipientStreams creations fresh
  · exact sound.unindexed invocation indexed run formed

theorem FreshlyInitialised.registrySound {instant : ℕ}
    (fresh : FreshlyInitialised address instant s) : s.RegistrySound address := by
  rcases fresh.initialised with ⟨env, token, admin, balances, allowances, _, _, _, run⟩
  have writes := (Call.init token admin).onlyWrites run
  have streams : s.streams = fun _ => none := writes.streams (by simp [Call.writes])
  have index : s.recipientStreams = fun _ => [] := writes.recipientStreams (by simp [Call.writes])
  have creations : s.creations = [] := writes.creations (by simp [Call.writes])
  constructor
  · rw [index, streams]
    constructor <;> simp
  · simp [creations]
  · simp [creations]
  · simp [streams]

theorem Reachable.registrySound (reached : Reachable address permitted now s) :
    s.RegistrySound address := by
  refine reached.runs_invariant (fun s => s.RegistrySound address) ?_ ?_ ?_
  · exact fun _ _ fresh => fresh.registrySound
  · intro s activity sound
    have same : SameRegistry s
        { s with balances := activity.balances, allowances := activity.allowances } :=
      ⟨rfl, rfl, rfl, rfl, rfl⟩
    exact same.registrySound sound
  · intro instant s invocation s' reached order _ run sound
    exact sound.runs invocation run (reached.book_wellFormed.mono order)

end Wallie.StreamContract
