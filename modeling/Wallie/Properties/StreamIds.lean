import Wallie.Ledger.StreamRegistry
import Wallie.StreamContract.Script

/-!
# Stream ids and reservations

Ids come from the counter and from the reservations of their holders. The log of
the creations shows every id that was handed out and to whom; it only grows, no
id is in it twice, and an id that a holder has reserved and not used can only
enter it as a stream of the holder.
-/

namespace Wallie.StreamContract

open Fallible

variable {address sender holder : Address} {now id : ℕ} {s s' : State} {res : IdReservation}
  {input : Input address}

/-- The id is in the part of the reservation that is not used up. -/
def IdReservation.Holds (res : IdReservation) (id : ℕ) : Prop :=
  res.startId + res.consumed ≤ id ∧ id < res.startId + res.count

/-- An id that another holder has reserved is not allocated. -/
theorem Book.Allocates.not_holds {book : Book} {nextStreamId : ℕ}
    {idReservation : Address → Option IdReservation}
    (allocates : book.Allocates sender id nextStreamId idReservation) (reserves : book.Reserves)
    (held : book.idReservation holder = some res) (other : holder ≠ sender) : ¬ res.Holds id := by
  rintro ⟨lower, upper⟩
  have below := reserves.below holder res held
  cases allocates with
  | counter _ => omega
  | reserved held' =>
      have disjoint := reserves.disjoint holder sender _ _ other held held'
      have unconsumed := reserves.unconsumed sender _ held'
      omega

/-- An allocation leaves the reservations of the others alone. -/
theorem Book.Allocates.held_of_ne {book : Book} {nextStreamId : ℕ}
    {idReservation : Address → Option IdReservation}
    (allocates : book.Allocates sender id nextStreamId idReservation) (other : holder ≠ sender) :
    idReservation holder = book.idReservation holder := by
  cases allocates with
  | counter _ => rfl
  | reserved _ => rw [Function.update_of_ne other]

/-- The creations of one sender are logged as such, outside the reservations of the others. -/
theorem CreatesBy.logged (creates : CreatesBy address sender s s') (ids : s.IdsSound address)
    (held : s.idReservation holder = some res) :
    ∀ creation ∈ s'.creations, creation ∈ s.creations ∨
      (res.Holds creation.1 → creation.2 = holder) := by
  have kept := creates.preserves (fun middle => middle.IdsSound address ∧
    (holder ≠ sender → middle.idReservation holder = some res) ∧
    ∀ creation ∈ middle.creations, creation ∈ s.creations ∨
      (res.Holds creation.1 → creation.2 = holder)) ?_ ?_
    ⟨ids, fun _ => held, fun _ member => Or.inl member⟩
  · exact kept.2.2
  · rintro middle next same ⟨ids, held, logged⟩
    refine ⟨same.idsSound ids, ?_, ?_⟩
    · rwa [same.idReservation]
    · rwa [same.creations]
  · rintro middle next id params creation ⟨ids, held, logged⟩
    refine ⟨creation.idsSound ids, fun other => ?_, ?_⟩
    · exact (creation.allocates.held_of_ne other).trans (held other)
    · rw [creation.creations]
      intro entry member
      rcases List.mem_append.mp member with member | member
      · exact logged entry member
      · rw [List.mem_singleton.mp member]
        right
        intro holds
        by_contra other
        have other : holder ≠ sender := Ne.symm other
        exact creation.allocates.not_holds ids.reserves (held other) other holds

theorem CreatesBy.log_grows (creates : CreatesBy address sender s s') :
    s.creations <+: s'.creations := by
  apply creates.preserves (fun middle => s.creations <+: middle.creations) ?_ ?_
    (List.prefix_refl _)
  · exact fun middle next same logged => same.creations ▸ logged
  · intro middle next id params creation logged
    rw [creation.creations]
    exact logged.trans (List.prefix_append _ _)

/-- What one step adds to the log. -/
theorem creations_of_steps (step : Input.Steps s input s') :
    s'.creations = s.creations ∨ ∃ sender, CreatesBy address sender s s' := by
  cases input with
  | token activity =>
      rcases step with ⟨_, rfl⟩
      exact Or.inl rfl
  | invoke invocation =>
      rcases step.invoke_cases with run | ⟨_, rfl⟩
      · by_cases creates : .creations ∈ invocation.call.writes
        · exact Or.inr (Call.createsBy creates run address)
        · exact Or.inl ((invocation.call.onlyWrites run).creations creates)
      · exact Or.inl rfl

/-- In every reachable state no id was allocated twice, every stored stream was allocated its id,
and the allocated and the reserved ids are below the counter. An id that a holder has reserved and
not used is not in use, is not in the reservation of another holder, and can only be allocated to
a stream of the holder. -/
theorem stream_ids_exclusive (reached : Reachable address anyCall now s) :
    (s.creations.map Prod.fst).Nodup ∧
      (∀ id stream, s.streams id = some stream → (id, stream.sender) ∈ s.creations) ∧
      (∀ id ∈ s.creations.map Prod.fst, id < s.nextStreamId) ∧
      (∀ (input : Input address) s', now ≤ input.clock → Input.Steps s input s' →
        s.creations <+: s'.creations) ∧
      ∀ holder res, s.idReservation holder = some res →
        (∀ id, id < res.startId + res.count → id < s.nextStreamId) ∧
        ∀ id, res.startId + res.consumed ≤ id ∧ id < res.startId + res.count →
          id ∉ s.creations.map Prod.fst ∧
          (∀ holder' res', holder' ≠ holder → s.idReservation holder' = some res' →
            ¬ (res'.startId ≤ id ∧ id < res'.startId + res'.count)) ∧
          ∀ (input : Input address) s', now ≤ input.clock → Input.Steps s input s' →
            ∀ sender, (id, sender) ∈ s'.creations → sender = holder := by
  have sound := reached.registrySound
  have formed := reached.book_wellFormed
  have reserves := formed.reserves
  have unused : ∀ id, (s.book address).Fresh id → id ∉ s.creations.map Prod.fst := by
    intro id fresh member
    rcases List.mem_map.mp member with ⟨creation, found, rfl⟩
    exact sound.used creation found fresh
  refine ⟨sound.distinct, sound.logged, ?_, ?_, ?_⟩
  · intro id member
    by_contra above
    exact unused id (Or.inl (not_lt.mp above)) member
  · intro input s' order step
    rcases creations_of_steps step with same | ⟨sender, creates⟩
    · exact same ▸ List.prefix_refl _
    · exact creates.log_grows
  · intro holder res held
    refine ⟨fun id upper => upper.trans_le (reserves.below holder res held), ?_⟩
    intro id holds
    have fresh : (s.book address).Fresh id := Or.inr ⟨holder, res, held, holds⟩
    refine ⟨unused id fresh, ?_, ?_⟩
    · rintro holder' res' other held' ⟨lower, upper⟩
      have disjoint := reserves.disjoint holder' holder res' res other held' held
      omega
    · intro input s' order step sender member
      have absent : (id, sender) ∉ s.creations := fun found =>
        unused id fresh (List.mem_map.mpr ⟨_, found, rfl⟩)
      rcases creations_of_steps step with same | ⟨_, creates⟩
      · rw [same] at member
        exact absurd member absent
      · rcases creates.logged formed.idsSound held _ member with found | owned
        · exact absurd found absent
        · exact owned holds

/-- The holder of a reservation of two ids uses the first. -/
def Sample.partlyUsed : List (Invocation Sample.contract) :=
  Sample.reserved ++
    [Sample.invocation 1 0 0 (.createStream Sample.sender (Sample.params 1000 10 0 0))
      (Eq.refl true)]

/-- The second reserved id can only be allocated to a stream of the holder. -/
theorem stream_ids_exclusive_reserved :
    let s := Script.run Sample.partlyUsed Sample.genesis
    s.creations = [(2, Sample.keeper), (0, Sample.sender)] ∧
      ∀ (input : Input Sample.contract) s', 0 ≤ input.clock → Input.Steps s input s' →
        ∀ sender, (1, sender) ∈ s'.creations → sender = Sample.sender := by
  intro s
  have ordered : Script.Ordered Sample.partlyUsed 0 :=
    ⟨by decide, by decide, by decide, trivial⟩
  have reached : Reachable Sample.contract anyCall 0 s :=
    Sample.reachable_run ordered
  have held : s.idReservation Sample.sender = some ⟨0, 2, 1, none⟩ := by decide
  rcases stream_ids_exclusive reached with ⟨_, _, _, _, exclusive⟩
  exact ⟨by decide, ((exclusive _ _ held).2 1 (by decide)).2.2⟩

end Wallie.StreamContract
