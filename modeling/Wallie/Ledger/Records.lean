import Wallie.Ledger.BookInvariant

/-!
# How the record of a stream evolves

An action leaves the record of a stream alone, moves it, or removes it. An id
whose stream was removed is not handed out again, so a call does to a stored
record at most one of these things.
-/

namespace Wallie.StreamContract

namespace Book

variable {book book' : Book} {now id : ℕ} {action : Action} {stream : Stream}

/-- What one action does to a stored record. -/
theorem Steps.record_cases (step : book.Steps now action book') (formed : book.WellFormed now)
    (stored : book.streams id = some stream) :
    book'.streams id = some stream ∨
      (∃ move stream', action = .change id move ∧ stream.Moves now move stream' ∧
        book'.streams id = some stream') ∨
      action = .close id ∧ book'.streams id = none := by
  cases step with
  | @create sender params created _ _ _ allocates _ _ =>
      have other : id ≠ created := by
        rintro rfl
        exact formed.not_fresh stored (allocates.fresh formed.reserves)
      left
      simpa [Book.created, newStream, other] using stored
  | @change changed before after move _ stored' moves _ _ =>
      rcases eq_or_ne id changed with rfl | other
      · obtain rfl : before = stream := by simpa [stored'] using stored
        right
        left
        exact ⟨move, after, rfl, moves, by simp [moved]⟩
      · left
        simpa [moved, other] using stored
  | @close closed _ _ _ =>
      rcases eq_or_ne id closed with rfl | other
      · right
        right
        exact ⟨rfl, by simp⟩
      · left
        simpa [other] using stored
  | reserve _ | release | reclaim _ _ | sweep _ _ | receive _ => exact Or.inl stored

/-- A stream that was removed is not stored again. -/
theorem Steps.removed (step : book.Steps now action book') (formed : book.WellFormed now)
    (used : ¬ book.Fresh id) (absent : book.streams id = none) : book'.streams id = none := by
  cases step with
  | @create sender params created _ _ _ allocates _ _ =>
      have other : id ≠ created := by
        rintro rfl
        exact used (allocates.fresh formed.reserves)
      simpa [Book.created, newStream, other] using absent
  | @change changed _ _ _ _ stored' _ _ _ =>
      have other : id ≠ changed := by
        rintro rfl
        simp [absent] at stored'
      simpa [moved, other] using absent
  | @close closed _ _ _ =>
      rcases eq_or_ne id closed with rfl | other
      · simp
      · simpa [other] using absent
  | reserve _ | release | reclaim _ _ | sweep _ _ | receive _ => exact absent

/-- What holds of stored records holds after an action, if it holds of a new stream and is kept
by the move. -/
theorem Steps.forall_stored {holds : Stream → Prop} (step : book.Steps now action book')
    (kept : ∀ id stream, book.streams id = some stream → holds stream)
    (created : ∀ id sender params, CreateStreamParams.Valid params sender now →
      holds (newStream id sender params))
    (moves : ∀ id move stream stream', action = .change id move →
      book.streams id = some stream → stream.Moves now move stream' → holds stream →
      holds stream') (id : ℕ) (stream : Stream) (stored' : book'.streams id = some stream) :
    holds stream := by
  cases step with
  | @create sender params new _ _ _ _ valid _ =>
      rcases eq_or_ne id new with rfl | other
      · obtain rfl : newStream id sender params = stream := by
          simpa [Book.created, newStream] using stored'
        exact created id sender params valid
      · exact kept id stream (by simpa [Book.created, newStream, other] using stored')
  | @change changed before after move _ stored moved _ _ =>
      rcases eq_or_ne id changed with rfl | other
      · obtain rfl : after = stream := by simpa [Book.moved] using stored'
        exact moves id move before after rfl stored moved (kept id before stored)
      · exact kept id stream (by simpa [Book.moved, other] using stored')
  | @close closed _ _ _ =>
      rcases eq_or_ne id closed with rfl | other
      · simp at stored'
      · exact kept id stream (by simpa [other] using stored')
  | reserve _ | release | reclaim _ _ | sweep _ _ | receive _ => exact kept id stream stored'

/-- A run that changes records only as it found them leaves a stored record alone, makes one move
of it, or removes it. -/
theorem Run.record_cases {permits : Action → Prop}
    (run : Book.Run now (fun middle action => permits action ∧ action.ActsOn book middle) book
      book') (formed : book.WellFormed now) (stored : book.streams id = some stream) :
    book'.streams id = some stream ∨
      (∃ move stream', permits (.change id move) ∧ stream.Moves now move stream' ∧
        book'.streams id = some stream') ∨
      permits (.close id) ∧ book'.streams id = none := by
  have invariant := run.preserves
    (fun middle => middle.WellFormed now ∧ ¬ middle.Fresh id ∧
      (middle.streams id = some stream ∨
        (∃ move stream', permits (.change id move) ∧ stream.Moves now move stream' ∧
          middle.streams id = some stream') ∨
        permits (.close id) ∧ middle.streams id = none)) ?_
    ⟨formed, formed.not_fresh stored, Or.inl stored⟩
  · exact invariant.2.2
  · rintro middle action next ⟨permitted, acts⟩ step ⟨formed, used, kept⟩
    refine ⟨step.wellFormed formed, fun fresh => used (step.fresh formed.reserves fresh), ?_⟩
    -- Whatever the record has become, the next move starts from the record the run found.
    have moved : ∀ record move after, middle.streams id = some record →
        action = .change id move → record.Moves now move after → stream.Moves now move after := by
      intro record move after current same moves
      subst same
      have agrees : book.Agrees middle id := acts
      have found := agrees.streams
      rw [current, stored, Option.some.injEq] at found
      exact found ▸ moves
    rcases kept with current | ⟨_, record, earlier, made, current⟩ | ⟨closed, absent⟩
    · rcases step.record_cases formed current with same | ⟨move, after, rfl, moves, current'⟩ |
        ⟨rfl, absent⟩
      · exact Or.inl same
      · exact Or.inr (Or.inl ⟨move, after, permitted, moves, current'⟩)
      · exact Or.inr (Or.inr ⟨permitted, absent⟩)
    · rcases step.record_cases formed current with same | ⟨move, after, rfl, moves, current'⟩ |
        ⟨rfl, absent⟩
      · exact Or.inr (Or.inl ⟨_, record, earlier, made, same⟩)
      · exact Or.inr (Or.inl ⟨move, after, permitted, moved _ _ _ current rfl moves, current'⟩)
      · exact Or.inr (Or.inr ⟨permitted, absent⟩)
    · exact Or.inr (Or.inr ⟨closed, step.removed formed used absent⟩)

/-- Payments on account of a stream are made by moves of its record. -/
theorem Steps.paidOut_eq (step : book.Steps now action book')
    (others : ∀ move, action ≠ .change id move) : book'.paidOut id = book.paidOut id := by
  cases step with
  | @change changed _ _ move _ _ _ _ _ =>
      have other : id ≠ changed := by
        rintro rfl
        exact others move rfl
      simp [moved, other]
  | create _ _ _ | close _ _ | reserve _ | release | reclaim _ _ | sweep _ _ | receive _ => rfl

/-- A run that has no move to make of a stored record pays nothing on its account. -/
theorem Run.paidOut_eq {permits : Action → Prop}
    (run : Book.Run now (fun middle action => permits action ∧ action.ActsOn book middle) book
      book') (stored : book.streams id = some stream)
    (unmoved : ∀ move stream', permits (.change id move) → ¬ stream.Moves now move stream') :
    book'.paidOut id = book.paidOut id := by
  refine run.preserves (fun middle => middle.paidOut id = book.paidOut id) ?_ rfl
  rintro middle action next ⟨permitted, acts⟩ step unpaid
  refine (step.paidOut_eq ?_).trans unpaid
  rintro move rfl
  rcases step.moves with ⟨record, after, current, moves, _⟩
  have agrees : book.Agrees middle id := acts
  rw [agrees.streams, stored, Option.some.injEq] at current
  subst current
  exact unmoved move after permitted moves

end Book

end Wallie.StreamContract
