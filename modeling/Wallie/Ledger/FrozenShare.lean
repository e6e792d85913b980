import Wallie.Ledger.RefineRun

/-!
# The share of a cancelled stream

A cancelled stream earns nothing more. What was paid out on its account and what
is still owed on it add up to the same on every run that follows, and when the
stream is closed all of it has been paid.
-/

namespace Wallie.StreamContract

variable {now id : ℕ}

/-- A move of a cancelled stream pays what it takes from what is owed. -/
theorem Stream.Moves.frozen {stream stream' : Stream} {move : Move}
    (moves : stream.Moves now move stream') (cancelled : stream.status = .cancelled)
    (nonneg : 0 ≤ stream.owed) :
    stream'.status = .cancelled ∧ 0 ≤ stream'.owed ∧ stream'.owed + move.paid = stream.owed := by
  have owed := moves.owed
  have unlive : ¬ stream.Live := fun live => live.not_cancelled cancelled
  cases moves with
  | @withdraw _ amount ledger _ _ positive earned _ _ =>
      have cancelled' : ((stream.withdrawnTo (stream.withdrawnAmount + amount)).notedAt
          ledger).status = .cancelled := by
        rw [← cancelled]
        exact if_neg fun drained => unlive drained.1
      rw [Stream.entitlement_of_cancelled cancelled] at earned
      rw [Stream.owed_of_cancelled cancelled] at owed nonneg ⊢
      simp only [Move.received, Move.paid, Move.settledByKeeper] at owed ⊢
      exact ⟨cancelled', by omega, by omega⟩
  | rotate =>
      refine ⟨cancelled, nonneg, ?_⟩
      simp only [Move.received, Move.paid, Move.settledByKeeper] at owed ⊢
      omega
  | pause active _ => exact absurd (Or.inl active) unlive
  | resume paused _ => exact absurd (Or.inr paused) unlive
  | topUp live _ _ _ _ | raiseRate live _ _ _ | lowerRate live _ _ _ _ _ _ | reprice live _
  | shorten live _ _ _ _ _ _ _ | extend live _ _ _ _ | cancel live _ | settle live _ _
  | keeperCancel live _ _ _ => exact absurd live unlive

namespace Book

variable {book book' : Book} {action : Action} {limit : ℤ}

/-- Stream `id` is cancelled, or closed, and what was paid out on its account and what is owed on
it add up to `limit`. -/
structure Frozen (book : Book) (id : ℕ) (limit : ℤ) : Prop where
  used : ¬ book.Fresh id
  cancelled : ∀ stream, book.streams id = some stream → stream.status = .cancelled
  owed_nonneg : ∀ stream, book.streams id = some stream → 0 ≤ stream.owed
  split : ∀ stream, book.streams id = some stream → book.paidOut id + stream.owed = limit
  closed : book.streams id = none → book.paidOut id = limit

theorem Frozen.of_stored {stream : Stream} (used : ¬ book.Fresh id)
    (stored : book.streams id = some stream) (cancelled : stream.status = .cancelled)
    (nonneg : 0 ≤ stream.owed) (split : book.paidOut id + stream.owed = limit) :
    book.Frozen id limit where
  used := used
  cancelled := by
    rintro _ stored'
    exact Option.some.inj (stored.symm.trans stored') ▸ cancelled
  owed_nonneg := by
    rintro _ stored'
    exact Option.some.inj (stored.symm.trans stored') ▸ nonneg
  split := by
    rintro _ stored'
    exact Option.some.inj (stored.symm.trans stored') ▸ split
  closed := by
    intro absent
    rw [stored] at absent
    cases absent

theorem Frozen.of_absent (used : ¬ book.Fresh id) (absent : book.streams id = none)
    (paid : book.paidOut id = limit) : book.Frozen id limit where
  used := used
  cancelled := by simp [absent]
  owed_nonneg := by simp [absent]
  split := by simp [absent]
  closed := fun _ => paid

theorem Frozen.paidOut_le (frozen : book.Frozen id limit) : book.paidOut id ≤ limit := by
  cases stored : book.streams id with
  | none => exact (frozen.closed stored).le
  | some stream =>
      have nonneg := frozen.owed_nonneg stream stored
      have split := frozen.split stream stored
      omega

theorem Steps.frozen (step : book.Steps now action book') (formed : book.WellFormed now)
    (frozen : book.Frozen id limit) : book'.Frozen id limit := by
  have used : ¬ book'.Fresh id := fun fresh => frozen.used (step.fresh formed.reserves fresh)
  cases stored : book.streams id with
  | none =>
      have absent := step.removed formed frozen.used stored
      have unmoved : ∀ move, action ≠ .change id move := by
        rintro move rfl
        rcases step.moves with ⟨stream, _, stored', _, _⟩
        rw [stored] at stored'
        cases stored'
      exact .of_absent used absent ((step.paidOut_eq unmoved).trans (frozen.closed stored))
  | some stream =>
      have cancelled := frozen.cancelled stream stored
      have nonneg := frozen.owed_nonneg stream stored
      have split := frozen.split stream stored
      by_cases moving : ∃ move, action = .change id move
      · rcases moving with ⟨move, rfl⟩
        cases step with
        | change stored' moves _ _ =>
            obtain rfl := Option.some.inj (stored.symm.trans stored')
            rcases moves.frozen cancelled nonneg with ⟨cancelled', nonneg', owed⟩
            refine .of_stored used (Function.update_self ..) cancelled' nonneg' ?_
            simp only [moved, Function.update_self]
            omega
      · have unpaid := step.paidOut_eq fun move same => moving ⟨move, same⟩
        rcases step.record_cases formed stored with same | ⟨move, _, rfl, _⟩ | ⟨rfl, absent⟩
        · exact .of_stored used same cancelled nonneg (unpaid.symm ▸ split)
        · exact absurd ⟨move, rfl⟩ moving
        · cases step with
          | close stored' drained =>
              obtain rfl := Option.some.inj (stored.symm.trans stored')
              have owed : stream.owed = 0 := by
                rcases drained with completed | ⟨_, drawn⟩
                · rw [cancelled] at completed
                  cases completed
                · rw [Stream.entitlement_of_cancelled cancelled] at drawn
                  rw [Stream.owed_of_cancelled cancelled] at nonneg ⊢
                  omega
              rw [owed, add_zero] at split
              exact .of_absent used absent split

end Book

/-- What is left of a cancelled stream stays split on every run that follows. -/
theorem Reachable.frozen_later {address : Address} {permitted : State → Env → Call → Prop}
    {s final : State} {later : ℕ} {limit : ℤ} (reached : Reachable address permitted now s)
    (continued : (system address).Continues (onCalls permitted) now s later final)
    (frozen : (s.book address).Frozen id limit) : (final.book address).Frozen id limit := by
  induction continued with
  | here => exact frozen
  | tick _ _ ih => exact ih
  | @move middle current next input continued order allowed moved ih =>
      have reached' : Reachable address permitted middle current := continued.reachable reached
      have formed := reached'.book_wellFormed.mono order
      cases input with
      | token activity =>
          rcases moved with ⟨_, rfl⟩
          exact ⟨ih.used, ih.cancelled, ih.owed_nonneg, ih.split, ih.closed⟩
      | invoke invocation =>
          refine ((invocation.runs moved formed).preserves
            (fun book => book.WellFormed invocation.env.timestamp ∧ book.Frozen id limit) ?_
            ⟨formed, ih⟩).2
          rintro book action book' _ step ⟨formed, frozen⟩
          exact ⟨step.wellFormed formed, step.frozen formed frozen⟩

end Wallie.StreamContract
