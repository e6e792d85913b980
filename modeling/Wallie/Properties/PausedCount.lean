import Wallie.Ledger.Emissions
import Wallie.Ledger.RunInvariant
import Wallie.Lib.KeyedCount
import Wallie.StreamContract.EntrypointWrites
import Wallie.StreamContract.Script

/-!
# The number of paused streams

The contract counts its paused streams with saturating arithmetic, one change of
status at a time. The count is exact, so neither end of the range is ever hit.
-/

namespace Wallie.StreamContract

open Fallible

variable {address : Address} {permitted : State → Env → Call → Prop} {s s' : State}
  {book book' : Book} {now id : ℕ} {stream stream' : Stream} {move : Move} {action : Action}
  {call : Call} {held : ℤ}

section Reconciled

variable {previous next : StreamStatus} {count : ℕ}

theorem reconciledCount_of_iff (same : previous = .paused ↔ next = .paused) :
    reconciledCount previous next count = count := by
  cases previous <;> cases next <;> simp_all [reconciledCount]

theorem reconciledCount_of_leaves (paused : previous = .paused) (unpaused : next ≠ .paused) :
    reconciledCount previous next count = count - 1 := by
  subst paused
  cases next <;> simp_all [reconciledCount]

theorem reconciledCount_of_enters (unpaused : previous ≠ .paused) (paused : next = .paused) :
    reconciledCount previous next count = min (count + 1) (2 ^ 64 - 1) := by
  subst paused
  cases previous <;> simp_all [reconciledCount]

end Reconciled

/-- The ids of the stored streams that are paused. -/
def pausedStreams (streams : ℕ → Option Stream) : Set ℕ :=
  KeyedCount.keys (fun stream : Stream => stream.status = .paused) streams

/-- The counter follows a change of one record. That the number of streams is a value of its type
is only needed where a stream is paused. -/
theorem reconciledCount_ncard {streams : ℕ → Option Stream} {bound : ℕ}
    (below : ∀ id stream, streams id = some stream → id < bound)
    (stored : streams id = some stream)
    (fits : stream.status ≠ .paused → stream'.status = .paused → (bound : ℤ) ≤ u64.upper) :
    reconciledCount stream.status stream'.status (pausedStreams streams).ncard =
      (pausedStreams (Function.update streams id (some stream'))).ncard := by
  have finite : (pausedStreams streams).Finite := KeyedCount.finite_keys below
  have member : id ∈ pausedStreams streams ↔ stream.status = .paused :=
    KeyedCount.mem_keys_of_stored stored
  have uncounted : stream'.status ≠ .paused →
      ∀ record, some stream' = some record → record.status ≠ .paused := by
    rintro unpaused record ⟨⟩
    exact unpaused
  by_cases before : stream.status = .paused <;> by_cases after : stream'.status = .paused
  · rw [reconciledCount_of_iff (iff_of_true before after)]
    exact congrArg Set.ncard (KeyedCount.keys_update_of_stays (member.mpr before) after).symm
  · have left := KeyedCount.ncard_keys_update_of_leaves finite (member.mpr before) (uncounted after)
    rw [reconciledCount_of_leaves before after]
    exact Nat.sub_eq_of_eq_add left.symm
  · have entered := KeyedCount.ncard_keys_update_of_enters finite (member.not.mpr before) after
    have room : (pausedStreams streams).ncard < bound :=
      KeyedCount.ncard_keys_lt below stored before
    have fits := fits before after
    have upper : u64.upper = 2 ^ 64 - 1 := rfl
    rw [reconciledCount_of_enters before after, min_eq_left (by omega)]
    exact entered.symm
  · rw [reconciledCount_of_iff (iff_of_false before after)]
    exact congrArg Set.ncard
      (KeyedCount.keys_update_of_outside (member.not.mpr before) (uncounted after)).symm

/-- A stream is only paused by a pause. -/
theorem Stream.Moves.eq_pause (moves : stream.Moves now move stream')
    (running : stream.status ≠ .paused) (paused : stream'.status = .paused) : move = .pause := by
  cases moves with
  | @withdraw _ amount _ _ _ _ _ _ _ =>
      change (stream.withdrawnTo (stream.withdrawnAmount + amount)).status = .paused at paused
      rw [withdrawnTo_status] at paused
      split at paused
      · cases paused
      · exact absurd paused running
  | pause _ _ => rfl
  | resume _ _ | cancel _ _ | settle _ _ _ | keeperCancel _ _ _ _ => cases paused
  | topUp _ _ _ _ _ | raiseRate _ _ _ _ | lowerRate _ _ _ _ _ _ _ | reprice _ _
  | shorten _ _ _ _ _ _ _ _ | extend _ _ _ _ _ | rotate => exact absurd paused running

/-! ## The counter of the book -/

namespace Book

/-- The counter of the paused streams is their number. -/
def CountsPaused (book : Book) : Prop :=
  book.pausedStreamCount = (pausedStreams book.streams).ncard

/-- A record that is written for a stream that was not stored, or removed from one that is not
paused, counts for nothing. -/
theorem CountsPaused.unpaused {entry : Option Stream} (counts : book.CountsPaused) (id : ℕ)
    (before : ∀ stream, book.streams id = some stream → stream.status ≠ .paused)
    (after : ∀ stream, entry = some stream → stream.status ≠ .paused)
    (streams : book'.streams = Function.update book.streams id entry)
    (count : book'.pausedStreamCount = book.pausedStreamCount) : book'.CountsPaused := by
  have absent : id ∉ pausedStreams book.streams := by
    rintro ⟨stream, stored, paused⟩
    exact before stream stored paused
  have same := KeyedCount.keys_update_of_outside absent after
  rw [CountsPaused, count, counts, streams, pausedStreams, pausedStreams, same]

theorem Steps.countsPaused (step : book.Steps now action book') (formed : book.WellFormed now)
    (counts : book.CountsPaused)
    (fits : ∀ id, action = .change id .pause → (book.nextStreamId : ℤ) ≤ u64.upper) :
    book'.CountsPaused := by
  cases step with
  | @create sender params id _ _ _ allocates _ _ =>
      have absent := (formed.blank id (allocates.fresh formed.reserves)).1
      refine counts.unpaused id ?_ ?_ rfl rfl
      · intro stream stored
        rw [absent] at stored
        cases stored
      · rintro stream ⟨⟩
        simp [newStream]
  | @change id before after move _ stored moves _ _ =>
      change reconciledCount before.status after.status book.pausedStreamCount = _
      rw [counts, reconciledCount_ncard (fun _ _ => formed.stored_lt) stored ?_]
      · rfl
      · intro running paused
        rw [moves.eq_pause running paused] at fits
        exact fits id rfl
  | @close id stream stored drained =>
      refine counts.unpaused id ?_ (by simp) rfl rfl
      intro record stored' paused
      rw [stored, Option.some.injEq] at stored'
      subst stored'
      rcases drained with completed | ⟨cancelled, _⟩ <;> simp_all
  | reserve _ | release | reclaim _ _ | sweep _ _ | receive _ => exact counts

end Book

/-- A change of a paused stream finds a counter that can be decremented. -/
def Action.Decrementable (book : Book) : Action → Prop
  | change id _ => ∀ stream, book.streams id = some stream → stream.status = .paused →
      0 < book.pausedStreamCount
  | _ => True

theorem Book.CountsPaused.decrementable (counts : book.CountsPaused) (formed : book.WellFormed now)
    (action : Action) : action.Decrementable book := by
  cases action with
  | change id move =>
      intro stream stored paused
      have finite : (pausedStreams book.streams).Finite :=
        KeyedCount.finite_keys fun _ _ => formed.stored_lt
      rw [counts]
      exact KeyedCount.ncard_keys_pos finite ⟨stream, stored, paused⟩
  | _ => trivial

/-! ## The counter of the contract -/

/-- A call that pauses a stream does nothing else. -/
theorem Call.Emits.changes_of_pause (pauses : call.Emits held (.change id .pause))
    (emits : call.Emits held action) : ∃ key, action = .change key .pause := by
  cases pauses.changing with
  | pauseStream | pauseStreamAsAdmin =>
      rcases emits with ⟨move, rfl, rfl⟩
      exact ⟨_, rfl⟩

/-- What is known of the book in the middle of an invocation. -/
structure Invocation.PauseInvariant (invocation : Invocation address) (s : State) (book : Book) :
    Prop where
  formed : book.WellFormed invocation.env.timestamp
  counts : book.CountsPaused
  /-- A call that pauses a stream finds a number of streams of its type. -/
  fits : ∀ id, invocation.Makes s (.change id .pause) → (book.nextStreamId : ℤ) ≤ u64.upper

theorem Invocation.PauseInvariant.step {invocation : Invocation address}
    (invariant : invocation.PauseInvariant s book) (takes : invocation.Takes s book action)
    (step : book.Steps invocation.env.timestamp action book') :
    invocation.PauseInvariant s book' where
  formed := step.wellFormed invariant.formed
  counts := by
    refine step.countsPaused invariant.formed invariant.counts ?_
    rintro id rfl
    exact invariant.fits id takes.1
  fits := by
    intro id pauses
    rcases pauses.emits.changes_of_pause takes.1.emits with ⟨key, rfl⟩
    cases step with
    | change _ _ _ _ => exact invariant.fits id pauses

/-- The counter and the number of streams are as they should be. -/
structure State.PausesCounted (address : Address) (s : State) : Prop where
  counts : (s.book address).CountsPaused
  fits : s.CountFits

theorem State.PausesCounted.invariant (counted : s.PausesCounted address)
    (invocation : Invocation address)
    (formed : (s.book address).WellFormed invocation.env.timestamp) :
    invocation.PauseInvariant s (s.book address) :=
  ⟨formed, counted.counts, fun _ _ => counted.fits⟩

theorem Reachable.pausesCounted (reached : Reachable address permitted now s) :
    s.PausesCounted address := by
  refine reached.runs_invariant (State.PausesCounted address) ?_ ?_ ?_
  · intro instant s fresh
    have blank := fresh.blank
    have streams : (s.book address).streams = fun _ => none := funext blank.streams
    constructor
    · rw [Book.CountsPaused, blank.pausedStreamCount, streams]
      simp [pausedStreams, KeyedCount.keys]
    · have count : s.nextStreamId = 0 := blank.nextStreamId
      rw [State.CountFits, count]
      decide
  · exact fun s activity counted => ⟨counted.counts, counted.fits⟩
  · intro instant s invocation s' reached order _ run counted
    have formed := reached.book_wellFormed.mono order
    have step : Input.Steps s (.invoke invocation) s' := (commit_of_runs run).symm
    have invariant := (invocation.runs step formed).preserves (invocation.PauseInvariant s)
      (fun _ _ _ takes step invariant => invariant.step takes step)
      (counted.invariant invocation formed)
    exact ⟨invariant.counts, (invocation.call.onlyWrites run).countFits counted.fits⟩

/-- In every reachable state the counter is the number of stored streams that are paused, and in
every invocation, at each change of a paused stream, there is something to decrement. -/
theorem paused_count_exact (reached : Reachable address anyCall now s) :
    ((pausedStreams s.streams).Finite ∧
      s.pausedStreamCount = (pausedStreams s.streams).ncard) ∧
    ∀ (invocation : Invocation address) s', now ≤ invocation.env.timestamp →
      Input.Steps s (.invoke invocation) s' →
      Book.Run invocation.env.timestamp
        (fun book action => invocation.Takes s book action ∧ action.Decrementable book)
        (s.book address) (s'.book address) := by
  refine ⟨⟨KeyedCount.finite_keys fun _ _ => reached.book_wellFormed.stored_lt,
    reached.pausesCounted.counts⟩, ?_⟩
  intro invocation s' order step
  have formed := reached.book_wellFormed.mono order
  refine (invocation.runs step formed).strengthen (invocation.PauseInvariant s)
    (reached.pausesCounted.invariant invocation formed)
    (fun _ _ _ takes step invariant => invariant.step takes step) ?_
  exact fun book action invariant takes =>
    ⟨takes, invariant.counts.decrementable invariant.formed action⟩

/-- A stream is paused before its end and drawn after it. -/
def Sample.pausedThenDrained : List (Invocation Sample.contract) :=
  Sample.twoCreations ++
    [Sample.invocation 1 50 20 (.pauseStream 0 .operational) (Eq.refl true),
      Sample.invocation 1 50 20 (.pauseStream 1 .operational) (Eq.refl true),
      Sample.invocation 2 100 40 (.withdraw 0) (Eq.refl true)]

/-- One of the two paused streams is left. -/
theorem paused_count_exact_drained :
    let s := Script.run Sample.pausedThenDrained Sample.genesis
    s.pausedStreamCount = 1 ∧ s.pausedStreamCount = (pausedStreams s.streams).ncard := by
  intro s
  have ordered : Script.Ordered Sample.pausedThenDrained 0 :=
    ⟨by decide, by decide, by decide, by decide, by decide, trivial⟩
  have reached : Reachable Sample.contract anyCall 100 s :=
    Sample.reachable_run ordered
  exact ⟨by decide, (paused_count_exact reached).1.2⟩

end Wallie.StreamContract
