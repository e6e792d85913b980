import Wallie.Properties.Withdrawals
import Wallie.StreamContract.Script

/-!
# The life of a stream

The status of a stream moves along six edges, and a stream that is completed or
cancelled keeps its terms until it is closed. Both are facts about single moves;
they hold of every step because a step makes at most one move of a record.
-/

namespace Wallie.StreamContract

/-- The changes of status. -/
inductive StreamStatus.Edge : StreamStatus → StreamStatus → Prop where
  | pause : Edge .active .paused
  | resume : Edge .paused .active
  | cancelActive : Edge .active .cancelled
  | cancelPaused : Edge .paused .cancelled
  | completeActive : Edge .active .completed
  | completePaused : Edge .paused .completed

/-- The status stays or moves along an edge. -/
def StreamStatus.Leads (before after : StreamStatus) : Prop :=
  after = before ∨ before.Edge after

namespace Stream

/-- The status and the terms that decide what the recipient earns agree. -/
structure SameTerms (stream stream' : Stream) : Prop where
  status : stream'.status = stream.status
  depositAmount : stream'.depositAmount = stream.depositAmount
  ratePerSecond : stream'.ratePerSecond = stream.ratePerSecond
  startTime : stream'.startTime = stream.startTime
  cliffTime : stream'.cliffTime = stream.cliffTime
  endTime : stream'.endTime = stream.endTime
  checkpointedAmount : stream'.checkpointedAmount = stream.checkpointedAmount
  checkpointedAt : stream'.checkpointedAt = stream.checkpointedAt
  cancelledAt : stream'.cancelledAt = stream.cancelledAt

theorem SameTerms.refl (stream : Stream) : SameTerms stream stream :=
  ⟨rfl, rfl, rfl, rfl, rfl, rfl, rfl, rfl, rfl⟩

theorem SameTerms.trans {first second third : Stream} (same : SameTerms first second)
    (same' : SameTerms second third) : SameTerms first third where
  status := same'.status.trans same.status
  depositAmount := same'.depositAmount.trans same.depositAmount
  ratePerSecond := same'.ratePerSecond.trans same.ratePerSecond
  startTime := same'.startTime.trans same.startTime
  cliffTime := same'.cliffTime.trans same.cliffTime
  endTime := same'.endTime.trans same.endTime
  checkpointedAmount := same'.checkpointedAmount.trans same.checkpointedAmount
  checkpointedAt := same'.checkpointedAt.trans same.checkpointedAt
  cancelledAt := same'.cancelledAt.trans same.cancelledAt

variable {now id : ℕ} {stream stream' : Stream} {move : Move}

theorem Live.leads_completed (live : stream.Live) : stream.status.Leads .completed := by
  rcases live with active | paused
  · rw [active]
    exact Or.inr .completeActive
  · rw [paused]
    exact Or.inr .completePaused

theorem Live.leads_cancelled (live : stream.Live) : stream.status.Leads .cancelled := by
  rcases live with active | paused
  · rw [active]
    exact Or.inr .cancelActive
  · rw [paused]
    exact Or.inr .cancelPaused

/-- A move changes the status along an edge, if at all. -/
theorem Moves.leads (moves : stream.Moves now move stream') :
    stream.status.Leads stream'.status := by
  cases moves with
  | @withdraw _ amount _ _ _ _ _ _ _ =>
      change stream.status.Leads (stream.withdrawnTo (stream.withdrawnAmount + amount)).status
      rw [withdrawnTo_status]
      split
      · next drained => exact drained.1.leads_completed
      · exact Or.inl rfl
  | pause active _ =>
      rw [active]
      exact Or.inr .pause
  | resume paused _ =>
      rw [paused]
      exact Or.inr .resume
  | cancel live _ | settle live _ _ | keeperCancel live _ _ _ => exact live.leads_cancelled
  | topUp _ _ _ _ _ | raiseRate _ _ _ _ | lowerRate _ _ _ _ _ _ _ | reprice _ _
  | shorten _ _ _ _ _ _ _ _ | extend _ _ _ _ _ | rotate => exact Or.inl rfl

/-- A move of a stream that is no longer live leaves its terms alone: what is left are payments
and changes of the recipient. -/
theorem Moves.sameTerms (moves : stream.Moves now move stream') (terminal : ¬ stream.Live) :
    SameTerms stream stream' := by
  cases moves with
  | withdraw _ _ _ _ _ _ =>
      refine ⟨?_, rfl, rfl, rfl, rfl, rfl, rfl, rfl, rfl⟩
      exact if_neg fun drained => terminal drained.1
  | pause active _ => exact absurd (Or.inl active) terminal
  | resume paused _ => exact absurd (Or.inr paused) terminal
  | rotate => exact ⟨rfl, rfl, rfl, rfl, rfl, rfl, rfl, rfl, rfl⟩
  | topUp live _ _ _ _ | raiseRate live _ _ _ | lowerRate live _ _ _ _ _ _ | reprice live _
  | shorten live _ _ _ _ _ _ _ | extend live _ _ _ _ | cancel live _ | settle live _ _
  | keeperCancel live _ _ _ => exact absurd live terminal

end Stream

variable {address : Address} {permitted : State → Env → Call → Prop} {s s' : State}
  {now id : ℕ} {stream stream' : Stream}

/-- What a step does to the status of a stored stream. -/
theorem Reachable.status_cases {input : Input address}
    (reached : Reachable address permitted now s) (order : now ≤ input.clock)
    (step : Input.Steps s input s') (stored : s.streams id = some stream) :
    (∃ stream', s'.streams id = some stream' ∧ stream.status.Leads stream'.status) ∨
    s'.streams id = none ∧ ∃ invocation, input = .invoke invocation ∧
      (invocation.call = .closeCompletedStream id ∨
        invocation.call = .closeCancelledStream id) := by
  rcases reached.record_cases order step stored with same | ⟨invocation, rfl, moved | closed⟩
  · exact Or.inl ⟨stream, same, Or.inl rfl⟩
  · rcases moved with ⟨_, stream', _, moves, current⟩
    exact Or.inl ⟨stream', current, moves.leads⟩
  · rcases closed with ⟨makes, absent⟩
    exact Or.inr ⟨absent, invocation, rfl, makes.emits.closes⟩

/-- A stream that is no longer live keeps its terms as long as it is stored. -/
theorem Reachable.sameTerms {later : ℕ} (reached : Reachable address permitted now s)
    (continued : (system address).Continues (onCalls permitted) now s later s')
    (stored : s.streams id = some stream) (terminal : ¬ stream.Live)
    (stored' : s'.streams id = some stream') : stream.SameTerms stream' := by
  apply reached.forall_later (fun _ current => stream.SameTerms current) continued stored
    (.refl stream) ?_ ?_ stream' stored'
  · exact fun _ _ _ _ _ same => same
  · intro _ _ move before after _ _ _ _ moves same
    have terminal' : ¬ before.Live := by
      rwa [Stream.Live, same.status]
    exact same.trans (moves.sameTerms terminal')

/-- What was withdrawn from a stream only grows. -/
theorem Reachable.withdrawn_le {later : ℕ} (reached : Reachable address permitted now s)
    (continued : (system address).Continues (onCalls permitted) now s later s')
    (stored : s.streams id = some stream) (stored' : s'.streams id = some stream') :
    stream.withdrawnAmount ≤ stream'.withdrawnAmount := by
  apply reached.forall_later (fun _ current => stream.withdrawnAmount ≤ current.withdrawnAmount)
    continued stored le_rfl ?_ ?_ stream' stored'
  · exact fun _ _ _ _ _ grown => grown
  · intro _ _ move before after _ _ _ _ moves grown
    exact grown.trans moves.withdrawn_le

/-- In every run the status of a stream moves along the edges, a stream that is completed or
cancelled keeps its terms until a call closes it, `cancelledAt` is set exactly when the status is
cancelled, and a completed stream is drained. Without `updateRate` what is withdrawn from a
cancelled stream grows and stays within what it had earned when it was cancelled. -/
theorem stream_lifecycle :
    (∀ now s, Reachable address anyCall now s → ∀ id stream, s.streams id = some stream →
      (stream.cancelledAt.isSome = true ↔ stream.status = .cancelled) ∧
      (stream.status = .completed → stream.withdrawnAmount = stream.depositAmount) ∧
      (∀ (input : Input address) s', now ≤ input.clock → Input.Steps s input s' →
        (∃ stream', s'.streams id = some stream' ∧ stream.status.Leads stream'.status) ∨
        s'.streams id = none ∧ ∃ invocation, input = .invoke invocation ∧
          (invocation.call = .closeCompletedStream id ∨
            invocation.call = .closeCancelledStream id)) ∧
      (stream.status = .completed ∨ stream.status = .cancelled →
        ∀ later s', (system address).Continues (onCalls anyCall) now s later s' →
          ∀ stream', s'.streams id = some stream' → stream.SameTerms stream')) ∧
    ∀ now s, Reachable address withoutUpdateRate now s → ∀ id stream,
      s.streams id = some stream → stream.status = .cancelled →
      stream.withdrawnAmount ≤ stream.accruedAt (stream.cancelledAt.getD 0) ∧
      ∀ later s', (system address).Continues (onCalls withoutUpdateRate) now s later s' →
        ∀ stream', s'.streams id = some stream' →
          stream.withdrawnAmount ≤ stream'.withdrawnAmount := by
  constructor
  · intro now s reached id stream stored
    have formed := reached.book_wellFormed.records id stream stored
    refine ⟨formed.cancelledAt_iff.symm, formed.completed, ?_, ?_⟩
    · intro input s' order step
      exact reached.status_cases order step stored
    · intro terminal later s' continued stream' stored'
      apply reached.sameTerms continued stored _ stored'
      intro live
      rcases terminal with completed | cancelled
      · exact live.not_completed completed
      · exact live.not_cancelled cancelled
  · intro now s reached id stream stored cancelled
    constructor
    · have earned := reached.earned (fun _ _ _ allowed => allowed) stored
      rwa [Stream.entitlement_of_cancelled cancelled] at earned
    · intro later s' continued stream' stored'
      exact reached.withdrawn_le continued stored stored'

namespace Sample

/-- The sender cancels the stream when half of it is over. -/
def cancelledHalfway : List (Invocation contract) :=
  oneCreation 1000 10 0 0 (Eq.refl true) ++
    [invocation 1 50 1 (.cancelStream 0) (Eq.refl true)]

/-- The recipient draws its half. -/
def drawnAfterwards : List (Invocation contract) :=
  [invocation 2 60 2 (.withdraw 0) (Eq.refl true)]

end Sample

/-- A cancelled stream is drawn on: it has earned 500 tokens, of which none and then all are drawn,
and its terms stay. -/
theorem stream_lifecycle_drawn :
    let s := Script.run Sample.cancelledHalfway Sample.genesis
    let s' := Script.run Sample.drawnAfterwards s
    ∃ stream stream', s.streams 0 = some stream ∧ s'.streams 0 = some stream' ∧
      stream.SameTerms stream' ∧
      stream.withdrawnAmount ≤ stream.accruedAt (stream.cancelledAt.getD 0) ∧
      stream.withdrawnAmount ≤ stream'.withdrawnAmount := by
  intro s s'
  have ordered : Script.Ordered Sample.cancelledHalfway 0 := ⟨by decide, by decide, trivial⟩
  have ordered' : Script.Ordered Sample.drawnAfterwards 50 := ⟨by decide, trivial⟩
  have reached : Reachable Sample.contract withoutUpdateRate 50 s :=
    Script.reachable_run ordered ⟨trivial, trivial, trivial⟩ (Sample.reachable_genesis _)
  have continued : (system Sample.contract).Continues (onCalls withoutUpdateRate) 50 s 60 s' :=
    Script.continues_run ordered' ⟨trivial, trivial⟩ .here
  have before : (s.streams 0).map Stream.status = some .cancelled := by decide +kernel
  have after : (s'.streams 0).map Stream.withdrawnAmount = some 500 := by decide +kernel
  rcases Option.map_eq_some_iff.mp before with ⟨stream, stored, cancelled⟩
  rcases Option.map_eq_some_iff.mp after with ⟨stream', stored', _⟩
  rcases stream_lifecycle.2 50 s reached 0 stream stored cancelled with ⟨earned, grows⟩
  rcases stream_lifecycle.1 50 s (Sample.reachable_run ordered) 0 stream stored with
    ⟨_, _, _, keeps⟩
  have continued' : (system Sample.contract).Continues (onCalls anyCall) 50 s 60 s' :=
    Script.continues_run ordered' (Script.permits_anyCall _ _) .here
  exact ⟨stream, stream', stored, stored',
    keeps (Or.inr cancelled) 60 s' continued' stream' stored', earned,
    grows 60 s' continued stream' stored'⟩

end Wallie.StreamContract
