import Wallie.Ledger.RefineRun
import Wallie.StreamContract.Script

/-!
# Terms that nothing changes

Senders, admins and recipients change a stream in many ways while it runs. None
of them touches who pays, when the stream starts and becomes visible, what kind
it is, or the smallest payment. What was drawn is never taken back, and a removed
stream does not come back.
-/

namespace Wallie.StreamContract

variable {address : Address} {permitted : State → Env → Call → Prop} {now later id : ℕ}
  {s s' : State} {stream stream' : Stream} {move : Move}

/-- The terms that are fixed when a stream is created. -/
structure FixedTerms where
  streamId : ℕ
  sender : Address
  startTime : ℕ
  cliffTime : ℕ
  withdrawDustThreshold : ℤ
  memo : Option Bytes
  metadata : Option Metadata
  kind : StreamKind
  deriving DecidableEq

def Stream.fixedTerms (stream : Stream) : FixedTerms where
  streamId := stream.streamId
  sender := stream.sender
  startTime := stream.startTime
  cliffTime := stream.cliffTime
  withdrawDustThreshold := stream.withdrawDustThreshold
  memo := stream.memo
  metadata := stream.metadata
  kind := stream.kind

theorem Stream.Moves.fixedTerms (moves : stream.Moves now move stream') :
    stream'.fixedTerms = stream.fixedTerms := by
  cases moves <;> rfl

/-- What a run makes of a record: fixed terms are kept, and what was drawn and when the stream was
cancelled is not taken back. -/
structure Stream.Evolves (stream stream' : Stream) : Prop where
  fixedTerms : stream'.fixedTerms = stream.fixedTerms
  withdrawn : stream.withdrawnAmount ≤ stream'.withdrawnAmount
  cancelledAt : ∀ instant, stream.cancelledAt = some instant → stream'.cancelledAt = some instant

namespace Stream.Evolves

theorem refl (stream : Stream) : stream.Evolves stream :=
  ⟨rfl, le_rfl, fun _ cancelled => cancelled⟩

theorem trans {middle : Stream} (first : stream.Evolves middle) (second : middle.Evolves stream') :
    stream.Evolves stream' where
  fixedTerms := second.fixedTerms.trans first.fixedTerms
  withdrawn := first.withdrawn.trans second.withdrawn
  cancelledAt := fun instant cancelled =>
    second.cancelledAt instant (first.cancelledAt instant cancelled)

end Stream.Evolves

/-- A live stream is not cancelled yet. -/
theorem Stream.WellFormed.uncancelled (formed : stream.WellFormed id now) (live : stream.Live) :
    stream.cancelledAt = none := by
  rw [← Option.not_isSome_iff_eq_none, ← formed.cancelledAt_iff]
  exact live.not_cancelled

theorem Stream.Moves.evolves (moves : stream.Moves now move stream')
    (formed : stream.WellFormed id now) : stream.Evolves stream' := by
  have uncancelled : stream.Live → ∀ {record : Stream} (instant : ℕ),
      stream.cancelledAt = some instant → record.cancelledAt = some instant := by
    intro live _ instant cancelled
    rw [formed.uncancelled live] at cancelled
    cases cancelled
  refine ⟨moves.fixedTerms, ?_, ?_⟩
  · cases moves with
    | withdraw _ _ positive _ _ _ => exact (lt_add_of_pos_right _ positive).le
    | settle _ due _ =>
        refine le_add_of_nonneg_right ?_
        rw [due]
        exact le_max_right _ _
    | topUp _ _ _ _ _ | raiseRate _ _ _ _ | lowerRate _ _ _ _ _ _ _ | reprice _ _
    | shorten _ _ _ _ _ _ _ _ | extend _ _ _ _ _ | pause _ _ | resume _ _ | cancel _ _
    | keeperCancel _ _ _ _ | rotate => exact le_rfl
  · cases moves with
    | withdraw _ _ _ _ _ _ | pause _ _ | resume _ _ | rotate => exact fun _ cancelled => cancelled
    | topUp live _ _ _ _ | raiseRate live _ _ _ | lowerRate live _ _ _ _ _ _ | reprice live _
    | shorten live _ _ _ _ _ _ _ | extend live _ _ _ _ | cancel live _ | settle live _ _
    | keeperCancel live _ _ _ => exact uncancelled live

/-- A record under an id that was handed out goes back to one with the same fixed terms. -/
theorem Reachable.fixedTerms_step {input : Input address}
    (reached : Reachable address permitted now s) (order : now ≤ input.clock)
    (step : Input.Steps s input s')
    (used : ¬ (s.book address).Fresh id) (stored' : s'.streams id = some stream') :
    ∃ stream, s.streams id = some stream ∧ stream'.fixedTerms = stream.fixedTerms := by
  cases stored : s.streams id with
  | none =>
      rw [(reached.used order step used).2 stored] at stored'
      cases stored'
  | some stream =>
      refine ⟨stream, rfl, ?_⟩
      rcases reached.record_cases order step stored with same |
        ⟨_, _, ⟨_, after, _, moves, stored''⟩ | ⟨_, removed⟩⟩
      · cases same.symm.trans stored'
        rfl
      · cases stored''.symm.trans stored'
        exact moves.fixedTerms
      · rw [removed] at stored'
        cases stored'

/-- From any reachable state on, whatever anyone calls: as long as a stream is stored, it has the
id, the sender, the start and cliff times, the kind, the memo and the smallest payment it had, what
was withdrawn from it has not shrunk, and it is cancelled at the time it was cancelled at. Once it
is removed, nothing is stored under its id again. -/
theorem stream_evolves (reached : Reachable address anyCall now s)
    (continued : (system address).Continues (onCalls anyCall) now s later s')
    (stored : s.streams id = some stream) :
    (∀ stream', s'.streams id = some stream' → stream.Evolves stream') ∧
      (s'.streams id = none →
        ∀ final s'', (system address).Continues (onCalls anyCall) later s' final s'' →
          s''.streams id = none) := by
  constructor
  · refine reached.forall_later (fun _ record => stream.Evolves record) continued stored
      (.refl stream) (fun _ _ _ _ _ evolves => evolves) ?_
    intro _ _ _ _ _ _ _ _ formed moves evolves
    exact evolves.trans (moves.evolves formed)
  · -- The id stays used, so no record comes back under it.
    have used : ¬ (s'.book address).Fresh id := by
      induction continued with
      | here => exact reached.book_wellFormed.not_fresh stored
      | tick _ _ ih => exact ih
      | move continued order _ moved ih =>
          have reached' : Reachable address anyCall _ _ := continued.reachable reached
          exact (reached'.used order moved ih).1
    have reached' : Reachable address anyCall later s' := continued.reachable reached
    intro removed final s'' after
    suffices kept : ¬ (s''.book address).Fresh id ∧ s''.streams id = none from kept.2
    induction after with
    | here => exact ⟨used, removed⟩
    | tick _ _ ih => exact ih
    | move continued order _ moved ih =>
        have reached'' : Reachable address anyCall _ _ := continued.reachable reached'
        have step := reached''.used order moved ih.1
        exact ⟨step.1, step.2 ih.2⟩

/-- The sender makes the stream slower and shorter, and cancels it when half of it is over. -/
def Sample.renegotiated : List (Invocation Sample.contract) :=
  [Sample.invocation 1 10 1 (.decreaseRatePerSecond 0 5) (Eq.refl true),
    Sample.invocation 2 20 2 (.withdraw 0) (Eq.refl true),
    Sample.invocation 1 30 3 (.shortenStreamEndTime 0 60) (Eq.refl true),
    Sample.invocation 1 50 4 (.cancelStream 0) (Eq.refl true)]

/-- The record has changed in many ways, but it starts and is paid as agreed. -/
theorem stream_evolves_renegotiated :
    let s := Script.run Sample.twoCreations Sample.genesis
    ∃ stream stream', s.streams 0 = some stream ∧
      (Script.run Sample.renegotiated s).streams 0 = some stream' ∧
      stream.ratePerSecond ≠ stream'.ratePerSecond ∧ stream.status ≠ stream'.status ∧
      stream.Evolves stream' := by
  intro s
  have ordered : Script.Ordered Sample.twoCreations 0 := ⟨by decide, by decide, trivial⟩
  have reached : Reachable Sample.contract anyCall 0 s := Sample.reachable_run ordered
  have ordered' : Script.Ordered Sample.renegotiated 0 :=
    ⟨by decide, by decide, by decide, by decide, trivial⟩
  have continued := Script.continues_run ordered' (Script.permits_anyCall _ s) .here
  have changed : (s.streams 0).map (fun stream => (stream.ratePerSecond, stream.status)) =
      some (10, .active) := by
    decide +kernel
  have changed' : ((Script.run Sample.renegotiated s).streams 0).map
      (fun stream => (stream.ratePerSecond, stream.status)) = some (5, .cancelled) := by
    decide +kernel
  rcases Option.map_eq_some_iff.mp changed with ⟨stream, stored, before⟩
  rcases Option.map_eq_some_iff.mp changed' with ⟨stream', stored', after⟩
  rw [Prod.mk.injEq] at before after
  have evolves := (stream_evolves reached continued stored).1 stream' stored'
  refine ⟨stream, stream', stored, stored', ?_, ?_, evolves⟩
  · rw [before.1, after.1]
    decide
  · rw [before.2, after.2]
    decide

end Wallie.StreamContract
