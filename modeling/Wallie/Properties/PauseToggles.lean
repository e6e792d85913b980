import Mathlib.Data.List.Chain
import Wallie.Ledger.Emissions
import Wallie.Ledger.RunInvariant
import Wallie.Properties.FixedTerms
import Wallie.StreamContract.LifecycleRules
import Wallie.StreamContract.Script

/-!
# Pauses and resumptions in turn

Senders and admins pause and resume a stream by the same two steps, and both
steps look at one ledger that the record notes. So the cooldown holds between any
two of them, whoever made them, and the status of an open stream is that of the
latest one.
-/

namespace Wallie.StreamContract

open Fallible

variable {address : Address} {permitted : State → Env → Call → Prop} {now id : ℕ} {s s' : State}
  {env : Env} {call : Call} {status : StreamStatus} {stream stream' : Stream} {move : Move}
  {past : List (State × Input address)}

instance (call : Call) (env : Env) (s : State) : Decidable (call.Succeeds env s) :=
  decidable_of_iff ((call.run env s).toOption.isSome = true) <| by
    unfold Call.Succeeds Runs
    cases call.run env s with
    | error _ => simp [Except.toOption]
    | ok pair => exact iff_of_true rfl ⟨pair.2, rfl⟩

/-- The stream that the call pauses or resumes, and the status it leaves it in. -/
def Call.togglesPause : Call → Option (ℕ × StreamStatus)
  | pauseStream streamId _ | pauseStreamAsAdmin streamId _ => some (streamId, .paused)
  | resumeStream streamId | resumeStreamAsAdmin streamId => some (streamId, .active)
  | _ => none

/-- A pause or a resumption: the status it leaves, and the ledger it is made in. -/
structure PauseToggle where
  status : StreamStatus
  sequence : ℕ
  deriving DecidableEq

/-- A stream starts active, and its record notes ledger 0. -/
def PauseToggle.creation : PauseToggle where
  status := .active
  sequence := 0

/-- The later one is made at least the cooldown after the earlier one. -/
def PauseToggle.Cooled (later earlier : PauseToggle) : Prop :=
  earlier.sequence + minPauseIntervalLedgers ≤ later.sequence

instance : Trans PauseToggle.Cooled PauseToggle.Cooled PauseToggle.Cooled where
  trans first second := by
    unfold PauseToggle.Cooled at *
    omega

/-- The later one comes after the cooldown and leaves the other status. -/
structure PauseToggle.Follows (later earlier : PauseToggle) : Prop where
  turned : later.status ≠ earlier.status
  cooled : later.Cooled earlier

/-- What the call does to the pause of the stream, if it succeeds. -/
def Call.pauseToggle (call : Call) (id : ℕ) (env : Env) (s : State) : Option PauseToggle :=
  match call.togglesPause with
  | some (streamId, status) =>
      if streamId = id ∧ call.Succeeds env s then some ⟨status, env.sequence⟩ else none
  | none => none

def Input.pauseToggle (id : ℕ) (s : State) : Input address → Option PauseToggle
  | token _ => none
  | invoke invocation => invocation.call.pauseToggle id invocation.env s

/-- The pauses and resumptions of the stream in a run, the latest first, and its creation. -/
def pauseToggles (id : ℕ) (past : List (State × Input address)) : List PauseToggle :=
  (past.filterMap fun entry => entry.2.pauseToggle id entry.1) ++ [.creation]

/-- The record has the status and the ledger that the toggle left, unless it is finished. -/
structure Stream.LeftBy (stream : Stream) (toggle : PauseToggle) : Prop where
  sequence : stream.lastPauseToggleLedger = toggle.sequence
  status : stream.Live → stream.status = toggle.status

/-! ## Steps -/

theorem pauseToggles_cons {state : State} {input : Input address} :
    pauseToggles id ((state, input) :: past) =
      (input.pauseToggle id state).toList ++ pauseToggles id past := by
  unfold pauseToggles
  cases toggled : input.pauseToggle id state <;> simp [toggled]

theorem Call.pauseToggle_of_fails (failed : ¬ call.Succeeds env s) :
    call.pauseToggle id env s = none := by
  unfold pauseToggle
  split
  · exact if_neg fun both => failed both.2
  · rfl

theorem Call.pauseToggle_of_silent (silent : ∀ status, call.togglesPause ≠ some (id, status)) :
    call.pauseToggle id env s = none := by
  unfold pauseToggle
  split
  · next streamId status toggles =>
      refine if_neg ?_
      rintro ⟨rfl, _⟩
      exact silent status toggles
  · rfl

theorem Call.pauseToggle_of_runs (run : Runs call.run env s () s')
    (toggles : call.togglesPause = some (id, status)) :
    call.pauseToggle id env s = some ⟨status, env.sequence⟩ := by
  unfold pauseToggle
  rw [toggles]
  exact if_pos ⟨rfl, s', run⟩

/-- The step turns the status of a stored stream, at least the cooldown after the ledger its
record notes, and notes its own. -/
def Turns (id : ℕ) (status : StreamStatus) (env : Env) (streams streams' : ℕ → Option Stream) :
    Prop :=
  ∃ stream, streams id = some stream ∧ stream.Live ∧ status ≠ stream.status ∧
    stream.lastPauseToggleLedger + minPauseIntervalLedgers ≤ env.sequence ∧
    streams' = Function.update streams id
      (some { stream with status, lastPauseToggleLedger := env.sequence })

theorem pauseLoadedStream_turns (run : Runs (pauseLoadedStream stream) env s () s')
    (stored : s.streams id = some stream) (keyed : stream.streamId = id) :
    Turns id .paused env s.streams s'.streams := by
  rcases pauseLoadedStream_cases run with ⟨_, active, cooled, rfl⟩
  have positive : 0 < minPauseIntervalLedgers := by decide
  refine ⟨stream, stored, Or.inl active, ?_, by omega, ?_⟩
  · rw [active]
    decide
  · rw [← keyed]

theorem resumeLoadedStream_turns (run : Runs (resumeLoadedStream stream) env s () s')
    (stored : s.streams id = some stream) (keyed : stream.streamId = id) :
    Turns id .active env s.streams s'.streams := by
  rcases resumeLoadedStream_cases run with ⟨_, paused, cooled, rfl⟩
  have positive : 0 < minPauseIntervalLedgers := by decide
  refine ⟨stream, stored, Or.inr paused, ?_, by omega, ?_⟩
  · rw [paused]
    decide
  · rw [← keyed]

theorem Call.turns (run : Runs call.run env s () s')
    (toggles : call.togglesPause = some (id, status))
    (keyed : ∀ id stream, s.streams id = some stream → stream.streamId = id) :
    Turns id status env s.streams s'.streams := by
  cases call <;> simp only [togglesPause, reduceCtorEq, Option.some.injEq, Prod.mk.injEq] at toggles
  case pauseStream =>
    rcases toggles with ⟨rfl, rfl⟩
    rcases pauseStream_cases run with ⟨stream, _, stored, _, step, rfl⟩
    have turns := pauseLoadedStream_turns step stored (keyed _ stream stored)
    exact turns
  case pauseStreamAsAdmin =>
    rcases toggles with ⟨rfl, rfl⟩
    rcases pauseStreamAsAdmin_cases run with ⟨_, stream, _, _, _, stored, step, rfl⟩
    have turns := pauseLoadedStream_turns step stored (keyed _ stream stored)
    exact turns
  case resumeStream =>
    rcases toggles with ⟨rfl, rfl⟩
    rcases resumeStream_cases run with ⟨stream, _, stored, _, step, rfl⟩
    have turns := resumeLoadedStream_turns step stored (keyed _ stream stored)
    exact turns
  case resumeStreamAsAdmin =>
    rcases toggles with ⟨rfl, rfl⟩
    rcases resumeStreamAsAdmin_cases run with ⟨_, stream, _, _, _, stored, step, rfl⟩
    have turns := resumeLoadedStream_turns step stored (keyed _ stream stored)
    exact turns

/-- The moves other than pauses and resumptions leave both as they are, or end the stream. -/
theorem Stream.Moves.leftBy {toggle : PauseToggle} (moves : stream.Moves now move stream')
    (unpausing : move ≠ .pause) (unresuming : move ≠ .resume) (left : stream.LeftBy toggle) :
    stream'.LeftBy toggle := by
  cases moves with
  | pause _ _ => exact absurd rfl unpausing
  | resume _ _ => exact absurd rfl unresuming
  | @withdraw _ amount _ _ _ _ _ _ _ =>
      refine ⟨left.sequence, fun live => ?_⟩
      by_cases finishes : stream.Live ∧ stream.withdrawnAmount + amount = stream.depositAmount
      · exact absurd ((withdrawnTo_status _ _).trans (if_pos finishes)) live.not_completed
      · have same := (withdrawnTo_status _ _).trans (if_neg finishes)
        exact same.trans (left.status (live.imp same.symm.trans same.symm.trans))
  | cancel _ _ | settle _ _ _ | keeperCancel _ _ _ _ =>
      refine ⟨left.sequence, ?_⟩
      rintro (active | paused)
      · cases active
      · cases paused
  | topUp _ _ _ _ _ | raiseRate _ _ _ _ | lowerRate _ _ _ _ _ _ _ | reprice _ _
  | shorten _ _ _ _ _ _ _ _ | extend _ _ _ _ _ | rotate => exact ⟨left.sequence, left.status⟩

theorem Call.Changing.toggles {held : ℤ} (changing : call.Changing held id move) :
    (move = .pause → call.togglesPause = some (id, .paused)) ∧
      (move = .resume → call.togglesPause = some (id, .active)) := by
  cases changing <;> simp [togglesPause]

/-- A stream that a call creates is as its creation left it. -/
theorem Invocation.created_leftBy (invocation : Invocation address)
    (run : Runs invocation.call.run invocation.env s () s')
    (formed : (s.book address).WellFormed invocation.env.timestamp)
    (absent : s.streams id = none) (stored' : s'.streams id = some stream') :
    stream'.LeftBy .creation := by
  have keyed : ∀ other stream, s.streams other = some stream → stream.streamId ≠ id := by
    rintro other stream stored rfl
    rw [(formed.records other stream stored).streamId, stored] at absent
    cases absent
  have step : Input.Steps s (.invoke invocation) s' := (commit_of_runs run).symm
  have formed' := (invocation.runs step formed).wellFormed formed
  let holds (stream : Stream) : Prop := stream.streamId = id → stream.LeftBy .creation
  have created : ∀ other stream, s'.streams other = some stream → holds stream := by
    refine invocation.forall_stored run formed ?_ ?_ ?_
    · exact fun other stream stored same => absurd same (keyed other stream stored)
    · exact fun _ _ _ _ _ => ⟨rfl, fun _ => rfl⟩
    · intro other move stream after _ stored moves _ same
      have kept : after.streamId = stream.streamId := congrArg FixedTerms.streamId moves.fixedTerms
      exact absurd (kept.symm.trans same) (keyed other stream stored)
  exact created id stream' stored' (formed'.records id stream' stored').streamId

/-! ## Runs -/

/-- How the toggles of a stream in a run say what its record is. -/
structure State.FollowsToggles (address : Address) (id : ℕ)
    (past : List (State × Input address)) (s : State) : Prop where
  follow : (pauseToggles id past).IsChain PauseToggle.Follows
  latest : ∀ stream, s.streams id = some stream →
    ∀ toggle ∈ (pauseToggles id past).head?, stream.LeftBy toggle
  fresh : (s.book address).Fresh id → pauseToggles id past = [.creation]

/-- What the toggles say is kept by a step that is none of the stream. -/
theorem State.FollowsToggles.silent {input : Input address}
    (follows : s.FollowsToggles address id past)
    (quiet : input.pauseToggle id s = none)
    (fresh : (s'.book address).Fresh id → (s.book address).Fresh id)
    (kept : ∀ stream', s'.streams id = some stream' →
      ∀ toggle ∈ (pauseToggles id past).head?, stream'.LeftBy toggle) :
    s'.FollowsToggles address id ((s, input) :: past) := by
  have same : pauseToggles id ((s, input) :: past) = pauseToggles id past := by
    rw [pauseToggles_cons, quiet]
    rfl
  refine ⟨?_, ?_, ?_⟩
  · rw [same]
    exact follows.follow
  · rw [same]
    exact kept
  · rw [same]
    exact fun unused => follows.fresh (fresh unused)

/-- A pause or a resumption follows the one before it. -/
theorem State.FollowsToggles.turn {input : Input address}
    (follows : s.FollowsToggles address id past)
    (toggled : input.pauseToggle id s = some ⟨status, env.sequence⟩)
    (turns : Turns id status env s.streams s'.streams) (used : ¬ (s'.book address).Fresh id) :
    s'.FollowsToggles address id ((s, input) :: past) := by
  rcases turns with ⟨stream, stored, live, turned, cooled, written⟩
  have extended : pauseToggles id ((s, input) :: past) =
      ⟨status, env.sequence⟩ :: pauseToggles id past := by
    rw [pauseToggles_cons, toggled]
    rfl
  refine ⟨?_, ?_, fun unused => absurd unused used⟩
  · rw [extended, List.isChain_cons]
    refine ⟨?_, follows.follow⟩
    intro latest member
    have left := follows.latest stream stored latest member
    refine ⟨?_, ?_⟩
    · rw [← left.status live]
      exact turned
    · rw [PauseToggle.Cooled, ← left.sequence]
      exact cooled
  · intro stream' stored' toggle latest
    rw [extended, List.head?_cons, Option.mem_some_iff] at latest
    rw [written, Function.update_self, Option.some.injEq] at stored'
    rw [← latest, ← stored']
    exact ⟨rfl, fun _ => rfl⟩

theorem Recorded.followsToggles (recorded : Recorded address permitted past now s) (id : ℕ) :
    s.FollowsToggles address id past := by
  refine recorded.runs_invariant (fun past s => s.FollowsToggles address id past) ?_ ?_ ?_ ?_
  · intro instant s fresh
    rcases fresh.eq_deployed with ⟨balances, allowances, config, rfl⟩
    refine ⟨List.isChain_singleton _, ?_, fun _ => rfl⟩
    rintro stream ⟨⟩
  · intro past s activity follows
    exact follows.silent rfl (fun unused => unused) follows.latest
  · intro past s invocation failed follows
    exact follows.silent (Call.pauseToggle_of_fails failed) (fun unused => unused) follows.latest
  · intro past instant s invocation s' recorded order _ run follows
    have reached : Reachable address permitted instant s := recorded.reachable
    have formed := reached.book_wellFormed.mono order
    have keyed : ∀ id stream, s.streams id = some stream → stream.streamId = id :=
      fun id stream stored => (formed.records id stream stored).streamId
    have step : Input.Steps s (.invoke invocation) s' := (commit_of_runs run).symm
    have order : instant ≤ (Input.invoke invocation).clock := order
    by_cases toggling : ∃ status, invocation.call.togglesPause = some (id, status)
    · rcases toggling with ⟨status, toggles⟩
      have turns := Call.turns run toggles keyed
      refine follows.turn (Call.pauseToggle_of_runs run toggles) turns ?_
      rcases turns with ⟨stream, stored, _⟩
      exact (reached.used order step (reached.book_wellFormed.not_fresh stored)).1
    · have silent : ∀ status, invocation.call.togglesPause ≠ some (id, status) :=
        fun status toggles => toggling ⟨status, toggles⟩
      refine follows.silent (Call.pauseToggle_of_silent silent) ?_ ?_
      · intro unused
        by_contra used
        exact (reached.used order step used).1 unused
      · intro stream' stored'
        cases stored : s.streams id with
        | none =>
            have fresh : (s.book address).Fresh id := by
              by_contra used
              rw [(reached.used order step used).2 stored] at stored'
              cases stored'
            rw [follows.fresh fresh]
            rintro toggle ⟨⟩
            exact invocation.created_leftBy run formed stored stored'
        | some stream =>
            intro toggle latest
            have left := follows.latest stream stored toggle latest
            rcases reached.record_cases order step stored with
              same | ⟨_, ⟨⟩, ⟨move, after, makes, moves, stored''⟩ | ⟨_, removed⟩⟩
            · cases same.symm.trans stored'
              exact left
            · cases stored''.symm.trans stored'
              have toggles := makes.emits.changing.toggles
              refine moves.leftBy ?_ ?_ left
              · exact fun pauses => silent _ (toggles.1 pauses)
              · exact fun resumes => silent _ (toggles.2 resumes)
            · cases removed.symm.trans stored'

/-- In every run, whatever anyone calls: the pauses and resumptions of a stream alternate, from a
pause on, any two of them are at least the cooldown apart, and the record of a stream says what the
latest one left. -/
theorem pauses_alternate (recorded : Recorded address anyCall past now s) (id : ℕ) :
    ((pauseToggles id past).IsChain fun later earlier => later.status ≠ earlier.status) ∧
      (pauseToggles id past).Pairwise PauseToggle.Cooled ∧
      ∀ stream, s.streams id = some stream → ∀ toggle ∈ (pauseToggles id past).head?,
        stream.lastPauseToggleLedger = toggle.sequence ∧
          (stream.Live → stream.status = toggle.status) := by
  have follows := recorded.followsToggles id
  refine ⟨follows.follow.imp fun _ _ follows => follows.turned, ?_, ?_⟩
  · have apart := follows.follow.imp fun _ _ follows => follows.cooled
    exact List.isChain_iff_pairwise.mp apart
  · intro stream stored toggle latest
    have left := follows.latest stream stored toggle latest
    exact ⟨left.sequence, left.status⟩

namespace Sample

/-- The sender pauses the stream, the admin resumes it, the sender is too early to pause it again,
and the admin is not. -/
def turns : List (Invocation contract) :=
  oneCreation 1000 10 0 0 (Eq.refl true) ++
    [invocation 1 20 20 (.pauseStream 0 .operational) (Eq.refl true),
      invocation 0 40 40 (.resumeStreamAsAdmin 0) (Eq.refl true),
      invocation 1 50 56 (.pauseStream 0 .operational) (Eq.refl true),
      invocation 0 60 57 (.pauseStreamAsAdmin 0 .compliance) (Eq.refl true)]

end Sample

/-- The call of ledger 56 does nothing. -/
theorem pauses_alternate_turns :
    let past := Script.past Sample.turns Sample.genesis ++ []
    pauseToggles 0 past = [⟨.paused, 57⟩, ⟨.active, 40⟩, ⟨.paused, 20⟩, ⟨.active, 0⟩] ∧
      (pauseToggles 0 past).Pairwise PauseToggle.Cooled := by
  intro past
  have ordered : Script.Ordered Sample.turns 0 :=
    ⟨by decide, by decide, by decide, by decide, by decide, trivial⟩
  have recorded := Script.recorded_run ordered (Script.permits_anyCall _ _)
    (.start Sample.fresh_genesis)
  exact ⟨by decide +kernel, (pauses_alternate recorded 0).2.1⟩

end Wallie.StreamContract
