import Wallie.Properties.HealthView
import Wallie.Properties.ScheduleEnd

/-!
# Reports of health transitions

A top-up, a rate decrease and a change of the end publish one event each, and
never one about the health of the stream. So a transition is reported exactly
when there is none: whether a call makes one is a condition on the terms of the
stream and on the arguments.
-/

namespace Wallie.StreamContract

open Fallible

variable {address : Address} {env : Env} {s s' : State} {stream : Stream} {call : Call}
  {id now : ℕ}

/-- The calls that change the funding or the schedule of stream `id`. -/
def Call.ChangesFunding (id : ℕ) : Call → Prop
  | topUpStream streamId _ _ | decreaseRatePerSecond streamId _
  | shortenStreamEndTime streamId _ | extendStreamEndTime streamId _ => streamId = id
  | _ => False

def Event.IsHealth (id : ℕ) : Event → Prop
  | health streamId _ _ _ => streamId = id
  | _ => False

/-- The call publishes an event about the health of the stream exactly when the health view shows
another flag after it than before it. -/
def ReportsTransition (call : Call) (env : Env) (s : State) (id : ℕ) : Prop :=
  ∃ before viewed after viewed', Runs (getStreamHealth id) env s before viewed ∧
    Runs (getStreamHealth id) env (call.run.commit env s) after viewed' ∧
    ((∃ published, (call.run.commit env s).events = s.events ++ published ∧
        ∃ event ∈ published, event.IsHealth id) ↔
      before.isUnderfunded ≠ after.isUnderfunded)

namespace Stream

/-- The terms stay on one side of the deposit. -/
def KeepsHealth (stream : Stream) (now : ℕ) : Call → Prop
  | .topUpStream _ _ amount => stream.Overspends stream.depositAmount stream.endTime →
      stream.Overspends (stream.depositAmount + amount) stream.endTime
  | .decreaseRatePerSecond _ _ => ¬ stream.Overspends stream.depositAmount stream.endTime
  | .shortenStreamEndTime _ endTime => stream.Overspends stream.depositAmount stream.endTime ↔
      stream.Overspends (stream.shortenedDeposit now endTime) endTime
  | .extendStreamEndTime _ endTime => stream.Overspends stream.depositAmount endTime →
      stream.Overspends stream.depositAmount stream.endTime
  | _ => True

/-- A larger deposit does not turn a covered schedule into an uncovered one. -/
theorem Overspends.of_deposit_le {depositAmount depositAmount' : ℤ} {endTime : ℕ}
    (overspends : stream.Overspends depositAmount endTime)
    (le : depositAmount' ≤ depositAmount) : stream.Overspends depositAmount' endTime :=
  overspends.imp_right fun short => le.trans_lt short

/-- Nor does an earlier end. -/
theorem Overspends.of_end_le {depositAmount : ℤ} {endTime endTime' : ℕ}
    (overspends : stream.Overspends depositAmount endTime)
    (rate_nonneg : 0 ≤ stream.ratePerSecond) (le : endTime ≤ endTime') :
    stream.Overspends depositAmount endTime' := by
  have longer : ((endTime - stream.checkpointedAt : ℕ) : ℤ) ≤
      (endTime' - stream.checkpointedAt : ℕ) := by omega
  have costs := mul_le_mul_of_nonneg_left longer rate_nonneg
  rcases overspends with beyond | short
  · exact Or.inl (beyond.trans_le costs)
  · right
    omega

end Stream

/-! ## What the calls leave -/

/-- The record that a change of the funding or the schedule leaves. -/
def Stream.refunded (stream : Stream) (now : ℕ) : Call → Stream
  | .topUpStream _ _ amount => { stream with depositAmount := stream.depositAmount + amount }
  | .decreaseRatePerSecond _ rate =>
      { stream.checkpointed now rate with
        depositAmount := stream.accruedAt now + rate * (stream.endTime - now : ℕ) }
  | .shortenStreamEndTime _ endTime => stream.shortened now endTime
  | .extendStreamEndTime _ endTime => { stream with endTime }
  | _ => stream

/-- A top-up adds to the deposit, and an extension moves the end back. -/
def Stream.Forward (stream : Stream) : Call → Prop
  | .topUpStream _ _ amount => 0 < amount
  | .extendStreamEndTime _ endTime => stream.endTime < endTime
  | _ => True

/-- A change of the funding or the schedule publishes one event, of its own kind. -/
theorem refunded_of_runs (changes : call.ChangesFunding id) (run : Runs call.run env s () s')
    (stored : s.streams id = some stream) (keyed : stream.streamId = id) :
    stream.Forward call ∧ s'.streams id = some (stream.refunded env.timestamp call) ∧
      ∃ event, s'.events = s.events ++ [event] ∧ ¬ event.IsHealth id := by
  cases call <;> try exact absurd changes not_false
  case topUpStream streamId funder amount =>
    rcases changes with rfl
    rcases topUpStream_cases run with ⟨found, -, stored', -, -, -, -, positive, -, rfl⟩
    obtain rfl : found = stream := Option.some.inj (stored'.symm.trans stored)
    subst keyed
    exact ⟨positive, Function.update_self _ _ _, _, rfl, not_false⟩
  case decreaseRatePerSecond streamId rate =>
    rcases changes with rfl
    rcases decreaseRatePerSecond_cases run with ⟨found, adjusts, -, -, -, -, middle, pushed, rfl⟩
    obtain rfl : found = stream := Option.some.inj (adjusts.stored.symm.trans stored)
    obtain rfl := (runs_pushPositive.mp pushed).2
    subst keyed
    refine ⟨trivial, ?_, _, congrArg (· ++ [_]) State.pushedPositive_events, not_false⟩
    rw [State.pushedPositive_streams]
    exact Function.update_self _ _ _
  case shortenStreamEndTime streamId endTime =>
    rcases changes with rfl
    have shortens : Runs (shortenStreamEndTime streamId endTime) env s () s' := run
    rcases shortens_of_run shortens with ⟨found, shortens⟩
    obtain rfl : found = stream := Option.some.inj (shortens.stored.symm.trans stored)
    have written := shortens.written
    rw [keyed] at written
    rcases shortenStreamEndTime_cases run with ⟨_, -, -, -, -, -, -, middle, pushed, rfl⟩
    obtain rfl := (runs_pushPositive.mp pushed).2
    exact ⟨trivial, written, _, congrArg (· ++ [_]) State.pushedPositive_events, not_false⟩
  case extendStreamEndTime streamId endTime =>
    rcases changes with rfl
    rcases extendStreamEndTime_cases run with ⟨found, adjusts, later, -, -, -, -, rfl⟩
    obtain rfl : found = stream := Option.some.inj (adjusts.stored.symm.trans stored)
    subst keyed
    exact ⟨later, Function.update_self _ _ _, _, rfl, not_false⟩

/-- Whether the flag of the view stays as it is can be told from the terms before the call. -/
theorem Stream.Bounded.keepsHealth_iff (bounded : stream.Bounded)
    (bounded' : (stream.refunded now call).Bounded) (changes : call.ChangesFunding id)
    (forward : stream.Forward call) :
    (stream.refunded now call).isUnderfunded = stream.isUnderfunded ↔
      stream.KeepsHealth now call := by
  rw [Bool.eq_iff_iff,
    isUnderfunded_iff_overspends bounded.rate_nonneg bounded.checkpoint_nonneg,
    isUnderfunded_iff_overspends bounded'.rate_nonneg bounded'.checkpoint_nonneg]
  cases call <;> try exact absurd changes not_false
  case topUpStream streamId funder amount =>
    have positive : 0 < amount := forward
    have more : stream.depositAmount ≤ stream.depositAmount + amount := by omega
    constructor
    · exact fun same => same.mpr
    · exact fun kept => ⟨fun after => after.of_deposit_le more, kept⟩
  case decreaseRatePerSecond streamId rate =>
    have heals : ¬ (stream.refunded now (.decreaseRatePerSecond streamId rate)).Overspends
        (stream.accruedAt now + rate * (stream.endTime - now : ℕ)) stream.endTime := by
      have deposit_le : stream.accruedAt now + rate * (stream.endTime - now : ℕ) ≤ i128.upper :=
        bounded'.deposit_le
      have base_nonneg : 0 ≤ stream.accruedAt now := bounded'.checkpoint_nonneg
      change ¬ (_ < rate * (stream.endTime - now : ℕ) ∨
        _ < min _ (stream.accruedAt now + rate * (stream.endTime - now : ℕ)))
      omega
    constructor
    · exact fun same before => heals (same.mpr before)
    · exact fun covered => iff_of_false heals covered
  case shortenStreamEndTime streamId endTime =>
    exact Iff.comm
  case extendStreamEndTime streamId endTime =>
    have later : stream.endTime < endTime := forward
    constructor
    · exact fun same => same.mp
    · exact fun kept => ⟨kept, fun before => before.of_end_le bounded.rate_nonneg later.le⟩

/-- Nothing is reported when nothing about health is published. -/
theorem reportsTransition_iff {stream' : Stream} (stored : s.streams id = some stream)
    (answers : Answerable env s stream)
    (stored' : (call.run.commit env s).streams id = some stream')
    (answers' : Answerable env (call.run.commit env s) stream')
    (silent : ∀ published, (call.run.commit env s).events = s.events ++ published →
      ∀ event ∈ published, ¬ event.IsHealth id) :
    ReportsTransition call env s id ↔ stream'.isUnderfunded = stream.isUnderfunded := by
  rcases answers.runs_getStreamHealth stored with ⟨before, viewed, run⟩
  rcases answers'.runs_getStreamHealth stored' with ⟨after, viewed', run'⟩
  have flag := (fields_of_getStreamHealth stored run).1
  have flag' := (fields_of_getStreamHealth stored' run').1
  have unpublished : ¬ ∃ published, (call.run.commit env s).events = s.events ++ published ∧
      ∃ event ∈ published, event.IsHealth id := by
    rintro ⟨published, appended, event, member, health⟩
    exact silent published appended event member health
  constructor
  · rintro ⟨before', _, after', _, again, again', reports⟩
    obtain rfl := (run.unique again).1
    obtain rfl := (run'.unique again').1
    rw [← flag, ← flag']
    by_contra differ
    exact unpublished (reports.mpr (Ne.symm differ))
  · intro same
    refine ⟨before, viewed, after, viewed', run, run', iff_of_false unpublished ?_⟩
    rw [flag, flag', same]
    exact not_not.mpr rfl

/-- A successful change of the funding or the schedule publishes nothing about health, so it reports
a transition exactly when it makes none. -/
theorem reportsTransition_iff_same {invocation : Invocation address}
    (reached : Reachable address anyCall now s) (order : now ≤ invocation.env.timestamp)
    (changes : invocation.call.ChangesFunding id) (stored : s.streams id = some stream)
    (run : Runs invocation.call.run invocation.env s () s') :
    ReportsTransition invocation.call invocation.env s id ↔
      (stream.refunded invocation.env.timestamp invocation.call).isUnderfunded =
        stream.isUnderfunded := by
  have keyed := (reached.book_wellFormed.records id stream stored).streamId
  have reached' := reached.invoke invocation order trivial
  rcases refunded_of_runs changes run stored keyed with ⟨_, stored', event, appended, other⟩
  have silent : ∀ published, s'.events = s.events ++ published →
      ∀ event ∈ published, ¬ event.IsHealth id := by
    intro published same
    obtain rfl := List.append_cancel_left (same.symm.trans appended)
    simpa using other
  rw [← commit_of_runs run] at stored' silent
  exact reportsTransition_iff stored (reached.answerable order stored) stored'
    (reached'.answerable le_rfl stored') silent

/-- A failing call publishes nothing and changes nothing. -/
theorem reportsTransition_of_fails (unchanged : call.run.commit env s = s)
    (stored : s.streams id = some stream) (answers : Answerable env s stream) :
    ReportsTransition call env s id := by
  have silent : ∀ published, (call.run.commit env s).events = s.events ++ published →
      ∀ event ∈ published, ¬ event.IsHealth id := by
    intro published same event member
    rw [unchanged] at same
    have empty : published = [] := by simpa using same
    simp [empty] at member
  have stored' := stored
  have answers' := answers
  rw [← unchanged] at stored' answers'
  exact (reportsTransition_iff stored answers stored' answers' silent).mpr rfl

/-- On every reachable state a change of the funding or the schedule of a stored stream reports a
transition of its health if and only if it fails or makes none. -/
theorem health_transition_reported_iff {invocation : Invocation address}
    (reached : Reachable address anyCall now s) (order : now ≤ invocation.env.timestamp)
    (changes : invocation.call.ChangesFunding id) (stored : s.streams id = some stream) :
    ReportsTransition invocation.call invocation.env s id ↔
      (invocation.call.Succeeds invocation.env s →
        stream.KeepsHealth invocation.env.timestamp invocation.call) := by
  have formed := reached.book_wellFormed.records id stream stored
  rcases runs_or_fails invocation.call.run invocation.env s with ⟨_, s', run⟩ | ⟨failure, fails⟩
  · have reached' := reached.invoke invocation order trivial
    rw [commit_of_runs run] at reached'
    rcases refunded_of_runs changes run stored formed.streamId with ⟨forward, stored', _⟩
    have bounded' := (reached'.book_wellFormed.records id _ stored').bounded
    have succeeds : invocation.call.Succeeds invocation.env s := ⟨s', run⟩
    rw [reportsTransition_iff_same reached order changes stored run,
      formed.bounded.keepsHealth_iff bounded' changes forward]
    exact ⟨fun keeps _ => keeps, fun keeps => keeps succeeds⟩
  · have unchanged : invocation.call.run.commit invocation.env s = s :=
      commit_of_fails fun _ _ run => run.not_fails fails
    refine iff_of_true
      (reportsTransition_of_fails unchanged stored (reached.answerable order stored)) ?_
    exact fun succeeds => absurd fails succeeds.choose_spec.not_fails

namespace Sample

/-- The rate of a covered stream is doubled over its deposit. -/
def overspent : List (Invocation contract) :=
  oneCreation 1000 10 0 0 (Eq.refl true) ++
    [invocation 1 0 0 (.updateRate 0 20 sender) (Eq.refl true)]

theorem reachable_overspent : Reachable contract anyCall 0 (Script.run overspent genesis) := by
  have ordered : Script.Ordered overspent 0 := ⟨le_rfl, le_rfl, trivial⟩
  exact reachable_run ordered

/-- The sender adds `amount` tokens after ten seconds. -/
def toppedUp (amount : ℤ)
    (valid : decide (u64.Contains (10 : ℕ) ∧ u32.Contains (1 : ℕ) ∧
      (Call.topUpStream 0 sender amount).WellTyped) = true) : Invocation contract :=
  invocation 1 10 1 (.topUpStream 0 sender amount) valid

/-- Half of what is missing leaves the stream underfunded, and that is not reported. -/
theorem health_transition_reported_iff_half :
    ReportsTransition (.topUpStream 0 sender 500) (Sample.env 1 10 1)
      (Script.run overspent genesis) 0 := by
  let s := Script.run overspent genesis
  have terms : (s.streams 0).map (fun stream => decide
      (stream.Overspends (stream.depositAmount + 500) stream.endTime)) = some true := by
    decide +kernel
  rcases Option.map_eq_some_iff.mp terms with ⟨stream, stored, short⟩
  let invocation := toppedUp 500 (Eq.refl true)
  have changes : invocation.call.ChangesFunding 0 := rfl
  have order : 0 ≤ invocation.env.timestamp := by decide
  exact (health_transition_reported_iff reachable_overspent order changes stored).mpr
    fun _ _ => of_decide_eq_true short

end Sample

/-- A top-up that covers the schedule again is not reported. -/
theorem not_always_health_transition_reported :
    ¬ ∀ now s (invocation : Invocation Sample.contract) id stream,
      Reachable Sample.contract anyCall now s → now ≤ invocation.env.timestamp →
      invocation.call.ChangesFunding id → s.streams id = some stream → stream.Live →
      ReportsTransition invocation.call invocation.env s id := by
  intro always
  let s := Script.run Sample.overspent Sample.genesis
  let invocation := Sample.toppedUp 1000 (Eq.refl true)
  have changes : Call.ChangesFunding 0 invocation.call := rfl
  have changed : (invocation.call.run.commit invocation.env s).streams 0 ≠ s.streams 0 := by
    decide +kernel
  have run := Script.runs_of_changed changed
  have terms : (s.streams 0).map (fun stream => decide (stream.Live ∧
      stream.isUnderfunded = true ∧
      (stream.refunded 10 invocation.call).isUnderfunded = false)) = some true := by
    decide +kernel
  rcases Option.map_eq_some_iff.mp terms with ⟨stream, stored, healed⟩
  rcases of_decide_eq_true healed with ⟨live, before, after⟩
  have reports := always 0 s invocation 0 stream Sample.reachable_overspent (by decide) changes
    stored live
  have same := (reportsTransition_iff_same Sample.reachable_overspent (by decide) changes stored
    run).mp reports
  exact absurd (after.symm.trans (same.trans before)) Bool.false_ne_true

end Wallie.StreamContract
