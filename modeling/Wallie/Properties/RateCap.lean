import Wallie.Ledger.Emissions
import Wallie.Ledger.RunInvariant
import Wallie.Properties.EmergencyPause

/-!
# The cap on rates

Three entrypoints change the rate of a stream. One checks the kind of the
stream, the cap and the emergency pause, one leaves out the cap, and one leaves
out all three.
-/

namespace Wallie.StreamContract

open Fallible

variable {address : Address} {permitted : State → Env → Call → Prop} {now id : ℕ} {s s' : State}
  {env : Env} {rate held : ℤ} {stream stream' : Stream} {move : Move} {call : Call}

/-- Rates are changed on linear streams only, to positive values up to the cap, and not during an
emergency pause. -/
def RatesCapped (s s' : State) : Prop :=
  ∀ id stream stream', s.streams id = some stream → s'.streams id = some stream' →
    stream'.ratePerSecond ≠ stream.ratePerSecond →
      stream.kind = .linear ∧ 0 < stream'.ratePerSecond ∧
        stream'.ratePerSecond ≤ s.maxRatePerSecond ∧ s.globalEmergencyPaused = false

/-- What the entrypoints do not check themselves. -/
def withinRateCap : State → Env → Call → Prop
  | s, _, .updateRate id rate _ => ∀ stream, s.streams id = some stream →
      rate ≠ stream.ratePerSecond →
        stream.kind = .linear ∧ rate ≤ s.maxRatePerSecond ∧ s.globalEmergencyPaused = false
  | s, _, .decreaseRatePerSecond _ rate => rate ≤ s.maxRatePerSecond
  | _, _, _ => True

theorem capped_of_updateRatePerSecond (run : Runs (updateRatePerSecond id rate) env s () s') :
    0 < rate ∧ rate ≤ s.maxRatePerSecond ∧ s.globalEmergencyPaused = false := by
  rcases updateRatePerSecond_cases run with ⟨stream, adjusts, positive, -, capped, -, -⟩
  exact ⟨positive, capped, adjusts.running⟩

theorem unpaused_of_decreaseRatePerSecond
    (run : Runs (decreaseRatePerSecond id rate) env s () s') :
    s.globalEmergencyPaused = false := by
  rcases decreaseRatePerSecond_cases run with ⟨stream, adjusts, -⟩
  exact adjusts.running

/-- A move that changes the rate, with what its entrypoint checks and what it does not. -/
theorem Stream.Moves.capped (moves : stream.Moves now move stream')
    (changing : call.Changing held id move) (run : Runs call.run env s () s')
    (stored : s.streams id = some stream) (allowed : withinRateCap s env call)
    (changed : stream'.ratePerSecond ≠ stream.ratePerSecond) :
    stream.kind = .linear ∧ 0 < stream'.ratePerSecond ∧
      stream'.ratePerSecond ≤ s.maxRatePerSecond ∧ s.globalEmergencyPaused = false := by
  cases moves with
  | raiseRate _ linear raised _ =>
      cases changing
      exact ⟨linear, capped_of_updateRatePerSecond run⟩
  | lowerRate _ linear _ positive _ _ _ =>
      cases changing
      exact ⟨linear, positive, allowed, unpaused_of_decreaseRatePerSecond run⟩
  | reprice _ positive =>
      cases changing
      rcases allowed stream stored changed with ⟨linear, capped, unpaused⟩
      exact ⟨linear, positive, capped, unpaused⟩
  | withdraw _ _ _ _ _ _ | topUp _ _ _ _ _ | shorten _ _ _ _ _ _ _ _ | extend _ _ _ _ _
  | pause _ _ | resume _ _ | cancel _ _ | settle _ _ _ | keeperCancel _ _ _ _ | rotate =>
      exact absurd rfl changed

theorem Stream.Moves.kind (moves : stream.Moves now move stream') :
    stream'.kind = stream.kind := by
  cases moves <;> rfl

/-- A call that succeeds respects the cap exactly when it meets the condition. -/
theorem Invocation.ratesCapped_iff (invocation : Invocation address)
    (run : Runs invocation.call.run invocation.env s () s')
    (formed : (s.book address).WellFormed invocation.env.timestamp) :
    RatesCapped s s' ↔ withinRateCap s invocation.env invocation.call := by
  constructor
  · intro capped
    rcases invocation with ⟨env, call, rfl, noSelfAuth, timestamp, sequence, wellTyped⟩
    cases call with
    | updateRate id rate caller =>
        intro stream stored changed
        rcases (updateRate_performs run formed).moves with
          ⟨_, before, after, rfl, found, moves, found'⟩
        rw [stored, Option.some.injEq] at found
        subst found
        cases moves with
        | reprice _ _ =>
            rcases capped id stream _ stored found' changed with ⟨linear, _, within, unpaused⟩
            exact ⟨linear, within, unpaused⟩
    | decreaseRatePerSecond id rate =>
        rcases (decreaseRatePerSecond_performs run formed).moves with
          ⟨_, before, after, ⟨_, rfl⟩, stored, moves, stored'⟩
        cases moves with
        | lowerRate _ _ _ _ lowered _ _ =>
            exact (capped id before _ stored stored' lowered.ne).2.2.1
    | _ => trivial
  · intro allowed id stream stream' stored stored' changed
    have step : Input.Steps s (.invoke invocation) s' := (commit_of_runs run).symm
    rcases (invocation.runs step formed).record_cases formed stored with same | moved | closed
    · have same := Option.some.inj (stored'.symm.trans same)
      exact absurd (congrArg Stream.ratePerSecond same) changed
    · rcases moved with ⟨move, after, makes, moves, found⟩
      obtain rfl := Option.some.inj (stored'.symm.trans found)
      exact moves.capped makes.emits.changing run stored allowed changed
    · cases stored'.symm.trans closed.2

/-- A step respects the cap exactly when it meets the condition, if it is a call that succeeds. -/
theorem Reachable.ratesCapped_iff {input : Input address}
    (reached : Reachable address permitted now s) (order : now ≤ input.clock)
    (step : Input.Steps s input s') :
    RatesCapped s s' ↔ onCalls (onSuccess withinRateCap) s input := by
  have unchanged : RatesCapped s s := by
    intro id stream stream' stored stored' changed
    rw [stored, Option.some.injEq] at stored'
    exact absurd (congrArg Stream.ratePerSecond stored').symm changed
  cases input with
  | token activity =>
      rcases step with ⟨_, rfl⟩
      exact iff_of_true unchanged trivial
  | invoke invocation =>
      rcases step.invoke_cases with run | ⟨failed, rfl⟩
      · rw [invocation.ratesCapped_iff run (reached.book_wellFormed.mono order)]
        exact ⟨fun allowed _ => allowed, fun allowed => allowed ⟨s', run⟩⟩
      · exact iff_of_true unchanged fun ran => absurd ran failed

/-- A cliff-only stream has no rate as long as rates are changed on linear streams only. -/
theorem Reachable.rate_of_cliffOnly (reached : Reachable address (onSuccess withinRateCap) now s)
    (stored : s.streams id = some stream) (cliffOnly : stream.kind = .cliffOnly) :
    stream.ratePerSecond = 0 := by
  refine reached.forall_stored
    (fun _ stream => stream.kind = .cliffOnly → stream.ratePerSecond = 0) ?_ ?_ ?_ stored cliffOnly
  · exact fun instant id sender params valid => valid.rate_of_cliffOnly
  · exact fun _ _ _ _ _ _ kept => kept
  · intro s invocation id move stream stream' allowed makes stored _ moves kept cliffOnly'
    have cliffOnly : stream.kind = .cliffOnly := moves.kind ▸ cliffOnly'
    by_contra nonzero
    rw [← kept cliffOnly] at nonzero
    rcases makes.succeeds with ⟨s', run⟩
    have linear := (moves.capped makes.emits.changing run stored (allowed ⟨s', run⟩) nonzero).1
    rw [cliffOnly] at linear
    cases linear

/-- In every run in which `updateRate` changes rates of linear streams only, up to the cap and not
during a pause, and `decreaseRatePerSecond` sets rates up to the cap, a cliff-only stream has rate
0. There a step respects the cap exactly when it goes on with such a run. -/
theorem rate_changes_capped (reached : Reachable address (onSuccess withinRateCap) now s) :
    (∀ id stream, s.streams id = some stream → stream.kind = .cliffOnly →
      stream.ratePerSecond = 0) ∧
    ∀ (input : Input address) s', now ≤ input.clock → Input.Steps s input s' →
      (RatesCapped s s' ↔ onCalls (onSuccess withinRateCap) s input) :=
  ⟨fun _ _ stored => reached.rate_of_cliffOnly stored,
    fun _ _ order step => reached.ratesCapped_iff order step⟩

/-- The cap is lowered below the rate of the stream. -/
def Sample.lowCap : List (Invocation Sample.contract) :=
  Sample.oneCreation 1000 10 0 0 (Eq.refl true) ++
    [Sample.invocation 0 0 0 (.setMaxRatePerSecond 5) (Eq.refl true)]

theorem Sample.reachable_lowCap {permitted : State → Env → Call → Prop}
    (created : ∀ s env sender params, permitted s env (.createStream sender params))
    (capped : ∀ s env rate, permitted s env (.setMaxRatePerSecond rate)) :
    Reachable Sample.contract permitted 0 (Script.run Sample.lowCap Sample.genesis) := by
  have ordered : Script.Ordered Sample.lowCap 0 := ⟨le_rfl, le_rfl, trivial⟩
  exact Script.reachable_run ordered ⟨created _ _ _ _, capped _ _ _, trivial⟩
    (Sample.reachable_genesis _)

/-- A rate that is lowered to the cap. -/
theorem rate_changes_capped_lowered :
    let s := Script.run Sample.lowCap Sample.genesis
    let lowering := Sample.invocation 1 10 0 (.decreaseRatePerSecond 0 5) (Eq.refl true)
    RatesCapped s (lowering.call.run.commit lowering.env s) := by
  intro s lowering
  have reached : Reachable Sample.contract (onSuccess withinRateCap) 0 s :=
    Sample.reachable_lowCap (fun _ _ _ _ _ => trivial) fun _ _ _ _ => trivial
  have within : (5 : ℤ) ≤ s.maxRatePerSecond := by decide
  exact ((rate_changes_capped reached).2 (.invoke lowering) _ (Nat.zero_le _) rfl).mpr
    fun _ => within

/-- `updateRate` sets a rate of 20 above a cap of 5. -/
theorem not_always_rate_changes_capped :
    ¬ ∀ now s, Reachable Sample.contract anyCall now s →
      (∀ id stream, s.streams id = some stream → stream.kind = .cliffOnly →
        stream.ratePerSecond = 0) ∧
      ∀ (input : Input Sample.contract) s', now ≤ input.clock → Input.Steps s input s' →
        RatesCapped s s' := by
  intro always
  let s := Script.run Sample.lowCap Sample.genesis
  let s' := Sample.repricing.call.run.commit Sample.repricing.env s
  have reached : Reachable Sample.contract anyCall 0 s :=
    Sample.reachable_lowCap (fun _ _ _ _ => trivial) fun _ _ _ => trivial
  have capped : RatesCapped s s' :=
    (always 0 s reached).2 (.invoke Sample.repricing) s' (Nat.zero_le _) rfl
  have before : (s.streams 0).map Stream.ratePerSecond = some 10 := by decide
  have after : (s'.streams 0).map Stream.ratePerSecond = some 20 := by decide
  rcases Option.map_eq_some_iff.mp before with ⟨stream, stored, rate⟩
  rcases Option.map_eq_some_iff.mp after with ⟨stream', stored', rate'⟩
  have within := (capped 0 stream stream' stored stored' (by rw [rate, rate']; decide)).2.2.1
  rw [rate'] at within
  exact absurd within (by decide)

end Wallie.StreamContract
