import Wallie.Ledger.Creations
import Wallie.Ledger.Emissions
import Wallie.StreamContract.EntrypointWrites
import Wallie.StreamContract.Script

/-!
# The emergency pause

Each entrypoint checks the emergency pause by itself. Those that check it fail
while it is set; `pauseStream`, `resumeStream`, `updateRate` and `keeperCancel`
do not check it and go on to change streams.
-/

namespace Wallie.StreamContract

open Fallible

variable {address : Address} {now id : ℕ} {s s' : State} {env : Env}
  {permitted : State → Env → Call → Prop} {stream stream' : Stream} {call : Call} {done : Unit}
  {α β : Type} {result : β}

/-- The overrides of the admin, the sweep, the removal of settled streams and the operations on
the pause flags themselves. -/
def Call.PauseExempt : Call → Prop
  | cancelStreamAsAdmin _ | pauseStreamAsAdmin _ _ | resumeStreamAsAdmin _ | sweepExcess _
  | closeCompletedStream _ | closeCancelledStream _ | setGlobalEmergencyPaused _ | globalResume
  | setContractPaused _ | pauseProtocol _ _ | resumeProtocol _ => True
  | _ => False

/-- The calls that change a stream without a look at the emergency pause. -/
def Call.IgnoresPause (s : State) : Call → Prop
  | pauseStream _ _ | resumeStream _ | keeperCancel _ _ => True
  | updateRate id ratePerSecond _ =>
      (s.streams id).map Stream.ratePerSecond ≠ some ratePerSecond
  | _ => False

/-- What the emergency pause protects of a stream. -/
structure StreamTerms where
  status : StreamStatus
  ratePerSecond : ℤ
  startTime : ℕ
  cliffTime : ℕ
  endTime : ℕ
  depositAmount : ℤ
  withdrawnAmount : ℤ

def Stream.terms (stream : Stream) : StreamTerms where
  status := stream.status
  ratePerSecond := stream.ratePerSecond
  startTime := stream.startTime
  cliffTime := stream.cliffTime
  endTime := stream.endTime
  depositAmount := stream.depositAmount
  withdrawnAmount := stream.withdrawnAmount

/-- No token has moved, and the same streams are stored on the same terms. -/
structure Frozen (s s' : State) : Prop where
  balances : s'.balances = s.balances
  terms : ∀ id, (s'.streams id).map Stream.terms = (s.streams id).map Stream.terms

theorem Frozen.refl (s : State) : Frozen s s :=
  ⟨rfl, fun _ => rfl⟩

theorem Frozen.of_same (streams : s'.streams = s.streams) (balances : s'.balances = s.balances) :
    Frozen s s' :=
  ⟨balances, fun id => by rw [streams]⟩

/-! ## Guarded entrypoints -/

/-- What follows the guard runs only without an emergency pause. -/
theorem unpaused_of_guard {next : Unit → Contract β}
    (run : Runs (requireNotGloballyPaused >>= next) env s result s') :
    s.globalEmergencyPaused = false := by
  simp only [runs_bind, runs_requireNotGloballyPaused] at run
  rcases run with ⟨_, _, ⟨unpaused, _⟩, _⟩
  exact unpaused

theorem unpaused_of_creation_guard {next : Unit → Contract β}
    (run : Runs (requireNotCreationPaused >>= next) env s result s') :
    s.globalEmergencyPaused = false := by
  simp only [runs_bind, runs_requireNotCreationPaused] at run
  rcases run with ⟨_, _, ⟨⟨unpaused, _⟩, _⟩, _⟩
  exact unpaused

/-- A check of the authorisation before the guard changes nothing. -/
theorem runs_of_requireAuth {sender : Address} {next : Unit → Contract β}
    (run : Runs (requireAuth sender >>= next) env s result s') :
    Runs (next ()) env s result s' := by
  simp only [runs_bind, runs_requireAuth, and_assoc, exists_and_left, exists_eq_left] at run
  rcases run with ⟨_, _, run⟩
  exact run

theorem unpaused_of_createStream {sender : Address} {params : CreateStreamParams} {created : ℕ}
    (run : Runs (createStream sender params) env s created s') :
    s.globalEmergencyPaused = false :=
  unpaused_of_creation_guard (runs_of_requireAuth run)

theorem unpaused_of_createStreamRelative {sender : Address} {rel : CreateStreamRelativeParams}
    {created : ℕ} (run : Runs (createStreamRelative sender rel) env s created s') :
    s.globalEmergencyPaused = false := by
  rcases createStreamRelative_cases run with ⟨params, _, created⟩
  exact unpaused_of_createStream created

theorem unpaused_of_createStreams {sender : Address} {streams : List CreateStreamParams}
    {ids : List ℕ} (run : Runs (createStreams sender streams) env s ids s') :
    s' = s ∨ s.globalEmergencyPaused = false := by
  rcases runs_createStreams.mp run with ⟨_, ⟨_, _, same⟩ | ⟨_, ⟨unpaused, _⟩, _⟩⟩
  · exact Or.inl same
  · exact Or.inr unpaused

theorem unpaused_of_createStreamsRelative {sender : Address}
    {rels : List CreateStreamRelativeParams} {ids : List ℕ}
    (run : Runs (createStreamsRelative sender rels) env s ids s') :
    s' = s ∨ s.globalEmergencyPaused = false := by
  rcases createStreamsRelative_cases run with ⟨_, _, same⟩ | ⟨_, streams, _, _, created⟩
  · exact Or.inl same
  · exact unpaused_of_createStreams created

theorem unpaused_of_createStreamsPartial {sender : Address} {streams : List CreateStreamParams}
    {results : List CreateStreamResult}
    (run : Runs (createStreamsPartial sender streams) env s results s') :
    s' = s ∨ s.globalEmergencyPaused = false := by
  rcases runs_ite.mp (runs_of_requireAuth run) with ⟨_, done⟩ | ⟨_, run⟩
  · exact Or.inl (runs_pure.mp done).2
  · exact Or.inr (unpaused_of_creation_guard run)

theorem unpaused_of_createStreamFromTemplate {sender recipient : Address} {templateId : ℕ}
    {depositAmount ratePerSecond withdrawDustThreshold : ℤ} {memo : Option Bytes}
    {metadata : Option Metadata} {kind : StreamKind} {created : ℕ}
    (run : Runs (createStreamFromTemplate sender templateId recipient depositAmount ratePerSecond
      withdrawDustThreshold memo metadata kind) env s created s') :
    s.globalEmergencyPaused = false := by
  rcases createStreamFromTemplate_cases run with ⟨rel, _, created⟩
  exact unpaused_of_createStreamRelative created

/-! ## Unguarded entrypoints -/

theorem terms_update (stored : s.streams id = some stream) (same : stream'.terms = stream.terms)
    (key : ℕ) : (Function.update s.streams id (some stream') key).map Stream.terms =
      (s.streams key).map Stream.terms := by
  rcases eq_or_ne key id with rfl | other
  · rw [Function.update_self, stored, Option.map_some, Option.map_some, same]
  · rw [Function.update_of_ne other]

/-- Setting the rate to what it is already changes nothing. -/
theorem frozen_of_updateRate {rate : ℤ} {caller : Address}
    (run : Runs (updateRate id rate caller) env s done s')
    (formed : (s.book env.currentContractAddress).WellFormed env.timestamp)
    (same : (s.streams id).map Stream.ratePerSecond = some rate) : Frozen s s' := by
  rcases updateRate_cases run with ⟨stream, stored, -, -, -, rfl⟩
  have keyed : stream.streamId = id := (formed.records id stream stored).streamId
  rw [stored, Option.map_some, Option.some.injEq] at same
  subst keyed
  refine ⟨rfl, terms_update stored ?_⟩
  rw [← same]

/-- While the emergency pause is set, the calls that do not ignore it change no stream and move no
token. -/
theorem Call.frozen_of_heeds (run : Runs call.run env s () s')
    (formed : (s.book env.currentContractAddress).WellFormed env.timestamp)
    (paused : s.globalEmergencyPaused = true) (ordinary : ¬ call.PauseExempt)
    (heeds : ¬ call.IgnoresPause s) : Frozen s s' := by
  have stopped : ∀ {frozen : Prop}, s.globalEmergencyPaused = false → frozen := by
    intro frozen unpaused
    rw [paused] at unpaused
    cases unpaused
  have kept := call.onlyWrites run
  cases call with
  | cancelStreamAsAdmin | pauseStreamAsAdmin | resumeStreamAsAdmin | sweepExcess
  | closeCompletedStream | closeCancelledStream => exact absurd trivial ordinary
  | pauseStream | resumeStream | keeperCancel => exact absurd trivial heeds
  | updateRate id rate caller => exact frozen_of_updateRate run formed (not_not.mp heeds)
  | init token admin => exact absurd run (not_runs_init formed.initialised)
  | createStream sender params =>
      rcases runs_effect.mp run with ⟨_, run⟩
      exact stopped (unpaused_of_createStream run)
  | createStreamRelative sender params =>
      rcases runs_effect.mp run with ⟨_, run⟩
      exact stopped (unpaused_of_createStreamRelative run)
  | createStreamFromTemplate =>
      rcases runs_effect.mp run with ⟨_, run⟩
      exact stopped (unpaused_of_createStreamFromTemplate run)
  | createStreams sender streams =>
      rcases runs_effect.mp run with ⟨_, run⟩
      rcases unpaused_of_createStreams run with rfl | unpaused
      · exact .refl _
      · exact stopped unpaused
  | createStreamsRelative sender rels =>
      rcases runs_effect.mp run with ⟨_, run⟩
      rcases unpaused_of_createStreamsRelative run with rfl | unpaused
      · exact .refl _
      · exact stopped unpaused
  | createStreamsPartial sender streams =>
      rcases runs_effect.mp run with ⟨_, run⟩
      rcases unpaused_of_createStreamsPartial run with rfl | unpaused
      · exact .refl _
      · exact stopped unpaused
  | cloneStream =>
      rcases runs_effect.mp run with ⟨_, run⟩
      exact stopped (unpaused_of_creation_guard run)
  | withdraw | withdrawTo | batchWithdraw | batchWithdrawTo | delegatedWithdraw
  | triggerAutoClaim =>
      rcases runs_effect.mp run with ⟨_, run⟩
      exact stopped (unpaused_of_guard run)
  | updateRatePerSecond | decreaseRatePerSecond | shortenStreamEndTime | extendStreamEndTime
  | topUpStream | cancelStream | bulkCancelStreams | acceptRecipientUpdate =>
      exact stopped (unpaused_of_guard run)
  | _ => exact .of_same (kept.streams (by simp [writes])) (kept.balances (by simp [writes]))

/-- The calls that ignore the pause change the stream they name. -/
theorem Call.not_frozen_of_ignores (run : Runs call.run env s () s')
    (formed : (s.book env.currentContractAddress).WellFormed env.timestamp)
    (ignores : call.IgnoresPause s) : ¬ Frozen s s' := by
  have changed : ∀ {id : ℕ} {stream stream' : Stream}, s.streams id = some stream →
      s'.streams id = some stream' → stream'.terms ≠ stream.terms → ¬ Frozen s s' := by
    intro id stream stream' stored stored' other frozen
    have same := frozen.terms id
    rw [stored, stored', Option.map_some, Option.map_some, Option.some.injEq] at same
    exact other same
  cases call with
  | pauseStream id reason =>
      rcases (pauseStream_performs run formed).moves with
        ⟨_, stream, stream', rfl, stored, moves, stored'⟩
      refine changed stored stored' fun same => ?_
      have status := congrArg StreamTerms.status same
      cases moves with
      | pause active _ => exact absurd (active.symm.trans status.symm) (by simp [Stream.terms])
  | resumeStream id =>
      rcases (resumeStream_performs run formed).moves with
        ⟨_, stream, stream', rfl, stored, moves, stored'⟩
      refine changed stored stored' fun same => ?_
      have status := congrArg StreamTerms.status same
      cases moves with
      | resume paused _ => exact absurd (paused.symm.trans status.symm) (by simp [Stream.terms])
  | keeperCancel id keeper =>
      rcases (keeperCancel_performs run formed).moves with
        ⟨_, stream, stream', ⟨_, _, rfl⟩, stored, moves, stored'⟩
      refine changed stored stored' fun same => ?_
      have status := congrArg StreamTerms.status same
      cases moves with
      | keeperCancel live _ _ _ => exact live.not_cancelled status.symm
  | updateRate id rate caller =>
      rcases (updateRate_performs run formed).moves with
        ⟨_, stream, stream', rfl, stored, moves, stored'⟩
      refine changed stored stored' fun same => ?_
      have rates := congrArg StreamTerms.ratePerSecond same
      cases moves with
      | reprice _ _ =>
          apply ignores
          rw [stored, Option.map_some]
          exact congrArg some rates.symm
  | _ => exact absurd ignores not_false

/-! ## Runs -/

/-- While the emergency pause is set, an entrypoint that is not exempt moves no token and changes
no stream if and only if it is not a successful `pauseStream`, `resumeStream` or `keeperCancel`,
nor an `updateRate` that changes the rate. -/
theorem emergency_pause_iff (reached : Reachable address anyCall now s)
    (paused : s.globalEmergencyPaused = true) (invocation : Invocation address)
    (order : now ≤ invocation.env.timestamp) (ordinary : ¬ invocation.call.PauseExempt) :
    Frozen s (invocation.call.run.commit invocation.env s) ↔
      ¬ (invocation.call.IgnoresPause s ∧ invocation.call.Succeeds invocation.env s) := by
  have formed := reached.book_wellFormed.mono order
  rcases invocation with ⟨env, call, rfl, noSelfAuth, timestamp, sequence, wellTyped⟩
  by_cases succeeds : call.Succeeds env s
  · rcases succeeds with ⟨s', run⟩
    rw [commit_of_runs run]
    constructor
    · rintro frozen ⟨ignores, _⟩
      exact call.not_frozen_of_ignores run formed ignores frozen
    · intro heeds
      exact call.frozen_of_heeds run formed paused ordinary fun ignores => heeds ⟨ignores, s', run⟩
  · rw [commit_of_fails fun _ s' run => succeeds ⟨s', run⟩]
    exact iff_of_true (.refl s) fun both => succeeds both.2

/-- The admin has set the emergency pause after a stream was created. -/
def Sample.emergency : List (Invocation Sample.contract) :=
  Sample.oneCreation 1000 10 0 0 (Eq.refl true) ++
    [Sample.invocation 0 0 0 (.setGlobalEmergencyPaused true) (Eq.refl true)]

theorem Sample.reachable_emergency :
    Reachable Sample.contract anyCall 0 (Script.run Sample.emergency Sample.genesis) := by
  have ordered : Script.Ordered Sample.emergency 0 := ⟨by decide, by decide, trivial⟩
  exact Sample.reachable_run ordered

/-- The sender raises the rate of the stream. -/
def Sample.repricing : Invocation Sample.contract :=
  Sample.invocation 1 10 0 (.updateRate 0 20 Sample.sender) (Eq.refl true)

/-- A withdrawal is stopped. -/
theorem emergency_pause_iff_withdrawal :
    let s := Script.run Sample.emergency Sample.genesis
    let withdrawal := Sample.invocation 2 10 0 (.withdraw 0) (Eq.refl true)
    Frozen s (withdrawal.call.run.commit withdrawal.env s) ↔
      ¬ (withdrawal.call.IgnoresPause s ∧ withdrawal.call.Succeeds withdrawal.env s) := by
  intro s withdrawal
  exact emergency_pause_iff Sample.reachable_emergency (by decide) withdrawal (Nat.zero_le _)
    not_false

/-- The rate of a stream is raised while the emergency pause is set. -/
theorem not_always_emergency_pause :
    ¬ ∀ now s (invocation : Invocation Sample.contract), Reachable Sample.contract anyCall now s →
      s.globalEmergencyPaused = true → now ≤ invocation.env.timestamp →
      ¬ invocation.call.PauseExempt →
      Frozen s (invocation.call.run.commit invocation.env s) := by
  intro always
  have frozen := always 0 _ Sample.repricing Sample.reachable_emergency (by decide)
    (Nat.zero_le _) not_false
  have same := congrArg (Option.map StreamTerms.ratePerSecond) (frozen.terms 0)
  exact absurd same (by decide)

end Wallie.StreamContract
