import Wallie.Ledger.RunInvariant
import Wallie.Properties.EmergencyPause
import Wallie.StreamContract.Queries

/-!
# Pauses and what is reported of them

Five operations of the admin write two flags, and two of them note who paused
when. A pause of the protocol does nothing while creation is paused, a resumption
leaves creation paused, and the toggles of the flags note nothing. Apart from
that the flags and the notes are what the operations say.
-/

namespace Wallie.StreamContract

open Fallible

variable {address : Address} {env : Env} {s s' found : State} {call : Call} {now time : ℕ}
  {admin : Address} {past later earlier : List (State × Input address)} {input : Input address}

/-! ## The flags -/

/-- One of the flags is set. -/
def PauseFlags.Paused (flags : PauseFlags) : Prop :=
  flags.globalEmergencyPaused = true ∨ flags.creationPaused = true

instance (flags : PauseFlags) : Decidable flags.Paused :=
  inferInstanceAs (Decidable (_ ∨ _))

/-- The flags after a successful call. -/
def PauseFlags.after (flags : PauseFlags) (now : ℕ) : Call → PauseFlags
  | .setGlobalEmergencyPaused paused => { flags with globalEmergencyPaused := paused }
  | .globalResume => { flags with globalEmergencyPaused := false }
  | .setContractPaused paused => { flags with creationPaused := paused }
  | .pauseProtocol admin _ =>
      if flags.Paused then flags
      else { flags with
        globalEmergencyPaused := true, pausedAt := some now, pausedBy := some admin }
  | .resumeProtocol _ =>
      if flags.Paused then
        { flags with globalEmergencyPaused := false, pausedAt := none, pausedBy := none }
      else flags
  | _ => flags

theorem isProtocolPaused_iff :
    (s.globalEmergencyPaused || s.creationPaused) = true ↔ s.pauseFlags.Paused :=
  Bool.or_eq_true_iff

theorem pauseFlags_of_runs (run : Runs call.run env s () s') :
    s'.pauseFlags = s.pauseFlags.after env.timestamp call := by
  have kept := call.onlyWrites run
  cases call with
  | setGlobalEmergencyPaused paused =>
      simp only [Call.run, setGlobalEmergencyPaused, runs_bind, runs_peek, runs_getOrReject,
        runs_requireAuth, runs_update, runs_publish, and_assoc, exists_and_left, exists_eq_left,
        exists_const] at run
      rcases run with ⟨_, _, _, rfl⟩
      rfl
  | globalResume =>
      simp only [Call.run, globalResume, runs_bind, runs_getAdmin, runs_peek, runs_rejectIf,
        runs_ask, runs_requireAuth, runs_update, runs_publish, and_assoc, exists_and_left,
        exists_eq_left, exists_const] at run
      rcases run with ⟨_, _, _, _, rfl⟩
      rfl
  | setContractPaused paused =>
      simp only [Call.run, setContractPaused, runs_bind, runs_getAdmin, runs_requireAuth,
        runs_update, runs_publish, and_assoc, exists_and_left, exists_eq_left,
        exists_const] at run
      rcases run with ⟨_, _, _, rfl⟩
      rfl
  | pauseProtocol admin reason =>
      simp only [Call.run, pauseProtocol, isProtocolPaused, runs_bind, runs_getAdmin,
        runs_requireAuth, runs_peek, runs_rejectIf, runs_ask, runs_ite, runs_pure, runs_update,
        runs_publish, and_assoc, exists_and_left, exists_eq_left, exists_const,
        isProtocolPaused_iff] at run
      rcases run with ⟨_, _, _, _, ⟨paused, _, rfl⟩ | ⟨unpaused, _, rfl⟩⟩
      · exact (if_pos paused).symm
      · exact (if_neg unpaused).symm
  | resumeProtocol admin =>
      simp only [Call.run, resumeProtocol, isProtocolPaused, runs_bind, runs_getAdmin,
        runs_requireAuth, runs_peek, runs_rejectIf, runs_ask, runs_ite, runs_pure, runs_update,
        runs_publish, and_assoc, exists_and_left, exists_eq_left, exists_const,
        ← Bool.not_eq_true, isProtocolPaused_iff, not_not] at run
      rcases run with ⟨_, _, _, _, ⟨unpaused, _, rfl⟩ | ⟨paused, rfl⟩⟩
      · exact (if_neg unpaused).symm
      · exact (if_pos paused).symm
  | _ => exact kept.pauseFlags (by simp [Call.writes])

/-! ## Gated operations -/

/-- The calls that come to the check of the emergency pause. An empty batch returns before it. -/
def Call.Gated : Call → Prop
  | createStream _ _ | createStreamRelative _ _ | createStreamFromTemplate _ _ _ _ _ _ _ _ _
  | cloneStream _ _ _ _ _ _ | withdraw _ | withdrawTo _ _ | batchWithdraw _ _
  | batchWithdrawTo _ _ | delegatedWithdraw _ _ _ _ _ _ _ | triggerAutoClaim _
  | updateRatePerSecond _ _ | decreaseRatePerSecond _ _ | shortenStreamEndTime _ _
  | extendStreamEndTime _ _ | topUpStream _ _ _ | cancelStream _ | bulkCancelStreams _ _
  | updateRecipient _ _ | acceptRecipientUpdate _ => True
  | createStreams _ streams | createStreamsPartial _ streams => streams ≠ []
  | createStreamsRelative _ streamsRelative => streamsRelative ≠ []
  | _ => False

theorem unpaused_of_batch {sender : Address} {streams : List CreateStreamParams} {ids : List ℕ}
    (run : Runs (createStreams sender streams) env s ids s') (nonempty : streams ≠ []) :
    s.globalEmergencyPaused = false := by
  rcases runs_createStreams.mp run with ⟨_, ⟨empty, _⟩ | ⟨_, ⟨unpaused, _⟩, _⟩⟩
  · exact absurd empty nonempty
  · exact unpaused

theorem unpaused_of_gated (gated : call.Gated) (run : Runs call.run env s () s') :
    s.globalEmergencyPaused = false := by
  cases call with
  | createStream sender params =>
      rcases runs_effect.mp run with ⟨_, run⟩
      exact unpaused_of_createStream run
  | createStreamRelative sender params =>
      rcases runs_effect.mp run with ⟨_, run⟩
      exact unpaused_of_createStreamRelative run
  | createStreamFromTemplate =>
      rcases runs_effect.mp run with ⟨_, run⟩
      exact unpaused_of_createStreamFromTemplate run
  | createStreams sender streams =>
      rcases runs_effect.mp run with ⟨_, run⟩
      exact unpaused_of_batch run gated
  | createStreamsRelative sender rels =>
      rcases runs_effect.mp run with ⟨_, run⟩
      rcases createStreamsRelative_cases run with ⟨empty, _⟩ | ⟨_, streams, some_, _, created⟩
      · exact absurd empty gated
      · exact unpaused_of_batch created some_
  | createStreamsPartial sender streams =>
      rcases runs_effect.mp run with ⟨_, run⟩
      rcases runs_ite.mp (runs_of_requireAuth run) with ⟨empty, _⟩ | ⟨_, run⟩
      · exact absurd empty gated
      · exact unpaused_of_creation_guard run
  | cloneStream =>
      rcases runs_effect.mp run with ⟨_, run⟩
      exact unpaused_of_creation_guard run
  | withdraw | withdrawTo | batchWithdraw | batchWithdrawTo | delegatedWithdraw
  | triggerAutoClaim =>
      rcases runs_effect.mp run with ⟨_, run⟩
      exact unpaused_of_guard run
  | updateRatePerSecond | decreaseRatePerSecond | shortenStreamEndTime | extendStreamEndTime
  | topUpStream | cancelStream | bulkCancelStreams | updateRecipient | acceptRecipientUpdate =>
      exact unpaused_of_guard run
  | _ => exact absurd gated not_false

/-! ## What is reported -/

/-- The operations that end the emergency pause. -/
def Call.Resumes : Call → Prop
  | resumeProtocol _ | globalResume => True
  | setGlobalEmergencyPaused paused => paused = false
  | _ => False

/-- The input is a successful operation that ends the emergency pause. -/
def Input.Resumes (s : State) : Input address → Prop
  | invoke invocation => invocation.call.Resumes ∧ invocation.call.Succeeds invocation.env s
  | token _ => False

/-- The call that paused the protocol, not to be resumed since, was made at `time` by `admin`. -/
def StartedPause (past : List (State × Input address)) (time : ℕ) (admin : Address) : Prop :=
  ∃ later found starting earlier, past = later ++ (found, .invoke starting) :: earlier ∧
    ¬ found.pauseFlags.Paused ∧ (∀ entry ∈ later, entry.1.pauseFlags.Paused) ∧
    starting.env.timestamp = time ∧ found.config.map Config.admin = some admin

/-- After a pause of the protocol the emergency pause is set, and what is gated by it fails until
a resumption; after a resumption of the protocol nothing is paused; and the time and the admin
reported of a pause are those of the call that started it. -/
structure ReportsPauses (past : List (State × Input address)) (s : State) : Prop where
  pauses : ∀ later found invocation earlier admin reason,
    past = later ++ (found, .invoke invocation) :: earlier →
    invocation.call = .pauseProtocol admin reason →
    invocation.call.Succeeds invocation.env found →
    (∀ entry ∈ later, ¬ entry.2.Resumes entry.1) →
      s.globalEmergencyPaused = true ∧ ∀ env (call : Call), call.Gated → ¬ call.Succeeds env s
  resumes : ∀ found invocation earlier admin, past = (found, .invoke invocation) :: earlier →
    invocation.call = .resumeProtocol admin → invocation.call.Succeeds invocation.env found →
      ∀ env, Runs isPaused env s false s ∧ Runs requireNotCreationPaused env s () s
  reports : ∀ env info viewed, Runs getPauseInfo env s info viewed → info.isPaused = true →
    ∃ time admin, info.pausedAt = some time ∧ info.pausedBy = some admin ∧
      StartedPause past time admin

/-- The protocol is paused and resumed in states where that is what the operation does, and the
toggles pause it only where the right time and admin happen to be noted already. -/
def pausesAsReported (s : State) (env : Env) : Call → Prop
  | .pauseProtocol _ _ => s.creationPaused = true → s.globalEmergencyPaused = true
  | .resumeProtocol _ => s.creationPaused = false
  | .setGlobalEmergencyPaused paused | .setContractPaused paused =>
      paused = true → ¬ s.pauseFlags.Paused →
        s.globalPauseTimestamp = some env.timestamp ∧
          s.globalPauseAdmin = s.config.map Config.admin
  | _ => True

/-- The flags and notes after a run, of which the reports are made. -/
structure NotesPauses (past : List (State × Input address)) (s : State) : Prop where
  pauses : ∀ later found invocation earlier admin reason,
    past = later ++ (found, .invoke invocation) :: earlier →
    invocation.call = .pauseProtocol admin reason →
    invocation.call.Succeeds invocation.env found →
    (∀ entry ∈ later, ¬ entry.2.Resumes entry.1) → s.globalEmergencyPaused = true
  resumes : ∀ found invocation earlier admin, past = (found, .invoke invocation) :: earlier →
    invocation.call = .resumeProtocol admin → invocation.call.Succeeds invocation.env found →
      ¬ s.pauseFlags.Paused
  notes : s.pauseFlags.Paused → ∃ time admin, s.globalPauseTimestamp = some time ∧
    s.globalPauseAdmin = some admin ∧ StartedPause past time admin

/-! ## Steps -/

/-- A pause goes on. -/
theorem StartedPause.cons (started : StartedPause past time admin) (paused : s.pauseFlags.Paused)
    (input : Input address) : StartedPause ((s, input) :: past) time admin := by
  rcases started with ⟨later, found, starting, earlier, rfl, unpaused, through, rest⟩
  refine ⟨(s, input) :: later, found, starting, earlier, rfl, unpaused, ?_, rest⟩
  exact List.forall_mem_cons.mpr ⟨paused, through⟩

/-- What neither pauses nor resumes keeps the reports true. -/
theorem NotesPauses.quiet (notes : NotesPauses past s) (flags : s'.pauseFlags = s.pauseFlags)
    (without : ∀ invocation, input = .invoke invocation →
      ¬ invocation.call.Succeeds invocation.env s) : NotesPauses ((s, input) :: past) s' where
  pauses := by
    intro later found invocation earlier admin reason split called succeeds unresumed
    cases later with
    | nil =>
        rw [List.nil_append, List.cons.injEq, Prod.mk.injEq] at split
        rcases split with ⟨⟨rfl, taken⟩, _⟩
        exact absurd succeeds (without invocation taken)
    | cons latest later =>
        rw [List.cons_append, List.cons.injEq] at split
        have held := notes.pauses later found invocation earlier admin reason split.2 called
          succeeds fun entry member => unresumed entry (List.mem_cons_of_mem _ member)
        exact (congrArg PauseFlags.globalEmergencyPaused flags).trans held
  resumes := by
    intro found invocation earlier admin split called succeeds
    rw [List.cons.injEq, Prod.mk.injEq] at split
    rcases split with ⟨⟨rfl, taken⟩, _⟩
    exact absurd succeeds (without invocation taken)
  notes := by
    intro paused
    rw [flags] at paused
    rcases notes.notes paused with ⟨time, admin, at_, by_, started⟩
    exact ⟨time, admin, (congrArg PauseFlags.pausedAt flags).trans at_,
      (congrArg PauseFlags.pausedBy flags).trans by_, started.cons paused input⟩

/-- Only a resumption ends the emergency pause. -/
theorem PauseFlags.after_emergency {flags : PauseFlags}
    (emergency : flags.globalEmergencyPaused = true) (going : ¬ call.Resumes) :
    (flags.after now call).globalEmergencyPaused = true := by
  cases call with
  | setGlobalEmergencyPaused paused => exact (Bool.not_eq_false paused).mp going
  | globalResume | resumeProtocol => exact absurd trivial going
  | pauseProtocol admin reason =>
      have paused : flags.Paused := Or.inl emergency
      simpa only [PauseFlags.after, if_pos paused] using emergency
  | _ => exact emergency

/-- A pause that goes on stays noted as it is. -/
theorem notes_of_paused (allowed : pausesAsReported s env call) (paused : s.pauseFlags.Paused)
    (paused' : (s.pauseFlags.after env.timestamp call).Paused) :
    (s.pauseFlags.after env.timestamp call).pausedAt = s.globalPauseTimestamp ∧
      (s.pauseFlags.after env.timestamp call).pausedBy = s.globalPauseAdmin := by
  cases call with
  | pauseProtocol admin reason =>
      rw [PauseFlags.after, if_pos paused]
      exact ⟨rfl, rfl⟩
  | resumeProtocol admin =>
      rw [PauseFlags.after, if_pos paused] at paused'
      have uncreated : s.creationPaused = false := allowed
      rcases paused' with emergency | creation
      · cases emergency
      · exact absurd (uncreated.symm.trans creation) (by decide)
  | _ => exact ⟨rfl, rfl⟩

/-- A pause that starts is noted with the time and the admin of the call. -/
theorem notes_of_unpaused (allowed : pausesAsReported s env call)
    (run : Runs call.run env s () s') (unpaused : ¬ s.pauseFlags.Paused)
    (paused' : (s.pauseFlags.after env.timestamp call).Paused) :
    (s.pauseFlags.after env.timestamp call).pausedAt = some env.timestamp ∧
      (s.pauseFlags.after env.timestamp call).pausedBy = s.config.map Config.admin := by
  rcases not_or.mp unpaused with ⟨calm, creating⟩
  cases call with
  | pauseProtocol admin reason =>
      simp only [Call.run, pauseProtocol, runs_bind, runs_getAdmin, runs_requireAuth,
        runs_rejectIf, and_assoc, exists_and_left, exists_eq_left, exists_const, not_not] at run
      rcases run with ⟨_, _, stored, rfl, _⟩
      rw [PauseFlags.after, if_neg unpaused]
      exact ⟨rfl, stored.symm⟩
  | resumeProtocol admin =>
      rw [PauseFlags.after, if_neg unpaused] at paused'
      exact absurd paused' unpaused
  | setGlobalEmergencyPaused paused =>
      exact allowed (paused'.resolve_right creating) unpaused
  | setContractPaused paused => exact allowed (paused'.resolve_left calm) unpaused
  | globalResume => exact absurd (paused'.resolve_right creating) Bool.false_ne_true
  | _ => exact absurd paused' unpaused

theorem NotesPauses.step {invocation : Invocation address} (notes : NotesPauses past s)
    (configured : s.config.isSome = true)
    (allowed : pausesAsReported s invocation.env invocation.call)
    (run : Runs invocation.call.run invocation.env s () s') :
    NotesPauses ((s, .invoke invocation) :: past) s' := by
  have flags := pauseFlags_of_runs run
  refine ⟨?_, ?_, ?_⟩
  · intro later found taken earlier admin reason split called succeeds unresumed
    refine (congrArg PauseFlags.globalEmergencyPaused flags).trans ?_
    cases later with
    | nil =>
        rw [List.nil_append, List.cons.injEq, Prod.mk.injEq, Input.invoke.injEq] at split
        rcases split with ⟨⟨rfl, rfl⟩, _⟩
        rw [called] at allowed ⊢
        by_cases paused : s.pauseFlags.Paused
        · rw [PauseFlags.after, if_pos paused]
          exact paused.elim id allowed
        · rw [PauseFlags.after, if_neg paused]
    | cons latest later =>
        rw [List.cons_append, List.cons.injEq] at split
        rcases split with ⟨rfl, split⟩
        rcases List.forall_mem_cons.mp unresumed with ⟨going, unresumed⟩
        have emergency : s.pauseFlags.globalEmergencyPaused = true :=
          notes.pauses later found taken earlier admin reason split called succeeds unresumed
        exact PauseFlags.after_emergency emergency fun resumes => going ⟨resumes, s', run⟩
  · intro found taken earlier admin split called _
    rw [List.cons.injEq, Prod.mk.injEq, Input.invoke.injEq] at split
    rcases split with ⟨⟨rfl, rfl⟩, _⟩
    rw [flags, called]
    rw [called] at allowed
    by_cases paused : s.pauseFlags.Paused
    · rw [PauseFlags.after, if_pos paused]
      have uncreated : s.creationPaused = false := allowed
      rintro (emergency | creation)
      · cases emergency
      · exact absurd (uncreated.symm.trans creation) (by decide)
    · rwa [PauseFlags.after, if_neg paused]
  · intro paused'
    rw [flags] at paused'
    have at_ : s'.globalPauseTimestamp = _ := congrArg PauseFlags.pausedAt flags
    have by_ : s'.globalPauseAdmin = _ := congrArg PauseFlags.pausedBy flags
    by_cases paused : s.pauseFlags.Paused
    · rcases notes.notes paused with ⟨time, admin, noted, notedBy, started⟩
      rcases notes_of_paused allowed paused paused' with ⟨same, same'⟩
      exact ⟨time, admin, (at_.trans same).trans noted, (by_.trans same').trans notedBy,
        started.cons paused _⟩
    · rcases notes_of_unpaused allowed run paused paused' with ⟨here, here'⟩
      rcases Option.isSome_iff_exists.mp configured with ⟨config, stored⟩
      have admin : s.config.map Config.admin = some config.admin := by rw [stored, Option.map_some]
      have started : StartedPause ((s, .invoke invocation) :: past) invocation.env.timestamp
          config.admin :=
        ⟨[], s, invocation, past, rfl, paused, by simp, rfl, admin⟩
      exact ⟨_, config.admin, at_.trans here, (by_.trans here').trans admin, started⟩

theorem FreshlyInitialised.notesPauses (fresh : FreshlyInitialised address now s) :
    NotesPauses ([] : List (State × Input address)) s := by
  rcases fresh with ⟨env, token, admin, balances, allowances, _, _, _, run⟩
  have ran : Runs (Call.init token admin).run env (.deployed balances allowances) () s := run
  have flags := pauseFlags_of_runs ran
  refine ⟨?_, ?_, ?_⟩
  · intro later found invocation earlier admin reason split
    exact absurd split (by simp)
  · intro found invocation earlier admin split
    cases split
  · intro paused
    rw [flags] at paused
    exact absurd paused (not_or.mpr ⟨Bool.false_ne_true, Bool.false_ne_true⟩)

/-- What is noted is what is reported. -/
theorem NotesPauses.reports (notes : NotesPauses past s) : ReportsPauses past s where
  pauses := by
    intro later found invocation earlier admin reason split called succeeds unresumed
    have emergency := notes.pauses later found invocation earlier admin reason split called
      succeeds unresumed
    refine ⟨emergency, ?_⟩
    rintro env call gated ⟨s', run⟩
    exact absurd (emergency.symm.trans (unpaused_of_gated gated run)) (by decide)
  resumes := by
    intro found invocation earlier admin split called succeeds env
    rcases not_or.mp (notes.resumes found invocation earlier admin split called succeeds) with
      ⟨calm, creating⟩
    have calm : s.globalEmergencyPaused = false := Bool.not_eq_true _ ▸ calm
    have creating : s.creationPaused = false := Bool.not_eq_true _ ▸ creating
    refine ⟨runs_peek.mpr ⟨?_, rfl⟩, runs_requireNotCreationPaused.mpr ⟨⟨calm, creating⟩, rfl⟩⟩
    rw [calm, creating]
    rfl
  reports := by
    intro env info viewed run shown
    simp only [getPauseInfo, isProtocolPaused, runs_bind, runs_peek, runs_ite, runs_pure,
      and_assoc, exists_and_left, exists_eq_left, isProtocolPaused_iff] at run
    rcases run with ⟨paused, rfl, _⟩ | ⟨_, rfl, _⟩
    · exact notes.notes paused
    · cases shown

/-- In every run whose successful pauses and resumptions meet the conditions, pauses and what is
reported of them are as the operations say. -/
theorem pauses_reported (recorded : Recorded address (onSuccess pausesAsReported) past now s) :
    ReportsPauses past s := by
  refine (Recorded.runs_invariant NotesPauses recorded ?_ ?_ ?_ ?_).reports
  · exact fun _ _ fresh => fresh.notesPauses
  · exact fun past s activity notes => notes.quiet rfl (by simp)
  · intro past s invocation fails notes
    refine notes.quiet rfl ?_
    rintro _ ⟨⟩
    exact fails
  · intro past instant s invocation s' recorded order allowed run notes
    have reached : Reachable address (onSuccess pausesAsReported) instant s := recorded.reachable
    exact notes.step reached.book_wellFormed.initialised (allowed ⟨s', run⟩) run

namespace Sample

def pausing : Invocation contract :=
  invocation 0 10 0 (.pauseProtocol Sample.admin none) (Eq.refl true)

/-- The admin pauses creation and then the protocol. -/
def creationPaused : List (Invocation contract) :=
  [invocation 0 0 0 (.setContractPaused true) (Eq.refl true), pausing]

def resuming : Invocation contract :=
  invocation 0 20 0 (.resumeProtocol Sample.admin) (Eq.refl true)

/-- Then the admin resumes the protocol. -/
def creationResumed : List (Invocation contract) :=
  creationPaused ++ [resuming]

end Sample

/-- A pause of the protocol stops a withdrawal, and it is reported who paused and when. -/
theorem pauses_reported_paused :
    let s := Script.run [Sample.pausing] Sample.genesis
    ¬ (Call.withdraw 0).Succeeds (Sample.env 2 50 1) s ∧
      StartedPause (Script.past [Sample.pausing] Sample.genesis) 10 Sample.admin := by
  intro s
  have ordered : Script.Ordered [Sample.pausing] 0 := ⟨by decide, trivial⟩
  have permits : Script.Permits (onSuccess pausesAsReported) [Sample.pausing] Sample.genesis :=
    ⟨fun _ creation => absurd creation (by decide), trivial⟩
  have recorded := Script.recorded_run ordered permits (.start Sample.fresh_genesis)
  rw [List.append_nil] at recorded
  have reported := pauses_reported recorded
  have stopped := reported.pauses [] Sample.genesis Sample.pausing [] Sample.admin none rfl rfl
    (by decide) (by simp)
  have info : (getPauseInfo (Sample.env 3 50 1) s).toOption.map Prod.fst =
      some { isPaused := true, reason := some "", pausedAt := some 10,
             pausedBy := some Sample.admin } := by
    decide
  rcases exists_runs_of_toOption info with ⟨viewed, run⟩
  rcases reported.reports _ _ _ run rfl with ⟨time, admin, ⟨⟩, ⟨⟩, started⟩
  exact ⟨stopped.2 _ (.withdraw 0) trivial, started⟩

/-- After a pause of the protocol while creation was paused, the emergency pause is not set; and
after a resumption of the protocol creation is still not allowed. -/
theorem not_always_pauses_reported :
    (¬ ∀ past now s, Recorded Sample.contract anyCall past now s → ReportsPauses past s) ∧
      ¬ ∀ past now s found invocation earlier admin, Recorded Sample.contract anyCall past now s →
        past = (found, .invoke invocation) :: earlier → invocation.call = .resumeProtocol admin →
        invocation.call.Succeeds invocation.env found →
        ∀ env, Runs requireNotCreationPaused env s () s := by
  constructor
  · intro always
    have ordered : Script.Ordered Sample.creationPaused 0 := ⟨by decide, by decide, trivial⟩
    have recorded := Script.recorded_run ordered (Script.permits_anyCall _ _)
      (.start Sample.fresh_genesis)
    rw [List.append_nil] at recorded
    have reported := always _ _ _ recorded
    have stopped := reported.pauses [] _ Sample.pausing _ Sample.admin none rfl rfl (by decide)
      (by simp)
    exact absurd stopped.1 (by decide)
  · intro always
    have ordered : Script.Ordered Sample.creationResumed 0 :=
      ⟨by decide, by decide, by decide, trivial⟩
    have recorded := Script.recorded_run ordered (Script.permits_anyCall _ _)
      (.start Sample.fresh_genesis)
    rw [List.append_nil] at recorded
    have allowed := always _ _ _ _ Sample.resuming _ Sample.admin recorded rfl rfl (by decide)
      (Sample.env 1 20 0)
    exact absurd (runs_requireNotCreationPaused.mp allowed).1.2 (by decide)

end Wallie.StreamContract
