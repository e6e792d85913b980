import Wallie.Ledger.Rotations
import Wallie.StreamContract.Script

/-!
# The history of rotations

A proposal for a stored stream is never for the present recipient, since the
recipient only changes when the proposal is accepted and forgotten. So the
accepted rotations form a chain that ends at the present recipient, and the
stored history is the end of this chain.
-/

namespace Wallie.StreamContract

open Fallible

variable {address : Address} {now id : ℕ} {s s' : State} {env : Env}
  {permitted : State → Env → Call → Prop} {past : List (State × Input address)}
  {stream : Stream}

/-- What a run says about the rotations of one stream. -/
structure State.Rotates (s : State) (past : List (State × Input address)) (id : ℕ) : Prop where
  history : s.rotationHistory id =
    HandoverLog.recent maxRotationHistory (acceptedRotations id past)
  honest : ∀ entry ∈ acceptedRotations id past,
    entry.oldAddr ≠ entry.newAddr ∧ entry.authoriser = entry.oldAddr
  leads : ∀ stream, s.streams id = some stream →
    HandoverLog.LeadsTo RotationEntry.oldAddr RotationEntry.newAddr
      (acceptedRotations id past) stream.recipient
  foreign : ∀ stream pending, s.streams id = some stream →
    s.pendingRecipientUpdate id = some pending → pending.proposedRecipient ≠ stream.recipient
  fresh : (s.book address).Fresh id →
    acceptedRotations id past = [] ∧ s.pendingRecipientUpdate id = none

namespace State.Rotates

/-- What leaves the record, the log and the proposal of a stream alone. -/
theorem unchanged {input : Input address} (rotates : s.Rotates past id)
    (unrotated : input.rotation id s = none) (streams : s'.streams = s.streams)
    (history : s'.rotationHistory = s.rotationHistory)
    (proposals : s'.pendingRecipientUpdate = s.pendingRecipientUpdate)
    (fresh : (s'.book address).Fresh id → (s.book address).Fresh id) :
    s'.Rotates ((s, input) :: past) id := by
  have same : acceptedRotations id ((s, input) :: past) = acceptedRotations id past := by
    rw [acceptedRotations_cons, Input.rotationEntry_eq_none unrotated, Option.toList_none,
      List.append_nil]
  constructor
  · rw [same, history, rotates.history]
  · rw [same]
    exact rotates.honest
  · rw [same, streams]
    exact rotates.leads
  · rw [streams, proposals]
    exact rotates.foreign
  · intro unused
    rw [same, proposals]
    exact rotates.fresh (fresh unused)

/-- A call that does not hand the stream over. -/
theorem kept {instant : ℕ} (rotates : s.Rotates past id)
    (reached : Reachable address permitted instant s) (invocation : Invocation address)
    (order : instant ≤ invocation.env.timestamp)
    (run : Runs invocation.call.run invocation.env s () s')
    (other : invocation.call ≠ .acceptRecipientUpdate id) :
    s'.Rotates ((s, .invoke invocation) :: past) id := by
  have step : Input.Steps s (.invoke invocation) s' := (commit_of_runs run).symm
  have clock : instant ≤ Input.clock (.invoke invocation) := order
  have formed := reached.book_wellFormed.mono order
  have unrotated : Input.rotation id s (.invoke invocation) = none := by
    refine Input.rotation_eq_none ?_
    rintro _ ⟨⟩ accepts _
    exact other accepts
  have same : acceptedRotations id ((s, .invoke invocation) :: past) =
      acceptedRotations id past := by
    rw [acceptedRotations_cons, Input.rotationEntry_eq_none unrotated, Option.toList_none,
      List.append_nil]
  rcases proposes_of_runs other run with ⟨history, proposals⟩
  -- A record that was not there before is that of a fresh id.
  have absent : ∀ stream, s'.streams id = some stream → s.streams id = none →
      (s.book address).Fresh id := by
    intro stream stored' before
    by_contra used
    rw [(reached.used clock step used).2 before] at stored'
    cases stored'
  have recipient : ∀ stream stream', s.streams id = some stream → s'.streams id = some stream' →
      stream'.recipient = stream.recipient := by
    intro stream stream' stored stored'
    rw [reached.recipient_step clock step stored stored', unrotated, Option.getD_none]
  constructor
  · rw [same, history, rotates.history]
  · rw [same]
    exact rotates.honest
  · intro stream' stored'
    rw [same]
    cases before : s.streams id with
    | none =>
        rw [(rotates.fresh (absent stream' stored' before)).1]
        exact HandoverLog.leadsTo_nil
    | some stream =>
        rw [recipient stream stream' before stored']
        exact rotates.leads stream before
  · intro stream' pending stored' waiting
    rcases proposals pending waiting with waiting | ⟨streams, stream, stored, foreign⟩
    · cases before : s.streams id with
      | none =>
          rw [(rotates.fresh (absent stream' stored' before)).2] at waiting
          cases waiting
      | some stream =>
          rw [recipient stream stream' before stored']
          exact rotates.foreign stream pending before waiting
    · rwa [recipient stream stream' stored stored']
  · intro unused
    have unused := invocation.fresh run formed unused
    rw [same]
    refine ⟨(rotates.fresh unused).1, Option.eq_none_iff_forall_ne_some.mpr ?_⟩
    intro pending waiting
    rcases proposals pending waiting with waiting | ⟨_, stream, stored, _⟩
    · rw [(rotates.fresh unused).2] at waiting
      cases waiting
    · exact formed.not_fresh stored unused

/-- A call that hands the stream over. -/
theorem accepted {instant : ℕ} (rotates : s.Rotates past id)
    (reached : Reachable address permitted instant s) (invocation : Invocation address)
    (order : instant ≤ invocation.env.timestamp)
    (run : Runs invocation.call.run invocation.env s () s')
    (accepts : invocation.call = .acceptRecipientUpdate id) :
    s'.Rotates ((s, .invoke invocation) :: past) id := by
  have formed := reached.book_wellFormed.mono order
  have succeeds : invocation.call.Succeeds invocation.env s := ⟨s', run⟩
  have used : (s'.book address).Fresh id → (s.book address).Fresh id := invocation.fresh run formed
  rw [accepts] at run
  rcases logs_of_acceptRecipientUpdate run with
    ⟨stream, pending, stored, waiting, streams, history, proposals⟩
  have keyed : stream.streamId = id := (formed.records id stream stored).streamId
  let entry : RotationEntry :=
    { oldAddr := stream.recipient, newAddr := pending.proposedRecipient,
      ledger := invocation.env.sequence, role := .recipient, authoriser := stream.recipient }
  have noted : Input.rotationEntry id s (.invoke invocation) = some entry := by
    rw [Input.rotationEntry, Input.rotation, if_pos succeeds, accepts, Call.rotation, if_pos rfl,
      waiting, stored]
    rfl
  have grown : acceptedRotations id ((s, .invoke invocation) :: past) =
      acceptedRotations id past ++ [entry] := by
    rw [acceptedRotations_cons, noted, Option.toList_some]
  constructor
  · rw [grown, history, Function.update_self, rotates.history]
    exact HandoverLog.push_recent (by decide)
  · rw [grown]
    intro noted member
    rcases List.mem_append.mp member with earlier | latest
    · exact rotates.honest noted earlier
    · rw [List.mem_singleton.mp latest]
      exact ⟨(rotates.foreign stream pending stored waiting).symm, rfl⟩
  · intro stream' stored'
    rw [streams, keyed, Function.update_self, Option.some.injEq] at stored'
    rw [grown, ← stored']
    have leads : HandoverLog.LeadsTo RotationEntry.oldAddr RotationEntry.newAddr
        (acceptedRotations id past) entry.oldAddr := rotates.leads stream stored
    exact leads.concat
  · intro _ proposal _ waiting'
    rw [proposals, Function.update_self] at waiting'
    cases waiting'
  · intro unused
    exact absurd (used unused) (formed.not_fresh stored)

end State.Rotates

theorem Recorded.rotates (recorded : Recorded address permitted past now s) (id : ℕ) :
    s.Rotates past id := by
  refine recorded.runs_invariant (fun past s => s.Rotates past id) ?_ ?_ ?_ ?_
  · intro instant s fresh
    have blank := fresh.blank
    rcases fresh.eq_deployed with ⟨balances, allowances, config, rfl⟩
    exact
      { history := rfl
        honest := fun _ member => absurd member List.not_mem_nil
        leads := fun _ stored => absurd stored (by simp [State.deployed])
        foreign := fun _ _ stored => absurd stored (by simp [State.deployed])
        fresh := fun _ => ⟨rfl, rfl⟩ }
  · intro past s activity rotates
    exact rotates.unchanged rfl rfl rfl rfl fun unused => unused
  · intro past s invocation failed rotates
    refine rotates.unchanged (Input.rotation_eq_none ?_) rfl rfl rfl fun unused => unused
    rintro _ ⟨⟩ _ succeeds
    exact failed succeeds
  · intro past instant s invocation s' recorded order _ run rotates
    by_cases accepts : invocation.call = .acceptRecipientUpdate id
    · exact rotates.accepted recorded.reachable invocation order run accepts
    · exact rotates.kept recorded.reachable invocation order run accepts

/-- In every run, the stored history of a stream that is stored and was rotated consists of the
latest of its accepted rotations, at most fifty of them. Each was authorised by the recipient then,
who handed the stream over to somebody else, and the next one started from there; the last one
gave it to its present recipient. -/
theorem rotation_history_chain (recorded : Recorded address permitted past now s)
    (stored : s.streams id = some stream) (rotated : acceptedRotations id past ≠ []) :
    s.rotationHistory id =
        (acceptedRotations id past).rtake
          (min (acceptedRotations id past).length maxRotationHistory) ∧
      (s.rotationHistory id).IsChain (fun earlier later => later.oldAddr = earlier.newAddr) ∧
      (∀ entry ∈ s.rotationHistory id,
        entry.oldAddr ≠ entry.newAddr ∧ entry.authoriser = entry.oldAddr) ∧
      (s.rotationHistory id).getLast?.map RotationEntry.newAddr = some stream.recipient := by
  have rotates := recorded.rotates id
  have positive : 0 < maxRotationHistory := by decide
  have full := rotates.leads stream stored
  have leads := full.recent positive
  rw [← rotates.history] at leads
  refine ⟨?_, leads.linked, ?_, ?_⟩
  · rw [rotates.history, HandoverLog.recent_eq_rtake_min]
  · rw [rotates.history]
    intro entry member
    exact rotates.honest entry (HandoverLog.recent_suffix.subset member)
  · rw [rotates.history, HandoverLog.getLast?_recent positive]
    exact full.getLast?_map rotated

/-- The stream is handed to a second account, and by that one to a third. -/
def Sample.handedOn : List (Invocation Sample.contract) :=
  Sample.oneCreation 1000 10 0 0 (Eq.refl true) ++
    [Sample.invocation 1 0 0 (.updateRecipient 0 (.account 4)) (Eq.refl true),
      Sample.invocation 2 0 7 (.acceptRecipientUpdate 0) (Eq.refl true),
      Sample.invocation 1 0 8 (.updateRecipient 0 (.account 5)) (Eq.refl true),
      Sample.invocation 4 0 9 (.acceptRecipientUpdate 0) (Eq.refl true)]

theorem rotation_history_chain_handed_on :
    let s := Script.run Sample.handedOn Sample.genesis
    (s.rotationHistory 0).map RotationEntry.ledger = [7, 9] ∧
      (s.rotationHistory 0).IsChain (fun earlier later => later.oldAddr = earlier.newAddr) ∧
      (s.rotationHistory 0).getLast?.map RotationEntry.newAddr = some (.account 5) := by
  intro s
  have ordered : Script.Ordered Sample.handedOn 0 :=
    ⟨le_rfl, le_rfl, le_rfl, le_rfl, le_rfl, trivial⟩
  have recorded := Script.recorded_run ordered (Script.permits_anyCall _ _)
    (.start Sample.fresh_genesis)
  have rotated : acceptedRotations 0 (Script.past Sample.handedOn Sample.genesis ++ []) ≠ [] := by
    decide
  rcases rotation_history_chain recorded rfl rotated with ⟨_, linked, _, latest⟩
  exact ⟨by decide, linked, latest⟩

end Wallie.StreamContract
