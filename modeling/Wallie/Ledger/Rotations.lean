import Wallie.Ledger.RunInvariant
import Wallie.Ledger.StreamRegistry
import Wallie.Lib.HandoverLog

/-!
# Rotations of recipients

The sender of a stream proposes a recipient, and the recipient hands the stream
over to the proposed one. A stream that stays stored keeps its recipient between
the rotations that are accepted, and the contract notes the latest of these.
-/

namespace Wallie.StreamContract

open Fallible

variable {address : Address} {now id : ℕ} {s s' : State} {env : Env}
  {permitted : State → Env → Call → Prop} {past : List (State × Input address)}
  {input : Input address} {stream stream' : Stream} {done : Unit}

/-- The recipient that the call gives the stream to, if it succeeds. -/
def Call.rotation (id : ℕ) (s : State) : Call → Option Address
  | acceptRecipientUpdate streamId =>
      if streamId = id then
        (s.pendingRecipientUpdate id).map PendingRecipientUpdate.proposedRecipient
      else none
  | _ => none

/-- The recipient that a successful input gives the stream to. -/
def Input.rotation (id : ℕ) (s : State) : Input address → Option Address
  | invoke invocation =>
      if invocation.call.Succeeds invocation.env s then invocation.call.rotation id s else none
  | token _ => none

/-- The recipients that the stream was given to, the latest first. -/
def rotations (id : ℕ) (later : List (State × Input address)) : List Address :=
  later.filterMap fun entry => entry.2.rotation id entry.1

/-- Only a successful acceptance gives the stream to somebody. -/
theorem Input.rotation_eq_none (unrotated : ∀ invocation : Invocation address,
    input = .invoke invocation → invocation.call = .acceptRecipientUpdate id →
      ¬ invocation.call.Succeeds invocation.env s) : input.rotation id s = none := by
  cases input with
  | token activity => rfl
  | invoke invocation =>
      rw [Input.rotation]
      split
      · next succeeds =>
          cases called : invocation.call <;> try rfl
          case acceptRecipientUpdate streamId =>
            rw [Call.rotation, if_neg]
            rintro rfl
            exact unrotated invocation rfl called succeeds
      · rfl

/-- A stream that stays stored keeps its recipient, unless a rotation is accepted. -/
theorem Reachable.recipient_step (reached : Reachable address permitted now s)
    (order : now ≤ input.clock) (step : Input.Steps s input s')
    (stored : s.streams id = some stream) (stored' : s'.streams id = some stream') :
    stream'.recipient = (input.rotation id s).getD stream.recipient := by
  have formed := reached.book_wellFormed.records id stream stored
  by_cases rotates : ∃ invocation, input = .invoke invocation ∧
      invocation.call = .acceptRecipientUpdate id ∧ invocation.call.Succeeds invocation.env s
  · rcases rotates with ⟨invocation, rfl, accepts, succeeds⟩
    have rotation : Input.rotation id s (.invoke invocation) =
        (s.pendingRecipientUpdate id).map PendingRecipientUpdate.proposedRecipient := by
      rw [Input.rotation, if_pos succeeds, accepts, Call.rotation, if_pos rfl]
    rcases succeeds with ⟨final, run⟩
    have same : s' = final := step.trans (commit_of_runs run)
    rw [accepts] at run
    rcases rotates_of_acceptRecipientUpdate run with
      ⟨record, recipient, known, pending, streams, _⟩
    rw [stored, Option.some.injEq] at known
    subst known
    rw [same, streams, formed.streamId, Function.update_self, Option.some.injEq] at stored'
    rw [rotation, pending, ← stored']
    rfl
  · have unrotated : input.rotation id s = none := by
      refine Input.rotation_eq_none ?_
      rintro invocation rfl accepts succeeds
      exact rotates ⟨invocation, rfl, accepts, succeeds⟩
    rw [unrotated, Option.getD_none]
    rcases reached.record_cases order step stored with same |
      ⟨invocation, rfl, change | ⟨_, removed⟩⟩
    · rw [stored', Option.some.injEq] at same
      rw [same]
    · rcases change with ⟨move, after, makes, moves, stored''⟩
      rw [stored', Option.some.injEq] at stored''
      subst stored''
      have parties := moves.parties ?_
      · exact congrArg Prod.snd parties
      · rintro recipient rfl
        have changing := makes.emits.changing
        generalize called : invocation.call = call at changing
        cases changing
        exact rotates ⟨invocation, rfl, called, makes.succeeds⟩
    · rw [stored'] at removed
      cases removed

/-! ## The log -/

/-- What the log notes when the input hands the stream over. -/
def Input.rotationEntry (id : ℕ) (s : State) : Input address → Option RotationEntry
  | invoke invocation => do
      let newAddr ← Input.rotation id s (.invoke invocation)
      let stream ← s.streams id
      return { oldAddr := stream.recipient, newAddr, ledger := invocation.env.sequence,
               role := .recipient, authoriser := stream.recipient }
  | token _ => none

theorem Input.rotationEntry_eq_none (unrotated : input.rotation id s = none) :
    input.rotationEntry id s = none := by
  cases input with
  | token activity => rfl
  | invoke invocation => rw [Input.rotationEntry, unrotated, Option.bind_eq_bind, Option.bind_none]

/-- The accepted rotations of a stream, oldest first. -/
def acceptedRotations (id : ℕ) (past : List (State × Input address)) : List RotationEntry :=
  (past.filterMap fun entry => entry.2.rotationEntry id entry.1).reverse

theorem acceptedRotations_cons :
    acceptedRotations id ((s, input) :: past) =
      acceptedRotations id past ++ (input.rotationEntry id s).toList := by
  rw [acceptedRotations, List.filterMap_cons]
  cases input.rotationEntry id s with
  | none => simp [acceptedRotations]
  | some entry => simp [acceptedRotations]

/-- What an acceptance writes. -/
theorem logs_of_acceptRecipientUpdate (run : Runs (acceptRecipientUpdate id) env s done s') :
    ∃ stream pending, s.streams id = some stream ∧ s.pendingRecipientUpdate id = some pending ∧
      s'.streams = Function.update s.streams stream.streamId
        (some { stream with recipient := pending.proposedRecipient }) ∧
      s'.rotationHistory = Function.update s.rotationHistory id
        (HandoverLog.push maxRotationHistory (s.rotationHistory id)
          { oldAddr := stream.recipient, newAddr := pending.proposedRecipient,
            ledger := env.sequence, role := .recipient, authoriser := stream.recipient }) ∧
      s'.pendingRecipientUpdate = Function.update s.pendingRecipientUpdate id none := by
  rcases acceptRecipientUpdate_cases run with ⟨stream, pending, -, stored, waiting, -, rfl⟩
  exact ⟨stream, pending, stored, waiting, rfl, rfl, rfl⟩

/-- The call makes, accepts or withdraws an offer of the stream. -/
def Call.Negotiates (id : ℕ) : Call → Prop
  | updateRecipient streamId _ | acceptRecipientUpdate streamId
  | cancelRecipientUpdate streamId => streamId = id
  | _ => False

/-- What a call that hands nothing over does to the log and the offer of a stream: the sender makes
an offer or withdraws it, or nothing changes. -/
theorem negotiation_cases {call : Call} (other : call ≠ .acceptRecipientUpdate id)
    (run : Runs call.run env s done s') :
    s'.rotationHistory id = s.rotationHistory id ∧
      (¬ call.Negotiates id ∧ s'.pendingRecipientUpdate id = s.pendingRecipientUpdate id ∨
        s'.streams = s.streams ∧ ∃ stream, s.streams id = some stream ∧
          env.auth stream.sender = true ∧
          (s'.pendingRecipientUpdate id = none ∨ ∃ newRecipient,
            call = .updateRecipient id newRecipient ∧ newRecipient ≠ stream.recipient ∧
              s'.pendingRecipientUpdate id =
                some { streamId := id, proposedRecipient := newRecipient })) := by
  by_cases writes : .rotations ∈ call.writes
  · cases call <;> simp [Call.writes] at writes
    case acceptRecipientUpdate streamId =>
      have distinct : id ≠ streamId := by
        rintro rfl
        exact other rfl
      rcases logs_of_acceptRecipientUpdate run with ⟨_, _, _, _, _, history, proposals⟩
      rw [history, proposals, Function.update_of_ne distinct, Function.update_of_ne distinct]
      exact ⟨rfl, Or.inl ⟨distinct.symm, rfl⟩⟩
    case updateRecipient streamId newRecipient =>
      simp only [Call.run, updateRecipient, savePendingRecipientUpdate, runs_bind,
        runs_requireNotGloballyPaused, runs_loadStream, runs_requireAuth, runs_rejectIf, runs_peek,
        runs_update, and_assoc, exists_and_left, exists_eq_left, exists_const] at run
      rcases run with ⟨_, stream, stored, authorised, foreign, _, rfl⟩
      refine ⟨rfl, ?_⟩
      rcases eq_or_ne id streamId with rfl | distinct
      · exact Or.inr ⟨rfl, stream, stored, authorised,
          Or.inr ⟨newRecipient, rfl, foreign, Function.update_self _ _ _⟩⟩
      · exact Or.inl ⟨distinct.symm, Function.update_of_ne distinct _ _⟩
    case cancelRecipientUpdate streamId =>
      simp only [Call.run, cancelRecipientUpdate, savePendingRecipientUpdate, runs_bind,
        runs_loadStream, runs_requireAuth, runs_rejectIf, runs_peek, runs_update, and_assoc,
        exists_and_left, exists_eq_left, exists_const] at run
      rcases run with ⟨stream, stored, authorised, _, rfl⟩
      refine ⟨rfl, ?_⟩
      rcases eq_or_ne id streamId with rfl | distinct
      · exact Or.inr ⟨rfl, stream, stored, authorised, Or.inl (Function.update_self _ _ _)⟩
      · exact Or.inl ⟨distinct.symm, Function.update_of_ne distinct _ _⟩
  · have unwritten := call.onlyWrites run
    rw [unwritten.rotationHistory writes, unwritten.pendingRecipientUpdate writes]
    refine ⟨rfl, Or.inl ⟨fun negotiates => writes ?_, rfl⟩⟩
    cases call <;> simp [Call.Negotiates] at negotiates <;> simp [Call.writes]

/-- A call that hands nothing over leaves the log as it is, and an offer that stands afterwards was
there before or goes to somebody else than the recipient. -/
theorem proposes_of_runs {call : Call} (other : call ≠ .acceptRecipientUpdate id)
    (run : Runs call.run env s done s') :
    s'.rotationHistory id = s.rotationHistory id ∧
      ∀ pending, s'.pendingRecipientUpdate id = some pending →
        s.pendingRecipientUpdate id = some pending ∨
          s'.streams = s.streams ∧ ∃ stream, s.streams id = some stream ∧
            pending.proposedRecipient ≠ stream.recipient := by
  rcases negotiation_cases other run with
    ⟨history, ⟨_, same⟩ | ⟨streams, stream, stored, _, withdrawn | ⟨_, _, foreign, offered⟩⟩⟩
  · exact ⟨history, fun pending waiting => Or.inl (same ▸ waiting)⟩
  · refine ⟨history, fun pending waiting => ?_⟩
    cases withdrawn.symm.trans waiting
  · refine ⟨history, fun pending waiting => ?_⟩
    cases offered.symm.trans waiting
    exact Or.inr ⟨streams, stream, stored, foreign⟩

end Wallie.StreamContract
