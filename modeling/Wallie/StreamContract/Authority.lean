import Wallie.StreamContract.Entrypoints
import Wallie.StreamContract.StorageRules

/-!
# Who may call

The party whose authorisation each entrypoint asks for. Some parties are named
in the call, the others are found in the state: the admin in the configuration,
the sender and the recipient of a stream in its record.
-/

namespace Wallie.StreamContract

open Fallible

inductive Party where
  | holder (address : Address)
  | admin
  | sender (streamId : ℕ)
  | recipient (streamId : ℕ)
  | anyone

/-- The party has authorised the call. -/
def Party.Consents (env : Env) (s : State) : Party → Prop
  | holder address => env.auth address = true
  | admin => ∃ config, s.config = some config ∧ env.auth config.admin = true
  | sender streamId =>
      ∃ stream, s.streams streamId = some stream ∧ env.auth stream.sender = true
  | recipient streamId =>
      ∃ stream, s.streams streamId = some stream ∧ env.auth stream.recipient = true
  | anyone => True

/-- The party an entrypoint asks. -/
def Call.party : Call → Party
  | init _ admin => .holder admin
  | setAdmin _ | setMaxRatePerSecond _ | setGlobalEmergencyPaused _ | globalResume
  | setContractPaused _ | pauseProtocol _ _ | resumeProtocol _ | sweepExcess _
  | pauseStreamAsAdmin _ _ | resumeStreamAsAdmin _ | cancelStreamAsAdmin _ => .admin
  | createStream sender _ | createStreamRelative sender _ | createStreams sender _
  | createStreamsPartial sender _ | createStreamFromTemplate sender _ _ _ _ _ _ _ _ =>
      .holder sender
  -- An empty list returns before anybody is asked.
  | createStreamsRelative sender streamsRelative =>
      if streamsRelative = [] then .anyone else .holder sender
  | cloneStream streamId _ _ _ _ _ => .sender streamId
  | updateRatePerSecond streamId _ | decreaseRatePerSecond streamId _
  | shortenStreamEndTime streamId _ | extendStreamEndTime streamId _ | pauseStream streamId _
  | resumeStream streamId | cancelStream streamId | updateRecipient streamId _
  | cancelRecipientUpdate streamId => .sender streamId
  | withdraw streamId | withdrawTo streamId _ | setAutoClaim streamId _ | revokeAutoClaim streamId
  | acceptRecipientUpdate streamId => .recipient streamId
  | batchWithdraw recipient _ | batchWithdrawTo recipient _ => .holder recipient
  | delegatedWithdraw _ relayer _ _ _ _ _ => .holder relayer
  | topUpStream _ funder _ => .holder funder
  | updateRate _ _ caller => .holder caller
  | keeperCancel _ keeper => .holder keeper
  | bulkCancelStreams sender _ => .holder sender
  | registerStreamTemplate owner _ _ _ | deleteStreamTemplate owner _ => .holder owner
  | reserveStreamIds caller _ _ | releaseIdReservation caller => .holder caller
  | triggerAutoClaim _ | closeCompletedStream _ | closeCancelledStream _
  | reclaimExpiredIdReservation _ | calculateAccrued _ | getWithdrawable _ | getStreamHealth _
  | getAutoClaimStatus _ => .anyone

/-! ## What a computation asks for -/

/-- A computation succeeds only if the party has authorised the call. -/
def Demands {α : Type} (party : Party) (computation : Contract α) : Prop :=
  ∀ ⦃env s result s'⦄, Runs computation env s result s' → party.Consents env s

section Rules

variable {α β : Type} {party : Party}

theorem demands_anyone {computation : Contract α} : Demands .anyone computation :=
  fun _ _ _ _ _ => trivial

theorem demands_requireAuth {address : Address} {next : Unit → Contract β} :
    Demands (.holder address) (requireAuth address >>= next) := by
  intro env s result s' run
  rcases runs_bind.mp run with ⟨_, _, guard, _⟩
  exact (runs_requireAuth.mp guard).1

/-- Whether a holder has authorised the call does not depend on the state. -/
theorem demands_later {address : Address} {first : Contract α} {next : α → Contract β}
    (rest : ∀ value, Demands (.holder address) (next value)) :
    Demands (.holder address) (first >>= next) := by
  intro env s result s' run
  rcases runs_bind.mp run with ⟨value, _, _, after⟩
  have asked : env.auth address = true := rest value after
  exact asked

/-- A part that changes nothing may come first. -/
theorem demands_bind {first : Contract α} {next : α → Contract β}
    (pure : ∀ ⦃env s value s'⦄, Runs first env s value s' → s' = s)
    (rest : ∀ value, Demands party (next value)) : Demands party (first >>= next) := by
  intro env s result s' run
  rcases runs_bind.mp run with ⟨value, middle, ran, after⟩
  rcases pure ran with rfl
  exact rest value after

theorem demands_after_pause {next : Unit → Contract β} (rest : Demands party (next ())) :
    Demands party (requireNotGloballyPaused >>= next) :=
  demands_bind (fun _ _ _ _ ran => (runs_requireNotGloballyPaused.mp ran).2) fun _ => rest

theorem demands_after_creationPause {next : Unit → Contract β} (rest : Demands party (next ())) :
    Demands party (requireNotCreationPaused >>= next) :=
  demands_bind (fun _ _ _ _ ran => (runs_requireNotCreationPaused.mp ran).2) fun _ => rest

theorem demands_after_peek {reading : State → α} {next : α → Contract β}
    (rest : ∀ value, Demands party (next value)) : Demands party (peek reading >>= next) :=
  demands_bind (fun _ _ _ _ ran => (runs_peek.mp ran).2) rest

theorem demands_after_get {value : Option α} {failure : Failure} {next : α → Contract β}
    (rest : ∀ value, Demands party (next value)) :
    Demands party (getOrReject value failure >>= next) :=
  demands_bind (fun _ _ _ _ ran => (runs_getOrReject.mp ran).2) rest

/-- A stream is loaded, and its sender asked. -/
theorem demands_sender {streamId : ℕ} {next : Stream → Contract β}
    (rest : ∀ stream, Demands (.holder stream.sender) (next stream)) :
    Demands (.sender streamId) (loadStream streamId >>= next) := by
  intro env s result s' run
  rcases runs_bind.mp run with ⟨stream, middle, loaded, after⟩
  rcases runs_loadStream.mp loaded with ⟨stored, rfl⟩
  exact ⟨stream, stored, rest stream after⟩

/-- A stream is loaded, and its recipient asked. -/
theorem demands_recipient {streamId : ℕ} {next : Stream → Contract β}
    (rest : ∀ stream, Demands (.holder stream.recipient) (next stream)) :
    Demands (.recipient streamId) (loadStream streamId >>= next) := by
  intro env s result s' run
  rcases runs_bind.mp run with ⟨stream, middle, loaded, after⟩
  rcases runs_loadStream.mp loaded with ⟨stored, rfl⟩
  exact ⟨stream, stored, rest stream after⟩

theorem demands_admin {next : Address → Contract β}
    (rest : ∀ admin, Demands (.holder admin) (next admin)) :
    Demands .admin (getAdmin >>= next) := by
  intro env s result s' run
  rcases runs_bind.mp run with ⟨admin, middle, got, after⟩
  rcases runs_getAdmin.mp got with ⟨found, rfl⟩
  rcases Option.map_eq_some_iff.mp found with ⟨config, stored, rfl⟩
  exact ⟨config, stored, rest config.admin after⟩

theorem demands_effect {computation : Contract α} (demands : Demands party computation) :
    Demands party (effect computation) := by
  intro env s done s' run
  rcases runs_effect.mp run with ⟨_, run⟩
  exact demands run

end Rules

/-! ## Entrypoints -/

section Entrypoints

theorem demands_setAdmin {newAdmin : Address} : Demands .admin (setAdmin newAdmin) := by
  intro env s done s' run
  rcases runs_bind.mp run with ⟨config, middle, got, after⟩
  rcases runs_getConfig.mp got with ⟨stored, rfl⟩
  rcases runs_bind.mp after with ⟨_, _, guard, _⟩
  exact ⟨config, stored, (runs_requireAuth.mp guard).1⟩

theorem demands_setGlobalEmergencyPaused {paused : Bool} :
    Demands .admin (setGlobalEmergencyPaused paused) := by
  intro env s done s' run
  simp only [setGlobalEmergencyPaused, runs_bind, runs_peek, runs_getOrReject, runs_requireAuth,
    and_assoc, exists_and_left, exists_eq_left] at run
  rcases run with ⟨config, stored, authorised, _⟩
  exact ⟨config, stored, authorised⟩

/-- The caller is asked, and compared with the admin. -/
theorem demands_named_admin {admin : Address} {next : Unit → Contract Unit} :
    Demands .admin (do
      requireAuth admin
      let storedAdmin ← getAdmin
      rejectIf (admin ≠ storedAdmin) (.error .unauthorized) >>= next) := by
  intro env s done s' run
  simp only [runs_bind, runs_requireAuth, runs_getAdmin, runs_rejectIf, not_not, and_assoc,
    exists_and_left, exists_eq_left, exists_const] at run
  rcases run with ⟨authorised, _, found, rfl, _⟩
  rcases Option.map_eq_some_iff.mp found with ⟨config, stored, rfl⟩
  exact ⟨config, stored, authorised⟩

/-- `updateRate` is open to the sender of the stream and to the admin. -/
theorem demands_updateRate {streamId : ℕ} {newRatePerSecond : ℤ} {caller : Address} {env : Env}
    {s s' : State} {done : Unit}
    (run : Runs (updateRate streamId newRatePerSecond caller) env s done s') :
    env.auth caller = true ∧ ((∃ stream, s.streams streamId = some stream ∧
      caller = stream.sender) ∨ ∃ config, s.config = some config ∧ caller = config.admin) := by
  simp only [updateRate, runs_bind, runs_requireAuth, runs_loadStream, runs_getAdmin,
    runs_rejectIf, and_assoc, exists_and_left, exists_eq_left, exists_const] at run
  rcases run with ⟨authorised, stream, stored, _, admin, found, allowed, _⟩
  refine ⟨authorised, ?_⟩
  by_cases own : caller = stream.sender
  · exact Or.inl ⟨stream, stored, own⟩
  · rcases Option.map_eq_some_iff.mp found with ⟨config, stored, rfl⟩
    exact Or.inr ⟨config, stored, not_not.mp fun other => allowed ⟨own, other⟩⟩

theorem demands_createStream {sender : Address} {params : CreateStreamParams} :
    Demands (.holder sender) (createStream sender params) :=
  demands_requireAuth

theorem demands_createStreams {sender : Address} {streams : List CreateStreamParams} :
    Demands (.holder sender) (createStreams sender streams) :=
  demands_requireAuth

theorem demands_createStreamRelative {sender : Address} {params : CreateStreamRelativeParams} :
    Demands (.holder sender) (createStreamRelative sender params) :=
  demands_later fun _ => demands_later fun _ => demands_createStream

theorem demands_createStreamsRelative {sender : Address}
    {streams : List CreateStreamRelativeParams} :
    Demands (if streams = [] then .anyone else .holder sender)
      (createStreamsRelative sender streams) := by
  unfold createStreamsRelative
  split
  · exact demands_anyone
  · exact demands_later fun _ => demands_later fun _ => demands_createStreams

theorem demands_topUpStream {streamId : ℕ} {funder : Address} {amount : ℤ} :
    Demands (.holder funder) (topUpStream streamId funder amount) :=
  demands_later fun _ => demands_later fun _ => demands_later fun _ => demands_later fun _ =>
    demands_later fun _ => demands_later fun _ => demands_later fun _ => demands_requireAuth

/-- Every call that succeeds was authorised by the party it asks. -/
theorem Call.demands (call : Call) : Demands call.party call.run := by
  cases call with
  | init _ _ => exact demands_requireAuth
  | setAdmin _ => exact demands_setAdmin
  | setMaxRatePerSecond _ => exact demands_admin fun _ => demands_requireAuth
  | setGlobalEmergencyPaused _ => exact demands_setGlobalEmergencyPaused
  | globalResume => exact demands_admin fun _ => demands_requireAuth
  | setContractPaused _ => exact demands_admin fun _ => demands_requireAuth
  | pauseProtocol _ _ => exact demands_named_admin
  | resumeProtocol _ => exact demands_named_admin
  | sweepExcess _ => exact demands_effect (demands_admin fun _ => demands_requireAuth)
  | createStream _ _ => exact demands_effect demands_createStream
  | createStreamRelative _ _ => exact demands_effect demands_createStreamRelative
  | createStreams _ _ => exact demands_effect demands_createStreams
  | createStreamsRelative _ _ => exact demands_effect demands_createStreamsRelative
  | createStreamsPartial _ _ => exact demands_effect demands_requireAuth
  | createStreamFromTemplate _ _ _ _ _ _ _ _ _ =>
      exact demands_effect (demands_later fun _ => demands_createStreamRelative)
  | cloneStream _ _ _ _ _ _ =>
      exact demands_effect (demands_after_creationPause
        (demands_sender fun _ => demands_later fun _ => demands_requireAuth))
  | withdraw _ | withdrawTo _ _ =>
      exact demands_effect (demands_after_pause (demands_recipient fun _ => demands_requireAuth))
  | batchWithdraw _ _ | batchWithdrawTo _ _ =>
      exact demands_effect (demands_later fun _ => demands_requireAuth)
  | delegatedWithdraw _ _ _ _ _ _ _ =>
      exact demands_effect (demands_later fun _ => demands_requireAuth)
  | setAutoClaim _ _ | revokeAutoClaim _ => exact demands_recipient fun _ => demands_requireAuth
  | updateRatePerSecond _ _ | decreaseRatePerSecond _ _ | shortenStreamEndTime _ _
  | extendStreamEndTime _ _ =>
      exact demands_after_pause (demands_sender fun _ => demands_later fun _ => demands_requireAuth)
  | topUpStream _ _ _ => exact demands_topUpStream
  | updateRate _ _ _ => exact demands_requireAuth
  | pauseStream _ _ | resumeStream _ | cancelRecipientUpdate _ =>
      exact demands_sender fun _ => demands_requireAuth
  | pauseStreamAsAdmin _ _ | resumeStreamAsAdmin _ | cancelStreamAsAdmin _ =>
      exact demands_admin fun _ => demands_requireAuth
  | cancelStream _ | updateRecipient _ _ =>
      exact demands_after_pause (demands_sender fun _ => demands_requireAuth)
  | keeperCancel _ _ => exact demands_requireAuth
  | bulkCancelStreams _ _ => exact demands_later fun _ => demands_requireAuth
  | acceptRecipientUpdate _ =>
      exact demands_after_pause (demands_after_peek fun _ => demands_after_get fun _ =>
        demands_recipient fun _ => demands_requireAuth)
  | registerStreamTemplate _ _ _ _ | reserveStreamIds _ _ _ =>
      exact demands_effect demands_requireAuth
  | deleteStreamTemplate _ _ | releaseIdReservation _ => exact demands_requireAuth
  | triggerAutoClaim _ | closeCompletedStream _ | closeCancelledStream _
  | reclaimExpiredIdReservation _ | calculateAccrued _ | getWithdrawable _ | getStreamHealth _
  | getAutoClaimStatus _ => exact demands_anyone

end Entrypoints

end Wallie.StreamContract
