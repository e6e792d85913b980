import Wallie.Ledger.Projection
import Wallie.StreamContract.Admin
import Wallie.StreamContract.Views
import Wallie.StreamContract.WithdrawRules

/-!
# Administration, registries and views on the book

Most of these entrypoints write keys the book does not show. The rotation of a
recipient changes one record, the reservations move ids, and the sweep takes
tokens beyond the liabilities.
-/

namespace Wallie.StreamContract

open Fallible

variable {env : Env} {s middle s' : State} {id : ℕ} {done : Unit} {caller holder : Address}

/-- Nothing the book shows has changed. -/
def Unchanged (env : Env) (s s' : State) : Prop :=
  s'.book env.currentContractAddress = s.book env.currentContractAddress

theorem Unchanged.of_same (same : State.SameAccounts s s')
    (balances : s'.balances env.currentContractAddress = s.balances env.currentContractAddress) :
    Unchanged env s s' :=
  same.book_eq balances

/-! ## Administration -/

theorem setAdmin_unchanged {newAdmin : Address} (run : Runs (setAdmin newAdmin) env s done s') :
    Unchanged env s s' := by
  simp only [setAdmin, runs_bind, runs_getConfig, runs_requireAuth, runs_update, runs_publish,
    and_assoc, exists_and_left, exists_eq_left, exists_const] at run
  rcases run with ⟨config, configured, -, rfl⟩
  exact .of_same ⟨by simp [configured], rfl, rfl, rfl, rfl, rfl,
    by simp [State.fundings, Event.funding], rfl, rfl⟩ rfl

theorem setMaxRatePerSecond_unchanged {maxRate : ℤ}
    (run : Runs (setMaxRatePerSecond maxRate) env s done s') : Unchanged env s s' := by
  simp only [setMaxRatePerSecond, runs_bind, runs_getAdmin, runs_requireAuth, runs_rejectIf,
    runs_update, and_assoc, exists_and_left, exists_eq_left, exists_const] at run
  rcases run with ⟨_, -, -, -, rfl⟩
  exact .of_same ⟨rfl, rfl, rfl, rfl, rfl, rfl, rfl, rfl, rfl⟩ rfl

theorem setGlobalEmergencyPaused_unchanged {paused : Bool}
    (run : Runs (setGlobalEmergencyPaused paused) env s done s') : Unchanged env s s' := by
  simp only [setGlobalEmergencyPaused, runs_bind, runs_peek, runs_getOrReject, runs_requireAuth,
    runs_update, runs_publish, and_assoc, exists_and_left, exists_eq_left, exists_const] at run
  rcases run with ⟨_, -, -, rfl⟩
  exact .of_same ⟨rfl, rfl, rfl, rfl, rfl, rfl, by simp [State.fundings, Event.funding], rfl,
    rfl⟩ rfl

theorem globalResume_unchanged (run : Runs globalResume env s done s') : Unchanged env s s' := by
  simp only [globalResume, runs_bind, runs_getAdmin, runs_requireAuth, runs_peek, runs_rejectIf,
    runs_update, runs_ask, runs_publish, and_assoc, exists_and_left, exists_eq_left,
    exists_const] at run
  rcases run with ⟨_, -, -, -, rfl⟩
  exact .of_same ⟨rfl, rfl, rfl, rfl, rfl, rfl, by simp [State.fundings, Event.funding], rfl,
    rfl⟩ rfl

theorem setContractPaused_unchanged {paused : Bool}
    (run : Runs (setContractPaused paused) env s done s') : Unchanged env s s' := by
  simp only [setContractPaused, runs_bind, runs_getAdmin, runs_requireAuth, runs_update,
    runs_publish, and_assoc, exists_and_left, exists_eq_left, exists_const] at run
  rcases run with ⟨_, -, -, rfl⟩
  exact .of_same ⟨rfl, rfl, rfl, rfl, rfl, rfl, by simp [State.fundings, Event.funding], rfl,
    rfl⟩ rfl

theorem pauseProtocol_unchanged {admin : Address} {reason : Option String}
    (run : Runs (pauseProtocol admin reason) env s done s') : Unchanged env s s' := by
  simp only [pauseProtocol, isProtocolPaused, runs_bind, runs_getAdmin, runs_requireAuth,
    runs_rejectIf, runs_peek, runs_ite, runs_pure, runs_update, runs_ask, runs_publish, and_assoc,
    exists_and_left, exists_eq_left, exists_const] at run
  rcases run with ⟨-, _, -, -, ⟨-, -, rfl⟩ | ⟨-, -, rfl⟩⟩
  · rfl
  · exact .of_same ⟨rfl, rfl, rfl, rfl, rfl, rfl, by simp [State.fundings, Event.funding], rfl,
      rfl⟩ rfl

theorem resumeProtocol_unchanged {admin : Address}
    (run : Runs (resumeProtocol admin) env s done s') : Unchanged env s s' := by
  simp only [resumeProtocol, isProtocolPaused, runs_bind, runs_getAdmin, runs_requireAuth,
    runs_rejectIf, runs_peek, runs_ite, runs_pure, runs_update, runs_ask, runs_publish, and_assoc,
    exists_and_left, exists_eq_left, exists_const] at run
  rcases run with ⟨-, _, -, -, ⟨-, -, rfl⟩ | ⟨-, rfl⟩⟩
  · rfl
  · exact .of_same ⟨rfl, rfl, rfl, rfl, rfl, rfl, by simp [State.fundings, Event.funding], rfl,
      rfl⟩ rfl

/-- An initialised contract cannot be initialised again. -/
theorem not_runs_init {token admin : Address} (initialised : s.config.isSome = true) :
    ¬ Runs (init token admin) env s done s' := by
  intro run
  simp only [init, runs_bind, runs_requireAuth, runs_peek, runs_rejectIf, and_assoc,
    exists_and_left, exists_eq_left, exists_const] at run
  exact run.2.1 initialised

theorem clamp_le {value : ℤ} (positive : 0 < i128.clamp value) : i128.clamp value ≤ value := by
  refine Bounded.Interval.clamp_le ?_
  by_contra below
  have small : min i128.upper value ≤ i128.lower := (min_le_right _ _).trans (not_le.mp below).le
  rw [Bounded.Interval.clamp, max_eq_left small] at positive
  exact absurd positive (by decide)

theorem sweepExcess_refines {recipient : Address} {swept : ℤ}
    (run : Runs (sweepExcess recipient) env s swept s') :
    Refines env (fun action => ∃ amount, action = .sweep amount) s s' := by
  simp only [sweepExcess, runs_bind, runs_getAdmin, runs_requireAuth, runs_tokenBalance,
    runs_peek, runs_ite, runs_pure, runs_publish, runs_acquireReentrancyLock, runs_pushToken,
    runs_releaseReentrancyLock, and_assoc, exists_and_left, exists_eq_left, exists_const] at run
  rcases run with ⟨_, -, -, -, ⟨-, -, rfl⟩ | ⟨excess, -, -, -, -, final⟩⟩
  · exact .refl _
  · have same : State.SameAccounts s s' := by
      rw [final]
      exact ⟨rfl, rfl, rfl, rfl, rfl, rfl, by simp [State.fundings, State.pushed, Event.funding],
        by simp [State.payments, State.pushed, payoutsOf],
        by simp [State.settlements, State.pushed, payoutsOf]⟩
    refine .single
      ⟨i128.clamp (s.balances env.currentContractAddress - s.totalLiabilities), rfl⟩ ?_
    rw [same.book]
    refine .sweep (clamp_le (not_le.mp excess)) ?_
    rw [final]
    exact movedBalances_source (not_le.mp excess).le

/-! ## Recipients and auto-claim -/

theorem updateRecipient_unchanged {newRecipient : Address}
    (run : Runs (updateRecipient id newRecipient) env s done s') : Unchanged env s s' := by
  simp only [updateRecipient, savePendingRecipientUpdate, runs_bind,
    runs_requireNotGloballyPaused, runs_loadStream, runs_requireAuth, runs_rejectIf, runs_peek,
    runs_update, and_assoc, exists_and_left, exists_eq_left, exists_const] at run
  rcases run with ⟨-, _, -, -, -, -, rfl⟩
  exact .of_same ⟨rfl, rfl, rfl, rfl, rfl, rfl, rfl, rfl, rfl⟩ rfl

theorem cancelRecipientUpdate_unchanged (run : Runs (cancelRecipientUpdate id) env s done s') :
    Unchanged env s s' := by
  simp only [cancelRecipientUpdate, savePendingRecipientUpdate, runs_bind, runs_loadStream,
    runs_requireAuth, runs_rejectIf, runs_peek, runs_update, and_assoc, exists_and_left,
    exists_eq_left, exists_const] at run
  rcases run with ⟨_, -, -, -, rfl⟩
  exact .of_same ⟨rfl, rfl, rfl, rfl, rfl, rfl, rfl, rfl, rfl⟩ rfl

/-- The state once the proposed recipient has accepted the stream. -/
def State.handedOver (s : State) (env : Env) (id : ℕ) (stream : Stream) (recipient : Address) :
    State :=
  let history := s.rotationHistory id
  let left := Function.update s.recipientStreams stream.recipient
    (removeSorted (s.recipientStreams stream.recipient) id)
  { s with
    streams := Function.update s.streams stream.streamId (some { stream with recipient })
    recipientStreams := Function.update left recipient (insertSorted (left recipient) id)
    rotationHistory := Function.update s.rotationHistory id
      ((if maxRotationHistory ≤ history.length then history.tail else history) ++
        [{ oldAddr := stream.recipient, newAddr := recipient, ledger := env.sequence,
           role := .recipient, authoriser := stream.recipient }])
    pendingRecipientUpdate := Function.update s.pendingRecipientUpdate id none
    events := s.events ++ [.recpUpd id stream.recipient recipient] }

theorem acceptRecipientUpdate_cases (run : Runs (acceptRecipientUpdate id) env s done s') :
    ∃ stream pending, s.globalEmergencyPaused = false ∧ s.streams id = some stream ∧
      s.pendingRecipientUpdate id = some pending ∧ env.auth stream.recipient = true ∧
      s' = s.handedOver env id stream pending.proposedRecipient := by
  simp only [acceptRecipientUpdate, appendRotationEntry, savePendingRecipientUpdate, runs_bind,
    runs_requireNotGloballyPaused, runs_peek, runs_getOrReject, runs_loadStream,
    runs_requireAuth, runs_removeStreamFromRecipientIndex, runs_addStreamToRecipientIndex,
    runs_saveStream, runs_ask, runs_update, runs_publish, and_assoc, exists_and_left,
    exists_eq_left, exists_const] at run
  rcases run with ⟨running, pending, waiting, stream, stored, authorised, rfl⟩
  exact ⟨stream, pending, running, stored, waiting, authorised, rfl⟩

/-- A rotation of the recipient. -/
@[simp]
def Move.Rotates (move : Move) : Prop :=
  ∃ recipient, move = .rotate recipient

theorem acceptRecipientUpdate_refines (run : Runs (acceptRecipientUpdate id) env s done s')
    (formed : (s.book env.currentContractAddress).WellFormed env.timestamp) :
    Refines env (Changes Move.Rotates id) s s' := by
  rcases acceptRecipientUpdate_cases run with ⟨stream, pending, -, stored, -, -, rfl⟩
  refine .single ⟨.rotate pending.proposedRecipient, ⟨_, rfl⟩, rfl⟩ (State.Written.steps ?_
    (.refl _) (formed.records id stream stored) stored .rotate rfl (by simp))
  exact ⟨rfl, rfl, rfl, rfl, rfl, (reconciledCount_self _ _).symm,
    by simp [State.handedOver, State.fundings, Event.funding], rfl, rfl, rfl⟩

theorem runs_setAutoClaim {destination : Address} :
    Runs (setAutoClaim id destination) env s done s' ↔ ∃ stream, s.streams id = some stream ∧
      env.auth stream.recipient = true ∧ destination ≠ env.currentContractAddress ∧
      s' = { s with
        autoClaimDestination := Function.update s.autoClaimDestination id (some destination)
        events := s.events ++ [.acSet id destination] } := by
  simp only [setAutoClaim, isValidDestination, saveAutoClaimDestination, runs_bind,
    runs_loadStream, runs_requireAuth, runs_ask, runs_rejectIf, runs_update, runs_publish,
    decide_eq_false_iff_not, not_not, and_assoc, exists_and_left, exists_eq_left, exists_const]

theorem runs_revokeAutoClaim :
    Runs (revokeAutoClaim id) env s done s' ↔ ∃ stream, s.streams id = some stream ∧
      env.auth stream.recipient = true ∧
      s' = { s with
        autoClaimDestination := Function.update s.autoClaimDestination id none
        events := s.events ++ [.acRevoke id] } := by
  simp only [revokeAutoClaim, saveAutoClaimDestination, runs_bind, runs_loadStream,
    runs_requireAuth, runs_update, runs_publish, and_assoc, exists_and_left, exists_eq_left,
    exists_const]

theorem setAutoClaim_unchanged {destination : Address}
    (run : Runs (setAutoClaim id destination) env s done s') : Unchanged env s s' := by
  rcases runs_setAutoClaim.mp run with ⟨_, -, -, -, rfl⟩
  exact .of_same ⟨rfl, rfl, rfl, rfl, rfl, rfl, by simp [State.fundings, Event.funding], rfl,
    rfl⟩ rfl

theorem revokeAutoClaim_unchanged (run : Runs (revokeAutoClaim id) env s done s') :
    Unchanged env s s' := by
  rcases runs_revokeAutoClaim.mp run with ⟨_, -, -, rfl⟩
  exact .of_same ⟨rfl, rfl, rfl, rfl, rfl, rfl, by simp [State.fundings, Event.funding], rfl,
    rfl⟩ rfl

/-! ## Templates and reservations -/

theorem registerStreamTemplate_unchanged {owner : Address}
    {startDelay cliffDelay duration templateId : ℕ}
    (run : Runs (registerStreamTemplate owner startDelay cliffDelay duration) env s templateId
      s') : Unchanged env s s' := by
  simp only [registerStreamTemplate, validateTemplateDelays, saveStreamTemplate,
    saveOwnerTemplateIds, setNextTemplateId, setActiveTemplateCount, runs_bind, runs_requireAuth,
    runs_rejectIf, runs_ask, runs_checkedAddU64, runs_peek, runs_update, runs_plainAddU64,
    runs_publish, runs_pure, and_assoc, exists_and_left, exists_eq_left, exists_const] at run
  rcases run with ⟨-, -, -, -, -, -, -, -, -, -, -, -, rfl⟩
  exact .of_same ⟨rfl, rfl, rfl, rfl, rfl, rfl, by simp [State.fundings, Event.funding], rfl,
    rfl⟩ rfl

theorem deleteStreamTemplate_unchanged {owner : Address} {templateId : ℕ}
    (run : Runs (deleteStreamTemplate owner templateId) env s done s') : Unchanged env s s' := by
  simp only [deleteStreamTemplate, removeTemplateIdForOwner, saveStreamTemplate,
    saveOwnerTemplateIds, setActiveTemplateCount, runs_bind, runs_requireAuth, runs_peek,
    runs_getOrReject, runs_rejectIf, runs_update, and_assoc, exists_and_left, exists_eq_left,
    exists_const] at run
  rcases run with ⟨-, template, -, -, _, middle, removed, rfl⟩
  split at removed
  · rw [runs_update] at removed
    subst removed
    exact .of_same ⟨rfl, rfl, rfl, rfl, rfl, rfl, rfl, rfl, rfl⟩ rfl
  · exact absurd removed not_runs_reject

theorem runs_reserveStreamIds {count : ℕ} {expiry : Option ℕ} {ids : List ℕ} :
    Runs (reserveStreamIds caller count expiry) env s ids s' ↔
      env.auth caller = true ∧ count ≠ 0 ∧ count ≤ maxIdReservation ∧
        ((s.nextStreamId + count : ℕ) : ℤ) ≤ u64.upper ∧
          ids = (List.range count).map (s.nextStreamId + ·) ∧
            s' = { s with
              nextStreamId := s.nextStreamId + count
              idReservation := Function.update s.idReservation caller
                (some { startId := s.nextStreamId, count, consumed := 0, expiry }) } := by
  simp only [reserveStreamIds, runs_bind, runs_requireAuth, runs_rejectIf, runs_peek,
    runs_plainAddU64, runs_setStreamCount, runs_saveIdReservation, runs_pure, and_assoc,
    exists_and_left, exists_eq_left, exists_const, not_lt]

theorem reserveStreamIds_refines {count : ℕ} {expiry : Option ℕ} {ids : List ℕ}
    (run : Runs (reserveStreamIds caller count expiry) env s ids s') :
    Refines env (· = .reserve caller count) s s' := by
  rcases runs_reserveStreamIds.mp run with ⟨-, positive, -, -, -, rfl⟩
  exact .single rfl (.reserve (Nat.pos_of_ne_zero positive))

theorem releaseIdReservation_refines (run : Runs (releaseIdReservation caller) env s done s') :
    Refines env (· = .release caller) s s' := by
  simp only [releaseIdReservation, runs_bind, runs_requireAuth, runs_removeIdReservation,
    and_assoc, exists_and_left, exists_eq_left, exists_const] at run
  rcases run with ⟨-, rfl⟩
  exact .single rfl .release

/-- An expired reservation is dropped, and its ids are given back when they are the last. -/
@[simp]
def GivesBack (holder : Address) (action : Action) : Prop :=
  action = .reclaim holder ∨ action = .release holder

theorem reclaimExpiredIdReservation_refines
    (run : Runs (reclaimExpiredIdReservation holder) env s done s') :
    Refines env (GivesBack holder) s s' := by
  simp only [reclaimExpiredIdReservation, releaseReservation, runs_bind, runs_peek,
    runs_getOrReject, runs_ask, runs_rejectIf, runs_ite, runs_setStreamCount,
    runs_removeIdReservation, runs_publish, decide_eq_true_eq, and_assoc, exists_and_left,
    exists_eq_left, exists_const] at run
  rcases run with ⟨res, held, _, -, -, ⟨last, -, final⟩ | ⟨-, final⟩⟩
  · have same : State.SameAccounts
        { s with
          nextStreamId := res.startId + res.consumed
          idReservation := Function.update s.idReservation holder none } s' := by
      rw [final]
      exact ⟨rfl, rfl, rfl, rfl, rfl, rfl, by simp [State.fundings, Event.funding], rfl, rfl⟩
    refine .single (Or.inl rfl) ?_
    rw [same.book_eq (by rw [final])]
    exact .reclaim held last
  · have same : State.SameAccounts
        { s with idReservation := Function.update s.idReservation holder none } s' := by
      rw [final]
      exact ⟨rfl, rfl, rfl, rfl, rfl, rfl, by simp [State.fundings, Event.funding], rfl, rfl⟩
    refine .single (Or.inr rfl) ?_
    rw [same.book_eq (by rw [final])]
    exact .release

/-! ## Views -/

theorem calculateAccrued_unchanged {accrued : ℤ}
    (run : Runs (calculateAccrued id) env s accrued s') : Unchanged env s s' := by
  have run' := run
  simp only [calculateAccrued, runs_bind, runs_loadStream, and_assoc, exists_and_left,
    exists_eq_left] at run'
  rcases run' with ⟨stream, stored, -⟩
  rcases (runs_calculateAccrued stored).mp run with ⟨-, -, rfl⟩
  rcases s.accrualRead_eq stream env.timestamp with ⟨noted, same⟩
  rw [same]
  exact .of_same ⟨rfl, rfl, rfl, rfl, rfl, rfl, rfl, rfl, rfl⟩ rfl

theorem getWithdrawable_unchanged {withdrawable : ℤ}
    (run : Runs (getWithdrawable id) env s withdrawable s') : Unchanged env s s' := by
  simp only [getWithdrawable, runs_bind, runs_loadStream, runs_ite, runs_pure, runs_plainI128,
    runs_tokenBalance, and_assoc, exists_and_left, exists_eq_left] at run
  rcases run with ⟨stream, -, ⟨-, -, rfl⟩ | ⟨-, _, _, read, -, -, -, rfl⟩⟩
  · rfl
  · exact calculateAccrued_unchanged read

theorem getStreamHealth_unchanged {health : StreamHealth}
    (run : Runs (getStreamHealth id) env s health s') : Unchanged env s s' := by
  simp only [getStreamHealth, runs_bind, runs_loadStream, runs_ask, runs_pure, and_assoc,
    exists_and_left, exists_eq_left] at run
  rcases run with ⟨stream, -, _, _, read, -, rfl⟩
  exact calculateAccrued_unchanged read

theorem getAutoClaimStatus_unchanged {status : AutoClaimStatus}
    (run : Runs (getAutoClaimStatus id) env s status s') : Unchanged env s s' := by
  simp only [getAutoClaimStatus, isValidDestination, runs_bind, runs_loadStream, runs_peek,
    and_assoc, exists_and_left, exists_eq_left] at run
  rcases run with ⟨stream, -, run⟩
  split at run
  · rcases runs_pure.mp run with ⟨-, rfl⟩
    rfl
  · simp only [runs_bind, runs_ask, runs_ite, runs_pure, runs_currentAccrualTimestamp, and_assoc,
      exists_and_left, exists_eq_left] at run
    rcases run with ⟨-, -, rfl⟩ | ⟨-, -, -, rfl⟩
    · rfl
    · exact .of_same ⟨rfl, rfl, rfl, rfl, rfl, rfl, rfl, rfl, rfl⟩ rfl

end Wallie.StreamContract
