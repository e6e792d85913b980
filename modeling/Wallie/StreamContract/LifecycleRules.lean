import Wallie.StreamContract.ScheduleRules

/-!
# Rules of pausing, cancelling and closing

What each change of the status of a stream rests on and what it writes. A
transfer is left as a run, for its readers to say what it moves.
-/

namespace Wallie.StreamContract

open Fallible

variable {env : Env} {s s' : State} {stream : Stream} {id : ℕ} {done : Unit}

/-! ## Pausing -/

theorem pauseLoadedStream_cases (run : Runs (pauseLoadedStream stream) env s done s') :
    ¬ stream.IsTerminal env.timestamp ∧ stream.status = .active ∧
      minPauseIntervalLedgers ≤ env.sequence - stream.lastPauseToggleLedger ∧
      s' = { s with
        streams := Function.update s.streams stream.streamId
          (some { stream with status := .paused, lastPauseToggleLedger := env.sequence })
        pausedStreamCount := reconciledCount stream.status .paused s.pausedStreamCount } := by
  simp only [pauseLoadedStream, runs_bind, runs_rejectIf, runs_ask, runs_saveStream,
    runs_reconcilePausedStreamCount, not_not, not_lt, and_assoc, exists_and_left, exists_eq_left,
    exists_const] at run
  exact run.2

theorem pauseStream_cases {reason : PauseReason}
    (run : Runs (pauseStream id reason) env s done s') :
    ∃ stream middle, s.streams id = some stream ∧ env.auth stream.sender = true ∧
      Runs (pauseLoadedStream stream) env s () middle ∧
      s' = { middle with events := middle.events ++ [.paused id reason.text] } := by
  simp only [pauseStream, requireStreamSender, runs_bind, runs_loadStream, runs_requireAuth,
    runs_publish, and_assoc, exists_and_left, exists_eq_left, exists_const] at run
  rcases run with ⟨stream, stored, authorised, _, middle, paused, rfl⟩
  exact ⟨stream, middle, stored, authorised, paused, rfl⟩

theorem pauseStreamAsAdmin_cases {reason : PauseReason}
    (run : Runs (pauseStreamAsAdmin id reason) env s done s') :
    ∃ admin stream middle, s.config.map Config.admin = some admin ∧ env.auth admin = true ∧
      s.streams id = some stream ∧ Runs (pauseLoadedStream stream) env s () middle ∧
      s' = { middle with
        lastPauseRecord :=
          some { actor := admin, timestamp := env.timestamp, reason := reason.text }
        events := middle.events ++ [.paused id reason.text] } := by
  simp only [pauseStreamAsAdmin, runs_bind, runs_getAdmin, runs_loadStream, runs_requireAuth,
    runs_ask, runs_update, runs_publish, and_assoc, exists_and_left, exists_eq_left,
    exists_const] at run
  rcases run with ⟨admin, configured, authorised, stream, stored, _, middle, paused, rfl⟩
  exact ⟨admin, stream, middle, configured, authorised, stored, paused, rfl⟩

theorem resumeLoadedStream_cases (run : Runs (resumeLoadedStream stream) env s done s') :
    ¬ stream.IsTerminal env.timestamp ∧ stream.status = .paused ∧
      minPauseIntervalLedgers ≤ env.sequence - stream.lastPauseToggleLedger ∧
      s' = { s with
        streams := Function.update s.streams stream.streamId
          (some { stream with status := .active, lastPauseToggleLedger := env.sequence })
        pausedStreamCount := reconciledCount stream.status .active s.pausedStreamCount } := by
  simp only [resumeLoadedStream, runs_bind, runs_rejectIf, runs_ask, runs_saveStream,
    runs_reconcilePausedStreamCount, not_not, not_lt, and_assoc, exists_and_left, exists_eq_left,
    exists_const] at run
  exact run.2

theorem resumeStream_cases (run : Runs (resumeStream id) env s done s') :
    ∃ stream middle, s.streams id = some stream ∧ env.auth stream.sender = true ∧
      Runs (resumeLoadedStream stream) env s () middle ∧
      s' = { middle with events := middle.events ++ [.resumed id] } := by
  simp only [resumeStream, requireStreamSender, runs_bind, runs_loadStream, runs_requireAuth,
    runs_publish, and_assoc, exists_and_left, exists_eq_left, exists_const] at run
  rcases run with ⟨stream, stored, authorised, _, middle, resumed, rfl⟩
  exact ⟨stream, middle, stored, authorised, resumed, rfl⟩

theorem resumeStreamAsAdmin_cases (run : Runs (resumeStreamAsAdmin id) env s done s') :
    ∃ admin stream middle, s.config.map Config.admin = some admin ∧ env.auth admin = true ∧
      s.streams id = some stream ∧ Runs (resumeLoadedStream stream) env s () middle ∧
      s' = { middle with events := middle.events ++ [.resumed id] } := by
  simp only [resumeStreamAsAdmin, runs_bind, runs_getAdmin, runs_loadStream, runs_requireAuth,
    runs_publish, and_assoc, exists_and_left, exists_eq_left, exists_const] at run
  rcases run with ⟨admin, configured, authorised, stream, stored, _, middle, resumed, rfl⟩
  exact ⟨admin, stream, middle, configured, authorised, stored, resumed, rfl⟩

/-! ## Cancelling -/

theorem cancelStreamInternal_cases (run : Runs (cancelStreamInternal stream) env s done s') :
    let refund := stream.depositAmount - stream.accruedAt env.timestamp
    stream.Live ∧ s.lastAccrualLedgerTimestamp.getD 0 ≤ env.timestamp ∧ i128.Contains refund ∧
      ∃ middle,
        Runs (pushPositive stream.sender refund stream.streamId .cancelRefund) env
          { s with
            lastAccrualLedgerTimestamp := some env.timestamp
            streams := Function.update s.streams stream.streamId
              (some (stream.cancelledNow env.timestamp))
            pausedStreamCount := reconciledCount stream.status .cancelled s.pausedStreamCount
            totalLiabilities := releasedLiabilities s.totalLiabilities refund }
          () middle ∧
        s' = { middle with events := middle.events ++ [.cancelled stream.streamId] } := by
  simp only [cancelStreamInternal, requireCancellableStatus, runs_bind, runs_rejectIf,
    runs_currentAccrualTimestamp, runs_checkedI128, runs_saveStream,
    runs_reconcilePausedStreamCount, runs_releaseLiabilities, runs_publish, and_assoc,
    exists_and_left, exists_eq_left, exists_const] at run
  rcases run with ⟨open_, noted, fits, _, middle, pushed, rfl⟩
  exact ⟨Stream.live_of_open open_, noted, fits, middle, pushed, rfl⟩

theorem cancelStream_cases (run : Runs (cancelStream id) env s done s') :
    ∃ stream, s.globalEmergencyPaused = false ∧ s.streams id = some stream ∧
      env.auth stream.sender = true ∧ Runs (cancelStreamInternal stream) env s done s' := by
  simp only [cancelStream, requireStreamSender, runs_bind, runs_requireNotGloballyPaused,
    runs_loadStream, runs_requireAuth, and_assoc, exists_and_left, exists_eq_left,
    exists_const] at run
  rcases run with ⟨running, stream, stored, authorised, run⟩
  exact ⟨stream, running, stored, authorised, run⟩

theorem cancelStreamAsAdmin_cases (run : Runs (cancelStreamAsAdmin id) env s done s') :
    ∃ admin stream, s.config.map Config.admin = some admin ∧ env.auth admin = true ∧
      s.streams id = some stream ∧ Runs (cancelStreamInternal stream) env s done s' := by
  simp only [cancelStreamAsAdmin, runs_bind, runs_getAdmin, runs_loadStream, runs_requireAuth,
    and_assoc, exists_and_left, exists_eq_left, exists_const] at run
  rcases run with ⟨admin, configured, authorised, stream, stored, run⟩
  exact ⟨admin, stream, configured, authorised, stored, run⟩

/-- A cancellation by a keeper makes three payments, of which the fee is counted. -/
theorem keeperCancel_cases {keeper : Address}
    (run : Runs (keeperCancel id keeper) env s done s') :
    ∃ stream, s.streams id = some stream ∧ stream.Live ∧ env.auth keeper = true ∧
      stream.endTime + keeperGracePeriodSeconds ≤ env.timestamp ∧
      let gross := max (stream.depositAmount - stream.accruedAt env.timestamp) 0
      let fee := gross * keeperFeeBps / 10000
      i128.Contains (gross * keeperFeeBps) ∧ ∃ paidRecipient paidSender paidKeeper,
        Runs (pushPositive stream.recipient (stream.claimable env.timestamp) id
            .keeperSettlement) env
          { s with
            streams := Function.update s.streams stream.streamId
              (some (stream.cancelledNow env.timestamp))
            pausedStreamCount := reconciledCount stream.status .cancelled s.pausedStreamCount
            totalLiabilities := releasedLiabilities s.totalLiabilities
              (stream.claimable env.timestamp + gross) }
          () paidRecipient ∧
        Runs (pushPositive stream.sender (gross - fee) id .keeperRefund) env paidRecipient ()
          paidSender ∧
        Runs (payKeeperFee keeper fee id) env paidSender () paidKeeper ∧
        Runs (maybeEmitHealthChanged (stream.cancelledNow env.timestamp)
            (computeStreamHealth stream env.timestamp).1 env.timestamp) env
          { paidKeeper with events := paidKeeper.events ++
            [.kpCncl stream.streamId keeper fee (stream.claimable env.timestamp) (gross - fee)] }
          () s' := by
  simp only [keeperCancel, requireCancellableStatus, runs_bind, runs_requireAuth,
    runs_loadStream, runs_rejectIf, runs_ask, runs_checkedAddU64, runs_checkedI128,
    runs_saveStream, runs_reconcilePausedStreamCount, runs_releaseLiabilities, runs_publish,
    and_assoc, exists_and_left, exists_eq_left, exists_const] at run
  rcases run with
    ⟨authorised, stream, stored, open_, -, late, -, fits, -, -, _, paidRecipient, toRecipient, _,
      paidSender, toSender, _, paidKeeper, toKeeper, health⟩
  exact ⟨stream, stored, Stream.live_of_open open_, authorised, not_lt.mp late, fits,
    paidRecipient, paidSender, paidKeeper, toRecipient, toSender, toKeeper, health⟩

/-! ## Closing -/

/-- The state once stream `id` is closed. -/
def State.closed (s : State) (stream : Stream) (id : ℕ) : State :=
  { s with
    events := s.events ++ [.closed id]
    recipientStreams := Function.update s.recipientStreams stream.recipient
      (removeSorted (s.recipientStreams stream.recipient) id)
    streams := Function.update s.streams id none }

theorem runs_removeClosedStream :
    Runs (removeClosedStream stream id) env s done s' ↔ s' = s.closed stream id := by
  simp only [removeClosedStream, runs_bind, runs_publish, runs_removeStreamFromRecipientIndex,
    runs_removeStream, exists_eq_left, exists_const, State.closed]

theorem runs_requireNothingClaimable :
    Runs (requireNothingClaimable stream) env s done s' ↔
      (∃ instant, stream.cancelledAt = some instant ∧ stream.claimable instant ≤ 0) ∧
        s' = s := by
  simp only [requireNothingClaimable, runs_bind, runs_getOrReject, runs_rejectIf, not_lt,
    and_assoc, exists_and_left, exists_eq_left]
  constructor
  · rintro ⟨instant, at_, nothing, rfl⟩
    exact ⟨⟨instant, at_, nothing⟩, rfl⟩
  · rintro ⟨⟨instant, at_, nothing⟩, rfl⟩
    exact ⟨instant, at_, nothing, rfl⟩

theorem runs_closeCancelledStream :
    Runs (closeCancelledStream id) env s done s' ↔ ∃ stream, s.streams id = some stream ∧
      stream.status = .cancelled ∧
      (∃ instant, stream.cancelledAt = some instant ∧ stream.claimable instant ≤ 0) ∧
      s' = s.closed stream id := by
  simp only [closeCancelledStream, runs_bind, runs_loadStream, runs_rejectIf, not_not,
    runs_requireNothingClaimable, runs_removeClosedStream, and_assoc, exists_and_left,
    exists_eq_left, exists_const]

theorem closeCompletedStream_cases (run : Runs (closeCompletedStream id) env s done s') :
    ∃ stream, s.streams id = some stream ∧
      (stream.status = .completed ∨ stream.status = .cancelled ∧
        ∃ instant, stream.cancelledAt = some instant ∧ stream.claimable instant ≤ 0) ∧
      s' = s.closed stream id := by
  simp only [closeCompletedStream, runs_bind, runs_loadStream, runs_rejectIf, runs_ite,
    runs_requireNothingClaimable, runs_removeClosedStream, and_assoc, exists_and_left,
    exists_eq_left, exists_const] at run
  rcases run with ⟨stream, stored, terminal, ⟨cancelled, nothing, closed⟩ | ⟨uncancelled, closed⟩⟩
  · exact ⟨stream, stored, Or.inr ⟨cancelled, nothing⟩, closed⟩
  · have completed : stream.status = .completed := by
      by_contra uncompleted
      exact terminal ⟨uncompleted, uncancelled⟩
    exact ⟨stream, stored, Or.inl completed, closed⟩

end Wallie.StreamContract
