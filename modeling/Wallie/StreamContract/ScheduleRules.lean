import Wallie.Ledger.Move
import Wallie.StreamContract.StorageRules

/-!
# Rules of the schedule changes

What each change of the terms of a stream rests on and what it writes. A refund
is left as a run of the transfer, for its readers to say what it moves.
-/

namespace Wallie.StreamContract

open Fallible

variable {env : Env} {s s' : State} {id : ℕ} {done : Unit}

theorem linear_of_supported {stream : Stream} (supported : ¬ stream.kind = .cliffOnly) :
    stream.kind = .linear := by
  cases kind : stream.kind with
  | linear => rfl
  | cliffOnly => exact absurd kind supported

/-- The sender of a live stream that earns by the second may change its terms. -/
structure Adjustable (env : Env) (s : State) (id : ℕ) (stream : Stream) : Prop where
  running : s.globalEmergencyPaused = false
  stored : s.streams id = some stream
  linear : stream.kind = .linear
  authorised : env.auth stream.sender = true
  live : stream.Live
  noted : s.lastAccrualLedgerTimestamp.getD 0 ≤ env.timestamp

theorem updateRatePerSecond_cases {rate : ℤ}
    (run : Runs (updateRatePerSecond id rate) env s done s') :
    ∃ stream, Adjustable env s id stream ∧ 0 < rate ∧ stream.ratePerSecond < rate ∧
      rate ≤ s.maxRatePerSecond ∧
      rate * (stream.endTime - stream.startTime : ℕ) ≤ stream.depositAmount ∧
      s' = { s with
        lastAccrualLedgerTimestamp := some env.timestamp
        streams := Function.update s.streams stream.streamId
          (some (stream.checkpointed env.timestamp rate))
        events := s.events ++ [.rateUpd id stream.ratePerSecond rate env.timestamp] } := by
  simp only [updateRatePerSecond, requireStreamSender, runs_bind, runs_requireNotGloballyPaused,
    runs_loadStream, runs_rejectIf, runs_requireAuth, runs_peek, runs_ite, runs_publish,
    not_runs_reject, runs_plainSub, runs_checkedI128, runs_currentAccrualTimestamp,
    runs_saveStream, and_assoc, exists_and_left, exists_eq_left, exists_const, and_false,
    exists_false, false_or, not_lt, not_le] at run
  rcases run with
    ⟨running, stream, stored, supported, authorised, open_, positive, raised, capped, -, -, covered,
      noted, rfl⟩
  exact ⟨stream,
    { running, stored, authorised, noted
      linear := linear_of_supported supported
      live := Stream.live_of_open open_ },
    positive, raised, capped, covered, rfl⟩

theorem decreaseRatePerSecond_cases {rate : ℤ}
    (run : Runs (decreaseRatePerSecond id rate) env s done s') :
    ∃ stream, Adjustable env s id stream ∧ env.timestamp < stream.endTime ∧ 0 < rate ∧
      rate < stream.ratePerSecond ∧
      let deposit := stream.accruedAt env.timestamp + rate * (stream.endTime - env.timestamp : ℕ)
      let refund := stream.depositAmount - deposit
      0 ≤ refund ∧ ∃ middle,
        Runs (pushPositive stream.sender refund id .decreaseRefund) env
          { s with
            lastAccrualLedgerTimestamp := some env.timestamp
            streams := Function.update s.streams stream.streamId (some
              { stream.checkpointed env.timestamp rate with depositAmount := deposit }) }
          () middle ∧
        s' = { middle with events := middle.events ++
          [.rateDec id stream.ratePerSecond rate env.timestamp
            (stream.accruedAt env.timestamp) refund] } := by
  simp only [decreaseRatePerSecond, requireStreamSender, runs_bind,
    runs_requireNotGloballyPaused, runs_loadStream, runs_rejectIf, runs_requireAuth,
    runs_currentAccrualTimestamp, runs_checkedI128, runs_saveStream, runs_publish, and_assoc,
    exists_and_left, exists_eq_left, exists_const, not_le, not_lt] at run
  rcases run with
    ⟨running, stream, stored, supported, authorised, open_, noted, unended, positive, lowered, -, -,
      -, nonneg, _, middle, pushed, rfl⟩
  exact ⟨stream,
    { running, stored, authorised, noted
      linear := linear_of_supported supported
      live := Stream.live_iff.mpr (not_or.mp open_) },
    unended, positive, lowered, nonneg, middle, pushed, rfl⟩

theorem shortenStreamEndTime_cases {endTime : ℕ}
    (run : Runs (shortenStreamEndTime id endTime) env s done s') :
    ∃ stream, Adjustable env s id stream ∧ env.timestamp < endTime ∧ stream.startTime < endTime ∧
      stream.cliffTime ≤ endTime ∧ endTime < stream.endTime ∧
      let deposit := max (stream.ratePerSecond * (endTime - stream.startTime : ℕ))
        (stream.accruedAt env.timestamp)
      let refund := stream.depositAmount - deposit
      deposit ≤ stream.depositAmount ∧ ∃ middle,
        Runs (pushPositive stream.sender refund id .shortenRefund) env
          { s with
            lastAccrualLedgerTimestamp := some env.timestamp
            streams := Function.update s.streams stream.streamId
              (some { stream with endTime, depositAmount := deposit })
            totalLiabilities := releasedLiabilities s.totalLiabilities refund }
          () middle ∧
        s' = { middle with events := middle.events ++
          [.endShrt id stream.endTime endTime refund] } := by
  simp only [shortenStreamEndTime, requireStreamSender, requireCancellableStatus, runs_bind,
    runs_requireNotGloballyPaused, runs_loadStream, runs_rejectIf, runs_requireAuth,
    runs_currentAccrualTimestamp, runs_checkedI128, runs_saveStream, runs_releaseLiabilities,
    runs_publish, and_assoc, exists_and_left, exists_eq_left, exists_const, not_or, not_le,
    not_lt] at run
  rcases run with
    ⟨running, stream, stored, supported, authorised, open_, noted, future, started, visible,
      earlier, -, covered, -, _, middle, pushed, rfl⟩
  exact ⟨stream,
    { running, stored, authorised, noted
      linear := linear_of_supported supported
      live := Stream.live_of_open open_ },
    future, started, visible, earlier, covered, middle, pushed, rfl⟩

theorem extendStreamEndTime_cases {endTime : ℕ}
    (run : Runs (extendStreamEndTime id endTime) env s done s') :
    ∃ stream, Adjustable env s id stream ∧ stream.endTime < endTime ∧
      stream.startTime < endTime ∧ stream.cliffTime ≤ endTime ∧ env.timestamp ≤ endTime ∧
      stream.ratePerSecond * (endTime - stream.startTime : ℕ) ≤ stream.depositAmount ∧
      s' = { s with
        lastAccrualLedgerTimestamp := some env.timestamp
        streams := Function.update s.streams stream.streamId (some { stream with endTime })
        events := s.events ++ [.endExt id stream.endTime endTime] } := by
  simp only [extendStreamEndTime, requireStreamSender, requireCancellableStatus, runs_bind,
    runs_requireNotGloballyPaused, runs_loadStream, runs_rejectIf, runs_requireAuth,
    runs_currentAccrualTimestamp, runs_checkedI128, runs_saveStream, runs_publish, and_assoc,
    exists_and_left, exists_eq_left, exists_const, not_or, not_le, not_lt] at run
  rcases run with
    ⟨running, stream, stored, supported, authorised, open_, noted, later, started, visible,
      future, -, covered, rfl⟩
  exact ⟨stream,
    { running, stored, authorised, noted
      linear := linear_of_supported supported
      live := Stream.live_of_open open_ },
    later, started, visible, future, covered, rfl⟩

theorem topUpStream_cases {funder : Address} {amount : ℤ}
    (run : Runs (topUpStream id funder amount) env s done s') :
    ∃ stream, s.globalEmergencyPaused = false ∧ s.streams id = some stream ∧
      stream.kind = .linear ∧ stream.Live ∧ env.timestamp < stream.endTime ∧
      env.auth funder = true ∧ 0 < amount ∧ stream.depositAmount + amount ≤ i128.upper ∧
      s' = { s with
        lastAccrualLedgerTimestamp := some env.timestamp
        streams := Function.update s.streams stream.streamId
          (some { stream with depositAmount := stream.depositAmount + amount })
        totalLiabilities := increasedLiabilities s.totalLiabilities amount
        balances := movedBalances s.balances funder env.currentContractAddress amount
        allowances := Function.update s.allowances funder (s.allowances funder - amount)
        events := s.events ++
          [.topUp id amount (stream.depositAmount + amount) stream.endTime] } := by
  simp only [topUpStream, runs_bind, runs_requireNotGloballyPaused, runs_loadStream,
    runs_rejectIf, runs_requireAuth, runs_currentAccrualTimestamp, runs_checkedI128,
    runs_saveStream, runs_pullToken, State.pulled, runs_increaseLiabilities, runs_publish,
    and_assoc, exists_and_left, exists_eq_left, exists_const, not_le] at run
  rcases run with
    ⟨running, positive, stream, stored, supported, open_, -, unended, authorised, fits, -, -, -,
      rfl⟩
  exact ⟨stream, running, stored, linear_of_supported supported, Stream.live_of_open open_, unended,
    authorised, positive, fits.2, rfl⟩

theorem updateRate_cases {rate : ℤ} {caller : Address}
    (run : Runs (updateRate id rate caller) env s done s') :
    ∃ stream, s.streams id = some stream ∧ env.auth caller = true ∧ stream.Live ∧ 0 < rate ∧
      s' = { s with
        streams := Function.update s.streams stream.streamId
          (some { stream with ratePerSecond := rate })
        events := s.events ++ [.rateUpd id stream.ratePerSecond rate env.timestamp] } := by
  simp only [updateRate, runs_bind, runs_requireAuth, runs_loadStream, runs_rejectIf,
    runs_getAdmin, runs_saveStream, runs_ask, runs_publish, and_assoc, exists_and_left,
    exists_eq_left, exists_const, not_le] at run
  rcases run with ⟨authorised, stream, stored, open_, _, -, -, positive, rfl⟩
  exact ⟨stream, stored, authorised, Stream.live_iff.mpr (not_or.mp open_), positive, rfl⟩

end Wallie.StreamContract
