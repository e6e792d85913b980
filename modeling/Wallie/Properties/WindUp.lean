import Wallie.Properties.CancelSplit
import Wallie.Properties.Solvency

/-!
# Winding up a stream

No tokens are locked in: in every state that a run without re-pricing and keepers
reaches, the sender and the recipient of a stream can end it between them. The
sender cancels it, the recipient draws what is left of its share, and anybody
removes the record; a call that the stream no longer needs changes nothing.
-/

namespace Wallie.StreamContract

open Fallible

variable {address : Address} {s s' : State} {env : Env} {now id : ℕ} {stream : Stream}

/-- Nothing is drawn before it is earned, and the tokens of the contract cover what it owes. -/
theorem Reachable.earned_solvent
    (reached : Reachable address withoutUpdateRateAndKeeperCancel now s)
    (fits : s.totalDeposited ≤ i128.upper) :
    (s.book address).Earned now ∧ (s.book address).Solvent := by
  have invariant := reached.earned_invariant
    (fun book => book.totalDeposited ≤ i128.upper → book.Solvent) (fun _ _ _ allowed => allowed)
    ?_ ?_ ?_
  · exact ⟨invariant.1, invariant.2 fits⟩
  · exact fun _ blank _ => blank.solvent
  · intro book vault funded solvent fits
    exact ⟨(solvent fits).covered.trans funded, (solvent fits).counted, (solvent fits).bounded⟩
  · intro now book action book' step formed earned earned' solvent fits
    exact step.solvent formed earned earned' (solvent (step.totalDeposited_le.trans fits)) fits

theorem Reachable.owed_covered
    (reached : Reachable address withoutUpdateRateAndKeeperCancel now s)
    (fits : s.totalDeposited ≤ i128.upper) (stored : s.streams id = some stream) :
    stream.owed ≤ s.balances address := by
  have formed := reached.book_wellFormed
  rcases reached.earned_solvent fits with ⟨earned, solvent⟩
  refine (formed.owed_le_total (fun _ _ stored => ?_) stored).trans solvent.covered
  exact earned.owed_nonneg formed stored

theorem Stream.WellFormed.nothingClaimable (formed : stream.WellFormed id now)
    (cancelled : stream.status = .cancelled) (settled : stream.owed = 0) :
    ∃ instant, stream.cancelledAt = some instant ∧ stream.claimable instant ≤ 0 := by
  rcases Option.isSome_iff_exists.mp (formed.cancelledAt_iff.mp cancelled) with ⟨instant, at_⟩
  rw [Stream.owed_of_cancelled cancelled, at_, Option.getD_some] at settled
  refine ⟨instant, at_, ?_⟩
  rw [formed.claimable_eq, settled, max_self]

/-! ## The three calls -/

theorem cancelStreamInternal_succeeds (record : stream.WellFormed id env.timestamp)
    (live : stream.Live) (noted : s.lastAccrualLedgerTimestamp.getD 0 ≤ env.timestamp)
    (able : s.CanPayOut env (stream.depositAmount - stream.accruedAt env.timestamp)) :
    ∃ after, Runs (cancelStreamInternal stream) env s () after := by
  have accrued_nonneg := record.bounded.accruedAt_nonneg env.timestamp
  have accrued_le := record.bounded.accruedAt_le_deposit env.timestamp
  have deposit_le := record.bounded.deposit_le
  have lower : i128.lower ≤ 0 := by decide
  unfold cancelStreamInternal
  refine Runs.followedBy (runs_rejectIf.mpr ⟨live.open_, rfl⟩) ?_
  refine Runs.andThen (runs_currentAccrualTimestamp.mpr ⟨noted, rfl, rfl⟩) ?_
  refine Runs.andThen (runs_checkedI128.mpr ⟨⟨⟨by omega, by omega⟩, rfl⟩, rfl⟩) ?_
  refine Runs.followedBy (runs_saveStream.mpr rfl) ?_
  refine Runs.followedBy (runs_reconcilePausedStreamCount.mpr rfl) ?_
  refine Runs.followedBy (runs_releaseLiabilities.mpr rfl) ?_
  refine Runs.followedBy (State.CanPayOut.pushPositive ?_) ?_
  · exact able.of_same rfl rfl
  · exact ⟨_, runs_publish.mpr rfl⟩

theorem cancelStream_succeeds (record : stream.WellFormed id env.timestamp)
    (stored : s.streams id = some stream) (live : stream.Live)
    (running : s.globalEmergencyPaused = false) (signed : env.auth stream.sender = true)
    (noted : s.lastAccrualLedgerTimestamp.getD 0 ≤ env.timestamp)
    (able : s.CanPayOut env (stream.depositAmount - stream.accruedAt env.timestamp)) :
    ∃ after, Runs (cancelStream id) env s () after := by
  unfold cancelStream
  refine Runs.followedBy (runs_requireNotGloballyPaused.mpr ⟨running, rfl⟩) ?_
  refine Runs.andThen (runs_loadStream.mpr ⟨stored, rfl⟩) ?_
  refine Runs.followedBy (runs_requireAuth.mpr ⟨signed, rfl⟩) ?_
  exact cancelStreamInternal_succeeds record live noted able

/-- The recipient draws all that a cancelled stream owes. -/
theorem withdraw_cancelled_succeeds (record : stream.WellFormed id env.timestamp)
    (stored : s.streams id = some stream) (cancelled : stream.status = .cancelled)
    (running : s.globalEmergencyPaused = false) (signed : env.auth stream.recipient = true)
    (spaced : stream.lastWithdrawLedger < env.sequence) (nonneg : 0 ≤ stream.owed)
    (noted : s.lastAccrualLedgerTimestamp.getD 0 ≤ env.timestamp)
    (able : s.CanPayOut env stream.owed) :
    ∃ after, Runs (withdraw id) env s stream.owed after := by
  have unpaid : stream.entitlement env.timestamp - stream.withdrawnAmount = stream.owed := by
    rw [Stream.entitlement_of_cancelled cancelled, Stream.owed_of_cancelled cancelled]
  have terminal : stream.IsTerminal env.timestamp := Or.inr (Or.inl cancelled)
  have drawable : Drawable env s id stream :=
    { running, stored
      configured := able.configured
      authorised := signed
      spaced := ⟨spaced.le, Nat.sub_pos_of_lt spaced⟩
      unfinished := by simp [cancelled]
      unpaused := by simp [cancelled]
      frozen := record.cancelledAt_iff.mp
      noted := fun _ => noted
      fits := record.unpaid_fits env.timestamp }
  rcases nonneg.lt_or_eq with positive | nothing
  · exact drawable.runs record able unpaid positive fun dust => dust.2.1 terminal
  · refine ⟨_, runs_withdraw.mpr ⟨stream, drawable, Or.inl ⟨Or.inl ?_, nothing.symm, rfl⟩⟩⟩
    rw [Stream.payable, unpaid]
    exact (min_le_left _ _).trans nothing.ge

/-- Anybody removes a stream on which nothing is left to draw. -/
theorem closeCompletedStream_succeeds (stored : s.streams id = some stream)
    (ended : stream.status = .completed ∨ stream.status = .cancelled ∧
      ∃ instant, stream.cancelledAt = some instant ∧ stream.claimable instant ≤ 0) :
    Runs (closeCompletedStream id) env s () (s.closed stream id) := by
  have closable : ¬ (stream.status ≠ .completed ∧ stream.status ≠ .cancelled) := by
    rcases ended with completed | ⟨cancelled, _⟩
    · exact fun open_ => open_.1 completed
    · exact fun open_ => open_.2 cancelled
  simp only [closeCompletedStream, runs_bind, runs_loadStream, runs_rejectIf, runs_ite,
    runs_requireNothingClaimable, runs_removeClosedStream, and_assoc, exists_and_left,
    exists_eq_left, exists_const, stored, Option.some.injEq, exists_eq_left', closable,
    not_false_eq_true, true_and]
  rcases ended with completed | ⟨cancelled, nothing⟩
  · exact Or.inr ⟨by simp [completed], trivial⟩
  · exact Or.inl ⟨cancelled, nothing, trivial⟩

/-! ## The three calls in turn -/

/-- A cancellation by the sender, a withdrawal by the recipient in a later ledger than the last
one, and a call that closes the stream, through a token that pays. -/
structure WindUp (address : Address) (now : ℕ) (s : State) (id : ℕ) (stream : Stream) where
  cancel : Invocation address
  draw : Invocation address
  close : Invocation address
  cancels : cancel.call = .cancelStream id
  draws : draw.call = .withdraw id
  closes : close.call = .closeCompletedStream id
  ordered : Script.Ordered [cancel, draw, close] now
  senderSigns : cancel.env.auth stream.sender = true
  recipientSigns : draw.env.auth stream.recipient = true
  spaced : stream.lastWithdrawLedger < draw.env.sequence
  refunds : cancel.env.TokenHonours s
  pays : draw.env.TokenHonours s

/-- What is left of a stream once its sender has cancelled it. -/
structure Ended (address : Address) (id : ℕ) (stream : Stream) (due : ℤ) (s s' : State)
    (record : Stream) : Prop where
  stored : s'.streams id = some record
  terminal : record.status = .completed ∨ record.status = .cancelled
  recipient : record.recipient = stream.recipient
  lastWithdrawLedger : record.lastWithdrawLedger = stream.lastWithdrawLedger
  owed : record.owed = due
  balances : s'.balances = movedBalances s.balances address stream.sender (stream.owed - due)
  running : s'.globalEmergencyPaused = s.globalEmergencyPaused
  others : ∀ other, other ≠ id → s'.streams other = s.streams other

namespace WindUp

variable (windUp : WindUp address now s id stream)

/-- What the recipient has earned when the sender cancels, and not drawn. -/
def due : ℤ :=
  stream.entitlement windUp.cancel.env.timestamp - stream.withdrawnAmount

def cancelled : State :=
  windUp.cancel.call.run.commit windUp.cancel.env s

def drawn : State :=
  windUp.draw.call.run.commit windUp.draw.env windUp.cancelled

def closed : State :=
  windUp.close.call.run.commit windUp.close.env windUp.drawn

variable {windUp}

theorem run_eq : Script.run [windUp.cancel, windUp.draw, windUp.close] s = windUp.closed :=
  rfl

theorem order : now ≤ windUp.cancel.env.timestamp :=
  windUp.ordered.1

theorem due_bounds (reached : Reachable address withoutUpdateRateAndKeeperCancel now s)
    (fits : s.totalDeposited ≤ i128.upper) (stored : s.streams id = some stream) :
    0 ≤ windUp.due ∧ windUp.due ≤ stream.owed := by
  have formed := reached.book_wellFormed.mono windUp.order
  have earned := (reached.earned_solvent fits).1.mono reached.book_wellFormed windUp.order
  have record := formed.records id stream stored
  refine ⟨sub_nonneg.mpr (earned.earned id stream stored), ?_⟩
  have entitled := record.bounded.entitlement_le_deposit windUp.cancel.env.timestamp
  unfold due
  cases status : stream.status with
  | active | paused =>
      have live : stream.Live := by simp [Stream.Live, status]
      rw [live.owed]
      omega
  | cancelled => rw [Stream.entitlement_of_cancelled status, Stream.owed_of_cancelled status]
  | completed =>
      have all := record.completed status
      rw [Stream.owed, status]
      change _ ≤ (0 : ℤ)
      omega

theorem ended_of_live (reached : Reachable address withoutUpdateRateAndKeeperCancel now s)
    (fits : s.totalDeposited ≤ i128.upper) (stored : s.streams id = some stream)
    (running : s.globalEmergencyPaused = false) (live : stream.Live) :
    Ended address id stream windUp.due s windUp.cancelled
      (stream.cancelledNow windUp.cancel.env.timestamp) := by
  have formed := reached.book_wellFormed.mono windUp.order
  have record := formed.records id stream stored
  have covered : stream.owed ≤ s.balances windUp.cancel.env.currentContractAddress := by
    rw [windUp.cancel.here]
    exact reached.owed_covered fits stored
  have due : windUp.due =
      stream.accruedAt windUp.cancel.env.timestamp - stream.withdrawnAmount := by
    rw [WindUp.due, live.entitlement]
  have refund : stream.depositAmount - stream.accruedAt windUp.cancel.env.timestamp =
      stream.owed - windUp.due := by
    rw [live.owed, due]
    omega
  have bounds := windUp.due_bounds reached fits stored
  have able : s.CanPayOut windUp.cancel.env
      (stream.depositAmount - stream.accruedAt windUp.cancel.env.timestamp) :=
    ⟨formed.initialised, reached.tokenBalances, windUp.refunds, by omega⟩
  rcases cancelStream_succeeds record stored live running windUp.senderSigns
    (reached.noted_le.trans windUp.order) able with ⟨after, run⟩
  have ran : windUp.cancelled = after := by
    rw [cancelled, windUp.cancels]
    exact commit_of_runs run
  rcases cancelStream_cases run with ⟨found, _, stored', _, internal⟩
  cases stored.symm.trans stored'
  have cancelledBy := cancelledBy_of_internal stored record internal
  rcases cancelStreamInternal_cases internal with ⟨_, _, _, middle, pushed, rfl⟩
  obtain rfl := (runs_pushPositive.mp pushed).2
  rw [ran]
  refine ⟨cancelledBy.stored', Or.inr rfl, rfl, rfl, ?_, ?_, ?_, ?_⟩
  · rw [Stream.owed_cancelledNow, due]
  · rw [cancelledBy.balances, windUp.cancel.here, refund]
  · rcases State.pushedPositive_eq with ⟨_, _, same⟩
    rw [same]
  · intro other distinct
    have keyed := record.streamId
    simp [keyed, Function.update_of_ne distinct]

/-- A stream that is over is not cancelled again. -/
theorem ended_of_over (reached : Reachable address withoutUpdateRateAndKeeperCancel now s)
    (stored : s.streams id = some stream)
    (ended : stream.status = .completed ∨ stream.status = .cancelled) :
    Ended address id stream windUp.due s windUp.cancelled stream := by
  have record := reached.book_wellFormed.records id stream stored
  have kept : windUp.cancelled = s := by
    rw [cancelled, windUp.cancels]
    refine commit_of_fails fun _ after run => ?_
    rcases cancelStream_cases run with ⟨found, _, stored', _, internal⟩
    cases stored.symm.trans stored'
    have live := (cancelStreamInternal_cases internal).1
    rcases ended with completed | cancelled
    · exact live.not_completed completed
    · exact live.not_cancelled cancelled
  have owed : stream.owed = windUp.due := by
    rcases ended with completed | cancelled
    · have all := record.completed completed
      simp [WindUp.due, Stream.owed, Stream.entitlement, completed, all]
    · rw [WindUp.due, Stream.entitlement_of_cancelled cancelled, Stream.owed_of_cancelled cancelled]
  rw [kept]
  refine ⟨stored, ended, rfl, rfl, owed, ?_, rfl, fun _ _ => rfl⟩
  rw [owed, sub_self, movedBalances_zero]

/-- The first call leaves a stream that is over, with what its recipient has earned. -/
theorem ended (reached : Reachable address withoutUpdateRateAndKeeperCancel now s)
    (fits : s.totalDeposited ≤ i128.upper) (stored : s.streams id = some stream)
    (running : s.globalEmergencyPaused = false) :
    ∃ record, Ended address id stream windUp.due s windUp.cancelled record := by
  by_cases live : stream.Live
  · exact ⟨_, ended_of_live reached fits stored running live⟩
  · have ended : stream.status = .completed ∨ stream.status = .cancelled := by
      rw [Stream.live_iff] at live
      tauto
    exact ⟨_, ended_of_over reached stored ended⟩

/-- The second call leaves nothing to draw. -/
theorem drawn_over (reached : Reachable address withoutUpdateRateAndKeeperCancel now s)
    (fits : s.totalDeposited ≤ i128.upper) (stored : s.streams id = some stream)
    (running : s.globalEmergencyPaused = false) {record : Stream}
    (ended : Ended address id stream windUp.due s windUp.cancelled record) :
    ∃ last, windUp.drawn.streams id = some last ∧
      (last.status = .completed ∨ last.status = .cancelled ∧
        ∃ instant, last.cancelledAt = some instant ∧ last.claimable instant ≤ 0) ∧
      windUp.drawn.balances =
        movedBalances windUp.cancelled.balances address stream.recipient windUp.due ∧
      ∀ other, other ≠ id → windUp.drawn.streams other = s.streams other := by
  have reached' : Reachable address withoutUpdateRateAndKeeperCancel
      windUp.draw.env.timestamp windUp.cancelled := by
    refine .tick (reached.invoke windUp.cancel windUp.order ?_) windUp.ordered.2.1
    rw [windUp.cancels]
    trivial
  have reached'' : Reachable address withoutUpdateRateAndKeeperCancel
      windUp.draw.env.timestamp windUp.drawn := by
    refine reached'.invoke windUp.draw le_rfl ?_
    rw [windUp.draws]
    trivial
  have record_formed := reached'.book_wellFormed.records id record ended.stored
  rcases windUp.due_bounds reached fits stored with ⟨due_nonneg, due_le⟩
  rcases ended.terminal with completed | cancelled
  · -- Everything is drawn, so the withdrawal fails.
    have nothing : windUp.due = 0 := by
      rw [← ended.owed, Stream.owed, completed]
    have kept : windUp.drawn = windUp.cancelled := by
      rw [drawn, windUp.draws]
      refine commit_of_fails fun _ after run => ?_
      rcases runs_effect.mp run with ⟨amount, run⟩
      rcases runs_withdraw.mp run with ⟨found, drawable, _⟩
      cases ended.stored.symm.trans drawable.stored
      exact drawable.unfinished completed
    rw [kept]
    refine ⟨record, ended.stored, Or.inl completed, ?_, ended.others⟩
    rw [nothing, movedBalances_zero]
  · have able : s.CanPayOut windUp.draw.env (stream.owed - windUp.due + windUp.due) := by
      refine ⟨reached.book_wellFormed.initialised, reached.tokenBalances, windUp.pays, ?_⟩
      rw [sub_add_cancel, windUp.draw.here]
      exact reached.owed_covered fits stored
    have refunded : windUp.cancelled.balances = movedBalances s.balances
        windUp.draw.env.currentContractAddress stream.sender (stream.owed - windUp.due) := by
      rw [windUp.draw.here]
      exact ended.balances
    have able' : windUp.cancelled.CanPayOut windUp.draw.env windUp.due := by
      refine able.moved (sub_nonneg.mpr due_le) due_nonneg ?_ refunded
      exact reached'.book_wellFormed.initialised.trans reached.book_wellFormed.initialised.symm
    have signed : windUp.draw.env.auth record.recipient = true := by
      rw [ended.recipient]
      exact windUp.recipientSigns
    have spaced : record.lastWithdrawLedger < windUp.draw.env.sequence := by
      rw [ended.lastWithdrawLedger]
      exact windUp.spaced
    rw [← ended.owed] at able' due_nonneg
    rcases withdraw_cancelled_succeeds record_formed ended.stored cancelled
      (ended.running.trans running) signed spaced due_nonneg reached'.noted_le able' with
      ⟨after, run⟩
    have ran : windUp.drawn = after := by
      rw [drawn, windUp.draws]
      have effect : Runs (Call.withdraw id).run windUp.draw.env windUp.cancelled () after :=
        runs_effect.mpr ⟨_, run⟩
      exact commit_of_runs effect
    rcases pays_of_withdraw run with ⟨nothing, noted, rfl⟩ | ⟨found, pays⟩
    · rw [ran]
      refine ⟨record, ended.stored,
        Or.inr ⟨cancelled, record_formed.nothingClaimable cancelled nothing⟩, ?_, ended.others⟩
      rw [← ended.owed, nothing, movedBalances_zero]
    · cases ended.stored.symm.trans pays.stored
      have streams := pays.streams
      rw [record_formed.streamId] at streams
      have stored' : windUp.drawn.streams id =
          some (record.paid .withdraw record.owed windUp.draw.env.sequence) := by
        rw [ran, streams, Function.update_self]
      have status : (record.paid .withdraw record.owed windUp.draw.env.sequence).status =
          .cancelled :=
        (if_neg fun drained => Stream.Live.not_cancelled drained.1 cancelled).trans cancelled
      have settled : (record.paid .withdraw record.owed windUp.draw.env.sequence).owed = 0 := by
        rw [Stream.paid, Stream.owed_withdrawnTo (by simp [cancelled])]
        ring
      have formed' := reached''.book_wellFormed.records id _ stored'
      refine ⟨_, stored', Or.inr ⟨status, formed'.nothingClaimable status settled⟩, ?_, ?_⟩
      · rcases pays.result with ⟨_, _, rfl⟩
        rw [ran, ← ended.owed, ← ended.recipient]
        change movedBalances _ windUp.draw.env.currentContractAddress _ _ = _
        rw [windUp.draw.here]
      · intro other distinct
        rw [ran, streams, Function.update_of_ne distinct]
        exact ended.others other distinct

end WindUp

/-- In every state that a run without `updateRate` and keepers reaches, while the contract is not
stopped, any stored stream can be ended: after the three calls it is removed, its recipient has what
was earned and not drawn, its sender the rest of what the contract owed on it, and all other streams
are as they were. -/
theorem stream_winds_up (reached : Reachable address withoutUpdateRateAndKeeperCancel now s)
    (fits : s.totalDeposited ≤ i128.upper) (stored : s.streams id = some stream)
    (running : s.globalEmergencyPaused = false) (windUp : WindUp address now s id stream) :
    0 ≤ windUp.due ∧ windUp.due ≤ stream.owed ∧ windUp.closed.streams id = none ∧
      windUp.closed.balances = movedBalances
        (movedBalances s.balances address stream.sender (stream.owed - windUp.due)) address
        stream.recipient windUp.due ∧
      ∀ other, other ≠ id → windUp.closed.streams other = s.streams other := by
  rcases windUp.due_bounds reached fits stored with ⟨due_nonneg, due_le⟩
  rcases windUp.ended reached fits stored running with ⟨record, ended⟩
  rcases windUp.drawn_over reached fits stored running ended with
    ⟨last, stored', drained, balances, others⟩
  have closed : windUp.closed = windUp.drawn.closed last id := by
    rw [WindUp.closed, windUp.closes]
    exact commit_of_runs (closeCompletedStream_succeeds stored' drained)
  rw [closed]
  refine ⟨due_nonneg, due_le, Function.update_self .., ?_, ?_⟩
  · change windUp.drawn.balances = _
    rw [balances, ended.balances]
  · intro other distinct
    exact (Function.update_of_ne distinct ..).trans (others other distinct)

namespace Sample

/-- The recipient draws what is left of the stream that is cancelled when half of it is over. -/
def drawingRest : Invocation contract :=
  invocation 2 60 2 (.withdraw 0) (Eq.refl true)

def closing : Invocation contract :=
  invocation 3 70 3 (.closeCompletedStream 0) (Eq.refl true)

end Sample

/-- Sender and recipient share a deposit of 1000. -/
theorem stream_winds_up_half :
    let s := Script.run (Sample.oneCreation 1000 10 0 0 (Eq.refl true)) Sample.genesis
    let final := Script.run [Sample.cancelling, Sample.drawingRest, Sample.closing] s
    final.streams 0 = none ∧
      final.balances = movedBalances (movedBalances s.balances Sample.contract Sample.sender 500)
        Sample.contract Sample.recipient 500 := by
  intro s final
  have reached : Reachable Sample.contract withoutUpdateRateAndKeeperCancel 0 s :=
    Sample.reachable_oneCreation fun _ _ _ _ => trivial
  have terms : (s.streams 0).map (fun stream => (stream.sender, stream.recipient,
      stream.lastWithdrawLedger, stream.owed, stream.entitlement 50 - stream.withdrawnAmount)) =
        some (Sample.sender, Sample.recipient, 0, 1000, 500) := by
    decide +kernel
  rcases Option.map_eq_some_iff.mp terms with ⟨stream, stored, terms⟩
  simp only [Prod.mk.injEq] at terms
  rcases terms with ⟨sender, recipient, ledger, owed, due⟩
  have balances : s.balances =
      movedBalances Sample.balances Sample.sender Sample.contract 1000 := rfl
  have honours : ∀ key timestamp sequence,
      (Sample.env key timestamp sequence).TokenHonours s := by
    intro _ _ _
    refine ⟨fun _ _ _ => rfl, ?_⟩
    rw [balances]
    exact Sample.roomy_of_pulled (by decide) (by decide)
  let windUp : WindUp Sample.contract 0 s 0 stream :=
    { cancel := Sample.cancelling
      draw := Sample.drawingRest
      close := Sample.closing
      cancels := rfl
      draws := rfl
      closes := rfl
      ordered := ⟨by decide, by decide, by decide, trivial⟩
      senderSigns := by rw [sender]; rfl
      recipientSigns := by rw [recipient]; rfl
      spaced := by rw [ledger]; decide
      refunds := honours 1 50 1
      pays := honours 2 60 2 }
  have due : windUp.due = 500 := due
  have fits : s.totalDeposited ≤ i128.upper := by decide +kernel
  have running : s.globalEmergencyPaused = false := by decide +kernel
  rcases stream_winds_up reached fits stored running windUp with ⟨_, _, removed, shared, _⟩
  rw [due, owed, sender, recipient] at shared
  have closed : final = windUp.closed := windUp.run_eq
  rw [closed]
  exact ⟨removed, shared⟩

end Wallie.StreamContract
