import Wallie.Properties.AutoClaim
import Wallie.StreamContract.Authority

/-!
# Who changes a stream

Each change of a record is made by one call, and has the consent that this call
takes. A payment is authorised by the recipient or asked for with the recipient's
signature; an auto-claim, which anybody may trigger after the end, goes to the
destination that the recipient of an earlier time chose. The schedule and the
rate are the sender's; the admin pauses, resumes, cancels and re-prices; a keeper
comes after the grace period. A record is removed when nothing is left on it.
-/

namespace Wallie.StreamContract

open Fallible

variable {address recipient sender : Address} {now id : ℕ} {env : Env} {s s' : State}
  {stream stream' : Stream} {move : Move} {call : Call} {held : ℤ}
  {past : List (State × Input address)}

/-- The destination of the auto-claims is the latest choice, authorised by the recipient of that
time; this is the present recipient, or the one that the rotations accepted since then started
from. -/
def Prearranged (past : List (State × Input address)) (s : State) (id : ℕ) (stream : Stream) :
    Prop :=
  ∃ destination later chooser, s.autoClaimDestination id = some destination ∧
    LatestSetting id past destination chooser later ∧
    stream.recipient = (rotations id later).head?.getD chooser

/-- The consent that the call takes to change the record of stream `id` from `stream` to
`stream'`. -/
def Call.Consented (past : List (State × Input address)) (env : Env) (s : State) (id : ℕ)
    (stream stream' : Stream) : Call → Prop
  | withdraw _ | withdrawTo _ _ | batchWithdraw _ _ | batchWithdrawTo _ _ =>
      env.auth stream.recipient = true
  | delegatedWithdraw _ relayer recipientPublicKey nonce deadline expectedMinimumAmount
      signature =>
      env.auth relayer = true ∧
        Delegated env s stream id recipientPublicKey nonce deadline expectedMinimumAmount signature
  -- Whoever is the recipient now need not have agreed.
  | triggerAutoClaim _ => stream.endTime ≤ env.timestamp ∧ Prearranged past s id stream
  | topUpStream _ funder _ => env.auth funder = true
  | updateRatePerSecond _ _ | decreaseRatePerSecond _ _ | shortenStreamEndTime _ _
  | extendStreamEndTime _ _ | pauseStream _ _ | resumeStream _ | cancelStream _
  | bulkCancelStreams _ _ => env.auth stream.sender = true
  | updateRate _ _ caller => env.auth caller = true ∧
      (caller = stream.sender ∨ ∃ config, s.config = some config ∧ caller = config.admin)
  | pauseStreamAsAdmin _ _ | resumeStreamAsAdmin _ | cancelStreamAsAdmin _ =>
      Party.admin.Consents env s
  | keeperCancel _ keeper => env.auth keeper = true ∧
      stream.endTime + keeperGracePeriodSeconds ≤ env.timestamp
  | acceptRecipientUpdate _ => env.auth stream.recipient = true ∧
      (s.pendingRecipientUpdate id).map PendingRecipientUpdate.proposedRecipient =
        some stream'.recipient
  | _ => False

/-! ## Batches -/

/-- Every record is stored under its id. -/
def Keyed (streams : ℕ → Option Stream) : Prop :=
  ∀ id stream, streams id = some stream → stream.streamId = id

theorem Keyed.update {streams : ℕ → Option Stream} (keyed : Keyed streams) (after : Stream) :
    Keyed (Function.update streams after.streamId (some after)) := by
  intro id stream stored
  rcases eq_or_ne id after.streamId with rfl | other
  · rw [Function.update_self, Option.some.injEq] at stored
    rw [← stored]
  · rw [Function.update_of_ne other] at stored
    exact keyed id stream stored

/-- A loop that checks the recipient of each stream it comes to goes through streams of one
recipient only, since it does not change the recipients itself. -/
theorem recipient_of_rest {streams : ℕ → Option Stream} {first : ℕ} {loaded after : Stream}
    (keyed : Keyed streams) (found : streams first = some loaded)
    (owned : loaded.recipient = recipient) (same : after.streamId = loaded.streamId)
    (stored : streams id = some stream)
    (rest : ∀ {stream : Stream},
      Function.update streams after.streamId (some after) id = some stream →
      stream.recipient = recipient) : stream.recipient = recipient := by
  have key : after.streamId = first := same.trans (keyed first loaded found)
  rcases eq_or_ne id first with rfl | other
  · cases stored.symm.trans found
    exact owned
  · refine rest ?_
    rw [Function.update_of_ne (key.symm ▸ other)]
    exact stored

/-- A batch withdrawal goes through streams of the caller only. -/
theorem batchWithdrawLoop_recipients {now : ℕ} {ids : List ℕ} {contractBalance : ℤ}
    {results : List BatchWithdrawResult}
    (run : Runs (batchWithdrawLoop recipient now ids contractBalance) env s results s')
    (keyed : Keyed s.streams) (member : id ∈ ids) (stored : s.streams id = some stream) :
    stream.recipient = recipient := by
  induction ids generalizing s results contractBalance stream with
  | nil => cases member
  | cons first rest ih =>
      simp only [batchWithdrawLoop, runs_bind, runs_loadStream, runs_rejectIf, runs_ask,
        runs_requireWithdrawInterval, not_not, and_assoc, exists_and_left, exists_eq_left,
        exists_const] at run
      rcases run with ⟨loaded, found, owned, _, _, _, payable, middle, computed, run⟩
      have same := batchWithdrawable_state computed
      subst middle
      rcases List.mem_cons.mp member with rfl | member
      · cases stored.symm.trans found
        exact owned
      simp only [runs_ite, runs_bind, runs_plainI128, runs_saveStream,
        runs_reconcilePausedStreamCount, runs_reduceLiabilities, runs_pushToken, runs_publish,
        runs_publishCompletion, runs_pure, and_assoc, exists_and_left, exists_eq_left,
        exists_const] at run
      rcases run with ⟨_, _, _, _, _, _, next, _, rfl⟩ | ⟨_, _, _, next, _, rfl⟩
      · refine recipient_of_rest keyed found owned ?_ stored fun stored =>
          ih next (keyed.update _) member stored
        rfl
      · exact ih next keyed member stored

theorem batchWithdrawToLoop_recipients {now : ℕ} {withdrawals : List WithdrawToParam}
    {contractBalance : ℤ} {results : List BatchWithdrawResult}
    (run : Runs (batchWithdrawToLoop recipient now withdrawals contractBalance) env s results s')
    (keyed : Keyed s.streams) (member : id ∈ withdrawals.map WithdrawToParam.streamId)
    (stored : s.streams id = some stream) : stream.recipient = recipient := by
  induction withdrawals generalizing s results contractBalance stream with
  | nil => cases member
  | cons first rest ih =>
      simp only [batchWithdrawToLoop, runs_bind, runs_loadStream, runs_rejectIf, not_not,
        and_assoc, exists_and_left, exists_eq_left, exists_const] at run
      rcases run with ⟨loaded, found, owned, _, payable, middle, computed, run⟩
      have same := batchWithdrawable_state computed
      subst middle
      rcases List.mem_cons.mp member with rfl | member
      · cases stored.symm.trans found
        exact owned
      simp only [runs_ite, runs_bind, runs_plainI128, runs_saveStream,
        runs_reconcilePausedStreamCount, runs_pushToken, runs_publish, runs_publishCompletion,
        runs_pure, and_assoc, exists_and_left, exists_eq_left, exists_const] at run
      rcases run with ⟨_, _, _, _, _, _, next, _, rfl⟩ | ⟨_, _, _, next, _, rfl⟩
      · refine recipient_of_rest keyed found owned ?_ stored fun stored =>
          ih next (keyed.update _) member stored
        rfl
      · exact ih next keyed member stored

theorem batchWithdraw_recipient {ids : List ℕ} {results : List BatchWithdrawResult}
    (run : Runs (batchWithdraw recipient ids) env s results s') (keyed : Keyed s.streams)
    (member : id ∈ ids) (stored : s.streams id = some stream) :
    env.auth stream.recipient = true := by
  rcases runs_batchWithdraw.mp run with ⟨_, authorised, _, _, _, loop⟩
  rw [batchWithdrawLoop_recipients loop keyed member stored]
  exact authorised

theorem batchWithdrawTo_recipient {withdrawals : List WithdrawToParam}
    {results : List BatchWithdrawResult}
    (run : Runs (batchWithdrawTo recipient withdrawals) env s results s')
    (keyed : Keyed s.streams) (member : id ∈ withdrawals.map WithdrawToParam.streamId)
    (stored : s.streams id = some stream) : env.auth stream.recipient = true := by
  simp only [batchWithdrawTo, runs_bind, runs_requireNotGloballyPaused, runs_requireAuth,
    runs_ask, runs_tokenBalance, runs_currentAccrualTimestamp, and_assoc, exists_and_left,
    exists_eq_left, exists_const] at run
  rcases run with ⟨_, authorised, _, _, checked, _, _, loop⟩
  rcases runs_checkDestinations checked with ⟨rfl, _⟩
  rw [batchWithdrawToLoop_recipients loop keyed member stored]
  exact authorised

theorem bulkCancelStreams_sender {ids : List ℕ} {done : Unit}
    (run : Runs (bulkCancelStreams sender ids) env s done s')
    (formed : (s.book address).WellFormed now) (member : id ∈ ids)
    (stored : s.streams id = some stream) : env.auth stream.sender = true := by
  rcases bulkCancelStreams_cases run formed with ⟨authorised, streams, rfl, _, found, _⟩
  rcases List.mem_map.mp member with ⟨record, listed, rfl⟩
  rcases found record listed with ⟨stored', _, owned⟩
  cases stored.symm.trans stored'
  rw [owned]
  exact authorised

/-! ## Moves -/

theorem Call.sender_signs (run : Runs call.run env s () s') (asked : call.party = .sender id)
    (stored : s.streams id = some stream) : env.auth stream.sender = true := by
  have consents := call.demands run
  rw [asked] at consents
  rcases consents with ⟨record, stored', authorised⟩
  cases stored.symm.trans stored'
  exact authorised

theorem Call.recipient_signs (run : Runs call.run env s () s')
    (asked : call.party = .recipient id) (stored : s.streams id = some stream) :
    env.auth stream.recipient = true := by
  have consents := call.demands run
  rw [asked] at consents
  rcases consents with ⟨record, stored', authorised⟩
  cases stored.symm.trans stored'
  exact authorised

theorem Call.admin_signs (run : Runs call.run env s () s') (asked : call.party = .admin) :
    Party.admin.Consents env s := by
  have consents := call.demands run
  rw [asked] at consents
  exact consents

/-- A call that changes a record has the consent that it takes. -/
theorem Call.Changing.consented (recorded : Recorded address anyCall past now s)
    (order : now ≤ env.timestamp) (changing : call.Changing held id move)
    (run : Runs call.run env s () s') (stored : s.streams id = some stream)
    (stored' : s'.streams id = some stream') (changed : stream' ≠ stream)
    (moves : stream.Moves env.timestamp move stream') :
    call.Consented past env s id stream stream' := by
  have reached : Reachable address anyCall now s := ClockedSystem.Recorded.reachable recorded
  have formed := reached.book_wellFormed.mono order
  have keyed : Keyed s.streams := fun id record stored => (formed.records id record stored).streamId
  -- A call that pays nothing does not change the record.
  have unpaid : ¬ s.SameButClock s' := by
    rintro ⟨_, rfl⟩
    rw [stored, Option.some.injEq] at stored'
    exact changed stored'.symm
  cases changing with
  | withdraw _ | withdrawTo _ => exact Call.recipient_signs run rfl stored
  | batchWithdraw member _ =>
      rcases runs_effect.mp run with ⟨_, run⟩
      exact batchWithdraw_recipient run keyed member stored
  | batchWithdrawTo member same _ =>
      rcases runs_effect.mp run with ⟨_, run⟩
      exact batchWithdrawTo_recipient run keyed (List.mem_map.mpr ⟨_, member, same⟩) stored
  | delegatedWithdraw _ =>
      have signed := Call.demands _ run
      rcases runs_effect.mp run with ⟨_, run⟩
      rcases pays_of_delegatedWithdraw run with ⟨_, same⟩ | ⟨record, pays, _, given⟩
      · exact absurd same unpaid
      · cases stored.symm.trans pays.stored
        exact ⟨signed, given⟩
  | triggerAutoClaim _ =>
      rcases runs_effect.mp run with ⟨_, run⟩
      rcases pays_of_triggerAutoClaim run (formed.records id) with
        ⟨_, same⟩ | ⟨record, destination, chosen, pays⟩
      · exact absurd same unpaid
      · cases stored.symm.trans pays.stored
        rcases recorded.latestSetting chosen with ⟨later, chooser, latest, _, recipient⟩
        exact ⟨(pays.expired rfl).2, destination, later, chooser, chosen, latest,
          recipient stream stored⟩
  | updateRatePerSecond | decreaseRatePerSecond | shortenStreamEndTime | extendStreamEndTime
  | pauseStream | resumeStream | cancelStream => exact Call.sender_signs run rfl stored
  | topUpStream => exact Call.demands _ run
  | updateRate =>
      rcases demands_updateRate run with ⟨authorised, ⟨record, stored'', rfl⟩ | admin⟩
      · cases stored.symm.trans stored''
        exact ⟨authorised, Or.inl rfl⟩
      · exact ⟨authorised, Or.inr admin⟩
  | pauseStreamAsAdmin | resumeStreamAsAdmin | cancelStreamAsAdmin =>
      exact Call.admin_signs run rfl
  | keeperCancel =>
      have signed := Call.demands _ run
      cases moves with
      | keeperCancel _ abandoned _ _ => exact ⟨signed, abandoned⟩
  | bulkCancelStreams member => exact bulkCancelStreams_sender run formed member stored
  | acceptRecipientUpdate =>
      refine ⟨Call.recipient_signs run rfl stored, ?_⟩
      rcases rotates_of_acceptRecipientUpdate run with
        ⟨record, recipient, stored'', proposed, streams, _⟩
      cases stored.symm.trans stored''
      rw [streams, keyed id stream stored, Function.update_self, Option.some.injEq] at stored'
      rw [proposed, ← stored']

/-- A call that closes a stream finds it over, and its recipient paid. -/
theorem over_of_closes {invocation : Invocation address}
    (makes : invocation.Makes s (.close id)) (stored : s.streams id = some stream)
    (record : stream.WellFormed id invocation.env.timestamp) :
    (stream.status = .completed ∨ stream.status = .cancelled) ∧
      stream.entitlement invocation.env.timestamp ≤ stream.withdrawnAmount := by
  rcases makes.succeeds with ⟨after, run⟩
  suffices ended : stream.status = .completed ∨ stream.status = .cancelled ∧
      ∃ instant, stream.cancelledAt = some instant ∧ stream.claimable instant ≤ 0 by
    rcases ended with completed | ⟨cancelled, nothing⟩
    · refine ⟨Or.inl completed, ?_⟩
      rw [record.completed completed]
      exact record.bounded.entitlement_le_deposit _
    · exact ⟨Or.inr cancelled, record.drawn_of_nothingClaimable cancelled nothing⟩
  rcases makes.emits.closes with called | called
  · rw [called] at run
    rcases closeCompletedStream_cases run with ⟨found, stored', ended, _⟩
    cases stored.symm.trans stored'
    exact ended
  · rw [called] at run
    rcases runs_closeCancelledStream.mp run with ⟨found, stored', cancelled, nothing, _⟩
    cases stored.symm.trans stored'
    exact Or.inr ⟨cancelled, nothing⟩

/-- After any run, a step leaves a stored record alone, or a call that succeeds changes it, by a
move that this very call makes of it and with the consent that the call takes, or one of the two
closing calls removes it when the stream has ended and what its recipient has earned is
withdrawn. -/
theorem record_changes_consented {input : Input address}
    (recorded : Recorded address anyCall past now s) (order : now ≤ input.clock)
    (step : Input.Steps s input s') (stored : s.streams id = some stream) :
    s'.streams id = some stream ∨ ∃ invocation, input = .invoke invocation ∧
      invocation.call.Succeeds invocation.env s ∧
      ((∃ move stream', s'.streams id = some stream' ∧
        stream.Moves invocation.env.timestamp move stream' ∧
        invocation.call.Changing (s.balances address) id move ∧
        invocation.call.Consented past invocation.env s id stream stream') ∨
      s'.streams id = none ∧
        (invocation.call = .closeCompletedStream id ∨ invocation.call = .closeCancelledStream id) ∧
        (stream.status = .completed ∨ stream.status = .cancelled) ∧
        stream.entitlement invocation.env.timestamp ≤ stream.withdrawnAmount) := by
  have reached : Reachable address anyCall now s := ClockedSystem.Recorded.reachable recorded
  rcases reached.record_cases order step stored with same |
    ⟨invocation, rfl, ⟨move, stream', makes, moves, stored'⟩ | ⟨makes, removed⟩⟩
  · exact Or.inl same
  · by_cases same : stream' = stream
    · exact Or.inl (same ▸ stored')
    rcases makes.succeeds with ⟨after, run⟩
    have ran : s' = after := step.trans (commit_of_runs run)
    subst ran
    have changing := makes.emits.changing
    exact Or.inr ⟨invocation, rfl, makes.succeeds, Or.inl ⟨move, stream', stored', moves, changing,
      changing.consented recorded order run stored stored' same moves⟩⟩
  · have record := (reached.book_wellFormed.mono order).records id stream stored
    exact Or.inr ⟨invocation, rfl, makes.succeeds, Or.inr ⟨removed, makes.emits.closes,
      over_of_closes makes stored record⟩⟩

/-- Somebody triggers the auto-claim of the stream that changed hands after its destination was
chosen. -/
def Sample.trigger : Invocation Sample.contract :=
  Sample.invocation 3 100 1 (.triggerAutoClaim 0) (Eq.refl true)

/-- The payment goes where the former recipient wanted it, and no consent of the present one is
found. -/
theorem record_changes_consented_rotated :
    let s := Script.run Sample.rotated Sample.genesis
    ∃ (stream : Stream) (move : Move), s.streams 0 = some stream ∧
      stream.recipient = .account 4 ∧
      Sample.trigger.call.Changing (s.balances Sample.contract) 0 move ∧
      Prearranged (Script.past Sample.rotated Sample.genesis) s 0 stream := by
  intro s
  have before : (s.streams 0).map (fun stream => (stream.recipient, stream.withdrawnAmount)) =
      some (.account 4, 0) := by
    decide +kernel
  have after : ((Sample.trigger.call.run.commit Sample.trigger.env s).streams 0).map
      Stream.withdrawnAmount = some 1000 := by
    decide +kernel
  rcases Option.map_eq_some_iff.mp before with ⟨stream, stored, fields⟩
  rw [Prod.mk.injEq] at fields
  have order : 0 ≤ Input.clock (.invoke Sample.trigger) := Nat.zero_le _
  rcases record_changes_consented Sample.recorded_rotated order rfl stored with
    same | ⟨_, ⟨⟩, _, ⟨move, _, _, _, changing, consented⟩ | ⟨removed, _⟩⟩
  · rw [same, Option.map_some, fields.2] at after
    cases after
  · exact ⟨stream, move, stored, fields.1, changing, consented.2⟩
  · rw [removed] at after
    cases after

end Wallie.StreamContract
