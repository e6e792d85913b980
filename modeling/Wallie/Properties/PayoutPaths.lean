import Wallie.Ledger.AccrualView
import Wallie.Ledger.Payments
import Wallie.Ledger.RunInvariant
import Wallie.StreamContract.Script

/-!
# The payout paths agree

Six entrypoints pay recipients, each with its own copy of the checks and of the
arithmetic. Where `withdraw` pays, what it has checked and computed is what each
of the others checks and computes, so that the others pay as much and leave the
stream in the same state.
-/

namespace Wallie.StreamContract

open Fallible

variable {address : Address} {permitted : State → Env → Call → Prop} {now : ℕ}
  {s after middle s' : State} {env : Env} {path : PayoutPath} {id : ℕ} {stream : Stream}
  {destination : Address} {amount : ℤ}

/-- Whether the token refuses a transfer depends on its own balances and allowances alone. -/
def Env.TokenDecidesAlone (env : Env) : Prop :=
  ∀ s s' source destination amount, s'.balances = s.balances → s'.allowances = s.allowances →
    env.tokenRefuses s' source destination amount = env.tokenRefuses s source destination amount

theorem TransferAllowed.of_same {source : Address} (token : env.TokenDecidesAlone)
    (allowed : TransferAllowed env s source destination amount)
    (balances : s'.balances = s.balances) (allowances : s'.allowances = s.allowances) :
    TransferAllowed env s' source destination amount where
  amount_nonneg := allowed.amount_nonneg
  covered := by
    rw [balances]
    exact allowed.covered
  fits := by
    rw [balances]
    exact allowed.fits
  accepted := (token s s' source destination amount balances allowances).trans allowed.accepted

/-- What a payment of `amount` on a stream rests on, whatever the path. -/
structure Due (env : Env) (s : State) (id : ℕ) (stream : Stream) (amount : ℤ) : Prop where
  running : s.globalEmergencyPaused = false
  configured : s.config.isSome = true
  stored : s.streams id = some stream
  unfinished : stream.status ≠ .completed
  unpaused : ¬ (stream.status = .paused ∧ ¬ stream.IsTerminal env.timestamp)
  spaced : stream.lastWithdrawLedger ≤ env.sequence ∧
    minWithdrawIntervalLedgers ≤ env.sequence - stream.lastWithdrawLedger
  frozen : stream.status = .cancelled → stream.cancelledAt.isSome = true
  noted : s.lastAccrualLedgerTimestamp.getD 0 ≤ env.timestamp
  fits : i128.Contains (stream.entitlement env.timestamp - stream.withdrawnAmount)
  amount_eq : amount = min (stream.entitlement env.timestamp - stream.withdrawnAmount)
    (s.balances env.currentContractAddress)
  positive : 0 < amount
  undusted : ¬ stream.DustBlocks env.timestamp amount
  total : i128.Contains (stream.withdrawnAmount + amount)

/-- The state after a payment, with what the path notes of the clock and of the lock. -/
def State.paidNoting (s : State) (env : Env) (path : PayoutPath) (id : ℕ) (stream : Stream)
    (destination : Address) (amount : ℤ) (noted : Option ℕ) (lock : Bool) : State :=
  { s.paid env path id stream destination amount with
    lastAccrualLedgerTimestamp := noted, reentrancyLock := lock }

/-- A withdrawal that pays something is due. -/
theorem due_of_withdraw (run : Runs (withdraw id) env s amount after) (positive : 0 < amount)
    (token : env.TokenDecidesAlone) (noted : s.lastAccrualLedgerTimestamp.getD 0 ≤ env.timestamp) :
    ∃ stream noted, Due env s id stream amount ∧ env.auth stream.recipient = true ∧
      TransferAllowed env s env.currentContractAddress stream.recipient amount ∧
      after = s.paidNoting env .withdraw id stream stream.recipient amount noted
        s.reentrancyLock := by
  rcases runs_withdraw.mp run with
    ⟨stream, drawable, ⟨-, rfl, -⟩ | ⟨pays, rfl, total, allowed, rfl⟩⟩
  · exact absurd positive (lt_irrefl 0)
  · rcases not_or.mp pays with ⟨payable, undusted⟩
    exact ⟨stream, _,
      { noted, positive, undusted, total
        running := drawable.running
        configured := drawable.configured
        stored := drawable.stored
        unfinished := drawable.unfinished
        unpaused := drawable.unpaused
        spaced := drawable.spaced
        frozen := drawable.frozen
        fits := drawable.fits
        amount_eq := rfl }, drawable.authorised,
      allowed.of_same token State.drawn_balances.symm State.drawn_allowances.symm, rfl⟩

namespace Due

theorem read (due : Due env s id stream amount) :
    Runs (calculateAccrued id) env s (stream.entitlement env.timestamp)
      (s.accrualRead stream env.timestamp) :=
  (runs_calculateAccrued due.stored).mpr ⟨⟨due.frozen, fun _ => due.noted⟩, rfl, rfl⟩

theorem runs_withdrawTo (due : Due env s id stream amount)
    (authorised : env.auth stream.recipient = true)
    (elsewhere : destination ≠ env.currentContractAddress) (token : env.TokenDecidesAlone)
    (allowed : TransferAllowed env s env.currentContractAddress destination amount) :
    ∃ noted, Runs (withdrawTo id destination) env s amount
      (s.paidNoting env .withdrawTo id stream destination amount noted s.reentrancyLock) := by
  rcases s.accrualRead_eq stream env.timestamp with ⟨noted, same⟩
  refine ⟨noted, ?_⟩
  simp only [withdrawTo, runs_bind, runs_requireNotGloballyPaused, runs_loadStream,
    runs_requireAuth, runs_ask, runs_rejectIf, and_assoc, exists_and_left, exists_eq_left,
    exists_const]
  refine ⟨due.running, stream, due.stored, authorised, elsewhere, due.unfinished, due.unpaused, _,
    _, due.read, ?_⟩
  simp only [same, runs_bind, runs_plainI128, runs_tokenBalance, runs_ite, runs_pure,
    runs_saveStream, runs_reconcilePausedStreamCount, runs_reduceLiabilities, runs_pushToken,
    runs_publish, runs_publishCompletion, and_assoc, exists_and_left, exists_eq_left,
    exists_const, ← due.amount_eq]
  exact ⟨due.fits, due.configured, Or.inr ⟨not_le.mpr due.positive, Or.inr ⟨due.undusted, due.total,
    due.configured, allowed.of_same token rfl rfl, trivial, rfl⟩⟩⟩

/-- The batches compute the same amount. -/
theorem runs_batchWithdrawable (due : Due env s id stream amount) (middle : State) :
    Runs (batchWithdrawable stream env.timestamp (s.balances env.currentContractAddress)) env middle
      amount middle := by
  have positive := due.positive
  have amount_eq := due.amount_eq
  have payable : amount = min (max (stream.entitlement env.timestamp - stream.withdrawnAmount) 0)
      (s.balances env.currentContractAddress) := by
    omega
  exact (runs_batchWithdrawable_of_unfinished due.unfinished).mpr
    ⟨⟨due.frozen, due.fits⟩, payable, rfl⟩

theorem dustFiltered_eq (due : Due env s id stream amount) :
    dustFiltered stream env.timestamp amount = amount := by
  rw [dustFiltered, if_neg]
  exact fun blocked => due.undusted blocked.2

theorem runs_batchWithdraw (due : Due env s id stream amount)
    (authorised : env.auth stream.recipient = true) (token : env.TokenDecidesAlone)
    (allowed : TransferAllowed env s env.currentContractAddress stream.recipient amount) :
    ∃ noted, Runs (batchWithdraw stream.recipient [id]) env s [{ streamId := id, amount }]
      (s.paidNoting env .batchWithdraw id stream stream.recipient amount noted
        s.reentrancyLock) := by
  refine ⟨some env.timestamp, ?_⟩
  refine Wallie.StreamContract.runs_batchWithdraw.mpr ⟨due.running, authorised,
    List.nodup_singleton id, due.configured, due.noted, ?_⟩
  simp only [batchWithdrawLoop, runs_bind, runs_loadStream, runs_rejectIf, runs_ask,
    runs_requireWithdrawInterval, and_assoc, exists_and_left, exists_eq_left, exists_const]
  refine ⟨stream, due.stored, not_not.mpr rfl, due.spaced.1, due.spaced.2, due.unpaused, amount, _,
    due.runs_batchWithdrawable _, ?_⟩
  simp only [due.dustFiltered_eq, runs_ite, runs_bind, runs_plainI128, runs_saveStream,
    runs_reconcilePausedStreamCount, runs_reduceLiabilities, runs_pushToken, runs_publish,
    runs_publishCompletion, runs_pure, and_assoc, exists_and_left, exists_eq_left,
    exists_const]
  exact Or.inl
    ⟨due.positive, due.total, due.configured, allowed.of_same token rfl rfl, trivial, rfl⟩

theorem runs_batchWithdrawTo (due : Due env s id stream amount)
    (authorised : env.auth stream.recipient = true)
    (elsewhere : destination ≠ env.currentContractAddress) (token : env.TokenDecidesAlone)
    (allowed : TransferAllowed env s env.currentContractAddress destination amount) :
    ∃ noted, Runs (batchWithdrawTo stream.recipient [{ streamId := id, destination }]) env s
      [{ streamId := id, amount }]
      (s.paidNoting env .batchWithdrawTo id stream destination amount noted s.reentrancyLock) := by
  refine ⟨some env.timestamp, ?_⟩
  simp only [batchWithdrawTo, checkDestinations, runs_bind, runs_requireNotGloballyPaused,
    runs_requireAuth, runs_ask, runs_rejectIf, runs_pure, runs_tokenBalance,
    runs_currentAccrualTimestamp, and_assoc, exists_and_left, exists_eq_left, exists_const]
  refine ⟨due.running, authorised, elsewhere, ?_, trivial, due.configured, due.noted, ?_⟩
  · rintro ⟨other, member, _⟩
    exact absurd member List.not_mem_nil
  simp only [batchWithdrawToLoop, runs_bind, runs_loadStream, runs_rejectIf, and_assoc,
    exists_and_left, exists_eq_left, exists_const]
  refine ⟨stream, due.stored, not_not.mpr rfl, due.unpaused, amount, _,
    due.runs_batchWithdrawable _, ?_⟩
  simp only [due.dustFiltered_eq, runs_ite, runs_bind, runs_plainI128, runs_saveStream,
    runs_reconcilePausedStreamCount, runs_pushToken, runs_publish, runs_publishCompletion,
    runs_pure, and_assoc, exists_and_left, exists_eq_left, exists_const]
  exact Or.inl
    ⟨due.positive, due.total, due.configured, allowed.of_same token rfl rfl, trivial, rfl⟩

theorem runs_delegatedWithdraw {relayer : Address} {recipientPublicKey nonce deadline : ℕ}
    {expectedMinimumAmount : ℤ} {signature : Bytes} (due : Due env s id stream amount)
    (authorised : env.auth relayer = true)
    (delegated : Delegated env s stream id recipientPublicKey nonce deadline expectedMinimumAmount
      signature) (countable : ((nonce + 1 : ℕ) : ℤ) ≤ u64.upper)
    (enough : expectedMinimumAmount ≤ amount) (token : env.TokenDecidesAlone)
    (allowed : TransferAllowed env s env.currentContractAddress stream.recipient amount) :
    ∃ noted, Runs (delegatedWithdraw id relayer recipientPublicKey nonce deadline
      expectedMinimumAmount signature) env s amount
      (s.paidNoting env .delegatedWithdraw id stream stream.recipient amount noted
        s.reentrancyLock) := by
  rcases s.accrualRead_eq stream env.timestamp with ⟨noted, same⟩
  refine ⟨noted, ?_⟩
  simp only [delegatedWithdraw, runs_bind, runs_requireNotGloballyPaused, runs_loadStream,
    runs_requireAuth, runs_ask, runs_peek, runs_requireWithdrawInterval, runs_rejectIf, and_assoc,
    exists_and_left, exists_eq_left, exists_const]
  refine ⟨due.running, authorised, not_lt.mpr delegated.inTime, stream, due.stored, due.spaced.1,
    due.spaced.2, not_not.mpr delegated.current, not_not.mpr delegated.key, ?_, due.unfinished,
    due.unpaused, _, _, due.read, ?_⟩
  · rw [delegated.verified]
    exact Bool.true_eq_false_eq_False
  simp only [same, runs_bind, runs_plainI128, runs_tokenBalance, runs_ite, runs_pure,
    runs_saveStream, runs_reconcilePausedStreamCount, runs_incrementDelegatedNonce,
    runs_pushToken, runs_publish, runs_publishCompletion, and_assoc, exists_and_left,
    exists_eq_left, exists_const, ← due.amount_eq]
  rw [delegated.current] at countable
  exact ⟨due.fits, due.configured, not_lt.mpr enough, Or.inr ⟨not_le.mpr due.positive, due.total,
    countable, due.configured, allowed.of_same token rfl rfl, trivial, rfl⟩⟩

/-- The auto-claim pays what is due without a look at the balance, so that it needs a contract that
can pay it. -/
theorem runs_triggerAutoClaim (due : Due env s id stream amount) (live : stream.Live)
    (expired : stream.endTime ≤ env.timestamp)
    (chosen : s.autoClaimDestination id = some destination)
    (elsewhere : destination ≠ env.currentContractAddress)
    (solvent : stream.entitlement env.timestamp - stream.withdrawnAmount ≤
      s.balances env.currentContractAddress)
    (unlocked : s.reentrancyLock = false) (record : stream.WellFormed id now)
    (token : env.TokenDecidesAlone)
    (allowed : TransferAllowed env s env.currentContractAddress destination amount) :
    ∃ noted, Runs (triggerAutoClaim id) env s amount
      (s.paidNoting env .autoClaim id stream destination amount noted false) := by
  have amount_eq := due.amount_eq
  have claimable : stream.claimable env.timestamp = amount := by
    have positive := due.positive
    rw [record.claimable_eq, ← live.entitlement]
    omega
  have autoClaimable : AutoClaimable env s id stream destination amount :=
    { live, expired, chosen, elsewhere, unlocked, claimable
      running := due.running
      configured := due.configured
      stored := due.stored
      noted := due.noted
      positive := due.positive }
  exact ⟨_, autoClaimable.runs record (allowed.of_same token rfl rfl)⟩

end Due

/-! ## The lock -/

theorem unlocked_of_sweepExcess {recipient : Address}
    (run : Runs (sweepExcess recipient) env s amount s') (unlocked : s.reentrancyLock = false) :
    s'.reentrancyLock = false := by
  simp only [sweepExcess, runs_bind, runs_getAdmin, runs_requireAuth, runs_tokenBalance, runs_peek,
    runs_ite, runs_pure, runs_publish, runs_acquireReentrancyLock, runs_pushToken,
    runs_releaseReentrancyLock, and_assoc, exists_and_left, exists_eq_left, exists_const] at run
  rcases run with ⟨_, -, -, -, ⟨-, -, rfl⟩ | ⟨-, -, -, -, -, rfl⟩⟩
  · exact unlocked
  · rfl

theorem unlocked_of_triggerAutoClaim (run : Runs (triggerAutoClaim id) env s amount s')
    (records : ∀ stream, s.streams id = some stream → stream.WellFormed id now)
    (unlocked : s.reentrancyLock = false) : s'.reentrancyLock = false := by
  rcases claims_of_triggerAutoClaim run records with ⟨-, _, rfl⟩ | ⟨_, _, -, -, rfl⟩
  · exact unlocked
  · rfl

/-- The lock is taken and released within one call. -/
theorem Reachable.unlocked (reached : Reachable address permitted now s) :
    s.reentrancyLock = false := by
  refine reached.runs_invariant (fun s => s.reentrancyLock = false) ?_ ?_ ?_
  · intro instant s fresh
    rcases fresh.eq_deployed with ⟨balances, allowances, config, rfl⟩
    rfl
  · exact fun _ _ unlocked => unlocked
  · rintro instant s ⟨env, call, _, _, _, _, _⟩ s' reached _ _ run unlocked
    by_cases locks : .lock ∈ call.writes
    · cases call <;> simp [Call.writes] at locks
      case sweepExcess =>
        rcases runs_effect.mp run with ⟨amount, run⟩
        exact unlocked_of_sweepExcess run unlocked
      case triggerAutoClaim =>
        rcases runs_effect.mp run with ⟨amount, run⟩
        exact unlocked_of_triggerAutoClaim run (reached.book_wellFormed.records _) unlocked
    · rw [(call.onlyWrites run).reentrancyLock locks]
      exact unlocked

/-! ## Agreement -/

/-- The same ledger, with a call that others authorised. -/
def Env.signedBy (env : Env) (auth : Address → Bool) : Env :=
  { env with auth }

theorem Due.signedBy (due : Due env s id stream amount) (auth : Address → Bool) :
    Due (env.signedBy auth) s id stream amount where
  running := due.running
  configured := due.configured
  stored := due.stored
  unfinished := due.unfinished
  unpaused := due.unpaused
  spaced := due.spaced
  frozen := due.frozen
  noted := due.noted
  fits := due.fits
  amount_eq := due.amount_eq
  positive := due.positive
  undusted := due.undusted
  total := due.total

theorem TransferAllowed.signedBy {source : Address}
    (allowed : TransferAllowed env s source destination amount) (auth : Address → Bool) :
    TransferAllowed (env.signedBy auth) s source destination amount where
  amount_nonneg := allowed.amount_nonneg
  covered := allowed.covered
  fits := allowed.fits
  accepted := allowed.accepted

/-- From `s`, exactly `amount` is paid to `destination`, and the stream and the count of the paused
streams are left as in `after`. -/
structure PaysAs (env : Env) (id : ℕ) (destination : Address) (amount : ℤ) (s after s' : State) :
    Prop where
  balances : s'.balances = movedBalances s.balances env.currentContractAddress destination amount
  withdrawnAmount : (s'.streams id).map Stream.withdrawnAmount =
    (after.streams id).map Stream.withdrawnAmount
  status : (s'.streams id).map Stream.status = (after.streams id).map Stream.status
  pausedStreamCount : s'.pausedStreamCount = after.pausedStreamCount

/-- Payments of the same amount do, whatever their paths. -/
theorem paysAs_of_paid {path' : PayoutPath} {destination' : Address} {noted noted' : Option ℕ}
    {lock lock' : Bool} (keyed : stream.streamId = id) (auth : Address → Bool) :
    PaysAs env id destination amount s
      (s.paidNoting env path' id stream destination' amount noted' lock')
      (s.paidNoting (env.signedBy auth) path id stream destination amount noted lock) := by
  subst keyed
  refine ⟨rfl, ?_, ?_, rfl⟩
  · simp [State.paidNoting, State.paid, Stream.paid, Stream.notedAt, Env.signedBy]
  · simp [State.paidNoting, State.paid, Stream.paid, Stream.notedAt, Env.signedBy]

/-- Where `withdraw` pays something, every other path that may be taken pays the same and leaves
the stream in the same state. The auto-claim alone needs a solvent contract, one that holds all
that is unpaid on the stream. A delegated withdrawal needs a nonce that can be counted up. -/
theorem payout_paths_agree (reached : Reachable address permitted now s)
    (here : env.currentContractAddress = address) (order : now ≤ env.timestamp)
    (token : env.TokenDecidesAlone) (stored : s.streams id = some stream)
    (run : Runs (withdraw id) env s amount after) (positive : 0 < amount) :
    (∀ destination, destination ≠ address → TransferAllowed env s address destination amount →
      ∃ s', Runs (withdrawTo id destination) env s amount s' ∧
        PaysAs env id destination amount s after s') ∧
    (∃ s', Runs (batchWithdraw stream.recipient [id]) env s [{ streamId := id, amount }] s' ∧
      PaysAs env id stream.recipient amount s after s') ∧
    (∀ destination, destination ≠ address → TransferAllowed env s address destination amount →
      ∃ s', Runs (batchWithdrawTo stream.recipient [{ streamId := id, destination }]) env s
          [{ streamId := id, amount }] s' ∧
        PaysAs env id destination amount s after s') ∧
    (∀ auth relayer recipientPublicKey nonce deadline expectedMinimumAmount signature,
      auth relayer = true →
      Delegated env s stream id recipientPublicKey nonce deadline expectedMinimumAmount signature →
      ((nonce + 1 : ℕ) : ℤ) ≤ u64.upper → expectedMinimumAmount ≤ amount →
      ∃ s', Runs (delegatedWithdraw id relayer recipientPublicKey nonce deadline
          expectedMinimumAmount signature) (env.signedBy auth) s amount s' ∧
        PaysAs env id stream.recipient amount s after s') ∧
    (∀ auth destination, stream.status = .active ∨ stream.status = .paused →
      stream.endTime ≤ env.timestamp → s.autoClaimDestination id = some destination →
      destination ≠ address →
      stream.entitlement env.timestamp - stream.withdrawnAmount ≤ s.balances address →
      TransferAllowed env s address destination amount →
      ∃ s', Runs (triggerAutoClaim id) (env.signedBy auth) s amount s' ∧
        PaysAs env id destination amount s after s') := by
  subst here
  rcases due_of_withdraw run positive token (reached.noted_le.trans order) with
    ⟨found, noted, due, authorised, allowed, rfl⟩
  obtain rfl : found = stream := Option.some.inj (due.stored.symm.trans stored)
  have record := reached.book_wellFormed.records id found stored
  have keyed := record.streamId
  refine ⟨?_, ?_, ?_, ?_, ?_⟩
  · intro destination elsewhere accepted
    rcases due.runs_withdrawTo authorised elsewhere token accepted with ⟨_, run⟩
    exact ⟨_, run, paysAs_of_paid keyed env.auth⟩
  · rcases due.runs_batchWithdraw authorised token allowed with ⟨_, run⟩
    exact ⟨_, run, paysAs_of_paid keyed env.auth⟩
  · intro destination elsewhere accepted
    rcases due.runs_batchWithdrawTo authorised elsewhere token accepted with ⟨_, run⟩
    exact ⟨_, run, paysAs_of_paid keyed env.auth⟩
  · intro auth relayer recipientPublicKey nonce deadline expectedMinimumAmount signature signs
      delegated countable enough
    have delegated : Delegated (env.signedBy auth) s found id recipientPublicKey nonce deadline
        expectedMinimumAmount signature :=
      ⟨delegated.inTime, delegated.current, delegated.key, delegated.verified⟩
    rcases (due.signedBy auth).runs_delegatedWithdraw signs delegated countable enough token
      (allowed.signedBy auth) with ⟨_, run⟩
    exact ⟨_, run, paysAs_of_paid keyed auth⟩
  · intro auth destination live expired chosen elsewhere solvent accepted
    rcases (due.signedBy auth).runs_triggerAutoClaim live expired chosen elsewhere solvent
      reached.unlocked record token (accepted.signedBy auth) with ⟨_, run⟩
    exact ⟨_, run, paysAs_of_paid keyed auth⟩

namespace Sample

/-- A stream over a hundred seconds whose recipient named a destination. -/
def claimable : List (Invocation contract) :=
  oneCreation 1000 10 0 0 (Eq.refl true) ++
    [invocation 2 10 1 (.setAutoClaim 0 (.account 4)) (Eq.refl true)]

end Sample

/-- After the end the whole deposit is due, on every path. -/
theorem payout_paths_agree_at_end :
    let s := Script.run Sample.claimable Sample.genesis
    let env := Sample.env 2 120 5
    ∃ after, Runs (withdraw 0) env s 1000 after ∧
      (∃ s', Runs (withdrawTo 0 (.account 4)) env s 1000 s' ∧
        PaysAs env 0 (.account 4) 1000 s after s') ∧
      (∃ s', Runs (delegatedWithdraw 0 Sample.keeper 2 0 1000 900 [7])
          (env.signedBy fun signer => signer = Sample.keeper) s 1000 s' ∧
        PaysAs env 0 Sample.recipient 1000 s after s') ∧
      ∃ s', Runs (triggerAutoClaim 0) (env.signedBy fun _ => false) s 1000 s' ∧
        PaysAs env 0 (.account 4) 1000 s after s' := by
  intro s env
  have ordered : Script.Ordered Sample.claimable 0 := ⟨by decide, by decide, trivial⟩
  have reached : Reachable Sample.contract anyCall 10 s :=
    Sample.reachable_run ordered
  have pays : ((withdraw 0 env s).toOption.map Prod.fst) = some 1000 := by decide
  rcases Option.map_eq_some_iff.mp pays with ⟨⟨amount, after⟩, returned, rfl⟩
  have run : Runs (withdraw 0) env s 1000 after := runs_of_toOption returned
  rcases Option.isSome_iff_exists.mp (by decide : (s.streams 0).isSome = true) with ⟨stream, stored⟩
  have allowed : TransferAllowed env s Sample.contract (.account 4) 1000 := by decide
  have paths := payout_paths_agree reached rfl (by decide) (fun _ _ _ _ _ _ _ => rfl) stored run
    (by decide)
  rcases paths with ⟨withdrawsTo, -, -, delegates, claims⟩
  have found : stream = (s.streams 0).get (by decide) := (Option.get_of_eq_some _ stored).symm
  refine ⟨after, run, withdrawsTo _ (by decide) allowed, ?_, ?_⟩
  · have delegated : Delegated env s stream 0 2 0 1000 900 [7] :=
      ⟨by decide, by rw [found]; decide, by rw [found]; decide, rfl⟩
    have recipient : stream.recipient = Sample.recipient := by rw [found]; decide
    have delegates := delegates (fun signer => signer = Sample.keeper) Sample.keeper 2 0 1000 900
      [7] (by decide) delegated (by decide) (by decide)
    rwa [recipient] at delegates
  · exact claims _ _ (by rw [found]; decide) (by rw [found]; decide) (by decide) (by decide)
      (by rw [found]; decide) allowed

end Wallie.StreamContract
