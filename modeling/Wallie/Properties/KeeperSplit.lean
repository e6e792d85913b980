import Wallie.Ledger.RunInvariant
import Wallie.StreamContract.Script
import Wallie.StreamContract.TokenRules
import Wallie.StreamContract.Views

/-!
# What a keeper pays and what the preview shows

A keeper pays the recipient, the sender and itself, and divides what is left of
the deposit among them. The preview computes the same split, but where the fee
cannot be computed it goes on with a substitute, and the keeper gives up.
-/

namespace Wallie.StreamContract

open Fallible

variable {address : Address} {s s' : State} {env : Env} {id : ℕ} {stream : Stream}
  {keeper : Address} {done : Unit}

/-- The fee of a keeper, which it takes from what has not accrued, rounded down. -/
def Stream.keeperFee (stream : Stream) (now : ℕ) : ℤ :=
  stream.unstreamed now * keeperFeeBps / 10000

theorem Stream.Bounded.keeperFee_bounds (bounded : stream.Bounded) (now : ℕ) :
    0 ≤ stream.keeperFee now ∧ stream.keeperFee now ≤ stream.unstreamed now :=
  Wallie.StreamContract.keeperFee_bounds (sub_nonneg.mpr (bounded.accruedAt_le_deposit now))

/-- The three payments of a keeper, in their order, and the event that reports them. -/
structure KeeperPays (address : Address) (s s' : State) (stream : Stream) (keeper : Address)
    (recipientAmount keeperFee senderRefund : ℤ) : Prop where
  balances : s'.balances =
    movedBalances (movedBalances (movedBalances s.balances address stream.recipient recipientAmount)
      address stream.sender senderRefund) address keeper keeperFee
  reported : ∃ more, s'.events = s.events ++
    .kpCncl stream.streamId keeper keeperFee recipientAmount senderRefund :: more

/-- The state once a keeper has been paid its fee. -/
def State.keeperPaid (s : State) (env : Env) (keeper : Address) (keeperFee : ℤ) (id : ℕ) : State :=
  if 0 < keeperFee then
    { s.pushed env keeper keeperFee [⟨id, .keeperFee, keeperFee⟩] with
      totalKeeperFeesPaid := s.totalKeeperFeesPaid + keeperFee }
  else s

theorem runs_payKeeperFee {keeperFee : ℤ} :
    Runs (payKeeperFee keeper keeperFee id) env s done s' ↔
      (0 < keeperFee → (s.config.isSome = true ∧
          TransferAllowed env s env.currentContractAddress keeper keeperFee) ∧
        i128.Contains (s.totalKeeperFeesPaid + keeperFee)) ∧
      s' = s.keeperPaid env keeper keeperFee id := by
  unfold payKeeperFee State.keeperPaid
  split
  · next positive =>
      simp only [runs_bind, runs_pushToken, runs_incrementTotalKeeperFeesPaid, and_assoc,
        exists_and_left, exists_eq_left, exists_const, positive, true_implies]
      rfl
  · next nothing => simp [nothing]

theorem State.keeperPaid_balances {keeperFee : ℤ} (nonneg : 0 ≤ keeperFee) :
    (s.keeperPaid env keeper keeperFee id).balances =
      movedBalances s.balances env.currentContractAddress keeper keeperFee := by
  unfold State.keeperPaid
  split
  · rfl
  · next nothing =>
      obtain rfl : keeperFee = 0 := by omega
      exact movedBalances_zero.symm

theorem State.keeperPaid_events {keeperFee : ℤ} :
    (s.keeperPaid env keeper keeperFee id).events = s.events := by
  unfold State.keeperPaid
  split <;> rfl

/-- What a successful cancellation by a keeper rests on and pays. -/
theorem keeperPays_of_runs (formed : stream.WellFormed id env.timestamp)
    (stored : s.streams id = some stream) (run : Runs (keeperCancel id keeper) env s done s') :
    i128.Contains (stream.unstreamed env.timestamp * keeperFeeBps) ∧
      KeeperPays env.currentContractAddress s s' stream keeper (stream.claimable env.timestamp)
        (stream.keeperFee env.timestamp)
        (stream.unstreamed env.timestamp - stream.keeperFee env.timestamp) := by
  have unstreamed := sub_nonneg.mpr (formed.bounded.accruedAt_le_deposit env.timestamp)
  rcases keeperFee_bounds unstreamed with ⟨feeNonneg, feeLe⟩
  have due : 0 ≤ stream.claimable env.timestamp := le_max_right _ _
  rcases keeperCancel_cases run with
    ⟨record, stored', -, -, -, fits, paidRecipient, paidSender, paidKeeper, toRecipient, toSender,
      toKeeper, health⟩
  have same : record = stream := Option.some.inj (stored'.symm.trans stored)
  subst record
  rw [max_eq_left unstreamed] at fits toSender toKeeper health
  obtain rfl := (runs_pushPositive.mp toRecipient).2
  obtain rfl := (runs_pushPositive.mp toSender).2
  obtain rfl := (runs_payKeeperFee.mp toKeeper).2
  obtain rfl := runs_maybeEmitHealthChanged.mp health
  refine ⟨fits, ?_, healthEvents (stream.cancelledNow env.timestamp)
    (computeStreamHealth stream env.timestamp).1 env.timestamp, ?_⟩
  · simp only [State.keeperPaid_balances feeNonneg,
      State.pushedPositive_balances (sub_nonneg.mpr feeLe), State.pushedPositive_balances due]
    rfl
  · simp only [State.keeperPaid_events, State.pushedPositive_events, List.append_assoc,
      List.singleton_append]
    rfl

/-- The payments of a keeper succeed when the contract can make them and the fee can be counted. -/
theorem keeperPayments_succeed {recipientAmount senderRefund keeperFee : ℤ}
    {wasUnderfunded : Bool} {now : ℕ} {recipient sender : Address} {report : Event}
    (able : s.CanPayOut env (recipientAmount + (senderRefund + keeperFee)))
    (toRecipient : 0 ≤ recipientAmount) (toSender : 0 ≤ senderRefund) (toKeeper : 0 ≤ keeperFee)
    (counted : i128.Contains (s.totalKeeperFeesPaid + keeperFee)) :
    ∃ s', Runs (do
      pushPositive recipient recipientAmount id .keeperSettlement
      pushPositive sender senderRefund id .keeperRefund
      payKeeperFee keeper keeperFee id
      publish report
      maybeEmitHealthChanged stream wasUnderfunded now) env s () s' := by
  have others : 0 ≤ senderRefund + keeperFee := add_nonneg toSender toKeeper
  refine Runs.followedBy (able.le (by omega)).pushPositive ?_
  have able' := able.pushedPositive recipient id .keeperSettlement toRecipient others
  refine Runs.followedBy (able'.le (by omega)).pushPositive ?_
  have able'' := able'.pushedPositive sender id .keeperRefund toSender toKeeper
  refine Runs.followedBy (runs_payKeeperFee.mpr
    ⟨fun _ => ⟨⟨able''.configured, able''.transferAllowed toKeeper⟩, ?_⟩, rfl⟩) ?_
  · simpa using counted
  refine Runs.followedBy (runs_publish.mpr rfl) ?_
  exact ⟨_, runs_maybeEmitHealthChanged.mpr rfl⟩

/-- The keeper succeeds when its fee can be computed and counted and the contract can pay what it
owes on the stream. -/
theorem keeperCancel_succeeds (formed : stream.WellFormed id env.timestamp)
    (stored : s.streams id = some stream) (live : stream.Live)
    (elapsed : stream.endTime + keeperGracePeriodSeconds ≤ env.timestamp)
    (timestamp : u64.Contains env.timestamp) (authorised : env.auth keeper = true)
    (drawn : stream.withdrawnAmount ≤ stream.accruedAt env.timestamp)
    (able : s.CanPayOut env (stream.depositAmount - stream.withdrawnAmount))
    (counted : i128.Contains (s.totalKeeperFeesPaid + stream.keeperFee env.timestamp))
    (fits : i128.Contains (stream.unstreamed env.timestamp * keeperFeeBps)) :
    ∃ s', Runs (keeperCancel id keeper) env s () s' := by
  have accrued_nonneg := formed.bounded.accruedAt_nonneg env.timestamp
  have accrued_le := formed.bounded.accruedAt_le_deposit env.timestamp
  have deposit_le := formed.bounded.deposit_le
  have withdrawn_nonneg := formed.withdrawn_nonneg
  have lower : i128.lower ≤ 0 := by decide
  rcases formed.bounded.keeperFee_bounds env.timestamp with ⟨feeNonneg, feeLe⟩
  have gross : max (stream.depositAmount - stream.accruedAt env.timestamp) 0 =
      stream.unstreamed env.timestamp := max_eq_left (sub_nonneg.mpr accrued_le)
  have fee : stream.unstreamed env.timestamp * keeperFeeBps / 10000 =
      stream.keeperFee env.timestamp := rfl
  have unstreamed : stream.unstreamed env.timestamp =
      stream.depositAmount - stream.accruedAt env.timestamp := rfl
  have due : stream.claimable env.timestamp =
      stream.accruedAt env.timestamp - stream.withdrawnAmount := by
    rw [formed.claimable_eq]
    omega
  have representable : ((stream.endTime + keeperGracePeriodSeconds : ℕ) : ℤ) ≤ u64.upper :=
    (Int.ofNat_le.mpr elapsed).trans timestamp.2
  unfold keeperCancel
  refine Runs.followedBy (runs_requireAuth.mpr ⟨authorised, rfl⟩) ?_
  refine Runs.andThen (runs_loadStream.mpr ⟨stored, rfl⟩) ?_
  refine Runs.followedBy (runs_rejectIf.mpr ⟨live.open_, rfl⟩) ?_
  refine Runs.andThen (runs_ask.mpr ⟨rfl, rfl⟩) ?_
  refine Runs.andThen (runs_checkedAddU64.mpr ⟨representable, rfl, rfl⟩) ?_
  refine Runs.followedBy (runs_rejectIf.mpr ⟨not_lt.mpr elapsed, rfl⟩) ?_
  refine Runs.andThen (runs_checkedI128.mpr ⟨⟨⟨by omega, by omega⟩, rfl⟩, rfl⟩) ?_
  rw [gross]
  refine Runs.andThen (runs_checkedI128.mpr ⟨⟨fits, rfl⟩, rfl⟩) ?_
  rw [fee]
  refine Runs.andThen (runs_checkedI128.mpr ⟨⟨⟨by omega, by omega⟩, rfl⟩, rfl⟩) ?_
  refine Runs.followedBy (runs_saveStream.mpr rfl) ?_
  refine Runs.followedBy (runs_reconcilePausedStreamCount.mpr rfl) ?_
  refine Runs.andThen (runs_checkedI128.mpr ⟨⟨⟨by omega, by omega⟩, rfl⟩, rfl⟩) ?_
  refine Runs.followedBy (runs_releaseLiabilities.mpr rfl) ?_
  -- The three payments together are what is left of the deposit.
  have total : stream.claimable env.timestamp + (stream.unstreamed env.timestamp -
      stream.keeperFee env.timestamp + stream.keeperFee env.timestamp) =
        stream.depositAmount - stream.withdrawnAmount := by
    omega
  exact keeperPayments_succeed ((able.le total.le).of_same rfl rfl) (by omega) (by omega) feeNonneg
    counted

/-! ## The preview -/

theorem computeKeeperFeeSplit_eq {gross : ℤ} (nonneg : 0 ≤ gross)
    (fits : i128.Contains (gross * keeperFeeBps)) (gross_le : gross ≤ i128.upper) :
    computeKeeperFeeSplit gross keeperFeeBps =
      (gross * keeperFeeBps / 10000, gross - gross * keeperFeeBps / 10000) := by
  rcases keeperFee_bounds nonneg with ⟨feeNonneg, feeLe⟩
  have lower : i128.lower ≤ 0 := by decide
  have scaled : 0 ≤ gross * keeperFeeBps := mul_nonneg nonneg (by decide)
  have refund : i128.Contains (gross - gross * keeperFeeBps / 10000) := ⟨by omega, by omega⟩
  rw [computeKeeperFeeSplit, Bounded.Interval.check_of_contains fits, Option.getD_some,
    Int.tdiv_eq_ediv_of_nonneg scaled, Bounded.Interval.check_of_contains refund, Option.getD_some]

/-- Once the grace period has elapsed the preview of a live stream answers. -/
theorem runs_getKeeperFeeSplit (formed : stream.WellFormed id env.timestamp)
    (stored : s.streams id = some stream) (live : stream.Live)
    (elapsed : stream.endTime + keeperGracePeriodSeconds ≤ env.timestamp)
    (timestamp : u64.Contains env.timestamp) {split : ℤ × ℤ} :
    Runs (getKeeperFeeSplit id) env s split s' ↔
      split = computeKeeperFeeSplit (stream.unstreamed env.timestamp) keeperFeeBps ∧ s' = s := by
  have accrued_nonneg := formed.bounded.accruedAt_nonneg env.timestamp
  have accrued_le := formed.bounded.accruedAt_le_deposit env.timestamp
  have deposit_le := formed.bounded.deposit_le
  have lower : i128.lower ≤ 0 := by decide
  have fits : i128.Contains (stream.depositAmount - stream.accruedAt env.timestamp) :=
    ⟨by omega, by omega⟩
  have gross : max (stream.depositAmount - stream.accruedAt env.timestamp) 0 =
      stream.unstreamed env.timestamp := max_eq_left (sub_nonneg.mpr accrued_le)
  have representable : ((stream.endTime + keeperGracePeriodSeconds : ℕ) : ℤ) ≤ u64.upper :=
    (Int.ofNat_le.mpr elapsed).trans timestamp.2
  simp only [getKeeperFeeSplit, requireCancellableStatus, runs_bind, runs_loadStream,
    runs_rejectIf, runs_ask, runs_checkedAddU64, runs_ite, runs_checkedI128, runs_pure, and_assoc,
    exists_and_left, exists_eq_left, exists_const, stored, Option.some.injEq, exists_eq_left',
    live.open_, representable, not_lt.mpr elapsed, fits, gross, not_false_eq_true, true_and,
    false_and, false_or]

/-- The cancellation of a stream by a keeper splits what is left of its deposit exactly, and the
preview succeeds when the cancellation does and shows what it pays. -/
structure KeeperPreviewAgrees (env : Env) (s : State) (id : ℕ) (stream : Stream)
    (keeper : Address) : Prop where
  splits : ∀ s', Runs (keeperCancel id keeper) env s () s' →
    ∃ recipientAmount senderRefund,
      KeeperPays env.currentContractAddress s s' stream keeper recipientAmount
        (stream.keeperFee env.timestamp) senderRefund ∧
      0 ≤ recipientAmount ∧ 0 ≤ stream.keeperFee env.timestamp ∧ 0 ≤ senderRefund ∧
      recipientAmount + stream.keeperFee env.timestamp + senderRefund =
        stream.depositAmount - stream.withdrawnAmount
  succeeds : (∃ split viewed, Runs (getKeeperFeeSplit id) env s split viewed) ↔
    ∃ s', Runs (keeperCancel id keeper) env s () s'
  previews : ∀ keeperFee senderRefund viewed s',
    Runs (getKeeperFeeSplit id) env s (keeperFee, senderRefund) viewed →
    Runs (keeperCancel id keeper) env s () s' →
      ∃ recipientAmount, KeeperPays env.currentContractAddress s s' stream keeper recipientAmount
        keeperFee senderRefund

/-- On every reachable state, when the grace period of a live stream has elapsed, no more was drawn
than has accrued, the contract holds what it owes on the stream, the token pays it and the counter
of fees has room, the split of a keeper is exact and the preview agrees with it exactly when the
scaled fee can be represented. -/
theorem keeper_preview_iff (reached : Reachable env.currentContractAddress anyCall env.timestamp s)
    (timestamp : u64.Contains env.timestamp) (authorised : env.auth keeper = true)
    (stored : s.streams id = some stream) (live : stream.Live)
    (elapsed : stream.endTime + keeperGracePeriodSeconds ≤ env.timestamp)
    (drawn : stream.withdrawnAmount ≤ stream.accruedAt env.timestamp)
    (solvent : stream.depositAmount - stream.withdrawnAmount ≤
      s.balances env.currentContractAddress) (token : env.TokenHonours s)
    (counted : i128.Contains (s.totalKeeperFeesPaid + stream.keeperFee env.timestamp)) :
    KeeperPreviewAgrees env s id stream keeper ↔
      stream.unstreamed env.timestamp * keeperFeeBps ≤ i128.upper := by
  have formed := reached.book_wellFormed.records id stream stored
  have able : s.CanPayOut env (stream.depositAmount - stream.withdrawnAmount) :=
    ⟨reached.book_wellFormed.initialised, reached.tokenBalances, token, solvent⟩
  have accrued_le := formed.bounded.accruedAt_le_deposit env.timestamp
  have unstreamed : 0 ≤ stream.unstreamed env.timestamp := sub_nonneg.mpr accrued_le
  have preview : ∃ split viewed, Runs (getKeeperFeeSplit id) env s split viewed :=
    ⟨_, s, (runs_getKeeperFeeSplit formed stored live elapsed timestamp).mpr ⟨rfl, rfl⟩⟩
  constructor
  · intro agrees
    rcases agrees.succeeds.mp preview with ⟨s', run⟩
    exact (keeperPays_of_runs formed stored run).1.2
  · intro bounded
    have lower : i128.lower ≤ 0 := by decide
    have scaled : 0 ≤ stream.unstreamed env.timestamp * keeperFeeBps :=
      mul_nonneg unstreamed (by decide)
    have fits : i128.Contains (stream.unstreamed env.timestamp * keeperFeeBps) :=
      ⟨by omega, bounded⟩
    rcases formed.bounded.keeperFee_bounds env.timestamp with ⟨feeNonneg, feeLe⟩
    have gross_le : stream.unstreamed env.timestamp ≤ i128.upper := by
      have accrued_nonneg := formed.bounded.accruedAt_nonneg env.timestamp
      have deposit_le := formed.bounded.deposit_le
      unfold Stream.unstreamed
      omega
    refine ⟨fun s' run => ?_, ?_, ?_⟩
    · have due := formed.claimable_eq env.timestamp
      have gross : stream.unstreamed env.timestamp =
          stream.depositAmount - stream.accruedAt env.timestamp := rfl
      exact ⟨_, _, (keeperPays_of_runs formed stored run).2, by omega, feeNonneg, by omega,
        by omega⟩
    · refine iff_of_true preview ?_
      exact keeperCancel_succeeds formed stored live elapsed timestamp authorised drawn able
        counted fits
    · intro keeperFee senderRefund viewed s' viewing run
      rcases (runs_getKeeperFeeSplit formed stored live elapsed timestamp).mp viewing with
        ⟨split, -⟩
      rw [computeKeeperFeeSplit_eq unstreamed fits gross_le, Prod.mk.injEq] at split
      rcases split with ⟨rfl, rfl⟩
      exact ⟨_, (keeperPays_of_runs formed stored run).2⟩

namespace Sample

/-- A stream of half of what a token can represent, at rate 10. -/
def huge : List (Invocation contract) :=
  oneCreation half 10 0 0 (Eq.refl true)

/-- The account `3` calls as a keeper when the grace period of the sample streams has elapsed. -/
def keeperEnv : Env := Sample.env 3 604900 2

end Sample

/-- Of 2000 tokens 1000 have accrued; the keeper gets 5 of the other 1000. -/
theorem keeper_preview_iff_half :
    let s := Script.run (Sample.oneCreation 2000 10 0 0 rfl) Sample.genesis
    ∃ stream, s.streams 0 = some stream ∧ stream.keeperFee 604900 = 5 ∧
      KeeperPreviewAgrees Sample.keeperEnv s 0 stream Sample.keeper := by
  intro s
  have created : Reachable Sample.contract anyCall 0 s :=
    Sample.reachable_oneCreation fun _ _ _ _ => trivial
  have reached : Reachable Sample.contract anyCall 604900 s := .tick created (by decide)
  have balances : s.balances = movedBalances Sample.balances Sample.sender Sample.contract 2000 :=
    rfl
  have token : Sample.keeperEnv.TokenHonours s := by
    refine ⟨fun _ _ _ => rfl, ?_⟩
    rw [balances]
    exact Sample.roomy_of_pulled (by decide) (by decide)
  have terms : (s.streams 0).map (fun stream => (decide stream.Live,
      decide (stream.endTime + keeperGracePeriodSeconds ≤ 604900),
      decide (stream.withdrawnAmount ≤ stream.accruedAt 604900), stream.keeperFee 604900,
      decide (stream.unstreamed 604900 * keeperFeeBps ≤ i128.upper),
      decide (stream.depositAmount - stream.withdrawnAmount ≤ 2000))) =
        some (true, true, true, 5, true, true) := by
    decide +kernel
  rcases Option.map_eq_some_iff.mp terms with ⟨stream, stored, same⟩
  simp only [Prod.mk.injEq, decide_eq_true_eq] at same
  rcases same with ⟨live, elapsed, drawn, fee, fits, solvent⟩
  have held : s.balances Sample.contract = 2000 := rfl
  have counted : i128.Contains (s.totalKeeperFeesPaid + stream.keeperFee 604900) := by
    rw [fee]
    exact ⟨by decide, by decide⟩
  have timestamp : u64.Contains (604900 : ℕ) := ⟨by decide, by decide⟩
  have authorised : Sample.keeperEnv.auth Sample.keeper = true := by decide
  have agrees : KeeperPreviewAgrees Sample.keeperEnv s 0 stream Sample.keeper :=
    (keeper_preview_iff reached timestamp authorised stored live elapsed drawn
      (solvent.trans held.ge) token counted).mpr fits
  exact ⟨stream, stored, fee, agrees⟩

/-- Of a stream of `2 ^ 126` tokens the preview shows a fee, and a keeper cannot cancel it. -/
theorem not_always_keeper_preview :
    ¬ ∀ env s id stream keeper,
      Reachable env.currentContractAddress anyCall env.timestamp s → u64.Contains env.timestamp →
      env.auth keeper = true → s.streams id = some stream → stream.Live →
      stream.endTime + keeperGracePeriodSeconds ≤ env.timestamp →
      stream.withdrawnAmount ≤ stream.accruedAt env.timestamp →
      stream.depositAmount - stream.withdrawnAmount ≤ s.balances env.currentContractAddress →
      env.TokenHonours s →
      i128.Contains (s.totalKeeperFeesPaid + stream.keeperFee env.timestamp) →
        KeeperPreviewAgrees env s id stream keeper := by
  intro agree
  let s := Script.run Sample.huge (Sample.funded Sample.half)
  have fresh : FreshlyInitialised Sample.contract 0 (Sample.funded Sample.half) :=
    Sample.fresh_funded (by decide) (by decide)
  have ordered : Script.Ordered Sample.huge 0 := ⟨le_rfl, trivial⟩
  have created : Reachable Sample.contract anyCall 0 s :=
    Script.reachable_run ordered (Script.permits_anyCall _ _) (.start fresh)
  have reached : Reachable Sample.contract anyCall 604900 s := .tick created (by decide)
  have balances : s.balances =
      movedBalances (Sample.endowment Sample.half) Sample.sender Sample.contract Sample.half :=
    rfl
  have token : Sample.keeperEnv.TokenHonours s := by
    refine ⟨fun _ _ _ => rfl, ?_⟩
    rw [balances]
    exact Sample.roomy_of_endowed (by decide)
  have terms : (s.streams 0).map (fun stream => (decide stream.Live,
      decide (stream.endTime + keeperGracePeriodSeconds ≤ 604900),
      decide (stream.withdrawnAmount ≤ stream.accruedAt 604900),
      decide (i128.Contains (s.totalKeeperFeesPaid + stream.keeperFee 604900)),
      decide (i128.upper < stream.unstreamed 604900 * keeperFeeBps),
      decide (stream.depositAmount - stream.withdrawnAmount ≤ Sample.half))) =
        some (true, true, true, true, true, true) := by
    decide +kernel
  rcases Option.map_eq_some_iff.mp terms with ⟨stream, stored, same⟩
  simp only [Prod.mk.injEq, decide_eq_true_eq] at same
  rcases same with ⟨live, elapsed, drawn, counted, exceeds, solvent⟩
  have held : s.balances Sample.contract = Sample.half := rfl
  have timestamp : u64.Contains (604900 : ℕ) := ⟨by decide, by decide⟩
  have authorised : Sample.keeperEnv.auth Sample.keeper = true := by decide
  have agrees := agree Sample.keeperEnv s 0 stream Sample.keeper reached timestamp authorised stored
    live elapsed drawn (solvent.trans held.ge) token counted
  have formed := reached.book_wellFormed.records 0 stream stored
  have preview : Runs (getKeeperFeeSplit 0) Sample.keeperEnv s
      (computeKeeperFeeSplit (stream.unstreamed 604900) keeperFeeBps) s :=
    (runs_getKeeperFeeSplit formed stored live elapsed timestamp).mpr ⟨rfl, rfl⟩
  rcases agrees.succeeds.mp ⟨_, s, preview⟩ with ⟨s', run⟩
  exact absurd (keeperPays_of_runs formed stored run).1.2 (not_le.mpr exceeds)

end Wallie.StreamContract
