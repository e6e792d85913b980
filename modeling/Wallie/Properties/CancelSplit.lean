import Wallie.Ledger.AccrualView
import Wallie.Ledger.FrozenShare
import Wallie.Properties.WithdrawalInterval
import Wallie.Properties.Withdrawals
import Wallie.StreamContract.TokenRules

/-!
# A cancellation splits the deposit

The sender gets back what has not accrued. What has accrued is the recipient's:
the withdrawals that follow never draw more than is left of it, and a single one
draws all of it, for the dust threshold binds no stream that is cancelled.
-/

namespace Wallie.StreamContract

open Fallible

variable {address : Address} {s s' : State} {env : Env} {call : Call} {now id : ℕ}
  {stream : Stream} {done : Unit}

/-- The sender or the admin cancels stream `id`. -/
def Call.Cancels (id : ℕ) (call : Call) : Prop :=
  call = .cancelStream id ∨ call = .cancelStreamAsAdmin id

/-- What a cancellation does to the record and to the tokens. -/
structure CancelledBy (env : Env) (id : ℕ) (stream : Stream) (s s' : State) : Prop where
  stored : s.streams id = some stream
  live : stream.Live
  stored' : s'.streams id = some (stream.cancelledNow env.timestamp)
  balances : s'.balances = movedBalances s.balances env.currentContractAddress stream.sender
    (stream.depositAmount - stream.accruedAt env.timestamp)

theorem cancelledBy_of_internal (stored : s.streams id = some stream)
    (record : stream.WellFormed id env.timestamp)
    (run : Runs (cancelStreamInternal stream) env s done s') :
    CancelledBy env id stream s s' := by
  rcases cancelStreamInternal_cases run with ⟨live, -, -, middle, pushed, rfl⟩
  obtain rfl := (runs_pushPositive.mp pushed).2
  have nonneg := sub_nonneg.mpr (record.bounded.accruedAt_le_deposit env.timestamp)
  refine ⟨stored, live, ?_, ?_⟩
  · obtain rfl := record.streamId
    simp
  · exact State.pushedPositive_balances nonneg

theorem cancelledBy_of_runs (cancels : call.Cancels id) (run : Runs call.run env s () s')
    (records : ∀ id stream, s.streams id = some stream → stream.WellFormed id env.timestamp) :
    ∃ stream, CancelledBy env id stream s s' := by
  rcases cancels with rfl | rfl
  · change Runs (cancelStream id) env s () s' at run
    rcases cancelStream_cases run with ⟨stream, -, stored, -, run⟩
    exact ⟨stream, cancelledBy_of_internal stored (records id stream stored) run⟩
  · change Runs (cancelStreamAsAdmin id) env s () s' at run
    rcases cancelStreamAsAdmin_cases run with ⟨admin, stream, -, -, stored, run⟩
    exact ⟨stream, cancelledBy_of_internal stored (records id stream stored) run⟩

/-- The recipient of stream `id` asks for a withdrawal, in a later ledger than the last payment,
of a contract that is not stopped and holds what it owes on the stream, and the token pays it. -/
structure Asks (env : Env) (s : State) (id : ℕ) (stream : Stream) : Prop where
  stored : s.streams id = some stream
  authorised : env.auth stream.recipient = true
  started : 0 < env.sequence
  later : ∀ payout ∈ s.drawnFrom id, payout.sequence < env.sequence
  running : s.globalEmergencyPaused = false
  solvent : stream.owed ≤ s.balances env.currentContractAddress
  token : env.TokenHonours s

/-- The recipient of a cancelled stream draws all that is owed, whatever the dust threshold. -/
theorem Asks.draws (asks : Asks env s id stream)
    (reached : Reachable env.currentContractAddress anyCall env.timestamp s)
    (cancelled : stream.status = .cancelled) (nonneg : 0 ≤ stream.owed) :
    ∃ after, Runs (withdraw id) env s stream.owed after := by
  have formed := reached.book_wellFormed
  have record := formed.records id stream asks.stored
  have unpaid : stream.entitlement env.timestamp - stream.withdrawnAmount = stream.owed := by
    rw [Stream.entitlement_of_cancelled cancelled, Stream.owed_of_cancelled cancelled]
  have terminal : stream.IsTerminal env.timestamp := Or.inr (Or.inl cancelled)
  have spaced : stream.lastWithdrawLedger < env.sequence := by
    have started := asks.started
    rcases reached.notesPayments id stream asks.stored with none_ | ⟨payout, member, noted⟩
    · omega
    · have later := asks.later payout member
      omega
  have drawable : Drawable env s id stream :=
    { running := asks.running
      configured := formed.initialised
      stored := asks.stored
      authorised := asks.authorised
      spaced := ⟨spaced.le, Nat.sub_pos_of_lt spaced⟩
      unfinished := by simp [cancelled]
      unpaused := by simp [cancelled]
      frozen := record.cancelledAt_iff.mp
      noted := fun _ => reached.noted_le
      fits := record.unpaid_fits env.timestamp }
  rcases nonneg.lt_or_eq with positive | nothing
  · have able : s.CanPayOut env stream.owed :=
      ⟨formed.initialised, reached.tokenBalances, asks.token, asks.solvent⟩
    exact drawable.runs record able unpaid positive fun dust => dust.2.1 terminal
  · refine ⟨_, runs_withdraw.mpr ⟨stream, drawable, Or.inl ⟨Or.inl ?_, nothing.symm, rfl⟩⟩⟩
    rw [Stream.payable, unpaid]
    exact (min_le_left _ _).trans nothing.ge

/-- On every run without `updateRate`, a cancellation refunds the sender what has not accrued. What
has accrued and was not drawn bounds the payments that follow, is paid out once the stream is
closed, and as long as it is not closed a single withdrawal draws all that is left. -/
theorem cancel_splits_deposit (reached : Reachable address withoutUpdateRate now s)
    (invocation : Invocation address) (order : now ≤ invocation.env.timestamp)
    (cancels : invocation.call.Cancels id)
    (run : Runs invocation.call.run invocation.env s () s') :
    ∃ stream, CancelledBy invocation.env id stream s s' ∧
      ∀ later final, (system address).Continues (onCalls anyCall) invocation.env.timestamp s' later
          final →
        final.paidOut id - s'.paidOut id ≤
            stream.accruedAt invocation.env.timestamp - stream.withdrawnAmount ∧
        (final.streams id = none → final.paidOut id - s'.paidOut id =
            stream.accruedAt invocation.env.timestamp - stream.withdrawnAmount) ∧
        ∀ env record, env.currentContractAddress = address → later ≤ env.timestamp →
          Asks env final id record →
            ∃ after, Runs (withdraw id) env final
              (stream.accruedAt invocation.env.timestamp - stream.withdrawnAmount -
                (final.paidOut id - s'.paidOut id)) after := by
  have records := (reached.book_wellFormed.mono order).records
  rcases cancelledBy_of_runs cancels run records with ⟨stream, cancelled⟩
  have allowed : withoutUpdateRate s invocation.env invocation.call := by
    rcases cancels with same | same <;> rw [same] <;> trivial
  have reached' : Reachable address anyCall invocation.env.timestamp s' :=
    (reached.after order allowed run).mono fun _ input _ => by cases input <;> trivial
  have earned : stream.withdrawnAmount ≤ stream.accruedAt invocation.env.timestamp := by
    have earned := reached.earned (fun _ _ _ allowed => allowed) cancelled.stored
    rw [cancelled.live.entitlement] at earned
    exact earned.trans ((records id stream cancelled.stored).bounded.accruedAt_mono order)
  have frozen : (s'.book address).Frozen id (s'.paidOut id +
      (stream.accruedAt invocation.env.timestamp - stream.withdrawnAmount)) :=
    .of_stored (reached'.book_wellFormed.not_fresh cancelled.stored') cancelled.stored' rfl
      (by rw [Stream.owed_cancelledNow]; omega) rfl
  refine ⟨stream, cancelled, fun later final continued => ?_⟩
  have frozen' := reached'.frozen_later continued frozen
  have paid_le : final.paidOut id ≤ _ := frozen'.paidOut_le
  refine ⟨by omega, ?_, ?_⟩
  · intro absent
    have paid : final.paidOut id = _ := frozen'.closed absent
    omega
  · rintro env record rfl order' asks
    have reached'' : Reachable env.currentContractAddress anyCall env.timestamp final :=
      .tick (continued.reachable reached') order'
    have split : final.paidOut id + record.owed = _ := frozen'.split record asks.stored
    rcases asks.draws reached'' (frozen'.cancelled record asks.stored)
      (frozen'.owed_nonneg record asks.stored) with ⟨after, draws⟩
    refine ⟨after, ?_⟩
    have left : stream.accruedAt invocation.env.timestamp - stream.withdrawnAmount -
        (final.paidOut id - s'.paidOut id) = record.owed := by
      omega
    rw [left]
    exact draws

namespace Sample

def cancelling : Invocation contract :=
  invocation 1 50 1 (.cancelStream 0) (Eq.refl true)

end Sample

/-- Half of the deposit is refunded; the recipient draws the other half, though it is below the
threshold. -/
theorem cancel_splits_deposit_half :
    let s := Script.run Sample.dusty Sample.genesis
    let s' := Sample.cancelling.call.run.commit Sample.cancelling.env s
    s'.balances Sample.sender = s.balances Sample.sender + 500 ∧
      ∃ after, Runs (withdraw 0) (Sample.env 2 60 5) s' 500 after := by
  intro s s'
  have ordered : Script.Ordered Sample.dusty 0 := ⟨le_rfl, trivial⟩
  have reached : Reachable Sample.contract withoutUpdateRate 0 s :=
    Script.reachable_run ordered ⟨trivial, trivial⟩ (Sample.reachable_genesis _)
  have changed : (Sample.cancelling.call.run.commit Sample.cancelling.env s).streams 0 ≠
      s.streams 0 := by
    decide
  have run := Script.runs_of_changed changed
  rcases cancel_splits_deposit reached Sample.cancelling (by decide) (Or.inl rfl) run with
    ⟨stream, cancelled, later⟩
  have terms : (s.streams 0).map (fun stream => (stream.sender, stream.depositAmount,
      stream.accruedAt 50, stream.withdrawnAmount, stream.recipient)) =
        some (Sample.sender, 1000, 500, 0, Sample.recipient) := by
    decide +kernel
  rw [cancelled.stored, Option.map_some, Option.some.injEq] at terms
  simp only [Prod.mk.injEq] at terms
  rcases terms with ⟨sender, deposit, accrued, withdrawn, recipient⟩
  have accrued' : stream.accruedAt Sample.cancelling.env.timestamp = 500 := accrued
  have refund : s'.balances = movedBalances s.balances Sample.contract Sample.sender 500 := by
    have balances := cancelled.balances
    rwa [sender, deposit, accrued'] at balances
  refine ⟨?_, ?_⟩
  · rw [refund]
    exact movedBalances_destination (by decide)
  -- What is left for the recipient can be paid, and the recipient asks for it.
  have able : s.CanPayOut (Sample.env 2 60 5) (500 + 500) := by
    have balances : s.balances = movedBalances Sample.balances Sample.sender Sample.contract 1000 :=
      rfl
    refine ⟨rfl, reached.tokenBalances, ⟨fun _ _ _ => rfl, ?_⟩, by decide⟩
    rw [balances]
    exact Sample.roomy_of_pulled (by decide) (by decide)
  have able' : s'.CanPayOut (Sample.env 2 60 5) 500 :=
    able.moved (by decide) (by decide) (by decide) refund
  have owed : (stream.cancelledNow 50).owed = 500 := by
    rw [Stream.owed_cancelledNow, accrued, withdrawn]
    rfl
  have asks : Asks (Sample.env 2 60 5) s' 0 (stream.cancelledNow 50) :=
    { stored := cancelled.stored'
      authorised := by
        change decide (stream.recipient = _) = true
        rw [recipient]
        rfl
      started := by decide
      later := fun payout member => absurd member List.not_mem_nil
      running := rfl
      solvent := owed.le.trans able'.covered
      token := able'.honours }
  have draws := (later _ s' .here).2.2 _ _ rfl (by decide) asks
  rwa [accrued', withdrawn, sub_self, sub_zero, sub_zero] at draws

end Wallie.StreamContract
