import Wallie.Ledger.AccrualView
import Wallie.Ledger.Emissions
import Wallie.Properties.Lifecycle

/-!
# Settlement by a keeper

A keeper pays the recipient and cancels the stream, but the record does not note
the payment. So the stream is settled for good exactly when there was nothing to
pay the recipient.
-/

namespace Wallie.StreamContract

open Fallible

variable {address : Address} {permitted : State → Env → Call → Prop} {s s' : State} {env : Env}
  {now later id : ℕ} {stream stream' : Stream} {move : Move} {call : Call} {held : ℤ}

/-- The recipient withdrawal paths that can pay for stream `id`. -/
def Call.WithdrawsFrom (id : ℕ) : Call → Prop
  | withdraw paid | withdrawTo paid _ | delegatedWithdraw paid _ _ _ _ _ _
  | triggerAutoClaim paid => paid = id
  | batchWithdraw _ ids => id ∈ ids
  | batchWithdrawTo _ withdrawals => ∃ param ∈ withdrawals, param.streamId = id
  | _ => False

/-- Nothing is left to draw: the view shows nothing, no withdrawal pays anything, and the stream
can be closed. -/
structure State.Settled (s : State) (address : Address) (now id : ℕ) : Prop where
  nothingShown : ∀ env, now ≤ env.timestamp → Runs (getWithdrawable id) env s 0 s
  nothingPaid : ∀ invocation : Invocation address, now ≤ invocation.env.timestamp →
    invocation.call.WithdrawsFrom id →
      (invocation.call.run.commit invocation.env s).paidOut id = s.paidOut id
  closes : ∀ env, ∃ closed, Runs (closeCancelledStream id) env s () closed

/-- A withdrawal moves the record by a payment. -/
theorem Call.Changing.withdraws (changing : call.Changing held id move)
    (withdraws : call.WithdrawsFrom id) : ∃ path amount, move = .withdraw path amount := by
  cases changing with
  | withdraw _ | withdrawTo _ | batchWithdraw _ _ | batchWithdrawTo _ _ _ | delegatedWithdraw _
  | triggerAutoClaim _ => exact ⟨_, _, rfl⟩
  | _ => exact absurd withdraws not_false

/-- No withdrawal pays for a stream that has been drawn up to what it has earned. -/
theorem Reachable.nothing_paid (reached : Reachable address permitted now s)
    (stored : s.streams id = some stream) (invocation : Invocation address)
    (order : now ≤ invocation.env.timestamp) (withdraws : invocation.call.WithdrawsFrom id)
    (drawn : stream.entitlement invocation.env.timestamp ≤ stream.withdrawnAmount) :
    (invocation.call.run.commit invocation.env s).paidOut id = s.paidOut id := by
  have formed := reached.book_wellFormed.mono order
  refine (invocation.runs rfl formed).paidOut_eq stored ?_
  intro move stream' makes moves
  rcases makes.emits.changing.withdraws withdraws with ⟨path, amount, rfl⟩
  cases moves with
  | withdraw _ _ positive earned _ _ => omega

/-- The view shows nothing of a cancelled stream that has been drawn up to what it has earned. -/
theorem Reachable.nothing_shown (reached : Reachable address permitted now s)
    (stored : s.streams id = some stream) (cancelled : stream.status = .cancelled)
    (drawn : stream.entitlement env.timestamp ≤ stream.withdrawnAmount) :
    Runs (getWithdrawable id) env s 0 s := by
  have formed := reached.book_wellFormed
  have record := formed.records id stream stored
  have initialised : s.config.isSome = true := formed.initialised
  have unlive : ¬ stream.Live := fun live => live.not_cancelled cancelled
  have accrued : Runs (calculateAccrued id) env s (stream.entitlement env.timestamp) s := by
    refine (runs_calculateAccrued stored).mpr ⟨⟨record.cancelledAt_iff.mp, ?_⟩, rfl, ?_⟩
    · exact fun live => absurd live unlive
    · exact (if_neg unlive).symm
  have nothing : ¬ 0 < min (stream.entitlement env.timestamp - stream.withdrawnAmount)
      (s.balances env.currentContractAddress) := by omega
  simp only [getWithdrawable, runs_bind, runs_loadStream, runs_ite, runs_pure, runs_plainI128,
    runs_tokenBalance]
  refine ⟨stream, s, ⟨stored, rfl⟩, Or.inr ⟨by simp [cancelled], _, s, accrued, _, s,
    ⟨⟨record.unpaid_fits _, rfl⟩, rfl⟩, _, s, ⟨initialised, rfl, rfl⟩, ?_, rfl⟩⟩
  rw [if_neg nothing]

/-- A cancelled stream that has been drawn up to what it has earned can be closed. -/
theorem Stream.WellFormed.closeable (formed : stream.WellFormed id now)
    (stored : s.streams id = some stream) (cancelled : stream.status = .cancelled)
    (drawn : stream.entitlement now ≤ stream.withdrawnAmount) :
    ∃ closed, Runs (closeCancelledStream id) env s () closed := by
  rcases formed.cancelledAt_of_cancelled cancelled with ⟨instant, at_, _⟩
  rw [Stream.entitlement_of_cancelled cancelled, at_, Option.getD_some] at drawn
  have nothing : stream.claimable instant ≤ 0 := by
    rw [formed.claimable_eq]
    omega
  exact ⟨_, runs_closeCancelledStream.mpr
    ⟨stream, stored, cancelled, ⟨instant, at_, nothing⟩, rfl⟩⟩

/-- A cancelled stream that can be closed has been drawn up to what it has earned. -/
theorem Reachable.drawn_of_closes (reached : Reachable address permitted env.timestamp s)
    (stored : s.streams id = some stream)
    (run : Runs (closeCancelledStream id) env s () s') :
    stream.entitlement env.timestamp ≤ stream.withdrawnAmount := by
  have formed := reached.book_wellFormed.records id stream stored
  rcases runs_closeCancelledStream.mp run with ⟨record, stored', cancelled, nothing, -⟩
  rw [stored, Option.some.injEq] at stored'
  subst stored'
  exact formed.drawn_of_nothingClaimable cancelled nothing

/-- The stream is cancelled and its recipient has drawn what it had earned. -/
structure Stream.DrawnOut (stream : Stream) : Prop where
  cancelled : stream.status = .cancelled
  drawn : ∀ instant, stream.entitlement instant ≤ stream.withdrawnAmount

/-- Only the recipient of such a stream can still change. -/
theorem Stream.Moves.drawnOut (moves : stream.Moves now move stream') (out : stream.DrawnOut) :
    stream'.DrawnOut := by
  have unlive : ¬ stream.Live := fun live => live.not_cancelled out.cancelled
  cases moves with
  | withdraw _ _ positive earned _ _ =>
      have drawn := out.drawn now
      omega
  | rotate => exact ⟨out.cancelled, out.drawn⟩
  | pause active _ => exact absurd (Or.inl active) unlive
  | resume paused _ => exact absurd (Or.inr paused) unlive
  | topUp live _ _ _ _ | raiseRate live _ _ _ | lowerRate live _ _ _ _ _ _ | reprice live _
  | shorten live _ _ _ _ _ _ _ | extend live _ _ _ _ | cancel live _ | settle live _ _
  | keeperCancel live _ _ _ => exact absurd live unlive

theorem Reachable.settled (reached : Reachable address permitted now s)
    (stored : s.streams id = some stream) (out : stream.DrawnOut) : s.Settled address now id where
  nothingShown := fun _ _ => reached.nothing_shown stored out.cancelled (out.drawn _)
  nothingPaid := fun invocation order withdraws =>
    reached.nothing_paid stored invocation order withdraws (out.drawn _)
  closes := fun _ =>
    (reached.book_wellFormed.records id stream stored).closeable stored out.cancelled (out.drawn _)

/-- A stream that has been drawn out stays settled for as long as it is stored. -/
theorem Reachable.settled_later {final : State} (reached : Reachable address anyCall now s)
    (stored : s.streams id = some stream) (out : stream.DrawnOut)
    (continued : (system address).Continues (onCalls anyCall) now s later final)
    (remains : (final.streams id).isSome = true) : final.Settled address later id := by
  rcases Option.isSome_iff_exists.mp remains with ⟨record, stored'⟩
  have out' : record.DrawnOut := by
    apply reached.forall_later (fun _ current => current.DrawnOut) continued stored out ?_ ?_
      record stored'
    · exact fun _ _ _ _ _ out => out
    · exact fun _ _ _ _ _ _ _ _ _ moves out => moves.drawnOut out
  exact Reachable.settled (continued.reachable reached) stored' out'

/-- On every run, a stream that a keeper has just cancelled is settled for as long as it is stored
exactly when its recipient had nothing left to draw. -/
theorem keeper_settlement_iff (reached : Reachable address anyCall now s)
    (invocation : Invocation address) (order : now ≤ invocation.env.timestamp) {keeper : Address}
    (cancels : invocation.call = .keeperCancel id keeper)
    (run : Runs invocation.call.run invocation.env s () s') :
    ∃ stream, s.streams id = some stream ∧ (s'.streams id).isSome = true ∧
      ((∀ later final, (system address).Continues (onCalls anyCall) invocation.env.timestamp s'
          later final → (final.streams id).isSome = true → final.Settled address later id) ↔
        stream.accruedAt invocation.env.timestamp ≤ stream.withdrawnAmount) := by
  have formed := reached.book_wellFormed.mono order
  have reached' := reached.after order trivial run
  rcases invocation with ⟨env, call, rfl, noSelfAuth, timestamp, sequence, wellTyped⟩
  change call = _ at cancels
  subst cancels
  rcases (keeperCancel_performs run formed).moves with
    ⟨_, stream, _, ⟨payment, refund, rfl⟩, stored, moves, stored'⟩
  cases moves with
  | keeperCancel live _ _ _ =>
      refine ⟨stream, stored, by rw [stored']; rfl, ?_⟩
      constructor
      · intro settled
        rcases (settled _ s' .here (by rw [stored']; rfl)).closes env with ⟨closed, closes⟩
        exact reached'.drawn_of_closes stored' closes
      · exact fun drawn _ _ continued remains =>
          reached'.settled_later stored' ⟨rfl, fun _ => drawn⟩ continued remains

namespace Sample

/-- A stream of `depositAmount` tokens at rate 10. -/
def expired (depositAmount : ℤ) (valid : decide (u64.Contains (0 : ℕ) ∧ u32.Contains (0 : ℕ) ∧
    (Call.createStream sender (params depositAmount 10 0 0)).WellTyped) = true) :
    List (Invocation contract) :=
  oneCreation depositAmount 10 0 0 valid

def drawing : Invocation contract :=
  invocation 2 100 1 (.withdraw 0) (Eq.refl true)

def keeperCancelling : Invocation contract :=
  invocation 3 604900 2 (.keeperCancel 0 keeper) (Eq.refl true)

end Sample

/-- The recipient of a stream of 2000 tokens draws the 1000 it earned, and a keeper cancels the
stream: it is settled. -/
theorem keeper_settlement_iff_drawn :
    let s := Script.run (Sample.expired 2000 rfl ++ [Sample.drawing]) Sample.genesis
    let cancelling := Sample.keeperCancelling
    (cancelling.call.run.commit cancelling.env s).Settled Sample.contract cancelling.env.timestamp
      0 := by
  intro s cancelling
  have created : Reachable Sample.contract anyCall 0
      (Script.run (Sample.expired 2000 rfl) Sample.genesis) :=
    Sample.reachable_oneCreation fun _ _ _ _ => trivial
  have reached : Reachable Sample.contract anyCall 100 s :=
    created.invoke Sample.drawing (by decide) trivial
  have changed : (cancelling.call.run.commit cancelling.env s).streams 0 ≠ s.streams 0 := by
    decide
  have run := Script.runs_of_changed changed
  rcases keeper_settlement_iff reached cancelling (by decide) rfl run with
    ⟨stream, stored, remains, settled⟩
  have drawn : (s.streams 0).map (fun stream =>
      decide (stream.accruedAt cancelling.env.timestamp ≤ stream.withdrawnAmount)) = some true := by
    decide +kernel
  rw [stored, Option.map_some, Option.some.injEq, decide_eq_true_iff] at drawn
  exact settled.mpr drawn _ _ .here remains

/-- A keeper pays the recipient of an undrawn stream 1000 tokens, and the stream still shows them
as unpaid: it cannot be closed. -/
theorem not_always_keeper_settlement :
    ¬ ∀ address now s, Reachable address anyCall now s →
      ∀ (invocation : Invocation address) id keeper s', now ≤ invocation.env.timestamp →
        invocation.call = .keeperCancel id keeper →
        Runs invocation.call.run invocation.env s () s' →
        s'.Settled address invocation.env.timestamp id := by
  intro always
  let s := Script.run (Sample.expired 1000 rfl) Sample.genesis
  let cancelling := Sample.keeperCancelling
  have reached : Reachable Sample.contract anyCall 0 s :=
    Sample.reachable_oneCreation fun _ _ _ _ => trivial
  have reached' := reached.invoke cancelling (by decide) trivial
  have changed : (cancelling.call.run.commit cancelling.env s).streams 0 ≠ s.streams 0 := by
    decide
  have settled := always _ _ s reached cancelling 0 Sample.keeper _ (by decide) rfl
    (Script.runs_of_changed changed)
  have undrawn : ((cancelling.call.run.commit cancelling.env s).streams 0).map (fun stream =>
      decide (stream.entitlement cancelling.env.timestamp ≤ stream.withdrawnAmount)) =
        some false := by decide +kernel
  rcases Option.map_eq_some_iff.mp undrawn with ⟨stream, stored, undrawn⟩
  rcases settled.closes cancelling.env with ⟨closed, closes⟩
  exact absurd (reached'.drawn_of_closes stored closes) (of_decide_eq_false undrawn)

end Wallie.StreamContract
