import Wallie.Ledger.Coverage
import Wallie.Ledger.RefineRun

/-!
# Calls and their moves

The moves each entrypoint can make, one rule for each of them. A condition on
the calls of a run becomes a condition on the moves of its streams by cases on
these rules.
-/

namespace Wallie.StreamContract

/-- The moves a call can make of stream `id`, when the contract holds `held` tokens. -/
inductive Call.Changing (held : ℤ) (id : ℕ) : Call → Move → Prop where
  | withdraw {amount : ℤ} (within : amount ≤ held) :
      Changing held id (.withdraw id) (.withdraw .withdraw amount)
  | withdrawTo {destination : Address} {amount : ℤ} (within : amount ≤ held) :
      Changing held id (.withdrawTo id destination) (.withdraw .withdrawTo amount)
  | batchWithdraw {recipient : Address} {ids : List ℕ} {amount : ℤ} (member : id ∈ ids)
      (within : amount ≤ held) :
      Changing held id (.batchWithdraw recipient ids) (.withdraw .batchWithdraw amount)
  | batchWithdrawTo {recipient : Address} {withdrawals : List WithdrawToParam}
      {param : WithdrawToParam} {amount : ℤ} (member : param ∈ withdrawals)
      (same : param.streamId = id) (within : amount ≤ held) :
      Changing held id (.batchWithdrawTo recipient withdrawals) (.withdraw .batchWithdrawTo amount)
  | delegatedWithdraw {relayer : Address} {recipientPublicKey nonce deadline : ℕ}
      {expectedMinimumAmount : ℤ} {signature : Bytes} {amount : ℤ} (within : amount ≤ held) :
      Changing held id (.delegatedWithdraw id relayer recipientPublicKey nonce deadline
        expectedMinimumAmount signature) (.withdraw .delegatedWithdraw amount)
  | triggerAutoClaim {amount : ℤ} (within : amount ≤ held) :
      Changing held id (.triggerAutoClaim id) (.withdraw .autoClaim amount)
  | updateRatePerSecond {rate : ℤ} :
      Changing held id (.updateRatePerSecond id rate) (.raiseRate rate)
  | decreaseRatePerSecond {rate refund : ℤ} :
      Changing held id (.decreaseRatePerSecond id rate) (.lowerRate rate refund)
  | shortenStreamEndTime {endTime : ℕ} {refund : ℤ} :
      Changing held id (.shortenStreamEndTime id endTime) (.shorten endTime refund)
  | extendStreamEndTime {endTime : ℕ} :
      Changing held id (.extendStreamEndTime id endTime) (.extend endTime)
  | topUpStream {funder : Address} {amount : ℤ} :
      Changing held id (.topUpStream id funder amount) (.topUp amount)
  | updateRate {rate : ℤ} {caller : Address} :
      Changing held id (.updateRate id rate caller) (.reprice rate)
  | pauseStream {reason : PauseReason} : Changing held id (.pauseStream id reason) .pause
  | pauseStreamAsAdmin {reason : PauseReason} :
      Changing held id (.pauseStreamAsAdmin id reason) .pause
  | resumeStream : Changing held id (.resumeStream id) .resume
  | resumeStreamAsAdmin : Changing held id (.resumeStreamAsAdmin id) .resume
  | cancelStream {refund : ℤ} : Changing held id (.cancelStream id) (.cancel refund)
  | cancelStreamAsAdmin {refund : ℤ} :
      Changing held id (.cancelStreamAsAdmin id) (.cancel refund)
  | keeperCancel {keeper : Address} {payment refund : ℤ} :
      Changing held id (.keeperCancel id keeper) (.keeperCancel payment refund)
  | bulkCancelStreams {sender : Address} {ids : List ℕ} {payment refund : ℤ}
      (member : id ∈ ids) :
      Changing held id (.bulkCancelStreams sender ids) (.settle payment refund)
  | acceptRecipientUpdate {recipient : Address} :
      Changing held id (.acceptRecipientUpdate id) (.rotate recipient)

variable {held : ℤ} {id : ℕ} {move : Move} {call : Call}

theorem Call.Emits.changing (emits : call.Emits held (.change id move)) :
    call.Changing held id move := by
  cases call <;> simp [Emits] at emits
  case withdraw | withdrawTo | delegatedWithdraw | triggerAutoClaim =>
    rcases emits with ⟨⟨amount, within, rfl⟩, rfl⟩
    constructor
    exact within
  case batchWithdraw =>
    rcases emits with ⟨member, amount, within, rfl⟩
    exact .batchWithdraw member within
  case batchWithdrawTo =>
    rcases emits with ⟨⟨param, member, same⟩, amount, within, rfl⟩
    exact .batchWithdrawTo member same within
  case bulkCancelStreams =>
    rcases emits with ⟨member, payment, refund, rfl⟩
    exact .bulkCancelStreams member
  case keeperCancel =>
    rcases emits with ⟨⟨payment, refund, rfl⟩, rfl⟩
    exact .keeperCancel
  case decreaseRatePerSecond | shortenStreamEndTime | cancelStream | cancelStreamAsAdmin |
    acceptRecipientUpdate =>
    rcases emits with ⟨⟨amount, rfl⟩, rfl⟩
    constructor
  all_goals
    rcases emits with ⟨rfl, rfl⟩
    constructor

/-- On runs without re-pricings and keepers the book is `Earned`, and an invariant of the book
may use this. -/
theorem Reachable.earned_invariant {address : Address} {permitted : State → Env → Call → Prop}
    {s : State} {now : ℕ} (holds : Book → Prop) (reached : Reachable address permitted now s)
    (plain : ∀ s env call, permitted s env call → withoutUpdateRateAndKeeperCancel s env call)
    (initially : ∀ book, book.Blank → holds book)
    (receives : ∀ book vault, book.vault ≤ vault → holds book → holds { book with vault })
    (actions : ∀ now book action book', Book.Steps now book action book' → book.WellFormed now →
      book.Earned now → book'.Earned now → holds book → holds book') :
    (s.book address).Earned now ∧ holds (s.book address) := by
  apply reached.book_invariant (fun now book => book.Earned now ∧ holds book)
  · exact fun instant book blank => ⟨blank.earned instant, initially book blank⟩
  · exact fun _ _ _ order formed kept => ⟨kept.1.mono formed order, kept.2⟩
  · exact fun _ book vault funded kept =>
      ⟨⟨kept.1.earned, kept.1.unsettled⟩, receives book vault funded kept.2⟩
  · rintro s invocation allowed book action book' ⟨makes, _⟩ step formed ⟨earned, kept⟩
    have earned' : book'.Earned invocation.env.timestamp := by
      apply step.earned formed earned
      · rintro id rate rfl
        have unpriced := withoutUpdateRate_of_withoutBoth (plain _ _ _ allowed)
        exact makes.emits.not_reprice unpriced rate rfl
      · rintro id payment refund rfl
        exact makes.emits.not_keeperCancel (plain _ _ _ allowed) payment refund rfl
    exact ⟨earned', actions _ book action book' step formed earned earned' kept⟩

end Wallie.StreamContract
