import Wallie.Ledger.AccrualView
import Wallie.Ledger.Transfers
import Wallie.Properties.KeeperSettlement
import Wallie.Properties.Liabilities
import Wallie.StreamContract.TokenRules

/-!
# The bulk cancellation settles a list of streams

Either every stream of the list can be cancelled and all of them are settled, or
nothing happens. The liabilities drop by what is paid unless the counter, which a
keeper can leave below zero, would leave the range of an `i128`; then it is reset.
-/

namespace Wallie.StreamContract

open Fallible

variable {address : Address} {s s' : State} {env : Env} {now id : ℕ} {stream : Stream}
  {sender : Address} {ids : List ℕ} {streams : List Stream}

/-- What the recipient has earned and not drawn. -/
def Stream.unpaidAt (stream : Stream) (now : ℕ) : ℤ :=
  stream.accruedAt now - stream.withdrawnAmount

/-- What remains of the deposit. -/
def Stream.undrawn (stream : Stream) : ℤ :=
  stream.depositAmount - stream.withdrawnAmount

/-- What the streams of a list add up to. -/
def totalOf (amount : Stream → ℤ) (streams : List Stream) : ℤ :=
  (streams.map amount).sum

@[simp]
theorem totalOf_nil (amount : Stream → ℤ) : totalOf amount [] = 0 :=
  rfl

@[simp]
theorem totalOf_cons (amount : Stream → ℤ) (stream : Stream) (rest : List Stream) :
    totalOf amount (stream :: rest) = amount stream + totalOf amount rest :=
  List.sum_cons

theorem totalOf_nonneg {amount : Stream → ℤ} (nonneg : ∀ stream ∈ streams, 0 ≤ amount stream) :
    0 ≤ totalOf amount streams := by
  apply List.sum_nonneg
  intro part member
  rcases List.mem_map.mp member with ⟨stream, listed, rfl⟩
  exact nonneg stream listed

/-- Each id is listed once, and is that of a stored stream of `sender` that is active or paused. -/
structure State.Cancellable (s : State) (sender : Address) (ids : List ℕ) : Prop where
  nodup : ids.Nodup
  found : ∀ id ∈ ids, ∃ stream, s.streams id = some stream ∧ stream.sender = sender ∧ stream.Live

/-- The stored streams of a list of ids. -/
def State.listed (s : State) (ids : List ℕ) : List Stream :=
  ids.filterMap s.streams

/-- The streams are settled and cancelled, with `refund` paid to `sender`: what every holder
receives, what the contract pays, and what the liabilities drop by. -/
structure SettledBy (env : Env) (sender : Address) (refund : ℤ) (streams : List Stream)
    (s s' : State) : Prop where
  records : ∀ stream ∈ streams,
    s'.streams stream.streamId = some (stream.settledNow env.timestamp)
  others : ∀ id, id ∉ streams.map Stream.streamId → s'.streams id = s.streams id
  balances : ∀ holder, s'.balances holder = s.balances holder +
    totalOf (fun stream => if stream.recipient = holder then stream.unpaidAt env.timestamp else 0)
      streams +
    (if holder = sender then refund else 0) -
    (if holder = env.currentContractAddress then
      totalOf (fun stream => stream.unpaidAt env.timestamp) streams + refund else 0)
  liabilities : i128.lower ≤ s.totalLiabilities - totalOf Stream.undrawn streams →
    s'.totalLiabilities = s.totalLiabilities - totalOf Stream.undrawn streams

/-- A stored record that has earned what was drawn. -/
structure Settleable (s : State) (now : ℕ) (stream : Stream) : Prop where
  stored : s.streams stream.streamId = some stream
  formed : stream.WellFormed stream.streamId now
  earned : stream.withdrawnAmount ≤ stream.accruedAt now

namespace Settleable

theorem unpaidAt_nonneg (settleable : Settleable s now stream) : 0 ≤ stream.unpaidAt now :=
  sub_nonneg.mpr settleable.earned

theorem claimable_eq (settleable : Settleable s now stream) :
    stream.claimable now = stream.unpaidAt now := by
  rw [settleable.formed.claimable_eq]
  exact max_eq_left settleable.unpaidAt_nonneg

theorem undrawn_eq (stream : Stream) (now : ℕ) :
    stream.undrawn = stream.unpaidAt now + stream.unstreamed now := by
  unfold Stream.undrawn Stream.unpaidAt Stream.unstreamed
  ring

theorem undrawn_nonneg (settleable : Settleable s now stream) : 0 ≤ stream.undrawn := by
  have unpaid := settleable.unpaidAt_nonneg
  have unstreamed := settleable.formed.bounded.unstreamed_nonneg now
  rw [undrawn_eq stream now]
  omega

/-- One round drops the liabilities by what remains of the deposit. -/
theorem liabilities_eq (settleable : Settleable s env.timestamp stream)
    (le : s.totalLiabilities ≤ i128.upper)
    (fits : i128.lower ≤ s.totalLiabilities - stream.undrawn) :
    (s.settled env stream).totalLiabilities = s.totalLiabilities - stream.undrawn := by
  have unpaid := settleable.unpaidAt_nonneg
  have unstreamed := settleable.formed.bounded.unstreamed_nonneg env.timestamp
  have split := undrawn_eq stream env.timestamp
  change releasedLiabilities (releasedLiabilities s.totalLiabilities
    (stream.claimable env.timestamp)) (stream.unstreamed env.timestamp) = _
  rw [settleable.claimable_eq, releasedLiabilities_eq unpaid ⟨by omega, by omega⟩,
    releasedLiabilities_eq unstreamed ⟨by omega, by omega⟩]
  omega

theorem balances_eq (settleable : Settleable s env.timestamp stream) :
    (s.settled env stream).balances = movedBalances s.balances env.currentContractAddress
      stream.recipient (stream.unpaidAt env.timestamp) := by
  rw [← settleable.claimable_eq]
  exact State.pushedPositive_balances (le_max_right _ _)

end Settleable

/-- What the loop pays and releases, and the refunds it adds up. -/
theorem amounts_of_bulkCancelLoop {aggregateRefund : ℤ} {lines : List PayoutLine}
    {collected : ℤ × List PayoutLine}
    (run : Runs (bulkCancelLoop env.timestamp streams aggregateRefund lines) env s collected s')
    (settleable : ∀ stream ∈ streams, Settleable s env.timestamp stream)
    (nodup : (streams.map Stream.streamId).Nodup) (le : s.totalLiabilities ≤ i128.upper) :
    collected.1 =
      aggregateRefund + totalOf (fun stream => stream.unstreamed env.timestamp) streams ∧
    (∀ holder, s'.balances holder = s.balances holder +
      totalOf (fun stream =>
        if stream.recipient = holder then stream.unpaidAt env.timestamp else 0) streams -
      (if holder = env.currentContractAddress then
        totalOf (fun stream => stream.unpaidAt env.timestamp) streams else 0)) ∧
    (i128.lower ≤ s.totalLiabilities - totalOf Stream.undrawn streams →
      s'.totalLiabilities = s.totalLiabilities - totalOf Stream.undrawn streams) := by
  induction streams generalizing s aggregateRefund lines with
  | nil =>
      rcases runs_pure.mp run with ⟨rfl, rfl⟩
      exact ⟨(add_zero _).symm, by simp, by simp⟩
  | cons stream rest ih =>
      rcases List.forall_mem_cons.mp settleable with ⟨first, others⟩
      rcases List.nodup_cons.mp nodup with ⟨fresh, nodup⟩
      rcases (runs_bulkCancelLoop_cons first.formed).mp run with ⟨-, -, -, run⟩
      have others' : ∀ later ∈ rest, Settleable (s.settled env stream) env.timestamp later := by
        intro later member
        refine ⟨?_, (others later member).formed, (others later member).earned⟩
        rw [State.stored_settled fresh member]
        exact (others later member).stored
      have le' : (s.settled env stream).totalLiabilities ≤ i128.upper :=
        releasedLiabilities_le (releasedLiabilities_le le)
      rcases ih run others' nodup le' with ⟨refunds, balances, liabilities⟩
      refine ⟨?_, ?_, ?_⟩
      · rw [refunds, totalOf_cons, add_assoc]
      · intro holder
        rw [balances holder, first.balances_eq, movedBalances_apply, totalOf_cons, totalOf_cons]
        have swap : holder = stream.recipient ↔ stream.recipient = holder := eq_comm
        simp only [swap]
        split_ifs <;> omega
      · intro fits
        rw [totalOf_cons] at fits ⊢
        have rest_nonneg := totalOf_nonneg fun later member =>
          (others later member).undrawn_nonneg
        have dropped := first.liabilities_eq le (by omega)
        rw [liabilities (by omega), dropped]
        omega

/-- The loop settles the streams and adds up their refunds. -/
theorem settled_of_bulkCancelLoop {aggregateRefund : ℤ} {lines : List PayoutLine}
    {collected : ℤ × List PayoutLine}
    (run : Runs (bulkCancelLoop env.timestamp streams aggregateRefund lines) env s collected s')
    (settleable : ∀ stream ∈ streams, Settleable s env.timestamp stream)
    (nodup : (streams.map Stream.streamId).Nodup) (le : s.totalLiabilities ≤ i128.upper) :
    collected.1 =
      aggregateRefund + totalOf (fun stream => stream.unstreamed env.timestamp) streams ∧
    SettledBy env sender 0 streams s s' := by
  rcases amounts_of_bulkCancelLoop run settleable nodup le with ⟨refunds, balances, liabilities⟩
  rcases records_of_bulkCancelLoop run (fun stream member => (settleable stream member).formed)
    nodup with ⟨records, others⟩
  refine ⟨refunds, records, others, fun holder => ?_, liabilities⟩
  rw [balances holder, ite_self, add_zero, add_zero]

/-- The refund is paid once the streams are settled. -/
theorem SettledBy.refunded {middle : State} {refund : ℤ}
    (settled : SettledBy env sender 0 streams s middle) (streams_eq : s'.streams = middle.streams)
    (liabilities : s'.totalLiabilities = middle.totalLiabilities)
    (balances : s'.balances =
      movedBalances middle.balances env.currentContractAddress sender refund) :
    SettledBy env sender refund streams s s' where
  records := by
    rw [streams_eq]
    exact settled.records
  others := by
    rw [streams_eq]
    exact settled.others
  balances := by
    intro holder
    rw [balances, movedBalances_apply, settled.balances holder]
    split_ifs <;> omega
  liabilities := by
    rw [liabilities]
    exact settled.liabilities

/-- The first phase of a bulk cancellation checks the list, and the second settles it. -/
theorem settledBy_of_bulkCancelStreams {done : Unit}
    (run : Runs (bulkCancelStreams sender ids) env s done s')
    (formed : (s.book env.currentContractAddress).WellFormed env.timestamp)
    (earned : ∀ id stream, s.streams id = some stream → stream.Live →
      stream.withdrawnAmount ≤ stream.accruedAt env.timestamp)
    (le : s.totalLiabilities ≤ i128.upper) :
    s.Cancellable sender ids ∧ (s.listed ids).map Stream.streamId = ids ∧
      SettledBy env sender
        (totalOf (fun stream => stream.unstreamed env.timestamp) (s.listed ids)) (s.listed ids)
        s s' := by
  rcases bulkCancelStreams_cases run formed with
    ⟨-, streams, rfl, nodup, found, collected, middle, looped, paid⟩
  have listed : s.listed (streams.map Stream.streamId) = streams := by
    rw [State.listed, List.filterMap_map]
    refine (List.filterMap_congr fun stream member => ?_).trans List.filterMap_some
    exact (found stream member).1
  have settleable : ∀ stream ∈ streams, Settleable s env.timestamp stream := by
    intro stream member
    rcases found stream member with ⟨stored, live, -⟩
    exact ⟨stored, formed.records _ stream stored, earned _ stream stored live⟩
  have both : _ ∧ SettledBy env sender 0 streams s middle :=
    settled_of_bulkCancelLoop looped settleable nodup le
  rcases both with ⟨refunds, settled⟩
  rw [zero_add] at refunds
  have nonneg : 0 ≤ collected.1 := by
    rw [refunds]
    exact totalOf_nonneg fun stream member =>
      (settleable stream member).formed.bounded.unstreamed_nonneg env.timestamp
  rw [listed, ← refunds]
  refine ⟨⟨nodup, ?_⟩, rfl, ?_⟩
  · intro id member
    rcases List.mem_map.mp member with ⟨stream, listed, rfl⟩
    rcases found stream listed with ⟨stored, live, owned⟩
    exact ⟨stream, stored, owned, live⟩
  · rcases paid with ⟨-, rfl⟩ | ⟨unrefunded, rfl⟩
    · exact settled.refunded rfl rfl rfl
    · obtain zero : collected.1 = 0 := by omega
      rw [zero]
      exact settled

theorem Reachable.totalLiabilities_le {permitted : State → Env → Call → Prop}
    (reached : Reachable address permitted now s) : s.totalLiabilities ≤ i128.upper := by
  apply reached.book_invariant (fun _ book => book.totalLiabilities ≤ i128.upper)
  · intro instant book blank
    rw [blank.totalLiabilities]
    decide
  · exact fun _ _ _ _ _ kept => kept
  · exact fun _ _ _ _ kept => kept
  · exact fun _ _ _ _ _ _ _ step _ kept => step.totalLiabilities_le kept

/-- A stream settled by a bulk cancellation is drawn out. -/
theorem Stream.WellFormed.drawnOut_settledNow (formed : stream.WellFormed id now) :
    (stream.settledNow now).DrawnOut := by
  refine ⟨rfl, fun instant => ?_⟩
  rw [Stream.entitlement_of_cancelled rfl]
  change stream.accruedAt now ≤ stream.withdrawnAmount + stream.claimable now
  rw [formed.claimable_eq]
  omega

/-- On every run without `updateRate`, a successful bulk cancellation settles every stream of the
list for good, and a list that cannot be cancelled makes it fail without any effect. -/
theorem bulk_cancel_settles (reached : Reachable address withoutUpdateRate now s)
    (invocation : Invocation address) (order : now ≤ invocation.env.timestamp)
    (cancels : invocation.call = .bulkCancelStreams sender ids) :
    (∀ s', Runs invocation.call.run invocation.env s () s' →
      s.Cancellable sender ids ∧ (s.listed ids).map Stream.streamId = ids ∧
      SettledBy invocation.env sender
        (totalOf (fun stream => stream.unstreamed invocation.env.timestamp) (s.listed ids))
        (s.listed ids) s s' ∧
      ∀ id ∈ ids, ∀ later final,
        (system address).Continues (onCalls anyCall) invocation.env.timestamp s' later final →
          (final.streams id).isSome = true → final.Settled address later id) ∧
    (¬ s.Cancellable sender ids →
      (∀ s', ¬ Runs invocation.call.run invocation.env s () s') ∧
        invocation.call.run.commit invocation.env s = s) := by
  have formed := reached.book_wellFormed.mono order
  rcases invocation with ⟨env, call, rfl, noSelfAuth, timestamp, sequence, wellTyped⟩
  change call = _ at cancels
  subst cancels
  have earned : ∀ id stream, s.streams id = some stream → stream.Live →
      stream.withdrawnAmount ≤ stream.accruedAt env.timestamp := by
    intro id stream stored live
    have earned := reached.earned (fun _ _ _ allowed => allowed) stored
    rw [live.entitlement] at earned
    exact earned.trans ((formed.records id stream stored).bounded.accruedAt_mono order)
  have settles : ∀ s', Runs (bulkCancelStreams sender ids) env s () s' → _ ∧ _ ∧ _ :=
    fun _ run => settledBy_of_bulkCancelStreams run formed earned reached.totalLiabilities_le
  constructor
  · intro s' run
    rcases settles s' run with ⟨cancellable, keyed, settled⟩
    refine ⟨cancellable, keyed, settled, ?_⟩
    intro id member later final continued remains
    have reached' : Reachable env.currentContractAddress anyCall env.timestamp s' :=
      (reached.after order trivial run).mono fun _ input _ => by cases input <;> trivial
    rw [← keyed] at member
    rcases List.mem_map.mp member with ⟨stream, listed, rfl⟩
    rcases List.mem_filterMap.mp listed with ⟨id, _, stored⟩
    exact reached'.settled_later (settled.records stream listed)
      (formed.records id stream stored).drawnOut_settledNow continued remains
  · intro uncancellable
    have fails : ∀ s', ¬ Runs (bulkCancelStreams sender ids) env s () s' :=
      fun s' run => uncancellable (settles s' run).1
    exact ⟨fails, commit_of_fails fun _ after run => fails after run⟩

namespace Sample

/-- Two streams, of which the second is paused. -/
def onePaused : List (Invocation contract) :=
  twoCreations ++ [invocation 1 10 20 (.pauseStream 1 .operational) (Eq.refl true)]

def bulkCancelling : Invocation contract :=
  invocation 1 50 30 (.bulkCancelStreams Sample.sender [0, 1]) (Eq.refl true)

end Sample

/-- Half of each of two deposits goes to the recipient and half back to the sender. -/
theorem bulk_cancel_settles_halves :
    let s := Script.run Sample.onePaused Sample.genesis
    let s' := Sample.bulkCancelling.call.run.commit Sample.bulkCancelling.env s
    s'.balances Sample.recipient = s.balances Sample.recipient + 5500 ∧
      s'.balances Sample.sender = s.balances Sample.sender + 5500 ∧
      s'.totalLiabilities = 0 ∧ s'.Settled Sample.contract 50 1 := by
  intro s s'
  have ordered : Script.Ordered Sample.onePaused 0 := ⟨by decide, by decide, by decide, trivial⟩
  have reached : Reachable Sample.contract withoutUpdateRate 10 s :=
    Script.reachable_run ordered ⟨trivial, trivial, trivial, trivial⟩ (Sample.reachable_genesis _)
  have changed : (Sample.bulkCancelling.call.run.commit Sample.bulkCancelling.env s).streams 0 ≠
      s.streams 0 := by
    decide
  have run := Script.runs_of_changed changed
  rcases (bulk_cancel_settles reached Sample.bulkCancelling (by decide) rfl).1 s' run with
    ⟨_, _, settled, later⟩
  have liabilities : s.totalLiabilities - totalOf Stream.undrawn (s.listed [0, 1]) = 0 := by
    decide +kernel
  refine ⟨?_, ?_, ?_, later 1 (by decide) 50 s' .here (by decide)⟩
  · rw [settled.balances]
    decide +kernel
  · rw [settled.balances]
    decide +kernel
  · rw [settled.liabilities (by rw [liabilities]; decide), liabilities]

namespace Sample

/-- More than half of what a token can represent. -/
def large : ℤ := 85070591730234615865843651857942052865

/-- A stream of 1000 tokens, and one that pays all at once and is settled by a keeper. -/
def settledLarge : List (Invocation contract) :=
  [invocation 1 0 0 (.createStream Sample.sender (params 1000 10 0 0)) (Eq.refl true),
    invocation 1 0 0 (.createStream Sample.sender
      { params large 0 0 0 with kind := .cliffOnly }) (Eq.refl true),
    invocation 3 604900 1 (.keeperCancel 1 keeper) (Eq.refl true)]

/-- The recipient draws the settled stream as well, and streams what it drew back to the sender. A
keeper settles that stream, too. -/
def drawnLarge : List (Invocation contract) :=
  [invocation 2 604900 2 (.withdraw 1) (Eq.refl true),
    invocation 2 604900 2 (.createStream recipient
      { params large 0 604900 604900 with kind := .cliffOnly, recipient := Sample.sender })
      (Eq.refl true),
    invocation 3 1209800 3 (.keeperCancel 2 keeper) (Eq.refl true)]

def drawnLargeAgain : List (Invocation contract) :=
  [invocation 1 1209800 4 (.withdraw 2) (Eq.refl true)]

/-- The state once `holder` has given the contract `amount`. -/
def given (holder : Address) (amount : ℤ) (s : State) : State :=
  { s with balances := movedBalances s.balances holder contract amount }

theorem reachable_given {permitted : State → Env → Call → Prop} (holder : Address) (amount : ℤ)
    (reached : Reachable contract permitted now s)
    (allowed : TransferAllowed (Sample.env 0 0 0) s holder contract amount)
    (other : contract ≠ holder) : Reachable contract permitted now (given holder amount s) := by
  let activity : TokenActivity :=
    { instant := now
      balances := movedBalances s.balances holder contract amount
      allowances := s.allowances
      wellTyped := allowed.tokenBalances reached.tokenBalances }
  have received : s.balances contract ≤ activity.balances contract :=
    (le_add_of_nonneg_right allowed.amount_nonneg).trans_eq (movedBalances_destination other).symm
  have order : now ≤ (system contract).clock (.token activity) := le_refl now
  have step : (system contract).step s (.token activity) (given holder amount s) :=
    ⟨received, rfl⟩
  exact .move reached order trivial step

def settledOnce : State :=
  Script.run settledLarge (funded (large + 1000))

theorem reachable_settledOnce : Reachable contract withoutUpdateRate 604900 settledOnce := by
  have ordered : Script.Ordered settledLarge 0 := ⟨by decide, by decide, by decide, trivial⟩
  have fresh : FreshlyInitialised contract 0 (funded (large + 1000)) :=
    fresh_funded (by decide) (by decide)
  exact Script.reachable_run ordered ⟨trivial, trivial, trivial, trivial⟩ (.start fresh)

def settledAgain : State :=
  Script.run drawnLarge (given recipient large settledOnce)

theorem reachable_settledAgain : Reachable contract withoutUpdateRate 1209800 settledAgain := by
  have ordered : Script.Ordered drawnLarge 604900 := ⟨by decide, by decide, by decide, trivial⟩
  have given := reachable_given recipient large reachable_settledOnce
    ⟨by decide, by decide +kernel, by decide +kernel, rfl⟩ (by decide)
  exact Script.reachable_run ordered ⟨trivial, trivial, trivial, trivial⟩ given

/-- Both settled streams have been drawn, and the contract has been given what it paid twice. -/
def paidTwice : State :=
  Script.run drawnLargeAgain (given Sample.sender large settledAgain)

theorem reachable_paidTwice : Reachable contract withoutUpdateRate 1209800 paidTwice := by
  have ordered : Script.Ordered drawnLargeAgain 1209800 := ⟨by decide, trivial⟩
  have given := reachable_given Sample.sender large reachable_settledAgain
    ⟨by decide, by decide +kernel, by decide +kernel, rfl⟩ (by decide)
  exact Script.reachable_run ordered ⟨trivial, trivial⟩ given

def bulkCancellingLast : Invocation contract :=
  invocation 1 1209800 5 (.bulkCancelStreams Sample.sender [0]) (Eq.refl true)

end Sample

/-- The counter is left so far below zero that cancelling a stream of 1000 tokens resets it, though
the contract holds what it owes. -/
theorem not_always_bulk_cancel_settles :
    ¬ ∀ address now s, Reachable address withoutUpdateRate now s →
      s.owedTotal ≤ s.balances address → ∀ (invocation : Invocation address) sender ids,
        now ≤ invocation.env.timestamp → invocation.call = .bulkCancelStreams sender ids →
          ∀ s', Runs invocation.call.run invocation.env s () s' →
            s'.totalLiabilities = s.totalLiabilities - totalOf Stream.undrawn (s.listed ids) := by
  intro drops
  let s := Sample.paidTwice
  let cancelling := Sample.bulkCancellingLast
  have solvent : s.owedTotal ≤ s.balances Sample.contract := by decide +kernel
  have changed : (cancelling.call.run.commit cancelling.env s).streams 0 ≠ s.streams 0 := by
    decide +kernel
  have run := Script.runs_of_changed changed
  have dropped := drops _ _ s Sample.reachable_paidTwice solvent cancelling _ _ (by decide) rfl _
    run
  have reset : (cancelling.call.run.commit cancelling.env s).totalLiabilities = 0 := by
    decide +kernel
  have counter : s.totalLiabilities - totalOf Stream.undrawn (s.listed [0]) ≠ 0 := by
    decide +kernel
  exact counter (dropped.symm.trans reset)

end Wallie.StreamContract
