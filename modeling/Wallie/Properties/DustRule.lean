import Wallie.Ledger.Transfers
import Wallie.Properties.WithdrawalInterval

/-!
# The dust rule

A payment to the recipient of a running stream is at least the threshold of the
stream, or drains it. Four of the withdrawals check this before they pay. The
relayed one does not, so that the rule holds exactly on the runs in which what it
finds to pay would have passed the check.
-/

namespace Wallie.StreamContract

open Fallible

variable {address : Address} {now : ℕ} {s s' : State} {env : Env} {call : Call}
  {past : List (State × Input address)} {path : PayoutPath} {id : ℕ} {stream : Stream}
  {amount : ℤ}

/-- The payment is at least the threshold or the final drain, if the stream is active or paused and
before its end. -/
def Stream.AboveDust (stream : Stream) (now : ℕ) (amount : ℤ) : Prop :=
  stream.Live → now < stream.endTime →
    stream.withdrawDustThreshold ≤ amount ∨
      stream.withdrawnAmount + amount = stream.depositAmount

/-- The payments to recipients that lead from one state to another. -/
def State.newPayouts (s s' : State) : List Payout :=
  s'.recipientPayouts.drop s.recipientPayouts.length

/-- Each payment of a call to a recipient is above the dust of its stream. -/
def State.ObeysDust (s : State) (env : Env) (call : Call) : Prop :=
  ∀ payout ∈ s.newPayouts (call.run.commit env s),
    ∃ stream, s.streams payout.streamId = some stream ∧
      stream.AboveDust env.timestamp payout.amount

/-- What a relayed withdrawal finds to pay would pass the check of the other withdrawals. -/
def State.RelaysAboveDust (s : State) (env : Env) (call : Call) : Prop :=
  ∀ id relayer recipientPublicKey nonce deadline expectedMinimumAmount signature,
    call = .delegatedWithdraw id relayer recipientPublicKey nonce deadline expectedMinimumAmount
      signature → call.Succeeds env s → ∀ stream, s.streams id = some stream →
        let payable := stream.payable env.timestamp (s.balances env.currentContractAddress)
        payable ≤ 0 ∨ ¬ stream.DustBlocks env.timestamp payable

/-- What is not above the dust is what the check holds back. -/
theorem Stream.aboveDust_iff (bounded : stream.Bounded)
    (earned : stream.withdrawnAmount + amount ≤ stream.entitlement now) :
    stream.AboveDust now amount ↔ ¬ stream.DustBlocks now amount := by
  have covered := bounded.entitlement_le_deposit now
  constructor
  · rintro above ⟨dust, running, undrained⟩
    have live : stream.Live := by
      apply Stream.live_iff.mpr
      exact ⟨fun completed => running (Or.inl completed), fun cancelled =>
        running (Or.inr (Or.inl cancelled))⟩
    have before : now < stream.endTime := not_le.mp fun late => running (Or.inr (Or.inr late))
    rcases above live before with enough | drained
    · omega
    · omega
  · intro unblocked live before
    by_contra below
    rcases not_or.mp below with ⟨dust, undrained⟩
    refine unblocked ⟨not_le.mp dust, ?_, by omega⟩
    rintro (completed | cancelled | late)
    · exact live.not_completed completed
    · exact live.not_cancelled cancelled
    · exact absurd late (not_le.mpr before)

/-! ## The payments of a call -/

/-- A call of a payment entrypoint appends payments on streams stored before it. -/
theorem PaymentsOf.newPayouts {entries : List (ℕ × Option Address)}
    (payments : PaymentsOf env path entries s s')
    (keyed : ∀ id stream, s.streams id = some stream → stream.streamId = id)
    (nodup : (entries.map Prod.fst).Nodup) :
    ∃ drawn, s'.recipientPayouts = s.recipientPayouts ++ drawn ∧
      ∀ payout ∈ drawn, ∃ stream, s.streams payout.streamId = some stream ∧
        stream.withdrawnAmount + payout.amount ≤ stream.entitlement env.timestamp ∧
        (path.respectsDust = true → ¬ stream.DustBlocks env.timestamp payout.amount) ∧
        (path = .autoClaim → stream.endTime ≤ env.timestamp) := by
  rcases payments.transfers keyed nodup with ⟨more, appended, each⟩
  refine ⟨more, ?_, fun payout member => ?_⟩
  · have drawn : more.filter (fun payout => payout.kind.drawn) = more := by
      apply List.filter_eq_self.mpr
      intro payout member
      rw [(each payout member).2.1]
      cases path <;> rfl
    rw [State.recipientPayouts, appended, List.filter_append, drawn, State.recipientPayouts]
  · rcases each payout member with ⟨-, -, stream, stream', stored, moves, -⟩
    cases moves with
    | withdraw _ _ _ earned undusted expired =>
        exact ⟨stream, stored, earned, undusted, fun claimed => (expired claimed).2⟩

theorem obeysDust_of_same (run : Runs call.run env s () s')
    (same : s'.recipientPayouts = s.recipientPayouts) : s.ObeysDust env call := by
  intro payout member
  rw [commit_of_runs run, State.newPayouts, same, List.drop_length] at member
  cases member

/-- The withdrawals that check the dust obey the rule, and claims are made after the end. -/
theorem obeysDust_of_checked {ids : List ℕ} (run : Runs call.run env s () s')
    (paying : call.payments = some (path, ids)) (checked : path ≠ .delegatedWithdraw)
    (formed : (s.book address).WellFormed env.timestamp) : s.ObeysDust env call := by
  have pays := call.paysStreams run paying formed.records
  rcases pays.payments with ⟨entries, s₀, rfl, ⟨noted, rfl⟩, payments⟩
  have keyed : ∀ id stream, s.streams id = some stream → stream.streamId = id :=
    fun id stream stored => (formed.records id stream stored).streamId
  rcases payments.newPayouts keyed pays.nodup with ⟨drawn, appended, each⟩
  intro payout member
  have same : s'.recipientPayouts = s.recipientPayouts ++ drawn := appended
  rw [commit_of_runs run, State.newPayouts, same, List.drop_left] at member
  rcases each payout member with ⟨stream, stored, earned, undusted, claimed⟩
  refine ⟨stream, stored, ?_⟩
  by_cases claims : path = .autoClaim
  · have late := claimed claims
    intro _ before
    omega
  · have respects : path.respectsDust = true := by
      cases path <;> first | rfl | contradiction
    exact (Stream.aboveDust_iff (formed.records _ stream stored).bounded earned).mpr
      (undusted respects)

/-- A relayed withdrawal obeys the rule exactly when the check would have let it pass. -/
theorem obeysDust_of_relayed {relayer : Address} {recipientPublicKey nonce deadline : ℕ}
    {expectedMinimumAmount : ℤ} {signature : Bytes}
    (run : Runs (Call.delegatedWithdraw id relayer recipientPublicKey nonce deadline
      expectedMinimumAmount signature).run env s () s')
    (formed : (s.book address).WellFormed env.timestamp) :
    ∃ stream, s.streams id = some stream ∧
      (s.ObeysDust env (.delegatedWithdraw id relayer recipientPublicKey nonce deadline
        expectedMinimumAmount signature) ↔
          stream.payable env.timestamp (s.balances env.currentContractAddress) ≤ 0 ∨
            ¬ stream.DustBlocks env.timestamp
              (stream.payable env.timestamp (s.balances env.currentContractAddress))) := by
  rcases runs_effect.mp run with ⟨amount, relayed⟩
  rcases delegatedWithdraw_cases relayed with
    ⟨stream, stored, ⟨nothing, -, noted, rfl⟩ | ⟨rfl, -, pays, -⟩⟩
  · exact ⟨stream, stored, iff_of_true (obeysDust_of_same run rfl) (Or.inl nothing)⟩
  · refine ⟨stream, stored, ?_⟩
    rcases pays.recipientPayouts with ⟨payout, about, paid, _, appended⟩
    have above := Stream.aboveDust_iff (formed.records id stream stored).bounded
      (add_le_of_le_sub_left pays.earned)
    rw [or_iff_right (not_le.mpr pays.positive), ← above, State.ObeysDust, commit_of_runs run,
      State.newPayouts, appended, List.drop_left, List.forall_mem_singleton, about, paid]
    constructor
    · rintro ⟨record, found, above⟩
      rw [stored, Option.some.injEq] at found
      subst found
      exact above
    · exact fun above => ⟨stream, stored, above⟩

/-! ## Runs -/

/-- A relayer hands in a withdrawal. -/
def Call.Relays (call : Call) : Prop :=
  ∃ id relayer recipientPublicKey nonce deadline expectedMinimumAmount signature,
    call = .delegatedWithdraw id relayer recipientPublicKey nonce deadline expectedMinimumAmount
      signature

theorem Call.relays_of_payments {ids : List ℕ}
    (paying : call.payments = some (.delegatedWithdraw, ids)) : call.Relays := by
  cases call <;> simp [Call.payments] at paying
  exact ⟨_, _, _, _, _, _, _, rfl⟩

/-- In a reachable state, a call obeys the dust rule exactly when it does not relay a withdrawal
that the check would have held back. -/
theorem Reachable.obeysDust_iff {permitted : State → Env → Call → Prop}
    (reached : Reachable address permitted now s) (invocation : Invocation address)
    (order : now ≤ invocation.env.timestamp) :
    s.ObeysDust invocation.env invocation.call ↔
      s.RelaysAboveDust invocation.env invocation.call := by
  have formed := reached.book_wellFormed.mono order
  by_cases succeeds : invocation.call.Succeeds invocation.env s
  · rcases succeeds with ⟨s', run⟩
    by_cases relays : invocation.call.Relays
    · rcases relays with ⟨id, relayer, key, nonce, deadline, least, signature, relays⟩
      have run' := run
      rw [relays] at run'
      rcases obeysDust_of_relayed run' formed with ⟨stream, stored, obeys⟩
      rw [relays, obeys]
      constructor
      · rintro above _ _ _ _ _ _ _ ⟨⟩ _ record found
        rw [stored, Option.some.injEq] at found
        rwa [← found]
      · intro above
        exact above _ _ _ _ _ _ _ rfl ⟨s', run'⟩ stream stored
    · refine iff_of_true ?_ ?_
      · cases paying : invocation.call.payments with
        | none =>
            have unwritten := unpaid_of_payments paying
            exact obeysDust_of_same run
              ((invocation.call.onlyWrites run).recipientPayouts unwritten)
        | some drawn =>
            rcases drawn with ⟨path, ids⟩
            refine obeysDust_of_checked run paying ?_ formed
            rintro rfl
            exact relays (Call.relays_of_payments paying)
      · intro id relayer key nonce deadline least signature same
        exact absurd ⟨id, relayer, key, nonce, deadline, least, signature, same⟩ relays
  · refine iff_of_true ?_ ?_
    · intro payout member
      rw [commit_of_fails fun _ after run => succeeds ⟨after, run⟩, State.newPayouts,
        List.drop_length] at member
      cases member
    · exact fun _ _ _ _ _ _ _ _ succeeds' => absurd succeeds' succeeds

/-- On every run, each call obeys the dust rule exactly when each relayed withdrawal finds to pay
what the check of the other withdrawals would have let pass. -/
theorem dust_rule_iff (recorded : Recorded address anyCall past now s) :
    (∀ found (invocation : Invocation address), (found, .invoke invocation) ∈ past →
        found.ObeysDust invocation.env invocation.call) ↔
      ∀ found (invocation : Invocation address), (found, .invoke invocation) ∈ past →
        found.RelaysAboveDust invocation.env invocation.call := by
  have each : ∀ found (invocation : Invocation address), (found, .invoke invocation) ∈ past →
      (found.ObeysDust invocation.env invocation.call ↔
        found.RelaysAboveDust invocation.env invocation.call) := by
    intro found invocation member
    rcases List.append_of_mem member with ⟨later, earlier, rfl⟩
    rcases recorded.before with ⟨start, before, order⟩
    exact Reachable.obeysDust_iff before.reachable invocation order
  constructor
  · exact fun obeys found invocation member => (each found invocation member).mp
      (obeys found invocation member)
  · exact fun relays found invocation member => (each found invocation member).mpr
      (relays found invocation member)

namespace Sample

/-- A relayer hands in a withdrawal from the stream that holds back payments below 900. -/
def relaying (timestamp : ℕ) (valid : decide (u64.Contains timestamp ∧ u32.Contains (5 : ℕ) ∧
    (Call.delegatedWithdraw 0 keeper 2 0 1000 1 []).WellTyped) = true) :
    List (Invocation contract) :=
  dusty ++ [invocation 3 timestamp 5 (.delegatedWithdraw 0 keeper 2 0 1000 1 []) valid]

theorem recorded_relaying {timestamp : ℕ} {valid : decide (u64.Contains timestamp ∧
    u32.Contains (5 : ℕ) ∧ (Call.delegatedWithdraw 0 keeper 2 0 1000 1 []).WellTyped) = true} :
    Recorded contract anyCall (Script.past (relaying timestamp valid) genesis) timestamp
      (Script.run (relaying timestamp valid) genesis) := by
  have ordered : Script.Ordered (relaying timestamp valid) 0 :=
    ⟨le_rfl, Nat.zero_le timestamp, trivial⟩
  have recorded := Script.recorded_run ordered (Script.permits_anyCall _ _) (.start fresh_genesis)
  rwa [List.append_nil] at recorded

end Sample

/-- At 95 seconds a relayed withdrawal finds 950 tokens to pay. -/
theorem dust_rule_iff_relayed :
    ((Script.run (Sample.relaying 95 rfl) Sample.genesis).drawnFrom 0).map Payout.amount = [950] ∧
      ∀ found (invocation : Invocation Sample.contract),
        (found, .invoke invocation) ∈ Script.past (Sample.relaying 95 rfl) Sample.genesis →
          found.ObeysDust invocation.env invocation.call := by
  refine ⟨by decide, (dust_rule_iff Sample.recorded_relaying).mpr ?_⟩
  intro found invocation member
  rcases List.mem_cons.mp member with same | created
  · cases same
    rintro _ _ _ _ _ _ _ ⟨⟩ _ stream stored
    have passes : ((Script.run Sample.dusty Sample.genesis).streams 0).map (fun stream =>
        decide (stream.DustBlocks 95 (stream.payable 95
          ((Script.run Sample.dusty Sample.genesis).balances Sample.contract)))) = some false := by
      decide +kernel
    rcases Option.map_eq_some_iff.mp passes with ⟨record, stored', passes⟩
    obtain rfl : record = stream := Option.some.inj (stored'.symm.trans stored)
    exact Or.inr (of_decide_eq_false passes)
  · cases List.mem_singleton.mp created
    rintro _ _ _ _ _ _ _ ⟨⟩

/-- At 10 seconds it is paid 100 tokens, though the threshold is 900. -/
theorem not_always_dust_rule :
    ¬ ∀ past now s, Recorded Sample.contract anyCall past now s →
      ∀ found (invocation : Invocation Sample.contract), (found, .invoke invocation) ∈ past →
        found.ObeysDust invocation.env invocation.call := by
  intro obeys
  let s := Script.run Sample.dusty Sample.genesis
  let relaying := Sample.invocation 3 10 5 (.delegatedWithdraw 0 Sample.keeper 2 0 1000 1 []) rfl
  have obeyed : s.ObeysDust relaying.env relaying.call :=
    obeys _ _ _ Sample.recorded_relaying s relaying List.mem_cons_self
  have paid : (s.newPayouts (relaying.call.run.commit relaying.env s)).map
      (fun payout => (payout.streamId, payout.amount)) = [(0, 100)] := by
    decide
  rcases List.map_eq_singleton_iff.mp paid with ⟨payout, drawn, terms⟩
  rcases Prod.mk.inj terms with ⟨about, amount⟩
  rcases obeyed payout (drawn ▸ List.mem_singleton_self payout) with ⟨stream, stored, above⟩
  rw [about] at stored
  rw [amount] at above
  have running : (s.streams 0).map (fun stream => decide (stream.Live ∧ 10 < stream.endTime ∧
      ¬ stream.withdrawDustThreshold ≤ 100 ∧ stream.withdrawnAmount + 100 ≠
        stream.depositAmount)) = some true := by
    decide +kernel
  rw [stored, Option.map_some, Option.some.injEq, decide_eq_true_eq] at running
  rcases running with ⟨live, before, dust, undrained⟩
  rcases above live before with enough | drained
  · exact dust enough
  · exact undrained drained

end Wallie.StreamContract
