import Wallie.Ledger.CreateRules
import Wallie.Ledger.RunInvariant
import Wallie.StreamContract.EntrypointWrites
import Wallie.StreamContract.Script

/-!
# Batch creation

A batch pulls the sum of its deposits, persists its entries without their index
entries and flushes the index at its end. What it leaves behind is what single
creations of its entries leave behind, one after the other.
-/

namespace Wallie.StreamContract

open Fallible

variable {env : Env} {s s' : State} {id now : ℕ} {address sender : Address} {amount : ℤ}
  {params : CreateStreamParams} {streams : List CreateStreamParams} {ids : List ℕ}
  {permitted : State → Env → Call → Prop}

/-- The entries created by single calls in order, up to the first that fails. -/
def createEach (sender : Address) : List CreateStreamParams → Contract (List ℕ)
  | [] => pure []
  | params :: rest => do
      let streamId ← createStream sender params
      let others ← createEach sender rest
      return streamId :: others

/-- What the token takes from the sender at once it also takes in parts: when it would accept the
whole, then after it has taken a first part it accepts the next, whatever the contract has stored in
between. -/
def Env.TakesParts (env : Env) (sender : Address) : Prop :=
  ∀ s s' whole taken part, 0 ≤ taken → 0 ≤ part → taken + part ≤ whole →
    s'.balances = movedBalances s.balances sender env.currentContractAddress taken →
      env.tokenRefuses s sender env.currentContractAddress whole = false →
        env.tokenRefuses s' sender env.currentContractAddress part = false

/-! ## Pulling in parts -/

theorem State.pulled_pulled (s : State) (vault source : Address) (first second : ℤ) :
    (s.pulled vault source first).pulled vault source second =
      s.pulled vault source (first + second) := by
  simp only [State.pulled, movedBalances_add, Function.update_self, Function.update_idem,
    sub_sub]

theorem State.pulled_zero (s : State) (vault source : Address) : s.pulled vault source 0 = s := by
  simp only [State.pulled, movedBalances_zero, sub_zero, Function.update_eq_self]

theorem allocates_pulled {vault source : Address} {nextStreamId : ℕ}
    {idReservation : Address → Option IdReservation} :
    ((s.pulled vault source amount).book address).Allocates sender id nextStreamId idReservation ↔
      (s.book address).Allocates sender id nextStreamId idReservation := by
  constructor
  · intro allocates
    cases allocates with
    | counter unreserved => exact .counter unreserved
    | reserved held => exact .reserved held
  · intro allocates
    cases allocates with
    | counter unreserved => exact .counter unreserved
    | reserved held => exact .reserved held

/-- It does not matter whether tokens are pulled before or after a record is persisted. -/
theorem runs_persistNewStream_pulled {vault source : Address} :
    Runs (persistNewStream sender params) env (s.pulled vault source amount) id s' ↔
      ∃ middle, Runs (persistNewStream sender params) env s id middle ∧
        s' = middle.pulled vault source amount := by
  simp only [runs_persistNewStream sender, allocates_pulled]
  constructor
  · rintro ⟨fits, next, reservation, allocates, idFits, rfl⟩
    exact ⟨_, ⟨fits, next, reservation, allocates, idFits, rfl⟩, rfl⟩
  · rintro ⟨_, ⟨fits, next, reservation, allocates, idFits, rfl⟩, rfl⟩
    exact ⟨fits, next, reservation, allocates, idFits, rfl⟩

/-- The sender can pay an amount to the contract. -/
structure State.CanPay (s : State) (env : Env) (sender : Address) (amount : ℤ) : Prop where
  configured : s.config.isSome = true
  allowance : amount ≤ s.allowances sender
  transfer : TransferAllowed env s sender env.currentContractAddress amount

namespace State.CanPay

variable {first second : ℤ}

/-- Who can pay a sum can pay its first part. -/
theorem part (pays : s.CanPay env sender (first + second)) (takes : env.TakesParts sender)
    (sound : TokenBalances s.balances) (nonneg : 0 ≤ first) (rest : 0 ≤ second) :
    s.CanPay env sender first := by
  have smaller : first ≤ first + second := le_add_of_nonneg_right rest
  have accepted : env.tokenRefuses s sender env.currentContractAddress first = false :=
    takes s s _ 0 first le_rfl nonneg (by rwa [zero_add]) (movedBalances_zero).symm
      pays.transfer.accepted
  refine ⟨pays.configured, smaller.trans pays.allowance, nonneg,
    smaller.trans pays.transfer.covered, ?_, accepted⟩
  have fits := pays.transfer.fits.2
  rcases eq_or_ne env.currentContractAddress sender with same | other
  · have kept : movedBalances s.balances sender env.currentContractAddress first
        env.currentContractAddress = s.balances sender := by
      unfold movedBalances
      rw [same, Function.update_self, Function.update_self, sub_add_cancel]
    rw [kept]
    exact ⟨le_trans (by decide) (sound sender).1, (sound sender).2⟩
  · rw [movedBalances_destination other] at fits ⊢
    have held := sound env.currentContractAddress
    have amount : 0 ≤ s.balances env.currentContractAddress + first := add_nonneg held.1 nonneg
    exact ⟨le_trans (by decide) amount, by linarith⟩

/-- Once the first part is paid the rest can be paid. -/
theorem rest (pays : s.CanPay env sender (first + second)) (takes : env.TakesParts sender)
    (nonneg : 0 ≤ first) (rest : 0 ≤ second) :
    (s.pulled env.currentContractAddress sender first).CanPay env sender second := by
  have accepted := takes s (s.pulled env.currentContractAddress sender first) _ first second nonneg
    rest le_rfl rfl pays.transfer.accepted
  refine ⟨pays.configured, ?_, rest, ?_, ?_, accepted⟩
  · change second ≤ Function.update s.allowances sender (s.allowances sender - first) sender
    rw [Function.update_self]
    linarith [pays.allowance]
  · have kept : s.balances sender - first ≤
        (s.pulled env.currentContractAddress sender first).balances sender :=
      movedBalances_source nonneg
    linarith [pays.transfer.covered]
  · change i128.Contains (movedBalances (movedBalances _ _ _ first) _ _ second _)
    rw [movedBalances_add]
    exact pays.transfer.fits

/-- Persisting a record takes nothing from the sender. -/
theorem persisted (pays : s.CanPay env sender amount) (takes : env.TakesParts sender)
    (run : Runs (persistNewStream sender params) env s id s') : s'.CanPay env sender amount := by
  rcases (runs_persistNewStream sender).mp run with ⟨_, next, reservation, _, _, rfl⟩
  refine ⟨pays.configured, pays.allowance, pays.transfer.amount_nonneg, pays.transfer.covered,
    pays.transfer.fits, ?_⟩
  exact takes s _ _ 0 amount le_rfl pays.transfer.amount_nonneg (zero_add amount).le
    (movedBalances_zero).symm pays.transfer.accepted

end State.CanPay

/-- Nothing stands in the way of the entries of a batch but their memos and their ids. -/
structure State.Accepts (s : State) (env : Env) (sender : Address)
    (streams : List CreateStreamParams) : Prop where
  authorised : env.auth sender = true
  running : s.globalEmergencyPaused = false ∧ s.creationPaused = false
  passes : ∀ params ∈ streams,
    params.withFinalRate.Passes s.maxRatePerSecond sender env.timestamp
  pays : s.CanPay env sender (totalDeposit streams)
  sound : TokenBalances s.balances

theorem totalDeposit_nonneg {maxRate : ℤ}
    (passes : ∀ params ∈ streams, params.withFinalRate.Passes maxRate sender now) :
    0 ≤ totalDeposit streams := by
  rcases eq_or_ne streams [] with rfl | nonempty
  · exact le_rfl
  · exact (totalDeposit_pos nonempty passes).le

/-- After the first entry the others are still accepted. -/
theorem State.Accepts.tail {rest : List CreateStreamParams} {middle : State}
    (accepts : s.Accepts env sender (params :: rest)) (takes : env.TakesParts sender)
    (run : Runs (persistNewStream sender params.withFinalRate) env
      (s.pulled env.currentContractAddress sender params.depositAmount) id middle) :
    middle.Accepts env sender rest := by
  rcases List.forall_mem_cons.mp accepts.passes with ⟨passes, others⟩
  have nonneg : 0 ≤ params.depositAmount := (not_le.mp passes.deposit).le
  have pays := accepts.pays
  rw [totalDeposit_cons] at pays
  have first := pays.part takes accepts.sound nonneg (totalDeposit_nonneg others)
  have rest := (pays.rest takes nonneg (totalDeposit_nonneg others)).persisted takes run
  have moved := first.transfer.tokenBalances accepts.sound
  rcases (runs_persistNewStream sender).mp run with ⟨_, next, reservation, _, _, rfl⟩
  exact ⟨accepts.authorised, accepts.running, others, rest, moved⟩

/-- Pulling the sum first and then persisting the entries is creating them one by one. -/
theorem runs_createEach_of_persistEach (takes : env.TakesParts sender)
    (accepts : s.Accepts env sender streams)
    (run : Runs (persistEach sender streams) env
      (s.pulled env.currentContractAddress sender (totalDeposit streams)) ids s') :
    Runs (createEach sender streams) env s ids s' := by
  induction streams generalizing s ids with
  | nil =>
      rcases runs_pure.mp run with ⟨rfl, rfl⟩
      have unpaid : totalDeposit [] = 0 := rfl
      rw [unpaid, State.pulled_zero]
      exact runs_pure.mpr ⟨rfl, rfl⟩
  | cons params rest ih =>
      rcases List.forall_mem_cons.mp accepts.passes with ⟨passes, others⟩
      have nonneg : 0 ≤ params.depositAmount := (not_le.mp passes.deposit).le
      have pays := accepts.pays
      rw [totalDeposit_cons] at pays
      have first := pays.part takes accepts.sound nonneg (totalDeposit_nonneg others)
      rcases runs_persistEach_cons.mp run with ⟨id, _, newIds, persisted, each, rfl⟩
      rw [totalDeposit_cons, ← State.pulled_pulled, runs_persistNewStream_pulled] at persisted
      rcases persisted with ⟨middle, persisted, rfl⟩
      have created : Runs (createStream sender params) env s id middle :=
        runs_createStream.mpr ⟨accepts.authorised, accepts.running, passes,
          ⟨first.configured, first.allowance, first.transfer⟩, persisted⟩
      simp only [createEach, runs_bind, runs_pure]
      exact ⟨id, middle, created, newIds, _, ih (accepts.tail takes persisted) each, rfl, rfl⟩

theorem runs_createEach_append {earlier later : List CreateStreamParams} :
    Runs (createEach sender (earlier ++ later)) env s ids s' ↔
      ∃ first middle second, Runs (createEach sender earlier) env s first middle ∧
        Runs (createEach sender later) env middle second s' ∧ ids = first ++ second := by
  induction earlier generalizing s s' ids with
  | nil =>
      constructor
      · intro run
        exact ⟨[], s, ids, runs_pure.mpr ⟨rfl, rfl⟩, run, rfl⟩
      · rintro ⟨_, _, second, none, run, rfl⟩
        rcases runs_pure.mp none with ⟨rfl, rfl⟩
        exact run
  | cons params rest ih =>
      simp only [List.cons_append, createEach, runs_bind, runs_pure, ih]
      constructor
      · rintro ⟨id, created, single, _, _, ⟨first, middle, second, run, run', rfl⟩, rfl, rfl⟩
        exact ⟨id :: first, middle, second, ⟨id, created, single, first, _, run, rfl, rfl⟩, run',
          rfl⟩
      · rintro ⟨_, middle, second, ⟨id, created, single, first, _, run, rfl, rfl⟩, run', rfl⟩
        exact ⟨id, created, single, _, _, ⟨first, middle, second, run, run', rfl⟩, rfl, rfl⟩

/-- A batch that succeeds leaves the state and returns the ids that single calls for its entries
leave and return, in order. -/
theorem runs_createEach_of_createStreams (reached : Reachable address permitted now s)
    (takes : env.TakesParts sender) (run : Runs (createStreams sender streams) env s ids s') :
    Runs (createEach sender streams) env s ids s' := by
  rcases runs_createStreams.mp run with ⟨authorised, ⟨rfl, rfl, rfl⟩ | ⟨_, running, passes, _,
    ⟨configured, allowance, transfer⟩, each⟩⟩
  · exact runs_pure.mpr ⟨rfl, rfl⟩
  · have accepts : s.Accepts env sender streams :=
      ⟨authorised, running, passes, ⟨configured, allowance, transfer⟩, reached.tokenBalances⟩
    exact runs_createEach_of_persistEach takes accepts each

/-- In every reachable state, with a token that takes in parts what it takes at once: a batch that
succeeds leaves the state and returns the ids of single calls for its entries, in order; and a
batch with an entry whose call would fail, after the calls for those before it, fails and changes
nothing. -/
theorem batch_creates_each (reached : Reachable address permitted now s)
    (takes : env.TakesParts sender) :
    (∀ ids s', Runs (createStreams sender streams) env s ids s' →
      Runs (createEach sender streams) env s ids s') ∧
    ∀ earlier params later ids middle, streams = earlier ++ params :: later →
      Runs (createEach sender earlier) env s ids middle →
      (∀ id s', ¬ Runs (createStream sender params) env middle id s') →
      (∀ ids s', ¬ Runs (createStreams sender streams) env s ids s') ∧
        (createStreams sender streams).commit env s = s := by
  refine ⟨fun ids s' run => runs_createEach_of_createStreams reached takes run, ?_⟩
  rintro earlier params later before middle rfl run fails
  have failed :
      ∀ ids s', ¬ Runs (createStreams sender (earlier ++ params :: later)) env s ids s' := by
    intro ids s' batch
    have each := runs_createEach_of_createStreams reached takes batch
    rcases runs_createEach_append.mp each with ⟨_, found, _, run', rest, _⟩
    rcases run.unique run' with ⟨_, rfl⟩
    simp only [createEach, runs_bind] at rest
    rcases rest with ⟨id, next, single, _⟩
    exact fails id next single
  exact ⟨failed, commit_of_fails failed⟩

/-- A sender with two reserved ids left creates three streams for one recipient. -/
theorem batch_creates_each_reserved :
    let s := Script.run Sample.reserved Sample.genesis
    let streams := [Sample.params 1000 10 0 0, Sample.params 2000 10 0 0, Sample.params 3000 10 0 0]
    ∃ s', Runs (createEach Sample.sender streams) (Sample.env 1 0 0) s [0, 1, 3] s' ∧
      s'.balances Sample.contract = 7000 ∧ s'.recipientStreams Sample.recipient = [0, 1, 2, 3] := by
  intro s streams
  have reached : Reachable Sample.contract anyCall 0 s :=
    Sample.reachable_run Sample.ordered_reserved
  have takes : (Sample.env 1 0 0).TakesParts Sample.sender := fun _ _ _ _ _ _ _ _ _ _ => rfl
  have batch : Runs (createStreams Sample.sender streams) (Sample.env 1 0 0) s [0, 1, 3]
      ((createStreams Sample.sender streams).commit (Sample.env 1 0 0) s) := rfl
  refine ⟨_, (batch_creates_each reached takes).1 _ _ batch, by decide +kernel, by decide +kernel⟩

end Wallie.StreamContract
