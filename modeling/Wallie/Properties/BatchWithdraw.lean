import Wallie.Ledger.AccrualView
import Wallie.Properties.PayoutPaths
import Wallie.StreamContract.TokenRules

/-!
# A batch withdraws from one stream after the other

A batch draws from each stream of its list what a withdrawal would draw in the
same ledger, and fails where a withdrawal fails. What it asks for whatever the
list are the signature of the recipient and a contract that is not stopped.
-/

namespace Wallie.StreamContract

open Fallible

variable {address : Address} {now id : ℕ} {s s' : State} {env : Env} {stream : Stream}
  {recipient : Address} {ids : List ℕ} {amount : ℤ} {noted : Option ℕ}

/-! ## The withdrawals one by one -/

/-- A withdrawal that draws nothing from a completed stream. -/
def withdrawOrSkip (streamId : ℕ) : Contract ℤ := do
  let stream ← loadStream streamId
  if stream.status = .completed then return 0 else withdraw streamId

def withdrawEach : List ℕ → Contract (List ℤ)
  | [] => return []
  | streamId :: rest => do
      let amount ← withdrawOrSkip streamId
      let amounts ← withdrawEach rest
      return amount :: amounts

/-! ## One withdrawal -/

/-- What is drawn from the stream out of `balance`. -/
def Stream.drawnOf (stream : Stream) (now : ℕ) (balance : ℤ) : ℤ :=
  if stream.Withholds now (stream.payable now balance) then 0 else stream.payable now balance

/-- The stream of a list, with what reachable states and the owner of the list grant. -/
structure Listed (env : Env) (recipient : Address) (s : State) (id : ℕ) (stream : Stream) :
    Prop where
  stored : s.streams id = some stream
  formed : stream.WellFormed id env.timestamp
  owned : stream.recipient = recipient
  rested : stream.status = .completed →
    stream.lastWithdrawLedger + minWithdrawIntervalLedgers ≤ env.sequence

/-- `amount` can be drawn from the stream in this ledger. -/
structure CanDraw (env : Env) (s : State) (stream : Stream) (amount : ℤ) : Prop where
  spaced : stream.lastWithdrawLedger + minWithdrawIntervalLedgers ≤ env.sequence
  unpaused : ¬ (stream.status = .paused ∧ ¬ stream.IsTerminal env.timestamp)
  amount_eq : amount = stream.drawnOf env.timestamp (s.balances env.currentContractAddress)
  allowed : 0 < amount →
    TransferAllowed env s env.currentContractAddress stream.recipient amount

/-- The state once `amount` was drawn from the stream. -/
def State.drawnBy (s : State) (env : Env) (id : ℕ) (stream : Stream) (amount : ℤ) : State :=
  if 0 < amount then s.paid env .batchWithdraw id stream stream.recipient amount else s

theorem Stream.drawnOf_pos {balance : ℤ} (positive : 0 < stream.drawnOf now balance) :
    ¬ stream.Withholds now (stream.payable now balance) := by
  intro withholds
  rw [Stream.drawnOf, if_pos withholds] at positive
  exact lt_irrefl 0 positive

theorem Stream.drawnOf_of_withholds {balance : ℤ}
    (withholds : stream.Withholds now (stream.payable now balance)) :
    stream.drawnOf now balance = 0 :=
  if_pos withholds

theorem Stream.drawnOf_of_pays {balance : ℤ}
    (pays : ¬ stream.Withholds now (stream.payable now balance)) :
    stream.drawnOf now balance = stream.payable now balance :=
  if_neg pays

/-- Nothing is drawn from a completed stream. -/
theorem Stream.WellFormed.drawnOf_of_completed {later : ℕ} (formed : stream.WellFormed id later)
    (completed : stream.status = .completed) (now : ℕ) (balance : ℤ) :
    stream.drawnOf now balance = 0 := by
  apply Stream.drawnOf_of_withholds
  have drained := formed.completed completed
  have entitled := formed.bounded.entitlement_le_deposit now
  have payable_le := min_le_left (stream.entitlement now - stream.withdrawnAmount) balance
  exact Or.inl (by unfold Stream.payable; omega)

/-- The amount of a batch after the dust rule is that of a withdrawal. -/
theorem dustFiltered_eq_drawnOf {balance : ℤ} (nonneg : 0 ≤ balance) :
    dustFiltered stream now
      (min (max (stream.entitlement now - stream.withdrawnAmount) 0) balance) =
        stream.drawnOf now balance := by
  have payable_eq : stream.payable now balance =
      min (stream.entitlement now - stream.withdrawnAmount) balance := rfl
  rcases le_or_gt (stream.payable now balance) 0 with nothing | positive
  · have zero : min (max (stream.entitlement now - stream.withdrawnAmount) 0) balance = 0 := by
      omega
    rw [zero, Stream.drawnOf_of_withholds (Or.inl nothing), dustFiltered, if_neg]
    exact fun blocked => absurd blocked.1 (lt_irrefl 0)
  · have same : min (max (stream.entitlement now - stream.withdrawnAmount) 0) balance =
        stream.payable now balance := by
      omega
    rw [same, dustFiltered]
    by_cases blocked : stream.DustBlocks now (stream.payable now balance)
    · rw [if_pos ⟨positive, blocked⟩, Stream.drawnOf_of_withholds (Or.inr blocked)]
    · have pays := not_or.mpr ⟨not_le.mpr positive, blocked⟩
      rw [if_neg fun both => blocked both.2, Stream.drawnOf_of_pays pays]

theorem Listed.total_fits {balance : ℤ} (listed : Listed env recipient s id stream)
    (positive : 0 < stream.drawnOf env.timestamp balance) :
    i128.Contains (stream.withdrawnAmount + stream.drawnOf env.timestamp balance) := by
  have payable_le :=
    min_le_left (stream.entitlement env.timestamp - stream.withdrawnAmount) balance
  have drawn : stream.drawnOf env.timestamp balance =
      min (stream.entitlement env.timestamp - stream.withdrawnAmount) balance :=
    Stream.drawnOf_of_pays (Stream.drawnOf_pos positive)
  have covered := listed.formed.bounded.entitlement_le_deposit env.timestamp
  have deposit_le := listed.formed.bounded.deposit_le
  have withdrawn_nonneg := listed.formed.withdrawn_nonneg
  have lower : i128.lower ≤ 0 := by decide
  exact ⟨by omega, by omega⟩

/-! ## Rounds -/

/-- One round of a batch. -/
theorem runs_batchWithdrawLoop_cons {rest : List ℕ} {results : List BatchWithdrawResult}
    (listed : Listed env recipient s id stream) (configured : s.config.isSome = true)
    (held : 0 ≤ s.balances env.currentContractAddress)
    (elsewhere : recipient ≠ env.currentContractAddress) (token : env.TokenDecidesAlone) :
    Runs (batchWithdrawLoop recipient env.timestamp (id :: rest)
        (s.balances env.currentContractAddress)) env s results s' ↔
      ∃ amount, CanDraw env s stream amount ∧ ∃ later,
        Runs (batchWithdrawLoop recipient env.timestamp rest
          ((s.drawnBy env id stream amount).balances env.currentContractAddress)) env
          (s.drawnBy env id stream amount) later s' ∧
        results = { streamId := id, amount } :: later := by
  simp only [batchWithdrawLoop, runs_bind, runs_loadStream, runs_rejectIf, runs_ask,
    runs_requireWithdrawInterval, listed.stored, Option.some.injEq, and_assoc, exists_and_left,
    exists_eq_left', exists_eq_left, exists_const, runs_batchWithdrawable listed.formed,
    dustFiltered_eq_drawnOf held, runs_ite, runs_plainI128, runs_saveStream,
    runs_reconcilePausedStreamCount, runs_reduceLiabilities, runs_pushToken, runs_publish,
    runs_publishCompletion, runs_pure]
  generalize drawn : stream.drawnOf env.timestamp (s.balances env.currentContractAddress) = amount
  have debit : movedBalances s.balances env.currentContractAddress stream.recipient amount
      env.currentContractAddress = s.balances env.currentContractAddress - amount :=
    movedBalances_debit (listed.owned ▸ elsewhere.symm)
  constructor
  · rintro ⟨-, last, spaced, unpaused,
      ⟨positive, -, -, allowed, later, _, next, rfl, rfl⟩ | ⟨nothing, later, _, next, rfl, rfl⟩⟩
    · refine ⟨amount, ⟨by omega, unpaused, drawn.symm, fun _ => ?_⟩, later, ?_, rfl⟩
      · exact allowed.of_same token rfl rfl
      · rw [State.drawnBy, if_pos positive]
        change Runs (batchWithdrawLoop _ _ _ (movedBalances _ _ _ _ _)) _ _ _ _
        rw [debit]
        exact next
    · refine ⟨amount, ⟨by omega, unpaused, drawn.symm, fun positive => ?_⟩, later, ?_, rfl⟩
      · exact absurd positive nothing
      · rw [State.drawnBy, if_neg nothing]
        exact next
  · rintro ⟨_, ⟨spaced, unpaused, rfl, allowed⟩, later, next, rfl⟩
    rw [drawn] at next allowed ⊢
    refine ⟨not_not.mpr listed.owned, by omega, by omega, unpaused, ?_⟩
    by_cases positive : 0 < amount
    · rw [State.drawnBy, if_pos positive] at next
      change Runs (batchWithdrawLoop _ _ _ (movedBalances _ _ _ _ _)) _ _ _ _ at next
      rw [debit] at next
      have fits := listed.total_fits (drawn.symm ▸ positive)
      rw [drawn] at fits
      exact Or.inl ⟨positive, fits, configured, (allowed positive).of_same token rfl rfl, later, _,
        next, rfl, rfl⟩
    · rw [State.drawnBy, if_neg positive] at next
      exact Or.inr ⟨positive, later, _, next, rfl, rfl⟩

/-- A withdrawal by itself does the same, but for the clock of the accrual. -/
theorem runs_withdraw_of_listed (listed : Listed env recipient s id stream)
    (unfinished : stream.status ≠ .completed) (configured : s.config.isSome = true)
    (running : s.globalEmergencyPaused = false) (authorised : env.auth recipient = true)
    (past : s.lastAccrualLedgerTimestamp.getD 0 ≤ env.timestamp)
    (token : env.TokenDecidesAlone) :
    Runs (withdraw id) env s amount s' ↔
      CanDraw env s stream amount ∧
        s' = (s.drawnBy env id stream amount).accrualRead stream env.timestamp := by
  constructor
  · intro run
    rcases runs_withdraw.mp run with ⟨record, drawable, outcome⟩
    obtain rfl : stream = record := Option.some.inj (listed.stored.symm.trans drawable.stored)
    have spaced := drawable.spaced
    rcases outcome with ⟨withholds, rfl, rfl⟩ | ⟨pays, rfl, -, allowed, rfl⟩
    · have nothing := Stream.drawnOf_of_withholds withholds
      exact ⟨⟨by omega, drawable.unpaused, nothing.symm,
        fun positive => absurd positive (lt_irrefl 0)⟩, rfl⟩
    · have drawn := Stream.drawnOf_of_pays pays
      have positive := not_le.mp (not_or.mp pays).1
      refine ⟨⟨by omega, drawable.unpaused, drawn.symm, fun _ => ?_⟩, ?_⟩
      · exact allowed.of_same token State.drawn_balances.symm State.drawn_allowances.symm
      · rw [State.drawnBy, if_pos positive, State.accrualRead_clock, State.accrualRead_clock]
        rfl
  · rintro ⟨draw, rfl⟩
    have spaced := draw.spaced
    refine runs_withdraw.mpr ⟨stream,
      { unfinished, running, configured
        stored := listed.stored
        authorised := listed.owned ▸ authorised
        spaced := by omega
        unpaused := draw.unpaused
        frozen := listed.formed.cancelledAt_iff.mp
        noted := fun _ => past
        fits := listed.formed.unpaid_fits env.timestamp }, ?_⟩
    by_cases withholds : stream.Withholds env.timestamp
        (stream.payable env.timestamp (s.balances env.currentContractAddress))
    · obtain rfl : amount = 0 := draw.amount_eq.trans (Stream.drawnOf_of_withholds withholds)
      exact Or.inl ⟨withholds, rfl, rfl⟩
    · have drawn := draw.amount_eq.trans (Stream.drawnOf_of_pays withholds)
      have positive : 0 < amount := drawn ▸ not_le.mp (not_or.mp withholds).1
      have fits := listed.total_fits (draw.amount_eq ▸ positive)
      rw [← draw.amount_eq] at fits
      refine Or.inr ⟨withholds, drawn, fits, ?_, ?_⟩
      · exact (draw.allowed positive).of_same token State.drawn_balances State.drawn_allowances
      · rw [State.drawnBy, if_pos positive, State.accrualRead_clock, State.accrualRead_clock]
        rfl

/-- From a completed stream a batch draws nothing either. -/
theorem Listed.canDraw_of_completed (listed : Listed env recipient s id stream)
    (completed : stream.status = .completed) : CanDraw env s stream amount ↔ amount = 0 := by
  have nothing := listed.formed.drawnOf_of_completed completed env.timestamp
  constructor
  · exact fun draw => draw.amount_eq.trans (nothing _)
  · rintro rfl
    exact ⟨listed.rested completed, by simp [completed], (nothing _).symm,
      fun positive => absurd positive (lt_irrefl 0)⟩

theorem runs_withdrawOrSkip (listed : Listed env recipient s id stream)
    (configured : s.config.isSome = true) (running : s.globalEmergencyPaused = false)
    (authorised : env.auth recipient = true)
    (past : s.lastAccrualLedgerTimestamp.getD 0 ≤ env.timestamp)
    (token : env.TokenDecidesAlone) :
    Runs (withdrawOrSkip id) env s amount s' ↔
      CanDraw env s stream amount ∧
        s' = (s.drawnBy env id stream amount).accrualRead stream env.timestamp := by
  simp only [withdrawOrSkip, runs_bind, runs_loadStream, listed.stored, Option.some.injEq,
    and_assoc, exists_and_left, exists_eq_left', exists_eq_left, runs_ite, runs_pure]
  by_cases completed : stream.status = .completed
  · have unread : s.accrualRead stream env.timestamp = s :=
      if_neg fun live => live.not_completed completed
    rw [listed.canDraw_of_completed completed]
    simp only [completed, true_and, not_true_eq_false, false_and, or_false]
    constructor
    · rintro ⟨rfl, rfl⟩
      exact ⟨rfl, unread.symm⟩
    · rintro ⟨rfl, rfl⟩
      exact ⟨rfl, unread⟩
  · simp only [completed, false_and, false_or, not_false_eq_true, true_and]
    exact runs_withdraw_of_listed listed completed configured running authorised past token

/-! ## Lists -/

/-- The contract runs, and the list has streams of `recipient` that are not completed in this
ledger, each once. -/
structure Ready (env : Env) (recipient : Address) (ids : List ℕ) (s : State) : Prop where
  configured : s.config.isSome = true
  running : s.globalEmergencyPaused = false
  balances : TokenBalances s.balances
  unique : ids.Nodup
  listed : ∀ id ∈ ids, ∃ stream, Listed env recipient s id stream

theorem CanDraw.of_same (draw : CanDraw env s stream amount) (token : env.TokenDecidesAlone)
    (balances : s'.balances = s.balances) (allowances : s'.allowances = s.allowances) :
    CanDraw env s' stream amount where
  spaced := draw.spaced
  unpaused := draw.unpaused
  amount_eq := balances ▸ draw.amount_eq
  allowed := fun positive => (draw.allowed positive).of_same token balances allowances

theorem State.drawnBy_clock :
    State.drawnBy { s with lastAccrualLedgerTimestamp := noted } env id stream amount =
      { s.drawnBy env id stream amount with lastAccrualLedgerTimestamp := noted } := by
  unfold State.drawnBy
  split <;> rfl

/-- A draw leaves the streams that follow on the list alone. -/
theorem Ready.next {rest : List ℕ} (ready : Ready env recipient (id :: rest) s)
    (listed : Listed env recipient s id stream) (draw : CanDraw env s stream amount) :
    Ready env recipient rest (s.drawnBy env id stream amount) := by
  rcases List.nodup_cons.mp ready.unique with ⟨fresh, unique⟩
  unfold State.drawnBy
  split
  · next positive =>
      refine ⟨ready.configured, ready.running, ?_, unique, fun other member => ?_⟩
      · exact (draw.allowed positive).tokenBalances ready.balances
      · rcases ready.listed other (List.mem_cons_of_mem _ member) with ⟨record, listed'⟩
        refine ⟨record, { listed' with stored := ?_ }⟩
        have apart : other ≠ stream.streamId := by
          rw [listed.formed.streamId]
          exact fun same => fresh (same ▸ member)
        exact (Function.update_of_ne apart _ _).trans listed'.stored
  · exact ⟨ready.configured, ready.running, ready.balances, unique, fun other member =>
      ready.listed other (List.mem_cons_of_mem _ member)⟩

/-- The clock of the accrual is no part of what a withdrawal by itself rests on. -/
theorem Ready.runs_withdrawOrSkip {rest : List ℕ} (ready : Ready env recipient (id :: rest) s)
    (listed : Listed env recipient s id stream) (authorised : env.auth recipient = true)
    (past : noted.getD 0 ≤ env.timestamp) (token : env.TokenDecidesAlone) :
    Runs (withdrawOrSkip id) env { s with lastAccrualLedgerTimestamp := noted } amount s' ↔
      CanDraw env s stream amount ∧
        s' = { s.drawnBy env id stream amount with
          lastAccrualLedgerTimestamp := if stream.Live then some env.timestamp else noted } := by
  have listed' : Listed env recipient { s with lastAccrualLedgerTimestamp := noted } id stream :=
    { listed with }
  rw [StreamContract.runs_withdrawOrSkip listed' ready.configured ready.running authorised past
    token, State.drawnBy_clock, State.accrualRead_clock]
  exact and_congr_left fun _ =>
    ⟨fun draw => draw.of_same token rfl rfl, fun draw => draw.of_same token rfl rfl⟩

/-- A withdrawal moves the clock of the accrual to the present, or not at all. -/
theorem read_past (stream : Stream) (past : noted.getD 0 ≤ now) :
    (if stream.Live then some now else noted).getD 0 ≤ now := by
  split
  · exact le_rfl
  · exact past

/-- What a batch draws is drawn by withdrawals one by one. -/
theorem withdrawEach_of_batchWithdrawLoop {results : List BatchWithdrawResult}
    (ready : Ready env recipient ids s) (authorised : env.auth recipient = true)
    (elsewhere : recipient ≠ env.currentContractAddress) (past : noted.getD 0 ≤ env.timestamp)
    (token : env.TokenDecidesAlone)
    (run : Runs (batchWithdrawLoop recipient env.timestamp ids
      (s.balances env.currentContractAddress)) env s results s') :
    ∃ amounts noted', results = List.zipWith BatchWithdrawResult.mk ids amounts ∧
      Runs (withdrawEach ids) env { s with lastAccrualLedgerTimestamp := noted } amounts
        { s' with lastAccrualLedgerTimestamp := noted' } := by
  induction ids generalizing s results noted with
  | nil =>
      rcases runs_pure.mp run with ⟨rfl, rfl⟩
      exact ⟨[], noted, rfl, runs_pure.mpr ⟨rfl, rfl⟩⟩
  | cons id rest ih =>
      rcases ready.listed id List.mem_cons_self with ⟨stream, listed⟩
      have held := (ready.balances env.currentContractAddress).1
      rcases (runs_batchWithdrawLoop_cons listed ready.configured held elsewhere token).mp run with
        ⟨amount, draw, later, next, rfl⟩
      rcases ih (ready.next listed draw) (read_past stream past) next with
        ⟨amounts, noted', rfl, each⟩
      refine ⟨amount :: amounts, noted', rfl, ?_⟩
      have first := (ready.runs_withdrawOrSkip listed authorised past token).mpr ⟨draw, rfl⟩
      simp only [withdrawEach, runs_bind, runs_pure]
      exact ⟨amount, _, first, amounts, _, each, rfl, rfl⟩

/-- And the other way round. -/
theorem batchWithdrawLoop_of_withdrawEach {amounts : List ℤ} (ready : Ready env recipient ids s)
    (authorised : env.auth recipient = true) (elsewhere : recipient ≠ env.currentContractAddress)
    (past : noted.getD 0 ≤ env.timestamp) (token : env.TokenDecidesAlone)
    (run : Runs (withdrawEach ids) env { s with lastAccrualLedgerTimestamp := noted } amounts s') :
    ∃ results after, Runs (batchWithdrawLoop recipient env.timestamp ids
      (s.balances env.currentContractAddress)) env s results after := by
  induction ids generalizing s amounts noted with
  | nil => exact ⟨[], s, runs_pure.mpr ⟨rfl, rfl⟩⟩
  | cons id rest ih =>
      simp only [withdrawEach, runs_bind, runs_pure] at run
      rcases run with ⟨amount, _, first, amounts, _, each, -, rfl⟩
      rcases ready.listed id List.mem_cons_self with ⟨stream, listed⟩
      rcases (ready.runs_withdrawOrSkip listed authorised past token).mp first with ⟨draw, rfl⟩
      have held := (ready.balances env.currentContractAddress).1
      rcases ih (ready.next listed draw) (read_past stream past) each with ⟨results, after, next⟩
      exact ⟨_, after, (runs_batchWithdrawLoop_cons listed ready.configured held elsewhere
        token).mpr ⟨amount, draw, results, next, rfl⟩⟩

/-! ## Batches -/

/-- `recipient` asks in a reachable state for a batch of streams of its own, each listed once. -/
structure Batching (now : ℕ) (s : State) (invocation : Invocation address) (recipient : Address)
    (ids : List ℕ) : Prop where
  reached : Reachable address anyCall now s
  order : now ≤ invocation.env.timestamp
  batch : invocation.call = .batchWithdraw recipient ids
  unique : ids.Nodup
  owned : ∀ id ∈ ids, ∃ stream, s.streams id = some stream ∧ stream.recipient = recipient
  token : invocation.env.TokenDecidesAlone

/-- The completed streams of the list were last drawn in earlier ledgers. -/
def State.Rested (s : State) (env : Env) (ids : List ℕ) : Prop :=
  ∀ id ∈ ids, ∀ stream, s.streams id = some stream → stream.status = .completed →
    stream.lastWithdrawLedger + minWithdrawIntervalLedgers ≤ env.sequence

/-- The withdrawals one by one all succeed. -/
def State.EachSucceeds (s : State) (env : Env) (ids : List ℕ) : Prop :=
  ∃ amounts each, Runs (withdrawEach ids) env s amounts each

/-- A batch that may begin goes through its list. -/
theorem Ready.runs_batchWithdraw {results : List BatchWithdrawResult}
    (ready : Ready env recipient ids s)
    (past : s.lastAccrualLedgerTimestamp.getD 0 ≤ env.timestamp) :
    Runs (batchWithdraw recipient ids) env s results s' ↔
      env.auth recipient = true ∧
        Runs (batchWithdrawLoop recipient env.timestamp ids
          (s.balances env.currentContractAddress)) env
          { s with lastAccrualLedgerTimestamp := some env.timestamp } results s' := by
  rw [Wallie.StreamContract.runs_batchWithdraw]
  simp only [ready.running, ready.configured, ready.unique, past, true_and]

theorem Ready.of_clock (ready : Ready env recipient ids s) (noted : Option ℕ) :
    Ready env recipient ids { s with lastAccrualLedgerTimestamp := noted } := by
  refine ⟨ready.configured, ready.running, ready.balances, ready.unique, fun id member => ?_⟩
  rcases ready.listed id member with ⟨stream, listed⟩
  exact ⟨stream, { listed with }⟩

namespace Batching

variable {invocation : Invocation address}

theorem ready (batching : Batching now s invocation recipient ids)
    (rested : s.Rested invocation.env ids) (running : s.globalEmergencyPaused = false) :
    Ready invocation.env recipient ids s := by
  have formed := batching.reached.book_wellFormed.mono batching.order
  refine ⟨formed.initialised, running, batching.reached.tokenBalances, batching.unique,
    fun id member => ?_⟩
  rcases batching.owned id member with ⟨stream, stored, owned⟩
  exact ⟨stream, stored, formed.records id stream stored, owned, rested id member stream stored⟩

theorem past (batching : Batching now s invocation recipient ids) :
    s.lastAccrualLedgerTimestamp.getD 0 ≤ invocation.env.timestamp :=
  batching.reached.noted_le.trans batching.order

theorem elsewhere (authorised : invocation.env.auth recipient = true) :
    recipient ≠ invocation.env.currentContractAddress := by
  rw [invocation.here]
  exact invocation.ne_of_auth authorised

/-- A batch that succeeds pays what withdrawals one by one pay. -/
theorem each_of_runs {results : List BatchWithdrawResult}
    (batching : Batching now s invocation recipient ids) (rested : s.Rested invocation.env ids)
    (run : Runs (batchWithdraw recipient ids) invocation.env s results s') :
    (invocation.env.auth recipient = true ∧ s.globalEmergencyPaused = false) ∧
      ∃ amounts each, results = List.zipWith BatchWithdrawResult.mk ids amounts ∧
        Runs (withdrawEach ids) invocation.env s amounts each ∧ each.SameButClock s' := by
  have running : s.globalEmergencyPaused = false := (runs_batchWithdraw.mp run).1
  have ready := batching.ready rested running
  rcases (ready.runs_batchWithdraw batching.past).mp run with ⟨authorised, loop⟩
  rcases withdrawEach_of_batchWithdrawLoop
    (ready.of_clock (some invocation.env.timestamp)) authorised (elsewhere authorised)
    batching.past batching.token loop with ⟨amounts, noted, listed, each⟩
  exact ⟨⟨authorised, running⟩, amounts, _, listed, each, s'.lastAccrualLedgerTimestamp, rfl⟩

/-- Where withdrawals one by one succeed, a batch does. -/
theorem runs_of_each (batching : Batching now s invocation recipient ids)
    (rested : s.Rested invocation.env ids) (authorised : invocation.env.auth recipient = true)
    (running : s.globalEmergencyPaused = false) (each : s.EachSucceeds invocation.env ids) :
    ∃ results s', Runs (batchWithdraw recipient ids) invocation.env s results s' := by
  rcases each with ⟨amounts, each, run⟩
  have ready := batching.ready rested running
  rcases batchWithdrawLoop_of_withdrawEach (ready.of_clock (some invocation.env.timestamp))
    authorised (elsewhere authorised) batching.past batching.token run with ⟨results, s', loop⟩
  exact ⟨results, s', (ready.runs_batchWithdraw batching.past).mpr ⟨authorised, loop⟩⟩

end Batching

/-- In every reachable state a batch of streams that are not completed in this ledger does what
withdrawals one by one do, for a recipient that authorises it and a contract that is not stopped. -/
theorem batch_withdraw_as_each {invocation : Invocation address}
    (batching : Batching now s invocation recipient ids) (rested : s.Rested invocation.env ids) :
    let after := invocation.call.run.commit invocation.env s
    (invocation.call.Succeeds invocation.env s ↔
      (invocation.env.auth recipient = true ∧ s.globalEmergencyPaused = false) ∧
        s.EachSucceeds invocation.env ids) ∧
    (invocation.call.Succeeds invocation.env s → ∃ amounts each,
      Runs (batchWithdraw recipient ids) invocation.env s
        (List.zipWith BatchWithdrawResult.mk ids amounts) after ∧
      Runs (withdrawEach ids) invocation.env s amounts each ∧ each.SameButClock after) ∧
    (¬ invocation.call.Succeeds invocation.env s → after = s) := by
  intro after
  have batches : ∀ {s'}, Runs invocation.call.run invocation.env s () s' →
      ∃ results, Runs (batchWithdraw recipient ids) invocation.env s results s' := by
    intro s' run
    rw [batching.batch] at run
    exact runs_effect.mp run
  refine ⟨⟨?_, ?_⟩, ?_, ?_⟩
  · rintro ⟨s', run⟩
    rcases batches run with ⟨results, batch⟩
    rcases batching.each_of_runs rested batch with ⟨granted, amounts, each, -, each', -⟩
    exact ⟨granted, amounts, each, each'⟩
  · rintro ⟨⟨authorised, running⟩, each⟩
    rcases batching.runs_of_each rested authorised running each with ⟨results, s', batch⟩
    refine ⟨s', ?_⟩
    rw [batching.batch]
    exact runs_bind.mpr ⟨results, s', batch, runs_pure.mpr ⟨rfl, rfl⟩⟩
  · rintro ⟨s', run⟩
    rcases batches run with ⟨results, batch⟩
    rcases batching.each_of_runs rested batch with ⟨-, amounts, each, rfl, each', same⟩
    have committed : after = s' := commit_of_runs run
    rw [committed]
    exact ⟨amounts, each, batch, each', same⟩
  · exact fun failed => commit_of_fails fun _ s' run => failed ⟨s', run⟩

namespace Sample

/-- The recipient asks for a batch of the streams of the list. -/
def batching (key timestamp sequence : ℕ) (ids : List ℕ) (valid : decide (u64.Contains timestamp ∧
    u32.Contains sequence ∧ (Call.batchWithdraw Sample.recipient ids).WellTyped) = true) :
    Invocation contract :=
  invocation key timestamp sequence (.batchWithdraw Sample.recipient ids) valid

/-- After the first of two streams was drained, the recipient asks for a batch of them. -/
theorem batching_drained {timestamp sequence : ℕ} {ids : List ℕ}
    {valid : decide (u64.Contains timestamp ∧ u32.Contains sequence ∧
      (Call.batchWithdraw Sample.recipient ids).WellTyped) = true}
    (order : 100 ≤ timestamp) (unique : ids.Nodup) (among : ids ⊆ [0, 1]) :
    Batching 100 (Script.run drained genesis) (batching 2 timestamp sequence ids valid)
      Sample.recipient ids := by
  have mine : ∀ id ∈ [0, 1], ((Script.run drained genesis).streams id).map Stream.recipient =
      some Sample.recipient := by
    decide
  exact
    { order, unique
      reached := reachable_run ordered_drained
      batch := rfl
      owned := fun id member => Option.map_eq_some_iff.mp (mine id (among member))
      token := fun _ _ _ _ _ _ _ => rfl }

/-- The admin stops the contract. -/
def stopping : Invocation contract :=
  invocation 0 0 0 (.setGlobalEmergencyPaused true) (Eq.refl true)

end Sample

/-- A ledger after the first of two streams was drained, a batch of both pays the second. -/
theorem batch_withdraw_as_each_drained :
    let s := Script.run Sample.drained Sample.genesis
    let batch := Sample.batching 2 150 2 [0, 1] rfl
    ∃ each, Runs (withdrawEach [0, 1]) batch.env s [0, 10000] each ∧
      each.SameButClock (batch.call.run.commit batch.env s) := by
  intro s batch
  have earlier : ∀ id ∈ [0, 1], (s.streams id).map (fun stream =>
      decide (stream.lastWithdrawLedger + minWithdrawIntervalLedgers ≤ 2)) = some true := by
    decide
  have batching : Batching 100 s batch Sample.recipient [0, 1] :=
    Sample.batching_drained (by decide) (by decide) (List.Subset.refl _)
  have rested : s.Rested batch.env [0, 1] := by
    intro id member stream stored _
    have noted := earlier id member
    rw [stored, Option.map_some, Option.some.injEq, decide_eq_true_eq] at noted
    exact noted
  have succeeds : batch.call.Succeeds batch.env s := by
    decide
  rcases (batch_withdraw_as_each batching rested).2.1 succeeds with
    ⟨amounts, each, -, run, same⟩
  have drawn : (withdrawEach [0, 1] batch.env s).toOption.map Prod.fst = some [0, 10000] := by
    decide
  rw [run] at drawn
  cases drawn
  exact ⟨each, run, same⟩

/-- The call succeeds exactly when the withdrawals one by one do. -/
def Invocation.SucceedsAsEach (invocation : Invocation address) (s : State) (ids : List ℕ) : Prop :=
  invocation.call.Succeeds invocation.env s ↔ s.EachSucceeds invocation.env ids

/-- No withdrawal at all succeeds unsigned and while the contract is stopped. -/
theorem Invocation.not_succeedsAsEach_nil {invocation : Invocation address}
    (failed : ¬ invocation.call.Succeeds invocation.env s) : ¬ invocation.SucceedsAsEach s [] :=
  fun agrees => failed (agrees.mpr ⟨[], s, runs_pure.mpr ⟨rfl, rfl⟩⟩)

theorem State.rested_nil : s.Rested env [] :=
  fun _ member => absurd member List.not_mem_nil

theorem Batching.nil {invocation : Invocation address} (reached : Reachable address anyCall now s)
    (order : now ≤ invocation.env.timestamp) (batch : invocation.call = .batchWithdraw recipient [])
    (token : invocation.env.TokenDecidesAlone) : Batching now s invocation recipient [] where
  reached := reached
  order := order
  batch := batch
  unique := List.nodup_nil
  owned := fun _ member => absurd member List.not_mem_nil
  token := token

/-- Without the signature of the recipient, or while the contract is stopped, a batch of no stream
fails. And a stream that was completed in this ledger stops a batch. -/
theorem not_always_batch_withdraw_as_each :
    (¬ ∀ now s (invocation : Invocation Sample.contract) recipient ids,
      Batching now s invocation recipient ids → s.Rested invocation.env ids →
        s.globalEmergencyPaused = false → invocation.SucceedsAsEach s ids) ∧
    (¬ ∀ now s (invocation : Invocation Sample.contract) recipient ids,
      Batching now s invocation recipient ids → s.Rested invocation.env ids →
        invocation.env.auth recipient = true → invocation.SucceedsAsEach s ids) ∧
    ¬ ∀ now s (invocation : Invocation Sample.contract) recipient ids,
      Batching now s invocation recipient ids → invocation.env.auth recipient = true →
        s.globalEmergencyPaused = false → invocation.SucceedsAsEach s ids := by
  refine ⟨fun agrees => ?_, fun agrees => ?_, fun agrees => ?_⟩
  · let unsigned := Sample.batching 3 0 0 [] rfl
    have batching : Batching 0 Sample.genesis unsigned Sample.recipient [] :=
      .nil (Sample.reachable_genesis anyCall) le_rfl rfl fun _ _ _ _ _ _ _ => rfl
    have failed : ¬ unsigned.call.Succeeds unsigned.env Sample.genesis := by
      decide
    exact Invocation.not_succeedsAsEach_nil failed (agrees _ _ _ _ _ batching State.rested_nil rfl)
  · let stopped := Script.run [Sample.stopping] Sample.genesis
    let batch := Sample.batching 2 0 0 [] rfl
    have reached : Reachable Sample.contract anyCall 0 stopped :=
      (Sample.reachable_genesis anyCall).invoke Sample.stopping le_rfl trivial
    have batching : Batching 0 stopped batch Sample.recipient [] :=
      .nil reached le_rfl rfl fun _ _ _ _ _ _ _ => rfl
    have failed : ¬ batch.call.Succeeds batch.env stopped := by
      decide
    have signed : batch.env.auth Sample.recipient = true := by
      decide
    exact Invocation.not_succeedsAsEach_nil failed
      (agrees _ _ _ _ _ batching State.rested_nil signed)
  · let s := Script.run Sample.drained Sample.genesis
    let batch := Sample.batching 2 100 1 [0] rfl
    have batching : Batching 100 s batch Sample.recipient [0] :=
      Sample.batching_drained le_rfl (List.nodup_singleton 0) (by simp)
    have skipped : (withdrawEach [0] batch.env s).toOption.isSome = true := by
      decide
    have each : s.EachSucceeds batch.env [0] := by
      rcases Option.isSome_iff_exists.mp skipped with ⟨⟨amounts, each⟩, returned⟩
      exact ⟨amounts, each, runs_of_toOption returned⟩
    have tooFrequent : ¬ batch.call.Succeeds batch.env s := by
      decide
    have running : s.globalEmergencyPaused = false := by
      decide
    have alike := agrees _ _ batch _ _ batching (by decide) running
    exact tooFrequent (alike.mpr each)

end Wallie.StreamContract
