import Wallie.Ledger.CreateRules
import Wallie.Ledger.RunInvariant
import Wallie.StreamContract.EntrypointWrites
import Wallie.StreamContract.Script

/-!
# Partial batches

A partial batch reports an entry that fails and goes on with the next. An entry
that the checks of the terms refuse leaves nothing behind. But the length of the
memo is checked after the deposit was pulled, and the deposit of an entry with a
memo that is too long stays with the contract.
-/

namespace Wallie.StreamContract

open Fallible

variable {address sender : Address} {permitted : State → Env → Call → Prop} {now : ℕ}
  {s s' middle next : State} {env : Env} {params : CreateStreamParams}
  {streams earlier : List CreateStreamParams} {result : CreateStreamResult}
  {results before : List CreateStreamResult}

/-- The entries that are reported as created. -/
def createdEntries : List CreateStreamParams → List CreateStreamResult → List CreateStreamParams
  | params :: streams, result :: results =>
      if result.success then params :: createdEntries streams results
      else createdEntries streams results
  | _, _ => []

/-- The batch comes to the entry `params` in the state `middle`, after the entries `earlier`,
reports `result` of it and leaves `next`. -/
structure ComesTo (env : Env) (s : State) (sender : Address) (streams : List CreateStreamParams)
    (results : List CreateStreamResult) (earlier : List CreateStreamParams)
    (before : List CreateStreamResult) (middle : State) (params : CreateStreamParams)
    (result : CreateStreamResult) (next : State) : Prop where
  entries : ∃ later, streams = earlier ++ params :: later
  reported : ∃ after, results = before ++ result :: after
  reached : Runs (createAllPartial sender env.timestamp earlier) env s before middle
  handled : Runs (createOnePartial sender env.timestamp params) env middle result next

/-- The sender pays for the entries that are created. The others change nothing, and what becomes
of an entry does not depend on those of them that come before it. -/
structure Isolates (env : Env) (s s' : State) (sender : Address)
    (streams : List CreateStreamParams) (results : List CreateStreamResult) : Prop where
  pays : s'.balances sender =
    s.balances sender - totalDeposit (createdEntries streams results)
  untouched : ∀ earlier before middle params result next,
    ComesTo env s sender streams results earlier before middle params result next →
      result.success = false → next = middle
  independent : ∀ earlier before middle params result next,
    ComesTo env s sender streams results earlier before middle params result next →
      Runs (createStreamsPartial sender (createdEntries earlier before ++ [params])) env s
        (before.filter CreateStreamResult.success ++ [result]) next

/-! ## The loop -/

theorem runs_createAllPartial_append {later : List CreateStreamParams} :
    Runs (createAllPartial sender now (earlier ++ later)) env s results s' ↔
      ∃ before middle after, Runs (createAllPartial sender now earlier) env s before middle ∧
        Runs (createAllPartial sender now later) env middle after s' ∧
        results = before ++ after := by
  induction earlier generalizing s s' results with
  | nil =>
      constructor
      · intro run
        exact ⟨[], s, results, runs_pure.mpr ⟨rfl, rfl⟩, run, rfl⟩
      · rintro ⟨_, _, after, none, run, rfl⟩
        rcases runs_pure.mp none with ⟨rfl, rfl⟩
        exact run
  | cons params rest ih =>
      simp only [List.cons_append, createAllPartial, runs_bind, runs_pure, ih]
      constructor
      · rintro ⟨result, next, handled, _, _, ⟨before, middle, after, run, run', rfl⟩, rfl, rfl⟩
        exact ⟨result :: before, middle, after, ⟨result, next, handled, before, _, run, rfl, rfl⟩,
          run', rfl⟩
      · rintro ⟨_, middle, after, ⟨result, next, handled, before, _, run, rfl, rfl⟩, run', rfl⟩
        exact ⟨result, next, handled, _, _, ⟨before, middle, after, run, run', rfl⟩, rfl, rfl⟩

theorem runs_createAllPartial_single :
    Runs (createAllPartial sender now [params]) env s results s' ↔
      ∃ result, Runs (createOnePartial sender now params) env s result s' ∧
        results = [result] := by
  simp only [createAllPartial, runs_bind, runs_pure]
  constructor
  · rintro ⟨result, _, handled, _, _, ⟨rfl, rfl⟩, rfl, rfl⟩
    exact ⟨result, handled, rfl⟩
  · rintro ⟨result, handled, rfl⟩
    exact ⟨result, s', handled, [], s', ⟨rfl, rfl⟩, rfl, rfl⟩

/-- It comes to each of them. -/
theorem exists_comesTo {later : List CreateStreamParams}
    (run : Runs (createAllPartial sender env.timestamp streams) env s results s')
    (split : streams = earlier ++ params :: later) :
    ∃ before middle result next,
      ComesTo env s sender streams results earlier before middle params result next := by
  rw [split, runs_createAllPartial_append] at run
  rcases run with ⟨before, middle, after, reached, rest, rfl⟩
  simp only [createAllPartial, runs_bind, runs_pure] at rest
  rcases rest with ⟨result, next, handled, others, _, _, rfl, _⟩
  exact ⟨before, middle, result, next, ⟨later, split⟩, ⟨others, rfl⟩, reached, handled⟩

/-- The cap on the rate and the configuration stay as they are. -/
theorem limits_of_createOnePartial
    (run : Runs (createOnePartial sender now params) env s result s') :
    s'.maxRatePerSecond = s.maxRatePerSecond ∧ s'.config = s.config := by
  cases createOnePartial_outcome run with
  | refused _ => exact ⟨rfl, rfl⟩
  | charged _ _ _ => exact ⟨rfl, rfl⟩
  | created _ _ persisted =>
      rcases (runs_persistNewStream sender).mp persisted with ⟨_, _, _, _, _, rfl⟩
      exact ⟨rfl, rfl⟩

theorem limits_of_createAllPartial
    (run : Runs (createAllPartial sender now streams) env s results s') :
    s'.maxRatePerSecond = s.maxRatePerSecond ∧ s'.config = s.config := by
  induction streams generalizing s results with
  | nil =>
      rcases runs_pure.mp run with ⟨-, rfl⟩
      exact ⟨rfl, rfl⟩
  | cons params rest ih =>
      simp only [createAllPartial, runs_bind, runs_pure] at run
      rcases run with ⟨_, middle, handled, _, _, others, -, rfl⟩
      rcases limits_of_createOnePartial handled with ⟨rate, config⟩
      rcases ih others with ⟨rate', config'⟩
      exact ⟨rate'.trans rate, config'.trans config⟩

/-! ## Isolation -/

/-- The memos of the entries that pass the checks of the terms can be stored. -/
def MemosFit (s : State) (sender : Address) (now : ℕ) (streams : List CreateStreamParams) : Prop :=
  ∀ params ∈ streams, params.withFinalRate.Passes s.maxRatePerSecond sender now → params.MemoFits

/-- Then an entry changes nothing, or it is created and the sender pays its deposit. -/
theorem isolated_of_createOnePartial
    (fits : params.withFinalRate.Passes s.maxRatePerSecond sender now → params.MemoFits)
    (other : sender ≠ env.currentContractAddress)
    (run : Runs (createOnePartial sender now params) env s result s') :
    result.success = false ∧ s' = s ∨
      result.success = true ∧
        s'.balances sender = s.balances sender - params.depositAmount := by
  cases createOnePartial_outcome run with
  | refused _ => exact Or.inl ⟨rfl, rfl⟩
  | charged passes _ unfit => exact absurd (fits passes) unfit
  | created _ _ persisted =>
      rcases (runs_persistNewStream sender).mp persisted with ⟨_, _, _, _, _, rfl⟩
      refine Or.inr ⟨rfl, ?_⟩
      exact movedBalances_debit other

/-- The created entries alone leave the same state, and the sender pays for them. -/
theorem isolated_of_createAllPartial (fits : MemosFit s sender now streams)
    (other : sender ≠ env.currentContractAddress)
    (run : Runs (createAllPartial sender now streams) env s results s') :
    s'.balances sender = s.balances sender - totalDeposit (createdEntries streams results) ∧
      Runs (createAllPartial sender now (createdEntries streams results)) env s
        (results.filter CreateStreamResult.success) s' := by
  induction streams generalizing s results with
  | nil =>
      rcases runs_pure.mp run with ⟨rfl, rfl⟩
      exact ⟨(sub_zero _).symm, runs_pure.mpr ⟨rfl, rfl⟩⟩
  | cons params rest ih =>
      rcases List.forall_mem_cons.mp fits with ⟨head, tail⟩
      simp only [createAllPartial, runs_bind, runs_pure] at run
      rcases run with ⟨result, next, handled, others, final, run, rfl, rfl⟩
      have rate := (limits_of_createOnePartial handled).1
      have tail' : MemosFit next sender now rest := by
        unfold MemosFit
        rwa [rate]
      rcases ih tail' run with ⟨paid, alone⟩
      rcases isolated_of_createOnePartial head other handled with
        ⟨failed, rfl⟩ | ⟨created, price⟩
      · rw [createdEntries, failed, List.filter_cons_of_neg (by simp [failed])]
        exact ⟨paid, alone⟩
      · rw [createdEntries, created, List.filter_cons_of_pos created]
        refine ⟨?_, ?_⟩
        · rw [if_pos rfl, totalDeposit_cons, paid, price, sub_sub]
        · simp only [if_true, createAllPartial, runs_bind, runs_pure]
          exact ⟨result, next, handled, _, _, alone, rfl, rfl⟩

/-- An entry that passes the checks and has a memo that is too long is charged for. -/
theorem memosFit_of_isolates (configured : s.config.isSome = true)
    (other : sender ≠ env.currentContractAddress)
    (run : Runs (createAllPartial sender env.timestamp streams) env s results s')
    (untouched : ∀ earlier before middle params result next,
      ComesTo env s sender streams results earlier before middle params result next →
        result.success = false → next = middle) :
    MemosFit s sender env.timestamp streams := by
  intro params member passes
  by_contra unfit
  rcases List.append_of_mem member with ⟨earlier, later, split⟩
  rcases exists_comesTo run split with ⟨before, middle, result, next, comes⟩
  rcases limits_of_createAllPartial comes.reached with ⟨rate, config⟩
  rw [← rate] at passes
  have untouched := untouched _ _ _ _ _ _ comes
  cases createOnePartial_outcome comes.handled with
  | refused refused =>
      rw [← config, refused passes] at configured
      cases configured
  | charged _ _ _ =>
      -- The deposit is positive, and the sender has paid it.
      have positive : 0 < params.depositAmount := not_le.mp passes.deposit
      have same : movedBalances middle.balances sender env.currentContractAddress
          params.depositAmount sender = middle.balances sender :=
        congrFun (congrArg State.balances (untouched rfl)) sender
      rw [movedBalances_debit other] at same
      omega
  | created _ _ persisted => exact unfit ((runs_persistNewStream sender).mp persisted).1

/-- An entry that is reported as failed changes nothing. -/
theorem untouched_of_memosFit (fits : MemosFit s sender env.timestamp streams)
    (other : sender ≠ env.currentContractAddress)
    (comes : ComesTo env s sender streams results earlier before middle params result next)
    (failed : result.success = false) : next = middle := by
  rcases comes.entries with ⟨later, rfl⟩
  have rate := (limits_of_createAllPartial comes.reached).1
  have fit := fits params (List.mem_append_right _ List.mem_cons_self)
  rw [← rate] at fit
  rcases isolated_of_createOnePartial fit other comes.handled with ⟨_, same⟩ | ⟨created, _⟩
  · exact same
  · rw [failed] at created
    cases created

/-- An entry has the outcome that it has after the created ones alone. -/
theorem independent_of_memosFit (fits : MemosFit s sender env.timestamp streams)
    (other : sender ≠ env.currentContractAddress)
    (comes : ComesTo env s sender streams results earlier before middle params result next) :
    Runs (createAllPartial sender env.timestamp (createdEntries earlier before ++ [params])) env s
      (before.filter CreateStreamResult.success ++ [result]) next := by
  rcases comes.entries with ⟨later, rfl⟩
  have fits' : MemosFit s sender env.timestamp earlier :=
    fun entry member => fits entry (List.mem_append_left _ member)
  have alone := (isolated_of_createAllPartial fits' other comes.reached).2
  refine runs_createAllPartial_append.mpr ⟨_, middle, [result], alone, ?_, rfl⟩
  exact runs_createAllPartial_single.mpr ⟨result, comes.handled, rfl⟩

/-- In every reachable state a partial batch isolates its failures exactly when the entries that
pass the checks of the terms have memos that can be stored. -/
theorem partial_batch_isolates_iff (reached : Reachable address permitted now s)
    (invocation : Invocation address)
    (run : Runs (createStreamsPartial sender streams) invocation.env s results s') :
    Isolates invocation.env s s' sender streams results ↔
      MemosFit s sender invocation.env.timestamp streams := by
  have configured : s.config.isSome = true := reached.book_wellFormed.initialised
  rcases runs_createStreamsPartial.mp run with ⟨authorised, running, all⟩
  have other : sender ≠ invocation.env.currentContractAddress := by
    rw [invocation.here]
    exact invocation.ne_of_auth authorised
  constructor
  · intro isolates
    exact memosFit_of_isolates configured other all isolates.untouched
  · intro fits
    refine ⟨(isolated_of_createAllPartial fits other all).1, ?_, ?_⟩
    · intro earlier before middle params result next comes failed
      exact untouched_of_memosFit fits other comes failed
    · intro earlier before middle params result next comes
      rcases comes.entries with ⟨later, rfl⟩
      have alone := independent_of_memosFit fits other comes
      exact runs_createStreamsPartial.mpr
        ⟨authorised, Or.inr (running.resolve_left (by simp)), alone⟩

namespace Sample

/-- Terms with a memo a byte too long. -/
def unfitParams : CreateStreamParams :=
  { Sample.params 1000 10 0 0 with memo := some (List.replicate 257 0) }

/-- A batch of the sender. -/
def partialBatch (streams : List CreateStreamParams) (valid : decide (u64.Contains (0 : ℕ) ∧
    u32.Contains (0 : ℕ) ∧ (Call.createStreamsPartial Sample.sender streams).WellTyped) = true) :
    Invocation contract :=
  invocation 1 0 0 (.createStreamsPartial Sample.sender streams) valid

end Sample

/-- The first entry deposits nothing and is refused; the second is created. -/
theorem partial_batch_isolates_iff_refused :
    let streams := [Sample.params 0 10 0 0, Sample.params 1000 10 0 0]
    let batch := Sample.partialBatch streams rfl
    ∃ results s', Runs (createStreamsPartial Sample.sender streams) batch.env Sample.genesis results
        s' ∧ results.map CreateStreamResult.success = [false, true] ∧
      Isolates batch.env Sample.genesis s' Sample.sender streams results := by
  intro streams batch
  have reached : Reachable Sample.contract anyCall 0 Sample.genesis := Sample.reachable_genesis _
  have answers : ((createStreamsPartial Sample.sender streams batch.env
      Sample.genesis).toOption.map fun outcome => outcome.1.map CreateStreamResult.success) =
        some [false, true] := by
    decide
  rcases Option.map_eq_some_iff.mp answers with ⟨⟨results, s'⟩, returned, reported⟩
  have run : Runs (createStreamsPartial Sample.sender streams) batch.env Sample.genesis results
      s' := runs_of_toOption returned
  refine ⟨results, s', run, reported, (partial_batch_isolates_iff reached batch run).mpr ?_⟩
  intro params member _ memo stored
  rcases List.mem_pair.mp member with rfl | rfl
  · cases stored
  · cases stored

/-- The entry with the long memo is reported as failed, and the sender has paid its deposit. -/
theorem not_always_partial_batch_isolates :
    ¬ ∀ address now s, Reachable address anyCall now s → ∀ (invocation : Invocation address) sender
      streams results s', now ≤ invocation.env.timestamp →
        Runs (createStreamsPartial sender streams) invocation.env s results s' →
          Isolates invocation.env s s' sender streams results := by
  intro always
  let batch := Sample.partialBatch [Sample.unfitParams] (Eq.refl true)
  have answers : ((createStreamsPartial Sample.sender [Sample.unfitParams] batch.env
      Sample.genesis).toOption.map fun outcome =>
        (outcome.1.map CreateStreamResult.success, outcome.2.balances Sample.sender)) =
          some ([false], 999000) := by
    decide +kernel
  rcases Option.map_eq_some_iff.mp answers with ⟨⟨results, s'⟩, returned, reported⟩
  have run : Runs (createStreamsPartial Sample.sender [Sample.unfitParams]) batch.env Sample.genesis
      results s' := runs_of_toOption returned
  have isolates := always _ _ _ (Sample.reachable_genesis _) batch _ _ _ _ le_rfl run
  rcases Prod.mk.inj reported with ⟨failed, balance⟩
  rcases List.map_eq_singleton_iff.mp failed with ⟨result, rfl, unsuccessful⟩
  have none_ : createdEntries [Sample.unfitParams] [result] = [] := by
    simp [createdEntries, unsuccessful]
  have pays := isolates.pays
  rw [none_, balance] at pays
  exact absurd pays (by decide)

end Wallie.StreamContract
