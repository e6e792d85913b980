import Wallie.Ledger.CreateRules

/-!
# Creations on the book

Every stream is created on validated terms under a fresh id, after its deposit
has arrived. A batch pulls its deposits together before it persists the streams;
on the book each deposit arrives with its stream, so the states of the batch are
viewed without the deposits that no stream stands for yet.
-/

namespace Wallie.StreamContract

open Fallible

variable {env : Env} {s middle s' : State} {id now : ℕ} {sender : Address} {done : Unit}
  {params : CreateStreamParams}

/-- Terms that pass the checks are valid on the book. -/
theorem CreateStreamParams.Passes.valid {maxRate : ℤ} (passes : params.Passes maxRate sender now)
    (deposit_le : params.depositAmount ≤ i128.upper) : params.Valid sender now where
  deposit_pos := not_le.mp passes.deposit
  deposit_le
  rate_of_linear := fun linear => not_le.mp fun stopped => passes.rate ⟨linear, stopped⟩
  rate_of_cliffOnly := fun cliffOnly =>
    Decidable.not_not.mp fun moving => passes.rateless ⟨cliffOnly, moving⟩
  sender_ne := passes.distinct
  start_lt_end := not_le.mp passes.ordered
  now_le_start := not_lt.mp passes.future
  start_le_cliff := not_lt.mp (not_or.mp passes.cliff).1
  cliff_le_end := not_lt.mp (not_or.mp passes.cliff).2
  covered := fun linear => not_lt.mp fun short => passes.covered ⟨linear, short⟩

/-! ## Deposits that no stream stands for yet -/

/-- The state with `amount` of the tokens of the contract left out of account. -/
def State.withheld (s : State) (address : Address) (amount : ℤ) : State :=
  { s with balances := Function.update s.balances address (s.balances address - amount) }

theorem book_withheld (s : State) (address : Address) (amount : ℤ) :
    (s.withheld address amount).book address =
      { s.book address with vault := s.balances address - amount } := by
  have same : State.SameAccounts s (s.withheld address amount) :=
    ⟨rfl, rfl, rfl, rfl, rfl, rfl, rfl, rfl, rfl⟩
  rw [same.book]
  simp [State.withheld]

theorem book_withheld_zero (s : State) (address : Address) :
    (s.withheld address 0).book address = s.book address := by
  rw [book_withheld, sub_zero]
  rfl

theorem sameAccounts_pulled (s : State) (address source : Address) (amount : ℤ) :
    State.SameAccounts s (s.pulled address source amount) :=
  ⟨rfl, rfl, rfl, rfl, rfl, rfl, rfl, rfl, rfl⟩

/-- What was pulled for streams to come does not count yet. -/
theorem book_withheld_pulled {address source : Address} {amount : ℤ} (other : address ≠ source) :
    ((s.pulled address source amount).withheld address amount).book address =
      s.book address := by
  rw [book_withheld, (sameAccounts_pulled s address source amount).book]
  simp [State.pulled, movedBalances_destination other, State.book]

/-- Amounts withheld from the vault do not matter to the allocation of ids. -/
theorem allocates_withheld {address : Address} {amount : ℤ} {nextStreamId : ℕ}
    {idReservation : Address → Option IdReservation}
    (allocates : (s.book address).Allocates sender id nextStreamId idReservation) :
    ((s.withheld address amount).book address).Allocates sender id nextStreamId idReservation := by
  cases allocates with
  | counter unreserved => exact .counter unreserved
  | reserved held => exact .reserved held

/-- A creation, or a deposit that arrives without a stream. -/
@[simp]
def Creates (action : Action) : Prop :=
  (∃ id deposit, action = .create id deposit) ∨ action = .receive

/-- A deposit that was pulled and stays without a stream. -/
theorem receive_of_pulled {source : Address} {amount : ℤ} (nonneg : 0 ≤ amount)
    (other : env.currentContractAddress ≠ source) :
    Refines env Creates s (s.pulled env.currentContractAddress source amount) := by
  refine .single (Or.inr rfl) ?_
  rw [(sameAccounts_pulled s env.currentContractAddress source amount).book]
  refine .receive ?_
  simpa [State.pulled, movedBalances_destination other, State.book] using nonneg

/-- Persisting a stream takes the deposit of the stream into account. -/
theorem persisted_refines (rest : ℤ) (run : Runs (persistNewStream sender params) env s id s')
    (valid : params.Valid sender env.timestamp) :
    Refines env Creates
      (s.withheld env.currentContractAddress (params.depositAmount + rest))
      (s'.withheld env.currentContractAddress rest) := by
  rcases (runs_persistNewStream env.currentContractAddress).mp run with
    ⟨_, nextStreamId, idReservation, allocates, _, final⟩
  have deposited : ∀ key,
      s'.deposited key = s.deposited key + if id = key then params.depositAmount else 0 := by
    intro key
    rw [final]
    simp [State.withIndex, State.persisted, State.deposited, State.fundings, createdEvent,
      Event.funding, newStream]
  have total : s'.totalDeposited = s.totalDeposited + params.depositAmount := by
    rw [final]
    simp [State.withIndex, State.persisted, State.totalDeposited, State.fundings, createdEvent,
      Event.funding, newStream]
  have created : (s'.withheld env.currentContractAddress rest).book env.currentContractAddress =
      ((s.withheld env.currentContractAddress (params.depositAmount + rest)).book
        env.currentContractAddress).created (newStream id sender params) nextStreamId
        idReservation (s.balances env.currentContractAddress - rest) := by
    rw [book_withheld, book_withheld]
    simp only [State.book, Book.created, State.update_add deposited, total]
    rw [final]
    rfl
  refine .single (Or.inl ⟨id, params.depositAmount, rfl⟩) ?_
  rw [created]
  refine .create (allocates_withheld allocates) valid ?_
  rw [book_withheld]
  dsimp only
  omega

theorem Creates.free (action : Action) (found book : Book) (creates : Creates action) :
    action.ActsOn found book := by
  rcases creates with ⟨_, _, rfl⟩ | rfl
  · trivial
  · trivial

/-- The deposit of one stream is pulled and the stream persisted. -/
theorem persistNewStream_refines (other : env.currentContractAddress ≠ sender)
    (run : Runs (persistNewStream sender params) env
      (s.pulled env.currentContractAddress sender params.depositAmount) id s')
    (valid : params.Valid sender env.timestamp) : Refines env Creates s s' := by
  have refines := persisted_refines 0 run valid
  rw [add_zero] at refines
  exact refines.congr (book_withheld_pulled other).symm (book_withheld_zero s' _).symm

theorem ne_of_authorised {address : Address} (authorised : env.auth sender = true)
    (noSelfAuth : env.auth address = false) : address ≠ sender := by
  rintro rfl
  simp [authorised] at noSelfAuth

/-! ## One stream -/

theorem createStream_refines (run : Runs (createStream sender params) env s id s')
    (deposit_le : params.depositAmount ≤ i128.upper)
    (noSelfAuth : env.auth env.currentContractAddress = false) : Refines env Creates s s' := by
  rcases runs_createStream.mp run with ⟨authorised, _, passes, _, persisted⟩
  exact persistNewStream_refines (ne_of_authorised authorised noSelfAuth) persisted
    (passes.valid deposit_le)

theorem createStreamRelative_refines {rel : CreateStreamRelativeParams}
    (run : Runs (createStreamRelative sender rel) env s id s')
    (deposit_le : rel.depositAmount ≤ i128.upper)
    (noSelfAuth : env.auth env.currentContractAddress = false) : Refines env Creates s s' := by
  rcases createStreamRelative_cases run with ⟨params, deposit, created⟩
  exact createStream_refines created (deposit ▸ deposit_le) noSelfAuth

theorem createStreamFromTemplate_refines {templateId : ℕ} {recipient : Address}
    {depositAmount ratePerSecond withdrawDustThreshold : ℤ} {memo : Option Bytes}
    {metadata : Option Metadata} {kind : StreamKind}
    (run : Runs (createStreamFromTemplate sender templateId recipient depositAmount ratePerSecond
      withdrawDustThreshold memo metadata kind) env s id s')
    (deposit_le : depositAmount ≤ i128.upper)
    (noSelfAuth : env.auth env.currentContractAddress = false) : Refines env Creates s s' := by
  rcases createStreamFromTemplate_cases run with ⟨rel, deposit, created⟩
  exact createStreamRelative_refines created (deposit ▸ deposit_le) noSelfAuth

theorem cloneStream_refines {streamId startTime endTime newStreamId : ℕ} {newRecipient : Address}
    {deposit : ℤ} {force : Bool}
    (run : Runs (cloneStream streamId newRecipient startTime endTime deposit force) env s
      newStreamId s') (deposit_le : deposit ≤ i128.upper)
    (noSelfAuth : env.auth env.currentContractAddress = false) : Refines env Creates s s' := by
  rcases cloneStream_cases run with
    ⟨source, params, created, authorised, deposit, passes, persisted, event, rfl⟩
  have refines := persistNewStream_refines (ne_of_authorised authorised noSelfAuth) persisted
    (passes.valid (deposit ▸ deposit_le))
  refine refines.congr rfl ?_
  exact (State.sameAccounts_of_events (by simp [State.fundings, Event.funding])).book_eq rfl

/-! ## Batches -/

/-- The streams of a batch are persisted one by one, on deposits that have arrived. -/
theorem persistEach_refines {streams : List CreateStreamParams} {ids : List ℕ}
    (run : Runs (persistEach sender streams) env s ids s')
    (valid : ∀ params ∈ streams, params.withFinalRate.Valid sender env.timestamp) :
    Refines env Creates (s.withheld env.currentContractAddress (totalDeposit streams))
      (s'.withheld env.currentContractAddress 0) := by
  induction streams generalizing s ids with
  | nil =>
      rcases runs_pure.mp run with ⟨_, rfl⟩
      exact .refl _
  | cons params others ih =>
      rcases List.forall_mem_cons.mp valid with ⟨head, tail⟩
      rcases runs_persistEach_cons.mp run with ⟨id, middle, _, persisted, each, _⟩
      have first := persisted_refines (totalDeposit others) persisted head
      rw [totalDeposit_cons]
      exact first.append (ih each tail) (fun _ creates => creates) Creates.free

theorem createStreams_refines {streams : List CreateStreamParams} {ids : List ℕ}
    (run : Runs (createStreams sender streams) env s ids s')
    (deposit_le : ∀ params ∈ streams, params.depositAmount ≤ i128.upper)
    (noSelfAuth : env.auth env.currentContractAddress = false) : Refines env Creates s s' := by
  rcases runs_createStreams.mp run with ⟨authorised, ⟨_, _, rfl⟩ | ⟨_, _, passes, _, _, each⟩⟩
  · exact .refl _
  · have other := ne_of_authorised authorised noSelfAuth
    have refines := persistEach_refines each
      fun params member => (passes params member).valid (deposit_le params member)
    exact refines.congr (book_withheld_pulled other).symm (book_withheld_zero s' _).symm

theorem createStreamsRelative_refines {rels : List CreateStreamRelativeParams} {ids : List ℕ}
    (run : Runs (createStreamsRelative sender rels) env s ids s')
    (deposit_le : ∀ rel ∈ rels, rel.depositAmount ≤ i128.upper)
    (noSelfAuth : env.auth env.currentContractAddress = false) : Refines env Creates s s' := by
  rcases createStreamsRelative_cases run with
    ⟨-, -, rfl⟩ | ⟨-, streams, -, deposits, created⟩
  · exact .refl _
  · refine createStreams_refines created ?_ noSelfAuth
    intro params member
    rcases deposits params member with ⟨rel, member, deposit⟩
    rw [deposit]
    exact deposit_le rel member

/-! ## Partial batches -/

theorem createOnePartial_refines {result : CreateStreamResult}
    (run : Runs (createOnePartial sender env.timestamp params) env s result s')
    (deposit_le : params.depositAmount ≤ i128.upper) (other : env.currentContractAddress ≠ sender) :
    Refines env Creates s s' := by
  cases createOnePartial_outcome run with
  | refused _ => exact .refl _
  | charged _ pulled _ => exact receive_of_pulled pulled.amount_nonneg other
  | created passes _ persisted =>
      exact persistNewStream_refines other persisted (passes.valid deposit_le)

theorem createAllPartial_refines {streams : List CreateStreamParams}
    {results : List CreateStreamResult}
    (run : Runs (createAllPartial sender env.timestamp streams) env s results s')
    (deposit_le : ∀ params ∈ streams, params.depositAmount ≤ i128.upper)
    (other : env.currentContractAddress ≠ sender) : Refines env Creates s s' := by
  induction streams generalizing s results with
  | nil =>
      rcases runs_pure.mp run with ⟨-, rfl⟩
      exact .refl _
  | cons params rest ih =>
      rcases List.forall_mem_cons.mp deposit_le with ⟨head_le, rest_le⟩
      simp only [createAllPartial, runs_bind, runs_pure] at run
      rcases run with ⟨_, middle, first, _, _, run, -, rfl⟩
      exact (createOnePartial_refines first head_le other).append (ih run rest_le)
        (fun _ creates => creates) Creates.free

theorem createStreamsPartial_refines {streams : List CreateStreamParams}
    {results : List CreateStreamResult}
    (run : Runs (createStreamsPartial sender streams) env s results s')
    (deposit_le : ∀ params ∈ streams, params.depositAmount ≤ i128.upper)
    (noSelfAuth : env.auth env.currentContractAddress = false) : Refines env Creates s s' := by
  rcases runs_createStreamsPartial.mp run with ⟨authorised, -, all⟩
  exact createAllPartial_refines all deposit_le (ne_of_authorised authorised noSelfAuth)

end Wallie.StreamContract
