import Wallie.Ledger.Records
import Wallie.Ledger.RefineBulkCancel
import Wallie.Ledger.RefineCreate
import Wallie.Ledger.RefineRegistry
import Wallie.Ledger.RefineSchedule
import Wallie.Ledger.RefineWithdraw
import Wallie.StreamContract.Entrypoints

/-!
# Runs of the contract on the book

Every successful call is a run of the book, whose actions are of the kind the
entrypoint stands for. So what holds of the initial book and is kept by every
action holds of the book of every reachable state.
-/

namespace Wallie.StreamContract

open Fallible

variable {env : Env} {s s' : State} {done : Unit} {address : Address}

/-- The actions a call can take on the book, when the contract holds `held` tokens. -/
def Call.Emits (held : ℤ) : Call → Action → Prop
  | createStream _ _ | createStreamRelative _ _ | createStreams _ _ | createStreamsRelative _ _
  | createStreamsPartial _ _ | createStreamFromTemplate _ _ _ _ _ _ _ _ _
  | cloneStream _ _ _ _ _ _ => Creates
  | withdraw id => Changes (Move.Withdraws .withdraw held) id
  | withdrawTo id _ => Changes (Move.Withdraws .withdrawTo held) id
  | batchWithdraw _ ids => ChangesOneOf (Move.Withdraws .batchWithdraw held) ids
  | batchWithdrawTo _ withdrawals =>
      ChangesOneOf (Move.Withdraws .batchWithdrawTo held)
        (withdrawals.map WithdrawToParam.streamId)
  | delegatedWithdraw id _ _ _ _ _ _ => Changes (Move.Withdraws .delegatedWithdraw held) id
  | triggerAutoClaim id => Changes (Move.Withdraws .autoClaim held) id
  | updateRatePerSecond id rate => Changes (· = .raiseRate rate) id
  | decreaseRatePerSecond id rate => Changes (Move.LowersRateTo rate) id
  | shortenStreamEndTime id endTime => Changes (Move.ShortensTo endTime) id
  | extendStreamEndTime id endTime => Changes (· = .extend endTime) id
  | topUpStream id _ amount => Changes (· = .topUp amount) id
  | updateRate id rate _ => Changes (· = .reprice rate) id
  | pauseStream id _ | pauseStreamAsAdmin id _ => Changes (· = .pause) id
  | resumeStream id | resumeStreamAsAdmin id => Changes (· = .resume) id
  | cancelStream id | cancelStreamAsAdmin id => Changes Move.Cancels id
  | keeperCancel id _ => Changes Move.KeeperCancels id
  | bulkCancelStreams _ ids => ChangesOneOf Move.Settles ids
  | closeCompletedStream id | closeCancelledStream id => (· = .close id)
  | acceptRecipientUpdate id => Changes Move.Rotates id
  | reserveStreamIds caller count _ => (· = .reserve caller count)
  | releaseIdReservation caller => (· = .release caller)
  | reclaimExpiredIdReservation holder => GivesBack holder
  | sweepExcess _ => fun action => ∃ amount, action = .sweep amount
  | _ => fun _ => False

section Emits

variable {held : ℤ} {id : ℕ} {move : Move} {call : Call}

/-- Runs without a re-pricing. -/
def withoutUpdateRate : State → Env → Call → Prop
  | _, _, .updateRate _ _ _ => False
  | _, _, _ => True

/-- Runs without a re-pricing and without keepers. -/
def withoutUpdateRateAndKeeperCancel : State → Env → Call → Prop
  | _, _, .updateRate _ _ _ | _, _, .keeperCancel _ _ => False
  | _, _, _ => True

theorem withoutUpdateRate_of_withoutBoth
    (permitted : withoutUpdateRateAndKeeperCancel s env call) : withoutUpdateRate s env call := by
  cases call <;> trivial

theorem Call.Emits.not_reprice (emits : call.Emits held (.change id move))
    (permitted : withoutUpdateRate s env call) (rate : ℤ) : move ≠ .reprice rate := by
  rintro rfl
  cases call
  case updateRate => exact permitted
  all_goals simp [Emits] at emits

theorem Call.Emits.not_keeperCancel (emits : call.Emits held (.change id move))
    (permitted : withoutUpdateRateAndKeeperCancel s env call) (payment refund : ℤ) :
    move ≠ .keeperCancel payment refund := by
  rintro rfl
  cases call
  case keeperCancel => exact permitted
  all_goals simp [Emits] at emits

/-- Only the two closing entrypoints close streams. -/
theorem Call.Emits.closes (emits : call.Emits held (.close id)) :
    call = .closeCompletedStream id ∨ call = .closeCancelledStream id := by
  cases call <;> simp_all [Emits]

end Emits

/-- Every successful call is a run of the actions it can take. -/
theorem Call.refines (call : Call) (run : Runs call.run env s done s')
    (formed : (s.book env.currentContractAddress).WellFormed env.timestamp)
    (noSelfAuth : env.auth env.currentContractAddress = false) (wellTyped : call.WellTyped) :
    Refines env (call.Emits (s.balances env.currentContractAddress)) s s' := by
  cases call with
  | init token admin => exact absurd run (not_runs_init formed.initialised)
  | setAdmin newAdmin => exact .of_book_eq (setAdmin_unchanged run)
  | setMaxRatePerSecond maxRate => exact .of_book_eq (setMaxRatePerSecond_unchanged run)
  | setGlobalEmergencyPaused paused =>
      exact .of_book_eq (setGlobalEmergencyPaused_unchanged run)
  | globalResume => exact .of_book_eq (globalResume_unchanged run)
  | setContractPaused paused => exact .of_book_eq (setContractPaused_unchanged run)
  | pauseProtocol admin reason => exact .of_book_eq (pauseProtocol_unchanged run)
  | resumeProtocol admin => exact .of_book_eq (resumeProtocol_unchanged run)
  | sweepExcess recipient =>
      rcases runs_effect.mp run with ⟨_, run⟩
      exact sweepExcess_refines run
  | createStream sender params =>
      rcases runs_effect.mp run with ⟨_, run⟩
      exact createStream_refines run wellTyped.depositAmount.2 noSelfAuth
  | createStreamRelative sender params =>
      rcases runs_effect.mp run with ⟨_, run⟩
      exact createStreamRelative_refines run wellTyped.depositAmount.2 noSelfAuth
  | createStreams sender streams =>
      rcases runs_effect.mp run with ⟨_, run⟩
      exact createStreams_refines run
        (fun params member => (wellTyped params member).depositAmount.2) noSelfAuth
  | createStreamsRelative sender streamsRelative =>
      rcases runs_effect.mp run with ⟨_, run⟩
      exact createStreamsRelative_refines run
        (fun params member => (wellTyped params member).depositAmount.2) noSelfAuth
  | createStreamsPartial sender streams =>
      rcases runs_effect.mp run with ⟨_, run⟩
      exact createStreamsPartial_refines run
        (fun params member => (wellTyped params member).depositAmount.2) noSelfAuth
  | createStreamFromTemplate sender templateId recipient depositAmount ratePerSecond
      withdrawDustThreshold memo metadata kind =>
      rcases runs_effect.mp run with ⟨_, run⟩
      exact createStreamFromTemplate_refines run wellTyped.2.1.2 noSelfAuth
  | cloneStream streamId newRecipient startTime endTime deposit force =>
      rcases runs_effect.mp run with ⟨_, run⟩
      exact cloneStream_refines run wellTyped.2.2.2.2 noSelfAuth
  | withdraw streamId =>
      rcases runs_effect.mp run with ⟨_, run⟩
      exact withdraw_refines run formed
  | withdrawTo streamId destination =>
      rcases runs_effect.mp run with ⟨_, run⟩
      exact withdrawTo_refines run formed
  | batchWithdraw recipient streamIds =>
      rcases runs_effect.mp run with ⟨_, run⟩
      exact batchWithdraw_refines run formed
  | batchWithdrawTo recipient withdrawals =>
      rcases runs_effect.mp run with ⟨_, run⟩
      exact batchWithdrawTo_refines run formed
  | delegatedWithdraw streamId relayer recipientPublicKey nonce deadline expectedMinimumAmount
      signature =>
      rcases runs_effect.mp run with ⟨_, run⟩
      exact delegatedWithdraw_refines run formed
  | triggerAutoClaim streamId =>
      rcases runs_effect.mp run with ⟨_, run⟩
      exact triggerAutoClaim_refines run formed
  | setAutoClaim streamId destination => exact .of_book_eq (setAutoClaim_unchanged run)
  | revokeAutoClaim streamId => exact .of_book_eq (revokeAutoClaim_unchanged run)
  | updateRatePerSecond streamId rate => exact (updateRatePerSecond_performs run formed).refines
  | decreaseRatePerSecond streamId rate => exact (decreaseRatePerSecond_performs run formed).refines
  | shortenStreamEndTime streamId endTime =>
      exact (shortenStreamEndTime_performs run formed).refines
  | extendStreamEndTime streamId endTime => exact (extendStreamEndTime_performs run formed).refines
  | topUpStream streamId funder amount => exact (topUpStream_performs run formed noSelfAuth).refines
  | updateRate streamId rate caller => exact (updateRate_performs run formed).refines
  | pauseStream streamId reason => exact (pauseStream_performs run formed).refines
  | pauseStreamAsAdmin streamId reason => exact (pauseStreamAsAdmin_performs run formed).refines
  | resumeStream streamId => exact (resumeStream_performs run formed).refines
  | resumeStreamAsAdmin streamId => exact (resumeStreamAsAdmin_performs run formed).refines
  | cancelStream streamId => exact (cancelStream_performs run formed).refines
  | cancelStreamAsAdmin streamId => exact (cancelStreamAsAdmin_performs run formed).refines
  | keeperCancel streamId keeper => exact (keeperCancel_performs run formed).refines
  | bulkCancelStreams sender streamIds => exact bulkCancelStreams_refines run formed noSelfAuth
  | closeCompletedStream streamId => exact closeCompletedStream_refines run formed
  | closeCancelledStream streamId => exact closeCancelledStream_refines run formed
  | updateRecipient streamId newRecipient => exact .of_book_eq (updateRecipient_unchanged run)
  | acceptRecipientUpdate streamId => exact acceptRecipientUpdate_refines run formed
  | cancelRecipientUpdate streamId => exact .of_book_eq (cancelRecipientUpdate_unchanged run)
  | registerStreamTemplate owner startDelay cliffDelay duration =>
      rcases runs_effect.mp run with ⟨_, run⟩
      exact .of_book_eq (registerStreamTemplate_unchanged run)
  | deleteStreamTemplate owner templateId =>
      exact .of_book_eq (deleteStreamTemplate_unchanged run)
  | reserveStreamIds caller count expiry =>
      rcases runs_effect.mp run with ⟨_, run⟩
      exact reserveStreamIds_refines run
  | releaseIdReservation caller => exact releaseIdReservation_refines run
  | reclaimExpiredIdReservation holder => exact reclaimExpiredIdReservation_refines run
  | calculateAccrued streamId =>
      rcases runs_effect.mp run with ⟨_, run⟩
      exact .of_book_eq (calculateAccrued_unchanged run)
  | getWithdrawable streamId =>
      rcases runs_effect.mp run with ⟨_, run⟩
      exact .of_book_eq (getWithdrawable_unchanged run)
  | getStreamHealth streamId =>
      rcases runs_effect.mp run with ⟨_, run⟩
      exact .of_book_eq (getStreamHealth_unchanged run)
  | getAutoClaimStatus streamId =>
      rcases runs_effect.mp run with ⟨_, run⟩
      exact .of_book_eq (getAutoClaimStatus_unchanged run)

/-! ## Reachable states -/

/-- The actions of a successful invocation. -/
structure Invocation.Makes (invocation : Invocation address) (s : State) (action : Action) :
    Prop where
  succeeds : invocation.call.Succeeds invocation.env s
  emits : invocation.call.Emits (s.balances address) action

/-- The actions an invocation takes, each on the record the invocation found. -/
def Invocation.Takes (invocation : Invocation address) (s : State) (book : Book)
    (action : Action) : Prop :=
  invocation.Makes s action ∧ action.ActsOn (s.book address) book

/-- An invocation is a run of the book, empty if it fails. -/
theorem Invocation.runs (invocation : Invocation address)
    (step : Input.Steps s (.invoke invocation) s')
    (formed : (s.book address).WellFormed invocation.env.timestamp) :
    Book.Run invocation.env.timestamp (invocation.Takes s) (s.book address)
      (s'.book address) := by
  rcases invocation with ⟨env, call, rfl, noSelfAuth, timestamp, sequence, wellTyped⟩
  rcases step.invoke_cases with run | ⟨_, rfl⟩
  · have refines := call.refines run formed noSelfAuth wellTyped
    refine LabelledRun.Run.mono refines ?_
    rintro book action ⟨emits, acts⟩
    exact ⟨⟨⟨_, run⟩, emits⟩, acts⟩
  · exact LabelledRun.Run.refl _

/-- A fresh contract holds whatever its token says, and nothing else. -/
theorem FreshlyInitialised.blank {instant : ℕ} (fresh : FreshlyInitialised address instant s) :
    (s.book address).Blank := by
  rcases fresh.initialised with ⟨env, token, admin, balances, allowances, rfl, -, typed, run⟩
  simp only [init, verifyTokenBehavior, runs_bind, runs_requireAuth, runs_peek, runs_rejectIf,
    runs_ask, runs_tokenTransfer, runs_update, and_assoc, exists_and_left, exists_eq_left,
    exists_const] at run
  rcases run with ⟨-, -, -, -, nonneg, -, rfl⟩
  constructor <;> simp_all [State.book, State.deployed, State.deposited, State.paidOut,
    State.settledByKeeper, State.totalDeposited, State.fundings, State.payments,
    State.settlements]

theorem Reachable.book_wellFormed {permitted : State → Env → Call → Prop} {now : ℕ}
    (reached : Reachable address permitted now s) : (s.book address).WellFormed now := by
  refine reached.invariant (fun now s => (s.book address).WellFormed now) ?_ ?_ ?_
  · exact fun instant _ fresh => fresh.blank.wellFormed instant
  · exact fun _ _ _ order formed => formed.mono order
  · intro s input s' _ step formed
    cases input with
    | invoke invocation => exact (invocation.runs step formed).wellFormed formed
    | token activity =>
        rcases step with ⟨funded, rfl⟩
        exact (Book.Steps.receive funded).wellFormed formed

/-- What holds of a blank book, survives time, tokens that arrive and every action of a permitted
call, holds of the book of every reachable state. -/
theorem Reachable.book_invariant {permitted : State → Env → Call → Prop} {now : ℕ}
    (holds : ℕ → Book → Prop) (reached : Reachable address permitted now s)
    (initially : ∀ instant book, book.Blank → holds instant book)
    (ticks : ∀ instant later book, instant ≤ later → book.WellFormed instant →
      holds instant book → holds later book)
    (receives : ∀ instant book vault, book.vault ≤ vault → holds instant book →
      holds instant { book with vault })
    (actions : ∀ s (invocation : Invocation address), permitted s invocation.env invocation.call →
      ∀ book action book', invocation.Takes s book action →
        Book.Steps invocation.env.timestamp book action book' →
        book.WellFormed invocation.env.timestamp → holds invocation.env.timestamp book →
        holds invocation.env.timestamp book') :
    holds now (s.book address) := by
  refine (reached.invariant
    (fun now s => (s.book address).WellFormed now ∧ holds now (s.book address)) ?_ ?_ ?_).2
  · exact fun instant _ fresh => ⟨fresh.blank.wellFormed instant, initially _ _ fresh.blank⟩
  · exact fun _ _ _ order both => ⟨both.1.mono order, ticks _ _ _ order both.1 both.2⟩
  · intro s input s' allowed step both
    cases input with
    | invoke invocation =>
        exact (invocation.runs step both.1).preserves
          (fun book => book.WellFormed invocation.env.timestamp ∧
            holds invocation.env.timestamp book)
          (fun book action book' takes step both => ⟨step.wellFormed both.1,
            actions s invocation allowed book action book' takes step both.1 both.2⟩) both
    | token activity =>
        rcases step with ⟨funded, rfl⟩
        exact ⟨(Book.Steps.receive funded).wellFormed both.1,
          receives _ _ _ funded both.2⟩

/-- What holds of the streams that are created, survives time and every move a permitted call makes
of a record it finds, holds of every stored stream. -/
theorem Reachable.forall_stored {permitted : State → Env → Call → Prop} {now : ℕ}
    (holds : ℕ → Stream → Prop) (reached : Reachable address permitted now s)
    (created : ∀ instant id sender params, CreateStreamParams.Valid params sender instant →
      holds instant (newStream id sender params))
    (ticks : ∀ instant later id stream, instant ≤ later → Stream.WellFormed id instant stream →
      holds instant stream → holds later stream)
    (moves : ∀ s (invocation : Invocation address) id move stream stream',
      permitted s invocation.env invocation.call →
      invocation.Makes s (.change id move) → s.streams id = some stream →
      stream.WellFormed id invocation.env.timestamp →
      stream.Moves invocation.env.timestamp move stream' →
      holds invocation.env.timestamp stream → holds invocation.env.timestamp stream')
    {id : ℕ} {stream : Stream} (stored : s.streams id = some stream) : holds now stream := by
  have invariant := reached.book_invariant
    (fun now book => ∀ id stream, book.streams id = some stream → holds now stream) ?_ ?_ ?_ ?_
  · exact invariant id stream stored
  · intro instant book blank id stream stored
    simp [blank.streams] at stored
  · intro instant later book order formed kept id stream stored
    exact ticks instant later id stream order (formed.records id stream stored)
      (kept id stream stored)
  · exact fun instant book vault _ kept => kept
  · rintro s invocation allowed book action book' ⟨makes, acts⟩ step formed kept id stream stored
    refine step.forall_stored kept ?_ ?_ id stream stored
    · exact fun id sender params valid => created _ id sender params valid
    · rintro id move before after rfl stored moved holdsBefore
      have agrees : (s.book address).Agrees book id := acts
      have found := agrees.streams.symm.trans stored
      exact moves s invocation id move before after allowed makes found
        (formed.records id before stored) moved holdsBefore

/-- What one step does to a stored record: nothing, one move that the call can make, or its
removal by a call that closes the stream. -/
theorem Reachable.record_cases {permitted : State → Env → Call → Prop} {now id : ℕ}
    {stream : Stream} {input : Input address} (reached : Reachable address permitted now s)
    (order : now ≤ input.clock) (step : Input.Steps s input s')
    (stored : s.streams id = some stream) :
    s'.streams id = some stream ∨ ∃ invocation, input = .invoke invocation ∧
      ((∃ move stream', invocation.Makes s (.change id move) ∧
        stream.Moves input.clock move stream' ∧ s'.streams id = some stream') ∨
      invocation.Makes s (.close id) ∧ s'.streams id = none) := by
  have formed := reached.book_wellFormed.mono order
  cases input with
  | invoke invocation =>
      rcases (invocation.runs step formed).record_cases formed stored with same | moved | closed
      · exact Or.inl same
      · exact Or.inr ⟨invocation, rfl, Or.inl moved⟩
      · exact Or.inr ⟨invocation, rfl, Or.inr closed⟩
  | token activity =>
      rcases step with ⟨_, rfl⟩
      exact Or.inl stored

/-- An id that was handed out stays so, and if its stream was removed it is not stored again. -/
theorem Reachable.used {permitted : State → Env → Call → Prop} {now id : ℕ}
    {input : Input address} (reached : Reachable address permitted now s)
    (order : now ≤ input.clock) (step : Input.Steps s input s')
    (used : ¬ (s.book address).Fresh id) :
    ¬ (s'.book address).Fresh id ∧ (s.streams id = none → s'.streams id = none) := by
  have formed := reached.book_wellFormed.mono order
  cases input with
  | invoke invocation =>
      have kept := (invocation.runs step formed).preserves
        (fun book => book.WellFormed invocation.env.timestamp ∧ ¬ book.Fresh id ∧
          (s.streams id = none → book.streams id = none)) ?_ ⟨formed, used, fun absent => absent⟩
      · exact kept.2
      · rintro book action book' _ step ⟨formed, used, absent⟩
        exact ⟨step.wellFormed formed, fun fresh => used (step.fresh formed.reserves fresh),
          fun removed => step.removed formed used (absent removed)⟩
  | token activity =>
      rcases step with ⟨_, rfl⟩
      exact ⟨used, fun absent => absent⟩

/-- What holds of a stored record, survives time and every move a permitted call makes of it,
holds of the record as long as it is stored, whatever the run before was. -/
theorem Reachable.forall_onwards {permitted : State → Env → Call → Prop} {now later id : ℕ}
    {stream : Stream} (holds : ℕ → Stream → Prop) (reached : Reachable address anyCall now s)
    (continued : (system address).Continues (onCalls permitted) now s later s')
    (stored : s.streams id = some stream) (initially : holds now stream)
    (ticks : ∀ instant later stream, instant ≤ later → Stream.WellFormed id instant stream →
      holds instant stream → holds later stream)
    (moves : ∀ s (invocation : Invocation address) move stream stream',
      permitted s invocation.env invocation.call →
      invocation.Makes s (.change id move) → s.streams id = some stream →
      stream.WellFormed id invocation.env.timestamp →
      stream.Moves invocation.env.timestamp move stream' →
      holds invocation.env.timestamp stream → holds invocation.env.timestamp stream') :
    ∀ stream', s'.streams id = some stream' → holds later stream' := by
  suffices kept : ¬ (s'.book address).Fresh id ∧
      ∀ stream', s'.streams id = some stream' → holds later stream' from kept.2
  have any : ∀ s (input : Input address), onCalls permitted s input → onCalls anyCall s input :=
    fun _ input _ => by cases input <;> trivial
  induction continued with
  | here =>
      refine ⟨reached.book_wellFormed.not_fresh stored, fun stream' stored' => ?_⟩
      rw [stored, Option.some.injEq] at stored'
      exact stored' ▸ initially
  | @tick middle _ current continued order ih =>
      have reached' : Reachable address anyCall middle current :=
        (continued.mono any).reachable reached
      refine ⟨ih.1, fun stream' stored' => ?_⟩
      have formed := reached'.book_wellFormed.records id stream' stored'
      exact ticks _ _ stream' order formed (ih.2 stream' stored')
  | @move middle current next input continued order allowed moved ih =>
      have reached' : Reachable address anyCall middle current :=
        (continued.mono any).reachable reached
      have used := reached'.used order moved ih.1
      refine ⟨used.1, fun stream' stored' => ?_⟩
      cases before : current.streams id with
      | none =>
          rw [used.2 before] at stored'
          cases stored'
      | some record =>
          have formed := reached'.book_wellFormed.records id record before
          have held := ticks _ _ record order formed (ih.2 record before)
          rcases reached'.record_cases order moved before with same |
            ⟨invocation, rfl, change | closed⟩
          · rw [stored', Option.some.injEq] at same
            exact same ▸ held
          · rcases change with ⟨move, after, makes, step, stored''⟩
            rw [stored', Option.some.injEq] at stored''
            subst stored''
            exact moves current invocation move record stream' allowed makes before
              (formed.mono order) step held
          · rw [stored'] at closed
            cases closed.2

/-- What holds of a stored record, survives time and every move a permitted call makes of it,
holds of the record as long as it is stored. -/
theorem Reachable.forall_later {permitted : State → Env → Call → Prop} {now later id : ℕ}
    {stream : Stream} (holds : ℕ → Stream → Prop) (reached : Reachable address permitted now s)
    (continued : (system address).Continues (onCalls permitted) now s later s')
    (stored : s.streams id = some stream) (initially : holds now stream)
    (ticks : ∀ instant later stream, instant ≤ later → Stream.WellFormed id instant stream →
      holds instant stream → holds later stream)
    (moves : ∀ s (invocation : Invocation address) move stream stream',
      permitted s invocation.env invocation.call →
      invocation.Makes s (.change id move) → s.streams id = some stream →
      stream.WellFormed id invocation.env.timestamp →
      stream.Moves invocation.env.timestamp move stream' →
      holds invocation.env.timestamp stream → holds invocation.env.timestamp stream') :
    ∀ stream', s'.streams id = some stream' → holds later stream' := by
  have reached' : Reachable address anyCall now s :=
    reached.mono fun _ input _ => by cases input <;> trivial
  exact reached'.forall_onwards holds continued stored initially ticks moves

end Wallie.StreamContract
