import Wallie.Ledger.Projection
import Wallie.StreamContract.ScheduleRules

/-!
# Changes of the terms on the book

Each change of the rate, the schedule or the funding of a stream is one move of
its record. A stored record is well formed, so the machine arithmetic of the
entrypoints is exact and the refunds are never negative.
-/

namespace Wallie.StreamContract

open Fallible

variable {env : Env} {s s' : State} {id : ℕ} {done : Unit}

theorem updateRatePerSecond_performs {rate : ℤ}
    (run : Runs (updateRatePerSecond id rate) env s done s')
    (formed : (s.book env.currentContractAddress).WellFormed env.timestamp) :
    Performs env (· = .raiseRate rate) id s s' := by
  rcases updateRatePerSecond_cases run with ⟨stream, adjusts, -, raised, -, covered, rfl⟩
  have moves : stream.Moves env.timestamp (.raiseRate rate)
      (stream.checkpointed env.timestamp rate) :=
    .raiseRate adjusts.live adjusts.linear raised covered
  refine ⟨_, rfl, State.Written.steps ?_ (.refl _)
    (formed.records id stream adjusts.stored) adjusts.stored moves rfl (by simp)⟩
  exact ⟨rfl, rfl, rfl, rfl, rfl, (reconciledCount_self _ _).symm,
    by simp [State.fundings, Event.funding], rfl, rfl, rfl⟩

theorem updateRate_performs {rate : ℤ} {caller : Address}
    (run : Runs (updateRate id rate caller) env s done s')
    (formed : (s.book env.currentContractAddress).WellFormed env.timestamp) :
    Performs env (· = .reprice rate) id s s' := by
  rcases updateRate_cases run with ⟨stream, stored, -, live, positive, rfl⟩
  have moves : stream.Moves env.timestamp (.reprice rate) { stream with ratePerSecond := rate } :=
    .reprice live positive
  refine ⟨_, rfl, State.Written.steps ?_ (.refl _)
    (formed.records id stream stored) stored moves rfl (by simp)⟩
  exact ⟨rfl, rfl, rfl, rfl, rfl, (reconciledCount_self _ _).symm,
    by simp [State.fundings, Event.funding], rfl, rfl, rfl⟩

theorem extendStreamEndTime_performs {endTime : ℕ}
    (run : Runs (extendStreamEndTime id endTime) env s done s')
    (formed : (s.book env.currentContractAddress).WellFormed env.timestamp) :
    Performs env (· = .extend endTime) id s s' := by
  rcases extendStreamEndTime_cases run with
    ⟨stream, adjusts, later, -, -, future, covered, rfl⟩
  have moves := Stream.Moves.extend adjusts.live adjusts.linear later future covered
  refine ⟨_, rfl, State.Written.steps ?_ (.refl _)
    (formed.records id stream adjusts.stored) adjusts.stored moves rfl (by simp)⟩
  exact ⟨rfl, rfl, rfl, rfl, rfl, (reconciledCount_self _ _).symm,
    by simp [State.fundings, Event.funding], rfl, rfl, rfl⟩

/-- A refund of a rate decrease to `rate`. -/
@[simp]
def Move.LowersRateTo (rate : ℤ) (move : Move) : Prop :=
  ∃ refund, move = .lowerRate rate refund

@[simp]
def Move.ShortensTo (endTime : ℕ) (move : Move) : Prop :=
  ∃ refund, move = .shorten endTime refund

theorem decreaseRatePerSecond_performs {rate : ℤ}
    (run : Runs (decreaseRatePerSecond id rate) env s done s')
    (formed : (s.book env.currentContractAddress).WellFormed env.timestamp) :
    Performs env (Move.LowersRateTo rate) id s s' := by
  rcases decreaseRatePerSecond_cases run with
    ⟨stream, adjusts, unended, positive, lowered, nonneg, middle, pushed, rfl⟩
  have moves := Stream.Moves.lowerRate adjusts.live adjusts.linear unended positive lowered nonneg
    (add_sub_cancel _ _)
  rw [sub_sub_cancel] at moves
  refine ⟨_, ⟨_, rfl⟩, State.Written.steps ?_
    ((State.pays_of_pushPositive nonneg pushed).followed
      (State.sameAccounts_of_events (by simp [State.fundings, Event.funding])) rfl)
    (formed.records id stream adjusts.stored) adjusts.stored moves rfl (by simp)⟩
  exact ⟨rfl, rfl, rfl, rfl, rfl, (reconciledCount_self _ _).symm, rfl, rfl, rfl, rfl⟩

theorem shortenStreamEndTime_performs {endTime : ℕ}
    (run : Runs (shortenStreamEndTime id endTime) env s done s')
    (formed : (s.book env.currentContractAddress).WellFormed env.timestamp) :
    Performs env (Move.ShortensTo endTime) id s s' := by
  rcases shortenStreamEndTime_cases run with
    ⟨stream, adjusts, future, started, visible, earlier, covered, middle, pushed, rfl⟩
  have nonneg := sub_nonneg.mpr covered
  have moves := Stream.Moves.shorten adjusts.live adjusts.linear future started visible earlier
    nonneg (add_sub_cancel _ _)
  rw [sub_sub_cancel] at moves
  refine ⟨_, ⟨_, rfl⟩, State.Written.steps ?_
    ((State.pays_of_pushPositive nonneg pushed).followed
      (State.sameAccounts_of_events (by simp [State.fundings, Event.funding])) rfl)
    (formed.records id stream adjusts.stored) adjusts.stored moves rfl (by simp)⟩
  exact ⟨rfl, rfl, rfl, rfl, rfl, (reconciledCount_self _ _).symm, rfl, rfl, rfl, rfl⟩

theorem topUpStream_performs {funder : Address} {amount : ℤ}
    (run : Runs (topUpStream id funder amount) env s done s')
    (formed : (s.book env.currentContractAddress).WellFormed env.timestamp)
    (noSelfAuth : env.auth env.currentContractAddress = false) :
    Performs env (· = .topUp amount) id s s' := by
  rcases topUpStream_cases run with
    ⟨stream, -, stored, linear, live, unended, authorised, positive, fits, rfl⟩
  have record := formed.records id stream stored
  have moves := Stream.Moves.topUp live linear unended positive fits
  have other : env.currentContractAddress ≠ funder := by
    rintro rfl
    simp [authorised] at noSelfAuth
  refine ⟨_, rfl, State.MovedBy.steps ?_ stored moves (by simp) ?_⟩
  · constructor
    · rfl
    · simp [record.streamId]
    · rfl
    · rfl
    · rfl
    · exact (reconciledCount_self _ _).symm
    · intro key
      simp [State.deposited, State.fundings, Event.funding, Move.received]
    · intro key
      simp [State.paidOut, State.payments, Move.paid]
    · intro key
      simp [State.settledByKeeper, State.settlements, Move.settledByKeeper]
    · simp [State.totalDeposited, State.fundings, Event.funding, Move.received]
  · simp [movedBalances_destination other, Move.received, Move.paid]

end Wallie.StreamContract
