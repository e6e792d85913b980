import Wallie.Ledger.CreateRules
import Wallie.Ledger.RunInvariant
import Wallie.Lib.KeyRange
import Wallie.StreamContract.Script

/-!
# The ids of a batch

A batch draws its ids one at a time, from the reservation of the sender while it
lasts and from the counter after that. The ids are contiguous unless the batch
outlasts a reservation behind which other ids have been handed out.
-/

namespace Wallie.StreamContract

open Fallible

variable {env : Env} {s s' : State} {id now count : ℕ} {address sender : Address}
  {streams : List CreateStreamParams} {ids : List ℕ} {permitted : State → Env → Call → Prop}

/-- The ids that the next `count` streams of `sender` get. -/
def State.nextIds (s : State) (sender : Address) (count : ℕ) : List ℕ :=
  match s.idReservation sender with
  | none => List.range' s.nextStreamId count
  | some res =>
      List.range' (res.startId + res.consumed) (min count (res.count - res.consumed)) ++
        List.range' s.nextStreamId (count - (res.count - res.consumed))

/-- A reservation is removed when its last id is used. -/
def State.Unconsumed (s : State) (sender : Address) : Prop :=
  ∀ res, s.idReservation sender = some res → res.consumed < res.count

/-! ## Allocation -/

theorem nextIds_of_none (unreserved : s.idReservation sender = none) :
    s.nextIds sender count = List.range' s.nextStreamId count := by
  rw [State.nextIds, unreserved]

theorem nextIds_of_some {res : IdReservation} (held : s.idReservation sender = some res) :
    s.nextIds sender count =
      List.range' (res.startId + res.consumed) (min count (res.count - res.consumed)) ++
        List.range' s.nextStreamId (count - (res.count - res.consumed)) := by
  rw [State.nextIds, held]

theorem nextIds_zero : s.nextIds sender 0 = [] := by
  unfold State.nextIds
  split <;> simp

/-- An allocation takes the first of the ids. -/
theorem nextIds_succ {nextStreamId : ℕ} {idReservation : Address → Option IdReservation}
    (unconsumed : s.Unconsumed sender)
    (allocates : (s.book address).Allocates sender id nextStreamId idReservation)
    (counter : s'.nextStreamId = nextStreamId) (reservations : s'.idReservation = idReservation) :
    s'.Unconsumed sender ∧ s.nextIds sender (count + 1) = id :: s'.nextIds sender count := by
  cases allocates with
  | counter unreserved =>
      have unreserved' : s'.idReservation sender = none := by
        rw [reservations]
        exact unreserved
      refine ⟨fun res held => absurd (unreserved'.symm.trans held) (by simp), ?_⟩
      rw [nextIds_of_none unreserved, nextIds_of_none unreserved', counter, List.range'_succ]
      rfl
  | @reserved res held =>
      have some_left := unconsumed res held
      have first : min (count + 1) (res.count - res.consumed) =
          min count (res.count - (res.consumed + 1)) + 1 := by omega
      have rest : count + 1 - (res.count - res.consumed) =
          count - (res.count - (res.consumed + 1)) := by omega
      rw [nextIds_of_some held, first, rest, List.range'_succ, List.cons_append]
      by_cases exhausted : res.count ≤ res.consumed + 1
      · have removed : s'.idReservation sender = none := by
          rw [reservations, Function.update_self, if_pos exhausted]
        refine ⟨fun res held => absurd (removed.symm.trans held) (by simp), ?_⟩
        rw [nextIds_of_none removed, counter, Nat.sub_eq_zero_of_le exhausted, Nat.min_zero,
          Nat.sub_zero, List.range'_zero, List.nil_append]
        rfl
      · have kept : s'.idReservation sender = some { res with consumed := res.consumed + 1 } := by
          rw [reservations, Function.update_self, if_neg exhausted]
        refine ⟨?_, ?_⟩
        · intro res' held'
          cases Option.some.inj (kept.symm.trans held')
          exact not_le.mp exhausted
        · rw [nextIds_of_some kept, counter]
          rfl

/-- Persisting the entries one by one uses up the ids in order. -/
theorem persistEach_ids (unconsumed : s.Unconsumed sender)
    (run : Runs (persistEach sender streams) env s ids s') :
    ids = s.nextIds sender streams.length := by
  induction streams generalizing s ids with
  | nil =>
      rcases runs_pure.mp run with ⟨rfl, -⟩
      exact nextIds_zero.symm
  | cons params rest ih =>
      rcases runs_persistEach_cons.mp run with ⟨id, middle, others, persisted, each, rfl⟩
      rcases (runs_persistNewStream sender).mp persisted with ⟨_, _, _, allocates, _, after⟩
      have drawn : middle.Unconsumed sender ∧
          s.nextIds sender (rest.length + 1) = id :: middle.nextIds sender rest.length :=
        nextIds_succ unconsumed allocates (congrArg State.nextStreamId after)
          (congrArg State.idReservation after)
      rw [ih drawn.1 each, List.length_cons, drawn.2]

/-- The ids of a reservation come before those of the counter. -/
theorem nextIds_ascending (reserves : (s.book address).Reserves) (sender : Address) (count : ℕ) :
    (s.nextIds sender count).Pairwise (· < ·) := by
  cases held : s.idReservation sender with
  | none =>
      rw [nextIds_of_none held]
      exact List.pairwise_lt_range'
  | some res =>
      have below : res.startId + res.count ≤ s.nextStreamId := reserves.below sender res held
      have some_left : res.consumed < res.count := reserves.unconsumed sender res held
      rw [nextIds_of_some held, List.pairwise_append]
      refine ⟨List.pairwise_lt_range', List.pairwise_lt_range', ?_⟩
      intro earlier reserved later counted
      have reserved := (List.mem_range'_1.mp reserved).2
      have counted := (List.mem_range'_1.mp counted).1
      omega

/-! ## Records -/

/-- The ids are those of the entries, one for each and in their order. -/
def StoredAs (s : State) (sender : Address) : List ℕ → List CreateStreamParams → Prop :=
  List.Forall₂ fun id params => s.streams id = some (newStream id sender params.withFinalRate)

theorem persistEach_frame (run : Runs (persistEach sender streams) env s ids s') {key : ℕ}
    (other : key ∉ ids) : s'.streams key = s.streams key := by
  induction streams generalizing s ids with
  | nil =>
      rcases runs_pure.mp run with ⟨-, rfl⟩
      rfl
  | cons params rest ih =>
      rcases runs_persistEach_cons.mp run with ⟨id, middle, others, persisted, each, rfl⟩
      rcases (runs_persistNewStream sender).mp persisted with ⟨_, _, _, _, _, after⟩
      rcases not_or.mp (mt List.mem_cons.mpr other) with ⟨different, other⟩
      have kept : middle.streams key = s.streams key := by
        rw [after]
        exact Function.update_of_ne different _ _
      exact (ih each other).trans kept

theorem persistEach_stored (run : Runs (persistEach sender streams) env s ids s')
    (distinct : ids.Nodup) : StoredAs s' sender ids streams := by
  induction streams generalizing s ids with
  | nil =>
      rcases runs_pure.mp run with ⟨rfl, -⟩
      exact .nil
  | cons params rest ih =>
      rcases runs_persistEach_cons.mp run with ⟨id, middle, others, persisted, each, rfl⟩
      rcases (runs_persistNewStream sender).mp persisted with ⟨_, _, _, _, _, after⟩
      rcases List.nodup_cons.mp distinct with ⟨new, distinct⟩
      have stored : middle.streams id = some (newStream id sender params.withFinalRate) := by
        rw [after]
        exact Function.update_self _ _ _
      exact .cons ((persistEach_frame each new).trans stored) (ih each distinct)

/-! ## Contiguity -/

/-- The ids are one range if nothing is reserved, if the reservation suffices, and if the counter
goes on where it ends. -/
theorem nextIds_contiguous (unconsumed : s.Unconsumed sender) :
    (∃ first, s.nextIds sender count = List.range' first count) ↔
      ∀ res, s.idReservation sender = some res →
        count ≤ res.count - res.consumed ∨ res.startId + res.count = s.nextStreamId := by
  cases held : s.idReservation sender with
  | none => simp [nextIds_of_none held]
  | some res =>
      have some_left := unconsumed res held
      simp only [nextIds_of_some held, Option.some.injEq, forall_eq']
      rcases le_or_gt count (res.count - res.consumed) with enough | outlasts
      · simp [Nat.sub_eq_zero_of_le enough, enough]
      · have both : count = (res.count - res.consumed) + (count - (res.count - res.consumed)) :=
          (Nat.add_sub_cancel' outlasts.le).symm
        have adjacent : res.startId + res.consumed + (res.count - res.consumed) = s.nextStreamId ↔
            res.startId + res.count = s.nextStreamId := by omega
        rw [min_eq_right outlasts.le, or_iff_right (not_le.mpr outlasts), ← adjacent,
          ← KeyRange.exists_range'_eq_append (Nat.sub_ne_zero_of_lt some_left)
            (Nat.sub_ne_zero_of_lt outlasts), ← both]

/-- A batch draws the ids that are next for its sender and stores its entries under them. -/
theorem createStreams_ids (reserves : (s.book address).Reserves)
    (run : Runs (createStreams sender streams) env s ids s') :
    ids = s.nextIds sender streams.length ∧ StoredAs s' sender ids streams := by
  rcases runs_createStreams.mp run with ⟨_, ⟨rfl, rfl, rfl⟩ | ⟨_, _, _, _, _, each⟩⟩
  · exact ⟨nextIds_zero.symm, .nil⟩
  · have paid : (s.pulled env.currentContractAddress sender (totalDeposit streams)).Unconsumed
        sender := reserves.unconsumed sender
    have drawn : ids = s.nextIds sender streams.length := by
      have drawn := persistEach_ids paid each
      exact drawn
    have distinct : ids.Nodup := by
      rw [drawn]
      exact (nextIds_ascending reserves sender _).imp ne_of_lt
    exact ⟨drawn, persistEach_stored each distinct⟩

/-- In every reachable state a successful batch returns contiguous ids in the order of its entries
exactly if the sender has no reservation, or one with enough ids left for the batch, or one that
ends where the counter stands. -/
theorem batch_ids_contiguous (reached : Reachable address permitted now s)
    (run : Runs (createStreams sender streams) env s ids s') :
    (∃ first, ids = List.range' first streams.length ∧ StoredAs s' sender ids streams) ↔
      ∀ res, s.idReservation sender = some res →
        streams.length ≤ res.count - res.consumed ∨ res.startId + res.count = s.nextStreamId := by
  have reserves := reached.book_wellFormed.reserves
  rcases createStreams_ids reserves run with ⟨drawn, stored⟩
  rw [exists_and_right, and_iff_left stored, drawn]
  exact nextIds_contiguous (reserves.unconsumed sender)

/-- The sender has reserved two ids, and another sender has created the stream after them: three
entries get ids with a gap. -/
theorem batch_ids_gap :
    let s := Script.run Sample.reserved Sample.genesis
    let streams := [Sample.params 1000 10 0 0, Sample.params 2000 10 0 0, Sample.params 3000 10 0 0]
    Reachable Sample.contract anyCall 0 s ∧
      ∃ ids s', Runs (createStreams Sample.sender streams) (Sample.env 1 0 0) s ids s' ∧
        ids = [0, 1, 3] ∧ ¬ ∃ first, ids = List.range' first streams.length := by
  intro s streams
  have reached : Reachable Sample.contract anyCall 0 s :=
    Sample.reachable_run Sample.ordered_reserved
  refine ⟨reached, _, _, rfl, rfl, ?_⟩
  rintro ⟨first, contiguous⟩
  cases contiguous

/-- Two entries get the two reserved ids. -/
theorem batch_ids_contiguous_reserved :
    let s := Script.run Sample.reserved Sample.genesis
    let streams := [Sample.params 1000 10 0 0, Sample.params 2000 10 0 0]
    ∃ ids s', Runs (createStreams Sample.sender streams) (Sample.env 1 0 0) s ids s' ∧
      ∃ first, ids = List.range' first 2 ∧ StoredAs s' Sample.sender ids streams := by
  intro s streams
  have reached : Reachable Sample.contract anyCall 0 s :=
    Sample.reachable_run Sample.ordered_reserved
  have held : s.idReservation Sample.sender = some ⟨0, 2, 0, none⟩ := by decide
  have run : Runs (createStreams Sample.sender streams) (Sample.env 1 0 0) s [0, 1]
      ((createStreams Sample.sender streams).commit (Sample.env 1 0 0) s) := rfl
  refine ⟨_, _, run, (batch_ids_contiguous reached run).mpr ?_⟩
  intro res held'
  cases Option.some.inj (held.symm.trans held')
  exact Or.inl (by decide)

end Wallie.StreamContract
