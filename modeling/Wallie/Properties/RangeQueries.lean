import Wallie.Ledger.RunInvariant
import Wallie.Properties.ProposalPages
import Wallie.StreamContract.Queries
import Wallie.StreamContract.Script

/-!
# Range queries

A range query lists the stored streams with ids in a range, up to the size of a
page. Its loop steps past the last id of the range before it tests for the end,
so a range that ends with the largest id overflows once the counter has got
there and the page is not full.
-/

namespace Wallie.StreamContract

open Fallible

variable {address : Address} {permitted : State → Env → Call → Prop} {env : Env} {s s' : State}
  {now currentId remaining pageSize startId endId limit : ℕ} {result page : List Stream}

/-- The query returns the stored streams of the range in ascending order of their ids, as many as
fit on a page, and changes nothing. -/
def RangeQueryExact (env : Env) (s : State) (startId endId limit : ℕ) : Prop :=
  ∃ listed, KeyRange.Lists s.streams (fun id => startId ≤ id ∧ id ≤ endId) listed ∧
    Runs (getStreamsByIdRange startId endId limit) env s (listed.take (min limit 100)) s

/-! ## The loop -/

/-- The loop fills the page, and overflows when it has to step past the largest id. -/
theorem runs_collectStreams (typed : (currentId : ℤ) ≤ u64.upper)
    (within : ((currentId + remaining : ℕ) : ℤ) ≤ u64.upper + 1)
    (room : result.length ≤ pageSize) :
    Runs (collectStreams pageSize remaining currentId result) env s page s' ↔
      (((currentId + remaining : ℕ) : ℤ) ≤ u64.upper ∨
        pageSize ≤ (result ++ KeyRange.scan s.streams currentId (remaining - 1)).length) ∧
      page = (result ++ KeyRange.scan s.streams currentId remaining).take pageSize ∧ s' = s := by
  induction remaining generalizing currentId result with
  | zero => simp [collectStreams, typed, List.take_of_length_le room]
  | succ remaining ih =>
      rcases le_or_gt pageSize result.length with full | space
      · have filled : pageSize ≤
            (result ++ KeyRange.scan s.streams currentId (remaining + 1 - 1)).length := by
          rw [List.length_append]
          exact full.trans (Nat.le_add_right _ _)
        rw [collectStreams, if_pos full, runs_pure, and_iff_right (Or.inr filled),
          List.take_left' (le_antisymm room full)]
      · have room' : (result ++ (s.streams currentId).toList).length ≤ pageSize := by
          have one : (s.streams currentId).toList.length ≤ 1 := Option.length_toList_le
          rw [List.length_append]
          omega
        simp only [collectStreams, if_neg (not_le.mpr space), runs_bind, runs_peek,
          runs_plainAddU64, and_assoc, exists_and_left, exists_eq_left]
        by_cases next : ((currentId + 1 : ℕ) : ℤ) ≤ u64.upper
        · rw [and_iff_right next, ih next (by omega) room', KeyRange.scan_succ, List.append_assoc,
            List.append_assoc, Nat.add_sub_cancel, Nat.add_assoc, Nat.add_comm 1]
          refine and_congr_left' ?_
          cases remaining with
          | zero => exact iff_of_true (Or.inl next) (Or.inl next)
          | succ remaining => rw [KeyRange.scan_succ, Nat.add_sub_cancel]
        · have last : remaining = 0 := by omega
          subst last
          simp only [next, false_and, false_iff]
          simp [not_le.mpr space]

/-! ## The query -/

/-- The range ends with the largest id, the counter has got there, and the streams before it do not
fill the page. -/
def State.RangeOverflows (s : State) (startId endId limit : ℕ) : Prop :=
  u64.upper ≤ s.nextStreamId ∧ u64.upper ≤ endId ∧
    (KeyRange.scan s.streams startId (endId - startId)).length < min limit 100

/-- The query overflows when its loop has to step past the largest id. -/
theorem rangeOverflows_iff (started : (startId : ℤ) ≤ u64.upper) (ended : (endId : ℤ) ≤ u64.upper) :
    s.RangeOverflows startId endId limit ↔
      ¬ (((startId + (min endId s.nextStreamId + 1 - startId) : ℕ) : ℤ) ≤ u64.upper ∨
        min limit 100 ≤ (KeyRange.scan s.streams startId
          (min endId s.nextStreamId + 1 - startId - 1)).length) := by
  have reached :
      u64.upper < ((startId + (min endId s.nextStreamId + 1 - startId) : ℕ) : ℤ) ↔
        u64.upper ≤ s.nextStreamId ∧ u64.upper ≤ endId := by omega
  rw [State.RangeOverflows, not_or, not_le, not_le, reached, and_assoc]
  refine and_congr_right fun counted => and_congr_right fun largest => ?_
  have cut : min endId s.nextStreamId + 1 - startId - 1 = endId - startId := by omega
  rw [cut]

/-- A query that does not overflow lists the streams of its range. -/
theorem runs_getStreamsByIdRange (beyond : ∀ id, s.nextStreamId ≤ id → s.streams id = none)
    (started : (startId : ℤ) ≤ u64.upper) (ended : (endId : ℤ) ≤ u64.upper) :
    Runs (getStreamsByIdRange startId endId limit) env s page s' ↔
      ¬ s.RangeOverflows startId endId limit ∧
        page = (KeyRange.scan s.streams startId (endId + 1 - startId)).take (min limit 100) ∧
          s' = s := by
  by_cases reversed : endId < startId
  · have none_left : endId + 1 - startId = 0 := by omega
    have short : ¬ s.RangeOverflows startId endId limit := by
      rintro ⟨_, largest, _⟩
      omega
    simp [getStreamsByIdRange, reversed, none_left, short]
  · by_cases empty : min limit 100 = 0
    · have short : ¬ s.RangeOverflows startId endId limit := by
        rintro ⟨_, _, few⟩
        omega
      simp [getStreamsByIdRange, maxPageSize, empty, short]
    · have within : ((startId + (min endId s.nextStreamId + 1 - startId) : ℕ) : ℤ) ≤
          u64.upper + 1 := by omega
      have cut : min endId s.nextStreamId + 1 - startId =
          min (endId + 1 - startId) (s.nextStreamId + 1 - startId) := by omega
      have after : ∀ id, s.nextStreamId + 1 ≤ id → s.streams id = none :=
        fun id above => beyond id (Nat.le_of_succ_le above)
      have scanned : KeyRange.scan s.streams startId (min endId s.nextStreamId + 1 - startId) =
          KeyRange.scan s.streams startId (endId + 1 - startId) := by
        rw [cut, KeyRange.scan_min after]
      simp only [getStreamsByIdRange, maxPageSize, reversed, empty, or_self, if_false, runs_bind,
        runs_peek, and_assoc, exists_and_left, exists_eq_left]
      rw [runs_collectStreams started within (Nat.zero_le _), List.nil_append, List.nil_append,
        scanned, rangeOverflows_iff started ended, not_not]

theorem Reachable.beyond (reached : Reachable address permitted now s) (id : ℕ)
    (above : s.nextStreamId ≤ id) : s.streams id = none :=
  (reached.book_wellFormed.blank id (Or.inl above)).1

/-- In every reachable state a range query is exact unless it overflows. -/
theorem rangeQueryExact_iff (reached : Reachable address permitted now s)
    (started : u64.Contains startId) (ended : u64.Contains endId) :
    RangeQueryExact env s startId endId limit ↔ ¬ s.RangeOverflows startId endId limit := by
  constructor
  · rintro ⟨listed, _, run⟩
    exact ((runs_getStreamsByIdRange reached.beyond started.2 ended.2).mp run).1
  · intro short
    refine ⟨_, ?_, (runs_getStreamsByIdRange reached.beyond started.2 ended.2).mpr
      ⟨short, rfl, rfl⟩⟩
    apply (KeyRange.lists_scan _ _ _).congr
    intro id _
    omega

/-- In every reachable state of the two contracts, for all arguments: the range query of the stream
contract is exact, and with it the queries for proposals, unless the range ends with the largest id
when the counter has got there, and the streams before it do not fill the page. -/
theorem range_queries_exact (reached : Reachable address permitted now s)
    {instant : ℕ} {governance : Governance.State}
    (governed : Governance.Reachable instant governance) (env : Env)
    (governanceEnv : Governance.Env) (startId endId limit : ℕ) (started : u64.Contains startId)
    (ended : u64.Contains endId) :
    RangeQueryExact env s startId endId limit ∧
        Governance.QueriesExact governanceEnv governance ↔
      ¬ (u64.upper ≤ s.nextStreamId ∧ u64.upper ≤ endId ∧
        (KeyRange.scan s.streams startId (endId - startId)).length < min limit 100) := by
  rw [and_iff_left (governed.queriesExact governanceEnv)]
  exact rangeQueryExact_iff reached started ended

/-- The second of three streams is drawn at its end and closed. -/
def Sample.closedBetween : List (Invocation Sample.contract) :=
  Sample.twoCreations ++
    [Sample.invocation 1 0 0 (.createStream Sample.sender (Sample.params 1000 10 0 0))
        (Eq.refl true),
      Sample.invocation 2 100 1 (.withdraw 1) (Eq.refl true),
      Sample.invocation 3 100 2 (.closeCompletedStream 1) (Eq.refl true)]

/-- The query for all streams skips the closed one. -/
theorem range_queries_exact_closed :
    let s := Script.run Sample.closedBetween Sample.genesis
    let governance :=
      ClockedSystem.play Governance.Invocation.next Governance.Sample.approved .deployed
    RangeQueryExact (Sample.env 1 100 2) s 0 (2 ^ 64 - 1) 200 ∧
      Governance.QueriesExact (Governance.Sample.env 0 0) governance ∧
      (getStreamsByIdRange 0 (2 ^ 64 - 1) 200 (Sample.env 1 100 2) s).toOption.map
        (fun returned => returned.1.map Stream.streamId) = some [0, 2] := by
  intro s governance
  have ordered : Script.Ordered Sample.closedBetween 0 :=
    ⟨by decide, by decide, by decide, by decide, by decide, trivial⟩
  have reached : Reachable Sample.contract anyCall 100 s :=
    Sample.reachable_run ordered
  have governedOrdered : ClockedSystem.Ordered
      (fun invocation : Governance.Invocation => invocation.env.timestamp)
      Governance.Sample.approved 0 :=
    ⟨by decide, by decide, by decide, by decide, trivial⟩
  have governed : Governance.Reachable _ governance :=
    (Governance.Sample.recorded governedOrdered).reachable
  have few : s.nextStreamId = 3 := by decide
  have queries := (range_queries_exact reached governed (Sample.env 1 100 2)
    (Governance.Sample.env 0 0) 0 (2 ^ 64 - 1) 200 (by decide) (by decide)).mpr ?_
  · exact ⟨queries.1, queries.2, by decide +kernel⟩
  · rintro ⟨counted, _⟩
    rw [few] at counted
    exact absurd counted (by decide)

/-! ## The last id -/

/-- A single id is reserved. -/
def Sample.reservation : Invocation Sample.contract :=
  Sample.invocation 1 0 0 (.reserveStreamIds Sample.sender 1 none) (Eq.refl true)

theorem nextStreamId_reservation (fits : ((s.nextStreamId + 1 : ℕ) : ℤ) ≤ u64.upper) :
    (Sample.reservation.call.run.commit Sample.reservation.env s).nextStreamId =
      s.nextStreamId + 1 := by
  have reserve : ∃ ids s', Runs (reserveStreamIds Sample.sender 1 none) Sample.reservation.env s
      ids s' ∧ s'.nextStreamId = s.nextStreamId + 1 :=
    ⟨_, _, runs_reserveStreamIds.mpr ⟨rfl, one_ne_zero, by decide, fits, rfl, rfl⟩, rfl⟩
  rcases reserve with ⟨ids, s', run, counted⟩
  have call : Runs Sample.reservation.call.run Sample.reservation.env s () s' :=
    runs_effect.mpr ⟨ids, run⟩
  rw [commit_of_runs call, counted]

theorem reachable_reservations {count : ℕ} (reached : Reachable Sample.contract anyCall 0 s) :
    Reachable Sample.contract anyCall 0
      (Script.run (List.replicate count Sample.reservation) s) := by
  induction count generalizing s with
  | zero => exact reached
  | succ count ih => exact ih (reached.invoke Sample.reservation le_rfl trivial)

/-- Nothing keeps the counter from reaching the largest id. -/
theorem nextStreamId_reservations {count : ℕ}
    (fits : ((s.nextStreamId + count : ℕ) : ℤ) ≤ u64.upper) :
    (Script.run (List.replicate count Sample.reservation) s).nextStreamId =
      s.nextStreamId + count := by
  induction count generalizing s with
  | zero => rfl
  | succ count ih =>
      have first := nextStreamId_reservation (s := s) (by omega)
      rw [List.replicate_succ, Script.run, ih (by omega), first]
      omega

/-- Once the counter has reached the largest id, the query for the streams from there on fails. -/
theorem range_query_overflows :
    let s := Script.run (List.replicate (2 ^ 64 - 1) Sample.reservation) Sample.genesis
    Reachable Sample.contract anyCall 0 s ∧ s.nextStreamId = 2 ^ 64 - 1 ∧
      ¬ RangeQueryExact (Sample.env 1 0 0) s (2 ^ 64 - 1) (2 ^ 64 - 1) 1 := by
  intro s
  have reached : Reachable Sample.contract anyCall 0 s :=
    reachable_reservations (Sample.reachable_genesis _)
  have counted : s.nextStreamId = 0 + (2 ^ 64 - 1) := nextStreamId_reservations (by decide)
  rw [zero_add] at counted
  refine ⟨reached, counted, ?_⟩
  rw [rangeQueryExact_iff reached (by decide) (by decide), not_not]
  refine ⟨?_, by decide, Nat.one_pos⟩
  rw [counted]
  decide

end Wallie.StreamContract
