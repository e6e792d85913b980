import Wallie.Governance.Ballots
import Wallie.Lib.KeyRange

/-!
# Pages of proposals

A query of the governance contract lists the proposals of one page of ids. No
start and no limit makes it fail, and the pages of one size, taken one after the
other, list every proposal once.
-/

namespace Wallie.Governance

open Fallible
open StreamContract (Address Bytes u32)

variable {env : Env} {s s' : State} {now startId current remaining limit : ℕ}
  {result page : List Proposal} {call : Call}

/-! ## The counter -/

theorem fits_of_propose {proposer target : Address} {calldata : Bytes} {id : ℕ}
    (run : Runs (propose proposer target calldata) env s id s') :
    ((s.nextProposalId + 1 : ℕ) : ℤ) ≤ u32.upper := by
  simp only [propose, incrementProposalId, runs_bind, runs_requireAuth, runs_isRegisteredSigner,
    runs_rejectIf, runs_peek, exists_and_left, and_assoc, exists_eq_left, exists_const,
    not_lt] at run
  rcases run with ⟨_, _, _, _, _, _, _, fits, _⟩
  exact fits

/-- Only a proposal moves the counter. -/
theorem counter_fits_of_runs (run : Runs call.run env s () s')
    (fits : (s.nextProposalId : ℤ) ≤ u32.upper) : (s'.nextProposalId : ℤ) ≤ u32.upper := by
  have effect := call.effect run
  cases effect with
  | init _ _ _ _ _ =>
      have zero : ((0 : ℕ) : ℤ) ≤ u32.upper := by decide
      exact zero
  | propose _ =>
      simp only [Call.run, runs_bind] at run
      rcases run with ⟨_, _, run, _⟩
      exact fits_of_propose run
  | setAdmin _ | addSigner _ _ _ _ | removeNobody | removeSigner _ _ _ _ _
  | approve _ _ _ _ _ _ _ | approveLast _ _ _ _ _ _ _ | execute _ _ _ _ _ _
  | cancelProposal _ _ _ => exact fits

/-- The counter of proposals is a value of its type. -/
theorem Reachable.counter_fits (reached : Reachable now s) :
    (s.nextProposalId : ℤ) ≤ u32.upper := by
  apply reached.invariant fun _ s => (s.nextProposalId : ℤ) ≤ u32.upper
  · rintro _ _ rfl
    decide
  · exact fun _ _ _ _ kept => kept
  · rintro s invocation s' _ rfl kept
    rcases commit_cases invocation.call.run invocation.env s with ⟨_, run⟩ | failed
    · exact counter_fits_of_runs run kept
    · change Invocation.next invocation s = s at failed
      rw [failed]
      exact kept

/-! ## One page -/

theorem runs_collectProposals (within : ((current + remaining : ℕ) : ℤ) ≤ u32.upper) :
    Runs (collectProposals remaining current result) env s page s' ↔
      page = result ++ KeyRange.scan s.proposals current remaining ∧ s' = s := by
  induction remaining generalizing current result with
  | zero => simp [collectProposals]
  | succ remaining ih =>
      have next : ((current + 1 : ℕ) : ℤ) ≤ u32.upper := by omega
      have rest : ((current + 1 + remaining : ℕ) : ℤ) ≤ u32.upper := by omega
      simp only [collectProposals, runs_bind, runs_peek, runs_rejectIf, and_assoc, exists_and_left,
        exists_eq_left, exists_const, not_lt, next, true_and, ih rest, KeyRange.scan_succ,
        List.append_assoc]

/-- Nothing is stored from the counter on. -/
theorem Reachable.beyond (reached : Reachable now s) (id : ℕ) (above : s.nextProposalId ≤ id) :
    s.proposals id = none := by
  rw [← Option.not_isSome_iff_eq_none, reached.dense id]
  exact not_lt.mpr above

/-- A query lists what its page of ids holds, from any start and for any limit. -/
theorem runs_getProposalsByIdRange (reached : Reachable now s) :
    Runs (getProposalsByIdRange startId limit) env s page s' ↔
      page = KeyRange.scan s.proposals startId (min limit maxPageSize) ∧ s' = s := by
  have counted : (s.nextProposalId : ℤ) ≤ 2 ^ 32 - 1 := reached.counter_fits
  unfold getProposalsByIdRange
  generalize min limit maxPageSize = pageSize
  by_cases empty : pageSize = 0
  · simp [empty]
  · by_cases late : s.nextProposalId ≤ startId
    · have none_left : KeyRange.scan s.proposals startId pageSize = [] :=
        KeyRange.scan_eq_nil (fun id above => reached.beyond id (late.trans above)) _
      simp [empty, late, none_left]
    · have stop : min (min (startId + pageSize) (2 ^ 32 - 1)) s.nextProposalId - startId =
          min pageSize (s.nextProposalId - startId) := by omega
      have within : ((startId + min pageSize (s.nextProposalId - startId) : ℕ) : ℤ) ≤
          u32.upper := by
        change _ ≤ (2 ^ 32 - 1 : ℤ)
        omega
      simp only [empty, late, if_false, runs_bind, runs_peek, and_assoc, exists_and_left,
        exists_eq_left, stop, runs_collectProposals within, List.nil_append,
        KeyRange.scan_min reached.beyond]

/-! ## All pages -/

/-- The queries of a state: each lists the proposals of its page, and the pages of one size at the
starts up to the number of proposals make the list of all proposals. -/
structure QueriesExact (env : Env) (s : State) : Prop where
  page : ∀ startId limit : ℕ, u32.Contains startId → u32.Contains limit →
    ∃ page, Runs (getProposalsByIdRange startId limit) env s page s ∧
      KeyRange.Lists s.proposals (fun id => startId ≤ id ∧ id < startId + min limit 100) page
  pages : ∀ size, 1 ≤ size → size ≤ 100 →
    ∃ pages : List (List Proposal), pages.length = s.nextProposalId / size + 1 ∧
      (∀ (index : ℕ) (within : index < pages.length), u32.Contains (index * size : ℕ) ∧
        Runs (getProposalsByIdRange (index * size) size) env s pages[index] s) ∧
      KeyRange.Lists s.proposals (fun _ => True) pages.flatten

/-- In every reachable state the queries are exact. -/
theorem Reachable.queriesExact (reached : Reachable now s) (env : Env) : QueriesExact env s where
  page startId limit _ _ :=
    ⟨_, (runs_getProposalsByIdRange reached).mpr ⟨rfl, rfl⟩, KeyRange.lists_scan _ _ _⟩
  pages size positive few := by
    refine ⟨(List.range (s.nextProposalId / size + 1)).map fun index =>
      KeyRange.scan s.proposals (index * size) size, by simp, ?_, ?_⟩
    · intro index within
      rw [List.length_map, List.length_range] at within
      have started : index * size ≤ s.nextProposalId :=
        (Nat.mul_le_mul_right size (Nat.lt_succ_iff.mp within)).trans (Nat.div_mul_le_self _ _)
      have capped : min size maxPageSize = size := min_eq_left few
      refine ⟨⟨Int.natCast_nonneg _, (Int.ofNat_le.mpr started).trans reached.counter_fits⟩, ?_⟩
      rw [runs_getProposalsByIdRange reached, capped, List.getElem_map, List.getElem_range]
      exact ⟨rfl, rfl⟩
    · rw [← List.flatMap_def, KeyRange.flatMap_scan_pages]
      apply (KeyRange.lists_scan _ _ _).congr
      intro id stored
      have below : id < s.nextProposalId := (reached.dense id).mp stored
      have covered : s.nextProposalId < (s.nextProposalId / size + 1) * size := by
        rw [mul_comm]
        exact Nat.lt_mul_div_succ _ positive
      simp only [Nat.zero_le, Nat.zero_add, true_and, iff_true]
      exact below.trans covered

end Wallie.Governance
