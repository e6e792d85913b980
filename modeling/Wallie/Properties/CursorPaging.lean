import Wallie.Ledger.StreamRegistry
import Wallie.StreamContract.Queries
import Wallie.StreamContract.Script

/-!
# Paging through the recipient index

A page names the stream that the next one should start with, but the next call
resumes after the stream it is given. So the first stream of every page but the
first is left out, and paging lists the whole index only if it fits one page.
-/

namespace Wallie.StreamContract

open Fallible

variable {address recipient : Address} {env : Env} {s s' : State} {page : Page}
  {ids listed : List ℕ} {now cursor limit start size id : ℕ}

/-- Calling from `cursor`, and then from each returned cursor until it is 0, lists `listed`. -/
inductive Pages (env : Env) (s : State) (recipient : Address) (limit : ℕ) : ℕ → List ℕ → Prop
  | last {cursor : ℕ} {page : Page} {viewed : State}
      (run : Runs (getRecipientStreamsPaginated recipient cursor limit) env s page viewed)
      (finished : page.nextCursor = 0) : Pages env s recipient limit cursor page.streamIds
  | more {cursor : ℕ} {page : Page} {viewed : State} {rest : List ℕ}
      (run : Runs (getRecipientStreamsPaginated recipient cursor limit) env s page viewed)
      (unfinished : page.nextCursor ≠ 0)
      (later : Pages env s recipient limit page.nextCursor rest) :
      Pages env s recipient limit cursor (page.streamIds ++ rest)

/-- Paging from the beginning ends, with the index of the recipient in ascending order. -/
def PagingCovers (env : Env) (s : State) (recipient : Address) (limit : ℕ) : Prop :=
  ∃ listed, Pages env s recipient limit 0 listed ∧ listed = s.recipientStreams recipient ∧
    listed.Pairwise (· < ·)

/-! ## One page -/

/-- The page of `size` ids from `start` on. -/
def pageOf (ids : List ℕ) (start size : ℕ) : Page where
  streamIds := (ids.drop start).take size
  nextCursor := ids[start + size]?.getD 0

theorem runs_getRecipientStreamsPaginated :
    Runs (getRecipientStreamsPaginated recipient cursor limit) env s page s' ↔
      pageStart (s.recipientStreams recipient) cursor + min limit recipientStreamsPageLimit ≤
          u32.upper ∧
        page = pageOf (s.recipientStreams recipient)
          (pageStart (s.recipientStreams recipient) cursor)
          (min limit recipientStreamsPageLimit) ∧ s' = s := by
  simp only [getRecipientStreamsPaginated, runs_bind, runs_peek, runs_rejectIf, and_assoc,
    exists_and_left, exists_eq_left, exists_const, runs_ite, runs_getOrReject, runs_pure, not_lt,
    Nat.cast_add]
  generalize pageStart (s.recipientStreams recipient) cursor = start
  generalize min limit recipientStreamsPageLimit = size
  generalize s.recipientStreams recipient = ids
  refine and_congr_right fun _ => ?_
  rcases lt_or_ge (start + size) ids.length with within | beyond
  · simp [pageOf, min_eq_left within.le, within]
  · have rest : (ids.drop start).length ≤ size := by
      rw [List.length_drop]
      omega
    simp [pageOf, beyond, List.take_of_length_le rest, ← List.length_drop]

/-- Paging starts with the first stream. -/
@[simp]
theorem pageStart_zero : pageStart ids 0 = 0 :=
  if_pos rfl

@[simp]
theorem pageOf_streamIds : (pageOf ids start size).streamIds = (ids.drop start).take size :=
  rfl

/-- A page that is followed by another names the stream after its last one. -/
theorem nextCursor_of_ne_zero (unfinished : (pageOf ids start size).nextCursor ≠ 0) :
    ∃ within : start + size < ids.length,
      (pageOf ids start size).nextCursor = ids[start + size] := by
  rcases lt_or_ge (start + size) ids.length with within | beyond
  · exact ⟨within, by simp [pageOf, within]⟩
  · exact absurd (by simp [pageOf, beyond]) unfinished

theorem nextCursor_mem (unfinished : (pageOf ids start size).nextCursor ≠ 0) :
    (pageOf ids start size).nextCursor ∈ (ids.drop start).drop size := by
  rcases nextCursor_of_ne_zero unfinished with ⟨within, names⟩
  rw [names, List.drop_drop, List.drop_eq_getElem_cons within]
  exact List.mem_cons_self

/-- The page after a stream starts with the next larger one. -/
theorem lt_of_mem_drop_pageStart (ascending : ids.Pairwise (· < ·)) (resumed : cursor ≠ 0)
    (member : id ∈ ids.drop (pageStart ids cursor)) : cursor < id := by
  by_cases found : cursor ∈ ids
  · rw [pageStart, if_neg resumed, binarySearch_of_mem ascending found] at member
    have placed := (AscendingList.getElem?_place ascending).mpr found
    rcases List.getElem?_eq_some_iff.mp placed with ⟨within, same⟩
    have split := List.drop_eq_getElem_cons within
    rw [same] at split
    have tail : (cursor :: ids.drop (AscendingList.place ids cursor + 1)).Pairwise (· < ·) :=
      split ▸ ascending.drop
    exact (List.pairwise_cons.mp tail).1 id member
  · rw [pageStart, if_neg resumed, binarySearch_of_not_mem ascending found] at member
    refine lt_of_le_of_ne (AscendingList.le_of_mem_drop_place ascending member) ?_
    rintro rfl
    exact found (List.mem_of_mem_drop member)

/-- A page starts within the index. -/
theorem pageStart_le (ascending : ids.Pairwise (· < ·)) (cursor : ℕ) :
    pageStart ids cursor ≤ ids.length := by
  unfold pageStart
  split
  · exact Nat.zero_le _
  · by_cases found : cursor ∈ ids
    · rw [binarySearch_of_mem ascending found]
      have placed := (AscendingList.getElem?_place ascending).mpr found
      exact (List.getElem?_eq_some_iff.mp placed).choose
    · rw [binarySearch_of_not_mem ascending found]
      exact (List.takeWhile_prefix _).length_le

/-- Paging goes on after the stream that a page names. -/
theorem pageStart_getElem (ascending : ids.Pairwise (· < ·)) {position : ℕ}
    (within : position < ids.length) (positive : ids[position] ≠ 0) :
    pageStart ids ids[position] = position + 1 := by
  rw [pageStart, if_neg positive, binarySearch_of_mem ascending (List.getElem_mem within),
    AscendingList.place_getElem ascending within]

/-! ## All pages -/

/-- What is listed from a cursor on is after it. -/
theorem Pages.after (pages : Pages env s recipient limit cursor listed)
    (ascending : (s.recipientStreams recipient).Pairwise (· < ·)) (resumed : cursor ≠ 0) :
    ∀ id ∈ listed, cursor < id := by
  induction pages with
  | last run _ =>
      rcases runs_getRecipientStreamsPaginated.mp run with ⟨-, rfl, -⟩
      intro id member
      exact lt_of_mem_drop_pageStart ascending resumed (List.mem_of_mem_take member)
  | more run unfinished _ ih =>
      rcases runs_getRecipientStreamsPaginated.mp run with ⟨-, rfl, -⟩
      have named := lt_of_mem_drop_pageStart ascending resumed
        (List.mem_of_mem_drop (nextCursor_mem unfinished))
      intro id member
      rcases List.mem_append.mp member with here | later
      · exact lt_of_mem_drop_pageStart ascending resumed (List.mem_of_mem_take here)
      · exact named.trans (ih unfinished id later)

/-- Paging always ends, when the positions fit the counter of the code. -/
theorem paging_ends (ascending : (s.recipientStreams recipient).Pairwise (· < ·))
    (fits : (s.recipientStreams recipient).length + recipientStreamsPageLimit ≤ u32.upper)
    (cursor : ℕ) : ∃ listed, Pages env s recipient limit cursor listed := by
  induction left : (s.recipientStreams recipient).length -
    pageStart (s.recipientStreams recipient) cursor using Nat.strong_induction_on
    generalizing cursor with
  | _ left ih =>
      set ids := s.recipientStreams recipient
      set start := pageStart ids cursor
      set size := min limit recipientStreamsPageLimit with size_eq
      have inside : start ≤ ids.length := pageStart_le ascending cursor
      have counted : (start : ℤ) + size ≤ u32.upper := by omega
      have run : Runs (getRecipientStreamsPaginated recipient cursor limit) env s
          (pageOf ids start size) s :=
        runs_getRecipientStreamsPaginated.mpr ⟨counted, rfl, rfl⟩
      by_cases finished : (pageOf ids start size).nextCursor = 0
      · exact ⟨_, .last run finished⟩
      · rcases nextCursor_of_ne_zero finished with ⟨within, names⟩
        have resumes : pageStart ids (pageOf ids start size).nextCursor = start + size + 1 := by
          rw [names] at finished ⊢
          exact pageStart_getElem ascending within finished
        rcases ih (ids.length - (start + size + 1)) (by omega) _ (by rw [resumes]) with
          ⟨rest, later⟩
        exact ⟨_, .more run finished later⟩

/-- An index longer than a page is not covered: the second page misses its first stream. -/
theorem length_le_of_covers (ascending : (s.recipientStreams recipient).Pairwise (· < ·))
    (covers : PagingCovers env s recipient limit) :
    (s.recipientStreams recipient).length ≤ min limit recipientStreamsPageLimit := by
  rcases covers with ⟨listed, pages, whole, -⟩
  by_contra! longer
  cases pages with
  | last run _ =>
      rcases runs_getRecipientStreamsPaginated.mp run with ⟨-, rfl, -⟩
      have short := congrArg List.length whole
      simp only [pageOf_streamIds, List.length_take, List.length_drop] at short
      omega
  | more run unfinished later =>
      rcases runs_getRecipientStreamsPaginated.mp run with ⟨-, rfl, -⟩
      have after := later.after ascending unfinished
      have missed := nextCursor_mem unfinished
      have rest := whole.trans (List.take_append_drop (min limit recipientStreamsPageLimit) _).symm
      simp only [pageOf_streamIds, pageStart_zero, List.drop_zero,
        List.append_cancel_left_eq] at rest
      simp only [pageStart_zero, List.drop_zero, ← rest] at missed
      -- The stream that the first page names would have to be after itself.
      exact (after _ missed).false

/-- An index that fits the first page is covered by it. -/
theorem covers_of_length_le (ascending : (s.recipientStreams recipient).Pairwise (· < ·))
    (short : (s.recipientStreams recipient).length ≤ min limit recipientStreamsPageLimit) :
    PagingCovers env s recipient limit := by
  have run : Runs (getRecipientStreamsPaginated recipient 0 limit) env s
      (pageOf (s.recipientStreams recipient) 0 (min limit recipientStreamsPageLimit)) s := by
    refine runs_getRecipientStreamsPaginated.mpr ⟨?_, rfl, rfl⟩
    have counted : (recipientStreamsPageLimit : ℤ) ≤ u32.upper := by decide
    rw [pageStart_zero]
    omega
  have finished : (pageOf (s.recipientStreams recipient) 0
      (min limit recipientStreamsPageLimit)).nextCursor = 0 := by
    by_contra unfinished
    rcases nextCursor_of_ne_zero unfinished with ⟨within, _⟩
    omega
  refine ⟨_, .last run finished, ?_, ?_⟩
  · exact List.take_of_length_le short
  · rwa [pageOf, List.drop_zero, List.take_of_length_le short]

/-- On every reachable state and with any limit, paging lists the whole index of a recipient if and
only if the index fits the first page. -/
theorem paging_covers_iff (reached : Reachable address anyCall now s) (recipient : Address)
    (limit : ℕ) :
    PagingCovers env s recipient limit ↔
      (s.recipientStreams recipient).length ≤ min limit recipientStreamsPageLimit := by
  have ascending := reached.registrySound.index.ascending recipient
  exact ⟨length_le_of_covers ascending, covers_of_length_le ascending⟩

/-- A page of two streams covers the two streams of the sample recipient. -/
theorem paging_covers_iff_two :
    let s := Script.run Sample.twoCreations Sample.genesis
    s.recipientStreams Sample.recipient = [0, 1] ∧
      PagingCovers (Sample.env 3 50 5) s Sample.recipient 2 := by
  intro s
  have ordered : Script.Ordered Sample.twoCreations 0 := ⟨le_rfl, le_rfl, trivial⟩
  have reached : Reachable Sample.contract anyCall 0 s :=
    Sample.reachable_run ordered
  exact ⟨by decide, (paging_covers_iff reached Sample.recipient 2).mpr (by decide)⟩

/-- With pages of one stream the second of the two is never listed. -/
theorem not_always_paging_covers :
    ¬ ∀ env s recipient limit,
      Reachable env.currentContractAddress anyCall env.timestamp s → 1 ≤ limit →
        PagingCovers env s recipient limit := by
  intro always
  have ordered : Script.Ordered Sample.twoCreations 0 := ⟨le_rfl, le_rfl, trivial⟩
  have created : Reachable Sample.contract anyCall 0
      (Script.run Sample.twoCreations Sample.genesis) :=
    Sample.reachable_run ordered
  have covers := always (Sample.env 3 50 5) _ Sample.recipient 1
    (.tick created (by decide)) le_rfl
  have ascending : ((Script.run Sample.twoCreations Sample.genesis).recipientStreams
      Sample.recipient).Pairwise (· < ·) := by
    decide
  exact absurd (length_le_of_covers ascending covers) (by decide)

end Wallie.StreamContract
