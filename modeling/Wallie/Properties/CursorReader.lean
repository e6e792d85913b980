import Wallie.Properties.CursorPaging

/-!
# Reading the recipient index while it changes

The cursor names a stream to start after. A reader that passes on the last stream
it was shown, instead of the one that a page names, misses nothing: streams may
come and go between two pages, but what stays in the index is listed, once, by
the time a page is not full. It must not be left with stream 0 alone, whose id
asks for the beginning; with full pages of two streams or more it never is.
-/

namespace Wallie.StreamContract

open Fallible

variable {address recipient : Address} {env : Env} {s s' viewed : State} {page : Page}
  {ids listed : List ℕ} {now cursor limit start size id : ℕ} {input : Input address}

/-! ## One page -/

/-- The page after a stream has room for all the larger ones. -/
theorem mem_drop_pageStart (ascending : ids.Pairwise (· < ·)) (member : id ∈ ids)
    (after : cursor ≠ 0 → cursor < id) : id ∈ ids.drop (pageStart ids cursor) := by
  have split := List.take_append_drop (pageStart ids cursor) ids
  rw [← split] at member
  refine (List.mem_append.mp member).resolve_left fun before => ?_
  unfold pageStart at before
  split at before
  · rw [List.take_zero] at before
    cases before
  · next resumed =>
      have after := after resumed
      by_cases found : cursor ∈ ids
      · rw [binarySearch_of_mem ascending found] at before
        have placed := (AscendingList.getElem?_place ascending).mpr found
        simp only [List.take_add_one, placed, Option.toList_some, List.mem_append,
          List.mem_singleton] at before
        rcases before with before | rfl
        · exact absurd (AscendingList.lt_of_mem_take_place before) after.not_gt
        · exact after.false
      · rw [binarySearch_of_not_mem ascending found] at before
        exact absurd (AscendingList.lt_of_mem_take_place before) after.not_gt

/-- What a page leaves out is larger than what it shows. -/
theorem lt_of_mem_drop_take (ascending : ids.Pairwise (· < ·)) {shown : ℕ}
    (member : shown ∈ ids.take size) (left : id ∈ ids.drop size) : shown < id := by
  rw [← List.take_append_drop size ids, List.pairwise_append] at ascending
  exact ascending.2.2 shown member id left

/-! ## The reader -/

/-- A reader has listed streams of the recipient, each page after the last stream of the one
before, and other steps have led to `s` meanwhile; the stream `id` was in the index all along.
Nothing is listed after stream 0 alone, since a cursor of 0 starts from the beginning. -/
inductive Reading (address recipient : Address) (limit id : ℕ) : List ℕ → ℕ → State → Prop where
  | opened {now : ℕ} {s : State} (reached : Reachable address anyCall now s)
      (stays : id ∈ s.recipientStreams recipient) : Reading address recipient limit id [] now s
  | went {listed : List ℕ} {now : ℕ} {s s' : State} {input : Input address}
      (reading : Reading address recipient limit id listed now s) (order : now ≤ input.clock)
      (step : Input.Steps s input s') (stays : id ∈ s'.recipientStreams recipient) :
      Reading address recipient limit id listed input.clock s'
  | turned {listed : List ℕ} {now : ℕ} {s viewed : State} {env : Env} {page : Page}
      (reading : Reading address recipient limit id listed now s) (resumable : listed ≠ [0])
      (shown : Runs (getRecipientStreamsPaginated recipient (listed.getLast?.getD 0) limit) env s
        page viewed) : Reading address recipient limit id (listed ++ page.streamIds) now s

/-- What is listed is ascending, and the stream that stays is among it or larger. -/
structure Lists (id : ℕ) (listed : List ℕ) : Prop where
  ascending : listed.Pairwise (· < ·)
  ahead : id ∈ listed ∨ ∀ other ∈ listed, other < id

/-- What is listed is at most the cursor, which does not ask for the beginning. -/
theorem le_cursor (ascending : listed.Pairwise (· < ·)) (resumable : listed ≠ [0])
    (member : id ∈ listed) :
    id ≤ listed.getLast?.getD 0 ∧ listed.getLast?.getD 0 ∈ listed ∧ listed.getLast?.getD 0 ≠ 0 := by
  rcases List.eq_nil_or_concat listed with rfl | ⟨earlier, last, rfl⟩
  · cases member
  · rw [List.concat_eq_append] at *
    rw [List.getLast?_concat, Option.getD_some]
    rw [List.pairwise_append] at ascending
    have below : ∀ other ∈ earlier, other < last :=
      fun other member => ascending.2.2 other member last List.mem_cons_self
    refine ⟨?_, List.mem_append_right _ List.mem_cons_self, ?_⟩
    · rcases List.mem_append.mp member with before | here
      · exact (below id before).le
      · exact (List.mem_singleton.mp here).le
    · rintro rfl
      rcases earlier with _ | ⟨other, _⟩
      · exact resumable rfl
      · exact Nat.not_lt_zero _ (below other List.mem_cons_self)

/-- The next page lists larger streams, and the one that stays unless it is full. -/
theorem Lists.turn (lists : Lists id listed) (resumable : listed ≠ [0])
    (ascending : ids.Pairwise (· < ·)) (stays : id ∈ ids) {shown : List ℕ}
    (shows : shown = (ids.drop (pageStart ids (listed.getLast?.getD 0))).take size) :
    Lists id (listed ++ shown) ∧ (shown.length < size → id ∈ listed ++ shown) := by
  set cursor := listed.getLast?.getD 0 with named
  set rest := ids.drop (pageStart ids cursor)
  have ordered : rest.Pairwise (· < ·) := ascending.drop
  -- The page starts after everything that is listed.
  have later : ∀ other ∈ listed, ∀ next ∈ rest, other < next := by
    intro other member next shown
    rcases le_cursor lists.ascending resumable member with ⟨below, _, resumed⟩
    exact below.trans_lt (lt_of_mem_drop_pageStart ascending resumed shown)
  have all : id ∈ listed ∨ id ∈ rest := by
    rcases lists.ahead with here | ahead
    · exact Or.inl here
    · right
      refine mem_drop_pageStart ascending stays fun resumed => ahead cursor ?_
      rcases listed with _ | ⟨first, others⟩
      · exact absurd rfl resumed
      · exact (le_cursor lists.ascending resumable List.mem_cons_self).2.1
  rw [shows]
  refine ⟨⟨?_, ?_⟩, fun short => ?_⟩
  · rw [List.pairwise_append]
    refine ⟨lists.ascending, ordered.take, ?_⟩
    exact fun other member next shown => later other member next (List.mem_of_mem_take shown)
  · rcases all with here | ahead
    · exact Or.inl (List.mem_append_left _ here)
    · rw [← List.take_append_drop size rest] at ahead
      rcases List.mem_append.mp ahead with here | left
      · exact Or.inl (List.mem_append_right _ here)
      · right
        intro other member
        rcases List.mem_append.mp member with before | here
        · exact later other before id (List.mem_of_mem_drop left)
        · exact lt_of_mem_drop_take ordered here left
  · rw [List.length_take] at short
    have whole : rest.take size = rest := List.take_of_length_le (by omega)
    rw [whole, List.mem_append]
    exact all

theorem Reading.reachable (reading : Reading address recipient limit id listed now s) :
    Reachable address anyCall now s ∧ id ∈ s.recipientStreams recipient := by
  induction reading with
  | opened reached stays => exact ⟨reached, stays⟩
  | @went _ _ before _ input _ order step stays ih =>
      have permitted : onCalls anyCall before input := by cases input <;> trivial
      exact ⟨ih.1.move order permitted step, stays⟩
  | turned _ _ _ ih => exact ih

theorem Reading.lists (reading : Reading address recipient limit id listed now s) :
    Lists id listed := by
  induction reading with
  | opened _ _ => exact ⟨List.Pairwise.nil, Or.inr fun _ member => absurd member List.not_mem_nil⟩
  | went _ _ _ _ ih => exact ih
  | turned reading resumable shown ih =>
      rcases reading.reachable with ⟨reached, stays⟩
      have ascending := reached.registrySound.index.ascending recipient
      rcases runs_getRecipientStreamsPaginated.mp shown with ⟨_, rfl, _⟩
      exact (ih.turn resumable ascending stays rfl).1

/-- Whatever is called between two pages: a reader that starts each page after the last stream it
was shown, which is not stream 0 on its own, lists every stream at most once, in ascending order,
and by the time a page is not full it has listed every stream that was in the index of the
recipient all along. A full page of two streams or more does not leave it with stream 0 alone. -/
theorem reader_misses_nothing (reading : Reading address recipient limit id listed now s) :
    listed.Pairwise (· < ·) ∧
      ∀ env page viewed, listed ≠ [0] →
        Runs (getRecipientStreamsPaginated recipient (listed.getLast?.getD 0) limit) env s page
          viewed →
        (page.streamIds.length < min limit recipientStreamsPageLimit →
          id ∈ listed ++ page.streamIds) ∧
        (2 ≤ limit → min limit recipientStreamsPageLimit ≤ page.streamIds.length →
          listed ++ page.streamIds ≠ [0]) := by
  refine ⟨reading.lists.ascending, ?_⟩
  intro env page viewed resumable shown
  rcases reading.reachable with ⟨reached, stays⟩
  have ascending := reached.registrySound.index.ascending recipient
  rcases runs_getRecipientStreamsPaginated.mp shown with ⟨_, rfl, _⟩
  refine ⟨(reading.lists.turn resumable ascending stays rfl).2, ?_⟩
  intro several full alone
  have short := congrArg List.length alone
  have limits : 2 ≤ recipientStreamsPageLimit := by decide
  rw [List.length_append, List.length_singleton] at short
  omega

namespace Sample

/-- Three streams of the recipient. -/
def threeCreations : List (Invocation contract) :=
  twoCreations ++ [invocation 1 0 0 (.createStream sender (params 1000 10 0 0)) (Eq.refl true)]

def cancellation : Invocation contract :=
  invocation 1 0 0 (.cancelStream 1) (Eq.refl true)

def removal : Invocation contract :=
  invocation 3 0 0 (.closeCancelledStream 1) (Eq.refl true)

end Sample

/-- The reader waits for a call. -/
theorem Reading.called (reading : Reading address recipient limit id listed now s)
    (invocation : Invocation address) (order : now ≤ invocation.env.timestamp)
    (stays : id ∈ (invocation.call.run.commit invocation.env s).recipientStreams recipient) :
    Reading address recipient limit id listed invocation.env.timestamp
      (invocation.call.run.commit invocation.env s) := by
  have order : now ≤ (Input.invoke invocation).clock := order
  exact reading.went order rfl stays

/-- The last stream that was listed is removed, and the page after it still lists the next one. -/
theorem reader_misses_nothing_removed :
    let s := Script.run Sample.threeCreations Sample.genesis
    let s' := Script.run [Sample.cancellation, Sample.removal] s
    s'.recipientStreams Sample.recipient = [0, 2] ∧ ∃ page,
      Runs (getRecipientStreamsPaginated Sample.recipient 1 2) (Sample.env 3 0 0) s' page s' ∧
        2 ∈ [0, 1] ++ page.streamIds := by
  intro s s'
  have ordered : Script.Ordered Sample.threeCreations 0 := ⟨le_rfl, le_rfl, le_rfl, trivial⟩
  have reached : Reachable Sample.contract anyCall 0 s := Sample.reachable_run ordered
  have first : Runs (getRecipientStreamsPaginated Sample.recipient 0 2) (Sample.env 3 0 0) s
      { streamIds := [0, 1], nextCursor := 2 } s :=
    runs_getRecipientStreamsPaginated.mpr ⟨by decide, by decide +kernel, rfl⟩
  have opened : Reading Sample.contract Sample.recipient 2 2 [] 0 s :=
    .opened reached (by decide +kernel)
  have turned : Reading Sample.contract Sample.recipient 2 2 [0, 1] 0 s :=
    opened.turned (by decide) first
  let middle := Sample.cancellation.call.run.commit Sample.cancellation.env s
  have cancelled : Reading Sample.contract Sample.recipient 2 2 [0, 1] 0 middle :=
    turned.called Sample.cancellation le_rfl (by decide +kernel)
  have closed : Reading Sample.contract Sample.recipient 2 2 [0, 1] 0 s' :=
    cancelled.called Sample.removal le_rfl (by decide +kernel)
  have index : s'.recipientStreams Sample.recipient = [0, 2] := by decide +kernel
  have second : Runs (getRecipientStreamsPaginated Sample.recipient 1 2) (Sample.env 3 0 0) s'
      { streamIds := [2], nextCursor := 0 } s' :=
    runs_getRecipientStreamsPaginated.mpr ⟨by rw [index]; decide, by rw [index]; decide, rfl⟩
  exact ⟨index, _, second,
    ((reader_misses_nothing closed).2 (Sample.env 3 0 0) _ s' (by decide) second).1 (by decide)⟩

end Wallie.StreamContract
