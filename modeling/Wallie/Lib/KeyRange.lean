import Mathlib.Data.List.Sort
import Mathlib.Tactic.Common

/-!
# Scanning a range of keys

A store with natural keys is read from one key to another, key by key, and the
keys that store nothing are skipped. The scan lists what is stored in the range
in the order of the keys, and scans of adjacent ranges make one scan.
-/

namespace KeyRange

variable {α : Type*} {entries : ℕ → Option α} {within : ℕ → Prop} {start count : ℕ}

/-- What is stored under the `count` keys from `start` on. -/
def scan (entries : ℕ → Option α) (start count : ℕ) : List α :=
  (List.range' start count).filterMap entries

/-- The list has an entry for each key that is `within` the range and stores one, in ascending order
of the keys. -/
def Lists (entries : ℕ → Option α) (within : ℕ → Prop) (listed : List α) : Prop :=
  ∃ keys : List ℕ, keys.Pairwise (· < ·) ∧
    (∀ key, key ∈ keys ↔ within key ∧ (entries key).isSome = true) ∧
      keys.map entries = listed.map some

@[simp]
theorem scan_zero (entries : ℕ → Option α) (start : ℕ) : scan entries start 0 = [] :=
  rfl

theorem scan_succ (entries : ℕ → Option α) (start count : ℕ) :
    scan entries start (count + 1) = (entries start).toList ++ scan entries (start + 1) count := by
  cases stored : entries start <;> simp [scan, List.range'_succ, stored]

theorem scan_add (entries : ℕ → Option α) (start first second : ℕ) :
    scan entries start (first + second) =
      scan entries start first ++ scan entries (start + first) second := by
  rw [scan, scan, scan, ← List.filterMap_append, List.range'_append_1]

/-- Beyond the last key that stores something nothing is found. -/
theorem scan_eq_nil (beyond : ∀ key, start ≤ key → entries key = none) (count : ℕ) :
    scan entries start count = [] := by
  rw [scan, List.filterMap_eq_nil_iff]
  intro key member
  exact beyond key (List.mem_range'_1.mp member).1

/-- A scan may stop at `bound` when no key from there on stores anything. -/
theorem scan_min {bound : ℕ} (beyond : ∀ key, bound ≤ key → entries key = none)
    (start count : ℕ) :
    scan entries start (min count (bound - start)) = scan entries start count := by
  rcases le_total count (bound - start) with fits | cut
  · rw [min_eq_left fits]
  · have rest : scan entries (start + (bound - start)) (count - (bound - start)) = [] :=
      scan_eq_nil (fun key above => beyond key (by omega)) _
    have split := scan_add entries start (bound - start) (count - (bound - start))
    rw [rest, List.append_nil, Nat.add_sub_cancel' cut] at split
    rw [min_eq_right cut, split]

/-- Scans of adjacent pages of one size make one scan. -/
theorem flatMap_scan_pages (entries : ℕ → Option α) (size pages : ℕ) :
    ((List.range pages).flatMap fun page => scan entries (page * size) size) =
      scan entries 0 (pages * size) := by
  induction pages with
  | zero => simp
  | succ pages ih =>
      rw [List.range_succ, List.flatMap_append, ih, List.flatMap_singleton, Nat.succ_mul, scan_add,
        Nat.zero_add]

theorem lists_scan (entries : ℕ → Option α) (start count : ℕ) :
    Lists entries (fun key => start ≤ key ∧ key < start + count) (scan entries start count) := by
  refine ⟨(List.range' start count).filter fun key => (entries key).isSome, ?_, ?_, ?_⟩
  · exact List.Pairwise.filter _ List.pairwise_lt_range'
  · intro key
    rw [List.mem_filter, List.mem_range'_1]
  · unfold scan
    induction List.range' start count with
    | nil => rfl
    | cons key keys ih => cases stored : entries key <;> simp [stored, ih]

/-- Ranges with the same stored keys have the same lists. -/
theorem Lists.congr {within' : ℕ → Prop} {listed : List α} (lists : Lists entries within listed)
    (same : ∀ key, (entries key).isSome = true → (within key ↔ within' key)) :
    Lists entries within' listed := by
  rcases lists with ⟨keys, ascending, members, stored⟩
  refine ⟨keys, ascending, fun key => ?_, stored⟩
  rw [members key]
  exact and_congr_left (same key)

/-! ## Adjacent ranges -/

/-- Two ranges make one range exactly when the second goes on where the first ends. -/
theorem exists_range'_eq_append {first second : ℕ} {m n : ℕ} (left : m ≠ 0) (right : n ≠ 0) :
    (∃ start, List.range' first m ++ List.range' second n = List.range' start (m + n)) ↔
      first + m = second := by
  rcases Nat.exists_eq_succ_of_ne_zero left with ⟨m, rfl⟩
  rcases Nat.exists_eq_succ_of_ne_zero right with ⟨n, rfl⟩
  constructor
  · rintro ⟨start, joined⟩
    rw [← List.range'_append_1] at joined
    rcases List.append_inj joined (by simp) with ⟨before, after⟩
    rw [List.range'_succ, List.range'_succ] at before after
    rw [(List.cons.inj before).1, (List.cons.inj after).1]
  · rintro rfl
    exact ⟨first, List.range'_append_1⟩

end KeyRange
