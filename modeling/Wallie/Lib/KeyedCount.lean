import Mathlib.Data.Set.Card
import Mathlib.Order.Interval.Set.Nat

/-!
# Counting the records of a keyed store

The keys of a store whose records are counted, and what writing one slot does to
the number of them: a key enters, leaves, or nothing changes.
-/

namespace KeyedCount

variable {κ α : Type*}

/-- The keys of the records that are counted. -/
def keys (counts : α → Prop) (store : κ → Option α) : Set κ :=
  {key | ∃ record, store key = some record ∧ counts record}

variable {counts : α → Prop} {store : κ → Option α} {key : κ} {entry : Option α}
  {record : α}

theorem mem_keys : key ∈ keys counts store ↔ ∃ record, store key = some record ∧ counts record :=
  Iff.rfl

theorem mem_keys_of_stored (stored : store key = some record) :
    key ∈ keys counts store ↔ counts record := by
  rw [mem_keys, stored]
  constructor
  · rintro ⟨_, same, counted⟩
    rwa [Option.some.inj same]
  · exact fun counted => ⟨record, rfl, counted⟩

theorem not_mem_keys_of_absent (absent : store key = none) : key ∉ keys counts store := by
  rintro ⟨record, stored, _⟩
  rw [absent] at stored
  cases stored

theorem ncard_keys_pos (finite : (keys counts store).Finite) (present : key ∈ keys counts store) :
    0 < (keys counts store).ncard :=
  (Set.ncard_pos finite).mpr ⟨key, present⟩

section Update

variable [DecidableEq κ]

theorem keys_update_of_counted (counted : counts record) :
    keys counts (Function.update store key (some record)) = insert key (keys counts store) := by
  ext other
  rcases eq_or_ne other key with rfl | distinct
  · simp [mem_keys, counted]
  · simp [mem_keys, distinct]

theorem keys_update_of_uncounted (uncounted : ∀ record, entry = some record → ¬ counts record) :
    keys counts (Function.update store key entry) = keys counts store \ {key} := by
  ext other
  rcases eq_or_ne other key with rfl | distinct
  · simpa [mem_keys] using uncounted
  · simp [mem_keys, distinct]

/-- A counted key keeps its place. -/
theorem keys_update_of_stays (present : key ∈ keys counts store) (counted : counts record) :
    keys counts (Function.update store key (some record)) = keys counts store := by
  rw [keys_update_of_counted counted, Set.insert_eq_of_mem present]

/-- A key that was not counted is still not counted. -/
theorem keys_update_of_outside (absent : key ∉ keys counts store)
    (uncounted : ∀ record, entry = some record → ¬ counts record) :
    keys counts (Function.update store key entry) = keys counts store := by
  rw [keys_update_of_uncounted uncounted, Set.sdiff_singleton_eq_self absent]

theorem ncard_keys_update_of_enters (finite : (keys counts store).Finite)
    (absent : key ∉ keys counts store) (counted : counts record) :
    (keys counts (Function.update store key (some record))).ncard =
      (keys counts store).ncard + 1 := by
  rw [keys_update_of_counted counted, Set.ncard_insert_of_notMem absent finite]

theorem ncard_keys_update_of_leaves (finite : (keys counts store).Finite)
    (present : key ∈ keys counts store)
    (uncounted : ∀ record, entry = some record → ¬ counts record) :
    (keys counts (Function.update store key entry)).ncard + 1 = (keys counts store).ncard := by
  rw [keys_update_of_uncounted uncounted, Set.ncard_sdiff_singleton_add_one present finite]

end Update

/-! ## Stores with keys below a bound -/

section Bounded

variable {store : ℕ → Option α} {bound : ℕ}

theorem keys_subset (below : ∀ key record, store key = some record → key < bound) :
    keys counts store ⊆ Set.Iio bound := by
  rintro key ⟨record, stored, _⟩
  exact below key record stored

theorem finite_keys (below : ∀ key record, store key = some record → key < bound) :
    (keys counts store).Finite :=
  (Set.finite_Iio bound).subset (keys_subset below)

/-- A record that is not counted leaves room below the bound. -/
theorem ncard_keys_lt {key : ℕ} {record : α}
    (below : ∀ key record, store key = some record → key < bound)
    (stored : store key = some record) (uncounted : ¬ counts record) :
    (keys counts store).ncard < bound := by
  have absent : key ∉ keys counts store := (mem_keys_of_stored stored).not.mpr uncounted
  have inside : insert key (keys counts store) ⊆ Set.Iio bound :=
    Set.insert_subset (below key record stored) (keys_subset below)
  have le := Set.ncard_le_ncard inside (Set.finite_Iio bound)
  rwa [Set.ncard_insert_of_notMem absent (finite_keys below), Set.ncard_Iio_nat] at le

end Bounded

end KeyedCount
