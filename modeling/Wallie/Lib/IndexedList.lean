import Mathlib.Data.List.Nodup
import Mathlib.Logic.Function.Basic

/-!
# A list with an index

A store keeps a list for its order and a map from the entries of the list for
fast membership tests. The two agree when the list has no duplicates and the map
has a key for exactly the entries of the list; adding and removing an entry in
both keeps them in agreement.
-/

namespace IndexedList

variable {α β : Type*} {index : α → Option β} {entries : List α} {entry : α} {mark : β}

/-- The list has no duplicates and its entries are the keys of the map. -/
structure Indexes (index : α → Option β) (entries : List α) : Prop where
  nodup : entries.Nodup
  mem_iff : ∀ entry, entry ∈ entries ↔ (index entry).isSome = true

namespace Indexes

theorem nil : Indexes (fun _ : α => (none : Option β)) [] where
  nodup := List.nodup_nil
  mem_iff := by simp

theorem not_mem (indexes : Indexes index entries) (absent : index entry = none) :
    entry ∉ entries := by
  rw [indexes.mem_iff, absent]
  exact Bool.false_ne_true

variable [DecidableEq α]

/-- Add an entry that has no key. -/
theorem push (indexes : Indexes index entries) (absent : index entry = none) :
    Indexes (Function.update index entry (some mark)) (entries ++ [entry]) where
  nodup := by
    apply indexes.nodup.append (List.nodup_singleton entry)
    rw [List.disjoint_singleton]
    exact indexes.not_mem absent
  mem_iff := by
    intro other
    rw [List.mem_append, List.mem_singleton]
    rcases eq_or_ne other entry with rfl | different
    · simp
    · rw [Function.update_of_ne different, indexes.mem_iff]
      simp [different]

/-- Remove an entry and its key. -/
theorem erase (indexes : Indexes index entries) :
    Indexes (Function.update index entry none) (entries.erase entry) where
  nodup := indexes.nodup.erase entry
  mem_iff := by
    intro other
    rw [indexes.nodup.mem_erase_iff]
    rcases eq_or_ne other entry with rfl | different
    · simp
    · rw [Function.update_of_ne different, indexes.mem_iff]
      simp [different]

end Indexes

end IndexedList
