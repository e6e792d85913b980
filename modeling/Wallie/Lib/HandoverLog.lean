import Mathlib.Data.List.Chain
import Mathlib.Data.List.DropRight

/-!
# Logs of handovers

Something passes from holder to holder, and a log notes the handovers, oldest
first. A log that leads to the present holder can be extended by the next
handover, and it still does so when only its latest entries are kept. A bounded
log is the list of the latest entries of the full one.
-/

namespace HandoverLog

variable {α β : Type*} {source target : α → β} {log : List α} {entry : α} {holder : β}
  {bound : ℕ}

/-- Each handover starts from where the one before went, and the last one went to `holder`. -/
structure LeadsTo (source target : α → β) (log : List α) (holder : β) : Prop where
  linked : log.IsChain fun earlier later => source later = target earlier
  latest : ∀ entry ∈ log.getLast?, target entry = holder

theorem leadsTo_nil : LeadsTo source target [] holder where
  linked := List.isChain_nil
  latest := by simp

/-- A log that is not empty names the present holder. -/
theorem LeadsTo.getLast?_map (leads : LeadsTo source target log holder) (noted : log ≠ []) :
    log.getLast?.map target = some holder := by
  have last := List.getLast?_eq_some_getLast noted
  rw [last, Option.map_some, leads.latest _ (Option.mem_def.mpr last)]

/-- The next handover starts from the present holder. -/
theorem LeadsTo.concat (leads : LeadsTo source target log (source entry)) :
    LeadsTo source target (log ++ [entry]) (target entry) where
  linked := by
    refine List.isChain_append.mpr ⟨leads.linked, List.isChain_singleton entry, ?_⟩
    intro last member next first
    rw [List.head?_cons, Option.mem_some_iff] at first
    rw [← first]
    exact (leads.latest last member).symm
  latest := by simp

/-- Keep the latest `bound` entries. -/
def recent (bound : ℕ) (log : List α) : List α :=
  log.rtake bound

theorem recent_suffix : recent bound log <:+ log :=
  List.drop_suffix _ _

theorem recent_eq_rtake_min : recent bound log = log.rtake (min log.length bound) := by
  rw [recent, List.rtake, List.rtake]
  congr 1
  omega

theorem length_recent : (recent bound log).length = min bound log.length := by
  rw [recent, List.rtake, List.length_drop]
  omega

theorem getLast?_recent (positive : 0 < bound) : (recent bound log).getLast? = log.getLast? := by
  rw [recent, List.rtake, List.getLast?_drop]
  split
  · next short =>
      have empty : log = [] := List.length_eq_zero_iff.mp (by omega)
      rw [empty, List.getLast?_nil]
  · rfl

theorem LeadsTo.recent (leads : LeadsTo source target log holder) (positive : 0 < bound) :
    LeadsTo source target (recent bound log) holder where
  linked := leads.linked.suffix recent_suffix
  latest := by
    rw [getLast?_recent positive]
    exact leads.latest

/-- Add an entry to a bounded log, which loses its oldest one when it is full. -/
def push (bound : ℕ) (log : List α) (entry : α) : List α :=
  (if bound ≤ log.length then log.tail else log) ++ [entry]

/-- A bounded log consists of the latest entries. -/
theorem push_recent (positive : 0 < bound) :
    push bound (recent bound log) entry = recent bound (log ++ [entry]) := by
  rcases Nat.exists_eq_succ_of_ne_zero positive.ne' with ⟨room, rfl⟩
  have added : recent (room + 1) (log ++ [entry]) = log.rtake room ++ [entry] :=
    List.rtake_concat_succ _ _ _
  rw [added, push]
  congr 1
  split
  · next full =>
      rw [length_recent] at full
      rw [recent, List.rtake, List.rtake, List.tail_drop]
      congr 1
      omega
  · next spare =>
      rw [length_recent] at spare
      rw [recent, List.rtake, List.rtake]
      congr 1
      omega

end HandoverLog
