import Mathlib.Data.List.Infix
import Mathlib.Tactic.Common
import Wallie.Lib.TimedRun

/-!
# States that follow a log

A system keeps a log, and a reading of its states that is meant to change with
the log alone. It may do so only under a condition on the reading itself: while
whoever writes the log is the one in control, the log tells the whole story.
Then the reading of a later state is the log since, replayed, as long as the
condition holds at each point of the replay.
-/

namespace ReplayedLog

variable {σ ι τ ε ρ : Type*} [Preorder τ] {system : ClockedSystem σ ι τ}
  {permitted : σ → ι → Prop} {log : σ → List ε} {reading : σ → ρ} {apply : ρ → ε → ρ}
  {faithful : ρ → Prop} {state middle final : σ}

/-- The condition holds before the log is replayed and after each of its entries. -/
def Throughout (apply : ρ → ε → ρ) (faithful : ρ → Prop) (start : ρ) (log : List ε) : Prop :=
  ∀ shorter, shorter <+: log → faithful (shorter.foldl apply start)

instance [DecidablePred faithful] (start : ρ) (entries : List ε) :
    Decidable (Throughout apply faithful start entries) :=
  decidable_of_iff (∀ shorter ∈ entries.inits, faithful (shorter.foldl apply start)) <| by
    simp only [List.mem_inits, Throughout]

theorem Throughout.at_start {start : ρ} {entries : List ε}
    (throughout : Throughout apply faithful start entries) : faithful start :=
  throughout [] List.nil_prefix

theorem Throughout.of_prefix {start : ρ} {entries added : List ε}
    (throughout : Throughout apply faithful start (entries ++ added)) :
    Throughout apply faithful start entries :=
  fun shorter ahead => throughout shorter (ahead.trans (List.prefix_append entries added))

/-- The log grows, and under the condition the reading follows it. -/
structure Follows (log : σ → List ε) (reading : σ → ρ) (apply : ρ → ε → ρ) (faithful : ρ → Prop)
    (state next : σ) (added : List ε) : Prop where
  extends_log : log next = log state ++ added
  replayed : Throughout apply faithful (reading state) added →
    reading next = added.foldl apply (reading state)

theorem Follows.refl : Follows log reading apply faithful state state [] where
  extends_log := (List.append_nil _).symm
  replayed := fun _ => rfl

theorem Follows.trans {entries added : List ε}
    (first : Follows log reading apply faithful state middle entries)
    (second : Follows log reading apply faithful middle final added) :
    Follows log reading apply faithful state final (entries ++ added) where
  extends_log := by rw [second.extends_log, first.extends_log, List.append_assoc]
  replayed := by
    intro throughout
    have same := first.replayed throughout.of_prefix
    rw [List.foldl_append, ← same]
    refine second.replayed fun shorter ahead => ?_
    rw [same, ← List.foldl_append]
    exact throughout _ ((List.prefix_append_right_inj entries).mpr ahead)

/-- A step that leaves log and reading alone. -/
theorem Follows.of_same (logged : log final = log state) (same : reading final = reading state) :
    Follows log reading apply faithful state final [] where
  extends_log := by rw [logged, List.append_nil]
  replayed := fun _ => same

/-- What every step does to the log and the reading, a run does. -/
theorem Follows.of_continues {instant later : τ}
    (steps : ∀ state input next, permitted state input → system.step state input next →
      ∃ added, Follows log reading apply faithful state next added)
    (continued : system.Continues permitted instant state later final) :
    ∃ added, Follows log reading apply faithful state final added := by
  induction continued with
  | here => exact ⟨[], .refl⟩
  | tick _ _ ih => exact ih
  | move _ _ allowed moved ih =>
      rcases ih with ⟨entries, first⟩
      rcases steps _ _ _ allowed moved with ⟨added, second⟩
      exact ⟨entries ++ added, first.trans second⟩

/-! ## Where the entries come from -/

section Entries

variable {instant later : τ}

theorem extends_of_continues
    (steps : ∀ state input next, permitted state input → system.step state input next →
      log state <+: log next)
    (continued : system.Continues permitted instant state later final) :
    log state <+: log final := by
  induction continued with
  | here => exact List.prefix_rfl
  | tick _ _ ih => exact ih
  | move _ _ allowed moved ih => exact ih.trans (steps _ _ _ allowed moved)

/-- Every entry that a run adds to the log is added by one of its steps. -/
theorem added_by_step {added : List ε} {entry : ε}
    (steps : ∀ state input next, permitted state input → system.step state input next →
      log state <+: log next)
    (continued : system.Continues permitted instant state later final)
    (grown : log final = log state ++ added) (member : entry ∈ added) :
    ∃ moment found input next rest, system.Continues permitted instant state moment found ∧
      moment ≤ system.clock input ∧ system.step found input next ∧
      system.Continues permitted (system.clock input) next later final ∧
      log next = log found ++ rest ∧ entry ∈ rest := by
  induction continued generalizing added with
  | here =>
      rw [List.self_eq_append_right.mp grown] at member
      cases member
  | tick _ order ih =>
      rcases ih grown member with
        ⟨moment, found, input, next, rest, before, sooner, moved, further, logged, new⟩
      exact ⟨moment, found, input, next, rest, before, sooner, moved, .tick further order, logged,
        new⟩
  | @move middle current next input continued order allowed moved ih =>
      rcases extends_of_continues steps continued with ⟨entries, early⟩
      rcases steps _ _ _ allowed moved with ⟨rest, logged⟩
      have split : entries ++ rest = added := by
        rw [← logged, ← early, List.append_assoc, List.append_cancel_left_eq] at grown
        exact grown
      rw [← split] at member
      rcases List.mem_append.mp member with earlier | latest
      · rcases ih early.symm earlier with
          ⟨moment, found, input', next', rest', before, sooner, moved', further, logged', new⟩
        exact ⟨moment, found, input', next', rest', before, sooner, moved',
          .move further order allowed moved, logged', new⟩
      · exact ⟨middle, current, input, next, rest, continued, order, moved, .here, logged.symm,
          latest⟩

end Entries

end ReplayedLog
