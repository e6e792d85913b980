import Mathlib.Logic.Function.Basic
import Mathlib.Tactic.Common

/-!
# Tables that are replayed from a log

A table keeps one row for each key, and a log is a list of updates of single
rows. A step of a system is explained when replaying what it adds to the log
takes the table of the state before to the table of the state after. Explained
steps compose, so the table of a state that is reached by explained steps is the
replay of its log.
-/

namespace EventLog

variable {κ α σ : Type*} [DecidableEq κ]

abbrev Table (κ α : Type*) := κ → Option α

/-- The key of a row, with its change. -/
abbrev Update (κ α : Type*) := κ × (Option α → Option α)

def Update.apply (table : Table κ α) (update : Update κ α) : Table κ α :=
  Function.update table update.1 (update.2 (table update.1))

/-- The table after the updates of a log, oldest first. -/
def replay (table : Table κ α) (log : List (Update κ α)) : Table κ α :=
  log.foldl Update.apply table

variable {table : Table κ α} {log added : List (Update κ α)}

@[simp]
theorem replay_nil (table : Table κ α) : replay table [] = table :=
  rfl

@[simp]
theorem replay_cons (table : Table κ α) (update : Update κ α) (log : List (Update κ α)) :
    replay table (update :: log) = replay (update.apply table) log :=
  rfl

theorem replay_append : replay table (log ++ added) = replay (replay table log) added :=
  List.foldl_append

/-- Updates of one row act on that row alone. -/
theorem replay_of_key {key : κ} (same : ∀ update ∈ log, update.1 = key) :
    replay table log =
      Function.update table key (log.foldl (fun row update => update.2 row) (table key)) := by
  induction log generalizing table with
  | nil => simp
  | cons update rest ih =>
      rcases List.forall_mem_cons.mp same with ⟨rfl, others⟩
      rw [replay_cons, ih others, Update.apply, Function.update_idem, Function.update_self,
        List.foldl_cons]

/-- What a step adds to the log explains the change of the table. -/
def Explains (log : σ → List (Update κ α)) (view : σ → Table κ α) (state next : σ) : Prop :=
  ∃ added, log next = log state ++ added ∧ replay (view state) added = view next

namespace Explains

variable {log : σ → List (Update κ α)} {view : σ → Table κ α} {state middle next : σ}

theorem refl (state : σ) : Explains log view state state :=
  ⟨[], (List.append_nil _).symm, rfl⟩

theorem trans (first : Explains log view state middle) (second : Explains log view middle next) :
    Explains log view state next := by
  rcases first with ⟨added, logged, viewed⟩
  rcases second with ⟨more, logged', viewed'⟩
  refine ⟨added ++ more, ?_, ?_⟩
  · rw [logged', logged, List.append_assoc]
  · rw [replay_append, viewed, viewed']

/-- A step that adds nothing and changes nothing. -/
theorem of_same (logged : log next = log state) (viewed : view next = view state) :
    Explains log view state next :=
  ⟨[], by rw [logged, List.append_nil], viewed.symm⟩

/-- A table that is the replay of its log stays so. -/
theorem replays {start : Table κ α} (explains : Explains log view state next)
    (replayed : replay start (log state) = view state) : replay start (log next) = view next := by
  rcases explains with ⟨added, logged, viewed⟩
  rw [logged, replay_append, replayed, viewed]

end Explains

end EventLog
