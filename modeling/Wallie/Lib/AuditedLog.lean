import Mathlib.Tactic.Common
import Wallie.Lib.TimedRun

/-!
# Audited logs

An auditor reads the log of a system and nothing else. It keeps an account, finds
each entry admissible in the account of the earlier ones or objects, and enters
it. A system whose steps only add admissible entries, and whose states agree with
the account that they lead to, can be audited: no entry is missing or invented.
-/

namespace AuditedLog

variable {σ ι τ ε ρ : Type*} [Preorder τ] {system : ClockedSystem σ ι τ}
  {permitted : σ → ι → Prop} {admits : ρ → ε → Prop} {enter : ρ → ε → ρ} {log : σ → List ε}
  {account : σ → ρ} {state middle final : σ}

/-- The auditor accepts the entries one after the other, and is left with the last account. -/
inductive Accepts (admits : ρ → ε → Prop) (enter : ρ → ε → ρ) : ρ → List ε → ρ → Prop where
  | nothing (before : ρ) : Accepts admits enter before [] before
  | entry {before after : ρ} {entry : ε} {rest : List ε} (admitted : admits before entry)
      (accepted : Accepts admits enter (enter before entry) rest after) :
      Accepts admits enter before (entry :: rest) after

namespace Accepts

variable {before between after : ρ} {entries added : List ε} {entry : ε}

theorem single (admitted : admits before entry) :
    Accepts admits enter before [entry] (enter before entry) :=
  .entry admitted (.nothing _)

theorem append (first : Accepts admits enter before entries between)
    (second : Accepts admits enter between added after) :
    Accepts admits enter before (entries ++ added) after := by
  induction first with
  | nothing _ => exact second
  | entry admitted _ ih => exact .entry admitted (ih second)

/-- Every entry is admissible in the account of those before it. -/
theorem admitted {later : List ε}
    (accepted : Accepts admits enter before (entries ++ entry :: later) after) :
    admits (entries.foldl enter before) entry := by
  induction entries generalizing before with
  | nil =>
      cases accepted with
      | entry admitted _ => exact admitted
  | cons _ _ ih =>
      cases accepted with
      | entry _ rest => exact ih rest

end Accepts

/-- What is added to the log is accepted, and leads to the account of the new state. -/
def Explains (admits : ρ → ε → Prop) (enter : ρ → ε → ρ) (log : σ → List ε) (account : σ → ρ)
    (state next : σ) : Prop :=
  ∃ added, log next = log state ++ added ∧
    Accepts admits enter (account state) added (account next)

namespace Explains

theorem refl (state : σ) : Explains admits enter log account state state :=
  ⟨[], (List.append_nil _).symm, .nothing _⟩

theorem trans (first : Explains admits enter log account state middle)
    (second : Explains admits enter log account middle final) :
    Explains admits enter log account state final := by
  rcases first with ⟨entries, logged, accepted⟩
  rcases second with ⟨added, logged', accepted'⟩
  refine ⟨entries ++ added, ?_, accepted.append accepted'⟩
  rw [logged', logged, List.append_assoc]

/-- A step that leaves the log and the account alone. -/
theorem of_same (logged : log final = log state) (same : account final = account state) :
    Explains admits enter log account state final := by
  refine ⟨[], ?_, ?_⟩
  · rw [logged, List.append_nil]
  · rw [same]
    exact .nothing _

/-- A step that adds one entry. -/
theorem of_entry {entry : ε} (logged : log final = log state ++ [entry])
    (admitted : admits (account state) entry)
    (entered : account final = enter (account state) entry) :
    Explains admits enter log account state final := by
  refine ⟨[entry], logged, ?_⟩
  rw [entered]
  exact .single admitted

/-- A step that adds two entries. -/
theorem of_entries {entry second : ε} (logged : log final = log state ++ [entry, second])
    (admitted : admits (account state) entry)
    (admitted' : admits (enter (account state) entry) second)
    (entered : account final = enter (enter (account state) entry) second) :
    Explains admits enter log account state final := by
  refine ⟨[entry, second], logged, ?_⟩
  rw [entered]
  exact .entry admitted (.single admitted')

/-- What every step of the system explains, a run from a reachable state explains. -/
theorem of_continues {holds : σ → Prop} {instant later : τ}
    (steps : ∀ now state input next, system.Reachable permitted now state →
      now ≤ system.clock input → holds state → permitted state input →
      system.step state input next →
      holds next ∧ Explains admits enter log account state next)
    (reached : system.Reachable permitted instant state) (initially : holds state)
    (continued : system.Continues permitted instant state later final) :
    holds final ∧ Explains admits enter log account state final := by
  induction continued with
  | here => exact ⟨initially, refl state⟩
  | tick _ _ ih => exact ih
  | move rest order allowed moved ih =>
      rcases ih with ⟨held, first⟩
      have last := steps _ _ _ _ (rest.reachable reached) order held allowed moved
      exact ⟨last.1, first.trans last.2⟩

end Explains

end AuditedLog
