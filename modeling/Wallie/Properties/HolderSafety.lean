import Wallie.Deployment.Parts
import Wallie.Deployment.Script
import Wallie.Ledger.Controls
import Wallie.Ledger.RefineRun

/-!
# Holders that sign nothing

The contracts move tokens for those who authorise it. A holder who signs nothing
keeps every token and every allowance, whatever the others call.
-/

namespace Wallie.Deployment

open Fallible
open StreamContract (Address)

variable {contracts : Contracts} {tx : Transaction contracts} {now later : ℕ} {s s' : State}
  {holder : Address}

/-- The holder keeps what it has. -/
structure Kept (holder : Address) (before after : StreamContract.State) : Prop where
  balance : before.balances holder ≤ after.balances holder
  allowance : after.allowances holder = before.allowances holder

theorem Kept.refl {stream : StreamContract.State} : Kept holder stream stream :=
  ⟨le_rfl, rfl⟩

theorem Kept.trans {before middle after : StreamContract.State} (first : Kept holder before middle)
    (second : Kept holder middle after) : Kept holder before after :=
  ⟨first.balance.trans second.balance, second.allowance.trans first.allowance⟩

/-- The holder signs nothing, and takes no tokens out elsewhere. -/
def HolderIdle (holder : Address) (s : State) : Input contracts → Prop
  | .invoke invocation =>
      invocation.tx.auth holder = false ∧ invocation.tx.nestedAuth holder = false
  | .token activity =>
      s.stream.balances holder ≤ activity.balances holder ∧
        activity.allowances holder = s.stream.allowances holder

/-- Whoever calls the stream contract, a holder that has not authorised the call keeps what it
has. -/
theorem kept_of_stream {call : StreamContract.Call} {auth : Address → Bool}
    {stream : StreamContract.State} (initialised : s.stream.config.isSome = true)
    (run : Runs call.run (tx.streamEnv auth) s.stream () stream) (unsigned : auth holder = false)
    (other : ¬ contracts.Has holder) : Kept holder s.stream stream := by
  have notStream : holder ≠ contracts.stream := fun same => other (Or.inr (Or.inr same))
  have spared := (call.spares_of_initialised run initialised).holders
    (fun _ member => absurd member (Option.not_mem_none _)) holder unsigned notStream
  exact ⟨spared.1, spared.2⟩

theorem Step.kept {call : Call} (step : Step tx s call s')
    (initialised : s.stream.config.isSome = true)
    (unsigned : tx.auth holder = false ∧ tx.nestedAuth holder = false)
    (other : ¬ contracts.Has holder) : Kept holder s.stream s'.stream := by
  -- What one of the contracts calls is authorised by that contract and the nested signatures.
  have called : ∀ caller, contracts.Has caller → tx.calledBy caller holder = false := by
    rintro caller has
    have distinct : holder ≠ caller := by
      rintro rfl
      exact other has
    exact tx.calledBy_eq_false distinct unsigned.2
  cases step with
  | stream run => exact kept_of_stream initialised run unsigned.1 other
  | factory did =>
      cases did with
      | alone _ _ => exact .refl
      | creates _ _ _ granted =>
          exact kept_of_stream initialised granted (called _ (Or.inr (Or.inl rfl))) other
  | governance _ _ | onFactory _ _ _ _ _ _ => exact .refl
  | onStream _ _ _ _ _ changed =>
      exact kept_of_stream initialised changed (called _ (Or.inl rfl)) other

theorem Reachable.initialised (reached : Reachable contracts now s) :
    s.stream.config.isSome = true := by
  have part := (streamPart contracts).reachable reached
  have reached : StreamContract.Reachable contracts.stream StreamContract.anyCall now s.stream :=
    part
  exact reached.book_wellFormed.initialised

/-- From any reachable state on, whoever else calls whatever on any of the three contracts: a
holder who signs none of the transactions has at least the tokens it had, and its allowance to
the stream contract is untouched. -/
theorem idle_holder_keeps (reached : Reachable contracts now s)
    (continued : (system contracts).Continues (HolderIdle holder) now s later s')
    (other : ¬ contracts.Has holder) :
    s.stream.balances holder ≤ s'.stream.balances holder ∧
      s'.stream.allowances holder = s.stream.allowances holder := by
  have kept : Reachable contracts later s' ∧ Kept holder s.stream s'.stream := by
    induction continued with
    | here => exact ⟨reached, .refl⟩
    | tick _ order ih => exact ⟨.tick ih.1 order, ih.2⟩
    | @move _ current next input _ order idle moved ih =>
        rcases ih with ⟨reached, kept⟩
        refine ⟨.move reached order trivial moved, kept.trans ?_⟩
        cases input with
        | invoke invocation =>
            change next = invocation.next current at moved
            rw [moved]
            rcases invocation.next_cases current with step | ⟨_, failed⟩
            · exact step.kept (Reachable.initialised reached) idle other
            · rw [failed]
              exact .refl
        | token activity =>
            rw [moved.2]
            exact ⟨idle.1, idle.2⟩
  exact ⟨kept.2.balance, kept.2.allowance⟩

/-- The sender pays for two streams, and the keeper, who signs nothing, keeps a million. -/
theorem idle_holder_keeps_keeper :
    let s := Script.run Sample.streaming Sample.genesis
    s.stream.balances StreamContract.Sample.sender = 997000 ∧
      1000000 ≤ s.stream.balances StreamContract.Sample.keeper := by
  intro s
  have permits : Script.Permits (HolderIdle StreamContract.Sample.keeper) Sample.streaming
      Sample.genesis :=
    ⟨⟨rfl, rfl⟩, ⟨rfl, rfl⟩, ⟨rfl, rfl⟩, ⟨rfl, rfl⟩, trivial⟩
  have kept := idle_holder_keeps (.start Sample.initial_genesis)
    (Script.continues_run Sample.ordered_streaming permits .here) (by decide)
  exact ⟨by decide +kernel, kept.1⟩

end Wallie.Deployment
