import Wallie.Ledger.RefineRun
import Wallie.StreamContract.EntrypointWrites

/-!
# Invariants of runs, call by call

A step of a run is a call that succeeds, a call that fails, or an activity of
the token. What is kept by each of the three holds of every run and its past,
and most invariants have only the first to look at.
-/

namespace Wallie.StreamContract

open Fallible

variable {address : Address} {permitted : State → Env → Call → Prop} {now : ℕ} {s s' : State}

/-- A fresh contract is the deployed one with its configuration. -/
theorem FreshlyInitialised.eq_deployed {instant : ℕ}
    (fresh : FreshlyInitialised address instant s) :
    ∃ balances allowances config,
      s = { State.deployed balances allowances with config := some config } := by
  rcases fresh.initialised with ⟨env, token, admin, balances, allowances, -, -, -, run⟩
  simp only [init, verifyTokenBehavior, runs_bind, runs_requireAuth, runs_peek, runs_rejectIf,
    runs_ask, runs_tokenTransfer, runs_update, and_assoc, exists_and_left, exists_eq_left,
    exists_const] at run
  rcases run with ⟨-, -, -, -, -, -, rfl⟩
  exact ⟨movedBalances balances env.currentContractAddress env.currentContractAddress 0, allowances,
    { token, admin }, rfl⟩

/-- What holds initially and is kept by the token and by the calls, those that fail and those that
succeed, holds of every run and its past. -/
theorem Recorded.runs_invariant {past : List (State × Input address)}
    (holds : List (State × Input address) → State → Prop)
    (recorded : Recorded address permitted past now s)
    (initially : ∀ instant s, FreshlyInitialised address instant s → holds [] s)
    (tokens : ∀ past s (activity : TokenActivity), holds past s →
      holds ((s, .token activity) :: past)
        { s with balances := activity.balances, allowances := activity.allowances })
    (fails : ∀ past s (invocation : Invocation address),
      ¬ invocation.call.Succeeds invocation.env s → holds past s →
      holds ((s, .invoke invocation) :: past) s)
    (runs : ∀ past instant s (invocation : Invocation address) s',
      Recorded address permitted past instant s → instant ≤ invocation.env.timestamp →
      permitted s invocation.env invocation.call →
      Runs invocation.call.run invocation.env s () s' → holds past s →
      holds ((s, .invoke invocation) :: past) s') : holds past s := by
  induction recorded with
  | start fresh => exact initially _ _ fresh
  | tick _ _ ih => exact ih
  | @move past instant state next input recorded order allowed moved ih =>
      cases input with
      | token activity =>
          rcases moved with ⟨_, rfl⟩
          exact tokens past state activity ih
      | invoke invocation =>
          rcases Input.Steps.invoke_cases moved with run | ⟨failed, rfl⟩
          · exact runs past instant state invocation next recorded order allowed run ih
          · exact fails past next invocation failed ih

/-- What holds initially and is kept by the token and by every call that succeeds holds of every
reachable state. -/
theorem Reachable.runs_invariant (holds : State → Prop)
    (reached : Reachable address permitted now s)
    (initially : ∀ instant s, FreshlyInitialised address instant s → holds s)
    (tokens : ∀ s (activity : TokenActivity), holds s →
      holds { s with balances := activity.balances, allowances := activity.allowances })
    (runs : ∀ instant s (invocation : Invocation address) s',
      Reachable address permitted instant s → instant ≤ invocation.env.timestamp →
      permitted s invocation.env invocation.call →
      Runs invocation.call.run invocation.env s () s' → holds s → holds s') : holds s := by
  rcases reached.recorded with ⟨past, recorded⟩
  refine Recorded.runs_invariant (fun _ s => holds s) recorded initially ?_ ?_ ?_
  · exact fun _ s activity kept => tokens s activity kept
  · exact fun _ _ _ _ kept => kept
  · intro past instant s invocation s' recorded order allowed run kept
    exact runs instant s invocation s' recorded.reachable order allowed run kept

/-- In every reachable state balances are amounts that the token can represent. -/
theorem Reachable.tokenBalances (reached : Reachable address permitted now s) :
    TokenBalances s.balances := by
  refine reached.runs_invariant (fun s => TokenBalances s.balances) ?_ ?_ ?_
  · rintro instant fresh ⟨env, token, admin, balances, allowances, _, _, sound, run⟩
    have ran : Runs (Call.init token admin).run env (.deployed balances allowances) () fresh := run
    exact ((Call.init token admin).onlyWrites ran).tokens sound
  · exact fun _ activity _ => activity.wellTyped
  · intro instant s invocation s' _ _ _ run sound
    exact (invocation.call.onlyWrites run).tokens sound

/-- What holds of the stored records holds after a successful call, if it holds of the streams that
are created and is kept by every move the call can make of a record it finds. -/
theorem Invocation.forall_stored {holds : Stream → Prop} (invocation : Invocation address)
    (run : Runs invocation.call.run invocation.env s () s')
    (formed : (s.book address).WellFormed invocation.env.timestamp)
    (kept : ∀ id stream, s.streams id = some stream → holds stream)
    (created : ∀ id sender params,
      CreateStreamParams.Valid params sender invocation.env.timestamp →
      holds (newStream id sender params))
    (moves : ∀ id move stream stream', invocation.Makes s (.change id move) →
      s.streams id = some stream → stream.Moves invocation.env.timestamp move stream' →
      holds stream → holds stream') :
    ∀ id stream, s'.streams id = some stream → holds stream := by
  have step : Input.Steps s (.invoke invocation) s' := (commit_of_runs run).symm
  refine (invocation.runs step formed).preserves
    (fun book => ∀ id stream, book.streams id = some stream → holds stream) ?_ kept
  rintro book action book' ⟨makes, acts⟩ step kept
  refine step.forall_stored kept created ?_
  rintro id move stream stream' rfl stored moved held
  have agrees : (s.book address).Agrees book id := acts
  exact moves id move stream stream' makes (agrees.streams.symm.trans stored) moved held

end Wallie.StreamContract
