import Wallie.Ledger.Controls
import Wallie.Ledger.RunInvariant
import Wallie.Properties.PayoutPaths

/-!
# The instance storage

The parameters and counters of the stream contract that do not belong to a
stream: what they are in every reachable state, and who changes them.
-/

namespace Wallie.StreamContract

open Fallible

variable {address : Address} {permitted : State → Env → Call → Prop} {now : ℕ} {env : Env}
  {s s' : State} {call : Call}

/-- What is kept about the contract as a whole. -/
structure State.InstanceSound (s : State) : Prop where
  limited : 0 < s.maxRatePerSecond ∧ s.maxRatePerSecond ≤ i128.upper
  counted : s.totalKeeperFeesPaid = s.keeperFees

theorem FreshlyInitialised.instanceSound {instant : ℕ}
    (fresh : FreshlyInitialised address instant s) : s.InstanceSound := by
  rcases fresh.eq_deployed with ⟨balances, allowances, config, rfl⟩
  exact ⟨⟨(by decide : 0 < i128.upper), le_rfl⟩, rfl⟩

/-- The two calls that set a parameter keep the token, and set a limit that is a rate. -/
theorem token_of_sets (run : Runs call.run env s () s') (sets : call.Sets)
    (wellTyped : call.WellTyped) :
    s'.config.map Config.token = s.config.map Config.token ∧
      (s'.maxRatePerSecond = s.maxRatePerSecond ∨
        0 < s'.maxRatePerSecond ∧ s'.maxRatePerSecond ≤ i128.upper) := by
  cases call <;> simp [Call.Sets] at sets
  case setAdmin newAdmin =>
    simp only [Call.run, setAdmin, runs_bind, runs_getConfig, runs_requireAuth, runs_update,
      runs_publish, and_assoc, exists_and_left, exists_eq_left, exists_const] at run
    rcases run with ⟨config, stored, _, rfl⟩
    refine ⟨?_, Or.inl rfl⟩
    rw [stored]
    rfl
  case setMaxRatePerSecond maxRate =>
    simp only [Call.run, setMaxRatePerSecond, runs_bind, runs_getAdmin, runs_requireAuth,
      runs_rejectIf, runs_update, and_assoc, exists_and_left, exists_eq_left, exists_const] at run
    rcases run with ⟨_, _, _, positive, rfl⟩
    exact ⟨rfl, Or.inr ⟨not_le.mp positive, wellTyped.2⟩⟩

theorem Call.token_kept (run : Runs call.run env s () s') (initialised : s.config.isSome = true)
    (wellTyped : call.WellTyped) :
    s'.config.map Config.token = s.config.map Config.token ∧
      (s'.maxRatePerSecond = s.maxRatePerSecond ∨
        0 < s'.maxRatePerSecond ∧ s'.maxRatePerSecond ≤ i128.upper) := by
  by_cases sets : call.Sets
  · exact token_of_sets run sets wellTyped
  · have spared := call.spares_of_initialised run initialised
    rw [spared.config.resolve_left sets, spared.maxRatePerSecond.resolve_left sets]
    exact ⟨rfl, Or.inl rfl⟩

theorem Reachable.instanceSound (reached : Reachable address permitted now s) :
    s.InstanceSound := by
  refine reached.runs_invariant State.InstanceSound ?_ ?_ ?_
  · exact fun _ _ fresh => fresh.instanceSound
  · exact fun _ _ sound => ⟨sound.limited, sound.counted⟩
  · intro instant s invocation s' reached _ _ run sound
    have initialised := reached.book_wellFormed.initialised
    have spared := invocation.call.spares_of_initialised run initialised
    refine ⟨?_, ?_⟩
    · rcases (Call.token_kept run initialised invocation.wellTyped).2 with same | limited
      · rw [same]
        exact sound.limited
      · exact limited
    · have counted := spared.keeperFees
      rw [sound.counted, sub_self] at counted
      exact sub_eq_zero.mp counted

/-- In every reachable state the contract is initialised, the limit on rates is a positive amount,
the counter of keeper fees is the sum of the fees that keepers were paid, and the lock against
reentrancy is released. No step changes the token or lowers the counter, and a step that changes
the admin, the limit or a pause flag is a call that the admin has signed. -/
theorem instance_storage_sound (reached : Reachable address anyCall now s) :
    s.config.isSome = true ∧ (0 < s.maxRatePerSecond ∧ s.maxRatePerSecond ≤ i128.upper) ∧
      s.totalKeeperFeesPaid = s.keeperFees ∧ s.reentrancyLock = false ∧
      ∀ (input : Input address) s', now ≤ input.clock → Input.Steps s input s' →
        s'.config.map Config.token = s.config.map Config.token ∧
          s.totalKeeperFeesPaid ≤ s'.totalKeeperFeesPaid ∧
          (s'.controls = s.controls ∨ ∃ invocation, input = .invoke invocation ∧
            Party.admin.Consents invocation.env s) := by
  have initialised := reached.book_wellFormed.initialised
  have sound := reached.instanceSound
  refine ⟨initialised, sound.limited, sound.counted, reached.unlocked, ?_⟩
  intro input s' _ step
  cases input with
  | token activity =>
      rcases step with ⟨_, rfl⟩
      exact ⟨rfl, le_rfl, Or.inl rfl⟩
  | invoke invocation =>
      rcases step.invoke_cases with run | ⟨_, rfl⟩
      · have spared := invocation.call.spares_of_initialised run initialised
        refine ⟨(Call.token_kept run initialised invocation.wellTyped).1, spared.counter, ?_⟩
        by_cases asks : invocation.call.party = .admin
        · have consents := invocation.call.demands run
          rw [asks] at consents
          exact Or.inr ⟨invocation, rfl, consents⟩
        · exact Or.inl (Call.controls_kept run initialised asks)
      · exact ⟨rfl, le_rfl, Or.inl rfl⟩

/-- A stream that was made slower is abandoned, and a keeper is paid for settling it. -/
def Sample.abandoned : List (Invocation Sample.contract) :=
  Sample.twoCreations ++
    [Sample.invocation 1 10 1 (.updateRate 1 50 Sample.sender) (Eq.refl true),
      Sample.invocation 3 604900 2 (.keeperCancel 1 Sample.keeper) (Eq.refl true)]

theorem instance_storage_sound_abandoned :
    let s := Script.run Sample.abandoned Sample.genesis
    s.totalKeeperFeesPaid = 25 ∧ s.totalKeeperFeesPaid = s.keeperFees ∧
      s.reentrancyLock = false := by
  intro s
  have ordered : Script.Ordered Sample.abandoned 0 :=
    ⟨by decide, by decide, by decide, by decide, trivial⟩
  have reached : Reachable Sample.contract anyCall 604900 s := Sample.reachable_run ordered
  rcases instance_storage_sound reached with ⟨_, _, counted, unlocked, _⟩
  exact ⟨by decide +kernel, counted, unlocked⟩

end Wallie.StreamContract
