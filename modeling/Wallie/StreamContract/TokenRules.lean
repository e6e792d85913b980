import Wallie.StreamContract.StorageRules

/-!
# Payments a token makes

The contract can pay what it holds when its token refuses nothing of its own
accord and no holder has more than it can keep. Such a payment leaves the
contract able to pay the rest of what it holds.
-/

namespace Wallie.StreamContract

open Fallible

variable {env : Env} {s s' : State} {destination : Address} {amount rest : ℤ} {id : ℕ}
  {kind : PayoutKind} {done : Unit}

/-! ## Balances after a transfer -/

section Balances

variable {balances : Address → ℤ} {source : Address}

/-- A payment takes at most its amount from the payer, nothing if it pays itself. -/
theorem movedBalances_source (nonneg : 0 ≤ amount) :
    balances source - amount ≤ movedBalances balances source destination amount source := by
  unfold movedBalances
  rcases eq_or_ne source destination with rfl | other
  · simpa using nonneg
  · simp [Function.update_of_ne other]

theorem movedBalances_source_le (nonneg : 0 ≤ amount) :
    movedBalances balances source destination amount source ≤ balances source := by
  unfold movedBalances
  rcases eq_or_ne source destination with rfl | other
  · simp
  · simpa [Function.update_of_ne other] using nonneg

/-- A payment to someone else arrives in full. -/
theorem movedBalances_destination (other : destination ≠ source) :
    movedBalances balances source destination amount destination =
      balances destination + amount := by
  simp [movedBalances, Function.update_of_ne other]

/-- And is missing in full. -/
theorem movedBalances_debit (other : source ≠ destination) :
    movedBalances balances source destination amount source = balances source - amount := by
  simp [movedBalances, Function.update_of_ne other]

/-- What a payment adds to and takes from a holder. -/
theorem movedBalances_apply (holder : Address) :
    movedBalances balances source destination amount holder =
      balances holder + (if holder = destination then amount else 0) -
        (if holder = source then amount else 0) := by
  unfold movedBalances
  rcases eq_or_ne holder destination with rfl | other
  · rcases eq_or_ne holder source with rfl | apart
    · simp
    · simp [apart]
  · rcases eq_or_ne holder source with rfl | apart
    · simp [other]
    · simp [other, apart]

theorem movedBalances_add (first second : ℤ) :
    movedBalances (movedBalances balances source destination first) source destination second =
      movedBalances balances source destination (first + second) := by
  funext holder
  unfold movedBalances
  rcases eq_or_ne source destination with rfl | apart
  · simp
  · rcases eq_or_ne holder destination with rfl | other
    · simp [Function.update_of_ne apart.symm, add_assoc]
    · rcases eq_or_ne holder source with rfl | elsewhere
      · simp [Function.update_of_ne apart, sub_sub]
      · simp [other, elsewhere]

@[simp]
theorem movedBalances_zero : movedBalances balances source destination 0 = balances := by
  simp [movedBalances]

end Balances

/-! ## Payments out of the contract -/

/-- The token moves what the contract pays: it does not refuse a transfer out of the contract, and
with its bounded supply whatever the contract holds fits the balance of any holder. -/
structure Env.TokenHonours (env : Env) (s : State) : Prop where
  accepts : ∀ s' destination amount,
    env.tokenRefuses s' env.currentContractAddress destination amount = false
  roomy : ∀ holder, holder ≠ env.currentContractAddress →
    s.balances holder + s.balances env.currentContractAddress ≤ i128.upper

/-- The contract can pay up to `total`. -/
structure State.CanPayOut (s : State) (env : Env) (total : ℤ) : Prop where
  configured : s.config.isSome = true
  balances : TokenBalances s.balances
  honours : env.TokenHonours s
  covered : total ≤ s.balances env.currentContractAddress

namespace State.CanPayOut

theorem transferAllowed (able : s.CanPayOut env amount) (nonneg : 0 ≤ amount) :
    TransferAllowed env s env.currentContractAddress destination amount where
  amount_nonneg := nonneg
  covered := able.covered
  fits := by
    have lower : i128.lower ≤ 0 := by decide
    have covered := able.covered
    unfold movedBalances
    rcases eq_or_ne destination env.currentContractAddress with rfl | other
    · have sound := able.balances env.currentContractAddress
      simp only [Function.update_self]
      exact ⟨by omega, by omega⟩
    · have sound := able.balances destination
      have roomy := able.honours.roomy destination other
      simp only [Function.update_self, Function.update_of_ne other]
      exact ⟨by omega, by omega⟩
  accepted := able.honours.accepts _ _ _

/-- After a payment the contract can pay the rest. -/
theorem moved (able : s.CanPayOut env (amount + rest)) (nonneg : 0 ≤ amount) (nonneg' : 0 ≤ rest)
    (configured : s'.config.isSome = s.config.isSome)
    (balances : s'.balances =
      movedBalances s.balances env.currentContractAddress destination amount) :
    s'.CanPayOut env rest := by
  have covered := able.covered
  have less : s.CanPayOut env amount :=
    ⟨able.configured, able.balances, able.honours, by omega⟩
  refine ⟨configured.trans able.configured, ?_, ⟨able.honours.accepts, ?_⟩, ?_⟩
  · rw [balances]
    exact (less.transferAllowed nonneg).tokenBalances able.balances
  · intro holder other
    have roomy := able.honours.roomy holder other
    have roomy' := fun apart => able.honours.roomy destination apart
    rw [balances]
    unfold movedBalances
    rcases eq_or_ne destination env.currentContractAddress with rfl | apart
    · simp only [Function.update_self, Function.update_of_ne other]
      omega
    · simp only [Function.update_of_ne apart.symm, Function.update_self]
      rcases eq_or_ne holder destination with rfl | elsewhere
      · simp only [Function.update_self, Function.update_of_ne apart]
        omega
      · simp only [Function.update_of_ne elsewhere, Function.update_of_ne other]
        omega
  · rw [balances]
    unfold movedBalances
    rcases eq_or_ne destination env.currentContractAddress with rfl | apart
    · simp only [Function.update_self]
      omega
    · simp only [Function.update_of_ne apart.symm, Function.update_self]
      omega

/-- What the contract can pay depends on its balance and on the token. -/
theorem of_same (able : s.CanPayOut env amount) (config : s'.config = s.config)
    (balances : s'.balances = s.balances) : s'.CanPayOut env amount := by
  refine ⟨?_, ?_, ⟨able.honours.accepts, ?_⟩, ?_⟩
  · rw [config]
    exact able.configured
  · rw [balances]
    exact able.balances
  · rw [balances]
    exact able.honours.roomy
  · rw [balances]
    exact able.covered

theorem le (able : s.CanPayOut env amount) (less : rest ≤ amount) : s.CanPayOut env rest :=
  ⟨able.configured, able.balances, able.honours, less.trans able.covered⟩

end State.CanPayOut

/-! ## Payments that may be zero -/

/-- The state after `pushPositive`. -/
def State.pushedPositive (s : State) (env : Env) (destination : Address) (amount : ℤ) (id : ℕ)
    (kind : PayoutKind) : State :=
  if 0 < amount then s.pushed env destination amount [⟨id, kind, amount⟩] else s

@[simp]
theorem runs_pushPositive :
    Runs (pushPositive destination amount id kind) env s done s' ↔
      (0 < amount → s.config.isSome = true ∧
        TransferAllowed env s env.currentContractAddress destination amount) ∧
      s' = s.pushedPositive env destination amount id kind := by
  unfold pushPositive State.pushedPositive
  split
  · next positive => simp [positive]
  · next nothing => simp [nothing]

section PushedPositive

/-- A payment touches the balances and the log of payouts only. -/
theorem State.pushedPositive_eq :
    ∃ balances payouts, s.pushedPositive env destination amount id kind =
      { s with balances, payouts } := by
  unfold State.pushedPositive
  split
  · exact ⟨_, _, rfl⟩
  · exact ⟨_, _, rfl⟩

@[simp]
theorem State.pushedPositive_config :
    (s.pushedPositive env destination amount id kind).config = s.config := by
  rcases s.pushedPositive_eq with ⟨_, _, same⟩
  rw [same]

@[simp]
theorem State.pushedPositive_streams :
    (s.pushedPositive env destination amount id kind).streams = s.streams := by
  rcases s.pushedPositive_eq with ⟨_, _, same⟩
  rw [same]

@[simp]
theorem State.pushedPositive_totalLiabilities :
    (s.pushedPositive env destination amount id kind).totalLiabilities = s.totalLiabilities := by
  rcases s.pushedPositive_eq with ⟨_, _, same⟩
  rw [same]

@[simp]
theorem State.pushedPositive_totalKeeperFeesPaid :
    (s.pushedPositive env destination amount id kind).totalKeeperFeesPaid =
      s.totalKeeperFeesPaid := by
  rcases s.pushedPositive_eq with ⟨_, _, same⟩
  rw [same]

@[simp]
theorem State.pushedPositive_events :
    (s.pushedPositive env destination amount id kind).events = s.events := by
  rcases s.pushedPositive_eq with ⟨_, _, same⟩
  rw [same]

end PushedPositive

theorem State.pushedPositive_balances (nonneg : 0 ≤ amount) :
    (s.pushedPositive env destination amount id kind).balances =
      movedBalances s.balances env.currentContractAddress destination amount := by
  unfold State.pushedPositive
  split
  · rfl
  · next nothing =>
      obtain rfl : amount = 0 := by omega
      exact movedBalances_zero.symm

theorem State.CanPayOut.pushedPositive (able : s.CanPayOut env (amount + rest))
    (destination : Address) (id : ℕ) (kind : PayoutKind) (nonneg : 0 ≤ amount)
    (nonneg' : 0 ≤ rest) :
    (s.pushedPositive env destination amount id kind).CanPayOut env rest :=
  able.moved nonneg nonneg' (congrArg Option.isSome State.pushedPositive_config)
    (State.pushedPositive_balances nonneg)

theorem State.CanPayOut.pushPositive (able : s.CanPayOut env amount) :
    Runs (pushPositive destination amount id kind) env s ()
      (s.pushedPositive env destination amount id kind) :=
  runs_pushPositive.mpr
    ⟨fun positive => ⟨able.configured, able.transferAllowed positive.le⟩, rfl⟩

end Wallie.StreamContract
