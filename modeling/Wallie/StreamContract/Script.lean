import Wallie.StreamContract.Entrypoints
import Wallie.StreamContract.StorageRules

/-!
# Scripted runs

A script is a list of invocations. Running it from a reachable state, at
timestamps that do not go back and with permitted calls, leads to a reachable
state; so a run can be given by writing down its calls.
-/

namespace Wallie.StreamContract

open Fallible

variable {address : Address} {permitted : State → Env → Call → Prop} {now : ℕ} {s : State}

namespace Script

/-- The state after the invocations, each of which succeeds or changes nothing. -/
def run : List (Invocation address) → State → State
  | [], s => s
  | invocation :: rest, s => run rest (invocation.call.run.commit invocation.env s)

/-- The instant of the last invocation. -/
def finish : List (Invocation address) → ℕ → ℕ
  | [], now => now
  | invocation :: rest, _ => finish rest invocation.env.timestamp

/-- The timestamps do not go back. -/
def Ordered : List (Invocation address) → ℕ → Prop
  | [], _ => True
  | invocation :: rest, now =>
      now ≤ invocation.env.timestamp ∧ Ordered rest invocation.env.timestamp

/-- Every call is permitted in the state it finds. -/
def Permits (permitted : State → Env → Call → Prop) : List (Invocation address) → State → Prop
  | [], _ => True
  | invocation :: rest, s =>
      permitted s invocation.env invocation.call ∧
        Permits permitted rest (invocation.call.run.commit invocation.env s)

theorem permits_anyCall (script : List (Invocation address)) (s : State) :
    Permits anyCall script s := by
  induction script generalizing s with
  | nil => trivial
  | cons invocation rest ih => exact ⟨trivial, ih _⟩

theorem reachable_run {script : List (Invocation address)} (ordered : Ordered script now)
    (permits : Permits permitted script s) (reached : Reachable address permitted now s) :
    Reachable address permitted (finish script now) (run script s) := by
  induction script generalizing now s with
  | nil => exact reached
  | cons invocation rest ih =>
      rcases ordered with ⟨order, ordered⟩
      rcases permits with ⟨allowed, permits⟩
      exact ih ordered permits (reached.invoke invocation order allowed)

/-- A script continues a run. -/
theorem continues_run {script : List (Invocation address)} {instant : ℕ} {before : State}
    (ordered : Ordered script now) (permits : Permits permitted script s)
    (continued : (system address).Continues (onCalls permitted) instant before now s) :
    (system address).Continues (onCalls permitted) instant before (finish script now)
      (run script s) := by
  induction script generalizing now s with
  | nil => exact continued
  | cons invocation rest ih =>
      rcases ordered with ⟨order, ordered⟩
      rcases permits with ⟨allowed, permits⟩
      have order : now ≤ (system address).clock (.invoke invocation) := order
      have step : (system address).step s (.invoke invocation)
          (invocation.call.run.commit invocation.env s) := rfl
      exact ih ordered permits (.move continued order allowed step)

/-- The invocations with the states they find, the latest first. -/
def past : List (Invocation address) → State → List (State × Input address)
  | [], _ => []
  | invocation :: rest, s =>
      past rest (invocation.call.run.commit invocation.env s) ++ [(s, .invoke invocation)]

theorem recorded_run {script : List (Invocation address)} {before : List (State × Input address)}
    (ordered : Ordered script now) (permits : Permits permitted script s)
    (recorded : Recorded address permitted before now s) :
    Recorded address permitted (past script s ++ before) (finish script now) (run script s) := by
  induction script generalizing now s before with
  | nil => exact recorded
  | cons invocation rest ih =>
      rcases ordered with ⟨order, ordered⟩
      rcases permits with ⟨allowed, permits⟩
      have order : now ≤ (system address).clock (.invoke invocation) := order
      have step : (system address).step s (.invoke invocation)
          (invocation.call.run.commit invocation.env s) := rfl
      have recorded' := ih ordered permits (.move recorded order allowed step)
      rw [past, List.append_assoc, List.singleton_append]
      exact recorded'

/-- A call that changes the record of a stream succeeds. -/
theorem runs_of_changed {call : Call} {env : Env} {id : ℕ}
    (changed : (call.run.commit env s).streams id ≠ s.streams id) :
    Runs call.run env s () (call.run.commit env s) := by
  rcases commit_cases call.run env s with ⟨_, run⟩ | failed
  · exact run
  · rw [failed] at changed
    exact absurd rfl changed

end Script

/-! ## A deployment to run scripts on -/

namespace Sample

def contract : Address := .contract 0

def token : Address := .contract 1

def admin : Address := .account 0

def sender : Address := .account 1

def recipient : Address := .account 2

def keeper : Address := .account 3

/-- An invocation that the account `key` authorises, with a token that refuses nothing. -/
def env (key timestamp sequence : ℕ) : Env where
  currentContractAddress := contract
  timestamp
  sequence
  auth := fun address => decide (address = .account key)
  ed25519Verify := fun _ _ _ => true
  tokenRefuses := fun _ _ _ _ => false

def invocation (key timestamp sequence : ℕ) (call : Call)
    (valid : decide (u64.Contains timestamp ∧ u32.Contains sequence ∧ call.WellTyped) = true) :
    Invocation contract where
  env := env key timestamp sequence
  call
  here := rfl
  noSelfAuth := rfl
  timestamp := (of_decide_eq_true valid).1
  sequence := (of_decide_eq_true valid).2.1
  wellTyped := (of_decide_eq_true valid).2.2

/-- Everyone but the contract starts with a million tokens. -/
def balances (holder : Address) : ℤ :=
  if holder = contract then 0 else 1000000

/-- Everyone allows the contract to pull a million tokens. -/
def genesis : State :=
  { State.deployed balances fun _ => 1000000 with config := some { token, admin } }

/-- A contract initialised over any balances. -/
theorem fresh_deployed {balances allowances : Address → ℤ} (sound : TokenBalances balances) :
    FreshlyInitialised contract 0
      { State.deployed balances allowances with config := some { token, admin } } := by
  refine ⟨env 0 0 0, token, admin, balances, allowances, rfl, rfl, sound, ?_⟩
  have probe : movedBalances balances contract contract 0 = balances := by
    unfold movedBalances
    simp
  have held := sound contract
  have lower : i128.lower ≤ 0 := by decide
  have fits : i128.Contains (movedBalances balances contract contract 0 contract) := by
    rw [probe]
    exact ⟨lower.trans held.1, held.2⟩
  have unmoved : movedBalances balances contract contract 0 contract = balances contract := by
    rw [probe]
  simp only [init, verifyTokenBehavior, runs_bind, runs_requireAuth, runs_peek, runs_rejectIf,
    runs_ask, runs_tokenTransfer, runs_update, and_assoc, exists_and_left, exists_eq_left,
    exists_const]
  refine ⟨rfl, Bool.false_ne_true, not_lt.mpr held.1, ⟨le_rfl, held.1, fits, rfl⟩,
    not_lt.mpr (held.1.trans unmoved.ge), not_not.mpr unmoved.symm, ?_⟩
  change _ = { State.deployed (movedBalances balances contract contract 0) allowances with
    config := some { token, admin } }
  rw [probe]

theorem fresh_genesis : FreshlyInitialised contract 0 genesis := by
  apply fresh_deployed
  intro holder
  unfold balances
  split <;> decide

/-- Half of what a token can represent, `2 ^ 126`. -/
def half : ℤ := 85070591730234615865843651857942052864

/-- The sender holds `amount` tokens, and nobody else holds any. -/
def endowment (amount : ℤ) (holder : Address) : ℤ :=
  if holder = sender then amount else 0

def funded (amount : ℤ) : State :=
  { State.deployed (endowment amount) fun _ => amount with config := some { token, admin } }

theorem fresh_funded {amount : ℤ} (nonneg : 0 ≤ amount) (le : amount ≤ i128.upper) :
    FreshlyInitialised contract 0 (funded amount) := by
  apply fresh_deployed
  intro holder
  unfold endowment
  split
  · exact ⟨nonneg, le⟩
  · exact ⟨le_rfl, by decide⟩

theorem reachable_genesis (permitted : State → Env → Call → Prop) :
    Reachable contract permitted 0 genesis :=
  .start fresh_genesis

/-- A script whose timestamps do not go back can be run after the initialisation. -/
theorem reachable_run {script : List (Invocation contract)} (ordered : Script.Ordered script 0) :
    Reachable contract anyCall (Script.finish script 0) (Script.run script genesis) :=
  Script.reachable_run ordered (Script.permits_anyCall _ _) (reachable_genesis _)

/-- No holder of the sample and the contract together have more than a token can represent. -/
theorem roomy_of_pulled {source : Address} {amount : ℤ} (nonneg : 0 ≤ amount)
    (few : amount ≤ 1000000) (holder : Address) (other : holder ≠ contract) :
    movedBalances balances source contract amount holder +
      movedBalances balances source contract amount contract ≤ i128.upper := by
  have bounds : ∀ holder, 0 ≤ balances holder ∧ balances holder ≤ 1000000 := by
    intro holder
    unfold balances
    split <;> decide
  have room : 4000000 ≤ i128.upper := by decide
  have first := bounds holder
  have second := bounds contract
  unfold movedBalances
  simp only [Function.update_self, Function.update_of_ne other]
  rcases eq_or_ne holder source with rfl | apart
  · simp only [Function.update_self, Function.update_of_ne other.symm]
    omega
  · simp only [Function.update_of_ne apart]
    rcases eq_or_ne contract source with rfl | apart'
    · simp only [Function.update_self]
      omega
    · simp only [Function.update_of_ne apart']
      omega

/-- Nor has one where the sender alone had tokens. -/
theorem roomy_of_endowed {amount : ℤ} (le : amount ≤ i128.upper)
    (holder : Address) (other : holder ≠ contract) :
    movedBalances (endowment amount) sender contract amount holder +
      movedBalances (endowment amount) sender contract amount contract ≤ i128.upper := by
  have apart : contract ≠ sender := by decide
  unfold movedBalances
  simp only [Function.update_self, Function.update_of_ne other, Function.update_of_ne apart]
  rcases eq_or_ne holder sender with rfl | elsewhere
  · simp only [Function.update_self, endowment, if_true, if_neg apart]
    omega
  · simp only [Function.update_of_ne elsewhere, endowment, if_neg apart, if_neg elsewhere]
    omega

/-- Terms of a stream of `depositAmount` tokens over a hundred seconds. -/
def params (depositAmount ratePerSecond : ℤ) (startTime cliffTime : ℕ) : CreateStreamParams where
  recipient
  depositAmount
  ratePerSecond
  startTime
  cliffTime
  endTime := startTime + 100
  withdrawDustThreshold := none
  memo := none
  metadata := none
  kind := .linear

/-- One stream, created at time 0. -/
def oneCreation (depositAmount ratePerSecond : ℤ) (startTime cliffTime : ℕ)
    (valid : decide (u64.Contains (0 : ℕ) ∧ u32.Contains (0 : ℕ) ∧ (Call.createStream sender
      (params depositAmount ratePerSecond startTime cliffTime)).WellTyped) = true) :
    List (Invocation contract) :=
  [invocation 1 0 0
    (.createStream sender (params depositAmount ratePerSecond startTime cliffTime)) valid]

theorem reachable_oneCreation {depositAmount ratePerSecond : ℤ} {startTime cliffTime : ℕ}
    {valid : decide (u64.Contains (0 : ℕ) ∧ u32.Contains (0 : ℕ) ∧ (Call.createStream sender
      (params depositAmount ratePerSecond startTime cliffTime)).WellTyped) = true}
    (allowed : ∀ s env sender params, permitted s env (.createStream sender params)) :
    Reachable contract permitted 0
      (Script.run (oneCreation depositAmount ratePerSecond startTime cliffTime valid)
        genesis) := by
  have ordered : Script.Ordered
      (oneCreation depositAmount ratePerSecond startTime cliffTime valid) 0 :=
    ⟨le_rfl, trivial⟩
  exact Script.reachable_run ordered ⟨allowed _ _ _ _, trivial⟩ (reachable_genesis permitted)

/-- A stream of 1000 tokens at rate 10 that holds back payments below 900. -/
def dusty : List (Invocation contract) :=
  [invocation 1 0 0 (.createStream sender
    { params 1000 10 0 0 with withdrawDustThreshold := some 900 }) (Eq.refl true)]

/-- A stream of 1000 tokens beside one of 10000, both from the start. -/
def twoCreations : List (Invocation contract) :=
  [invocation 1 0 0 (.createStream sender (params 1000 10 0 0)) (Eq.refl true),
    invocation 1 0 0 (.createStream sender (params 10000 100 0 0)) (Eq.refl true)]

/-- Two ids are reserved, and a stream of another sender gets the id after them. -/
def reserved : List (Invocation contract) :=
  [invocation 1 0 0 (.reserveStreamIds sender 2 none) (Eq.refl true),
    invocation 3 0 0 (.createStream keeper (params 1000 10 0 0)) (Eq.refl true)]

theorem ordered_reserved : Script.Ordered reserved 0 :=
  ⟨by decide, by decide, trivial⟩

/-- The first stream is drawn at its end, when it has earned its deposit. -/
def drained : List (Invocation contract) :=
  twoCreations ++
    [invocation 2 100 1 (.withdraw 0) (Eq.refl true)]

theorem ordered_drained : Script.Ordered drained 0 :=
  ⟨by decide, by decide, by decide, trivial⟩

end Sample

end Wallie.StreamContract
