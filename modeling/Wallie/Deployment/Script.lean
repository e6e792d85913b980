import Wallie.Deployment.System
import Wallie.StreamContract.Script

/-!
# Scripted runs of the deployment

As for the stream contract alone, a run is given by writing down its
transactions.
-/

namespace Wallie.Deployment

open StreamContract (Address Bytes i128 u64)

namespace Script

variable {contracts : Contracts} {permitted : State → Input contracts → Prop} {now : ℕ}
  {s : State}

/-- The state after the transactions, each of which succeeds or changes nothing. -/
def run (script : List (Invocation contracts)) (s : State) : State :=
  ClockedSystem.play Invocation.next script s

/-- The instant of the last transaction. -/
def finish (script : List (Invocation contracts)) (now : ℕ) : ℕ :=
  ClockedSystem.finish (fun invocation => invocation.tx.timestamp) script now

/-- The timestamps do not go back. -/
def Ordered (script : List (Invocation contracts)) (now : ℕ) : Prop :=
  ClockedSystem.Ordered (fun invocation => invocation.tx.timestamp) script now

/-- Every transaction is permitted in the state it finds. -/
def Permits (permitted : State → Input contracts → Prop) :
    List (Invocation contracts) → State → Prop
  | [], _ => True
  | invocation :: rest, s =>
      permitted s (.invoke invocation) ∧ Permits permitted rest (invocation.next s)

theorem permits_all {script : List (Invocation contracts)} :
    Permits (fun _ _ => True) script s := by
  induction script generalizing s with
  | nil => trivial
  | cons invocation rest ih => exact ⟨trivial, ih⟩

/-- A script continues a run. -/
theorem continues_run {script : List (Invocation contracts)} {instant : ℕ} {before : State}
    (ordered : Ordered script now) (permits : Permits permitted script s)
    (continued : (system contracts).Continues permitted instant before now s) :
    (system contracts).Continues permitted instant before (finish script now) (run script s) := by
  induction script generalizing now s with
  | nil => exact continued
  | cons invocation rest ih =>
      rcases ordered with ⟨order, ordered⟩
      rcases permits with ⟨allowed, permits⟩
      have order : now ≤ (system contracts).clock (.invoke invocation) := order
      have step : (system contracts).step s (.invoke invocation) (invocation.next s) := rfl
      exact ih ordered permits (.move continued order allowed step)

/-- The transactions with the states they find, the latest first. -/
def past : List (Invocation contracts) → State → List (State × Input contracts)
  | [], _ => []
  | invocation :: rest, s => past rest (invocation.next s) ++ [(s, .invoke invocation)]

theorem recorded_run {script : List (Invocation contracts)}
    {before : List (State × Input contracts)} (ordered : Ordered script now)
    (recorded : Recorded contracts before now s) :
    Recorded contracts (past script s ++ before) (finish script now) (run script s) := by
  induction script generalizing now s before with
  | nil => exact recorded
  | cons invocation rest ih =>
      rcases ordered with ⟨order, ordered⟩
      have order : now ≤ (system contracts).clock (.invoke invocation) := order
      have step : (system contracts).step s (.invoke invocation) (invocation.next s) := rfl
      have recorded' := ih ordered (.move recorded order trivial step)
      rw [past, List.append_assoc, List.singleton_append]
      exact recorded'

end Script

/-! ## Three contracts to run transactions on -/

namespace Sample

open StreamContract.Sample (admin params recipient sender)
open Governance.Sample (setCap)

def addresses : Contracts where
  governance := .contract 5
  factory := .contract 6
  stream := StreamContract.Sample.contract
  governance_ne_factory := by decide
  governance_ne_stream := by decide
  factory_ne_stream := by decide

/-- The XDR of `StreamSetMaxRate(5)`. -/
def setMaxRate : Bytes :=
  [0, 0, 0, 16, 0, 0, 0, 1, 0, 0, 0, 2,
    0, 0, 0, 15, 0, 0, 0, 16, 83, 116, 114, 101, 97, 109, 83, 101, 116, 77, 97, 120, 82, 97, 116,
    101, 0, 0, 0, 10, 0, 0, 0, 0, 0, 0, 0, 0, 0, 0, 0, 0, 0, 0, 0, 5]

/-- What the host makes of the data of two changes, of the stream contract's rate limit and of the
factory's cap, and of bytes that are no XDR. -/
def fromXdr (bytes : Bytes) : Governance.Decoded :=
  if bytes = setMaxRate then .value (.streamSetMaxRate 5)
  else if bytes = setCap then .value (.factorySetCap 1000)
  else .malformed

theorem wellTyped_of_fromXdr {bytes : Bytes} {op : Governance.CallData}
    (decoded : fromXdr bytes = .value op) : op.WellTyped := by
  unfold fromXdr at decoded
  split at decoded
  · cases decoded
    exact (by decide : i128.Contains 5)
  · split at decoded
    · cases decoded
      exact (by decide : i128.Contains 1000)
    · cases decoded

/-- A transaction that the account `key` signs, with the calls made from there. -/
def tx (key timestamp : ℕ) (fits : u64.Contains timestamp) : Transaction addresses where
  timestamp
  sequence := 0
  auth := fun address => decide (address = .account key)
  nestedAuth := fun address => decide (address = .account key)
  ed25519Verify := fun _ _ _ => true
  tokenRefuses := fun _ _ _ _ => false
  fromXdr
  outside :=
    { version := fun _ => false
      createStream := fun _ _ _ => .failed
      createStreams := fun _ _ _ => none
      rejects := fun _ => true }
  timestamp_fits := fits
  sequence_fits := by decide
  unsigned := by
    rintro _ (rfl | rfl | rfl)
    · exact ⟨rfl, rfl⟩
    · exact ⟨rfl, rfl⟩
    · exact ⟨rfl, rfl⟩
  decodes := fun _ _ decoded => wellTyped_of_fromXdr decoded

def invocation (key timestamp : ℕ) (call : Call)
    (valid : decide (u64.Contains timestamp ∧ call.WellTyped) = true) : Invocation addresses where
  tx := tx key timestamp (of_decide_eq_true valid).1
  call
  wellTyped := (of_decide_eq_true valid).2

/-- The stream contract is initialised, the other two are not. -/
def genesis : State where
  governance := .deployed
  factory := .deployed
  stream := StreamContract.Sample.genesis

theorem initial_genesis : Initial addresses 0 genesis where
  governance := .start rfl
  factory := ⟨[], .start rfl⟩
  stream := StreamContract.Sample.fresh_genesis
  uncreated := by
    intro creation member
    cases member
  undispatched := by
    intro dispatch member
    cases member

theorem reachable_run {script : List (Invocation addresses)} (ordered : Script.Ordered script 0) :
    Reachable addresses (Script.finish script 0) (Script.run script genesis) :=
  (Script.continues_run ordered Script.permits_all .here).reachable (.start initial_genesis)

/-- Both admins hand their role to a council of three. -/
def handedOver : List (Invocation addresses) :=
  [invocation 0 0 (.governance (.init admin [.account 1, .account 2, .account 3] 2))
      (Eq.refl true),
    invocation 0 0 (.stream (.setAdmin addresses.governance)) (Eq.refl true),
    invocation 0 0 (.factory (.init admin addresses.stream 2500 50)) (Eq.refl true),
    invocation 0 0 (.factory (.setAdmin addresses.governance)) (Eq.refl true)]

/-- The council changes a parameter of each contract, while the former admin tries in vain. -/
def governed : List (Invocation addresses) :=
  [invocation 1 0 (.governance (.propose (.account 1) addresses.stream setMaxRate))
      (Eq.refl true),
    invocation 1 0 (.governance (.propose (.account 1) addresses.factory setCap)) (Eq.refl true),
    invocation 1 1 (.governance (.approve (.account 1) 0)) (Eq.refl true),
    invocation 1 1 (.governance (.approve (.account 1) 1)) (Eq.refl true),
    invocation 2 2 (.governance (.approve (.account 2) 0)) (Eq.refl true),
    invocation 2 2 (.governance (.approve (.account 2) 1)) (Eq.refl true),
    invocation 0 3 (.stream (.setMaxRatePerSecond 7)) (Eq.refl true),
    invocation 3 172802 (.governance (.execute (.account 3) 0)) (Eq.refl true),
    invocation 3 172802 (.governance (.execute (.account 3) 1)) (Eq.refl true)]

/-- The factory allows one recipient, and a sender creates a stream through it and one without. -/
def streaming : List (Invocation addresses) :=
  [invocation 0 0 (.factory (.init admin addresses.stream 2500 50)) (Eq.refl true),
    invocation 0 0 (.factory (.setAllowlist recipient true)) (Eq.refl true),
    invocation 1 0 (.factory (.createStream sender (params 1000 10 0 0))) (Eq.refl true),
    invocation 1 0 (.stream (.createStream sender (params 2000 10 0 0))) (Eq.refl true)]

theorem ordered_streaming : Script.Ordered streaming 0 :=
  ⟨by decide, by decide, by decide, by decide, trivial⟩

end Sample

end Wallie.Deployment
