import Wallie.Factory.Runs
import Wallie.Governance.Runs
import Wallie.StreamContract.Entrypoints

/-!
# The three contracts together

A governance contract, a factory and a stream contract are deployed at addresses
of their own. A transaction calls one of them, and the call may go on to another:
the factory forwards the terms it admits to a stream contract, and an executed
proposal calls its target. What either calls is answered by the model of the
contract when it is one of the three, and by the world outside otherwise. A
transaction succeeds with all its calls or changes nothing.
-/

namespace Wallie.Factory

open StreamContract (i128 u64)

/-- The integer arguments of a call are values of their machine types. A single stream comes
without metadata. -/
def Call.WellTyped : Call → Prop
  | init _ _ maxDeposit minDuration => i128.Contains maxDeposit ∧ u64.Contains minDuration
  | setCap maxDeposit => i128.Contains maxDeposit
  | setMinDuration minDuration => u64.Contains minDuration
  | setRateBounds minRate maxRate =>
      (∀ rate ∈ minRate, i128.Contains rate) ∧ ∀ rate ∈ maxRate, i128.Contains rate
  | createStream _ params => params.WellTyped ∧ params.metadata = none
  | createStreams _ streams => ∀ params ∈ streams, params.WellTyped
  | _ => True

instance : DecidablePred Call.WellTyped
  | .init _ _ _ _ | .createStream _ _ => inferInstanceAs (Decidable (_ ∧ _))
  | .setRateBounds minRate maxRate =>
      inferInstanceAs (Decidable ((∀ rate ∈ minRate, i128.Contains rate) ∧
        ∀ rate ∈ maxRate, i128.Contains rate))
  | .setCap maxDeposit => inferInstanceAs (Decidable (i128.Contains maxDeposit))
  | .setMinDuration minDuration => inferInstanceAs (Decidable (u64.Contains minDuration))
  | .createStreams _ streams =>
      inferInstanceAs (Decidable (∀ params ∈ streams, params.WellTyped))
  | .setAdmin _ | .setStreamContract _ | .setAllowlist _ _ | .setBatchCapEnforcement _
  | .setFactoryPaused _ => inferInstanceAs (Decidable True)

/-- The request that a creating call forwards to the stream contract. -/
def Call.request : Call → Option StreamContract.Call
  | createStream sender params => some (.createStream sender params)
  | createStreams sender streams =>
      if streams = [] then none else some (.createStreams sender streams)
  | _ => none

end Wallie.Factory

namespace Wallie.Governance

open StreamContract (i128 u64)

/-- The integers of a decoded change are values of their machine types. -/
def CallData.WellTyped : CallData → Prop
  | streamSetMaxRate maxRate => i128.Contains maxRate
  | factorySetCap maxDeposit => i128.Contains maxDeposit
  | factorySetMinDuration minDuration => u64.Contains minDuration
  | _ => True

/-- The entrypoint of the stream contract that the function of a change names, if it has one. -/
def CallData.streamCall : CallData → Option StreamContract.Call
  | streamSetAdmin newAdmin | factorySetAdmin newAdmin => some (.setAdmin newAdmin)
  | streamSetMaxRate maxRate => some (.setMaxRatePerSecond maxRate)
  | _ => none

/-- The entrypoint of the factory that the function of a change names, if it has one. -/
def CallData.factoryCall : CallData → Option Factory.Call
  | streamSetAdmin newAdmin | factorySetAdmin newAdmin => some (.setAdmin newAdmin)
  | factorySetCap maxDeposit => some (.setCap maxDeposit)
  | factorySetMinDuration minDuration => some (.setMinDuration minDuration)
  | factorySetAllowlist recipient allowed => some (.setAllowlist recipient allowed)
  | factorySetStreamContract newContract => some (.setStreamContract newContract)
  | _ => none

end Wallie.Governance

namespace Wallie.Deployment

open Fallible
open StreamContract (Address Bytes CreateStreamParams u32 u64)
open Governance (Decoded Dispatch)

/-- The addresses of the three contracts. -/
structure Contracts where
  governance : Address
  factory : Address
  stream : Address
  governance_ne_factory : governance ≠ factory
  governance_ne_stream : governance ≠ stream
  factory_ne_stream : factory ≠ stream

def Contracts.Has (contracts : Contracts) (address : Address) : Prop :=
  address = contracts.governance ∨ address = contracts.factory ∨ address = contracts.stream

instance (contracts : Contracts) (address : Address) : Decidable (contracts.Has address) :=
  inferInstanceAs (Decidable (_ ∨ _))

/-- What contracts other than the three answer during a transaction. -/
structure Outside where
  version : Address → Bool
  createStream : Address → Address → CreateStreamParams → Factory.Reply
  createStreams : Address → Address → List CreateStreamParams → Option (List ℕ)
  rejects : Dispatch → Bool

/-- What the host supplies to one transaction. None of the three contracts signs anything: each
authorises the calls that it makes itself, and no others. -/
structure Transaction (contracts : Contracts) where
  timestamp : ℕ
  sequence : ℕ
  /-- The addresses that authorised the call of the transaction. -/
  auth : Address → Bool
  /-- The addresses that authorised the call made from there. -/
  nestedAuth : Address → Bool
  ed25519Verify : ℕ → Bytes → Bytes → Bool
  tokenRefuses : StreamContract.State → Address → Address → ℤ → Bool
  fromXdr : Bytes → Decoded
  outside : Outside
  timestamp_fits : u64.Contains timestamp
  sequence_fits : u32.Contains sequence
  unsigned : ∀ address, contracts.Has address →
    auth address = false ∧ nestedAuth address = false
  decodes : ∀ bytes op, fromXdr bytes = .value op → op.WellTyped

structure State where
  governance : Governance.State
  factory : Factory.State
  stream : StreamContract.State

variable {contracts : Contracts}

namespace Transaction

/-- The addresses that authorise a call made by `caller`. -/
def calledBy (tx : Transaction contracts) (caller : Address) : Address → Bool :=
  fun address => decide (address = caller) || tx.nestedAuth address

def streamEnv (tx : Transaction contracts) (auth : Address → Bool) : StreamContract.Env where
  currentContractAddress := contracts.stream
  timestamp := tx.timestamp
  sequence := tx.sequence
  auth
  ed25519Verify := tx.ed25519Verify
  tokenRefuses := tx.tokenRefuses

end Transaction

namespace State

/-- A call of the stream contract. -/
def callStream (tx : Transaction contracts) (auth : Address → Bool) (call : StreamContract.Call)
    (s : State) : Option State :=
  match call.run (tx.streamEnv auth) s.stream with
  | .ok (_, stream) => some { s with stream }
  | .error _ => none

/-- What the factory gets back from `create_stream` of the stream contract. -/
def replyToStream (tx : Transaction contracts) (s : State) (sender : Address)
    (params : CreateStreamParams) : Factory.Reply :=
  match StreamContract.createStream sender params (tx.streamEnv (tx.calledBy contracts.factory))
    s.stream with
  | .ok (streamId, _) => .created streamId
  | .error (.error reason) => .refused reason
  | .error .trap => .failed

/-- What the factory gets back from `create_streams` of the stream contract. -/
def replyToStreams (tx : Transaction contracts) (s : State) (sender : Address)
    (streams : List CreateStreamParams) : Option (List ℕ) :=
  match StreamContract.createStreams sender streams (tx.streamEnv (tx.calledBy contracts.factory))
    s.stream with
  | .ok (streamIds, _) => some streamIds
  | .error _ => none

/-- What the factory finds around it. The host refuses a call back into it, and the governance
contract has none of the functions that it calls. -/
def factoryEnv (tx : Transaction contracts) (auth : Address → Bool) (s : State) : Factory.Env where
  auth
  version := fun address =>
    if address = contracts.stream then true
    else if contracts.Has address then false
    else tx.outside.version address
  createStream := fun address sender params =>
    if address = contracts.stream then s.replyToStream tx sender params
    else if contracts.Has address then .failed
    else tx.outside.createStream address sender params
  createStreams := fun address sender streams =>
    if address = contracts.stream then s.replyToStreams tx sender streams
    else if contracts.Has address then none
    else tx.outside.createStreams address sender streams

/-- A call of the factory, with what it does to the stream contract. -/
def callFactory (tx : Transaction contracts) (auth : Address → Bool) (call : Factory.Call)
    (s : State) : Option State :=
  match call.run (s.factoryEnv tx auth) s.factory with
  | .error _ => none
  | .ok (_, factory) =>
      match call.request with
      | none => some { s with factory }
      | some request =>
          if s.factory.streamContract = some contracts.stream then
            { s with factory }.callStream tx (tx.calledBy contracts.factory) request
          else some { s with factory }

/-- A call that an executed proposal makes. The host refuses a call back into the governance
contract. -/
def dispatch (tx : Transaction contracts) (s : State) (dispatch : Dispatch) : Option State :=
  if dispatch.target = contracts.stream then
    dispatch.op.streamCall.bind fun call =>
      s.callStream tx (tx.calledBy contracts.governance) call
  else if dispatch.target = contracts.factory then
    dispatch.op.factoryCall.bind fun call =>
      s.callFactory tx (tx.calledBy contracts.governance) call
  else if dispatch.target = contracts.governance then none
  else if tx.outside.rejects dispatch then none
  else some s

def governanceEnv (tx : Transaction contracts) (s : State) : Governance.Env where
  timestamp := tx.timestamp
  auth := tx.auth
  fromXdr := tx.fromXdr
  rejects := fun _ dispatch => (s.dispatch tx dispatch).isNone

/-- A call of the governance contract, with what it does to the others. -/
def callGovernance (tx : Transaction contracts) (call : Governance.Call) (s : State) :
    Option State :=
  match call.run (s.governanceEnv tx) s.governance with
  | .error _ => none
  | .ok (_, governance) =>
      -- The calls that were made are those the contract has noted since.
      (governance.dispatches.drop s.governance.dispatches.length).foldlM (dispatch tx)
        { s with governance }

end State

/-! ## Runs -/

inductive Call where
  | governance (call : Governance.Call)
  | factory (call : Factory.Call)
  | stream (call : StreamContract.Call)

def Call.WellTyped : Call → Prop
  | governance call => call.WellTyped
  | factory call => call.WellTyped
  | stream call => call.WellTyped

instance : DecidablePred Call.WellTyped
  | .governance call => inferInstanceAs (Decidable call.WellTyped)
  | .factory call => inferInstanceAs (Decidable call.WellTyped)
  | .stream call => inferInstanceAs (Decidable call.WellTyped)

/-- What a call does, unless it fails. -/
def Call.perform (tx : Transaction contracts) : Call → State → Option State
  | governance call => State.callGovernance tx call
  | factory call => State.callFactory tx tx.auth call
  | stream call => State.callStream tx tx.auth call

structure Invocation (contracts : Contracts) where
  tx : Transaction contracts
  call : Call
  wellTyped : call.WellTyped

def Invocation.next (invocation : Invocation contracts) (s : State) : State :=
  (invocation.call.perform invocation.tx s).getD s

inductive Input (contracts : Contracts) where
  | invoke (invocation : Invocation contracts)
  | token (activity : StreamContract.TokenActivity)

def Input.clock : Input contracts → ℕ
  | invoke invocation => invocation.tx.timestamp
  | token activity => activity.instant

def Input.Steps (s : State) : Input contracts → State → Prop
  | invoke invocation, s' => s' = invocation.next s
  | token activity, s' =>
      s.stream.balances contracts.stream ≤ activity.balances contracts.stream ∧
        s' = { s with
          stream := { s.stream with
            balances := activity.balances, allowances := activity.allowances } }

/-- The stream contract is initialised. The other two may have run before, but they have done
nothing to the stream contract, which refuses them until it is initialised. -/
structure Initial (contracts : Contracts) (instant : ℕ) (s : State) : Prop where
  governance : Governance.Reachable instant s.governance
  factory : ∃ past, Factory.Recorded past s.factory
  stream : StreamContract.FreshlyInitialised contracts.stream instant s.stream
  uncreated : ∀ creation ∈ s.factory.creations, creation.streamContract ≠ contracts.stream
  undispatched : ∀ dispatch ∈ s.governance.dispatches, dispatch.target ≠ contracts.stream

/-- The three contracts, from the initialisation of the stream contract on. -/
def system (contracts : Contracts) : ClockedSystem State (Input contracts) ℕ where
  initial := Initial contracts
  clock := Input.clock
  step := Input.Steps

abbrev Reachable (contracts : Contracts) (now : ℕ) (s : State) : Prop :=
  (system contracts).Reachable (fun _ _ => True) now s

/-- The states reached at `now`, with the past of the run, the latest first. -/
abbrev Recorded (contracts : Contracts) (past : List (State × Input contracts)) (now : ℕ)
    (s : State) : Prop :=
  (system contracts).Recorded (fun _ _ => True) past now s

end Wallie.Deployment
