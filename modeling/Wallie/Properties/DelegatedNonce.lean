import Wallie.Ledger.Payments
import Wallie.Ledger.RunInvariant
import Wallie.StreamContract.EntrypointWrites
import Wallie.StreamContract.Script
import Mathlib.Data.List.Nodup

/-!
# Delegated withdrawals

A relayer presents a message that the recipient signed, with the nonce of the
recipient in it. The nonce moves on by one exactly when tokens move, so that the
payments to a recipient use up the nonces one by one, whoever submits the
messages and in whatever order.
-/

namespace Wallie.StreamContract

open Fallible

variable {address : Address} {permitted : State → Env → Call → Prop} {now : ℕ} {s s' : State}
  {env : Env} {call : Call} {input : Input address} {past : List (State × Input address)}

/-! ## The signed message -/

/-- What a recipient signs. -/
@[ext]
structure DelegatedTerms where
  streamId : ℕ
  nonce : ℕ
  deadline : ℕ
  expectedMinimumAmount : ℤ
  deriving DecidableEq, Repr

namespace DelegatedTerms

variable {terms terms' : DelegatedTerms}

def message (terms : DelegatedTerms) : Bytes :=
  delegatedMessage terms.streamId terms.nonce terms.deadline terms.expectedMinimumAmount

/-- The terms are values of their machine types. -/
structure WellTyped (terms : DelegatedTerms) : Prop where
  streamId : u64.Contains terms.streamId
  nonce : u64.Contains terms.nonce
  deadline : u64.Contains terms.deadline
  expectedMinimumAmount : i128.Contains terms.expectedMinimumAmount

end DelegatedTerms

theorem length_toBeBytes (width value : ℕ) : (toBeBytes width value).length = width := by
  induction width generalizing value with
  | zero => rfl
  | succ width ih => rw [toBeBytes, List.length_append, ih, List.length_singleton]

/-- The bytes of a value that fits determine it. -/
theorem toBeBytes_inj {width left right : ℕ} (leftFits : left < 256 ^ width)
    (rightFits : right < 256 ^ width) (same : toBeBytes width left = toBeBytes width right) :
    left = right := by
  induction width generalizing left right with
  | zero => omega
  | succ width ih =>
      rw [toBeBytes, toBeBytes] at same
      rcases List.append_inj same (by rw [length_toBeBytes, length_toBeBytes]) with ⟨high, low⟩
      rw [pow_succ] at leftFits rightFits
      have quotients : left / 256 = right / 256 :=
        ih (Nat.div_lt_of_lt_mul (by omega)) (Nat.div_lt_of_lt_mul (by omega)) high
      have remainders : left % 256 = right % 256 := by
        have bytes := congrArg UInt8.toNat (List.singleton_inj.mp low)
        rw [UInt8.toNat_ofNat', UInt8.toNat_ofNat'] at bytes
        omega
      omega

theorem toBeBytes_inj_of_u64 {left right : ℕ} (leftFits : u64.Contains left)
    (rightFits : u64.Contains right) (same : toBeBytes 8 left = toBeBytes 8 right) :
    left = right := by
  have upper : u64.upper = 2 ^ 64 - 1 := rfl
  have leftLe := leftFits.2
  have rightLe := rightFits.2
  exact toBeBytes_inj (by omega) (by omega) same

theorem toBeBytes_inj_of_i128 {left right : ℤ} (leftFits : i128.Contains left)
    (rightFits : i128.Contains right)
    (same : toBeBytes 16 (i128Bits left) = toBeBytes 16 (i128Bits right)) : left = right := by
  have upper : i128.upper = 2 ^ 127 - 1 := rfl
  have lower : i128.lower = -2 ^ 127 := rfl
  have leftBounds := leftFits
  have rightBounds := rightFits
  unfold Bounded.Interval.Contains at leftBounds rightBounds
  have bits : i128Bits left = i128Bits right :=
    toBeBytes_inj (by unfold i128Bits; omega) (by unfold i128Bits; omega) same
  unfold i128Bits at bits
  omega

/-- The message has its four fields at fixed places. -/
theorem DelegatedTerms.message_injective {terms terms' : DelegatedTerms}
    (typed : terms.WellTyped) (typed' : terms'.WellTyped)
    (same : terms.message = terms'.message) : terms = terms' := by
  unfold message delegatedMessage at same
  rcases List.append_inj same (by simp only [List.length_append, length_toBeBytes]) with
    ⟨same, minimum⟩
  rcases List.append_inj same (by simp only [List.length_append, length_toBeBytes]) with
    ⟨same, deadline⟩
  rcases List.append_inj same (by rw [length_toBeBytes, length_toBeBytes]) with
    ⟨streamId, nonce⟩
  ext1
  · exact toBeBytes_inj_of_u64 typed.streamId typed'.streamId streamId
  · exact toBeBytes_inj_of_u64 typed.nonce typed'.nonce nonce
  · exact toBeBytes_inj_of_u64 typed.deadline typed'.deadline deadline
  · exact toBeBytes_inj_of_i128 typed.expectedMinimumAmount typed'.expectedMinimumAmount minimum

/-! ## Delegated payments -/

/-- A payment to a recipient on the strength of a signature. -/
structure DelegatedPayment where
  recipient : Address
  recipientPublicKey : ℕ
  terms : DelegatedTerms
  amount : ℤ
  deriving DecidableEq, Repr

/-- The delegated payment a call makes: only a delegated withdrawal that succeeds and moves tokens
makes one. -/
def Call.delegatedPayment (env : Env) (s : State) : Call → Option DelegatedPayment
  | delegatedWithdraw streamId relayer recipientPublicKey nonce deadline expectedMinimumAmount
      signature =>
      match StreamContract.delegatedWithdraw streamId relayer recipientPublicKey nonce deadline
        expectedMinimumAmount signature env s with
      | .ok (amount, _) =>
          if 0 < amount then
            (s.streams streamId).map fun stream =>
              { recipient := stream.recipient, recipientPublicKey,
                terms := { streamId, nonce, deadline, expectedMinimumAmount }, amount }
          else none
      | .error _ => none
  | _ => none

def Input.delegatedPayment (s : State) : Input address → Option DelegatedPayment
  | invoke invocation => invocation.call.delegatedPayment invocation.env s
  | token _ => none

/-- The delegated payments of a run, oldest first. -/
def delegatedPayments (past : List (State × Input address)) : List DelegatedPayment :=
  (past.filterMap fun entry => entry.2.delegatedPayment entry.1).reverse

theorem delegatedPayments_cons :
    delegatedPayments ((s, input) :: past) =
      delegatedPayments past ++ (input.delegatedPayment s).toList := by
  rw [delegatedPayments, List.filterMap_cons]
  cases input.delegatedPayment s with
  | none => simp [delegatedPayments]
  | some payment => simp [delegatedPayments]

/-- A delegated payment was due, and its terms were verified against the stored nonce under the key
of the recipient. -/
structure DelegatedPayment.Verified (payment : DelegatedPayment) (env : Env) (s : State)
    (call : Call) : Prop where
  positive : 0 < payment.amount
  enough : payment.terms.expectedMinimumAmount ≤ payment.amount
  inTime : env.timestamp ≤ payment.terms.deadline
  current : payment.terms.nonce = s.delegatedWithdrawNonce payment.recipient
  key : payment.recipient = .account payment.recipientPublicKey
  verified : ∃ relayer signature,
    call = .delegatedWithdraw payment.terms.streamId relayer payment.recipientPublicKey
      payment.terms.nonce payment.terms.deadline payment.terms.expectedMinimumAmount signature ∧
    env.ed25519Verify payment.recipientPublicKey payment.terms.message signature = true

theorem DelegatedPayment.Verified.wellTyped {payment : DelegatedPayment}
    (verified : payment.Verified env s call) (typed : call.WellTyped) :
    payment.terms.WellTyped := by
  rcases verified.verified with ⟨_, _, rfl, _⟩
  exact ⟨typed.1, typed.2.1, typed.2.2.1, typed.2.2.2⟩

/-- The effect of a successful call on the nonces, and what it verified. -/
theorem delegatedPayment_cases (run : Runs call.run env s () s') :
    call.delegatedPayment env s = none ∧
        s'.delegatedWithdrawNonce = s.delegatedWithdrawNonce ∨
      ∃ payment, call.delegatedPayment env s = some payment ∧ payment.Verified env s call ∧
        s'.delegatedWithdrawNonce = Function.update s.delegatedWithdrawNonce payment.recipient
          (s.delegatedWithdrawNonce payment.recipient + 1) := by
  by_cases writes : .nonces ∈ call.writes
  · cases call <;> simp [Call.writes] at writes
    case delegatedWithdraw streamId relayer recipientPublicKey nonce deadline
      expectedMinimumAmount signature =>
      rcases runs_effect.mp run with ⟨amount, run⟩
      have ran : StreamContract.delegatedWithdraw streamId relayer recipientPublicKey nonce deadline
        expectedMinimumAmount signature env s = .ok (amount, s') := run
      rcases pays_of_delegatedWithdraw run with ⟨rfl, noted, rfl⟩ |
        ⟨stream, pays, enough, delegated⟩
      · left
        exact ⟨by simp [Call.delegatedPayment, ran], rfl⟩
      · right
        rcases pays.result with ⟨noted, lock, rfl⟩
        have noted : Call.delegatedPayment env s (.delegatedWithdraw streamId relayer
            recipientPublicKey nonce deadline expectedMinimumAmount signature) =
              some { recipient := stream.recipient, recipientPublicKey, amount,
                     terms := { streamId, nonce, deadline, expectedMinimumAmount } } := by
          simp only [Call.delegatedPayment, ran, if_pos pays.positive, pays.stored,
            Option.map_some]
        exact ⟨_, noted, ⟨pays.positive, enough, delegated.inTime, delegated.current,
          delegated.key, relayer, signature, rfl, delegated.verified⟩, rfl⟩
  · left
    refine ⟨?_, (call.onlyWrites run).delegatedWithdrawNonce writes⟩
    cases call <;> first | rfl | simp [Call.writes] at writes

theorem delegatedPayment_eq_none (failed : ¬ call.Succeeds env s) :
    call.delegatedPayment env s = none := by
  cases call <;> try rfl
  case delegatedWithdraw streamId relayer recipientPublicKey nonce deadline expectedMinimumAmount
    signature =>
    rw [Call.delegatedPayment]
    split
    · next amount after ran =>
        refine absurd ⟨after, ?_⟩ failed
        exact runs_bind.mpr ⟨amount, after, ran, runs_pure.mpr ⟨rfl, rfl⟩⟩
    · rfl

/-- Each delegated payment moves the nonce of its recipient on by one, and nothing else moves a
nonce. -/
theorem nonce_of_steps (step : Input.Steps s input s') (recipient : Address) :
    s'.delegatedWithdrawNonce recipient = s.delegatedWithdrawNonce recipient +
      if (input.delegatedPayment s).map DelegatedPayment.recipient = some recipient then 1
      else 0 := by
  cases input with
  | token activity =>
      rcases step with ⟨_, rfl⟩
      simp [Input.delegatedPayment]
  | invoke invocation =>
      rw [Input.delegatedPayment]
      rcases step.invoke_cases with run | ⟨failed, rfl⟩
      · rcases delegatedPayment_cases run with ⟨unpaid, same⟩ | ⟨payment, made, _, nonces⟩
        · rw [unpaid, same]
          simp
        · rw [made, nonces]
          rcases eq_or_ne recipient payment.recipient with rfl | other
          · simp
          · simp [other, other.symm]
      · rw [delegatedPayment_eq_none failed]
        simp

/-! ## Runs -/

/-- Signatures are accepted only for messages that the key has signed. -/
def onlySigned (signed : ℕ → Bytes → Prop) : State → Env → Call → Prop :=
  fun _ env _ => ∀ key message signature,
    env.ed25519Verify key message signature = true → signed key message

/-- What the delegated payments of a run say about its nonces. -/
structure State.AccountsNonces (signed : ℕ → Bytes → Prop) (past : List (State × Input address))
    (s : State) : Prop where
  sequence : ∀ recipient,
    ((delegatedPayments past).filter fun payment => payment.recipient = recipient).map
      (fun payment => payment.terms.nonce) = List.range (s.delegatedWithdrawNonce recipient)
  distinct : ((delegatedPayments past).map fun payment =>
    (payment.recipient, payment.terms.nonce)).Nodup
  signed : ∀ payment ∈ delegatedPayments past, payment.terms.WellTyped ∧
    payment.recipient = .account payment.recipientPublicKey ∧
      signed payment.recipientPublicKey payment.terms.message

variable {signed : ℕ → Bytes → Prop}

/-- What makes no delegated payment. -/
theorem State.AccountsNonces.unpaid (accounts : s.AccountsNonces signed past)
    (unpaid : input.delegatedPayment s = none)
    (same : s'.delegatedWithdrawNonce = s.delegatedWithdrawNonce) :
    s'.AccountsNonces signed ((s, input) :: past) := by
  have payments : delegatedPayments ((s, input) :: past) = delegatedPayments past := by
    rw [delegatedPayments_cons, unpaid, Option.toList_none, List.append_nil]
  constructor
  · rw [payments, same]
    exact accounts.sequence
  · rw [payments]
    exact accounts.distinct
  · rw [payments]
    exact accounts.signed

/-- The nonce of a new payment was not used before, since the used ones are smaller. -/
theorem State.AccountsNonces.paid {invocation : Invocation address} {payment : DelegatedPayment}
    (accounts : s.AccountsNonces signed past)
    (made : Input.delegatedPayment s (.invoke invocation) = some payment)
    (verified : payment.Verified invocation.env s invocation.call)
    (honest : onlySigned signed s invocation.env invocation.call)
    (nonces : s'.delegatedWithdrawNonce = Function.update s.delegatedWithdrawNonce
      payment.recipient (s.delegatedWithdrawNonce payment.recipient + 1)) :
    s'.AccountsNonces signed ((s, .invoke invocation) :: past) := by
  have payments : delegatedPayments ((s, .invoke invocation) :: past) =
      delegatedPayments past ++ [payment] := by
    rw [delegatedPayments_cons, made, Option.toList_some]
  constructor
  · intro recipient
    rw [payments, nonces, List.filter_append, List.map_append, accounts.sequence]
    rcases eq_or_ne recipient payment.recipient with rfl | other
    · rw [Function.update_self, List.range_succ]
      simp [verified.current]
    · rw [Function.update_of_ne other]
      simp [other.symm]
  · rw [payments, List.map_append, List.map_singleton]
    refine List.Nodup.append accounts.distinct (List.nodup_singleton _)
      (List.disjoint_singleton.mpr ?_)
    intro member
    rcases List.mem_map.mp member with ⟨earlier, found, same⟩
    rw [Prod.mk.injEq] at same
    have used : earlier.terms.nonce ∈ List.range (s.delegatedWithdrawNonce payment.recipient) := by
      rw [← accounts.sequence payment.recipient]
      exact List.mem_map_of_mem (List.mem_filter.mpr ⟨found, by simp [same.1]⟩)
    rw [same.2, verified.current, List.mem_range] at used
    exact lt_irrefl _ used
  · rw [payments]
    intro other member
    rcases List.mem_append.mp member with earlier | latest
    · exact accounts.signed other earlier
    · rw [List.mem_singleton.mp latest]
      rcases verified.verified with ⟨_, signature, _, accepted⟩
      exact ⟨verified.wellTyped invocation.wellTyped, verified.key,
        honest _ _ signature accepted⟩

theorem Recorded.accountsNonces (recorded : Recorded address (onlySigned signed) past now s) :
    s.AccountsNonces signed past := by
  refine recorded.runs_invariant (fun past s => s.AccountsNonces signed past) ?_ ?_ ?_ ?_
  · intro instant s fresh
    rcases fresh.eq_deployed with ⟨balances, allowances, config, rfl⟩
    exact
      { sequence := fun _ => rfl
        distinct := List.nodup_nil
        signed := fun _ member => absurd member List.not_mem_nil }
  · exact fun _ _ _ accounts => accounts.unpaid rfl rfl
  · exact fun _ _ _ failed accounts => accounts.unpaid (delegatedPayment_eq_none failed) rfl
  · intro past instant s invocation s' _ _ honest run accounts
    rcases delegatedPayment_cases run with ⟨unpaid, same⟩ | ⟨payment, made, verified, nonces⟩
    · exact accounts.unpaid unpaid same
    · exact accounts.paid made verified honest nonces

/-- In every run, whatever the order of the calls, the delegated payments to a recipient used the
nonces from zero up, one by one, up to the stored nonce; so no two payments share the recipient and
the nonce. A step moves the nonce of a recipient on by one exactly when it is a delegated payment
to that recipient. Each payment was signed by the key of its recipient as a message that determines
the stream, the nonce, the deadline and the minimum. -/
theorem delegated_payments_not_replayed
    (recorded : Recorded address (onlySigned signed) past now s) :
    (∀ recipient,
      ((delegatedPayments past).filter fun payment => payment.recipient = recipient).map
        (fun payment => payment.terms.nonce) = List.range (s.delegatedWithdrawNonce recipient)) ∧
      ((delegatedPayments past).map fun payment =>
        (payment.recipient, payment.terms.nonce)).Nodup ∧
      (∀ (input : Input address) s' recipient, Input.Steps s input s' →
        s'.delegatedWithdrawNonce recipient = s.delegatedWithdrawNonce recipient +
          if (input.delegatedPayment s).map DelegatedPayment.recipient = some recipient then 1
          else 0) ∧
      (∀ payment ∈ delegatedPayments past, payment.terms.WellTyped ∧
        payment.recipient = .account payment.recipientPublicKey ∧
          signed payment.recipientPublicKey payment.terms.message) ∧
      ∀ terms terms' : DelegatedTerms, terms.WellTyped → terms'.WellTyped →
        terms.message = terms'.message → terms = terms' := by
  have accounts := recorded.accountsNonces
  refine ⟨accounts.sequence, accounts.distinct, ?_, accounts.signed, ?_⟩
  · exact fun _ _ recipient step => nonce_of_steps step recipient
  · exact fun _ _ typed typed' same => DelegatedTerms.message_injective typed typed' same

namespace Sample

/-- The terms that the recipient signed. -/
def signedTerms : DelegatedTerms where
  streamId := 0
  nonce := 0
  deadline := 1000
  expectedMinimumAmount := 1

/-- The recipient signed one message. -/
def signedOnce (key : ℕ) (message : Bytes) : Prop :=
  key = 2 ∧ message = signedTerms.message

instance (key : ℕ) (message : Bytes) : Decidable (signedOnce key message) :=
  inferInstanceAs (Decidable (_ ∧ _))

/-- An invocation on a host that knows the signature of that message. -/
def signedInvocation (key timestamp sequence : ℕ) (call : Call)
    (valid : decide (u64.Contains timestamp ∧ u32.Contains sequence ∧ call.WellTyped) = true) :
    Invocation contract where
  env :=
    { Sample.env key timestamp sequence with
      ed25519Verify := fun key message signature =>
        decide (signedOnce key message ∧ signature = [7]) }
  call
  here := (invocation key timestamp sequence call valid).here
  noSelfAuth := (invocation key timestamp sequence call valid).noSelfAuth
  timestamp := (invocation key timestamp sequence call valid).timestamp
  sequence := (invocation key timestamp sequence call valid).sequence
  wellTyped := (invocation key timestamp sequence call valid).wellTyped

/-- A relayer submits the message twice. -/
def submitted : List (Invocation contract) :=
  [signedInvocation 1 0 0 (.createStream sender (params 1000 10 0 0)) (Eq.refl true),
    signedInvocation 3 50 1 (.delegatedWithdraw 0 keeper 2 0 1000 1 [7]) (Eq.refl true),
    signedInvocation 3 60 2 (.delegatedWithdraw 0 keeper 2 0 1000 1 [7]) (Eq.refl true)]

theorem recorded_submitted : Recorded contract (onlySigned signedOnce)
    (Script.past submitted genesis) 60 (Script.run submitted genesis) := by
  have ordered : Script.Ordered submitted 0 := ⟨by decide, by decide, by decide, trivial⟩
  have permits : Script.Permits (onlySigned signedOnce) submitted genesis := by
    refine ⟨?_, ?_, ?_, trivial⟩
    all_goals
      intro key message signature accepted
      exact (of_decide_eq_true accepted).1
  have recorded := Script.recorded_run ordered permits (.start fresh_genesis)
  rwa [List.append_nil] at recorded

end Sample

/-- The message pays once. -/
theorem delegated_payments_not_replayed_submitted :
    (delegatedPayments (Script.past Sample.submitted Sample.genesis)).map
        DelegatedPayment.amount = [500] ∧
      (Script.run Sample.submitted Sample.genesis).delegatedWithdrawNonce Sample.recipient = 1 ∧
      ((delegatedPayments (Script.past Sample.submitted Sample.genesis)).map fun payment =>
        (payment.recipient, payment.terms.nonce)).Nodup :=
  ⟨by decide, by decide, (delegated_payments_not_replayed Sample.recorded_submitted).2.1⟩

end Wallie.StreamContract
