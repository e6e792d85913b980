import Wallie.Ledger.Rotations
import Wallie.Properties.FixedTerms
import Wallie.StreamContract.Script

/-!
# Rotation in two steps

A stream passes to another recipient only if its sender has offered it to that
recipient and its own recipient accepts. An offer stands until it is accepted or
withdrawn; there is no second one beside it.
-/

namespace Wallie.StreamContract

open Fallible

variable {address : Address} {now id : ℕ} {env : Env} {s s' : State} {call : Call}
  {stream : Stream} {pending : PendingRecipientUpdate} {past : List (State × Input address)}

/-- The input negotiates, and succeeds. -/
def Negotiated (id : ℕ) (entry : State × Input address) : Prop :=
  ∃ invocation, entry.2 = .invoke invocation ∧ invocation.call.Negotiates id ∧
    invocation.call.Succeeds invocation.env entry.1

/-- The sender of the stream offers it to somebody. -/
structure Offers (id : ℕ) (newRecipient sender : Address) (entry : State × Input address)
    (invocation : Invocation address) : Prop where
  invoked : entry.2 = .invoke invocation
  called : invocation.call = .updateRecipient id newRecipient
  succeeds : invocation.call.Succeeds invocation.env entry.1
  stored : ∃ stream, entry.1.streams id = some stream ∧ stream.sender = sender
  signed : invocation.env.auth sender = true

/-- An offer that stands was there before, or the call has just made it. -/
theorem offer_cases (run : Runs call.run env s () s')
    (waiting : s'.pendingRecipientUpdate id = some pending) :
    s.pendingRecipientUpdate id = some pending ∧ ¬ call.Negotiates id ∨
      call = .updateRecipient id pending.proposedRecipient ∧
        s'.streams = s.streams ∧
        ∃ stream, s.streams id = some stream ∧ env.auth stream.sender = true := by
  by_cases accepts : call = .acceptRecipientUpdate id
  · subst accepts
    rcases logs_of_acceptRecipientUpdate run with ⟨_, _, _, _, _, _, proposals⟩
    rw [proposals, Function.update_self] at waiting
    cases waiting
  rcases negotiation_cases accepts run with
    ⟨_, ⟨silent, same⟩ | ⟨streams, stream, stored, authorised, withdrawn | ⟨_, called, _, offered⟩⟩⟩
  · exact Or.inl ⟨same ▸ waiting, silent⟩
  · cases withdrawn.symm.trans waiting
  · cases offered.symm.trans waiting
    exact Or.inr ⟨called, streams, stream, stored, authorised⟩

/-- Where an offer that stands comes from. -/
def State.Offered (past : List (State × Input address)) (id : ℕ)
    (pending : PendingRecipientUpdate) (s : State) : Prop :=
  ∃ since entry before invocation sender, past = since ++ entry :: before ∧
    Offers id pending.proposedRecipient sender entry invocation ∧
    (∀ later ∈ since, ¬ Negotiated id later) ∧ ¬ (s.book address).Fresh id ∧
    ∀ stream, s.streams id = some stream → stream.sender = sender

/-- An offer stands through a step that does not negotiate. -/
theorem State.Offered.next {input : Input address} (offered : s.Offered past id pending)
    (reached : Reachable address anyCall now s) (order : now ≤ input.clock)
    (step : Input.Steps s input s') (silent : ¬ Negotiated id (s, input)) :
    s'.Offered ((s, input) :: past) id pending := by
  rcases offered with ⟨since, entry, before, invocation, sender, rfl, offers, quiet, used, owned⟩
  refine ⟨(s, input) :: since, entry, before, invocation, sender, rfl, offers, ?_,
    (reached.used order step used).1, ?_⟩
  · intro later member
    rcases List.mem_cons.mp member with rfl | member
    · exact silent
    · exact quiet later member
  · intro stream' stored'
    rcases reached.fixedTerms_step order step used stored' with ⟨stream, stored, same⟩
    have same : stream'.sender = stream.sender := congrArg FixedTerms.sender same
    rw [same]
    exact owned stream stored

/-- Every offer that stands was made by the sender of the stream, and nothing has been made of it
since. -/
theorem Recorded.offered (recorded : Recorded address anyCall past now s)
    (waiting : s.pendingRecipientUpdate id = some pending) : s.Offered past id pending := by
  induction recorded with
  | start isInitial =>
      rcases isInitial.initialised with ⟨env, token, admin, balances, allowances, _, _, _, run⟩
      have ran : Runs (Call.init token admin).run env (.deployed balances allowances) () _ := run
      rw [((Call.init token admin).onlyWrites ran).pendingRecipientUpdate (by simp [Call.writes])]
        at waiting
      cases waiting
  | tick _ _ ih => exact ih waiting
  | @move past instant s s' input recorded order _ step ih =>
      have reached : Reachable address anyCall instant s :=
        ClockedSystem.Recorded.reachable recorded
      have order : instant ≤ input.clock := order
      have step : Input.Steps s input s' := step
      cases input with
      | token activity =>
          have silent : ¬ Negotiated id (s, (.token activity : Input address)) := by
            rintro ⟨_, invoked, _⟩
            cases invoked
          rcases step with ⟨grows, rfl⟩
          exact (ih waiting).next reached order ⟨grows, rfl⟩ silent
      | invoke invocation =>
          rcases step.invoke_cases with run | ⟨failed, rfl⟩
          · rcases offer_cases run waiting with
              ⟨before, silent⟩ | ⟨called, same, stream, stored, authorised⟩
            · refine (ih before).next reached order step ?_
              rintro ⟨_, ⟨⟩, negotiates, _⟩
              exact silent negotiates
            · have used := reached.book_wellFormed.not_fresh stored
              refine ⟨[], (s, .invoke invocation), past, invocation, stream.sender, rfl,
                ⟨rfl, called, ⟨s', run⟩, ⟨stream, stored, rfl⟩, authorised⟩, ?_,
                (reached.used order step used).1, ?_⟩
              · exact fun _ member => absurd member List.not_mem_nil
              · intro stream' stored'
                rw [same, stored, Option.some.injEq] at stored'
                rw [stored']
          · refine (ih waiting).next reached order step ?_
            rintro ⟨_, ⟨⟩, _, succeeds⟩
            exact failed succeeds

/-- The call accepts an offer of the stream, or in any way changes who its recipient is. -/
def Invocation.HandsOver (invocation : Invocation address) (found : State) (id : ℕ) : Prop :=
  invocation.call = .acceptRecipientUpdate id ∧ invocation.call.Succeeds invocation.env found ∨
    ∃ stream stream', found.streams id = some stream ∧
      (invocation.call.run.commit invocation.env found).streams id = some stream' ∧
      stream'.recipient ≠ stream.recipient

/-- A stream gets another recipient only by an acceptance. -/
theorem Invocation.HandsOver.accepts {found : State} {invocation : Invocation address}
    (handed : invocation.HandsOver found id) (reached : Reachable address anyCall now found)
    (order : now ≤ invocation.env.timestamp) :
    invocation.call = .acceptRecipientUpdate id ∧
      invocation.call.Succeeds invocation.env found := by
  rcases handed with accepts | ⟨stream, stream', stored, stored', changed⟩
  · exact accepts
  by_contra unaccepted
  have order : now ≤ (Input.invoke invocation).clock := order
  have unrotated : Input.rotation id found (.invoke invocation) = none := by
    refine Input.rotation_eq_none ?_
    rintro _ ⟨⟩ accepts succeeds
    exact unaccepted ⟨accepts, succeeds⟩
  have recipient := reached.recipient_step order rfl stored stored'
  rw [unrotated, Option.getD_none] at recipient
  exact changed recipient

/-- The sender offers the stream to another account. -/
def Sample.offered : List (Invocation Sample.contract) :=
  Sample.oneCreation 1000 10 0 0 (Eq.refl true) ++
    [Sample.invocation 1 0 0 (.updateRecipient 0 (.account 4)) (Eq.refl true)]

end Wallie.StreamContract
