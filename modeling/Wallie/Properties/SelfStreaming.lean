import Wallie.Ledger.RunInvariant
import Wallie.Ledger.StreamRegistry
import Wallie.StreamContract.Script

/-!
# Senders and recipients

Every creation checks that the sender is not the recipient. The rotation of a
recipient does not, so the two differ on the runs whose recipients accept no
proposal of the sender.
-/

namespace Wallie.StreamContract

open Fallible

variable {address : Address} {now id : ℕ} {s s' : State} {env : Env} {stream : Stream}

/-- No recipient hands its stream over to the sender of the stream. -/
def acceptsNoSender : State → Env → Call → Prop
  | s, _, .acceptRecipientUpdate id => ∀ stream pending, s.streams id = some stream →
      s.pendingRecipientUpdate id = some pending → pending.proposedRecipient ≠ stream.sender
  | _, _, _ => True

/-- The stream has two parties. -/
def Stream.Bilateral (stream : Stream) : Prop :=
  stream.sender ≠ stream.recipient

/-- The records after an accepted proposal. -/
theorem bilateral_of_acceptRecipientUpdate
    (run : Runs (acceptRecipientUpdate id) env s () s')
    (formed : (s.book address).WellFormed now)
    (kept : ∀ id stream, s.streams id = some stream → stream.Bilateral) :
    ∃ stream pending, s.streams id = some stream ∧ s.pendingRecipientUpdate id = some pending ∧
      s'.streams id = some { stream with recipient := pending.proposedRecipient } ∧
      ∀ other, other ≠ id → ∀ stream, s'.streams other = some stream → stream.Bilateral := by
  rcases rotates_of_acceptRecipientUpdate run with ⟨stream, recipient, stored, proposed, streams, _⟩
  rcases Option.map_eq_some_iff.mp proposed with ⟨pending, waiting, rfl⟩
  have keyed : stream.streamId = id := (formed.records id stream stored).streamId
  subst keyed
  refine ⟨stream, pending, stored, waiting, ?_, ?_⟩
  · rw [streams, Function.update_self]
  · intro other distinct record stored'
    rw [streams, Function.update_of_ne distinct] at stored'
    exact kept other record stored'

/-- A call that accepts no proposal keeps the parties of every stream apart. -/
theorem Invocation.bilateral (invocation : Invocation address)
    (unrotated : ∀ id, invocation.call ≠ .acceptRecipientUpdate id)
    (run : Runs invocation.call.run invocation.env s () s')
    (formed : (s.book address).WellFormed invocation.env.timestamp)
    (kept : ∀ id stream, s.streams id = some stream → stream.Bilateral) :
    ∀ id stream, s'.streams id = some stream → stream.Bilateral := by
  refine invocation.forall_stored run formed kept ?_ ?_
  · exact fun id sender params valid => valid.sender_ne
  · intro id move stream stream' makes _ moves bilateral
    have parties := moves.parties fun recipient rotates => by
      have changing := makes.emits.changing
      rw [rotates] at changing
      generalize called : invocation.call = call at changing
      cases changing
      exact unrotated id called
    have sender : stream'.sender = stream.sender := congrArg Prod.fst parties
    have recipient : stream'.recipient = stream.recipient := congrArg Prod.snd parties
    rwa [Stream.Bilateral, sender, recipient]

/-- An accepted proposal keeps the parties of every stream apart exactly when it was not for the
sender. -/
theorem Invocation.bilateral_iff (invocation : Invocation address)
    (accepts : invocation.call = .acceptRecipientUpdate id)
    (run : Runs invocation.call.run invocation.env s () s')
    (formed : (s.book address).WellFormed now)
    (kept : ∀ id stream, s.streams id = some stream → stream.Bilateral) :
    (∀ id stream, s'.streams id = some stream → stream.Bilateral) ↔
      acceptsNoSender s invocation.env invocation.call := by
  rw [accepts] at run ⊢
  rcases bilateral_of_acceptRecipientUpdate run formed kept with
    ⟨stream, pending, stored, waiting, stored', others⟩
  constructor
  · intro bilateral record proposal found proposed
    rw [stored, Option.some.injEq] at found
    rw [waiting, Option.some.injEq] at proposed
    subst found proposed
    exact (bilateral id _ stored').symm
  · intro foreign other record found
    rcases eq_or_ne other id with rfl | distinct
    · rw [stored', Option.some.injEq] at found
      subst found
      exact (foreign stream pending stored waiting).symm
    · exact others other distinct record found

theorem Reachable.bilateral (reached : Reachable address (onSuccess acceptsNoSender) now s) :
    ∀ id stream, s.streams id = some stream → stream.Bilateral := by
  refine reached.runs_invariant
    (fun s => ∀ id stream, s.streams id = some stream → stream.Bilateral) ?_ ?_ ?_
  · intro instant s fresh id stream stored
    have blank := fresh.blank.streams id
    exact absurd (blank.symm.trans stored) (by simp)
  · exact fun _ _ kept => kept
  · intro instant s invocation s' reached order allowed run kept
    have formed := reached.book_wellFormed.mono order
    by_cases accepts : ∃ id, invocation.call = .acceptRecipientUpdate id
    · rcases accepts with ⟨id, accepts⟩
      exact (invocation.bilateral_iff accepts run formed kept).mpr (allowed ⟨s', run⟩)
    · exact invocation.bilateral (not_exists.mp accepts) run formed kept

/-- On the runs in which no recipient accepts a proposal of the sender itself every stored stream
has a sender that is not its recipient, and the first acceptance of such a proposal ends this. -/
theorem sender_ne_recipient (reached : Reachable address (onSuccess acceptsNoSender) now s) :
    (∀ id stream, s.streams id = some stream → stream.sender ≠ stream.recipient) ∧
    ∀ (invocation : Invocation address) id s', invocation.call = .acceptRecipientUpdate id →
      Runs invocation.call.run invocation.env s () s' →
        ((∀ id stream, s'.streams id = some stream → stream.sender ≠ stream.recipient) ↔
          acceptsNoSender s invocation.env invocation.call) := by
  refine ⟨reached.bilateral, ?_⟩
  intro invocation id s' accepts run
  exact invocation.bilateral_iff accepts run reached.book_wellFormed reached.bilateral

/-- The sender proposes `proposed`, and the recipient accepts. -/
def Sample.handedOver (proposed : Address)
    (valid : decide (u64.Contains (0 : ℕ) ∧ u32.Contains (0 : ℕ) ∧
      (Call.updateRecipient 0 proposed).WellTyped) = true) : List (Invocation Sample.contract) :=
  Sample.oneCreation 1000 10 0 0 (Eq.refl true) ++
    [Sample.invocation 1 0 0 (.updateRecipient 0 proposed) valid,
      Sample.invocation 2 0 0 (.acceptRecipientUpdate 0) (Eq.refl true)]

/-- The stream goes to somebody else. -/
theorem sender_ne_recipient_rotated :
    let s := Script.run (Sample.handedOver Sample.keeper (Eq.refl true)) Sample.genesis
    (s.streams 0).map Stream.recipient = some Sample.keeper ∧
      ∀ id stream, s.streams id = some stream → stream.sender ≠ stream.recipient := by
  intro s
  have ordered : Script.Ordered (Sample.handedOver Sample.keeper (Eq.refl true)) 0 :=
    ⟨le_rfl, le_rfl, le_rfl, trivial⟩
  have reached : Reachable Sample.contract (onSuccess acceptsNoSender) 0 s := by
    refine Script.reachable_run ordered ⟨fun _ => trivial, fun _ => trivial, ?_, trivial⟩
      (Sample.reachable_genesis _)
    intro _ stream pending stored waiting
    have sender := congrArg (Option.map Stream.sender) stored
    have proposed := congrArg (Option.map PendingRecipientUpdate.proposedRecipient) waiting
    have sender : Sample.sender = stream.sender := Option.some.inj sender
    have proposed : Sample.keeper = pending.proposedRecipient := Option.some.inj proposed
    rw [← sender, ← proposed]
    decide
  exact ⟨by decide, (sender_ne_recipient reached).1⟩

/-- The recipient accepts the sender of its stream. -/
theorem not_always_sender_ne_recipient :
    ¬ ∀ now s, Reachable Sample.contract anyCall now s →
      ∀ id stream, s.streams id = some stream → stream.sender ≠ stream.recipient := by
  intro always
  let s := Script.run (Sample.handedOver Sample.sender (Eq.refl true)) Sample.genesis
  have ordered : Script.Ordered (Sample.handedOver Sample.sender (Eq.refl true)) 0 :=
    ⟨le_rfl, le_rfl, le_rfl, trivial⟩
  have reached : Reachable Sample.contract anyCall 0 s :=
    Sample.reachable_run ordered
  have same : (s.streams 0).map (fun stream => (stream.sender, stream.recipient)) =
      some (Sample.sender, Sample.sender) := by decide
  rcases Option.map_eq_some_iff.mp same with ⟨stream, stored, parties⟩
  rw [Prod.mk.injEq] at parties
  exact always 0 s reached 0 stream stored (parties.1.trans parties.2.symm)

end Wallie.StreamContract
