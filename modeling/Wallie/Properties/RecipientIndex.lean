import Wallie.Ledger.StreamRegistry
import Wallie.StreamContract.Script

/-!
# The recipient index

The index of a recipient is maintained by the creating, the closing and the
rotating entrypoints, each in its own way. It lists the streams of the recipient
exactly.
-/

namespace Wallie.StreamContract

variable {address : Address} {now : ℕ} {s : State}

/-- The index of a recipient is strictly ascending and lists exactly the stored streams of the
recipient. -/
theorem recipient_index_exact (reached : Reachable address anyCall now s) (recipient : Address) :
    (s.recipientStreams recipient).Pairwise (· < ·) ∧
      ∀ id, id ∈ s.recipientStreams recipient ↔
        ∃ stream, s.streams id = some stream ∧ stream.recipient = recipient :=
  ⟨reached.registrySound.index.ascending recipient, reached.registrySound.index.mem_iff recipient⟩

/-- The holder of a reservation creates a batch, whose ids are below that of a stream that exists
already. -/
def Sample.batchOnReservation : List (Invocation Sample.contract) :=
  Sample.reserved ++
    [Sample.invocation 1 0 0
      (.createStreams Sample.sender [Sample.params 1000 10 0 0, Sample.params 2000 10 0 0])
      (Eq.refl true)]

theorem recipient_index_exact_batch :
    let s := Script.run Sample.batchOnReservation Sample.genesis
    s.recipientStreams Sample.recipient = [0, 1, 2] ∧
      (s.recipientStreams Sample.recipient).Pairwise (· < ·) ∧
      ∀ id, id ∈ s.recipientStreams Sample.recipient ↔
        ∃ stream, s.streams id = some stream ∧ stream.recipient = Sample.recipient := by
  intro s
  have ordered : Script.Ordered Sample.batchOnReservation 0 :=
    ⟨by decide, by decide, by decide, trivial⟩
  have reached : Reachable Sample.contract anyCall 0 s :=
    Sample.reachable_run ordered
  exact ⟨by decide, recipient_index_exact reached Sample.recipient⟩

end Wallie.StreamContract
