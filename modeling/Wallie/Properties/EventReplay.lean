import Wallie.Ledger.Announced
import Wallie.Ledger.RunInvariant
import Wallie.StreamContract.Script

/-!
# The events reconstruct the streams

An indexer that starts with no rows and makes the updates of the published
events, in their order, has after every call exactly the rows of the stored
streams.
-/

namespace Wallie.StreamContract

open Fallible

variable {address : Address} {permitted : State → Env → Call → Prop} {now : ℕ} {s : State}

theorem Reachable.replayedIndex_eq (reached : Reachable address permitted now s) :
    s.replayedIndex = s.storedIndex := by
  refine reached.runs_invariant (fun s => s.replayedIndex = s.storedIndex) ?_ ?_ ?_
  · intro instant s fresh
    rcases fresh.eq_deployed with ⟨balances, allowances, config, rfl⟩
    rfl
  · exact fun _ _ replayed => replayed
  · intro instant s invocation s' reached order _ run replayed
    have announced := Call.announced run (reached.book_wellFormed.mono order)
    exact announced.replays replayed

/-- After every run the rows replayed from the events are those of the stored streams, and a call
that fails adds nothing to the events. -/
theorem events_reconstruct_streams (reached : Reachable address permitted now s) :
    (∀ id, s.replayedIndex id = (s.streams id).map Stream.indexed) ∧
      ∀ call env, ¬ Call.Succeeds call env s → (call.run.commit env s).events = s.events := by
  refine ⟨fun id => congrFun reached.replayedIndex_eq id, ?_⟩
  intro call env fails
  rw [commit_of_fails fun _ s' run => fails ⟨s', run⟩]

namespace Sample

/-- One stream is drawn on, topped up, shortened and cancelled, the other drained and closed. -/
def published : List (Invocation contract) :=
  twoCreations ++
    [invocation 2 40 1 (.withdraw 0) (Eq.refl true),
      invocation 1 50 2 (.topUpStream 0 sender 500) (Eq.refl true),
      invocation 1 60 3 (.shortenStreamEndTime 0 90) (Eq.refl true),
      invocation 1 70 4 (.cancelStream 0) (Eq.refl true),
      invocation 2 100 5 (.withdraw 1) (Eq.refl true),
      invocation 3 110 6 (.closeCompletedStream 1) (Eq.refl true)]

end Sample

theorem events_reconstruct_streams_cancelled :
    let s := Script.run Sample.published Sample.genesis
    s.replayedIndex 0 = some
        { sender := Sample.sender, recipient := Sample.recipient, depositAmount := 900,
          ratePerSecond := 10, startTime := 0, cliffTime := 0, endTime := 90,
          withdrawnAmount := 400, status := .cancelled } ∧
      s.replayedIndex 1 = none ∧
      ∀ id, s.replayedIndex id = (s.streams id).map Stream.indexed := by
  intro s
  have ordered : Script.Ordered Sample.published 0 :=
    ⟨by decide, by decide, by decide, by decide, by decide, by decide, by decide, by decide,
      trivial⟩
  have reached : Reachable Sample.contract anyCall 110 s :=
    Sample.reachable_run ordered
  exact ⟨by decide, by decide, (events_reconstruct_streams reached).1⟩

end Wallie.StreamContract
