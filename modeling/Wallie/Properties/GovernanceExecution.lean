import Wallie.Governance.History

/-!
# Execution of proposals

A proposal is executed on the approvals of distinct registered signers, within
its time window, once, and not if it is ever cancelled. The record of its quorum
is final.
-/

namespace Wallie.Governance

open StreamContract (Address)

variable {now id : ℕ} {s found : State} {past later earlier : List (State × Invocation)}
  {entry : State × Invocation} {invocation : Invocation}

/-- What a successful execution found. -/
theorem guarded_of_executes (executes : Executes id entry) :
    ∃ proposal info, entry.1.proposals id = some proposal ∧
      entry.1.quorumReachedAt id = some info ∧ proposal.Open entry.2.env.timestamp ∧
      info.threshold ≤ proposal.approvals.length ∧
      info.reachedAt + governanceTimelockSeconds ≤ entry.2.env.timestamp := by
  rcases executes with ⟨executor, called, s', run⟩
  have effect := entry.2.call.effect run
  rw [called] at effect
  cases effect with
  | execute stored unfinished reached approved elapsed _ =>
      exact ⟨_, _, stored, reached, unfinished, approved, elapsed⟩

/-- A proposal that is executed was not executed before. -/
theorem Recorded.first_execution
    (recorded : Recorded (later ++ (found, invocation) :: earlier) now s)
    (executes : Executes id (found, invocation)) : ∀ entry ∈ earlier, ¬ Executes id entry := by
  rcases recorded.before with ⟨start, recorded, _⟩
  have accounts : found.Accounts earlier := Recorded.accounts recorded
  intro entry member executed
  rcases accounts.executed id entry member executed with ⟨proposal, stored, flag⟩
  rcases guarded_of_executes executes with ⟨proposal', _, stored', _, unfinished, _⟩
  cases stored.symm.trans stored'
  exact absurd flag (Bool.eq_false_iff.mp unfinished.unexecuted)

/-- In every run: a proposal is executed on the approvals of as many distinct addresses as its
recorded threshold, each of which was registered when it approved; at least the timelock after the
recorded quorum and at most the maximum age after its creation; not if it is cancelled, before or
after; and once. No two calls are dispatched for one proposal, its quorum is recorded once, and
the record does not change. -/
theorem execution_safe (recorded : Recorded past now s) :
    (∀ later found invocation earlier id, past = later ++ (found, invocation) :: earlier →
      Executes id (found, invocation) →
      ∃ proposal info, found.proposals id = some proposal ∧
        found.quorumReachedAt id = some info ∧
        (info.threshold ≤ proposal.approvals.length ∧ proposal.approvals.Nodup ∧
          ∀ approver ∈ proposal.approvals, ∃ entry ∈ earlier, Approves approver id entry ∧
            entry.1.Registered approver ∧ entry.2.env.auth approver = true) ∧
        info.reachedAt + 172800 ≤ invocation.env.timestamp ∧
        invocation.env.timestamp ≤ proposal.createdAt + 2592000 ∧
        (∀ entry ∈ past, ¬ Cancels id entry) ∧ ∀ entry ∈ later ++ earlier, ¬ Executes id entry) ∧
      (s.dispatches.map Dispatch.proposalId).Nodup ∧ s.quorums.Nodup ∧
      ∀ entry ∈ past, ∀ id info, entry.1.quorumReachedAt id = some info →
        s.quorumReachedAt id = some info := by
  have accounts := recorded.accounts
  refine ⟨?_, accounts.distinct, accounts.once, accounts.quorums⟩
  rintro later found invocation earlier id rfl executes
  rcases guarded_of_executes executes with
    ⟨proposal, info, stored, reached, unfinished, approved, elapsed⟩
  rcases ClockedSystem.Recorded.before recorded with ⟨start, before, _⟩
  have earlierAccounts : found.Accounts earlier := Recorded.accounts before
  refine ⟨proposal, info, stored, reached, ⟨approved, ?_, ?_⟩, elapsed, unfinished.young, ?_, ?_⟩
  · have sound : Reachable start found := before.reachable
    rcases sound.sound with rfl | ⟨signers, index, threshold, sound⟩
    · cases stored
    · have ballot := sound.ballots id
      rw [stored] at ballot
      exact ballot.indexed.nodup
  · exact earlierAccounts.approvals id proposal stored
  · intro entry member cancels
    have executed := accounts.executed id _
      (List.mem_append_right _ List.mem_cons_self) executes
    rcases executed with ⟨final, finished, flag⟩
    rcases accounts.cancelled id entry member cancels with ⟨final', finished', flag'⟩
    cases finished.symm.trans finished'
    exact absurd flag' (Bool.eq_false_iff.mp (accounts.exclusive id final finished flag))
  · intro entry member executed
    rcases List.mem_append.mp member with member | member
    · rcases List.append_of_mem member with ⟨latest, middle, rfl⟩
      rw [List.append_assoc, List.cons_append] at recorded
      exact recorded.first_execution executed _
        (List.mem_append_right _ List.mem_cons_self) executes
    · exact recorded.first_execution executes entry member executed

/-- The proposal is executed when its timelock has run out. -/
def Sample.executed : List Invocation :=
  Sample.approved ++ [Sample.invocation 9 172802 (.execute (.account 9) 0) (Eq.refl true)]

/-- One call is dispatched. -/
theorem execution_safe_executed :
    let s := ClockedSystem.play Invocation.next Sample.executed .deployed
    s.dispatches.length = 1 ∧ (s.dispatches.map Dispatch.proposalId).Nodup ∧ s.quorums.Nodup := by
  intro s
  have ordered : ClockedSystem.Ordered (fun invocation : Invocation => invocation.env.timestamp)
      Sample.executed 0 :=
    ⟨by decide, by decide, by decide, by decide, by decide, trivial⟩
  rcases execution_safe (Sample.recorded ordered) with ⟨_, distinct, once, _⟩
  exact ⟨by decide +kernel, distinct, once⟩

end Wallie.Governance
