import Wallie.Deployment.Custody
import Wallie.Deployment.Script

/-!
# Parameters under governance

Once the governance contract is the admin of the stream contract or of the
factory, the parameters of that contract are the executed proposals replayed, and
each of them had its quorum and its timelock behind it.
-/

namespace Wallie.Deployment

open ReplayedLog
open StreamContract (Address)
open Governance (Dispatch Proposal QuorumInfo)

variable {contracts : Contracts} {now later : ℕ} {s s' : State}

/-- What the steps of a transaction do, the steps of the deployment do, if the tokens do not
matter. -/
theorem follows_of_continues {ρ : Type} {reading : State → ρ} {apply : ρ → Dispatch → ρ}
    {faithful : ρ → Prop}
    (steps : ∀ (tx : Transaction contracts) (s : State) (call : Call) (s' : State),
      Step tx s call s' → ∃ added, Follows State.dispatches reading apply faithful s s' added)
    (idle : ∀ (s : State) (activity : StreamContract.TokenActivity),
      reading { s with
        stream := { s.stream with
          balances := activity.balances, allowances := activity.allowances } } = reading s)
    (continued : (system contracts).Continues (fun _ _ => True) now s later s') :
    ∃ added, Follows State.dispatches reading apply faithful s s' added := by
  refine Follows.of_continues ?_ continued
  rintro s (invocation | activity) s' _ stepped
  · change s' = invocation.next s at stepped
    rw [stepped]
    rcases invocation.next_cases s with step | ⟨_, failed⟩
    · exact steps _ _ _ _ step
    · rw [failed]
      exact ⟨[], .refl⟩
  · rw [stepped.2]
    exact ⟨[], .of_same rfl (idle s activity)⟩

/-- The calls that governance has made are backed by executed proposals. -/
theorem Reachable.backed (reached : Reachable contracts now s) {dispatch : Dispatch}
    (made : dispatch ∈ s.dispatches) :
    ∃ proposal info, s.governance.Backs now dispatch proposal info ∧
      proposal.approvals.Nodup := by
  have governed : Governance.Reachable now s.governance :=
    (governancePart contracts).reachable reached
  rcases governed.backs dispatch made with ⟨proposal, info, backs⟩
  exact ⟨proposal, info, backs, governed.approvals_nodup backs.stored⟩

/-- Governance made the call between the two states, in a transaction that executed a proposal: the
call is what the data of the proposal say, and the proposal was open, approved by as many distinct
addresses as its quorum required, and its timelock had run out. -/
def MadeBetween (contracts : Contracts) (now : ℕ) (s : State) (later : ℕ) (s' : State)
    (dispatch : Dispatch) : Prop :=
  ∃ (moment : ℕ) (found : State) (invocation : Invocation contracts) (executor : Address)
    (proposal : Proposal) (info : QuorumInfo),
    (system contracts).Continues (fun _ _ => True) now s moment found ∧
    moment ≤ invocation.tx.timestamp ∧
    (system contracts).Continues (fun _ _ => True) invocation.tx.timestamp
      (invocation.next found) later s' ∧
    invocation.call = .governance (.execute executor dispatch.proposalId) ∧
    dispatch.Cleared (found.governanceEnv invocation.tx) found.governance proposal info ∧
    proposal.approvals.Nodup

theorem Reachable.madeBetween {added : List Dispatch} {dispatch : Dispatch}
    (reached : Reachable contracts now s)
    (continued : (system contracts).Continues (fun _ _ => True) now s later s')
    (grown : s'.dispatches = s.dispatches ++ added) (member : dispatch ∈ added) :
    MadeBetween contracts now s later s' dispatch := by
  have grows : ∀ (s : State) (input : Input contracts) (s' : State), True →
      (system contracts).step s input s' → s.dispatches <+: s'.dispatches := by
    rintro s (invocation | activity) s' _ stepped
    · change s' = invocation.next s at stepped
      rw [stepped]
      rcases invocation.next_cases s with step | ⟨_, failed⟩
      · rcases step.controls_follow with ⟨added, follows⟩
        exact ⟨added, follows.extends_log.symm⟩
      · have same : (invocation.next s).dispatches = s.dispatches :=
          congrArg State.dispatches failed
        exact same ▸ List.prefix_rfl
    · rw [stepped.2]
      exact List.prefix_rfl
  rcases added_by_step grows continued grown member with
    ⟨moment, found, input, next, rest, before, order, stepped, further, logged, new⟩
  cases input with
  | token activity =>
      have same : next.dispatches = found.dispatches := by
        rw [stepped.2]
        rfl
      rw [List.self_eq_append_right.mp (same.symm.trans logged)] at new
      cases new
  | invoke invocation =>
      change next = invocation.next found at stepped
      subst stepped
      rcases invocation.next_cases found with step | ⟨_, failed⟩
      · rcases step.dispatch_cleared logged new with ⟨executor, proposal, info, called, cleared⟩
        have governed : Governance.Reachable moment found.governance :=
          (governancePart contracts).reachable (before.reachable reached)
        exact ⟨moment, found, invocation, executor, proposal, info, before, order, further, called,
          cleared, governed.approvals_nodup cleared.stored⟩
      · rw [failed] at logged
        rw [List.self_eq_append_right.mp logged] at new
        cases new

/-- A call that is new at the end of a run was made during it, and the proposal still backs it. -/
theorem Reachable.accounted {added : List Dispatch} {dispatch : Dispatch}
    (reached : Reachable contracts now s)
    (continued : (system contracts).Continues (fun _ _ => True) now s later s')
    (grown : s'.dispatches = s.dispatches ++ added) (member : dispatch ∈ added) :
    MadeBetween contracts now s later s' dispatch ∧
      ∃ proposal info, s'.governance.Backs later dispatch proposal info ∧
        proposal.approvals.Nodup := by
  refine ⟨reached.madeBetween continued grown member, ?_⟩
  refine Reachable.backed (continued.reachable reached) ?_
  rw [grown]
  exact List.mem_append_right _ member

/-- From any reachable state on, and for as long as the calls that governance makes leave it the
admin of the stream contract, the contract's admin, rate limit and pause flags are those before,
changed by these calls in turn and by nothing else. Each call was made for an executed proposal,
approved by as many distinct addresses as its quorum required, at least the timelock before, and is
what the data of the proposal said. -/
theorem stream_controls_governed (reached : Reachable contracts now s)
    (continued : (system contracts).Continues (fun _ _ => True) now s later s') :
    ∃ added, s'.dispatches = s.dispatches ++ added ∧
      (∀ dispatch ∈ added, MadeBetween contracts now s later s' dispatch ∧
        ∃ proposal info, s'.governance.Backs later dispatch proposal info ∧
          proposal.approvals.Nodup) ∧
      (Throughout contracts.onStream contracts.HoldsStream s.controls added →
        s'.controls = added.foldl contracts.onStream s.controls) := by
  rcases follows_of_continues (fun _ _ _ _ step => step.controls_follow) (fun _ _ => rfl)
    continued with ⟨added, follows⟩
  exact ⟨added, follows.extends_log,
    fun _ member => reached.accounted continued follows.extends_log member, follows.replayed⟩

/-- The same holds of everything that the factory's admin sets: its admin, the stream contract it
creates on, the cap, the minimum duration and the allowlist follow the calls that governance makes,
and the enforcement of the cap on batches, the rate bounds and the pause stay as they were. -/
theorem factory_settings_governed (reached : Reachable contracts now s)
    (continued : (system contracts).Continues (fun _ _ => True) now s later s') :
    ∃ added, s'.dispatches = s.dispatches ++ added ∧
      (∀ dispatch ∈ added, MadeBetween contracts now s later s' dispatch ∧
        ∃ proposal info, s'.governance.Backs later dispatch proposal info ∧
          proposal.approvals.Nodup) ∧
      (Throughout contracts.onFactory contracts.HoldsFactory s.settings added →
        s'.settings = added.foldl contracts.onFactory s.settings) := by
  rcases follows_of_continues (fun _ _ _ _ step => step.settings_follow) (fun _ _ => rfl)
    continued with ⟨added, follows⟩
  exact ⟨added, follows.extends_log,
    fun _ member => reached.accounted continued follows.extends_log member, follows.replayed⟩

/-! ## A council of three -/

namespace Sample

theorem ordered_handedOver : Script.Ordered handedOver 0 :=
  ⟨by decide, by decide, by decide, by decide, trivial⟩

theorem ordered_governed : Script.Ordered governed 0 :=
  ⟨by decide, by decide, by decide, by decide, by decide, by decide, by decide, by decide,
    by decide, trivial⟩

/-- Governance is the admin of both contracts. -/
def council : State :=
  Script.run handedOver genesis

/-- Governance has changed a parameter of each contract. -/
def reformed : State :=
  Script.run governed council

theorem continues_reformed :
    (system addresses).Continues (fun _ _ => True) 0 council 172802 reformed :=
  Script.continues_run ordered_governed Script.permits_all .here

theorem reachable_council : Reachable addresses 0 council :=
  reachable_run ordered_handedOver

end Sample

open Sample

/-- The rate limit is the one approved; the former admin has not set it. -/
theorem stream_controls_governed_reformed :
    addresses.HoldsStream reformed.controls ∧ reformed.controls.maxRatePerSecond = 5 ∧
      ∃ added : List Dispatch, added.length = 2 ∧
        reformed.controls = added.foldl addresses.onStream council.controls := by
  rcases stream_controls_governed reachable_council continues_reformed with
    ⟨added, extended, _, replayed⟩
  have start : council.dispatches = [] := by decide +kernel
  rw [start, List.nil_append] at extended
  rw [← extended] at replayed
  exact ⟨by decide +kernel, by decide +kernel, reformed.dispatches, by decide +kernel,
    replayed (by decide +kernel)⟩

/-- The cap is the one approved, and so is the rest. -/
theorem factory_settings_governed_reformed :
    addresses.HoldsFactory reformed.settings ∧
      reformed.settings.maxDepositCap = some 1000 ∧
      ∃ added : List Dispatch, added.length = 2 ∧
        reformed.settings = added.foldl addresses.onFactory council.settings := by
  rcases factory_settings_governed reachable_council continues_reformed with
    ⟨added, extended, _, replayed⟩
  have start : council.dispatches = [] := by decide +kernel
  rw [start, List.nil_append] at extended
  rw [← extended] at replayed
  exact ⟨by decide +kernel, by decide +kernel, reformed.dispatches, by decide +kernel,
    replayed (by decide +kernel)⟩

end Wallie.Deployment
