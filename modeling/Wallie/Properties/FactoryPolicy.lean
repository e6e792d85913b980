import Wallie.Factory.Runs

/-!
# The policy of the factory

Each granted request satisfied the policy that was in force when it was made,
whatever the admin changes before or after, and no id enters the registry of the
factory on any other way. The stored rate bounds never cross.
-/

namespace Wallie.Factory

open StreamContract (Address totalDeposit totalDeposit_cons totalDeposit_nil)

variable {env : Env} {s s' : State} {call : Call} {past : List (State × Invocation)}

/-- The policy and the allowlist allow a request as a whole. -/
structure FactoryPolicy.Permits (policy : FactoryPolicy) (allowlist : Address → Bool)
    (creation : Creation) : Prop where
  target : creation.streamContract = policy.streamContract
  unpaused : policy.creationPaused = false
  admitted : ∀ params ∈ creation.streams, policy.Admits allowlist params
  capped : policy.batchCapEnforced = true → totalDeposit creation.streams ≤ policy.maxDeposit

/-- The stored rate bounds are rates and do not cross. -/
structure State.BoundsSound (s : State) : Prop where
  nonneg : ∀ low ∈ s.minRatePerSecond, 0 ≤ low
  ordered : ∀ low ∈ s.minRatePerSecond, ∀ high ∈ s.maxRatePerSecond, low ≤ high

/-- A call grants one request that the policy permits, or none. -/
theorem Effect.creations (effect : Effect env s call s') :
    s'.creations = s.creations ∧ s'.factoryStreamIds = s.factoryStreamIds ∨
      ∃ creation policy, s.policy = some policy ∧ policy.Permits s.allowlist creation ∧
        s'.creations = s.creations ++ [creation] ∧
        s'.factoryStreamIds = s.factoryStreamIds ++ creation.streamIds := by
  cases effect with
  | init _ _ _ | setAdmin _ | setStreamContract _ | setAllowlist | setCap _ | setMinDuration _
  | setBatchCapEnforcement | setRateBounds _ _ _ | setFactoryPaused | createNoStreams =>
      exact Or.inl ⟨rfl, rfl⟩
  | @createStream sender params streamId policy loaded unpaused admitted _ =>
      refine Or.inr ⟨_, policy, loaded, ⟨rfl, unpaused, ?_, fun _ => ?_⟩, rfl, rfl⟩
      · intro other member
        rw [List.mem_singleton.mp member]
        exact admitted
      · rw [totalDeposit_cons, totalDeposit_nil, add_zero]
        exact admitted.capped
  | @createStreams sender streams streamIds policy loaded unpaused admitted capped _ =>
      exact Or.inr ⟨_, policy, loaded, ⟨rfl, unpaused, admitted, capped⟩, rfl, rfl⟩

theorem Effect.boundsSound (effect : Effect env s call s') (sound : s.BoundsSound) :
    s'.BoundsSound := by
  cases effect with
  | init _ _ _ | setAdmin _ | setStreamContract _ | setAllowlist | setCap _ | setMinDuration _
  | setBatchCapEnforcement | setFactoryPaused | createNoStreams | createStream _ _ _ _
  | createStreams _ _ _ _ _ => exact ⟨sound.nonneg, sound.ordered⟩
  | @setRateBounds minRate maxRate minNonneg _ ordered =>
      refine ⟨?_, ordered⟩
      intro low member
      cases minRate with
      | none => exact sound.nonneg low member
      | some rate => exact minNonneg low member

/-- What a run says about the requests it has made and about its settings. -/
structure State.Accounts (past : List (State × Invocation)) (s : State) : Prop where
  registry : s.factoryStreamIds = s.creations.flatMap Creation.streamIds
  creations : ∀ creation ∈ s.creations, ∃ entry ∈ past, ∃ policy,
    (entry.2.next entry.1).creations = entry.1.creations ++ [creation] ∧
      entry.1.policy = some policy ∧ policy.Permits entry.1.allowlist creation
  bounds : s.BoundsSound

theorem State.Accounts.next (accounts : s.Accounts past) (invocation : Invocation) :
    (invocation.next s).Accounts ((s, invocation) :: past) := by
  have older : ∀ creation ∈ s.creations, ∃ entry ∈ (s, invocation) :: past, ∃ policy,
      (entry.2.next entry.1).creations = entry.1.creations ++ [creation] ∧
        entry.1.policy = some policy ∧ policy.Permits entry.1.allowlist creation := by
    intro creation member
    rcases accounts.creations creation member with ⟨entry, found, permitted⟩
    exact ⟨entry, List.mem_cons_of_mem _ found, permitted⟩
  rcases Fallible.commit_cases invocation.call.run invocation.env s with ⟨_, run⟩ | failed
  · have effect : Effect invocation.env s invocation.call (invocation.next s) :=
      invocation.call.effect run
    have bounds := effect.boundsSound accounts.bounds
    rcases effect.creations with ⟨same, kept⟩ | ⟨creation, policy, loaded, permits, added, joined⟩
    · refine ⟨?_, ?_, bounds⟩
      · rw [same, kept]
        exact accounts.registry
      · rw [same]
        exact older
    · refine ⟨?_, ?_, bounds⟩
      · rw [added, joined, accounts.registry, List.flatMap_append, List.flatMap_singleton]
      · intro granted member
        rw [added, List.mem_append, List.mem_singleton] at member
        rcases member with member | rfl
        · exact older granted member
        · exact ⟨_, List.mem_cons_self, policy, added, loaded, permits⟩
  · change invocation.next s = s at failed
    rw [failed]
    exact ⟨accounts.registry, older, accounts.bounds⟩

theorem State.accounts_deployed : State.deployed.Accounts [] := by
  refine ⟨rfl, fun _ member => absurd member List.not_mem_nil, ?_, ?_⟩
  · intro low stored
    cases stored
  · intro low stored
    cases stored

theorem accounts_of_recorded (recorded : Recorded past s) : s.Accounts past := by
  refine ClockedSystem.Recorded.invariant (fun past s => s.Accounts past) recorded ?_ ?_
  · intro _ fresh deployed
    rw [show fresh = State.deployed from deployed]
    exact State.accounts_deployed
  · intro past found invocation next _ moved accounts
    rw [show next = invocation.next found from moved]
    exact accounts.next invocation

/-- In every run, each request that a stream contract granted was one that the policy in force
permitted: its streams were admitted one by one, and their exact sum was within an enforced cap.
The registry consists of the ids of these requests, and stored rate bounds are ordered. -/
theorem factory_policy (recorded : Recorded past s) :
    s.factoryStreamIds = s.creations.flatMap Creation.streamIds ∧
      (∀ creation ∈ s.creations, ∃ entry ∈ past, ∃ policy,
        (entry.2.next entry.1).creations = entry.1.creations ++ [creation] ∧
          entry.1.policy = some policy ∧ policy.Permits entry.1.allowlist creation) ∧
      ∀ low ∈ s.minRatePerSecond, ∀ high ∈ s.maxRatePerSecond, 0 ≤ low ∧ low ≤ high := by
  have accounts := accounts_of_recorded recorded
  refine ⟨accounts.registry, accounts.creations, ?_⟩
  intro low lowStored high highStored
  exact ⟨accounts.bounds.nonneg low lowStored,
    accounts.bounds.ordered low lowStored high highStored⟩

theorem factory_policy_created :
    let s := ClockedSystem.play Invocation.next Sample.created .deployed
    s.factoryStreamIds = [0, 1, 2] ∧
      s.factoryStreamIds = s.creations.flatMap Creation.streamIds ∧
      ∀ low ∈ s.minRatePerSecond, ∀ high ∈ s.maxRatePerSecond, 0 ≤ low ∧ low ≤ high := by
  intro s
  rcases factory_policy (recorded_played Sample.created) with ⟨registry, _, bounds⟩
  exact ⟨by decide, registry, bounds⟩

end Wallie.Factory
