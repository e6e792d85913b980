import Wallie.Ledger.Rotations
import Wallie.StreamContract.Script

/-!
# Where auto-claims pay

An auto-claim pays the destination of the latest `setAutoClaim`, which stays when
the recipient of the stream is rotated. So the payment goes where the recipient
of the stream said exactly if the recipient who said so still is the recipient,
which the rotations accepted since then decide.
-/

namespace Wallie.StreamContract

open Fallible

variable {address : Address} {now id : ℕ} {s s' found : State} {env : Env}
  {permitted : State → Env → Call → Prop} {past later : List (State × Input address)}
  {input : Input address} {setting trigger : Invocation address}
  {destination authoriser : Address} {stream stream' : Stream} {amount : ℤ} {call : Call}

/-- The call chooses the destination of the auto-claims of a stream, or chooses none. -/
def Call.ConfiguresAutoClaim (id : ℕ) : Call → Prop
  | setAutoClaim streamId _ | revokeAutoClaim streamId => streamId = id
  | _ => False

/-- The input is a successful choice of the destination for a stream, or of none. -/
def Input.ConfiguresAutoClaim (id : ℕ) (s : State) : Input address → Prop
  | invoke invocation => invocation.call.ConfiguresAutoClaim id ∧
      invocation.call.Succeeds invocation.env s
  | token _ => False

/-- A successful `setAutoClaim`, on the authorisation of `authoriser`, the recipient then. -/
structure Invocation.SetsAutoClaim (setting : Invocation address) (found : State) (id : ℕ)
    (destination authoriser : Address) : Prop where
  call : setting.call = .setAutoClaim id destination
  succeeds : setting.call.Succeeds setting.env found
  recipient : (found.streams id).map Stream.recipient = some authoriser
  authorised : setting.env.auth authoriser = true

/-- Since the inputs `later` the latest choice for the stream is `destination`, by `authoriser`. -/
def LatestSetting (id : ℕ) (past : List (State × Input address))
    (destination authoriser : Address) (later : List (State × Input address)) : Prop :=
  ∃ found setting earlier, past = later ++ (found, .invoke setting) :: earlier ∧
    setting.SetsAutoClaim found id destination authoriser ∧
    ∀ entry ∈ later, ¬ entry.2.ConfiguresAutoClaim id entry.1

/-! ## Steps -/

/-- Only a choice for the stream changes what is stored. -/
theorem autoClaimDestination_of_steps (step : Input.Steps s input s')
    (unconfigured : ¬ input.ConfiguresAutoClaim id s) :
    s'.autoClaimDestination id = s.autoClaimDestination id := by
  cases input with
  | token activity =>
      rcases step with ⟨_, rfl⟩
      rfl
  | invoke invocation =>
      rcases step.invoke_cases with run | ⟨_, rfl⟩
      · have other : ¬ invocation.call.ConfiguresAutoClaim id :=
          fun configures => unconfigured ⟨configures, s', run⟩
        by_cases writes : .autoClaimDestination ∈ invocation.call.writes
        · generalize invocation.call = call at *
          cases call <;> simp [Call.writes] at writes
          case setAutoClaim streamId destination =>
            rcases runs_setAutoClaim.mp run with ⟨_, _, _, _, rfl⟩
            exact Function.update_of_ne (Ne.symm other) _ _
          case revokeAutoClaim streamId =>
            rcases runs_revokeAutoClaim.mp run with ⟨_, _, _, rfl⟩
            exact Function.update_of_ne (Ne.symm other) _ _
        · exact congrFun ((invocation.call.onlyWrites run).autoClaimDestination writes) id
      · rfl

/-- What a successful choice for the stream stores, and on whose authorisation. -/
theorem stores_of_configures {invocation : Invocation address}
    (configures : invocation.call.ConfiguresAutoClaim id)
    (run : Runs invocation.call.run invocation.env s () s') :
    s'.streams = s.streams ∧ (s'.autoClaimDestination id = none ∨
      ∃ destination authoriser, s'.autoClaimDestination id = some destination ∧
        invocation.SetsAutoClaim s id destination authoriser) := by
  cases called : invocation.call <;> rw [called] at configures <;>
    try exact absurd configures not_false
  case setAutoClaim streamId destination =>
    rcases configures with rfl
    have succeeds : invocation.call.Succeeds invocation.env s := ⟨s', run⟩
    rw [called] at run
    rcases runs_setAutoClaim.mp run with ⟨stream, stored, authorised, _, rfl⟩
    have recipient : (s.streams streamId).map Stream.recipient = some stream.recipient := by
      rw [stored, Option.map_some]
    exact ⟨rfl, Or.inr ⟨destination, stream.recipient, Function.update_self _ _ _,
      called, succeeds, recipient, authorised⟩⟩
  case revokeAutoClaim streamId =>
    rcases configures with rfl
    rw [called] at run
    rcases runs_revokeAutoClaim.mp run with ⟨_, _, _, rfl⟩
    exact ⟨rfl, Or.inl (Function.update_self _ _ _)⟩

/-! ## Runs -/

theorem LatestSetting.cons {entry : State × Input address}
    (latest : LatestSetting id past destination authoriser later)
    (unconfigured : ¬ entry.2.ConfiguresAutoClaim id entry.1) :
    LatestSetting id (entry :: past) destination authoriser (entry :: later) := by
  rcases latest with ⟨found, setting, earlier, rfl, sets, since⟩
  refine ⟨found, setting, earlier, rfl, sets, ?_⟩
  intro other member
  rcases List.mem_cons.mp member with rfl | member
  · exact unconfigured
  · exact since other member

/-- The latest rotation decides on the recipient. -/
theorem head?_rotations_cons (input : Input address) (s : State) :
    (rotations id ((s, input) :: later)).head?.getD authoriser =
      (input.rotation id s).getD ((rotations id later).head?.getD authoriser) := by
  rw [rotations, List.filterMap_cons]
  cases input.rotation id s with
  | none => rfl
  | some recipient => rfl

/-- A stored destination is the latest choice, and the recipient is the one who made it unless
rotations followed. -/
theorem Recorded.latestSetting (recorded : Recorded address permitted past now s)
    (set : s.autoClaimDestination id = some destination) :
    ∃ later authoriser, LatestSetting id past destination authoriser later ∧
      ¬ (s.book address).Fresh id ∧ ∀ stream, s.streams id = some stream →
        stream.recipient = (rotations id later).head?.getD authoriser := by
  induction recorded generalizing destination with
  | start isInitial =>
      rcases isInitial.initialised with ⟨env, token, admin, balances, allowances, _, _, _, run⟩
      have unset := ((Call.init token admin).onlyWrites run).autoClaimDestination
        (by simp [Call.writes])
      rw [unset] at set
      cases set
  | tick _ _ ih => exact ih set
  | @move past instant s s' input recorded order _ step ih =>
      have reached : Reachable address permitted instant s := recorded.reachable
      have order : instant ≤ input.clock := order
      by_cases configures : input.ConfiguresAutoClaim id s
      · cases input with
        | token activity => exact absurd configures not_false
        | invoke invocation =>
            rcases configures with ⟨configures, final, run⟩
            have same : s' = final := step.trans (commit_of_runs run)
            subst same
            rcases stores_of_configures configures run with
              ⟨streams, unset | ⟨chosen, authoriser, stores, sets⟩⟩
            · rw [unset] at set
              cases set
            · rw [stores, Option.some.injEq] at set
              subst set
              rcases Option.map_eq_some_iff.mp sets.recipient with ⟨stream, stored, recipient⟩
              have used := reached.book_wellFormed.not_fresh stored
              refine ⟨[], authoriser, ⟨s, invocation, past, rfl, sets, ?_⟩,
                (reached.used order step used).1, ?_⟩
              · exact fun _ member => absurd member List.not_mem_nil
              · intro stream' stored'
                rw [streams, stored, Option.some.injEq] at stored'
                rw [← stored', recipient]
                rfl
      · rw [autoClaimDestination_of_steps step configures] at set
        rcases ih set with ⟨later, authoriser, latest, used, recipient⟩
        have kept := reached.used order step used
        refine ⟨(s, input) :: later, authoriser, latest.cons configures, kept.1, ?_⟩
        intro stream' stored'
        rw [head?_rotations_cons]
        cases before : s.streams id with
        | none =>
            rw [kept.2 before] at stored'
            cases stored'
        | some stream =>
            rw [reached.recipient_step order step before stored', recipient stream before]

/-- An auto-claim pays the destination of the latest `setAutoClaim`, which was not revoked. It was
set by the recipient of the stream at the time of the payment if and only if the latest rotation
accepted since then, if any, gave the stream back to the recipient who set it. -/
theorem auto_claim_as_told_iff (recorded : Recorded address anyCall past now s)
    (here : env.currentContractAddress = address)
    (run : Runs (triggerAutoClaim id) env s amount s') (paid : amount ≠ 0) :
    ∃ stream destination later authoriser, s.streams id = some stream ∧
      s'.balances = movedBalances s.balances address destination amount ∧
      LatestSetting id past destination authoriser later ∧
      (stream.recipient = authoriser ↔
        ∀ recipient ∈ (rotations id later).head?, recipient = authoriser) := by
  have reached : Reachable address anyCall now s := recorded.reachable
  have formed := reached.book_wellFormed
  rcases autoClaimable_of_runs run (formed.records id) paid with
    ⟨stream, destination, claims, balances⟩
  rcases recorded.latestSetting claims.chosen with ⟨later, authoriser, latest, _, recipient⟩
  refine ⟨stream, destination, later, authoriser, claims.stored, here ▸ balances, latest, ?_⟩
  rw [recipient stream claims.stored]
  cases (rotations id later).head? with
  | none => simp
  | some latest => simp

/-- The recipient chooses a destination and then hands the stream to someone else. -/
def Sample.rotated : List (Invocation Sample.contract) :=
  Sample.oneCreation 1000 10 0 0 (Eq.refl true) ++
    [Sample.invocation 2 0 0 (.setAutoClaim 0 (.account 5)) (Eq.refl true),
      Sample.invocation 1 0 0 (.updateRecipient 0 (.account 4)) (Eq.refl true),
      Sample.invocation 2 0 0 (.acceptRecipientUpdate 0) (Eq.refl true)]

theorem Sample.recorded_rotated : Recorded Sample.contract anyCall
    (Script.past Sample.rotated Sample.genesis) 0 (Script.run Sample.rotated Sample.genesis) := by
  have ordered : Script.Ordered Sample.rotated 0 :=
    ⟨by decide, by decide, by decide, by decide, trivial⟩
  have recorded := Script.recorded_run ordered (Script.permits_anyCall _ _)
    (.start Sample.fresh_genesis)
  rwa [List.append_nil] at recorded

theorem Sample.rotated_paid : Runs (triggerAutoClaim 0) (Sample.env 3 100 1)
    (Script.run Sample.rotated Sample.genesis) 1000
    ((triggerAutoClaim 0).commit (Sample.env 3 100 1)
      (Script.run Sample.rotated Sample.genesis)) := by
  rfl

theorem auto_claim_as_told_iff_rotated :
    ∃ stream destination later authoriser,
      (Script.run Sample.rotated Sample.genesis).streams 0 = some stream ∧
      ((triggerAutoClaim 0).commit (Sample.env 3 100 1)
        (Script.run Sample.rotated Sample.genesis)).balances =
          movedBalances (Script.run Sample.rotated Sample.genesis).balances Sample.contract
            destination 1000 ∧
      LatestSetting 0 (Script.past Sample.rotated Sample.genesis) destination authoriser later ∧
      (stream.recipient = authoriser ↔
        ∀ recipient ∈ (rotations 0 later).head?, recipient = authoriser) :=
  auto_claim_as_told_iff Sample.recorded_rotated rfl Sample.rotated_paid (by decide)

/-- The old recipient's destination is paid what the new recipient has earned. -/
theorem not_always_auto_claim_as_told :
    ¬ ∀ past now s env id amount s', Recorded Sample.contract anyCall past now s →
      now ≤ env.timestamp → env.currentContractAddress = Sample.contract →
      Runs (triggerAutoClaim id) env s amount s' → amount ≠ 0 →
      ∃ stream destination later, s.streams id = some stream ∧
        s'.balances = movedBalances s.balances Sample.contract destination amount ∧
        LatestSetting id past destination stream.recipient later := by
  intro always
  rcases always _ _ _ _ _ _ _ Sample.recorded_rotated (Nat.zero_le _) rfl Sample.rotated_paid
    (by decide) with ⟨stream, destination, later, stored, _, latest⟩
  rcases latest with ⟨found, setting, earlier, split, sets, _⟩
  have member : (found, .invoke setting) ∈ Script.past Sample.rotated Sample.genesis := by
    rw [split]
    exact List.mem_append_right _ List.mem_cons_self
  have recipient : ((Script.run Sample.rotated Sample.genesis).streams 0).map Stream.recipient =
      some (.account 4) := by
    decide
  rw [stored, Option.map_some, Option.some.injEq] at recipient
  have told := sets.recipient
  rw [recipient] at told
  simp only [Sample.rotated, Sample.oneCreation, List.cons_append, List.nil_append, Script.past,
    List.mem_cons, List.not_mem_nil, or_false, Prod.mk.injEq,
    Input.invoke.injEq] at member
  rcases member with ⟨rfl, rfl⟩ | ⟨rfl, rfl⟩ | ⟨rfl, rfl⟩ | ⟨rfl, rfl⟩
  · have impossible : Call.acceptRecipientUpdate 0 = .setAutoClaim 0 destination := sets.call
    cases impossible
  · have impossible : Call.updateRecipient 0 (.account 4) = .setAutoClaim 0 destination :=
      sets.call
    cases impossible
  · exact absurd told (by decide)
  · have impossible : Call.createStream Sample.sender (Sample.params 1000 10 0 0) =
        .setAutoClaim 0 destination := sets.call
    cases impossible

end Wallie.StreamContract
