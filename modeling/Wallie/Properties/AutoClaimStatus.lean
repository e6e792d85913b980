import Wallie.Properties.PayoutPaths
import Wallie.Properties.HealthView

/-!
# The status of an auto-claim

The status view shows what has accrued by now and is not drawn, as soon as a
valid destination is set. The auto-claim pays that amount once the end of the
stream has passed, and only on a stream that is neither completed nor cancelled.
-/

namespace Wallie.StreamContract

open Fallible

variable {env : Env} {s s' : State} {stream : Stream} {id now : ℕ} {destination : Address}
  {amount : ℤ}

/-- The view shows a valid destination with a positive amount. -/
def StatusShows (env : Env) (s : State) (id : ℕ) (destination : Address) (amount : ℤ) : Prop :=
  0 < amount ∧ ∃ viewed,
    Runs (getAutoClaimStatus id) env s (.validDestination destination amount) viewed

/-- The auto-claim succeeds and pays a positive amount to the destination. -/
def AutoClaimPays (env : Env) (s : State) (id : ℕ) (destination : Address) (amount : ℤ) : Prop :=
  0 < amount ∧ ∃ s', Runs (triggerAutoClaim id) env s amount s' ∧
    s'.balances = movedBalances s.balances env.currentContractAddress destination amount

/-- What the view shows. -/
theorem statusShows_iff (stored : s.streams id = some stream)
    (answerable : Answerable env s stream) :
    StatusShows env s id destination amount ↔
      0 < amount ∧ s.autoClaimDestination id = some destination ∧
        destination ≠ env.currentContractAddress ∧ stream.claimable env.timestamp = amount := by
  refine and_congr_right fun _ => ?_
  simp only [getAutoClaimStatus, isValidDestination, runs_bind, runs_loadStream, stored,
    Option.some.injEq, runs_peek, and_assoc, exists_and_left, exists_eq_left, exists_eq_left']
  cases chosen : s.autoClaimDestination id with
  | none => simp
  | some found =>
      simp only [runs_bind, runs_ask, runs_ite, runs_pure, runs_currentAccrualTimestamp, and_assoc,
        exists_and_left, exists_eq_left, reduceCtorEq, false_and, and_false, false_or,
        AutoClaimStatus.validDestination.injEq, Option.some.injEq, decide_eq_false_iff_not,
        not_not, exists_eq, and_true, answerable.noted, true_and]
      constructor
      · rintro ⟨elsewhere, rfl, rfl⟩
        exact ⟨rfl, elsewhere, rfl⟩
      · rintro ⟨rfl, elsewhere, rfl⟩
        exact ⟨elsewhere, rfl, rfl⟩

/-- A payment out of the contract shows whom it went to. -/
theorem destination_of_movedBalances {balances : Address → ℤ} {source other : Address}
    (positive : 0 < amount) (elsewhere : destination ≠ source)
    (same : movedBalances balances source destination amount =
      movedBalances balances source other amount) : other = destination := by
  have received := congrFun same destination
  rw [movedBalances_apply, movedBalances_apply, if_pos rfl, if_neg elsewhere] at received
  by_contra apart
  rw [if_neg (Ne.symm apart)] at received
  omega

/-- A completed stream has nothing claimable. -/
theorem claimable_of_completed (formed : stream.WellFormed id now)
    (completed : stream.status = .completed) (later : ℕ) : stream.claimable later = 0 := by
  have drained := formed.completed completed
  have covered := formed.bounded.accruedAt_le_deposit later
  have claimable := formed.claimable_eq later
  omega

/-- On every reachable state without a pause, on a stream that was not cancelled, when the contract
holds what it owes on the stream and the token pays it, an auto-claim succeeds and pays `amount` to
`destination` exactly when the view shows them and the end of the stream has passed. -/
theorem auto_claim_status_predicts
    (reached : Reachable env.currentContractAddress anyCall env.timestamp s)
    (running : s.globalEmergencyPaused = false) (stored : s.streams id = some stream)
    (uncancelled : stream.status ≠ .cancelled)
    (solvent : stream.owed ≤ s.balances env.currentContractAddress)
    (token : env.TokenHonours s) (destination : Address) (amount : ℤ) :
    AutoClaimPays env s id destination amount ↔
      StatusShows env s id destination amount ∧ stream.endTime ≤ env.timestamp := by
  have formed := reached.book_wellFormed
  have record := formed.records id stream stored
  have answerable : Answerable env s stream := reached.answerable le_rfl stored
  rw [statusShows_iff stored answerable]
  constructor
  · rintro ⟨positive, s', run, balances⟩
    rcases autoClaimable_of_runs run (formed.records id) positive.ne' with
      ⟨found, chosen, claims, moved⟩
    obtain rfl : found = stream := Option.some.inj (claims.stored.symm.trans stored)
    obtain rfl : destination = chosen :=
      destination_of_movedBalances positive claims.elsewhere (moved.symm.trans balances)
    exact ⟨⟨positive, claims.chosen, claims.elsewhere, claims.claimable⟩, claims.expired⟩
  · rintro ⟨⟨positive, chosen, elsewhere, claimable⟩, expired⟩
    have unfinished : stream.status ≠ .completed := by
      intro completed
      have nothing := claimable_of_completed record completed env.timestamp
      omega
    have live : stream.Live := Stream.live_iff.mpr ⟨unfinished, uncancelled⟩
    have claims : AutoClaimable env s id stream destination amount :=
      { running, stored, chosen, elsewhere, claimable, positive, expired, live
        configured := formed.initialised
        noted := reached.noted_le
        unlocked := reached.unlocked }
    have covered : amount ≤ stream.owed := by
      have accrued := record.bounded.accruedAt_le_deposit env.timestamp
      have unpaid := record.claimable_eq env.timestamp
      have owed := live.owed
      omega
    have able : s.CanPayOut env amount :=
      ⟨formed.initialised, reached.tokenBalances, token, covered.trans solvent⟩
    have able' : (s.claimed env id stream destination amount).CanPayOut env amount :=
      able.of_same rfl rfl
    exact ⟨positive, _, claims.runs record (able'.transferAllowed positive.le), rfl⟩

namespace Sample

/-- A stream with a destination for auto-claims is cancelled at half time. -/
def claimableCancelled : List (Invocation contract) :=
  claimable ++ [invocation 1 50 2 (.cancelStream 0) (Eq.refl true)]

theorem reachable_claimable : Reachable contract anyCall 10 (Script.run claimable genesis) := by
  have ordered : Script.Ordered claimable 0 := ⟨le_rfl, by decide, trivial⟩
  exact reachable_run ordered

/-- The token can pay out what the contract holds. -/
theorem canPayOut_claimable (timestamp sequence : ℕ) :
    (Script.run claimable genesis).CanPayOut (Sample.env 3 timestamp sequence) 1000 := by
  have balances : (Script.run claimable genesis).balances =
      movedBalances Sample.balances sender contract 1000 := rfl
  have held : (1000 : ℤ) ≤ (Script.run claimable genesis).balances contract := by decide
  refine ⟨rfl, reachable_claimable.tokenBalances, ⟨fun _ _ _ => rfl, ?_⟩, held⟩
  rw [balances]
  exact roomy_of_pulled (by decide) (by decide)

end Sample

/-- After the end the view shows the deposit, and the auto-claim pays it to the destination. -/
theorem auto_claim_status_predicts_at_end :
    let s := Script.run Sample.claimable Sample.genesis
    StatusShows (Sample.env 3 120 5) s 0 (.account 4) 1000 ∧
      AutoClaimPays (Sample.env 3 120 5) s 0 (.account 4) 1000 := by
  intro s
  have reached : Reachable Sample.contract anyCall 120 s :=
    .tick Sample.reachable_claimable (by decide)
  have terms : (s.streams 0).map (fun stream => decide (stream.status ≠ .cancelled ∧
      stream.claimable 120 = 1000 ∧ stream.endTime ≤ 120 ∧ stream.owed = 1000)) = some true := by
    decide +kernel
  rcases Option.map_eq_some_iff.mp terms with ⟨stream, stored, same⟩
  rcases of_decide_eq_true same with ⟨uncancelled, claimable, expired, owed⟩
  have running : s.globalEmergencyPaused = false := by decide
  have chosen : s.autoClaimDestination 0 = some (.account 4) := by decide
  have able := Sample.canPayOut_claimable 120 5
  have answerable : Answerable (Sample.env 3 120 5) s stream := reached.answerable le_rfl stored
  have shows_ : StatusShows (Sample.env 3 120 5) s 0 (.account 4) 1000 :=
    (statusShows_iff stored answerable).mpr ⟨by decide, chosen, by decide, claimable⟩
  have predicts := @auto_claim_status_predicts (Sample.env 3 120 5) s stream 0 reached running
    stored uncancelled (owed.le.trans able.covered) able.honours (.account 4) 1000
  exact ⟨shows_, predicts.mpr ⟨shows_, expired⟩⟩

/-- Half of the deposit is shown at half time, when the auto-claim still fails; and after the end
the view shows on a cancelled stream what nobody is paid. -/
theorem not_always_auto_claim_status_predicts :
    (¬ ∀ env s id stream destination amount,
      Reachable env.currentContractAddress anyCall env.timestamp s →
      s.globalEmergencyPaused = false → s.creationPaused = false → s.streams id = some stream →
      stream.owed ≤ s.balances env.currentContractAddress → env.TokenHonours s →
        (StatusShows env s id destination amount ↔ AutoClaimPays env s id destination amount)) ∧
    ¬ ∀ env s id stream destination amount,
      Reachable env.currentContractAddress anyCall env.timestamp s →
      s.globalEmergencyPaused = false → s.creationPaused = false → s.streams id = some stream →
      stream.endTime ≤ env.timestamp →
      stream.owed ≤ s.balances env.currentContractAddress → env.TokenHonours s →
        (StatusShows env s id destination amount ↔
          AutoClaimPays env s id destination amount) := by
  constructor
  · intro always
    let s := Script.run Sample.claimable Sample.genesis
    have reached : Reachable Sample.contract anyCall 50 s :=
      .tick Sample.reachable_claimable (by decide)
    have terms : (s.streams 0).map (fun stream => decide
        (stream.claimable 50 = 500 ∧ stream.endTime = 100 ∧ stream.owed = 1000)) = some true := by
      decide +kernel
    rcases Option.map_eq_some_iff.mp terms with ⟨stream, stored, same⟩
    rcases of_decide_eq_true same with ⟨claimable, finish, owed⟩
    have flags : s.globalEmergencyPaused = false ∧ s.creationPaused = false := by decide
    have chosen : s.autoClaimDestination 0 = some (.account 4) := by decide
    have able := Sample.canPayOut_claimable 50 5
    have answerable : Answerable (Sample.env 3 50 5) s stream := reached.answerable le_rfl stored
    have shows_ : StatusShows (Sample.env 3 50 5) s 0 (.account 4) 500 :=
      (statusShows_iff stored answerable).mpr ⟨by decide, chosen, by decide, claimable⟩
    rcases (always (Sample.env 3 50 5) s 0 stream _ _ reached flags.1 flags.2 stored
      (owed.le.trans able.covered) able.honours).mp shows_ with ⟨_, _, run, _⟩
    rcases autoClaimable_of_runs run (reached.book_wellFormed.records 0) (by decide) with
      ⟨found, _, claims, _⟩
    obtain rfl : found = stream := Option.some.inj (claims.stored.symm.trans stored)
    have expired : found.endTime ≤ 50 := claims.expired
    omega
  · intro always
    let s := Script.run Sample.claimableCancelled Sample.genesis
    have ordered : Script.Ordered Sample.claimableCancelled 0 :=
      ⟨le_rfl, by decide, by decide, trivial⟩
    have reached : Reachable Sample.contract anyCall 120 s :=
      .tick (Sample.reachable_run ordered) (by decide)
    have terms : (s.streams 0).map (fun stream => decide (stream.claimable 120 = 1000 ∧
        stream.endTime = 100 ∧ stream.status = .cancelled ∧ stream.owed = 500)) = some true := by
      decide +kernel
    rcases Option.map_eq_some_iff.mp terms with ⟨stream, stored, same⟩
    rcases of_decide_eq_true same with ⟨claimable, finish, cancelled, owed⟩
    have refunded : s.balances =
        movedBalances (Script.run Sample.claimable Sample.genesis).balances
          Sample.contract Sample.sender 500 := rfl
    have before : (Script.run Sample.claimable Sample.genesis).CanPayOut (Sample.env 3 120 5)
        (500 + 500) := Sample.canPayOut_claimable 120 5
    have able : s.CanPayOut (Sample.env 3 120 5) 500 :=
      before.moved (by decide) (by decide) (by decide) refunded
    have flags : s.globalEmergencyPaused = false ∧ s.creationPaused = false := by decide
    have chosen : s.autoClaimDestination 0 = some (.account 4) := by decide
    have answerable : Answerable (Sample.env 3 120 5) s stream := reached.answerable le_rfl stored
    have shows_ : StatusShows (Sample.env 3 120 5) s 0 (.account 4) 1000 :=
      (statusShows_iff stored answerable).mpr ⟨by decide, chosen, by decide, claimable⟩
    have expired : stream.endTime ≤ 120 := by omega
    rcases (always (Sample.env 3 120 5) s 0 stream _ _ reached flags.1 flags.2 stored expired
      (owed.le.trans able.covered) able.honours).mp shows_ with ⟨_, _, run, _⟩
    rcases autoClaimable_of_runs run (reached.book_wellFormed.records 0) (by decide) with
      ⟨found, _, claims, _⟩
    obtain rfl : found = stream := Option.some.inj (claims.stored.symm.trans stored)
    exact claims.live.not_cancelled cancelled

end Wallie.StreamContract
