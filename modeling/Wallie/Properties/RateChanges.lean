import Wallie.Ledger.AccrualView
import Wallie.Ledger.Emissions
import Wallie.Ledger.Entitlement
import Wallie.StreamContract.Script

/-!
# Rate changes and what is already earned

Two of the three entrypoints that change a rate freeze the accrual first and
keep what is earned. The third overwrites the rate, and so re-prices the part of
the current epoch that has passed.
-/

namespace Wallie.StreamContract

open Fallible

variable {address : Address} {s s' : State} {now id : ℕ} {stream stream' : Stream} {move : Move}
  {call : Call} {held rate : ℤ}

/-- The entrypoints that change the rate of stream `id`. -/
def Call.ChangesRate (id : ℕ) : Call → Prop
  | updateRatePerSecond changed _ | decreaseRatePerSecond changed _ | updateRate changed _ _ =>
      changed = id
  | _ => False

namespace Stream

/-- Overwriting the rate at `now` re-prices nothing: a cliff-only stream has no rate, nothing is
visible before the cliff, none of the epoch has passed, the rate stays the same, or both rates have
exhausted the deposit. -/
def RepricesNothing (stream : Stream) (now : ℕ) (rate : ℤ) : Prop :=
  stream.kind = .cliffOnly ∨ now < stream.cliffTime ∨
    stream.checkpointState.elapsedSeconds now = 0 ∨ rate = stream.ratePerSecond ∨
    stream.depositAmount ≤ stream.checkpointedAmount +
        stream.ratePerSecond * stream.checkpointState.elapsedSeconds now ∧
      stream.depositAmount ≤
        stream.checkpointedAmount + rate * stream.checkpointState.elapsedSeconds now

/-- The accrual after the rate was overwritten. -/
theorem Bounded.accruedAt_reprice_iff (bounded : stream.Bounded)
    (bounded' : ({ stream with ratePerSecond := rate } : Stream).Bounded) :
    ({ stream with ratePerSecond := rate } : Stream).accruedAt now = stream.accruedAt now ↔
      stream.RepricesNothing now rate := by
  rw [bounded.accruedAt_eq_value, bounded'.accruedAt_eq_value]
  by_cases cliffOnly : stream.kind = .cliffOnly
  · have same : ({ stream with ratePerSecond := rate } : Stream).epoch = stream.epoch := by
      simp [epoch, cliffOnly]
    rw [same]
    exact iff_of_true rfl (Or.inl cliffOnly)
  · have linear := linear_of_supported cliffOnly
    have repriced : ({ stream with ratePerSecond := rate } : Stream).epoch =
        { stream.epoch with rate := rate } := by
      simp [epoch, linear]
    have earned : ({ stream.epoch with rate := rate } : AccrualEpoch ℤ).earned now =
        stream.checkpointedAmount + rate * stream.checkpointState.elapsedSeconds now := by
      rw [← epoch_elapsed, ← epoch_base_of_linear linear]
      rfl
    rw [repriced, AccrualEpoch.value_reprice_iff, earned]
    simp only [AccrualEpoch.earned, epoch_rate_of_linear linear, epoch_base_of_linear linear,
      epoch_elapsed, RepricesNothing, cliffOnly, false_or]
    exact or_congr Int.ofNat_lt Iff.rfl

/-- Whether a move leaves the accrual alone at the moment it is made, if it changes the rate. -/
def KeepsAccrual (stream : Stream) (now : ℕ) : Move → Prop
  | .reprice rate => stream.RepricesNothing now rate
  | _ => True

/-- What a change of the rate does to the accrual at that moment. -/
theorem Moves.accruedAt_eq_iff (moves : stream.Moves now move stream')
    (formed : stream.WellFormed id now)
    (changes : call.ChangesRate id) (changing : call.Changing held id move) :
    stream'.withdrawnAmount = stream.withdrawnAmount ∧
      stream.entitlement now = stream.accruedAt now ∧
      (stream'.entitlement now = stream.accruedAt now ↔ stream.KeepsAccrual now move) := by
  have bounded := formed.bounded
  have bounded' := (moves.wellFormed formed).bounded
  have accrued_le := bounded.accruedAt_le_deposit now
  cases moves with
  | raiseRate live linear _ _ =>
      refine ⟨rfl, live.entitlement now, iff_of_true ?_ trivial⟩
      rw [live.entitlement_of_status (by rfl)]
      exact bounded.accruedAt_checkpointed linear bounded' accrued_le
  | lowerRate live linear running positive _ _ kept =>
      refine ⟨rfl, live.entitlement now, iff_of_true ?_ trivial⟩
      rw [live.entitlement_of_status (by rfl)]
      have remaining : (0 : ℤ) < (stream.endTime - now : ℕ) := by omega
      have future := mul_pos positive remaining
      exact bounded.accruedAt_checkpointed linear bounded' (by omega)
  | reprice live positive =>
      refine ⟨rfl, live.entitlement now, ?_⟩
      rw [live.entitlement_of_status (by rfl)]
      exact bounded.accruedAt_reprice_iff bounded'
  | withdraw _ _ _ _ _ _ | topUp _ _ _ _ _ | shorten _ _ _ _ _ _ _ _ | extend _ _ _ _ _
  | pause _ _ | resume _ _ | cancel _ _ | settle _ _ _ | keeperCancel _ _ _ _ | rotate =>
      cases changing <;> exact absurd changes not_false

end Stream

theorem Call.Changing.keepsAccrual_iff (changing : call.Changing held id move) :
    stream.KeepsAccrual now move ↔
      ∀ rate caller, call = .updateRate id rate caller → stream.RepricesNothing now rate := by
  cases changing with
  | @updateRate rate caller =>
      constructor
      · rintro nothing rate' caller' same
        cases same
        exact nothing
      · exact fun nothing => nothing rate caller rfl
  | _ => exact iff_of_true trivial (by simp)

/-- A successful change of the rate is one move of the record. -/
theorem Invocation.moves_of_changesRate (invocation : Invocation address)
    (formed : (s.book address).WellFormed invocation.env.timestamp)
    (changes : invocation.call.ChangesRate id)
    (run : Runs invocation.call.run invocation.env s () s') :
    ∃ move stream stream', invocation.call.Changing (s.balances address) id move ∧
      s.streams id = some stream ∧ stream.Moves invocation.env.timestamp move stream' ∧
      s'.streams id = some stream' := by
  rcases invocation with ⟨env, call, rfl, noSelfAuth, timestamp, sequence, wellTyped⟩
  cases call with
  | updateRatePerSecond changed rate =>
      rcases (updateRatePerSecond_performs run formed).moves with
        ⟨_, stream, stream', rfl, stored, moves, stored'⟩
      cases changes
      exact ⟨_, stream, stream', .updateRatePerSecond, stored, moves, stored'⟩
  | decreaseRatePerSecond changed rate =>
      rcases (decreaseRatePerSecond_performs run formed).moves with
        ⟨_, stream, stream', ⟨_, rfl⟩, stored, moves, stored'⟩
      cases changes
      exact ⟨_, stream, stream', .decreaseRatePerSecond, stored, moves, stored'⟩
  | updateRate changed rate caller =>
      rcases (updateRate_performs run formed).moves with
        ⟨_, stream, stream', rfl, stored, moves, stored'⟩
      cases changes
      exact ⟨_, stream, stream', .updateRate, stored, moves, stored'⟩
  | _ => exact absurd changes not_false

/-- The accrual of a stored stream covers what was withdrawn, and an `updateRate` re-prices
nothing. -/
def rateChangeKeeps (s : State) (env : Env) (id : ℕ) (call : Call) : Prop :=
  ∀ stream, s.streams id = some stream →
    stream.withdrawnAmount ≤ stream.accruedAt env.timestamp ∧
      ∀ rate caller, call = .updateRate id rate caller →
        stream.RepricesNothing env.timestamp rate

/-- On every run a successful change of the rate leaves what `calculateAccrued` returns at that
time in place, and at least what was withdrawn, exactly when the accrual covered what was withdrawn
and an `updateRate` re-prices nothing. -/
theorem rate_change_keeps_iff (reached : Reachable address anyCall now s)
    (invocation : Invocation address) (order : now ≤ invocation.env.timestamp)
    (changes : invocation.call.ChangesRate id)
    (run : Runs invocation.call.run invocation.env s () s') :
    ∃ stream' before after, s'.streams id = some stream' ∧
      s.Accrues invocation.env id before ∧ s'.Accrues invocation.env id after ∧
      (after = before ∧ stream'.withdrawnAmount ≤ after ↔
        rateChangeKeeps s invocation.env id invocation.call) := by
  have formed := reached.book_wellFormed.mono order
  rcases invocation.moves_of_changesRate formed changes run with
    ⟨move, stream, stream', changing, stored, moves, stored'⟩
  have reached' := reached.after order trivial run
  have record := formed.records id stream stored
  rcases moves.accruedAt_eq_iff record changes changing with ⟨withdrawn, entitled, kept⟩
  refine ⟨stream', _, _, stored', (reached.accrues_iff order stored).mpr rfl,
    (reached'.accrues_iff le_rfl stored').mpr rfl, ?_⟩
  rw [entitled, withdrawn]
  constructor
  · rintro ⟨same, covered⟩ record found
    rw [stored, Option.some.injEq] at found
    subst found
    rw [same] at covered
    exact ⟨covered, changing.keepsAccrual_iff.mp (kept.mp same)⟩
  · intro keeps
    rcases keeps stream stored with ⟨covered, nothing⟩
    have same := kept.mpr (changing.keepsAccrual_iff.mpr nothing)
    exact ⟨same, same ▸ covered⟩

/-- A stream of 2000 tokens at rate 10. -/
def Sample.halfFunded : List (Invocation Sample.contract) :=
  Sample.oneCreation 2000 10 0 0 (Eq.refl true)

/-- At 50 the rate of the stream is raised. -/
theorem rate_change_keeps_iff_raised :
    let s := Script.run Sample.halfFunded Sample.genesis
    let raising := Sample.invocation 1 50 1 (.updateRatePerSecond 0 20) rfl
    let s' := raising.call.run.commit raising.env s
    ∃ stream' before after, s'.streams 0 = some stream' ∧ s.Accrues raising.env 0 before ∧
      s'.Accrues raising.env 0 after ∧
      (after = before ∧ stream'.withdrawnAmount ≤ after ↔
        rateChangeKeeps s raising.env 0 raising.call) := by
  intro s raising s'
  have reached : Reachable Sample.contract anyCall 0 s :=
    Sample.reachable_oneCreation fun _ _ _ _ => trivial
  have changed : s'.streams 0 ≠ s.streams 0 := by decide
  exact rate_change_keeps_iff reached raising (by decide) rfl (Script.runs_of_changed changed)

/-- An `updateRate` at 90 to a tenth of the rate takes back nine tenths of what was earned. -/
theorem not_always_rate_change_keeps :
    ¬ ∀ address now s, Reachable address anyCall now s →
      ∀ (invocation : Invocation address) id s', now ≤ invocation.env.timestamp →
        invocation.call.ChangesRate id → Runs invocation.call.run invocation.env s () s' →
        ∀ before after, s.Accrues invocation.env id before → s'.Accrues invocation.env id after →
          after = before := by
  intro always
  let s := Script.run Sample.halfFunded Sample.genesis
  let repricing := Sample.invocation 1 90 1 (.updateRate 0 1 Sample.sender) rfl
  let s' := repricing.call.run.commit repricing.env s
  have reached : Reachable Sample.contract anyCall 0 s :=
    Sample.reachable_oneCreation fun _ _ _ _ => trivial
  have reached' := reached.invoke repricing (by decide) trivial
  have before : s.Accrues repricing.env 0 900 := reached.accrues (Nat.zero_le _) (by decide)
  have after : s'.Accrues repricing.env 0 90 := reached'.accrues le_rfl (by decide)
  have changed : s'.streams 0 ≠ s.streams 0 := by decide
  have same := always _ _ s reached repricing 0 s' (by decide) rfl (Script.runs_of_changed changed)
    _ _ before after
  omega

end Wallie.StreamContract
