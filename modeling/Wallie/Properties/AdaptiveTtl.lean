import Wallie.StreamContract.Lifetimes
import Wallie.StreamContract.Script

/-!
# Adaptive lifetimes

The longer a stream lasts the longer its entry is kept, up to a ceiling. The
number of ledgers is narrowed to 32 bits before the ceiling is applied, so an
end that is further away than that many ledgers counts as a near one.
-/

namespace Wallie.StreamContract

open Bounded (Interval)

variable {constants : TtlConstants} {now endTime earlier : ℕ}

/-- The lifetime over unbounded integers. -/
def exactAdaptiveTtl (constants : TtlConstants) (now endTime : ℤ) : ℤ :=
  constants.range.clamp (max 0 (endTime - now) / ledgerCloseTime + constants.bufferLedgers)

/-- The lifetime is the exact one, and no stream with an earlier end has a longer one. -/
structure AdaptiveTtlExact (constants : TtlConstants) (now endTime : ℕ) : Prop where
  exact : computeAdaptiveTtl constants now endTime = exactAdaptiveTtl constants now endTime
  monotone : ∀ earlier ≤ endTime,
    computeAdaptiveTtl constants now earlier ≤ computeAdaptiveTtl constants now endTime

theorem exactAdaptiveTtl_eq (constants : TtlConstants) (now endTime : ℕ) :
    exactAdaptiveTtl constants now endTime =
      constants.range.clamp (ledgersForStream now endTime + constants.bufferLedgers : ℕ) := by
  have remaining : max 0 ((endTime : ℤ) - now) = (endTime - now : ℕ) := by omega
  rw [exactAdaptiveTtl, remaining, ledgersForStream]
  push_cast
  rfl

theorem exactAdaptiveTtl_mono (order : earlier ≤ endTime) :
    exactAdaptiveTtl constants now earlier ≤ exactAdaptiveTtl constants now endTime := by
  have fewer : ledgersForStream now earlier ≤ ledgersForStream now endTime :=
    Nat.div_le_div_right (Nat.sub_le_sub_right order now)
  rw [exactAdaptiveTtl_eq, exactAdaptiveTtl_eq]
  exact Interval.clamp_mono (Int.ofNat_le.mpr (Nat.add_le_add_right fewer _))

/-- A number of ledgers that 32 bits can hold is not changed by the cast. -/
theorem computeAdaptiveTtl_of_narrow (narrow : ledgersForStream now endTime < 2 ^ 32) :
    computeAdaptiveTtl constants now endTime = exactAdaptiveTtl constants now endTime := by
  rw [computeAdaptiveTtl_eq, exactAdaptiveTtl_eq, Nat.mod_eq_of_lt narrow]

/-- Any other number is beyond the ceiling. -/
theorem exactAdaptiveTtl_of_wide (wide : 2 ^ 32 ≤ ledgersForStream now endTime) :
    exactAdaptiveTtl constants now endTime = constants.maxTtl := by
  have fits : (constants.maxTtl : ℤ) ≤ 2 ^ 32 - 1 := constants.fits
  rw [exactAdaptiveTtl_eq]
  apply (Interval.clamp_eq_upper (Int.ofNat_lt.mpr constants.floor_lt)).mpr
  change (constants.maxTtl : ℤ) ≤ _
  omega

theorem computeAdaptiveTtl_eq_maxTtl :
    (computeAdaptiveTtl constants now endTime : ℤ) = constants.maxTtl ↔
      constants.maxTtl ≤ ledgersForStream now endTime % 2 ^ 32 + constants.bufferLedgers := by
  rw [computeAdaptiveTtl_eq, ← Int.ofNat_le]
  exact Interval.clamp_eq_upper (Int.ofNat_lt.mpr constants.floor_lt)

/-- An exact lifetime is at least that of any earlier end, exact or not. -/
theorem computeAdaptiveTtl_le (order : earlier ≤ endTime) :
    (computeAdaptiveTtl constants now earlier : ℤ) ≤ exactAdaptiveTtl constants now endTime := by
  rcases lt_or_ge (ledgersForStream now earlier) (2 ^ 32) with narrow | wide
  · rw [computeAdaptiveTtl_of_narrow narrow]
    exact exactAdaptiveTtl_mono order
  · have longer : exactAdaptiveTtl constants now earlier = constants.maxTtl :=
      exactAdaptiveTtl_of_wide wide
    calc (computeAdaptiveTtl constants now earlier : ℤ)
      _ ≤ constants.maxTtl := (contains_computeAdaptiveTtl constants now earlier).2
      _ = exactAdaptiveTtl constants now earlier := longer.symm
      _ ≤ exactAdaptiveTtl constants now endTime := exactAdaptiveTtl_mono order

/-- The lifetime is exact, and monotone in the end, at the ends whose number of ledgers 32 bits can
hold, and at those whose remainder already reaches the ceiling. -/
theorem adaptive_ttl_exact (constants : TtlConstants) (now endTime : ℕ) :
    AdaptiveTtlExact constants now endTime ↔
      (endTime - now) / ledgerCloseTime < 2 ^ 32 ∨
        constants.maxTtl ≤
          (endTime - now) / ledgerCloseTime % 2 ^ 32 + constants.bufferLedgers := by
  change _ ↔ ledgersForStream now endTime < 2 ^ 32 ∨
    constants.maxTtl ≤ ledgersForStream now endTime % 2 ^ 32 + constants.bufferLedgers
  have exact_iff : (computeAdaptiveTtl constants now endTime : ℤ) =
      exactAdaptiveTtl constants now endTime ↔ ledgersForStream now endTime < 2 ^ 32 ∨
        constants.maxTtl ≤ ledgersForStream now endTime % 2 ^ 32 + constants.bufferLedgers := by
    rcases lt_or_ge (ledgersForStream now endTime) (2 ^ 32) with narrow | wide
    · exact iff_of_true (computeAdaptiveTtl_of_narrow narrow) (Or.inl narrow)
    · rw [exactAdaptiveTtl_of_wide wide, computeAdaptiveTtl_eq_maxTtl]
      exact (or_iff_right (not_lt.mpr wide)).symm
  rw [← exact_iff]
  constructor
  · exact AdaptiveTtlExact.exact
  · intro exact
    refine ⟨exact, fun earlier order => ?_⟩
    rw [← Int.ofNat_le, exact]
    exact computeAdaptiveTtl_le order

/-- A stream that ends `2 ^ 32` ledgers after its creation. -/
def Sample.farEnd : List (Invocation Sample.contract) :=
  [Sample.invocation 1 0 0 (.createStream Sample.sender
    { Sample.params 500000 1 0 0 with endTime := 5 * 2 ^ 32, kind := .cliffOnly }) (Eq.refl true)]

/-- The contract accepts a stream whose entry is kept for a week, where one that ends a ledger
earlier is kept as long as possible. -/
theorem adaptive_ttl_wraps :
    ((Script.run Sample.farEnd Sample.genesis).streams 0).map Stream.endTime =
        some (5 * 2 ^ 32) ∧
      computeAdaptiveTtl .helpers 0 (5 * 2 ^ 32 - 5) = 3110400 ∧
      computeAdaptiveTtl .helpers 0 (5 * 2 ^ 32) = 120960 ∧
      ¬ AdaptiveTtlExact .helpers 0 (5 * 2 ^ 32) ∧ ¬ AdaptiveTtlExact .head 0 (5 * 2 ^ 32) := by
  refine ⟨by decide +kernel, by decide, by decide, ?_, ?_⟩
  · intro property
    have shorter := property.monotone (5 * 2 ^ 32 - 5) (by decide)
    exact absurd shorter (by decide)
  · intro property
    have shorter := property.monotone (5 * 2 ^ 32 - 5) (by decide)
    exact absurd shorter (by decide)

end Wallie.StreamContract
