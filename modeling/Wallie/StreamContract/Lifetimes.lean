import Mathlib.Tactic.Linarith
import Wallie.StreamContract.Types

/-!
# Storage lifetimes

How many ledgers the contract keeps the entry of a stream alive when it reads or
writes it. The amount follows the remaining lifetime of the stream, between a
floor and a ceiling.
-/

namespace Wallie.StreamContract

open Bounded (Interval)

def persistentBumpAmount : ℕ := 120960

def ledgerCloseTime : ℕ := 5

/-- The two constants that the source defines twice, with different values. -/
structure TtlConstants where
  bufferLedgers : ℕ
  maxTtl : ℕ
  floor_lt : persistentBumpAmount < maxTtl
  fits : (maxTtl : ℤ) ≤ u32.upper

/-- The definitions at the head of the contract. -/
def TtlConstants.head : TtlConstants where
  bufferLedgers := 1000
  maxTtl := 5000000
  floor_lt := by decide
  fits := by decide

/-- The definitions among its storage helpers. -/
def TtlConstants.helpers : TtlConstants where
  bufferLedgers := 17280
  maxTtl := 3110400
  floor_lt := by decide
  fits := by decide

/-- The ledgers that close until `endTime`. -/
def ledgersForStream (now endTime : ℕ) : ℕ :=
  (endTime - now) / ledgerCloseTime

def computeAdaptiveTtl (constants : TtlConstants) (now endTime : ℕ) : ℕ :=
  -- The cast to `u32` keeps the remainder, and the sum saturates.
  let narrowed := ledgersForStream now endTime % 2 ^ 32
  let adaptive := min (narrowed + constants.bufferLedgers) (2 ^ 32 - 1)
  max persistentBumpAmount (min adaptive constants.maxTtl)

/-- The lifetimes between the floor and the ceiling. -/
def TtlConstants.range (constants : TtlConstants) : Interval where
  lower := persistentBumpAmount
  upper := constants.maxTtl
  lower_le_upper := Int.ofNat_le.mpr constants.floor_lt.le

variable {constants : TtlConstants} {now endTime : ℕ}

theorem contains_computeAdaptiveTtl (constants : TtlConstants) (now endTime : ℕ) :
    constants.range.Contains (computeAdaptiveTtl constants now endTime) := by
  have proper := constants.floor_lt
  have floor : persistentBumpAmount ≤ computeAdaptiveTtl constants now endTime :=
    le_max_left _ _
  have ceiling : computeAdaptiveTtl constants now endTime ≤ constants.maxTtl :=
    max_le proper.le (min_le_right _ _)
  exact ⟨Int.ofNat_le.mpr floor, Int.ofNat_le.mpr ceiling⟩

/-- Up to the ceiling the saturation of the sum does not show. -/
theorem computeAdaptiveTtl_eq (constants : TtlConstants) (now endTime : ℕ) :
    (computeAdaptiveTtl constants now endTime : ℤ) =
      constants.range.clamp
        (ledgersForStream now endTime % 2 ^ 32 + constants.bufferLedgers : ℕ) := by
  have fits : (constants.maxTtl : ℤ) ≤ 2 ^ 32 - 1 := constants.fits
  simp only [computeAdaptiveTtl, Interval.clamp, TtlConstants.range]
  omega

end Wallie.StreamContract
