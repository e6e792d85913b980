import Wallie.StreamContract.Lifecycle
import Wallie.StreamContract.Registry
import Wallie.StreamContract.Withdraw

/-!
# Views

The queries that note the ledger time they read, and the preview of a keeper's
fee. The other queries of the contract change nothing and are left to the
results that are about them.
-/

namespace Wallie.StreamContract

open Fallible

structure StreamHealth where
  isUnderfunded : Bool
  isExpired : Bool
  accruedToDate : ℕ
  remainingDeposit : ℕ
  secondsUntilDepletion : Option ℕ
  deriving DecidableEq, Repr

inductive AutoClaimStatus where
  | notSet
  | validDestination (destination : Address) (claimable : ℤ)
  | invalidDestination (destination : Address)
  deriving DecidableEq, Repr

/-- The second at which the deposit runs out. The quotient is cast to `u64`. -/
def Stream.depletionTime (stream : Stream) : ℕ :=
  let totalToAccrue := i128.clamp (stream.depositAmount - stream.checkpointedAmount)
  let secondsToDeplete := (totalToAccrue.tdiv stream.ratePerSecond % 2 ^ 64).toNat
  min (stream.checkpointedAt + secondsToDeplete) (2 ^ 64 - 1)

def getStreamHealth (streamId : ℕ) : Contract StreamHealth := do
  let stream ← loadStream streamId
  let currentTime ← ask Env.timestamp
  let accruedToDate ← calculateAccrued streamId
  return {
    isUnderfunded := stream.isUnderfunded
    isExpired := decide (stream.endTime ≤ currentTime ∧ stream.status ≠ .completed ∧
      stream.status ≠ .cancelled)
    accruedToDate := i128Bits accruedToDate
    remainingDeposit := i128Bits (i128.clamp (stream.depositAmount - stream.withdrawnAmount))
    secondsUntilDepletion :=
      if 0 < stream.ratePerSecond then
        some (if stream.depletionTime < stream.endTime then stream.depletionTime - currentTime
          else stream.endTime - currentTime)
      else if stream.depositAmount ≤ stream.checkpointedAmount then some 0 else none }

def getAutoClaimStatus (streamId : ℕ) : Contract AutoClaimStatus := do
  let stream ← loadStream streamId
  let destination ← peek fun s => s.autoClaimDestination streamId
  match destination with
  | none => return .notSet
  | some destination => do
      let valid ← isValidDestination destination
      if valid = false then return .invalidDestination destination
      else do
        let now ← currentAccrualTimestamp
        return .validDestination destination (stream.claimable now)

/-- The source compiles this helper for tests only, where the preview calls it. -/
def computeKeeperFeeSplit (gross bps : ℤ) : ℤ × ℤ :=
  let fee := ((i128.check (gross * bps)).getD i128.upper).tdiv 10000
  let refund := (i128.check (gross - fee)).getD 0
  (fee, refund)

def getKeeperFeeSplit (streamId : ℕ) : Contract (ℤ × ℤ) := do
  let stream ← loadStream streamId
  requireCancellableStatus stream.status
  let now ← ask Env.timestamp
  let eligibleAt ← checkedAddU64 stream.endTime keeperGracePeriodSeconds .arithmeticOverflow
  if now < eligibleAt then return (0, 0)
  else do
    let unstreamed ← checkedI128 (stream.depositAmount - stream.accruedAt now) .invalidState
    return computeKeeperFeeSplit (max unstreamed 0) keeperFeeBps

end Wallie.StreamContract
