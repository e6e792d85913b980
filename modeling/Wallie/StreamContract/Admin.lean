import Wallie.StreamContract.Storage

/-!
# Initialisation and administration

The one-time initialisation with its probe of the token, the admin key, the rate
cap, the pause flags and the sweep of tokens nobody is owed.
-/

namespace Wallie.StreamContract

open Fallible

def maxPauseReasonBytes : ℕ := 256

/-- The token is probed with a transfer of nothing from the contract to itself. -/
def verifyTokenBehavior : Contract Unit := do
  let contractAddr ← ask Env.currentContractAddress
  let initialBalance ← peek fun s => s.balances contractAddr
  rejectIf (initialBalance < 0) (.error .tokenVerificationFailed)
  tokenTransfer contractAddr contractAddr 0
  let finalBalance ← peek fun s => s.balances contractAddr
  rejectIf (finalBalance < 0) (.error .tokenVerificationFailed)
  rejectIf (initialBalance ≠ finalBalance) (.error .tokenVerificationFailed)

def init (token admin : Address) : Contract Unit := do
  requireAuth admin
  let config ← peek State.config
  rejectIf (config.isSome = true) (.error .alreadyInitialised)
  verifyTokenBehavior
  update fun s => { s with
    config := some { token, admin }, nextStreamId := 0, pausedStreamCount := 0,
    nextTemplateId := 0, activeTemplateCount := 0, totalLiabilities := 0,
    totalKeeperFeesPaid := 0 }

def setAdmin (newAdmin : Address) : Contract Unit := do
  let config ← getConfig
  requireAuth config.admin
  update fun s => { s with config := some { config with admin := newAdmin } }
  publish (.adminUpd config.admin newAdmin)

def setMaxRatePerSecond (maxRate : ℤ) : Contract Unit := do
  let admin ← getAdmin
  requireAuth admin
  rejectIf (maxRate ≤ 0) (.error .invalidParams)
  update fun s => { s with maxRatePerSecond := maxRate }

def setGlobalEmergencyPaused (paused : Bool) : Contract Unit := do
  let config ← peek State.config
  -- `get_admin(&env).unwrap()`
  let config ← getOrReject config .trap
  requireAuth config.admin
  update fun s => { s with globalEmergencyPaused := paused }
  publish (.glPause paused)

def globalResume : Contract Unit := do
  let admin ← getAdmin
  requireAuth admin
  let paused ← peek State.globalEmergencyPaused
  rejectIf (paused = false) (.error .invalidState)
  update fun s => { s with globalEmergencyPaused := false }
  let now ← ask Env.timestamp
  publish (.glResume now)

def setContractPaused (paused : Bool) : Contract Unit := do
  let admin ← getAdmin
  requireAuth admin
  update fun s => { s with creationPaused := paused }
  publish (.ctPause paused)

def pauseProtocol (admin : Address) (reason : Option String) : Contract Unit := do
  requireAuth admin
  let storedAdmin ← getAdmin
  rejectIf (admin ≠ storedAdmin) (.error .unauthorized)
  let paused ← isProtocolPaused
  if paused = true then return ()
  else do
    update fun s => { s with globalEmergencyPaused := true }
    let reason := reason.getD ""
    rejectIf (maxPauseReasonBytes < reason.utf8ByteSize) (.error .pauseReasonTooLong)
    let now ← ask Env.timestamp
    update fun s => { s with
      globalPauseReason := some reason, globalPauseTimestamp := some now,
      globalPauseAdmin := some admin }
    publish (.prPause admin reason now)

def resumeProtocol (admin : Address) : Contract Unit := do
  requireAuth admin
  let storedAdmin ← getAdmin
  rejectIf (admin ≠ storedAdmin) (.error .unauthorized)
  let paused ← isProtocolPaused
  if paused = false then return ()
  else do
    update fun s => { s with
      globalEmergencyPaused := false, globalPauseReason := none,
      globalPauseTimestamp := none, globalPauseAdmin := none }
    let now ← ask Env.timestamp
    publish (.prResume admin now)

/-- The admin sends what the contract holds beyond its liabilities to `recipient`. -/
def sweepExcess (recipient : Address) : Contract ℤ := do
  let admin ← getAdmin
  requireAuth admin
  let contractBalance ← tokenBalance
  let totalLiabilities ← peek State.totalLiabilities
  let excess := i128.clamp (contractBalance - totalLiabilities)
  if excess ≤ 0 then return 0
  else do
    publish (.exSwept recipient excess)
    acquireReentrancyLock
    pushToken recipient excess []
    releaseReentrancyLock
    return excess

end Wallie.StreamContract
