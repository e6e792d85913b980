import Wallie.StreamContract.Storage

/-!
# Rotation, auto-claim, templates and reservations

The entrypoints that move the recipient of a stream, pay an expired stream to a
destination chosen in advance, keep the registry of schedule templates and hand
out ranges of stream ids.
-/

namespace Wallie.StreamContract

open Fallible

/-- The source defines this bound twice, as 10 and further down as 50. What is proved of the history
uses only that it is positive. -/
def maxRotationHistory : ℕ := 50

def maxTemplatesPerOwner : ℕ := 50

def maxGlobalTemplates : ℕ := 1000

def maxIdReservation : ℕ := 100

/-! ## Recipient rotation -/

def savePendingRecipientUpdate (streamId : ℕ) (pending : Option PendingRecipientUpdate) :
    Contract Unit :=
  update fun s =>
    { s with pendingRecipientUpdate := Function.update s.pendingRecipientUpdate streamId pending }

def updateRecipient (streamId : ℕ) (newRecipient : Address) : Contract Unit := do
  requireNotGloballyPaused
  let stream ← loadStream streamId
  requireAuth stream.sender
  rejectIf (newRecipient = stream.recipient) (.error .invalidParams)
  let pending ← peek fun s => s.pendingRecipientUpdate streamId
  rejectIf (pending.isSome = true) (.error .invalidState)
  savePendingRecipientUpdate streamId (some { streamId, proposedRecipient := newRecipient })

def appendRotationEntry (streamId : ℕ) (entry : RotationEntry) : Contract Unit := do
  let history ← peek fun s => s.rotationHistory streamId
  let kept := if maxRotationHistory ≤ history.length then history.tail else history
  update fun s =>
    { s with rotationHistory := Function.update s.rotationHistory streamId (kept ++ [entry]) }

def acceptRecipientUpdate (streamId : ℕ) : Contract Unit := do
  requireNotGloballyPaused
  let pending ← peek fun s => s.pendingRecipientUpdate streamId
  let pending ← getOrReject pending (.error .invalidState)
  let stream ← loadStream streamId
  requireAuth stream.recipient
  removeStreamFromRecipientIndex stream.recipient streamId
  addStreamToRecipientIndex pending.proposedRecipient streamId
  saveStream { stream with recipient := pending.proposedRecipient }
  let ledger ← ask Env.sequence
  appendRotationEntry streamId
    { oldAddr := stream.recipient, newAddr := pending.proposedRecipient, ledger,
      role := .recipient, authoriser := stream.recipient }
  savePendingRecipientUpdate streamId none
  publish (.recpUpd streamId stream.recipient pending.proposedRecipient)

def cancelRecipientUpdate (streamId : ℕ) : Contract Unit := do
  let stream ← loadStream streamId
  requireAuth stream.sender
  let pending ← peek fun s => s.pendingRecipientUpdate streamId
  rejectIf (pending = none) (.error .invalidState)
  savePendingRecipientUpdate streamId none

/-! ## Auto-claim -/

def isValidDestination (destination : Address) : Contract Bool :=
  ask fun env => decide (destination ≠ env.currentContractAddress)

def saveAutoClaimDestination (streamId : ℕ) (destination : Option Address) : Contract Unit :=
  update fun s =>
    { s with autoClaimDestination := Function.update s.autoClaimDestination streamId destination }

def setAutoClaim (streamId : ℕ) (destination : Address) : Contract Unit := do
  let stream ← loadStream streamId
  requireAuth stream.recipient
  let valid ← isValidDestination destination
  rejectIf (valid = false) (.error .invalidParams)
  saveAutoClaimDestination streamId (some destination)
  publish (.acSet streamId destination)

def revokeAutoClaim (streamId : ℕ) : Contract Unit := do
  let stream ← loadStream streamId
  requireAuth stream.recipient
  saveAutoClaimDestination streamId none
  publish (.acRevoke streamId)

/-- The record once an auto-claim has brought the withdrawn amount to `withdrawnAmount`. -/
def Stream.autoClaimedTo (stream : Stream) (withdrawnAmount : ℤ) : Stream :=
  { stream with
    withdrawnAmount
    status := if stream.depositAmount ≤ withdrawnAmount then .completed else stream.status }

def triggerAutoClaim (streamId : ℕ) : Contract ℤ := do
  requireNotGloballyPaused
  let stream ← loadStream streamId
  rejectIf (stream.status = .completed ∨ stream.status = .cancelled) (.error .invalidState)
  let now ← currentAccrualTimestamp
  rejectIf (now < stream.endTime) (.error .invalidState)
  let destination ← peek fun s => s.autoClaimDestination streamId
  let destination ← getOrReject destination (.error .invalidParams)
  let valid ← isValidDestination destination
  rejectIf (valid = false) (.error .invalidParams)
  let withdrawable := stream.claimable now
  if withdrawable = 0 then return 0
  else do
    let paid := stream.autoClaimedTo
      ((i128.check (stream.withdrawnAmount + withdrawable)).getD i128.upper)
    -- Neither the liabilities nor the ledger of the last withdrawal are updated.
    saveStream paid
    reconcilePausedStreamCount stream.status paid.status
    publish (.acTrig streamId destination withdrawable)
    publish (.withdrewTo streamId stream.recipient destination withdrawable)
    if paid.status = .completed then publish (.completed streamId)
    acquireReentrancyLock
    pushToken destination withdrawable [⟨streamId, .autoClaim, withdrawable⟩]
    releaseReentrancyLock
    return withdrawable

/-! ## Templates -/

def validateTemplateDelays (startDelay cliffDelay duration : ℕ) : Contract Unit := do
  rejectIf (duration = 0) (.error .invalidParams)
  rejectIf (cliffDelay < startDelay) (.error .invalidParams)
  let current ← ask Env.timestamp
  let startTime ← checkedAddU64 current startDelay .invalidParams
  let cliffTime ← checkedAddU64 current cliffDelay .invalidParams
  let endTime ← checkedAddU64 startTime duration .invalidParams
  rejectIf (endTime < cliffTime) (.error .invalidParams)

def saveStreamTemplate (templateId : ℕ) (template : Option StreamScheduleTemplate) :
    Contract Unit :=
  update fun s =>
    { s with streamTemplate := Function.update s.streamTemplate templateId template }

def saveOwnerTemplateIds (owner : Address) (ids : List ℕ) : Contract Unit :=
  update fun s => { s with ownerTemplateIds := Function.update s.ownerTemplateIds owner ids }

def setActiveTemplateCount (count : ℕ) : Contract Unit :=
  update fun s => { s with activeTemplateCount := count }

def setNextTemplateId (id : ℕ) : Contract Unit :=
  update fun s => { s with nextTemplateId := id }

def registerStreamTemplate (owner : Address) (startDelay cliffDelay duration : ℕ) :
    Contract ℕ := do
  requireAuth owner
  validateTemplateDelays startDelay cliffDelay duration
  let ids ← peek fun s => s.ownerTemplateIds owner
  rejectIf (maxTemplatesPerOwner ≤ ids.length) (.error .templateLimitExceeded)
  let active ← peek State.activeTemplateCount
  rejectIf (maxGlobalTemplates ≤ active) (.error .templateLimitExceeded)
  let templateId ← peek State.nextTemplateId
  let template : StreamScheduleTemplate :=
    { templateId, owner, startDelay, cliffDelay, duration }
  saveStreamTemplate templateId (some template)
  saveOwnerTemplateIds owner (ids ++ [templateId])
  let nextTemplateId ← plainAddU64 templateId 1
  setNextTemplateId nextTemplateId
  let activeCount ← plainAddU64 active 1
  setActiveTemplateCount activeCount
  publish (.tmplDef template)
  return templateId

def removeTemplateIdForOwner (owner : Address) (templateId : ℕ) : Contract Unit := do
  let ids ← peek fun s => s.ownerTemplateIds owner
  match binarySearch ids templateId with
  | .ok position => saveOwnerTemplateIds owner (ids.eraseIdx position)
  | .error _ => reject (.error .templateNotFound)

def deleteStreamTemplate (owner : Address) (templateId : ℕ) : Contract Unit := do
  requireAuth owner
  let template ← peek fun s => s.streamTemplate templateId
  let template ← getOrReject template (.error .templateNotFound)
  rejectIf (template.owner ≠ owner) (.error .templateUnauthorized)
  saveStreamTemplate templateId none
  removeTemplateIdForOwner owner templateId
  let active ← peek State.activeTemplateCount
  setActiveTemplateCount (active - 1)

/-! ## Id reservations -/

def reserveStreamIds (caller : Address) (count : ℕ) (expiry : Option ℕ) :
    Contract (List ℕ) := do
  requireAuth caller
  rejectIf (count = 0) (.error .reservationCountZero)
  rejectIf (maxIdReservation < count) (.error .reservationLimitExceeded)
  let startId ← peek State.nextStreamId
  let next ← plainAddU64 startId count
  setStreamCount next
  saveIdReservation caller { startId, count, consumed := 0, expiry }
  return (List.range count).map (startId + ·)

def releaseIdReservation (caller : Address) : Contract Unit := do
  requireAuth caller
  removeIdReservation caller

def releaseReservation (holder : Address) (res : IdReservation) : Contract Unit := do
  -- The bounds of a stored reservation never exceed the counter, so the sums cannot overflow.
  let unconsumedStart := res.startId + res.consumed
  let reservationEnd := res.startId + res.count
  let currentCount ← peek State.nextStreamId
  let reclaims := decide (reservationEnd = currentCount ∧ unconsumedStart < reservationEnd)
  if reclaims = true then setStreamCount unconsumedStart
  removeIdReservation holder
  publish (.resRel holder res.startId res.count res.consumed
    (if reclaims = true then reservationEnd - unconsumedStart else 0))

def reclaimExpiredIdReservation (holder : Address) : Contract Unit := do
  let reservation ← peek fun s => s.idReservation holder
  let res ← getOrReject reservation (.error .reservationNotFound)
  let expiry ← getOrReject res.expiry (.error .reservationNotExpirable)
  let now ← ask Env.timestamp
  rejectIf (now < expiry) (.error .reservationStillActive)
  releaseReservation holder res

end Wallie.StreamContract
