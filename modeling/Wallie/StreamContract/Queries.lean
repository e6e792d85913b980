import Wallie.StreamContract.Withdraw

/-!
# Read-only queries

The queries that change nothing the contract stores, with the checks and the
cases of the source. Storage lifetimes are extended by some of them and are not
modelled.
-/

namespace Wallie.StreamContract

open Fallible

/-! ## Amounts -/

/-- The claimable amount at any instant. Nothing stops the accrual of a paused stream, and that
of a cancelled one stops at its cancellation. -/
def getClaimableAt (streamId timestamp : ℕ) : Contract ℤ := do
  let stream ← loadStream streamId
  if stream.status = .completed then return 0
  else do
    let effectiveTime ←
      if stream.status = .cancelled then do
        let cancelledAt ← getOrReject stream.cancelledAt (.error .invalidState)
        pure (min timestamp cancelledAt)
      else pure timestamp
    let claimable ← plainI128 (stream.accruedAt effectiveTime - stream.withdrawnAmount)
    return if 0 < claimable then claimable else 0

/-! ## Pages of the recipient index -/

def recipientStreamsPageLimit : ℕ := 100

structure Page where
  streamIds : List ℕ
  nextCursor : ℕ
  deriving DecidableEq, Repr

/-- Where the page after `cursor` starts. -/
def pageStart (streams : List ℕ) (cursor : ℕ) : ℕ :=
  if cursor = 0 then 0
  else match binarySearch streams cursor with
    | .ok position => position + 1
    | .error position => position

def getRecipientStreamsPaginated (recipient : Address) (cursor limit : ℕ) : Contract Page := do
  let streams ← peek fun s => s.recipientStreams recipient
  let effectiveLimit := min limit recipientStreamsPageLimit
  let startIdx := pageStart streams cursor
  rejectIf (u32.upper < (startIdx + effectiveLimit : ℕ)) .trap
  let endIdx := min (startIdx + effectiveLimit) streams.length
  let nextCursor ←
    if endIdx < streams.length then getOrReject streams[endIdx]? .trap else pure 0
  return { streamIds := (streams.drop startIdx).take (endIdx - startIdx), nextCursor }

/-! ## Ranges of stream ids -/

def maxPageSize : ℕ := 100

/-- The loop over `current_id`, with `remaining` ids left in the range. An id without a stream is
skipped. -/
def collectStreams (pageSize : ℕ) : ℕ → ℕ → List Stream → Contract (List Stream)
  | 0, _, result => pure result
  | remaining + 1, currentId, result =>
      if pageSize ≤ result.length then return result
      else do
        let stream ← peek fun s => s.streams currentId
        let next ← plainAddU64 currentId 1
        collectStreams pageSize remaining next (result ++ stream.toList)

def getStreamsByIdRange (startId endId limit : ℕ) : Contract (List Stream) := do
  let pageSize := min limit maxPageSize
  if endId < startId ∨ pageSize = 0 then return []
  else do
    let totalCount ← peek State.nextStreamId
    let effectiveEnd := min endId totalCount
    collectStreams pageSize (effectiveEnd + 1 - startId) startId []

/-! ## Pause flags -/

structure PauseInfo where
  isPaused : Bool
  reason : Option String
  pausedAt : Option ℕ
  pausedBy : Option Address
  deriving DecidableEq, Repr

def isPaused : Contract Bool :=
  isProtocolPaused

def getPauseInfo : Contract PauseInfo := do
  let paused ← isProtocolPaused
  if paused = true then
    peek fun s => {
      isPaused := true
      reason := s.globalPauseReason
      pausedAt := s.globalPauseTimestamp
      pausedBy := s.globalPauseAdmin }
  else return { isPaused := false, reason := none, pausedAt := none, pausedBy := none }

/-! ## Metadata -/

def maxMetadataKeys : ℕ := 8

def maxMetadataBytes : ℕ := 512

def maxMetadataKeyBytes : ℕ := 32

def maxMetadataValueBytes : ℕ := 128

/-- The entries from `totalBytes` on. The sum cannot leave `u32`: an entry adds at most 160. -/
def validateEntries (totalBytes : ℕ) : Metadata → Except ContractError Unit
  | [] => .ok ()
  | (key, value) :: entries =>
      if maxMetadataKeyBytes < key.length then .error .metadataTooLarge
      else if maxMetadataValueBytes < value.length then .error .metadataTooLarge
      else if maxMetadataBytes < totalBytes + key.length + value.length then
        .error .metadataTooLarge
      else validateEntries (totalBytes + key.length + value.length) entries

/-- The size check of a metadata map. No creation calls it. -/
def validateMetadata (metadata : Metadata) : Except ContractError Unit :=
  if maxMetadataKeys < metadata.length then .error .metadataTooLarge
  else validateEntries 0 metadata

def getStreamMetadata (streamId : ℕ) : Contract (Option Metadata) := do
  let stream ← loadStream streamId
  return stream.metadata

end Wallie.StreamContract
