import Wallie.Lib.TimedRun
import Wallie.StreamContract.Admin
import Wallie.StreamContract.Create
import Wallie.StreamContract.Lifecycle
import Wallie.StreamContract.Views

/-!
# Entrypoints and runs

A call names an entrypoint with its arguments. The contract as a clocked system
starts from a successful `init` on empty storage and takes inputs one at a time:
an invocation, which either succeeds or leaves the state alone, or activity of
the token that the contract takes no part in.
-/

namespace Wallie.StreamContract

open Fallible

/-- The entrypoints that can write to the storage of the contract. Replacing the code of the
contract is not one of them. -/
inductive Call where
  | init (token admin : Address)
  | setAdmin (newAdmin : Address)
  | setMaxRatePerSecond (maxRate : ℤ)
  | setGlobalEmergencyPaused (paused : Bool)
  | globalResume
  | setContractPaused (paused : Bool)
  | pauseProtocol (admin : Address) (reason : Option String)
  | resumeProtocol (admin : Address)
  | sweepExcess (recipient : Address)
  | createStream (sender : Address) (params : CreateStreamParams)
  | createStreamRelative (sender : Address) (params : CreateStreamRelativeParams)
  | createStreams (sender : Address) (streams : List CreateStreamParams)
  | createStreamsRelative (sender : Address) (streamsRelative : List CreateStreamRelativeParams)
  | createStreamsPartial (sender : Address) (streams : List CreateStreamParams)
  | createStreamFromTemplate (sender : Address) (templateId : ℕ) (recipient : Address)
      (depositAmount ratePerSecond withdrawDustThreshold : ℤ) (memo : Option Bytes)
      (metadata : Option Metadata) (kind : StreamKind)
  | cloneStream (streamId : ℕ) (newRecipient : Address) (startTime endTime : ℕ) (deposit : ℤ)
      (force : Bool)
  | withdraw (streamId : ℕ)
  | withdrawTo (streamId : ℕ) (destination : Address)
  | batchWithdraw (recipient : Address) (streamIds : List ℕ)
  | batchWithdrawTo (recipient : Address) (withdrawals : List WithdrawToParam)
  | delegatedWithdraw (streamId : ℕ) (relayer : Address) (recipientPublicKey nonce deadline : ℕ)
      (expectedMinimumAmount : ℤ) (signature : Bytes)
  | triggerAutoClaim (streamId : ℕ)
  | setAutoClaim (streamId : ℕ) (destination : Address)
  | revokeAutoClaim (streamId : ℕ)
  | updateRatePerSecond (streamId : ℕ) (newRatePerSecond : ℤ)
  | decreaseRatePerSecond (streamId : ℕ) (newRatePerSecond : ℤ)
  | shortenStreamEndTime (streamId newEndTime : ℕ)
  | extendStreamEndTime (streamId newEndTime : ℕ)
  | topUpStream (streamId : ℕ) (funder : Address) (amount : ℤ)
  | updateRate (streamId : ℕ) (newRatePerSecond : ℤ) (caller : Address)
  | pauseStream (streamId : ℕ) (reason : PauseReason)
  | pauseStreamAsAdmin (streamId : ℕ) (reason : PauseReason)
  | resumeStream (streamId : ℕ)
  | resumeStreamAsAdmin (streamId : ℕ)
  | cancelStream (streamId : ℕ)
  | cancelStreamAsAdmin (streamId : ℕ)
  | keeperCancel (streamId : ℕ) (keeper : Address)
  | bulkCancelStreams (sender : Address) (streamIds : List ℕ)
  | closeCompletedStream (streamId : ℕ)
  | closeCancelledStream (streamId : ℕ)
  | updateRecipient (streamId : ℕ) (newRecipient : Address)
  | acceptRecipientUpdate (streamId : ℕ)
  | cancelRecipientUpdate (streamId : ℕ)
  | registerStreamTemplate (owner : Address) (startDelay cliffDelay duration : ℕ)
  | deleteStreamTemplate (owner : Address) (templateId : ℕ)
  | reserveStreamIds (caller : Address) (count : ℕ) (expiry : Option ℕ)
  | releaseIdReservation (caller : Address)
  | reclaimExpiredIdReservation (holder : Address)
  | calculateAccrued (streamId : ℕ)
  | getWithdrawable (streamId : ℕ)
  | getStreamHealth (streamId : ℕ)
  | getAutoClaimStatus (streamId : ℕ)

/-- Run a computation for its effect. -/
def effect {α : Type} (computation : Contract α) : Contract Unit := do
  let _ ← computation
  return ()

theorem runs_effect {α : Type} {computation : Contract α} {env : Env} {s s' : State} {done : Unit} :
    Runs (effect computation) env s done s' ↔ ∃ result, Runs computation env s result s' := by
  simp only [effect, runs_bind, runs_pure]
  constructor
  · rintro ⟨result, _, run, -, rfl⟩
    exact ⟨result, run⟩
  · rintro ⟨result, run⟩
    exact ⟨result, s', run, trivial, rfl⟩

def Call.run : Call → Contract Unit
  | init token admin => StreamContract.init token admin
  | setAdmin newAdmin => StreamContract.setAdmin newAdmin
  | setMaxRatePerSecond maxRate => StreamContract.setMaxRatePerSecond maxRate
  | setGlobalEmergencyPaused paused => StreamContract.setGlobalEmergencyPaused paused
  | globalResume => StreamContract.globalResume
  | setContractPaused paused => StreamContract.setContractPaused paused
  | pauseProtocol admin reason => StreamContract.pauseProtocol admin reason
  | resumeProtocol admin => StreamContract.resumeProtocol admin
  | sweepExcess recipient => effect (StreamContract.sweepExcess recipient)
  | createStream sender params => effect (StreamContract.createStream sender params)
  | createStreamRelative sender params =>
      effect (StreamContract.createStreamRelative sender params)
  | createStreams sender streams => effect (StreamContract.createStreams sender streams)
  | createStreamsRelative sender streamsRelative =>
      effect (StreamContract.createStreamsRelative sender streamsRelative)
  | createStreamsPartial sender streams =>
      effect (StreamContract.createStreamsPartial sender streams)
  | createStreamFromTemplate sender templateId recipient depositAmount ratePerSecond
      withdrawDustThreshold memo metadata kind =>
      effect (StreamContract.createStreamFromTemplate sender templateId recipient depositAmount
        ratePerSecond withdrawDustThreshold memo metadata kind)
  | cloneStream streamId newRecipient startTime endTime deposit force =>
      effect (StreamContract.cloneStream streamId newRecipient startTime endTime deposit force)
  | withdraw streamId => effect (StreamContract.withdraw streamId)
  | withdrawTo streamId destination => effect (StreamContract.withdrawTo streamId destination)
  | batchWithdraw recipient streamIds =>
      effect (StreamContract.batchWithdraw recipient streamIds)
  | batchWithdrawTo recipient withdrawals =>
      effect (StreamContract.batchWithdrawTo recipient withdrawals)
  | delegatedWithdraw streamId relayer recipientPublicKey nonce deadline expectedMinimumAmount
      signature =>
      effect (StreamContract.delegatedWithdraw streamId relayer recipientPublicKey nonce deadline
        expectedMinimumAmount signature)
  | triggerAutoClaim streamId => effect (StreamContract.triggerAutoClaim streamId)
  | setAutoClaim streamId destination => StreamContract.setAutoClaim streamId destination
  | revokeAutoClaim streamId => StreamContract.revokeAutoClaim streamId
  | updateRatePerSecond streamId newRatePerSecond =>
      StreamContract.updateRatePerSecond streamId newRatePerSecond
  | decreaseRatePerSecond streamId newRatePerSecond =>
      StreamContract.decreaseRatePerSecond streamId newRatePerSecond
  | shortenStreamEndTime streamId newEndTime =>
      StreamContract.shortenStreamEndTime streamId newEndTime
  | extendStreamEndTime streamId newEndTime =>
      StreamContract.extendStreamEndTime streamId newEndTime
  | topUpStream streamId funder amount => StreamContract.topUpStream streamId funder amount
  | updateRate streamId newRatePerSecond caller =>
      StreamContract.updateRate streamId newRatePerSecond caller
  | pauseStream streamId reason => StreamContract.pauseStream streamId reason
  | pauseStreamAsAdmin streamId reason => StreamContract.pauseStreamAsAdmin streamId reason
  | resumeStream streamId => StreamContract.resumeStream streamId
  | resumeStreamAsAdmin streamId => StreamContract.resumeStreamAsAdmin streamId
  | cancelStream streamId => StreamContract.cancelStream streamId
  | cancelStreamAsAdmin streamId => StreamContract.cancelStreamAsAdmin streamId
  | keeperCancel streamId keeper => StreamContract.keeperCancel streamId keeper
  | bulkCancelStreams sender streamIds => StreamContract.bulkCancelStreams sender streamIds
  | closeCompletedStream streamId => StreamContract.closeCompletedStream streamId
  | closeCancelledStream streamId => StreamContract.closeCancelledStream streamId
  | updateRecipient streamId newRecipient =>
      StreamContract.updateRecipient streamId newRecipient
  | acceptRecipientUpdate streamId => StreamContract.acceptRecipientUpdate streamId
  | cancelRecipientUpdate streamId => StreamContract.cancelRecipientUpdate streamId
  | registerStreamTemplate owner startDelay cliffDelay duration =>
      effect (StreamContract.registerStreamTemplate owner startDelay cliffDelay duration)
  | deleteStreamTemplate owner templateId =>
      StreamContract.deleteStreamTemplate owner templateId
  | reserveStreamIds caller count expiry =>
      effect (StreamContract.reserveStreamIds caller count expiry)
  | releaseIdReservation caller => StreamContract.releaseIdReservation caller
  | reclaimExpiredIdReservation holder => StreamContract.reclaimExpiredIdReservation holder
  | calculateAccrued streamId => effect (StreamContract.calculateAccrued streamId)
  | getWithdrawable streamId => effect (StreamContract.getWithdrawable streamId)
  | getStreamHealth streamId => effect (StreamContract.getStreamHealth streamId)
  | getAutoClaimStatus streamId => effect (StreamContract.getAutoClaimStatus streamId)

/-- The call returns without an error or a trap. -/
def Call.Succeeds (call : Call) (env : Env) (s : State) : Prop :=
  ∃ s', Runs call.run env s () s'

theorem Call.not_succeeds {call : Call} {env : Env} {s : State} {failure : Failure}
    (failed : call.run env s = .error failure) : ¬ call.Succeeds env s := by
  rintro ⟨s', run⟩
  have impossible : Except.error failure = Except.ok ((), s') := failed.symm.trans run
  cases impossible

instance (call : Call) (env : Env) (s : State) : Decidable (call.Succeeds env s) :=
  match ran : call.run env s with
  | .ok ((), s') => isTrue ⟨s', ran⟩
  | .error _ => isFalse (Call.not_succeeds ran)

/-! ## Machine ranges of the arguments -/

structure CreateStreamParams.WellTyped (params : CreateStreamParams) : Prop where
  depositAmount : i128.Contains params.depositAmount
  ratePerSecond : i128.Contains params.ratePerSecond
  startTime : u64.Contains params.startTime
  cliffTime : u64.Contains params.cliffTime
  endTime : u64.Contains params.endTime
  withdrawDustThreshold : ∀ threshold ∈ params.withdrawDustThreshold, i128.Contains threshold

structure CreateStreamRelativeParams.WellTyped (params : CreateStreamRelativeParams) :
    Prop where
  depositAmount : i128.Contains params.depositAmount
  ratePerSecond : i128.Contains params.ratePerSecond
  startDelay : u64.Contains params.startDelay
  cliffDelay : u64.Contains params.cliffDelay
  duration : u64.Contains params.duration
  withdrawDustThreshold : ∀ threshold ∈ params.withdrawDustThreshold, i128.Contains threshold

/-- The integer arguments of a call are values of their machine types. -/
def Call.WellTyped : Call → Prop
  | createStream _ params => params.WellTyped
  | createStreamRelative _ params => params.WellTyped
  | createStreams _ streams => ∀ params ∈ streams, params.WellTyped
  | createStreamsRelative _ streamsRelative => ∀ params ∈ streamsRelative, params.WellTyped
  | createStreamsPartial _ streams => ∀ params ∈ streams, params.WellTyped
  | createStreamFromTemplate _ templateId _ depositAmount ratePerSecond withdrawDustThreshold
      _ _ _ =>
      u64.Contains templateId ∧ i128.Contains depositAmount ∧ i128.Contains ratePerSecond ∧
        i128.Contains withdrawDustThreshold
  | cloneStream streamId _ startTime endTime deposit _ =>
      u64.Contains streamId ∧ u64.Contains startTime ∧ u64.Contains endTime ∧
        i128.Contains deposit
  | batchWithdraw _ streamIds => ∀ id ∈ streamIds, u64.Contains id
  | batchWithdrawTo _ withdrawals => ∀ param ∈ withdrawals, u64.Contains param.streamId
  | delegatedWithdraw streamId _ _ nonce deadline expectedMinimumAmount _ =>
      u64.Contains streamId ∧ u64.Contains nonce ∧ u64.Contains deadline ∧
        i128.Contains expectedMinimumAmount
  | updateRatePerSecond streamId rate | decreaseRatePerSecond streamId rate
  | updateRate streamId rate _ => u64.Contains streamId ∧ i128.Contains rate
  | shortenStreamEndTime streamId newEndTime | extendStreamEndTime streamId newEndTime =>
      u64.Contains streamId ∧ u64.Contains newEndTime
  | topUpStream streamId _ amount => u64.Contains streamId ∧ i128.Contains amount
  | bulkCancelStreams _ streamIds => ∀ id ∈ streamIds, u64.Contains id
  | setMaxRatePerSecond maxRate => i128.Contains maxRate
  | registerStreamTemplate _ startDelay cliffDelay duration =>
      u64.Contains startDelay ∧ u64.Contains cliffDelay ∧ u64.Contains duration
  | deleteStreamTemplate _ templateId => u64.Contains templateId
  | reserveStreamIds _ count expiry => u32.Contains count ∧ ∀ limit ∈ expiry, u64.Contains limit
  | withdraw streamId | withdrawTo streamId _ | triggerAutoClaim streamId
  | setAutoClaim streamId _ | revokeAutoClaim streamId | pauseStream streamId _
  | pauseStreamAsAdmin streamId _ | resumeStream streamId | resumeStreamAsAdmin streamId
  | cancelStream streamId | cancelStreamAsAdmin streamId | keeperCancel streamId _
  | closeCompletedStream streamId | closeCancelledStream streamId | updateRecipient streamId _
  | acceptRecipientUpdate streamId | cancelRecipientUpdate streamId
  | calculateAccrued streamId | getWithdrawable streamId | getStreamHealth streamId
  | getAutoClaimStatus streamId => u64.Contains streamId
  | _ => True

instance (params : CreateStreamParams) : Decidable params.WellTyped :=
  decidable_of_iff (i128.Contains params.depositAmount ∧ i128.Contains params.ratePerSecond ∧
      u64.Contains params.startTime ∧ u64.Contains params.cliffTime ∧
      u64.Contains params.endTime ∧
      ∀ threshold ∈ params.withdrawDustThreshold, i128.Contains threshold)
    ⟨fun ⟨deposit, rate, start, cliff, finish, threshold⟩ =>
        ⟨deposit, rate, start, cliff, finish, threshold⟩,
      fun ⟨deposit, rate, start, cliff, finish, threshold⟩ =>
        ⟨deposit, rate, start, cliff, finish, threshold⟩⟩

instance (params : CreateStreamRelativeParams) : Decidable params.WellTyped :=
  decidable_of_iff (i128.Contains params.depositAmount ∧ i128.Contains params.ratePerSecond ∧
      u64.Contains params.startDelay ∧ u64.Contains params.cliffDelay ∧
      u64.Contains params.duration ∧
      ∀ threshold ∈ params.withdrawDustThreshold, i128.Contains threshold)
    ⟨fun ⟨deposit, rate, start, cliff, duration, threshold⟩ =>
        ⟨deposit, rate, start, cliff, duration, threshold⟩,
      fun ⟨deposit, rate, start, cliff, duration, threshold⟩ =>
        ⟨deposit, rate, start, cliff, duration, threshold⟩⟩

instance : DecidablePred Call.WellTyped
  | .createStream _ params => inferInstanceAs (Decidable params.WellTyped)
  | .createStreamRelative _ params => inferInstanceAs (Decidable params.WellTyped)
  | .createStreams _ streams | .createStreamsPartial _ streams =>
      inferInstanceAs (Decidable (∀ params ∈ streams, params.WellTyped))
  | .createStreamsRelative _ streamsRelative =>
      inferInstanceAs (Decidable (∀ params ∈ streamsRelative, params.WellTyped))
  | .createStreamFromTemplate _ _ _ _ _ _ _ _ _ | .cloneStream _ _ _ _ _ _
  | .delegatedWithdraw _ _ _ _ _ _ _ | .updateRatePerSecond _ _ | .decreaseRatePerSecond _ _
  | .updateRate _ _ _ | .shortenStreamEndTime _ _ | .extendStreamEndTime _ _ | .topUpStream _ _ _
  | .registerStreamTemplate _ _ _ _ => inferInstanceAs (Decidable (_ ∧ _))
  | .reserveStreamIds _ count expiry =>
      inferInstanceAs (Decidable (u32.Contains count ∧ ∀ limit ∈ expiry, u64.Contains limit))
  | .batchWithdraw _ streamIds | .bulkCancelStreams _ streamIds =>
      inferInstanceAs (Decidable (∀ id ∈ streamIds, u64.Contains id))
  | .batchWithdrawTo _ withdrawals =>
      inferInstanceAs (Decidable (∀ param ∈ withdrawals, u64.Contains param.streamId))
  | .setMaxRatePerSecond maxRate => inferInstanceAs (Decidable (i128.Contains maxRate))
  | .deleteStreamTemplate _ templateId => inferInstanceAs (Decidable (u64.Contains templateId))
  | .withdraw streamId | .withdrawTo streamId _ | .triggerAutoClaim streamId
  | .setAutoClaim streamId _ | .revokeAutoClaim streamId | .pauseStream streamId _
  | .pauseStreamAsAdmin streamId _ | .resumeStream streamId | .resumeStreamAsAdmin streamId
  | .cancelStream streamId | .cancelStreamAsAdmin streamId | .keeperCancel streamId _
  | .closeCompletedStream streamId | .closeCancelledStream streamId | .updateRecipient streamId _
  | .acceptRecipientUpdate streamId | .cancelRecipientUpdate streamId
  | .calculateAccrued streamId | .getWithdrawable streamId | .getStreamHealth streamId
  | .getAutoClaimStatus streamId => inferInstanceAs (Decidable (u64.Contains streamId))
  | .init _ _ | .setAdmin _ | .setGlobalEmergencyPaused _ | .globalResume | .setContractPaused _
  | .pauseProtocol _ _ | .resumeProtocol _ | .sweepExcess _ | .releaseIdReservation _
  | .reclaimExpiredIdReservation _ => inferInstanceAs (Decidable True)

/-! ## Runs -/

/-- An invocation of the contract at address `address`. The contract never calls itself, so it
never authorises a call. -/
structure Invocation (address : Address) where
  env : Env
  call : Call
  here : env.currentContractAddress = address
  noSelfAuth : env.auth address = false
  timestamp : u64.Contains env.timestamp
  sequence : u32.Contains env.sequence
  wellTyped : call.WellTyped

/-- Who authorised an invocation is not the contract. -/
theorem Invocation.ne_of_auth {address holder : Address} (invocation : Invocation address)
    (authorised : invocation.env.auth holder = true) : holder ≠ address := by
  rintro rfl
  simp [invocation.noSelfAuth] at authorised

/-- What the token does without the contract: any change of balances and allowances that takes
nothing from the contract, since the contract grants nobody an allowance. -/
structure TokenActivity where
  instant : ℕ
  balances : Address → ℤ
  allowances : Address → ℤ
  wellTyped : TokenBalances balances

inductive Input (address : Address) where
  | invoke (invocation : Invocation address)
  | token (activity : TokenActivity)

/-- The contract before its initialisation: storage is empty. -/
def State.deployed (balances allowances : Address → ℤ) : State where
  config := none
  nextStreamId := 0
  globalEmergencyPaused := false
  creationPaused := false
  globalPauseReason := none
  globalPauseTimestamp := none
  globalPauseAdmin := none
  nextTemplateId := 0
  activeTemplateCount := 0
  totalLiabilities := 0
  reentrancyLock := false
  maxRatePerSecond := i128.upper
  lastPauseRecord := none
  lastAccrualLedgerTimestamp := none
  pausedStreamCount := 0
  totalKeeperFeesPaid := 0
  streams := fun _ => none
  recipientStreams := fun _ => []
  autoClaimDestination := fun _ => none
  streamTemplate := fun _ => none
  ownerTemplateIds := fun _ => []
  pendingRecipientUpdate := fun _ => none
  idReservation := fun _ => none
  delegatedWithdrawNonce := fun _ => 0
  rotationHistory := fun _ => []
  balances
  allowances
  events := []
  payouts := []

/-- A successful `init` on empty storage. -/
structure FreshlyInitialised (address : Address) (instant : ℕ) (s : State) : Prop where
  initialised : ∃ env token admin balances allowances,
    env.currentContractAddress = address ∧ env.timestamp = instant ∧ TokenBalances balances ∧
      Runs (StreamContract.init token admin) env (State.deployed balances allowances) () s

/-- One step of the contract. -/
def Input.Steps {address : Address} (s : State) : Input address → State → Prop
  | invoke invocation, s' => s' = invocation.call.run.commit invocation.env s
  | token activity, s' => s.balances address ≤ activity.balances address ∧
      s' = { s with balances := activity.balances, allowances := activity.allowances }

/-- An invocation either succeeds or leaves the contract as it was. -/
theorem Input.Steps.invoke_cases {address : Address} {invocation : Invocation address}
    {s s' : State} (step : Input.Steps s (.invoke invocation) s') :
    Runs invocation.call.run invocation.env s () s' ∨
      ¬ invocation.call.Succeeds invocation.env s ∧ s' = s := by
  change s' = invocation.call.run.commit invocation.env s at step
  rw [step]
  by_cases succeeds : invocation.call.Succeeds invocation.env s
  · rcases succeeds with ⟨after, run⟩
    rw [commit_of_runs run]
    exact Or.inl run
  · exact Or.inr ⟨succeeds, commit_of_fails fun _ after run => succeeds ⟨after, run⟩⟩

def Input.clock {address : Address} : Input address → ℕ
  | invoke invocation => invocation.env.timestamp
  | token activity => activity.instant

/-- The stream contract at address `address`. -/
def system (address : Address) : ClockedSystem State (Input address) ℕ where
  initial := FreshlyInitialised address
  clock := Input.clock
  step := Input.Steps

/-- A restriction on the invocations of a run. -/
def onCalls {address : Address} (permitted : State → Env → Call → Prop) (s : State) :
    Input address → Prop
  | .invoke invocation => permitted s invocation.env invocation.call
  | .token _ => True

/-- The states reached at `now` by runs whose calls are all permitted. -/
abbrev Reachable (address : Address) (permitted : State → Env → Call → Prop) (now : ℕ)
    (s : State) : Prop :=
  (system address).Reachable (onCalls permitted) now s

/-- The states reached by these runs, with the past of the run. -/
abbrev Recorded (address : Address) (permitted : State → Env → Call → Prop)
    (past : List (State × Input address)) (now : ℕ) (s : State) : Prop :=
  (system address).Recorded (onCalls permitted) past now s

/-- A run goes on with a permitted invocation. -/
theorem Reachable.invoke {address : Address} {permitted : State → Env → Call → Prop} {now : ℕ}
    {s : State} (reached : Reachable address permitted now s) (invocation : Invocation address)
    (order : now ≤ invocation.env.timestamp)
    (allowed : permitted s invocation.env invocation.call) :
    Reachable address permitted invocation.env.timestamp
      (invocation.call.run.commit invocation.env s) := by
  have order : now ≤ (system address).clock (.invoke invocation) := order
  have step : (system address).step s (.invoke invocation)
      (invocation.call.run.commit invocation.env s) := rfl
  exact .move reached order allowed step

/-- A run goes on with a permitted invocation that succeeds. -/
theorem Reachable.after {address : Address} {permitted : State → Env → Call → Prop} {now : ℕ}
    {s s' : State} (reached : Reachable address permitted now s)
    {invocation : Invocation address} (order : now ≤ invocation.env.timestamp)
    (allowed : permitted s invocation.env invocation.call)
    (run : Runs invocation.call.run invocation.env s () s') :
    Reachable address permitted invocation.env.timestamp s' := by
  have reached' := reached.invoke invocation order allowed
  rwa [commit_of_runs run] at reached'

/-- No restriction. -/
def anyCall : State → Env → Call → Prop :=
  fun _ _ _ => True

/-- A restriction on the calls that succeed; the others change nothing. -/
def onSuccess (permitted : State → Env → Call → Prop) (s : State) (env : Env) (call : Call) :
    Prop :=
  call.Succeeds env s → permitted s env call

end Wallie.StreamContract
