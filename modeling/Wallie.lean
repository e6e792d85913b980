import Wallie.Deployment.Custody
import Wallie.Deployment.Parts
import Wallie.Deployment.Script
import Wallie.Deployment.Steps
import Wallie.Deployment.System
import Wallie.Factory.Contract
import Wallie.Factory.Queries
import Wallie.Factory.Runs
import Wallie.Factory.Settings
import Wallie.Factory.Types
import Wallie.Governance.Backing
import Wallie.Governance.Ballots
import Wallie.Governance.Contract
import Wallie.Governance.Evolution
import Wallie.Governance.History
import Wallie.Governance.Runs
import Wallie.Governance.Types
import Wallie.Ledger.AccrualView
import Wallie.Ledger.Announced
import Wallie.Ledger.Book
import Wallie.Ledger.BookInvariant
import Wallie.Ledger.Controls
import Wallie.Ledger.Coverage
import Wallie.Ledger.CreateRules
import Wallie.Ledger.Creations
import Wallie.Ledger.Emissions
import Wallie.Ledger.Entitlement
import Wallie.Ledger.FrozenShare
import Wallie.Ledger.Liabilities
import Wallie.Ledger.Move
import Wallie.Ledger.OwedTotal
import Wallie.Ledger.Payments
import Wallie.Ledger.Projection
import Wallie.Ledger.Records
import Wallie.Ledger.RefineBulkCancel
import Wallie.Ledger.RefineCreate
import Wallie.Ledger.RefineLifecycle
import Wallie.Ledger.RefineRegistry
import Wallie.Ledger.RefineRun
import Wallie.Ledger.RefineSchedule
import Wallie.Ledger.RefineWithdraw
import Wallie.Ledger.Rotations
import Wallie.Ledger.RunInvariant
import Wallie.Ledger.StreamRegistry
import Wallie.Ledger.Transfers
import Wallie.Ledger.WellFormed
import Wallie.Lib.AscendingList
import Wallie.Lib.AuditedLog
import Wallie.Lib.Avoids
import Wallie.Lib.Bounded
import Wallie.Lib.CappedAccrual
import Wallie.Lib.EventLog
import Wallie.Lib.Fallible
import Wallie.Lib.HandoverLog
import Wallie.Lib.IndexedList
import Wallie.Lib.Keeps
import Wallie.Lib.KeyRange
import Wallie.Lib.KeyedCount
import Wallie.Lib.KeyedSum
import Wallie.Lib.LabelledRun
import Wallie.Lib.ReplayedLog
import Wallie.Lib.Simulation
import Wallie.Lib.TimedRun
import Wallie.Lib.TraceRefinement
import Wallie.Properties.AccrualExact
import Wallie.Properties.AdaptiveTtl
import Wallie.Properties.AutoClaim
import Wallie.Properties.AutoClaimStatus
import Wallie.Properties.BatchCreation
import Wallie.Properties.BatchIds
import Wallie.Properties.BatchWithdraw
import Wallie.Properties.BeforeStart
import Wallie.Properties.BookRefinement
import Wallie.Properties.BulkCancel
import Wallie.Properties.CancelSplit
import Wallie.Properties.Consent
import Wallie.Properties.Conservation
import Wallie.Properties.CouncilDecides
import Wallie.Properties.CursorPaging
import Wallie.Properties.CursorReader
import Wallie.Properties.DelegatedNonce
import Wallie.Properties.DustRule
import Wallie.Properties.EffectsFirst
import Wallie.Properties.EmergencyPause
import Wallie.Properties.EventReplay
import Wallie.Properties.ExecutableView
import Wallie.Properties.FactoryAudit
import Wallie.Properties.FactoryBatch
import Wallie.Properties.FactoryPolicy
import Wallie.Properties.FactoryRegistry
import Wallie.Properties.FactoryStreams
import Wallie.Properties.FactoryViews
import Wallie.Properties.FixedTerms
import Wallie.Properties.ForwardAccrual
import Wallie.Properties.Funding
import Wallie.Properties.GovernanceAudit
import Wallie.Properties.GovernanceExecution
import Wallie.Properties.GovernanceQuorum
import Wallie.Properties.GovernanceRecords
import Wallie.Properties.GovernedParameters
import Wallie.Properties.HealthEvents
import Wallie.Properties.HealthView
import Wallie.Properties.HolderSafety
import Wallie.Properties.InstanceStorage
import Wallie.Properties.KeeperSettlement
import Wallie.Properties.KeeperSplit
import Wallie.Properties.Liabilities
import Wallie.Properties.Lifecycle
import Wallie.Properties.MetadataLoss
import Wallie.Properties.PartialBatch
import Wallie.Properties.PauseToggles
import Wallie.Properties.PausedCount
import Wallie.Properties.PayoutPaths
import Wallie.Properties.ProposalLifecycle
import Wallie.Properties.ProposalPages
import Wallie.Properties.ProtocolPause
import Wallie.Properties.RangeQueries
import Wallie.Properties.RateCap
import Wallie.Properties.RateChanges
import Wallie.Properties.RecipientIndex
import Wallie.Properties.Reforms
import Wallie.Properties.RotationHistory
import Wallie.Properties.ScheduleDecides
import Wallie.Properties.ScheduleEnd
import Wallie.Properties.SelfStreaming
import Wallie.Properties.Solvency
import Wallie.Properties.StreamIds
import Wallie.Properties.Templates
import Wallie.Properties.TwoStepRotation
import Wallie.Properties.WindUp
import Wallie.Properties.WithdrawableViews
import Wallie.Properties.WithdrawalInterval
import Wallie.Properties.Withdrawals
import Wallie.StreamContract.Accrual
import Wallie.StreamContract.Admin
import Wallie.StreamContract.Authority
import Wallie.StreamContract.Create
import Wallie.StreamContract.EntrypointWrites
import Wallie.StreamContract.Entrypoints
import Wallie.StreamContract.Indexer
import Wallie.StreamContract.Lifecycle
import Wallie.StreamContract.LifecycleRules
import Wallie.StreamContract.Lifetimes
import Wallie.StreamContract.Queries
import Wallie.StreamContract.Registry
import Wallie.StreamContract.Schedule
import Wallie.StreamContract.ScheduleRules
import Wallie.StreamContract.Script
import Wallie.StreamContract.Spares
import Wallie.StreamContract.Storage
import Wallie.StreamContract.StorageRules
import Wallie.StreamContract.TokenRules
import Wallie.StreamContract.Types
import Wallie.StreamContract.Views
import Wallie.StreamContract.Withdraw
import Wallie.StreamContract.WithdrawRules
import Wallie.StreamContract.Writes
