import TradingKernel.Lib.Text
import TradingKernel.Lib.Sha256
import TradingKernel.Lib.CanonicalJson
import TradingKernel.Lib.Guard
import TradingKernel.Lib.Run
import TradingKernel.Lib.Windows
import TradingKernel.Lib.Links
import TradingKernel.Lib.StampedStore
import TradingKernel.Lib.Crossing
import TradingKernel.Domain.Identities
import TradingKernel.Domain.PostFillRisk
import TradingKernel.Domain.Ticket
import TradingKernel.Domain.CrossMarginStress
import TradingKernel.Lib.JoinedLines
import TradingKernel.Domain.StressEvaluation
import TradingKernel.Domain.StressInterval
import TradingKernel.Domain.Selection.Source
import TradingKernel.Domain.Selection.Features
import TradingKernel.Domain.Selection.Snapshot
import TradingKernel.Domain.Selection.Hysteresis
import TradingKernel.Domain.Selection.Validity
import TradingKernel.Domain.Recovery.Episode
import TradingKernel.Domain.Recovery.Rebase
import TradingKernel.Domain.Recovery.RisingEdge
import TradingKernel.Domain.Recovery.ComparisonEdge
import TradingKernel.Domain.Recovery.Steps
import TradingKernel.Domain.Recovery.FreshEdge
import TradingKernel.Domain.Recovery.EntryGates
import TradingKernel.Domain.Selection.SessionAuthority
import TradingKernel.Application.EntryAuthority
import TradingKernel.Domain.Aggregate
import TradingKernel.Domain.Effects
import TradingKernel.Domain.Events
import TradingKernel.Domain.Reducer.Transition
import TradingKernel.Domain.Commands
import TradingKernel.Domain.VacuumLateFill
import TradingKernel.Domain.Reducer.Families
import TradingKernel.Domain.Reducer.Entry
import TradingKernel.Domain.Reducer.Vacuum
import TradingKernel.Domain.Reducer.Protection
import TradingKernel.Domain.Reducer.Closing
import TradingKernel.Domain.Reducer
import TradingKernel.Domain.Position
import TradingKernel.Domain.Moves
import TradingKernel.Lifecycle.Runs
import TradingKernel.Lifecycle.Replay
import TradingKernel.Lifecycle.CapitalRelease
import TradingKernel.Lifecycle.FillMemory
import TradingKernel.Lifecycle.StressGate
import TradingKernel.Lifecycle.Coverage
import TradingKernel.Lifecycle.OrderAccounting
import TradingKernel.Lifecycle.OrderNames
import TradingKernel.Application.NextEvent
import TradingKernel.Application.ReconcileTicket
import TradingKernel.Lifecycle.PlannerAgreement
import TradingKernel.Lib.Table
import TradingKernel.Domain.Detectors.Market
import TradingKernel.Domain.Detectors.Registry
import TradingKernel.Domain.Detectors.Detector
import TradingKernel.Domain.Detectors.Hourly
import TradingKernel.Domain.Detectors.Session
import TradingKernel.Domain.Detectors.WindowIndependence
import TradingKernel.Domain.Requests
import TradingKernel.Infrastructure.CommandTable
import TradingKernel.Infrastructure.PositionStore
import TradingKernel.Infrastructure.CommitReduction
import TradingKernel.Infrastructure.Materialised
import TradingKernel.Infrastructure.CommitReturns
import TradingKernel.Application.DispatchCommand
import TradingKernel.Application.AwaitedCommands
import TradingKernel.System.Steps
import TradingKernel.Domain.Lane
import TradingKernel.Lifecycle.EntryLane
import TradingKernel.Infrastructure.CommandCalls
import TradingKernel.Lifecycle.EntryOnce
import TradingKernel.Lifecycle.ExecutableLegs
import TradingKernel.Lifecycle.ExitQuantities
import TradingKernel.System.CommandClaims
import TradingKernel.Domain.VenueTruth
import TradingKernel.System.VenueAbsence
import TradingKernel.Domain.Sources
import TradingKernel.Lifecycle.DeadEnds
import TradingKernel.Domain.Addressed
import TradingKernel.Domain.IncidentTurns
import TradingKernel.Lifecycle.OutcomeIncidents
import TradingKernel.Lib.Grid
import TradingKernel.Domain.BreakEven
import TradingKernel.Domain.CapacitySizing
import TradingKernel.Infrastructure.AccountStore
import TradingKernel.Application.IssueTicket
import TradingKernel.Infrastructure.AccountReleases
import TradingKernel.System.AccountBalance
import TradingKernel.System.AccountIssue
import TradingKernel.System.AccountLedger
import TradingKernel.Application.RecoverUnknownCommand
import TradingKernel.Application.CommandSlots
import TradingKernel.Application.DrainVacuum
import TradingKernel.Application.RecoverVacuumLateFill
import TradingKernel.Lifecycle.DrainAgreement
import TradingKernel.Interfaces.ReviewSettlement
import TradingKernel.System.Work
import TradingKernel.System.Turns
import TradingKernel.System.Stages
import TradingKernel.System.Staged
import TradingKernel.System.WaitingTickets
import TradingKernel.Lifecycle.OrderNamespaces
import TradingKernel.System.PositionTruth
import TradingKernel.Lifecycle.ReviewLineage
import TradingKernel.Lifecycle.CancelMemory
import TradingKernel.Application.BuildClaim
import TradingKernel.Lib.Regroup
import TradingKernel.Domain.ReviewEconomics
import TradingKernel.Lib.Timeline
import TradingKernel.Domain.SignalPath
import TradingKernel.Domain.Recovery.ClosePlan
import TradingKernel.Lib.FirstSeen
import TradingKernel.Lib.Numeral
import TradingKernel.Infrastructure.FillFacts
import TradingKernel.Lib.SortBy
import TradingKernel.Domain.Selection.GapAudit
import TradingKernel.Application.ComparativeProjection
import TradingKernel.Lib.Scan
import TradingKernel.Domain.Detectors.SessionVerdicts
import TradingKernel.Application.LoadMarket
import TradingKernel.Application.ProduceSignal
import TradingKernel.Interfaces.GapAuditSource
import TradingKernel.Interfaces.ReplayedCloses
import TradingKernel.Interfaces.GapReplay
import TradingKernel.Lib.Decimal
import TradingKernel.Domain.Selection.OpeningRange
import TradingKernel.Domain.Selection.DynamicSelection
import TradingKernel.Domain.Selection.OpeningRangeDecisions
import TradingKernel.Domain.Selection.OpeningRangeSelection
import TradingKernel.Domain.Selection.SessionSelections
import TradingKernel.Domain.ExitPolicy
import TradingKernel.Application.MaintainLifecycle
import TradingKernel.Lifecycle.StopDiscipline
import TradingKernel.Domain.OwnerControl
import TradingKernel.Application.ControlledExit
import TradingKernel.Application.FlattenAll
import TradingKernel.System.FlattenSteps
import TradingKernel.System.FlattenSaga
import TradingKernel.System.FlatAccount
