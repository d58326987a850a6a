import LibraGovernor.Lib.Table
import LibraGovernor.Lib.Run
import LibraGovernor.Domain.Clock
import LibraGovernor.Domain.SharedPool
import LibraGovernor.Ledger.SharedPool
import LibraGovernor.Ledger.Transitions
import LibraGovernor.Ledger.Lifecycle
import LibraGovernor.Ledger.Oversubscription
import LibraGovernor.Domain.TaskBudget
import LibraGovernor.Ledger.TaskLedger
import LibraGovernor.Ledger.TaskTransitions
import LibraGovernor.Ledger.ReserveConservation
import LibraGovernor.Gateway.Pricing
import LibraGovernor.Lib.Procedure
import LibraGovernor.Daemon.SharedBudget
import LibraGovernor.Daemon.Gateway
import LibraGovernor.Daemon.GatewayCap
import LibraGovernor.Ledger.Retention
import LibraGovernor.Daemon.Charge
import LibraGovernor.Daemon.ChargeOnce
import LibraGovernor.Daemon.Transcript
import LibraGovernor.Daemon.Baseline
import LibraGovernor.Daemon.TranscriptTotal
import LibraGovernor.Daemon.Admit
import LibraGovernor.Daemon.Settle
import LibraGovernor.Daemon.CodexSettle
import LibraGovernor.Daemon.Turns
import LibraGovernor.Daemon.Admission
import LibraGovernor.Daemon.PromptBinding
import LibraGovernor.Domain.Policy
import LibraGovernor.Ledger.Trajectory
import LibraGovernor.Ledger.Attestation
import LibraGovernor.Daemon.Legacy
import LibraGovernor.Daemon.PlanAdmission
import LibraGovernor.Daemon.Envelope
import LibraGovernor.Daemon.Agreement
import LibraGovernor.Lib.Windows
import LibraGovernor.Usage.Window
import LibraGovernor.Daemon.LegacyWrites
import LibraGovernor.Daemon.ReceiptWindows
import LibraGovernor.Ledger.Expiry
import LibraGovernor.Ledger.Reports
import LibraGovernor.Ledger.Snapshots
import LibraGovernor.Daemon.Check
import LibraGovernor.Daemon.LaunchGate
import LibraGovernor.Daemon.LaunchSlots
import LibraGovernor.Daemon.CodexTotal
import LibraGovernor.Daemon.Outbox
import LibraGovernor.Daemon.Plausible
import LibraGovernor.Daemon.LaneMark
import LibraGovernor.Domain.QuotaWindow
import LibraGovernor.Domain.WindowEvidence
import LibraGovernor.Domain.WindowSpend
import LibraGovernor.Domain.WindowOrder
import LibraGovernor.Domain.WindowRelief
import LibraGovernor.Domain.BucketRelief
import LibraGovernor.Lib.Fields
import LibraGovernor.Lib.Json
import LibraGovernor.Daemon.ConfigRoundTrip
import LibraGovernor.Domain.BusinessContext
import LibraGovernor.Domain.Pacing
import LibraGovernor.Domain.Forecast
import LibraGovernor.Domain.Pacer
import LibraGovernor.Domain.Simulate
import LibraGovernor.Domain.EarliestSafe
import LibraGovernor.Domain.EconomicEvent
import LibraGovernor.Domain.EconomicIngest
import LibraGovernor.Lib.Forest
import LibraGovernor.Domain.EconomicRollup
import LibraGovernor.Lib.CivilTime
import LibraGovernor.Domain.Zone
import LibraGovernor.Domain.Month
import LibraGovernor.Domain.QuotaWire
import LibraGovernor.Domain.WindowDecode
import LibraGovernor.Domain.WindowTotal
import LibraGovernor.Cli.ClaudeSettings
import LibraGovernor.Cli.CodexHooksFile
import LibraGovernor.Domain.PolicyExact
import LibraGovernor.Domain.SnapshotBinding
import LibraGovernor.Domain.WorkingHours
import LibraGovernor.Estimator.Bucketed
import LibraGovernor.Ledger.LastTouch
import LibraGovernor.Ledger.Reconcile
import LibraGovernor.Ledger.Renewal
import LibraGovernor.Lib.Split
import LibraGovernor.Usage.ScanLines
import LibraGovernor.Lib.Rounds
import LibraGovernor.Daemon.Keys
import LibraGovernor.Daemon.WriteLock
import LibraGovernor.Lib.JsonText
import LibraGovernor.Protocol.BoundedJson
import LibraGovernor.Daemon.SubagentSweep
import LibraGovernor.Domain.PacerLives
import LibraGovernor.Daemon.GatewayPool
