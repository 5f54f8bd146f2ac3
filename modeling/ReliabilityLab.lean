import ReliabilityLab.Api.RunLocks
import ReliabilityLab.Api.TracePages
import ReliabilityLab.Distribution.DesktopSession
import ReliabilityLab.Domain
import ReliabilityLab.Evaluation.ApprovalCycle
import ReliabilityLab.Evaluation.AttemptHistory
import ReliabilityLab.Evaluation.FailClosed
import ReliabilityLab.Evaluation.Failures
import ReliabilityLab.Evaluation.FaultEvidence
import ReliabilityLab.Evaluation.FaultTargets
import ReliabilityLab.Evaluation.FrozenScripts
import ReliabilityLab.Evaluation.Gate
import ReliabilityLab.Evaluation.GateVerdict
import ReliabilityLab.Evaluation.GenuineOutputs
import ReliabilityLab.Evaluation.GradedTraces
import ReliabilityLab.Evaluation.Graders
import ReliabilityLab.Evaluation.Grading
import ReliabilityLab.Evaluation.Intact
import ReliabilityLab.Evaluation.Models
import ReliabilityLab.Evaluation.Recoveries
import ReliabilityLab.Evaluation.Regrading
import ReliabilityLab.Evaluation.Resilience
import ReliabilityLab.Evaluation.SequenceGrading
import ReliabilityLab.Evaluation.Successes
import ReliabilityLab.Evaluation.SuiteRuns
import ReliabilityLab.Evaluation.TraceClaims
import ReliabilityLab.Evaluation.TraceEffect
import ReliabilityLab.Foundation.Calendar
import ReliabilityLab.Foundation.Checker
import ReliabilityLab.Foundation.CommonSubsequence
import ReliabilityLab.Foundation.Confluence
import ReliabilityLab.Foundation.Dialogue
import ReliabilityLab.Foundation.History
import ReliabilityLab.Foundation.Interleaving
import ReliabilityLab.Foundation.Json
import ReliabilityLab.Foundation.JsonEquality
import ReliabilityLab.Foundation.Program
import ReliabilityLab.Foundation.Rounding
import ReliabilityLab.Foundation.Sequential
import ReliabilityLab.Foundation.Sessions
import ReliabilityLab.Foundation.Timestamp
import ReliabilityLab.Foundation.Transducer
import ReliabilityLab.Mobile.Catalog
import ReliabilityLab.Mobile.Convergence
import ReliabilityLab.Mobile.DesktopParity
import ReliabilityLab.Mobile.Engine
import ReliabilityLab.Mobile.Package
import ReliabilityLab.Mobile.Refusals
import ReliabilityLab.Mobile.Report
import ReliabilityLab.Mobile.Requests
import ReliabilityLab.Mobile.RollbackEffects
import ReliabilityLab.Mobile.RoundBudget
import ReliabilityLab.Mobile.RunConsistency
import ReliabilityLab.Mobile.StoreConsistency
import ReliabilityLab.Mobile.StoredReports
import ReliabilityLab.Runtime.Account
import ReliabilityLab.Runtime.Alone
import ReliabilityLab.Runtime.AloneOperations
import ReliabilityLab.Runtime.ApprovalSafety
import ReliabilityLab.Runtime.AttemptEvents
import ReliabilityLab.Runtime.AttemptProtocol
import ReliabilityLab.Runtime.AuditTrail
import ReliabilityLab.Runtime.Budget
import ReliabilityLab.Runtime.CachedReplay
import ReliabilityLab.Runtime.CallCourse
import ReliabilityLab.Runtime.ClaimLoss
import ReliabilityLab.Runtime.Conduct
import ReliabilityLab.Runtime.Decisions
import ReliabilityLab.Runtime.DenialAudit
import ReliabilityLab.Runtime.Discipline
import ReliabilityLab.Runtime.Dossier
import ReliabilityLab.Runtime.Effect
import ReliabilityLab.Runtime.GatewayConduct
import ReliabilityLab.Runtime.Guarantee
import ReliabilityLab.Runtime.InvalidOutput
import ReliabilityLab.Runtime.Invocations
import ReliabilityLab.Runtime.LateEvidence
import ReliabilityLab.Runtime.Operations
import ReliabilityLab.Runtime.Orchestrator
import ReliabilityLab.Runtime.Recovery
import ReliabilityLab.Runtime.RunFile
import ReliabilityLab.Runtime.RunRecord
import ReliabilityLab.Runtime.Schedule
import ReliabilityLab.Runtime.ScriptedCalls
import ReliabilityLab.Runtime.ScriptedExecutions
import ReliabilityLab.Runtime.ScriptedRuns
import ReliabilityLab.Runtime.Service
import ReliabilityLab.Runtime.ServiceConduct
import ReliabilityLab.Runtime.System
import ReliabilityLab.Runtime.ToolOutcome
import ReliabilityLab.Runtime.WriteOnce
import ReliabilityLab.Storage.ClaimLifecycle
import ReliabilityLab.Storage.Concealment
import ReliabilityLab.Storage.Fencing
import ReliabilityLab.Storage.LeaseExpiry
import ReliabilityLab.Storage.Resanitization
import ReliabilityLab.Storage.RunListing
import ReliabilityLab.Storage.Sanitization
import ReliabilityLab.Storage.Tables
import ReliabilityLab.Storage.TraceNumbers
import ReliabilityLab.Storage.Transactions
import ReliabilityLab.Tools.Contracts
import ReliabilityLab.Tools.Gateway
import ReliabilityLab.Tools.Incident
import ReliabilityLab.Tools.IncidentOutputs
import ReliabilityLab.Web.AttemptChains
import ReliabilityLab.Web.GatewayMarks
import ReliabilityLab.Web.TraceClient
import ReliabilityLab.Web.TraceDisplay
import ReliabilityLab.Web.Waterfall
