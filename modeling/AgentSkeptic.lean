import AgentSkeptic.Support.Machine
import AgentSkeptic.Support.Transaction
import AgentSkeptic.Support.ReadCommitted
import AgentSkeptic.Support.JsString
import AgentSkeptic.Support.InsertionMap
import AgentSkeptic.Support.JsNumber
import AgentSkeptic.Support.JsDouble
import AgentSkeptic.Support.JsNumberText
import AgentSkeptic.Support.Json
import AgentSkeptic.Support.JsonText
import AgentSkeptic.Support.JsonRoundTrip
import AgentSkeptic.Support.JsSafeInteger
import AgentSkeptic.Support.JsonLayout
import AgentSkeptic.Support.JsonSchema
import AgentSkeptic.Support.SortedJson
import AgentSkeptic.Support.JsonMembers
import AgentSkeptic.Support.Utf16Sort
import AgentSkeptic.Support.JsonDecoded
import AgentSkeptic.Support.Fallible
import AgentSkeptic.Support.FaultyOps
import AgentSkeptic.Support.Grouping
import AgentSkeptic.Support.StableSort
import AgentSkeptic.Support.SortedMembers
import AgentSkeptic.Support.CappedSelection
import AgentSkeptic.Support.KeyedTable
import AgentSkeptic.Hosted.VerificationLifecycle
import AgentSkeptic.Hosted.EnforcementPersistence
import AgentSkeptic.Hosted.EnforcementPosture
import AgentSkeptic.Hosted.EnforcementRefinement
import AgentSkeptic.Hosted.EnforcementRuns
import AgentSkeptic.Hosted.EnforcementRecovery
import AgentSkeptic.Hosted.EnforcementReplay
import AgentSkeptic.Hosted.EnforcementTransitions
import AgentSkeptic.Hosted.EnforcementInterleaving
import AgentSkeptic.Hosted.UsageQuota
import AgentSkeptic.Hosted.MagicLinkGate
import AgentSkeptic.Hosted.StripeWebhook
import AgentSkeptic.Hosted.ApiKeys
import AgentSkeptic.Hosted.OssPendingCookie
import AgentSkeptic.Hosted.OssClaim
import AgentSkeptic.Bundle.DecisionEvidence
import AgentSkeptic.Engine.Params
import AgentSkeptic.Engine.ValueVerification
import AgentSkeptic.Engine.Types
import AgentSkeptic.Engine.ResolveExpectation
import AgentSkeptic.Engine.CanonicalText
import AgentSkeptic.Engine.SqlStatements
import AgentSkeptic.Engine.StateWitness
import AgentSkeptic.Engine.StateWitnessSoundness
import AgentSkeptic.Engine.PlanLogicalSteps
import AgentSkeptic.Engine.VerificationPolicy
import AgentSkeptic.Engine.Reconcilers
import AgentSkeptic.Engine.Pipeline
import AgentSkeptic.Engine.PolicyExecution
import AgentSkeptic.Engine.MultiEffectPaths
import AgentSkeptic.Engine.BackendCounts
import AgentSkeptic.Engine.LangGraphGate
import AgentSkeptic.Engine.RunComparison
import AgentSkeptic.Bundle.DecisionBundleWriter
import AgentSkeptic.Bundle.DecisionBundleCrash
import AgentSkeptic.Events.RunEvents
import AgentSkeptic.Events.LoadEvents
import AgentSkeptic.Events.CanonicalEventEmitter
import AgentSkeptic.Events.EmittedRuns
import AgentSkeptic.Quick.Ingest
import AgentSkeptic.Quick.IngestLines
import AgentSkeptic.Quick.IngestLayout
import AgentSkeptic.Quick.TableScoring
import AgentSkeptic.Quick.FlattenActions
import AgentSkeptic.Quick.CanonicalKeys
import AgentSkeptic.Quick.Planning
import AgentSkeptic.Quick.Exports
import AgentSkeptic.Quick.RunQuickVerify
import AgentSkeptic.Quick.UnitCoverage
import AgentSkeptic.Quick.ExportParams
import AgentSkeptic.Quick.ExportResolution
import AgentSkeptic.Quick.ExportReplay
import AgentSkeptic.Bundle.AgentRunRecord
import AgentSkeptic.Bundle.CorpusRun
import AgentSkeptic.Bundle.AgentRunBundle
import AgentSkeptic.Bundle.RunBundleLoads
import AgentSkeptic.Bundle.RunBundleSignature
import AgentSkeptic.Bundle.RunBundleCrash
import AgentSkeptic.Bundle.CertificateDigest
import AgentSkeptic.Engine.PointerEvaluation
import AgentSkeptic.Engine.RowContract
import AgentSkeptic.Support.JsShortest
import AgentSkeptic.Engine.IntegerValues
import AgentSkeptic.Engine.EventualPolling
import AgentSkeptic.Support.SqlText
import AgentSkeptic.Support.BoundStatements
import AgentSkeptic.Engine.SqlBindings
import AgentSkeptic.Support.JsonLiterals
import AgentSkeptic.Kernel.CanonicalParams
import AgentSkeptic.Support.PyValues
import AgentSkeptic.Support.AsciiText
import AgentSkeptic.Kernel.PlanLogical
import AgentSkeptic.Events.SequenceIntegrity
import AgentSkeptic.Events.VerificationRunContext
import AgentSkeptic.Events.ObservedEvents
import AgentSkeptic.Support.Separated
import AgentSkeptic.Events.CheckpointKeys
import AgentSkeptic.Bundle.VerificationDiff
import AgentSkeptic.Engine.WitnessCoverage
import AgentSkeptic.Events.ExecutionTrace
import AgentSkeptic.Plan.NameStatus
import AgentSkeptic.Engine.Recurrence
import AgentSkeptic.Engine.LogicalStepKeys
import AgentSkeptic.Bundle.MaterialTruth
import AgentSkeptic.Quick.AtomicWrite
import AgentSkeptic.Bundle.ReleaseCriticalVerdict
import AgentSkeptic.Quick.TableScoringNormative
import AgentSkeptic.Quick.FlatKeys
import AgentSkeptic.Engine.RegistryReadiness
import AgentSkeptic.Hosted.RegistryDraft
import AgentSkeptic.Bundle.CorpusOutcomes
import AgentSkeptic.Report.FailureAnalysis
import AgentSkeptic.Support.Templates
import AgentSkeptic.Report.FailureExplanation
import AgentSkeptic.Report.ActionableFailure
import AgentSkeptic.Report.CorrectnessDefinition
import AgentSkeptic.Report.PathFindings
import AgentSkeptic.Support.Lines
import AgentSkeptic.Report.ReconciliationPresentation
import AgentSkeptic.Report.TruthReport
import AgentSkeptic.Report.ReportLines
import AgentSkeptic.Quick.LevenshteinRatio
import AgentSkeptic.Report.DriverStep
import AgentSkeptic.Support.SqlQueries
import AgentSkeptic.Support.SqlReading
import AgentSkeptic.Engine.RelationalQueries
import AgentSkeptic.Engine.RecodedValues
import AgentSkeptic.Report.CiLock
import AgentSkeptic.Report.RemediationItems
import AgentSkeptic.Report.FailingStepRows
import AgentSkeptic.Loop.LocalRunStore
import AgentSkeptic.Loop.LocalRunHistory
import AgentSkeptic.Plan.PathHarvest
import AgentSkeptic.Plan.DerivedCitations
import AgentSkeptic.Hosted.LicenseClient
import AgentSkeptic.Hosted.LicensedRuns
import AgentSkeptic.Hosted.RateLimitSlots
import AgentSkeptic.Events.DecisionGate
import AgentSkeptic.Engine.RunReports
import AgentSkeptic.Hosted.EnforceCommand
