import EngenhoPromessa.Json.Codec
import EngenhoPromessa.Json.Equal
import EngenhoPromessa.Collections.BTreeSet
import EngenhoPromessa.Collections.FirstsBy
import EngenhoPromessa.Collections.Watched
import EngenhoPromessa.Collections.Tally
import EngenhoPromessa.Collections.StableSort
import EngenhoPromessa.Effect.Fallible
import EngenhoPromessa.Effect.Run
import EngenhoPromessa.External.Crates
import EngenhoPromessa.PromessaTypes.Action
import EngenhoPromessa.Crds.ScanJob
import EngenhoPromessa.Crds.ScanJobSerde
import EngenhoPromessa.Crds.EphemeralTenant
import EngenhoPromessa.Crds.ImageValidationSerde
import EngenhoPromessa.ScannerCatalog.Catalog
import EngenhoPromessa.ScannerCatalog.Parsers
import EngenhoPromessa.SecurityController.Model
import EngenhoPromessa.SecurityController.Drift
import EngenhoPromessa.SecurityController.Monotone
import EngenhoPromessa.ReconcilerEngine.Specs
import EngenhoPromessa.ReconcilerEngine.ShortCircuit
import EngenhoPromessa.ReconcilerEngine.HarborGuard
import EngenhoPromessa.ReconcilerEngine.FluxCommitConvergence
import EngenhoPromessa.SecurityController.Dispatch
import EngenhoPromessa.SecurityController.Forwarding
import EngenhoPromessa.SecurityController.Pins
import EngenhoPromessa.SecurityController.Reference
import EngenhoPromessa.SecurityController.Corrections
import EngenhoPromessa.ValidationEvents.Events
import EngenhoPromessa.Controllers.ImageValidation
import EngenhoPromessa.Controllers.PhaseStep
import EngenhoPromessa.Controllers.GateSafety
import EngenhoPromessa.Controllers.ScanJob
import EngenhoPromessa.Controllers.ScanEvidence
import EngenhoPromessa.Controllers.OutcomeChain
import EngenhoPromessa.Controllers.ValidationRuns
import EngenhoPromessa.Controllers.PhaseMachine
import EngenhoPromessa.Controllers.StaleReads
import EngenhoPromessa.Controllers.ActionDispatcher
import EngenhoPromessa.Controllers.DispatchRuns
import EngenhoPromessa.ScannerCatalog.Stamps
import EngenhoPromessa.Controllers.VulnerabilityAge
import EngenhoPromessa.Controllers.ChildRuns
import EngenhoPromessa.Controllers.EvidenceLink
import EngenhoPromessa.Controllers.Isolation
import EngenhoPromessa.Controllers.DecidedStatus
import EngenhoPromessa.ValidationStore.Store
import EngenhoPromessa.Controllers.OutcomePersistence
import EngenhoPromessa.Controllers.Calls
import EngenhoPromessa.Controllers.Published
import EngenhoPromessa.Controllers.Platform
import EngenhoPromessa.Controllers.Traceability
import EngenhoPromessa.Controllers.EvidenceOrder
import EngenhoPromessa.Controllers.PhaseHistory
import EngenhoPromessa.Controllers.ScanOnly
import EngenhoPromessa.Controllers.ScanRuns
import EngenhoPromessa.ValidationApi.Projection
import EngenhoPromessa.ValidationApi.Rest
import EngenhoPromessa.ValidationApi.McpHttp
import EngenhoPromessa.ValidationApi.Graphql
import EngenhoPromessa.ValidationApi.Compliance
import EngenhoPromessa.ValidationApi.Relist
import EngenhoPromessa.ValidationApi.FindingScope
import EngenhoPromessa.Controllers.AuditRows
import EngenhoPromessa.Controllers.MirrorRewrites
import EngenhoPromessa.Controllers.EventSubjects
import EngenhoPromessa.Controllers.ReceiptDelivery
import EngenhoPromessa.ReconcilerEngine.CloneConfinement
import EngenhoPromessa.PrivatePush.PushAndSubmit
import EngenhoPromessa.PrivatePush.SubmitValidations
import EngenhoPromessa.Collections.Upserts
import EngenhoPromessa.Collections.Replaced
import EngenhoPromessa.Collections.Straddles
import EngenhoPromessa.Effect.Ensured
import EngenhoPromessa.Text.Split
import EngenhoPromessa.Text.Lowercase
import EngenhoPromessa.ScannerCatalog.SeverityOrder
import EngenhoPromessa.ValidationStore.RunHistory
import EngenhoPromessa.ValidationStore.ConcurrentUpserts
import EngenhoPromessa.ValidationStore.Provenance
import EngenhoPromessa.ValidationApi.McpAuth
import EngenhoPromessa.ValidationApi.McpHandler
import EngenhoPromessa.ValidationApi.QueryFindings
import EngenhoPromessa.Controllers.ServiceRef
import EngenhoPromessa.Controllers.ScanTargets
import EngenhoPromessa.Controllers.Provisioning
import EngenhoPromessa.ReconcilerEngine.SkopeoFailure
import EngenhoPromessa.Collections.Cuts
import EngenhoPromessa.Text.Utf8
import EngenhoPromessa.Text.BlankLines
import EngenhoPromessa.ScannerCatalog.Lossless
import EngenhoPromessa.ScannerCatalog.TrufflehogBanner
import EngenhoPromessa.ValidationJobs.Aggregate
import EngenhoPromessa.ValidationJobs.EvidenceBytes
import EngenhoPromessa.Controllers.ReceiptBinding
import EngenhoPromessa.PrivatePush.CrNames
import EngenhoPromessa.Effect.Progress
import EngenhoPromessa.Effect.Loops
import EngenhoPromessa.Effect.Retried
import EngenhoPromessa.Json.Struct
import EngenhoPromessa.ValidationEvents.Wire
import EngenhoPromessa.Controllers.AnsweredCalls
import EngenhoPromessa.Controllers.ValidationProgress
import EngenhoPromessa.Controllers.ScanProgress
import EngenhoPromessa.Controllers.TenantRuns
import EngenhoPromessa.Controllers.EventsPublisher
import EngenhoPromessa.ReconcilerEngine.HttpActs
import EngenhoPromessa.ReconcilerEngine.Retries
import EngenhoPromessa.Collections.Counts
import EngenhoPromessa.Collections.InsertOnly
import EngenhoPromessa.Text.Unlines
import EngenhoPromessa.ValidationApi.McpProxy
import EngenhoPromessa.ValidationStore.AuditTrail
import EngenhoPromessa.ValidationApi.Grpc
import EngenhoPromessa.Controllers.TurnEffects
import EngenhoPromessa.Controllers.Pipeline
import EngenhoPromessa.Controllers.PipelineTurns
import EngenhoPromessa.Controllers.PipelineChildren
import EngenhoPromessa.Controllers.PipelineFrame
import EngenhoPromessa.Controllers.PipelineRuns
import EngenhoPromessa.Controllers.PipelineRounds
import EngenhoPromessa.Controllers.PipelineEvidence
import EngenhoPromessa.PrivatePush.Signatures
