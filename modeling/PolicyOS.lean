import PolicyOS.Connectors.RequestErrors
import PolicyOS.Connectors.Security
import PolicyOS.CrossValidation.AgreedDecisions
import PolicyOS.CrossValidation.ComparisonEvidence
import PolicyOS.Evaluation.Pipeline
import PolicyOS.Execution.BestProvider
import PolicyOS.Execution.LateResults
import PolicyOS.Execution.PlannerSoundness
import PolicyOS.Execution.SynthesisAgreement
import PolicyOS.Execution.SynthesisLimits
import PolicyOS.Intelligence.GroundingDisclosure
import PolicyOS.Intelligence.ReflectionCoverage
import PolicyOS.Intelligence.SourceClassification
import PolicyOS.Judge.BundleReferences
import PolicyOS.Judge.DecisionGround
import PolicyOS.Knowledge.AtomicIngestion
import PolicyOS.Knowledge.ChunkBoundaries
import PolicyOS.Knowledge.ChunkSizes
import PolicyOS.Knowledge.ChunkingAgreement
import PolicyOS.Knowledge.ClassificationInheritance
import PolicyOS.Knowledge.EmbeddingRetries
import PolicyOS.Knowledge.Normalization
import PolicyOS.Knowledge.Providers.CachedAnswers
import PolicyOS.Knowledge.Providers.MergeOrder
import PolicyOS.Knowledge.Retrieval.FusionOrder
import PolicyOS.Knowledge.Router.Service
import PolicyOS.Mcp.AuditedCalls
import PolicyOS.Metrics.MissingValues
import PolicyOS.Orchestration.ApprovalEligibility
import PolicyOS.Orchestration.AssignmentLifecycle
import PolicyOS.Orchestration.StepReachability
import PolicyOS.Runtime.Api.BindingResolution
import PolicyOS.Runtime.Api.CommandIdentity
import PolicyOS.Runtime.Audit.AppendOnly
import PolicyOS.Runtime.Connector.DeliveryCertainty
import PolicyOS.Runtime.Connector.Responses
import PolicyOS.Runtime.Orchestration.NotInvoked
import PolicyOS.Runtime.Persistence.LifecycleChain
import PolicyOS.Runtime.Persistence.TenantIsolation
import PolicyOS.Runtime.Registry.Resolution
import PolicyOS.Runtime.Worker.ResultCompletion
import PolicyOS.Security.RateLimit
import PolicyOS.Security.Reclassification
import PolicyOS.ZeroTrust.DelegationLifetime
import PolicyOS.ZeroTrust.EvaluationData
import PolicyOS.ZeroTrust.LineageEncoding
import PolicyOS.Runtime.Persistence.LogicalResultRevisions
