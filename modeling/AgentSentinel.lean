import AgentSentinel.Adapters.ApiGateways
import AgentSentinel.Api.App
import AgentSentinel.Api.BearerAuth
import AgentSentinel.Api.Dependencies
import AgentSentinel.Api.Evaluate
import AgentSentinel.Api.Isolation
import AgentSentinel.Api.RateLimit
import AgentSentinel.Bootstrap
import AgentSentinel.Classifiers.AnomalyDetector
import AgentSentinel.Classifiers.BaselineRuns
import AgentSentinel.Classifiers.InjectionDetector
import AgentSentinel.Classifiers.InjectionPadding
import AgentSentinel.Classifiers.IntentClassifier
import AgentSentinel.Classifiers.IntentMatch
import AgentSentinel.Classifiers.RollingWindow
import AgentSentinel.Classifiers.ToolValidator
import AgentSentinel.Client
import AgentSentinel.Comms.Iatp
import AgentSentinel.Core.AllowSoundness
import AgentSentinel.Core.Approval
import AgentSentinel.Core.ArgsContains
import AgentSentinel.Core.BreakerProbes
import AgentSentinel.Core.BreakerRecovery
import AgentSentinel.Core.BreakerRuns
import AgentSentinel.Core.BreakerSafety
import AgentSentinel.Core.BreakerTrips
import AgentSentinel.Core.CacheCrash
import AgentSentinel.Core.CircuitBreaker
import AgentSentinel.Core.Escalation
import AgentSentinel.Core.Explanation
import AgentSentinel.Core.FactorOrder
import AgentSentinel.Core.InjectionFailure
import AgentSentinel.Core.Interceptor
import AgentSentinel.Core.MatchAgreement
import AgentSentinel.Core.MatchLanguage
import AgentSentinel.Core.Outage
import AgentSentinel.Core.Overlap
import AgentSentinel.Core.PayloadDigest
import AgentSentinel.Core.Pipeline
import AgentSentinel.Core.PipelineRuns
import AgentSentinel.Core.PolicyCache
import AgentSentinel.Core.PolicyCrash
import AgentSentinel.Core.PolicyEngine
import AgentSentinel.Core.Quotation
import AgentSentinel.Core.QuotedTexts
import AgentSentinel.Core.RecognisedKeys
import AgentSentinel.Core.Reconcile
import AgentSentinel.Core.RuleOrder
import AgentSentinel.Core.SecretExposure
import AgentSentinel.Core.SharedPipeline
import AgentSentinel.Core.Tenancy
import AgentSentinel.Core.TrustDecay
import AgentSentinel.Core.TrustGate
import AgentSentinel.Core.VerdictOrder
import AgentSentinel.Dlp.Coverage
import AgentSentinel.Dlp.Scanner
import AgentSentinel.Dlp.Secrets
import AgentSentinel.Gateway.McpGateway
import AgentSentinel.Gateway.McpValidators
import AgentSentinel.Gateway.ResourceTraversal
import AgentSentinel.Gateway.Sandbox
import AgentSentinel.Gateway.ShippedPolicy
import AgentSentinel.Gateway.ToolNames
import AgentSentinel.Identity.CapabilityLookup
import AgentSentinel.Identity.Resolver
import AgentSentinel.Identity.Signing
import AgentSentinel.Identity.TrustBudget
import AgentSentinel.Identity.TrustEvolution
import AgentSentinel.Identity.TrustScorer
import AgentSentinel.Lib.Bands
import AgentSentinel.Lib.BinaryRounding
import AgentSentinel.Lib.BoundedQueue
import AgentSentinel.Lib.Brackets
import AgentSentinel.Lib.EarlyExit
import AgentSentinel.Lib.Elementwise
import AgentSentinel.Lib.FileWrites
import AgentSentinel.Lib.IdealSignature
import AgentSentinel.Lib.Interspersed
import AgentSentinel.Lib.LastKnownGood
import AgentSentinel.Lib.NoisyOr
import AgentSentinel.Lib.Noninterference
import AgentSentinel.Lib.Occurrence
import AgentSentinel.Lib.Override
import AgentSentinel.Lib.PercentCoding
import AgentSentinel.Lib.Regex
import AgentSentinel.Lib.Rounding
import AgentSentinel.Lib.SelfDelimiting
import AgentSentinel.Lib.Share
import AgentSentinel.Lib.SlidingWindow
import AgentSentinel.Lib.Stages
import AgentSentinel.Lib.TokenBucket
import AgentSentinel.Lib.Transition
import AgentSentinel.Lib.Traversal
import AgentSentinel.Lib.Trim
import AgentSentinel.Models.Action
import AgentSentinel.Models.ActionDocument
import AgentSentinel.Models.Decision
import AgentSentinel.Models.Identity
import AgentSentinel.Models.Policy
import AgentSentinel.Models.PolicyDocument
import AgentSentinel.Observability.Ndjson
import AgentSentinel.Observability.SiemExporter
import AgentSentinel.Observability.SiemOrder
import AgentSentinel.PolicyPac.DefaultBundle
import AgentSentinel.PolicyPac.HotReload
import AgentSentinel.PolicyPac.Loader
import AgentSentinel.PolicyPac.PinnedMeaning
import AgentSentinel.Python.Base64
import AgentSentinel.Python.Calls
import AgentSentinel.Python.Exceptions
import AgentSentinel.Python.Float
import AgentSentinel.Python.Json
import AgentSentinel.Python.JsonTree
import AgentSentinel.Python.Pathlib
import AgentSentinel.Python.Re
import AgentSentinel.Python.Str
import AgentSentinel.Python.UrlParse
import AgentSentinel.Python.Value
import AgentSentinel.Redteam.DefaultDeployment
import AgentSentinel.Redteam.Harness
import AgentSentinel.StaticAnalysis.GuardChecker
import AgentSentinel.StaticAnalysis.GuardCoverage
import AgentSentinel.StaticAnalysis.ScanPaths
import AgentSentinel.Utils.Canonical
import AgentSentinel.Utils.CanonicalAgreement
import AgentSentinel.Utils.CanonicalFallback
import AgentSentinel.Utils.CanonicalIdentity
import AgentSentinel.Utils.Differences
import AgentSentinel.Utils.JsonDumps
import AgentSentinel.Utils.JsonEquality
import AgentSentinel.Utils.JsonMode
import AgentSentinel.Utils.JsonReading
import AgentSentinel.Utils.JsonText
import AgentSentinel.Utils.Orjson
import AgentSentinel.Verification.Cmvk
