import EvalForge.Foundation.Transitions
import EvalForge.Foundation.Json
import EvalForge.Evaluators.Engine
import EvalForge.Models.Entities
import EvalForge.Services.RunExecutor
import EvalForge.Workers.Tasks
import EvalForge.Workers.Progress
import EvalForge.Workers.Deliveries
import EvalForge.Workers.Evidence
import EvalForge.Workers.Finality
import EvalForge.Workers.Lease
import EvalForge.Workers.Chain
import EvalForge.Services.RunDispatcher
import EvalForge.Services.DispatchFailure
import EvalForge.Services.RunCompletion
import EvalForge.Services.ExecutorAgreement
import EvalForge.Foundation.OrderStatistics
import EvalForge.Foundation.Rounding
import EvalForge.Services.Statistics
import EvalForge.Services.Comparison
import EvalForge.Services.GateLaws
import EvalForge.Services.FaultedRuns
import EvalForge.Services.RegressionDeciders
import EvalForge.Services.MirroredGates
import EvalForge.Api.InlineSecrets
import EvalForge.Api.Login
import EvalForge.Api.Lockout
import EvalForge.Models.Database
import EvalForge.Db.Session
import EvalForge.Core.Config
import EvalForge.Core.Auth
import EvalForge.Schemas.Auth
import EvalForge.Api.Bootstrap
import EvalForge.Api.Organizations
import EvalForge.Foundation.Tables
import EvalForge.Api.OwnerRule
import EvalForge.Db.Queries
import EvalForge.Schemas.Registry
import EvalForge.Schemas.Execution
import EvalForge.Api.Apps
import EvalForge.Api.Suites
import EvalForge.Api.EvaluatorConfigs
import EvalForge.Services.GateRuleValidation
import EvalForge.Api.GateRules
import EvalForge.Services.CiGateReport
import EvalForge.Services.CompareRuns
import EvalForge.Services.DashboardAggregation
import EvalForge.Api.Runs
import EvalForge.Api.Comparisons
import EvalForge.Api.Dashboard
import EvalForge.Api.Authentication
import EvalForge.Api.Serve
import EvalForge.Db.Frames
import EvalForge.Db.Consistency
import EvalForge.Api.CreatedRows
import EvalForge.Api.IdentityWrites
import EvalForge.Api.TenantConsistency
import EvalForge.Api.Roles
import EvalForge.Db.TenantView
import EvalForge.Db.TenantInserts
import EvalForge.Db.TenantQueries
import EvalForge.Api.Isolation
import EvalForge.Foundation.Returns
import EvalForge.Evaluators.Text
import EvalForge.Evaluators.Basic
import EvalForge.Evaluators.Faithfulness
import EvalForge.Evaluators.Registry
import EvalForge.Evaluators.Similarity
import EvalForge.Evaluators.Acceptance
import EvalForge.Services.ExecutedRows
import EvalForge.Services.CollectedSamples
import EvalForge.Services.DashboardFailures
import EvalForge.Services.DashboardAgreement
import EvalForge.Cli.Gate
import EvalForge.Services.GateAgreement
import EvalForge.Cli.Run
import EvalForge.Services.BootstrapRange
import EvalForge.Adapters.Providers
import EvalForge.Workers.Retries
import EvalForge.Workers.RetrySemantics
import EvalForge.Services.CaseFaults
import EvalForge.Api.ComparisonCommit
import EvalForge.Services.GateOrder
import EvalForge.Services.PassRate
import EvalForge.Services.RowOrder
import EvalForge.Foundation.Words
import EvalForge.Evaluators.ExactMatch
import EvalForge.Evaluators.Scores
import EvalForge.Services.EmbeddingCache
import EvalForge.Evaluators.WellFormed
import EvalForge.Adapters.DemoRag
import EvalForge.Adapters.Retrieval
import EvalForge.Services.GateRuleTotality
import EvalForge.Services.Redaction
import EvalForge.Foundation.Interpolation
import EvalForge.Services.Percentile
import EvalForge.Foundation.QuotedText
import EvalForge.Services.AdapterCache
import EvalForge.Services.Calibration
import EvalForge.Services.CostSimulator
import EvalForge.Foundation.Base64
import EvalForge.Services.Passwords
import EvalForge.Foundation.Pages
import EvalForge.Api.ReadableSuites
import EvalForge.Services.DashboardAccounting
import EvalForge.Api.Pagination
import EvalForge.Foundation.Growth
import EvalForge.Db.History
import EvalForge.Api.History
import EvalForge.Api.Revocation
import EvalForge.Api.IssuedTokens
import EvalForge.Api.OwnersKept
import EvalForge.Foundation.Ascii
import EvalForge.Adapters.DemoOutput
import EvalForge.Demo.Dataset
import EvalForge.Demo.Outputs
import EvalForge.Demo.Evaluations
import EvalForge.Api.StoredRuns
import EvalForge.Api.RunCommit
import EvalForge.Demo.Runs
import EvalForge.Demo.Scenario
import EvalForge.Demo.Outcome
import EvalForge.Workers.Transactions
import EvalForge.Workers.StoredSystem
import EvalForge.Api.RunRows
import EvalForge.Workers.Cluster
import EvalForge.Workers.DispatchedRuns
import EvalForge.Workers.SettledRuns
import EvalForge.Workers.RepeatedComparisons
