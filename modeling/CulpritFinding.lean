import CulpritFinding.Analysis
import CulpritFinding.Analyzer
import CulpritFinding.Bisection
import CulpritFinding.Build
import CulpritFinding.ChangeLog
import CulpritFinding.CommandLine.Arguments
import CulpritFinding.CommandLine.Invocation
import CulpritFinding.CommandLine.Run
import CulpritFinding.Config
import CulpritFinding.Engine
import CulpritFinding.Environment
import CulpritFinding.Error
import CulpritFinding.Evidence
import CulpritFinding.Failure.Kind
import CulpritFinding.Failure.Signal
import CulpritFinding.Failure.Step
import CulpritFinding.Flake.Aggregation
import CulpritFinding.Flake.Basic
import CulpritFinding.Flake.Name
import CulpritFinding.FollowUp
import CulpritFinding.Group
import CulpritFinding.GroupId
import CulpritFinding.Grouping
import CulpritFinding.History
import CulpritFinding.Json.Format
import CulpritFinding.Json.Number
import CulpritFinding.Json.Printer
import CulpritFinding.Json.Reader
import CulpritFinding.Json.Value
import CulpritFinding.Magnitude
import CulpritFinding.Metric
import CulpritFinding.Order
import CulpritFinding.Path
import CulpritFinding.Proofs.Analysis.Ending
import CulpritFinding.Proofs.Analysis.FollowUp
import CulpritFinding.Proofs.Analysis.Frames
import CulpritFinding.Proofs.Analysis.Rerun
import CulpritFinding.Proofs.Analysis.VerdictPhase
import CulpritFinding.Proofs.Analysis.Waiting
import CulpritFinding.Proofs.Engine
import CulpritFinding.Proofs.Run
import CulpritFinding.Proofs.TryJob.Following
import CulpritFinding.Proofs.TryJob.History
import CulpritFinding.Proofs.TryJob.Outstanding
import CulpritFinding.Proofs.TryJob.Records
import CulpritFinding.Proofs.TryJob.Scheduling
import CulpritFinding.Proofs.TryJob.Step
import CulpritFinding.Proofs.TryJob.Takeover
import CulpritFinding.Recording
import CulpritFinding.RegressionRange
import CulpritFinding.Scoring
import CulpritFinding.Sha256
import CulpritFinding.SortedMap
import CulpritFinding.SortedSet
import CulpritFinding.Store
import CulpritFinding.Suspect
import CulpritFinding.Table
import CulpritFinding.Text.Blank
import CulpritFinding.Text.Digit
import CulpritFinding.Text.Hex
import CulpritFinding.Text.Lines
import CulpritFinding.Text.Number
import CulpritFinding.Text.Pattern
import CulpritFinding.Text.Word
import CulpritFinding.Time.Date
import CulpritFinding.Time.Instant
import CulpritFinding.Time.Rfc3339
import CulpritFinding.Treatment
import CulpritFinding.TryJob.Basic
import CulpritFinding.TryJob.Phase
import CulpritFinding.TryJob.Report
import CulpritFinding.TryJob.Request
import CulpritFinding.Verdict
import CulpritFinding.Main
import CulpritFinding.Proofs.TryJob.EarlierAttempt
import CulpritFinding.Proofs.Analysis.LatestReport
import CulpritFinding.Proofs.Analysis.Retry
import CulpritFinding.Proofs.RegressionRange
import CulpritFinding.Proofs.Analysis.BisectionDue
import CulpritFinding.Proofs.Keeps
import CulpritFinding.Proofs.Group.Founding
import CulpritFinding.Proofs.Group.Representatives
import CulpritFinding.Proofs.Analysis.Stages
import CulpritFinding.Proofs.Analysis.Findings
import CulpritFinding.Proofs.Analysis.Concluded
import CulpritFinding.Proofs.Group.Speaking
import CulpritFinding.Proofs.Analysis.Settled
import CulpritFinding.Proofs.Analysis.InStep
import CulpritFinding.Proofs.Group.Invariant
import CulpritFinding.Proofs.Flake.Aggregation
import CulpritFinding.Proofs.Supported.Influence
import CulpritFinding.Proofs.Codec.Records
import CulpritFinding.Proofs.RegressionRange.Nesting
import CulpritFinding.Proofs.Scoring.Reporting
import CulpritFinding.Proofs.RegressionRange.Boundary
import CulpritFinding.Proofs.Scoring.Merging
import CulpritFinding.Proofs.Scoring.Contributions
import CulpritFinding.Proofs.Scoring.Naming
import CulpritFinding.Proofs.Verdict.Compile
import CulpritFinding.Proofs.Verdict.Tests
import CulpritFinding.Proofs.Scoring.Reasons
import CulpritFinding.Proofs.Scoring.Evidence
import CulpritFinding.Proofs.Scoring.Growing
import CulpritFinding.Proofs.Scoring.Commits
import CulpritFinding.Proofs.Analysis.Unbounded
import CulpritFinding.Proofs.Flake.Counting
import CulpritFinding.Proofs.Verdict.Folding
import CulpritFinding.Proofs.Verdict.Tested
import CulpritFinding.Proofs.Group.Regrouping
import CulpritFinding.Proofs.TryJob.Range
import CulpritFinding.Proofs.Path
import CulpritFinding.Proofs.Evidence.Logs
import CulpritFinding.Proofs.Flake.Canonical
import CulpritFinding.Proofs.Group.Overlap
import CulpritFinding.Proofs.PreviousBuilds
import CulpritFinding.Proofs.TryJob.Index
import CulpritFinding.Proofs.Evidence.Pooling
