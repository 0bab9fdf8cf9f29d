import CompileJob.Main
import CompileJob.Session
import CompileJob.Proofs.Table
import CompileJob.Proofs.Backend.Pipeline
import CompileJob.Proofs.Compiler.Plan
import CompileJob.Proofs.Compiler.Verdict
import CompileJob.Proofs.Compiler.Command
import CompileJob.Proofs.Executor.Host
import CompileJob.Proofs.Tool.Registry
import CompileJob.Proofs.Compiler.Artifact
import CompileJob.Proofs.Value.Magnitude
import CompileJob.Proofs.Executor.Limits
import CompileJob.Proofs.Executor.Ending
import CompileJob.Proofs.Executor.Reaping
import CompileJob.Proofs.Compiler.History
import CompileJob.Proofs.Executor.Report
import CompileJob.Proofs.Compiler.Rollback
import CompileJob.Proofs.Compiler.Resubmission
import CompileJob.Proofs.Executor.Launches
import CompileJob.Proofs.Tool.Trail
import CompileJob.Proofs.Compiler.Launches
import CompileJob.Proofs.Compiler.Isolation
import CompileJob.Proofs.Path
import CompileJob.Proofs.Compiler.Location
import CompileJob.Proofs.ScratchDir
import CompileJob.Proofs.Session.Nesting
import CompileJob.Proofs.ScratchDir.Failure
import CompileJob.Proofs.Job.Dispatch
import CompileJob.Proofs.Compiler.Enforcement
import CompileJob.Proofs.Text.Reading
import CompileJob.Proofs.Text.Utf8
import CompileJob.Proofs.Compiler.Message
import CompileJob.Proofs.Sorting
import CompileJob.Proofs.Compiler.Tools
import CompileJob.Proofs.Backend.Lookup
import CompileJob.Proofs.Job.Selection
import CompileJob.Proofs.Source.Naming
import CompileJob.Proofs.Executor.Result
import CompileJob.Proofs.Compiler.Memory
import CompileJob.Proofs.Json.Roundtrip
import CompileJob.Proofs.Job.Printing
import CompileJob.Proofs.CommandLine
import CompileJob.Proofs.Duration
import CompileJob.Proofs.Executor.Processor
