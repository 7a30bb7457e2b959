import MutationTesting.Dependencies.Map
import MutationTesting.Files.Discovery
import MutationTesting.Files.FileSystem
import MutationTesting.Files.Glob
import MutationTesting.Files.ModuleName
import MutationTesting.Files.Path
import MutationTesting.Files.Resolution
import MutationTesting.Files.Snapshot
import MutationTesting.Files.Store
import MutationTesting.Files.Wildcard
import MutationTesting.Mutation.Basic
import MutationTesting.Mutation.Catalog.Branches
import MutationTesting.Mutation.Catalog.Literals
import MutationTesting.Mutation.Catalog.Operators
import MutationTesting.Mutation.Mutant
import MutationTesting.Mutation.Patch
import MutationTesting.Mutation.Walk
import MutationTesting.Number.Amount
import MutationTesting.Number.Binary64
import MutationTesting.Number.Decimal
import MutationTesting.Optimizer.Boundary
import MutationTesting.Optimizer.Equivalence
import MutationTesting.Optimizer.Impact
import MutationTesting.Optimizer.Options
import MutationTesting.Optimizer.Pipeline
import MutationTesting.Optimizer.Sampling
import MutationTesting.Proofs.Dependencies.Bindings
import MutationTesting.Proofs.Dependencies.Imports
import MutationTesting.Proofs.Dependencies.Labels
import MutationTesting.Proofs.Dependencies.TestMap
import MutationTesting.Proofs.Failure
import MutationTesting.Proofs.Files.Access
import MutationTesting.Proofs.Files.Additions
import MutationTesting.Proofs.Files.Changes
import MutationTesting.Proofs.Files.Characters
import MutationTesting.Proofs.Files.Descent
import MutationTesting.Proofs.Files.Escape
import MutationTesting.Proofs.Files.Expansion
import MutationTesting.Proofs.Files.Inside
import MutationTesting.Proofs.Files.Listing
import MutationTesting.Proofs.Files.ModuleBase
import MutationTesting.Proofs.Files.ModuleName
import MutationTesting.Proofs.Files.NormalPath
import MutationTesting.Proofs.Files.Pattern
import MutationTesting.Proofs.Files.RealAddress
import MutationTesting.Proofs.Files.RegularFiles
import MutationTesting.Proofs.Files.SourceListing
import MutationTesting.Proofs.Files.SourcePattern
import MutationTesting.Proofs.Files.TestName
import MutationTesting.Proofs.Files.Trail
import MutationTesting.Proofs.Files.Ways
import MutationTesting.Proofs.Mutation.Application
import MutationTesting.Proofs.Mutation.Census
import MutationTesting.Proofs.Mutation.Collector
import MutationTesting.Proofs.Mutation.Description
import MutationTesting.Proofs.Mutation.Difference
import MutationTesting.Proofs.Mutation.Effect
import MutationTesting.Proofs.Mutation.Generation
import MutationTesting.Proofs.Mutation.Proposal
import MutationTesting.Proofs.Mutation.ProtectedText
import MutationTesting.Proofs.Mutation.Rendering
import MutationTesting.Proofs.Mutation.Replacement
import MutationTesting.Proofs.Mutation.Reversal
import MutationTesting.Proofs.Mutation.Visit
import MutationTesting.Proofs.Mutation.WellFormedness
import MutationTesting.Proofs.Number.Comparison
import MutationTesting.Proofs.Number.Digits
import MutationTesting.Proofs.Number.Rounding
import MutationTesting.Proofs.Optimizer.Boundary
import MutationTesting.Proofs.Optimizer.ComparisonChange
import MutationTesting.Proofs.Optimizer.Complexity
import MutationTesting.Proofs.Optimizer.Equivalence
import MutationTesting.Proofs.Optimizer.Levels
import MutationTesting.Proofs.Optimizer.Ranking
import MutationTesting.Proofs.Optimizer.Reordering
import MutationTesting.Proofs.Optimizer.Report
import MutationTesting.Proofs.Run.Completion
import MutationTesting.Proofs.Run.ConfigurationErrors
import MutationTesting.Proofs.Run.Containment
import MutationTesting.Proofs.Run.CopiedFile
import MutationTesting.Proofs.Run.Deadline
import MutationTesting.Proofs.Run.Description
import MutationTesting.Proofs.Run.Dispatch
import MutationTesting.Proofs.Run.Floor
import MutationTesting.Proofs.Run.FloorRuns
import MutationTesting.Proofs.Run.IdleBlock
import MutationTesting.Proofs.Run.ImportRoot
import MutationTesting.Proofs.Run.Inquiry
import MutationTesting.Proofs.Run.Interleaving
import MutationTesting.Proofs.Run.IsolationAgreement
import MutationTesting.Proofs.Run.LoneWorker
import MutationTesting.Proofs.Run.NestedModules
import MutationTesting.Proofs.Run.Patchable
import MutationTesting.Proofs.Run.PatchedBlock
import MutationTesting.Proofs.Run.PatchedInPlace
import MutationTesting.Proofs.Run.Plan
import MutationTesting.Proofs.Run.ProjectCopy
import MutationTesting.Proofs.Run.RunResults
import MutationTesting.Proofs.Run.SandboxImports
import MutationTesting.Proofs.Run.SandboxIsolation
import MutationTesting.Proofs.Run.SandboxReuse
import MutationTesting.Proofs.Run.SandboxRuns
import MutationTesting.Proofs.Run.SandboxWorker
import MutationTesting.Proofs.Run.Sandboxes
import MutationTesting.Proofs.Run.SearchPath
import MutationTesting.Proofs.Run.Serialization
import MutationTesting.Proofs.Run.SharedFile
import MutationTesting.Proofs.Run.SourceInProject
import MutationTesting.Proofs.Run.SteadyProject
import MutationTesting.Proofs.Run.TestSelection
import MutationTesting.Proofs.Run.TestedMutations
import MutationTesting.Proofs.Run.TestsApart
import MutationTesting.Proofs.Run.Verdict
import MutationTesting.Proofs.Run.WorkerSteps
import MutationTesting.Proofs.Settings.Acceptance
import MutationTesting.Proofs.Settings.FunctionLimit
import MutationTesting.Proofs.Settings.Loading
import MutationTesting.Proofs.Settings.Toml.LongNumber
import MutationTesting.Proofs.Source.Expressions
import MutationTesting.Proofs.Source.MisreadProgram
import MutationTesting.Proofs.Source.Misreading
import MutationTesting.Proofs.Testing.Environment
import MutationTesting.Proofs.Testing.FailureCount
import MutationTesting.Proofs.Testing.LastSummary
import MutationTesting.Proofs.Testing.Score
import MutationTesting.Proofs.Text.Order
import MutationTesting.Proofs.Text.Split
import MutationTesting.Proofs.Tree.Fields
import MutationTesting.Proofs.Tree.Graft
import MutationTesting.Proofs.Tree.Position
import MutationTesting.Proofs.Tree.Shape
import MutationTesting.Proofs.Tree.WellFormed
import MutationTesting.Run.Coordinator
import MutationTesting.Run.Isolation
import MutationTesting.Run.PatchedFile
import MutationTesting.Run.PatchedModule
import MutationTesting.Run.Pool
import MutationTesting.Run.Project
import MutationTesting.Run.Sandbox
import MutationTesting.Settings.Loading
import MutationTesting.Settings.Moment
import MutationTesting.Settings.Reading
import MutationTesting.Settings.RunConfig
import MutationTesting.Settings.Toml.Document
import MutationTesting.Settings.Toml.Number
import MutationTesting.Settings.Toml.Text
import MutationTesting.Settings.Value
import MutationTesting.Shell.Arithmetic
import MutationTesting.Shell.Builtin
import MutationTesting.Shell.Command
import MutationTesting.Shell.Condition
import MutationTesting.Shell.Execution
import MutationTesting.Shell.Launcher
import MutationTesting.Shell.Output
import MutationTesting.Shell.Process
import MutationTesting.Shell.Word
import MutationTesting.Source.Check.Capture
import MutationTesting.Source.Check.Placement
import MutationTesting.Source.Check.Scope
import MutationTesting.Source.FormatString
import MutationTesting.Source.Grammar.Combinator
import MutationTesting.Source.Grammar.Expression
import MutationTesting.Source.Grammar.Pattern
import MutationTesting.Source.Grammar.Statement
import MutationTesting.Source.Numeral
import MutationTesting.Source.Parse
import MutationTesting.Source.Print.LiteralText
import MutationTesting.Source.Print.Precedence
import MutationTesting.Source.Print.Render
import MutationTesting.Source.Scanner
import MutationTesting.Source.StringLiteral
import MutationTesting.Testing.Invocation
import MutationTesting.Testing.Outcome
import MutationTesting.Testing.Process
import MutationTesting.Testing.Script
import MutationTesting.Testing.Tally
import MutationTesting.Text.CharClass
import MutationTesting.Text.CharName
import MutationTesting.Text.CharName.Ancient
import MutationTesting.Text.CharName.Ideographic
import MutationTesting.Text.CharName.Pictures
import MutationTesting.Text.CharName.Symbols
import MutationTesting.Text.CharName.Western
import MutationTesting.Text.CharName.Worldwide
import MutationTesting.Text.CharTable
import MutationTesting.Text.CompatibilityTable
import MutationTesting.Text.CompositionTable
import MutationTesting.Text.IdentifierTable
import MutationTesting.Text.JsonText
import MutationTesting.Text.Normalize
import MutationTesting.Text.Order
import MutationTesting.Text.PrintableTable
import MutationTesting.Text.Quoted
import MutationTesting.Text.Split
import MutationTesting.Text.Utf8
import MutationTesting.Tree.Basic
import MutationTesting.Tree.Grammar
