import PullRequestBot.Calendar.Printer
import PullRequestBot.Calendar.Reader
import PullRequestBot.Calendar.Timestamp
import PullRequestBot.CommandLine.Basic
import PullRequestBot.CommandLine.Grammar
import PullRequestBot.CommandLine.Matching
import PullRequestBot.CommandLine.Reader
import PullRequestBot.Dialogue
import PullRequestBot.Failure
import PullRequestBot.Git.Branching
import PullRequestBot.Git.Client
import PullRequestBot.Git.Command
import PullRequestBot.Git.Listing
import PullRequestBot.Git.Lock
import PullRequestBot.Git.Repository
import PullRequestBot.Git.Runner
import PullRequestBot.HashTable
import PullRequestBot.Host.Basic
import PullRequestBot.Host.FileTree
import PullRequestBot.Host.Path
import PullRequestBot.Host.Simulation
import PullRequestBot.Host.SystemFailure
import PullRequestBot.Hosting.Address
import PullRequestBot.Hosting.Backend
import PullRequestBot.Hosting.DryRun
import PullRequestBot.Hosting.Live
import PullRequestBot.Hosting.PullRequest.Basic
import PullRequestBot.Hosting.PullRequest.Reader
import PullRequestBot.Hosting.PullRequest.Trim
import PullRequestBot.Hosting.Quota
import PullRequestBot.Hosting.Selection
import PullRequestBot.Json.Basic
import PullRequestBot.Json.Decode
import PullRequestBot.Json.Printer
import PullRequestBot.Json.Reader
import PullRequestBot.Log.Event
import PullRequestBot.Log.Level
import PullRequestBot.Log.Listener
import PullRequestBot.Log.Printer
import PullRequestBot.Log.Setup
import PullRequestBot.Main
import PullRequestBot.Number.Binary64
import PullRequestBot.Number.Digit
import PullRequestBot.Number.Notation
import PullRequestBot.Number.Shortest
import PullRequestBot.Number.Spelled
import PullRequestBot.Number.Word
import PullRequestBot.Program
import PullRequestBot.Proofs.Calendar.Days
import PullRequestBot.Proofs.Calendar.Written
import PullRequestBot.Proofs.Dialogue.Stateful
import PullRequestBot.Proofs.Dialogue.Transcript
import PullRequestBot.Proofs.Git.Branching.Course
import PullRequestBot.Proofs.Git.Branching.Failures
import PullRequestBot.Proofs.Git.Branching.Frame
import PullRequestBot.Proofs.Git.Branching.Rerun
import PullRequestBot.Proofs.Git.Branching.Route
import PullRequestBot.Proofs.Git.Branching.Turn
import PullRequestBot.Proofs.Git.ChangedPaths
import PullRequestBot.Proofs.Git.Checkout
import PullRequestBot.Proofs.Git.FailureSecrecy
import PullRequestBot.Proofs.Git.Locality
import PullRequestBot.Proofs.Git.MaskedDecisions
import PullRequestBot.Proofs.Git.Operation
import PullRequestBot.Proofs.Git.RunCourse
import PullRequestBot.Proofs.Git.RunnerSecrecy
import PullRequestBot.Proofs.Git.Workspace
import PullRequestBot.Proofs.Host.Alike
import PullRequestBot.Proofs.Host.World
import PullRequestBot.Proofs.Hosting.Accounts
import PullRequestBot.Proofs.Hosting.Agreement
import PullRequestBot.Proofs.Hosting.Call
import PullRequestBot.Proofs.Hosting.Convergence
import PullRequestBot.Proofs.Hosting.DryRunCourse
import PullRequestBot.Proofs.Hosting.DryRunSilence
import PullRequestBot.Proofs.Hosting.Effect
import PullRequestBot.Proofs.Hosting.Fork
import PullRequestBot.Proofs.Hosting.Known
import PullRequestBot.Proofs.Hosting.Ledger
import PullRequestBot.Proofs.Hosting.Login
import PullRequestBot.Proofs.Hosting.Mirror
import PullRequestBot.Proofs.Hosting.OneLogin
import PullRequestBot.Proofs.Hosting.Platform
import PullRequestBot.Proofs.Hosting.Posting
import PullRequestBot.Proofs.Hosting.PullRequest.Fields
import PullRequestBot.Proofs.Hosting.PullRequest.Opened
import PullRequestBot.Proofs.Hosting.PullRequest.Reading
import PullRequestBot.Proofs.Hosting.PullRequest.RoundTrip
import PullRequestBot.Proofs.Hosting.PullRequest.Trimming
import PullRequestBot.Proofs.Hosting.Script
import PullRequestBot.Proofs.Hosting.Simulation
import PullRequestBot.Proofs.Hosting.Site
import PullRequestBot.Proofs.Hosting.TokenMasking
import PullRequestBot.Proofs.Json.Record
import PullRequestBot.Proofs.Json.Written
import PullRequestBot.Proofs.Program.DryRun
import PullRequestBot.Proofs.Program.Flags
import PullRequestBot.Proofs.Redactor.Exactness
import PullRequestBot.Proofs.Redactor.Idempotence
import PullRequestBot.Proofs.Redactor.Secrecy
import PullRequestBot.Proofs.Redactor.Separators
import PullRequestBot.Proofs.Result
import PullRequestBot.Proofs.Settings.Keyed
import PullRequestBot.Proofs.Settings.Layers
import PullRequestBot.Proofs.Settings.Likeness
import PullRequestBot.Proofs.Settings.Loading
import PullRequestBot.Proofs.Settings.Naming
import PullRequestBot.Proofs.Settings.Precedence
import PullRequestBot.Proofs.Settings.Reading
import PullRequestBot.Proofs.Settings.Uniformity
import PullRequestBot.Proofs.Settings.VariableText
import PullRequestBot.Proofs.Web.PlainPath
import PullRequestBot.Redactor
import PullRequestBot.Redactor.Marks
import PullRequestBot.Settings.Basic
import PullRequestBot.Settings.Environment
import PullRequestBot.Settings.KeyPath
import PullRequestBot.Settings.Loader
import PullRequestBot.Settings.Mismatch
import PullRequestBot.Settings.Reader
import PullRequestBot.Settings.Tree
import PullRequestBot.Text.Base64
import PullRequestBot.Text.Blank
import PullRequestBot.Text.Boundary
import PullRequestBot.Text.CaseTable
import PullRequestBot.Text.CodeTable
import PullRequestBot.Text.CombiningClass
import PullRequestBot.Text.Composed
import PullRequestBot.Text.CompositeTable
import PullRequestBot.Text.EscapedTable
import PullRequestBot.Text.Lowercase
import PullRequestBot.Text.Mark
import PullRequestBot.Text.Punycode
import PullRequestBot.Text.Quoted
import PullRequestBot.Text.Split
import PullRequestBot.Text.Utf8
import PullRequestBot.Toml.Basic
import PullRequestBot.Toml.Reader
import PullRequestBot.Toml.Scalar
import PullRequestBot.Web.Domain
import PullRequestBot.Web.Domain.Direction
import PullRequestBot.Web.Domain.Joiner
import PullRequestBot.Web.Domain.Label
import PullRequestBot.Web.Domain.MappingTable
import PullRequestBot.Web.Http
import PullRequestBot.Web.Ipv4
import PullRequestBot.Web.Ipv6
import PullRequestBot.Web.Percent
import PullRequestBot.Web.Segments
import PullRequestBot.Web.Server
import PullRequestBot.Web.Url
import PullRequestBot.Web.Url.Reader
import PullRequestBot.Proofs.Git.CheckoutCourse
import PullRequestBot.Proofs.Git.FirstCommand
import PullRequestBot.Proofs.Web.Division
import PullRequestBot.Proofs.Hosting.KeptHost
import PullRequestBot.Proofs.Web.Addressable
import PullRequestBot.Proofs.Hosting.Addressing
import PullRequestBot.Proofs.Git.HeadCommit
import PullRequestBot.Proofs.Json.Place
import PullRequestBot.Proofs.Hosting.PullRequest.Projection
import PullRequestBot.Proofs.Text.Decoded
import PullRequestBot.Proofs.Text.Digits
import PullRequestBot.Proofs.Json.Numeral
import PullRequestBot.Proofs.Json.Grammar
import PullRequestBot.Proofs.Json.Spelling
import PullRequestBot.Proofs.Json.Accepted
import PullRequestBot.Proofs.Hosting.QuotaAnswer
