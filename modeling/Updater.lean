import Updater.Availability
import Updater.Channel
import Updater.Cli.Execute
import Updater.Cli.Help
import Updater.Cli.Parse
import Updater.Cli.Problem
import Updater.Cli.Similar
import Updater.Cli.Spec
import Updater.Config.Model
import Updater.Config.Paths
import Updater.Config.Store
import Updater.Confirm
import Updater.Failure
import Updater.Git.Commands
import Updater.Git.Info
import Updater.Git.Probe
import Updater.Git.ReleaseTag
import Updater.Http.Exchange
import Updater.Http.Status
import Updater.Http.Url
import Updater.Install.Detect
import Updater.Install.Kind
import Updater.Install.Layout
import Updater.Install.Manager
import Updater.Install.Manifest
import Updater.Install.Package
import Updater.Json
import Updater.Json.TextMap
import Updater.Main
import Updater.Options
import Updater.Plugin.Report
import Updater.Plugin.Sync
import Updater.Process.Command
import Updater.Process.Run
import Updater.Process.Runner
import Updater.Process.Scripted
import Updater.Registry
import Updater.Registry.Lookup
import Updater.Report
import Updater.Report.Human
import Updater.Result
import Updater.Service
import Updater.Shell.Arith
import Updater.Shell.Builtins
import Updater.Shell.Exec
import Updater.Shell.Expand
import Updater.Shell.Format
import Updater.Shell.Lex
import Updater.Shell.Parse
import Updater.Shell.Pattern
import Updater.Shell.State
import Updater.Shell.Syntax
import Updater.Shell.Test
import Updater.Shell.Tools
import Updater.Shell.Tools.Arguments
import Updater.Shell.Tools.Cat
import Updater.Shell.Tools.Dates
import Updater.Shell.Tools.Echo
import Updater.Shell.Tools.Help
import Updater.Shell.Tools.Mkdir
import Updater.Shell.Tools.Mode
import Updater.Shell.Tools.Printf
import Updater.Shell.Tools.Program
import Updater.Shell.Tools.Quoting
import Updater.Shell.Tools.Rm
import Updater.Shell.Tools.Sleep
import Updater.Shell.Tools.Touch
import Updater.Status
import Updater.Step
import Updater.System.Expand
import Updater.System.FileSystem
import Updater.System.Machine
import Updater.System.Path
import Updater.Text.Alphanumeric
import Updater.Text.Binary64
import Updater.Text.Blank
import Updater.Text.DebugQuoted
import Updater.Text.Digit
import Updater.Text.Duration
import Updater.Text.Extended
import Updater.Text.FloatDigits
import Updater.Text.Utf8
import Updater.Toml.Datetime
import Updater.Toml.Decode
import Updater.Toml.Document
import Updater.Toml.Error
import Updater.Toml.Lexer
import Updater.Toml.Pretty
import Updater.Toml.Read
import Updater.Toml.Render
import Updater.Toml.Source
import Updater.Toml.Syntax
import Updater.Toml.Value
import Updater.Update.Checkout
import Updater.Update.Engine
import Updater.Update.Executor
import Updater.Update.Lock
import Updater.Update.Pipeline
import Updater.Version.SemVer
import Updater.Version.Target
import Updater.Version.Triple
import Updater.World
import Updater.Proofs.Effects
import Updater.Proofs.Executor
import Updater.Proofs.Sync
import Updater.Proofs.Runs
import Updater.Proofs.WellFormed
import Updater.Proofs.StepTrace
import Updater.Proofs.DirtyTree
import Updater.Proofs.DowngradeGate
import Updater.Proofs.EngineRun
import Updater.Proofs.EarlyStop
import Updater.Proofs.LockedRun
import Updater.Proofs.PlanChoice
import Updater.Proofs.Collaborators
import Updater.Proofs.FinishedRun
import Updater.Proofs.Observer
import Updater.Proofs.TargetResolution
import Updater.Proofs.ChannelResolution
import Updater.Proofs.CoreVersion
import Updater.Proofs.Reconcile
import Updater.Proofs.SemVerOrder
import Updater.Proofs.SemVerText
import Updater.Proofs.NewestRelease
import Updater.Proofs.PackageSwitch
import Updater.Proofs.Detection
import Updater.Proofs.PluginPasses
import Updater.Proofs.PluginInstalls
import Updater.Proofs.Trimming
import Updater.Proofs.RequestValidation
import Updater.Proofs.PackageName
import Updater.Proofs.DocumentReading
import Updater.Proofs.ConfigValues
import Updater.Proofs.CanonicalValues
import Updater.Proofs.ConfigRoundTrip
import Updater.Proofs.ChannelEdit
import Updater.Proofs.ConfigFile
import Updater.Proofs.StepRecords
