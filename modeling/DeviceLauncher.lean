import DeviceLauncher.Calendar
import DeviceLauncher.Child.Process
import DeviceLauncher.Child.Run
import DeviceLauncher.Child.Shell.Command
import DeviceLauncher.Child.Shell.Run
import DeviceLauncher.Child.Shell.Session
import DeviceLauncher.Child.Shell.Token
import DeviceLauncher.Child.Shell.Word
import DeviceLauncher.Child.System
import DeviceLauncher.Child.Utility
import DeviceLauncher.Child.Utility.Condition
import DeviceLauncher.Child.Utility.File
import DeviceLauncher.Child.Utility.Print
import DeviceLauncher.CommandLine.Options
import DeviceLauncher.CommandLine.Split
import DeviceLauncher.Config
import DeviceLauncher.Config.Load
import DeviceLauncher.Decimal.Shortest
import DeviceLauncher.Environment
import DeviceLauncher.Failure
import DeviceLauncher.FileSystem.Basic
import DeviceLauncher.FileSystem.Canonical
import DeviceLauncher.FileSystem.Change
import DeviceLauncher.FileSystem.Refusal
import DeviceLauncher.Install.Directory
import DeviceLauncher.Install.File
import DeviceLauncher.Launch.Context
import DeviceLauncher.Launch.Dispatch
import DeviceLauncher.Launch.Init
import DeviceLauncher.Launch.Run
import DeviceLauncher.Log.Level
import DeviceLauncher.Log.Notice
import DeviceLauncher.Log.Setup
import DeviceLauncher.Machine
import DeviceLauncher.Main
import DeviceLauncher.Path
import DeviceLauncher.Path.Home
import DeviceLauncher.Pipeline
import DeviceLauncher.Proofs.Action
import DeviceLauncher.Proofs.CommandLine.Split
import DeviceLauncher.Proofs.Config
import DeviceLauncher.Proofs.FileSystem.Canonical
import DeviceLauncher.Proofs.FileSystem.Descend
import DeviceLauncher.Proofs.FileSystem.Frame
import DeviceLauncher.Proofs.FileSystem.Resolve
import DeviceLauncher.Proofs.FileSystem.Settled
import DeviceLauncher.Proofs.FileSystem.Walk
import DeviceLauncher.Proofs.FileSystem.WellFormed
import DeviceLauncher.Proofs.Install.Directory
import DeviceLauncher.Proofs.Install.File
import DeviceLauncher.Proofs.Launch.Again
import DeviceLauncher.Proofs.Launch.Command
import DeviceLauncher.Proofs.Launch.Failure
import DeviceLauncher.Proofs.Launch.Frame
import DeviceLauncher.Proofs.Launch.Init
import DeviceLauncher.Proofs.Launch.Run
import DeviceLauncher.Proofs.Path
import DeviceLauncher.Status
import DeviceLauncher.Text.Base64
import DeviceLauncher.Text.Blank
import DeviceLauncher.Text.Digit
import DeviceLauncher.Text.Literal
import DeviceLauncher.Text.LowerCase
import DeviceLauncher.Text.Printable
import DeviceLauncher.Text.ShellWord
import DeviceLauncher.Value.Basic
import DeviceLauncher.Value.Text
import DeviceLauncher.Yaml.Cursor
import DeviceLauncher.Yaml.Document
import DeviceLauncher.Yaml.Fault
import DeviceLauncher.Yaml.Graph
import DeviceLauncher.Yaml.Kind
import DeviceLauncher.Yaml.Meaning
import DeviceLauncher.Yaml.Merge
import DeviceLauncher.Yaml.Number
import DeviceLauncher.Yaml.Reader
import DeviceLauncher.Yaml.Scalar
import DeviceLauncher.Yaml.Time
import DeviceLauncher.Yaml.Token
import DeviceLauncher.Yaml.Token.Scanner
import DeviceLauncher.Yaml.Token.Scalar
import DeviceLauncher.Yaml.Tree
import DeviceLauncher.Proofs.CommandLine.Options
import DeviceLauncher.Proofs.Launch.DryRun
import DeviceLauncher.Proofs.Log.Setup
import DeviceLauncher.Proofs.Log.Delivery
import DeviceLauncher.Proofs.Launch.LeadingOptions
import DeviceLauncher.Proofs.CommandLine.Word
import DeviceLauncher.Proofs.CommandLine.Words
import DeviceLauncher.Proofs.Launch.DryProgram
import DeviceLauncher.Proofs.Launch.Forecast
import DeviceLauncher.Proofs.Text.ShellWord
import DeviceLauncher.Proofs.Launch.Spelling
import DeviceLauncher.Proofs.Pipeline
import DeviceLauncher.Proofs.Install.Placed
import DeviceLauncher.Proofs.Launch.Installed
import DeviceLauncher.Proofs.FileSystem.Above
import DeviceLauncher.Proofs.FileSystem.Stop
import DeviceLauncher.Proofs.Install.Refusal
import DeviceLauncher.Proofs.Config.Load
import DeviceLauncher.Proofs.FileSystem.OneName
import DeviceLauncher.Proofs.Launch.SameFile
import DeviceLauncher.Proofs.Config.Content
import DeviceLauncher.Proofs.Launch.EarlyFailure
import DeviceLauncher.Proofs.Value.Text
import DeviceLauncher.Proofs.Config.Manifests
import DeviceLauncher.Proofs.FileSystem.Absolute
import DeviceLauncher.Proofs.Log.Opening
import DeviceLauncher.Proofs.Log.Fallback
import DeviceLauncher.Proofs.CommandLine.Grammar
import DeviceLauncher.Proofs.Path.Normal
import DeviceLauncher.Proofs.Config.PathText
import DeviceLauncher.Proofs.Config.Home
import DeviceLauncher.Proofs.Launch.Progress
import DeviceLauncher.Proofs.Launch.Verdict
