import EditorPlugins.Binary64
import EditorPlugins.Boundary.Arguments
import EditorPlugins.Boundary.HostValue
import EditorPlugins.Capability.Action
import EditorPlugins.Capability.Check
import EditorPlugins.CommandId
import EditorPlugins.CommandLine.EnvFile
import EditorPlugins.CommandLine.Options
import EditorPlugins.CommandLine.Report
import EditorPlugins.CommandLine.Run
import EditorPlugins.Compatibility
import EditorPlugins.Configuration
import EditorPlugins.Decimal.Digits
import EditorPlugins.Decimal.Notation
import EditorPlugins.Dict
import EditorPlugins.Event
import EditorPlugins.Failure
import EditorPlugins.Files.Basic
import EditorPlugins.Files.Operations
import EditorPlugins.Json.Basic
import EditorPlugins.Json.Parser
import EditorPlugins.Json.Printer
import EditorPlugins.Machine.Basic
import EditorPlugins.Machine.Request
import EditorPlugins.Machine.Step
import EditorPlugins.Main
import EditorPlugins.Manifest.Basic
import EditorPlugins.Manifest.Folder
import EditorPlugins.Path
import EditorPlugins.Proofs.Boundary.Chains
import EditorPlugins.Proofs.Boundary.Dictionaries
import EditorPlugins.Proofs.Boundary.Numbers
import EditorPlugins.Proofs.Boundary.Orders
import EditorPlugins.Proofs.Boundary.Places
import EditorPlugins.Proofs.Boundary.RoundTrip
import EditorPlugins.Proofs.Capability.Actions
import EditorPlugins.Proofs.Capability.LogMessages
import EditorPlugins.Proofs.Capability.Parameters
import EditorPlugins.Proofs.Capability.Refusals
import EditorPlugins.Proofs.Capability.Selection
import EditorPlugins.Proofs.CommandLine.Interchange
import EditorPlugins.Proofs.CommandLine.Repeated
import EditorPlugins.Proofs.CommandLine.SettingsKept
import EditorPlugins.Proofs.CommandLine.Trail
import EditorPlugins.Proofs.Files.Growth
import EditorPlugins.Proofs.Files.Making
import EditorPlugins.Proofs.Files.Names
import EditorPlugins.Proofs.Files.Tree
import EditorPlugins.Proofs.Files.Writing
import EditorPlugins.Proofs.Json.Sorted
import EditorPlugins.Proofs.Json.TextFields
import EditorPlugins.Proofs.Machine.Broadcast
import EditorPlugins.Proofs.Machine.Change
import EditorPlugins.Proofs.Machine.Execution
import EditorPlugins.Proofs.Machine.FileContents
import EditorPlugins.Proofs.Machine.Heaps
import EditorPlugins.Proofs.Machine.History
import EditorPlugins.Proofs.Machine.Isolation
import EditorPlugins.Proofs.Machine.LoadEvent
import EditorPlugins.Proofs.Machine.MemoryLimit
import EditorPlugins.Proofs.Machine.ModuleSearch
import EditorPlugins.Proofs.Machine.Nesting
import EditorPlugins.Proofs.Machine.Outcomes
import EditorPlugins.Proofs.Machine.PluginCall
import EditorPlugins.Proofs.Machine.Quiet
import EditorPlugins.Proofs.Machine.Reachable
import EditorPlugins.Proofs.Machine.Saving
import EditorPlugins.Proofs.Machine.Scene
import EditorPlugins.Proofs.Machine.SoleLoad
import EditorPlugins.Proofs.Machine.Stores
import EditorPlugins.Proofs.Machine.Transport
import EditorPlugins.Proofs.Machine.Twins
import EditorPlugins.Proofs.Manifest.Confinement
import EditorPlugins.Proofs.Manifest.Format
import EditorPlugins.Proofs.Manifest.Reading
import EditorPlugins.Proofs.Manifest.RoundTrip
import EditorPlugins.Proofs.Manifest.Rules
import EditorPlugins.Proofs.Registry.ActiveStack
import EditorPlugins.Proofs.Registry.Attempts
import EditorPlugins.Proofs.Registry.CommandListing
import EditorPlugins.Proofs.Registry.Commands
import EditorPlugins.Proofs.Registry.Configs
import EditorPlugins.Proofs.Registry.Detached
import EditorPlugins.Proofs.Registry.FailedLoads
import EditorPlugins.Proofs.Registry.Failures
import EditorPlugins.Proofs.Registry.Finalization
import EditorPlugins.Proofs.Registry.LastErrors
import EditorPlugins.Proofs.Registry.LoadOrder
import EditorPlugins.Proofs.Registry.Manifests
import EditorPlugins.Proofs.Registry.Ownership
import EditorPlugins.Proofs.Registry.Renewal
import EditorPlugins.Proofs.Registry.Sandboxes
import EditorPlugins.Proofs.Registry.SettingsApart
import EditorPlugins.Proofs.Script.LibraryHeap
import EditorPlugins.Proofs.Script.TableLength
import EditorPlugins.Proofs.Script.TablePositions
import EditorPlugins.Proofs.Store.ConfigFiles
import EditorPlugins.Proofs.Store.Configs
import EditorPlugins.Proofs.Store.Settings
import EditorPlugins.Proofs.Store.Unwritten
import EditorPlugins.Proofs.Text.ByteOrder
import EditorPlugins.Proofs.Version.TextOrder
import EditorPlugins.Proofs.World.Confined
import EditorPlugins.Proofs.World.Operations
import EditorPlugins.Proofs.World.Requests
import EditorPlugins.Proofs.World.Rest
import EditorPlugins.Proofs.World.Saving
import EditorPlugins.Proofs.World.Settings
import EditorPlugins.Script.Capability
import EditorPlugins.Script.Meaning
import EditorPlugins.Script.Program
import EditorPlugins.Script.Snapshot
import EditorPlugins.Script.Syntax
import EditorPlugins.Script.Table
import EditorPlugins.Script.Value
import EditorPlugins.SemVer
import EditorPlugins.Session.FileChange
import EditorPlugins.Session.Operation
import EditorPlugins.Store.PluginConfigs
import EditorPlugins.Store.SettingsFile
import EditorPlugins.Store.Texts
import EditorPlugins.Text.Blank
import EditorPlugins.Text.Hidden
import EditorPlugins.Text.Letter
import EditorPlugins.Text.Quoted
import EditorPlugins.Text.Split
import EditorPlugins.Text.Utf8
import EditorPlugins.World.Basic
import EditorPlugins.World.Host
import EditorPlugins.World.Plugins
import EditorPlugins.World.Registry
import EditorPlugins.World.Sandbox
