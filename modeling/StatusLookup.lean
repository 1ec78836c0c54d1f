import StatusLookup.CommandLine.Run
import StatusLookup.Main
import StatusLookup.Status.FromJson
import StatusLookup.Store.Memory
import StatusLookup.Store.Recorded
import StatusLookup.Store.Shared
import StatusLookup.World
import StatusLookup.Proofs.CommandLine.GlobalOptions
import StatusLookup.Proofs.CommandLine.Outcome
import StatusLookup.Proofs.CommandLine.Report
import StatusLookup.Proofs.Config.Discovery
import StatusLookup.Proofs.Config.Edits
import StatusLookup.Proofs.Config.Entries
import StatusLookup.Proofs.Config.Load
import StatusLookup.Proofs.Config.Prefix
import StatusLookup.Proofs.Config.Shapes
import StatusLookup.Proofs.Config.Written
import StatusLookup.Proofs.Data.Entries
import StatusLookup.Proofs.Data.Fields
import StatusLookup.Proofs.Data.Steps
import StatusLookup.Proofs.FileSystem.Components
import StatusLookup.Proofs.FileSystem.Disk
import StatusLookup.Proofs.FileSystem.Join
import StatusLookup.Proofs.FileSystem.Obstacle
import StatusLookup.Proofs.FileSystem.Parent
import StatusLookup.Proofs.FileSystem.Tree
import StatusLookup.Proofs.FileSystem.Walk
import StatusLookup.Proofs.Json.Text
import StatusLookup.Proofs.Json.Written
import StatusLookup.Proofs.Key.Depth
import StatusLookup.Proofs.Key.Join
import StatusLookup.Proofs.Key.NormalForm
import StatusLookup.Proofs.Key.Sharing
import StatusLookup.Proofs.Key.StatusKey
import StatusLookup.Proofs.Key.Validation
import StatusLookup.Proofs.Key.Walk
import StatusLookup.Proofs.Lookup.Backing
import StatusLookup.Proofs.Lookup.Contract
import StatusLookup.Proofs.Lookup.Files
import StatusLookup.Proofs.Lookup.History
import StatusLookup.Proofs.Lookup.Interchange
import StatusLookup.Proofs.Lookup.Message
import StatusLookup.Proofs.Lookup.Report
import StatusLookup.Proofs.Lookup.Run
import StatusLookup.Proofs.Observed
import StatusLookup.Proofs.Status.Json
import StatusLookup.Proofs.Status.Parse
import StatusLookup.Proofs.Status.Spelling
import StatusLookup.Proofs.Store.Classification
import StatusLookup.Proofs.Store.Confinement
import StatusLookup.Proofs.Store.History
import StatusLookup.Proofs.Store.Memory
import StatusLookup.Proofs.Store.Mirror
import StatusLookup.Proofs.Store.Paths
import StatusLookup.Proofs.Text.Hexadecimal
import StatusLookup.Proofs.Text.Quoted
import StatusLookup.Proofs.Text.Utf8
import StatusLookup.Proofs.Yaml.Block
import StatusLookup.Proofs.Yaml.DoubleQuoted
import StatusLookup.Proofs.Yaml.Explicit
import StatusLookup.Proofs.Yaml.Lines
