import LineStore.Cache.Basic
import LineStore.Cache.Describe
import LineStore.Cache.Resolve
import LineStore.Cache.Select
import LineStore.Cache.Source
import LineStore.Cli.Action
import LineStore.Cli.Command
import LineStore.Cli.Completion
import LineStore.Cli.Flag
import LineStore.Cli.Help
import LineStore.Cli.Info
import LineStore.Cli.Parse
import LineStore.Cli.Program
import LineStore.Cli.Show
import LineStore.Cli.Source
import LineStore.Cli.Watch
import LineStore.Config.Basic
import LineStore.Config.Load
import LineStore.Data.Assoc
import LineStore.Data.CommonSubsequence
import LineStore.Data.StableSort
import LineStore.Data.Value
import LineStore.Docs.Generate
import LineStore.Docs.Page
import LineStore.File.Disk
import LineStore.File.Host
import LineStore.File.Lines
import LineStore.File.Path
import LineStore.File.Reference
import LineStore.File.World
import LineStore.Hash.Sha1
import LineStore.Hash.XxHash64
import LineStore.Json.Layout
import LineStore.Json.Part
import LineStore.Json.Path
import LineStore.Json.Printer
import LineStore.Json.Query
import LineStore.Json.Reshape
import LineStore.Json.Valid
import LineStore.Json.Wildcard
import LineStore.Log.Event
import LineStore.Log.Record
import LineStore.Main
import LineStore.Number.Binary64
import LineStore.Number.Format
import LineStore.Number.Int64
import LineStore.Number.Read
import LineStore.Number.Shortest
import LineStore.Pattern.Basic
import LineStore.Pattern.ClassData
import LineStore.Pattern.Parser
import LineStore.Pattern.Program
import LineStore.Table.Attribute
import LineStore.Table.Cell
import LineStore.Table.Chop
import LineStore.Table.Dataset
import LineStore.Table.Filter
import LineStore.Table.Grid
import LineStore.Table.Output
import LineStore.Table.Sort
import LineStore.Table.Transform
import LineStore.Text.Bytes
import LineStore.Text.Case
import LineStore.Text.CaseData
import LineStore.Text.CodeTable
import LineStore.Text.Color
import LineStore.Text.Grapheme
import LineStore.Text.GraphemeData
import LineStore.Text.PrintData
import LineStore.Text.Quoted
import LineStore.Text.Sequence
import LineStore.Text.Space
import LineStore.Text.Style
import LineStore.Text.Terminal
import LineStore.Text.Utf8
import LineStore.Text.Wrap
import LineStore.Time.Civil
import LineStore.Time.Instant
import LineStore.Time.Timestamp
import LineStore.Time.Zone
import LineStore.Time.ZoneData
import LineStore.Watch.LineDiff
import LineStore.Watch.Quota
import LineStore.Watch.Watcher
import LineStore.Yaml.Data
import LineStore.Yaml.Expansion
import LineStore.Yaml.Node
import LineStore.Yaml.Printer
import LineStore.Yaml.Scalar
import LineStore.Yaml.Scanner
import LineStore.Yaml.Stream
import LineStore.Yaml.Token
import LineStore.Proofs.Cache.Load
import LineStore.Proofs.Cache.Check
import LineStore.Proofs.Cache.Run
import LineStore.Proofs.Cache.Provenance
import LineStore.Proofs.Cache.Reload
import LineStore.Proofs.Cache.Sweep
import LineStore.Proofs.Watch.Scan
import LineStore.Proofs.Watch.Reports
import LineStore.Proofs.File.Path
import LineStore.Proofs.Cache.Access
import LineStore.Proofs.Cache.Snapshot
import LineStore.Proofs.Cache.Failure
import LineStore.Proofs.Cache.Memory
import LineStore.Proofs.Cache.Alias
import LineStore.Proofs.Cache.Budget
import LineStore.Proofs.File.Lines
import LineStore.Proofs.Cache.Digest
import LineStore.Proofs.Config.Lookup
import LineStore.Proofs.Config.Run
import LineStore.Proofs.Data.StableSort
import LineStore.Proofs.Json.Printer
import LineStore.Proofs.Table.Rows
import LineStore.Proofs.Table.Emit
import LineStore.Proofs.Table.Objects
import LineStore.Proofs.Number.Int64
import LineStore.Proofs.Text.Space
import LineStore.Proofs.Cache.Select
import LineStore.Proofs.Data.StablySorted
import LineStore.Proofs.Data.MergeRuns
import LineStore.Proofs.Table.CellOrder
import LineStore.Proofs.Table.SortRows
import LineStore.Proofs.Table.SortSpec
import LineStore.Proofs.Number.Binary64
import LineStore.Proofs.Table.Numeral
import LineStore.Proofs.Table.Limit
import LineStore.Proofs.Table.Marks
import LineStore.Proofs.Table.Chop
import LineStore.Proofs.Table.Columns
import LineStore.Proofs.Table.Settled
import LineStore.Proofs.Table.RowOrder
import LineStore.Proofs.Table.Clause
import LineStore.Proofs.Table.Accepted
import LineStore.Proofs.Table.Shortened
import LineStore.Proofs.Table.Names
import LineStore.Proofs.Table.Specs
import LineStore.Proofs.Table.ListText
import LineStore.Proofs.Text.Utf8
import LineStore.Proofs.Cache.Candidates
import LineStore.Proofs.Docs.Section
import LineStore.Proofs.Table.Elided
import LineStore.Proofs.Cache.Describe
import LineStore.Proofs.File.Place
import LineStore.Proofs.Watch.Quota
import LineStore.Proofs.File.Disk
import LineStore.Proofs.Docs.Generate
