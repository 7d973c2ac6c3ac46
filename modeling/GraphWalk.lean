import GraphWalk.Action
import GraphWalk.Architype.Basic
import GraphWalk.Architype.Fields
import GraphWalk.Architype.Kind
import GraphWalk.Body
import GraphWalk.Command.Describe
import GraphWalk.Command.Run
import GraphWalk.Command.Session
import GraphWalk.Command.Tree
import GraphWalk.Dispatch
import GraphWalk.Expr.Access
import GraphWalk.Expr.Basic
import GraphWalk.Expr.Eval
import GraphWalk.Expr.Format
import GraphWalk.Expr.Function
import GraphWalk.Expr.Issue
import GraphWalk.Expr.Operator
import GraphWalk.Fault
import GraphWalk.Files.Entry
import GraphWalk.Globals
import GraphWalk.Handle
import GraphWalk.Inspect
import GraphWalk.Json.Basic
import GraphWalk.Json.Parse
import GraphWalk.Log
import GraphWalk.Main
import GraphWalk.Module.Basic
import GraphWalk.Module.Draft
import GraphWalk.Module.Read
import GraphWalk.Module.Order
import GraphWalk.Module.Resolve
import GraphWalk.Module.TypeExpr
import GraphWalk.Natives
import GraphWalk.Natives.Standard
import GraphWalk.Number.Basic
import GraphWalk.Number.Decimal
import GraphWalk.Number.Double
import GraphWalk.Number.Read
import GraphWalk.Proofs.Architype.Fields
import GraphWalk.Proofs.Handle.Text
import GraphWalk.Proofs.Module.Collect
import GraphWalk.Proofs.Module.Epoch
import GraphWalk.Proofs.Module.Order
import GraphWalk.Proofs.Module.Resolve
import GraphWalk.Proofs.Registry.Link
import GraphWalk.Proofs.Registry.Register
import GraphWalk.Proofs.Snapshot.Restore
import GraphWalk.Proofs.Snapshot.Copy
import GraphWalk.Proofs.Store.Arena
import GraphWalk.Proofs.Store.Formed
import GraphWalk.Proofs.Store.Issue
import GraphWalk.Proofs.Store.Joined
import GraphWalk.Proofs.Store.Lookup
import GraphWalk.Proofs.Store.Records
import GraphWalk.Proofs.Store.Run
import GraphWalk.Proofs.Store.Shift
import GraphWalk.Proofs.Store.Stale
import GraphWalk.Proofs.Value.Keys
import GraphWalk.Proofs.Walker.Edits
import GraphWalk.Proofs.Walker.Known
import GraphWalk.Proofs.Walker.Outcome
import GraphWalk.Proofs.Walker.Pins
import GraphWalk.Proofs.Walker.Turns
import GraphWalk.Proofs.World.Declare
import GraphWalk.Proofs.World.Load
import GraphWalk.Registry.Basic
import GraphWalk.Registry.Link
import GraphWalk.Script.Run
import GraphWalk.Script.Statement
import GraphWalk.Settings.Basic
import GraphWalk.Settings.Document
import GraphWalk.Settings.Flag
import GraphWalk.Settings.Pairs
import GraphWalk.Settings.Sources
import GraphWalk.Settings.Value
import GraphWalk.Settings.Toml.Figure
import GraphWalk.Settings.Toml.Item
import GraphWalk.Settings.Toml.Problem
import GraphWalk.Settings.Toml.Seen
import GraphWalk.Settings.Toml.Text
import GraphWalk.Settings.Yaml.Cursor
import GraphWalk.Settings.Yaml.Datum
import GraphWalk.Settings.Yaml.Fault
import GraphWalk.Settings.Yaml.Node
import GraphWalk.Settings.Yaml.Resolve
import GraphWalk.Settings.Yaml.Scanner
import GraphWalk.Settings.Yaml.Text
import GraphWalk.Snapshot.Archive
import GraphWalk.Snapshot.ArchiveFile
import GraphWalk.Snapshot.Backend
import GraphWalk.Snapshot.Basic
import GraphWalk.Snapshot.GraphDatabase
import GraphWalk.Source.Document
import GraphWalk.Source.Parse
import GraphWalk.Source.Token
import GraphWalk.Source.Scan
import GraphWalk.Source.Schema
import GraphWalk.Source.Template
import GraphWalk.Store.Arena
import GraphWalk.Store.Basic
import GraphWalk.Text.Split
import GraphWalk.Text.Bytes
import GraphWalk.Text.Case
import GraphWalk.Text.Compose
import GraphWalk.Text.Grapheme
import GraphWalk.Text.Identifier
import GraphWalk.Text.Mark
import GraphWalk.Text.Quoted
import GraphWalk.Text.Ranges
import GraphWalk.Time
import GraphWalk.Value.Basic
import GraphWalk.Value.Equality
import GraphWalk.Value.Conversion
import GraphWalk.Value.Engine
import GraphWalk.Value.Hint
import GraphWalk.Value.Literal
import GraphWalk.Value.Preference
import GraphWalk.Value.Text
import GraphWalk.Value.Type
import GraphWalk.View
import GraphWalk.Walker.Basic
import GraphWalk.Walker.Engine
import GraphWalk.Walker.Payload
import GraphWalk.Walker.Step
import GraphWalk.Walker.Trace
import GraphWalk.Web.IpAddress
import GraphWalk.Web.RequestLine
import GraphWalk.Web.Transport
import GraphWalk.Web.Url
import GraphWalk.World.Basic
import GraphWalk.World.Seed
import GraphWalk.Proofs.Walker.Bodies
import GraphWalk.Proofs.Walker.Queue
import GraphWalk.Proofs.Module.Permutation
import GraphWalk.Proofs.Registry.Again
import GraphWalk.Proofs.Module.Again
import GraphWalk.Proofs.Module.Canonical
import GraphWalk.Proofs.Walker.Story
import GraphWalk.Proofs.Walker.Schedule
import GraphWalk.Proofs.Snapshot.Order
import GraphWalk.Proofs.Snapshot.Rollback
import GraphWalk.Proofs.Snapshot.Archive
import GraphWalk.Proofs.Walker.Record
import GraphWalk.Proofs.Registry.Hierarchy
import GraphWalk.Proofs.Registry.InPlace
import GraphWalk.Proofs.Registry.Visit
import GraphWalk.Proofs.Registry.Members
import GraphWalk.Proofs.Registry.Override
import GraphWalk.Proofs.Module.Binding
import GraphWalk.Proofs.Registry.Way
import GraphWalk.Proofs.Registry.Report
import GraphWalk.Proofs.Module.Search
import GraphWalk.Proofs.Module.Cycles
import GraphWalk.Proofs.Store.Hops
import GraphWalk.Proofs.Store.Deletion
import GraphWalk.Proofs.Globals.Scope
import GraphWalk.Proofs.Globals.Writes
import GraphWalk.Proofs.World.Build
import GraphWalk.Proofs.World.Fresh
import GraphWalk.Proofs.World.Reload
import GraphWalk.Proofs.Script.Writes
import GraphWalk.Proofs.Script.Graph
import GraphWalk.Proofs.Time.Short
import GraphWalk.Proofs.Snapshot.GraphDatabase
import GraphWalk.Proofs.Source.Parse
import GraphWalk.Proofs.Module.SourceOrder
import GraphWalk.Proofs.Web.Target
import GraphWalk.Proofs.World.Operations
import GraphWalk.Proofs.Inspect.Nodes
import GraphWalk.Proofs.Architype.Path
import GraphWalk.Proofs.Module.TypeExpr
import GraphWalk.Proofs.Architype.Writes
import GraphWalk.Proofs.Files.Find
