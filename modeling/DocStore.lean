import DocStore.Backup
import DocStore.Cli.Grammar
import DocStore.Cli.Machine
import DocStore.Cli.Run
import DocStore.Config
import DocStore.Config.Yaml
import DocStore.Document
import DocStore.Engine.Connection
import DocStore.Engine.Faults
import DocStore.Engine.Session
import DocStore.Error
import DocStore.Field
import DocStore.Image
import DocStore.Image.Catalog
import DocStore.Image.Entries
import DocStore.Image.Geometry
import DocStore.Image.Integrity
import DocStore.Image.Page
import DocStore.Image.Record
import DocStore.Image.Row
import DocStore.Image.Verdict
import DocStore.Image.Write.Balance
import DocStore.Image.Write.Cells
import DocStore.Image.Write.File
import DocStore.Image.Write.Statements
import DocStore.Image.Write.Tree
import DocStore.Image.Write.Vacuum
import DocStore.Json.Reader
import DocStore.Json.Value
import DocStore.Json.Writer
import DocStore.Listen.Diff
import DocStore.Listen.Registry
import DocStore.Main
import DocStore.Numeric.Binary64
import DocStore.Numeric.Extended
import DocStore.Numeric.Shortest
import DocStore.Patch
import DocStore.Proofs.Atomicity
import DocStore.Proofs.CallTrace
import DocStore.Proofs.DocumentKeys
import DocStore.Proofs.DocumentDeliveries
import DocStore.Proofs.DotExpansion
import DocStore.Proofs.ExactDiff
import DocStore.Proofs.FailedWrites
import DocStore.Proofs.GroupPredicate
import DocStore.Proofs.HandleLifecycle
import DocStore.Proofs.ImageHeader
import DocStore.Proofs.IndexNames
import DocStore.Proofs.Lexemes
import DocStore.Proofs.Linearizability
import DocStore.Proofs.Notifications
import DocStore.Proofs.QueryDiffs
import DocStore.Proofs.QueryValidation
import DocStore.Proofs.ReferencePaths
import DocStore.Proofs.QueryCounts
import DocStore.Proofs.QueryLimits
import DocStore.Proofs.RetryRounds
import DocStore.Proofs.Runs
import DocStore.Proofs.SchemaGrowth
import DocStore.Proofs.SortedReads
import DocStore.Proofs.StatementLayouts
import DocStore.Proofs.StatementReading
import DocStore.Proofs.TimestampPaths
import DocStore.Proofs.Statements
import DocStore.Proofs.Transactions
import DocStore.Proofs.ValueOrder
import DocStore.Proofs.WriteBatches
import DocStore.Query.Basic
import DocStore.Query.Compile
import DocStore.Reference
import DocStore.Sql.Aggregate
import DocStore.Sql.Catalog
import DocStore.Sql.Content
import DocStore.Sql.Convert
import DocStore.Sql.DateTime
import DocStore.Sql.Ddl
import DocStore.Sql.Eval
import DocStore.Sql.Expr
import DocStore.Sql.Functions
import DocStore.Sql.Json
import DocStore.Sql.Json.Node
import DocStore.Sql.Lexer
import DocStore.Sql.Modify
import DocStore.Sql.Numeral
import DocStore.Sql.Operators
import DocStore.Sql.Parser
import DocStore.Sql.Pragma
import DocStore.Sql.Printf
import DocStore.Sql.Resolve
import DocStore.Sql.Schema
import DocStore.Sql.Sorting
import DocStore.Sql.Statement
import DocStore.Sql.Tables
import DocStore.Sql.Text
import DocStore.Sql.Value
import DocStore.Sql.Window
import DocStore.Store.Batch
import DocStore.Store.Database
import DocStore.Store.Files
import DocStore.Store.Snapshot
import DocStore.Text.Classes
import DocStore.Text.Printable
import DocStore.Text.Utf8
import DocStore.Time.Instant
import DocStore.Time.Parse
import DocStore.Workspace
import DocStore.Yaml.Emitter
import DocStore.Yaml.Load
import DocStore.Yaml.Parser
import DocStore.Yaml.Scanner
