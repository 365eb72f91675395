import EntityStore.Console.Arguments
import EntityStore.Console.Command
import EntityStore.Console.Conditions
import EntityStore.Console.Document
import EntityStore.Console.Host
import EntityStore.Console.Local
import EntityStore.Console.LogLevel
import EntityStore.Console.Outcome
import EntityStore.Console.Printing
import EntityStore.Console.Table
import EntityStore.Container.Config
import EntityStore.Container.Load
import EntityStore.Document
import EntityStore.Entries
import EntityStore.Failure
import EntityStore.File
import EntityStore.Filter.Builder
import EntityStore.Filter.Wire
import EntityStore.Identifier
import EntityStore.Json.Reader
import EntityStore.Json.Writer
import EntityStore.Main
import EntityStore.Number.Decimal
import EntityStore.Number.Double
import EntityStore.Number.Exact
import EntityStore.Number.Numeral
import EntityStore.Number.Shortest
import EntityStore.Query.Basic
import EntityStore.Query.Validation
import EntityStore.Remote.Client
import EntityStore.Remote.Service
import EntityStore.Remote.Trace
import EntityStore.Remote.Wire
import EntityStore.Settings
import EntityStore.Sql.Condition
import EntityStore.Sql.Reference
import EntityStore.Sql.Statement
import EntityStore.Store.Backend
import EntityStore.Store.Call
import EntityStore.Store.Logged
import EntityStore.Store.Memory
import EntityStore.Store.Registry
import EntityStore.Store.Router
import EntityStore.Store.Schedule
import EntityStore.Store.Session
import EntityStore.Store.Work
import EntityStore.Text.Blank
import EntityStore.Text.Digits
import EntityStore.Text.Printable
import EntityStore.Text.Quoted
import EntityStore.Text.Shown
import EntityStore.Time.Calendar
import EntityStore.Time.DateTime
import EntityStore.Value.Basic
import EntityStore.Value.Equality
import EntityStore.Value.Scalar
import EntityStore.Value.Shown
import EntityStore.Yaml.Cursor
import EntityStore.Yaml.Node
import EntityStore.Yaml.Reader
import EntityStore.Yaml.Scalar
import EntityStore.Yaml.Tag
import EntityStore.Yaml.Token
import EntityStore.Yaml.Token.Lexer
import EntityStore.Yaml.Token.Scalar
import EntityStore.Proofs.Sql.Token
import EntityStore.Proofs.Sql.Reader
import EntityStore.Proofs.Sql.Piece
import EntityStore.Proofs.Sql.Reference
import EntityStore.Proofs.Sql.Formula
import EntityStore.Proofs.Sql.Condition
import EntityStore.Proofs.Filter.Surviving
import EntityStore.Proofs.Filter.WireForm
import EntityStore.Proofs.Filter.Pruned
import EntityStore.Proofs.Filter.Outline
import EntityStore.Proofs.Sql.Meaning
import EntityStore.Proofs.Sql.Statement
import EntityStore.Proofs.Sql.Placeholder
import EntityStore.Proofs.Store.Router
import EntityStore.Proofs.Store.Stretch
import EntityStore.Proofs.Store.Provisioning
import EntityStore.Proofs.Store.Run
import EntityStore.Proofs.Store.Prepared
import EntityStore.Proofs.Store.Performed
import EntityStore.Proofs.Store.Turn
import EntityStore.Proofs.Store.Rejection
import EntityStore.Proofs.Store.InMemory
import EntityStore.Proofs.Entries
import EntityStore.Proofs.Document
import EntityStore.Proofs.Value.Digest
import EntityStore.Proofs.Value.Equality
import EntityStore.Proofs.Value.Parts
import EntityStore.Proofs.Store.Container
import EntityStore.Proofs.Store.Draft
import EntityStore.Proofs.Store.Written
import EntityStore.Proofs.Store.LastWrite
import EntityStore.Proofs.Time.Calendar
import EntityStore.Proofs.Store.Clock
import EntityStore.Proofs.Store.DocumentMap
import EntityStore.Proofs.Store.Serving
import EntityStore.Proofs.Store.Refinement
import EntityStore.Proofs.Number.Numeral
import EntityStore.Proofs.Store.Page
import EntityStore.Proofs.Store.InOrder
import EntityStore.Proofs.Store.Selection
import EntityStore.Proofs.Store.Paging
import EntityStore.Proofs.Store.Filed
import EntityStore.Proofs.Store.Lookup
import EntityStore.Proofs.Store.Course
import EntityStore.Proofs.Store.Twins
import EntityStore.Proofs.Store.Drawn
import EntityStore.Proofs.Store.Isolation
import EntityStore.Proofs.Store.Steps
import EntityStore.Proofs.Store.Retrieval
import EntityStore.Proofs.Store.Closing
import EntityStore.Proofs.Store.Origin
import EntityStore.Proofs.Store.Visited
import EntityStore.Proofs.Store.Namesakes
import EntityStore.Proofs.Store.Deletion
import EntityStore.Proofs.Sql.Silence
import EntityStore.Proofs.Console.Clients
import EntityStore.Proofs.Store.Dependable
import EntityStore.Proofs.Remote.Service
import EntityStore.Proofs.Console.Usable
import EntityStore.Proofs.Console.Printed
import EntityStore.Proofs.Console.Ending
import EntityStore.Proofs.Console.Spelling
import EntityStore.Proofs.Sql.Address
import EntityStore.Proofs.Filter.Removal
import EntityStore.Proofs.Sql.Renumbering
import EntityStore.Proofs.Filter.Conjunction
import EntityStore.Proofs.Text.FixedWidth
import EntityStore.Proofs.Text.Split
import EntityStore.Proofs.Identifier
import EntityStore.Proofs.Time.DateOrder
import EntityStore.Proofs.Time.Timestamp
import EntityStore.Proofs.Store.Draining
import EntityStore.Proofs.Filter.Row
import EntityStore.Proofs.Console.Combined
import EntityStore.Proofs.Container.Grammar
import EntityStore.Proofs.File
import EntityStore.Proofs.Json.Reader
import EntityStore.Proofs.Json.Writable
import EntityStore.Proofs.Console.ContainerFile
import EntityStore.Proofs.Console.GivenDocument
import EntityStore.Proofs.Remote.Observed
import EntityStore.Proofs.Remote.Translation
import EntityStore.Proofs.Remote.Wire
import EntityStore.Proofs.Console.DocumentTable
import EntityStore.Proofs.Store.PartitionClause
