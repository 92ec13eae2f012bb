import EventForge.Command.Option
import EventForge.Command.Report
import EventForge.Config.Settings
import EventForge.Config.Value
import EventForge.Digest.Sha256
import EventForge.Document.Basic
import EventForge.Fault
import EventForge.Files
import EventForge.Json.Basic
import EventForge.Json.Reader
import EventForge.Load.Loop
import EventForge.Load.Scripted
import EventForge.Load.Supervisor
import EventForge.Load.TimedLoop
import EventForge.Load.Watch
import EventForge.Load.Workload
import EventForge.Log
import EventForge.Main
import EventForge.Module.Basic
import EventForge.Module.Import
import EventForge.Module.Library
import EventForge.Module.Literal
import EventForge.Module.Reader
import EventForge.Module.Writer
import EventForge.Number.Binary64
import EventForge.Number.Reading
import EventForge.Number.ShortestDecimal
import EventForge.Proofs.Command.Generation
import EventForge.Proofs.Config.Duration
import EventForge.Proofs.Config.Interval
import EventForge.Proofs.Document.Basic
import EventForge.Proofs.Files
import EventForge.Proofs.Json.Compact
import EventForge.Proofs.Json.Strings
import EventForge.Proofs.Load.Attempts
import EventForge.Proofs.Load.Cadence
import EventForge.Proofs.Load.Conservation
import EventForge.Proofs.Load.Counters
import EventForge.Proofs.Load.Endings
import EventForge.Proofs.Load.Independence
import EventForge.Proofs.Load.Instants
import EventForge.Proofs.Load.Supervision
import EventForge.Proofs.Load.Timers
import EventForge.Proofs.Load.Watching
import EventForge.Proofs.Module.Admission
import EventForge.Proofs.Module.ClassReading
import EventForge.Proofs.Module.FileUpdate
import EventForge.Proofs.Module.FreeText
import EventForge.Proofs.Module.LineFeed
import EventForge.Proofs.Module.Literal
import EventForge.Proofs.Module.Loading
import EventForge.Proofs.Module.ModuleReading
import EventForge.Proofs.Module.OfSchema
import EventForge.Proofs.Module.Outline
import EventForge.Proofs.Module.Points
import EventForge.Proofs.Module.RoundTrip
import EventForge.Proofs.Module.Search
import EventForge.Proofs.Number.Reading
import EventForge.Proofs.Number.Rounding
import EventForge.Proofs.Outcome
import EventForge.Proofs.Schema.Attribute
import EventForge.Proofs.Schema.Compilation
import EventForge.Proofs.Schema.Declaration
import EventForge.Proofs.Schema.Entity
import EventForge.Proofs.Schema.ErrorList
import EventForge.Proofs.Schema.Fingerprint
import EventForge.Proofs.Schema.Identifier
import EventForge.Proofs.Schema.Lookup
import EventForge.Proofs.Schema.Parsing
import EventForge.Proofs.Schema.Reordering
import EventForge.Proofs.Schema.TableName
import EventForge.Proofs.Schema.Validation
import EventForge.Proofs.Script.Outline
import EventForge.Proofs.Script.OutlineRun
import EventForge.Proofs.Script.OutlineStep
import EventForge.Proofs.Script.OutlineText
import EventForge.Proofs.Sql.Additions
import EventForge.Proofs.Sql.Connection
import EventForge.Proofs.Sql.DefinitionStatement
import EventForge.Proofs.Sql.Expression
import EventForge.Proofs.Sql.FirstStatement
import EventForge.Proofs.Sql.InsertedRow
import EventForge.Proofs.Sql.Insertion
import EventForge.Proofs.Sql.PlainTable
import EventForge.Proofs.Sql.RowStatement
import EventForge.Proofs.Sql.Selection
import EventForge.Proofs.Sql.Spelling
import EventForge.Proofs.Sql.TableDefinition
import EventForge.Proofs.Store.EmptyDatabase
import EventForge.Proofs.Store.EventRow
import EventForge.Proofs.Store.EventStatement
import EventForge.Proofs.Store.Evolution
import EventForge.Proofs.Store.MigrationDelivery
import EventForge.Proofs.Store.MigrationGrowth
import EventForge.Proofs.Store.MigrationResume
import EventForge.Proofs.Store.MigrationRun
import EventForge.Proofs.Store.MigrationStep
import EventForge.Proofs.Store.Narrowing
import EventForge.Proofs.Store.RandomEvents
import EventForge.Proofs.Store.Retrieval
import EventForge.Proofs.Store.Retry
import EventForge.Proofs.Store.StoredEvents
import EventForge.Proofs.Store.Storing
import EventForge.Proofs.Store.TableProgress
import EventForge.Proofs.Text.Ascii
import EventForge.Proofs.Text.Order
import EventForge.Proofs.Text.Pieces
import EventForge.Proofs.Text.Utf8
import EventForge.Random.Generator
import EventForge.Schema.Entity
import EventForge.Schema.Error
import EventForge.Schema.Identifier
import EventForge.Schema.Loading
import EventForge.Schema.Source
import EventForge.Schema.Validation
import EventForge.Script.Access
import EventForge.Script.Arithmetic
import EventForge.Script.Binding
import EventForge.Script.Builtin
import EventForge.Script.Calling
import EventForge.Script.ClassMaking
import EventForge.Script.Code.Basic
import EventForge.Script.Code.NameScope
import EventForge.Script.Code.OfScript
import EventForge.Script.CollectionMethod
import EventForge.Script.Comparison
import EventForge.Script.Conversion
import EventForge.Script.Display
import EventForge.Script.Encoding
import EventForge.Script.Format
import EventForge.Script.FrameName
import EventForge.Script.Instantiation
import EventForge.Script.Item
import EventForge.Script.Iteration
import EventForge.Script.KnownKind
import EventForge.Script.Library.Chance
import EventForge.Script.Library.Closure
import EventForge.Script.Library.Content
import EventForge.Script.Library.Context
import EventForge.Script.Library.DataClass
import EventForge.Script.Library.Database
import EventForge.Script.Library.EventBase
import EventForge.Script.Library.EventError
import EventForge.Script.Library.JsonText
import EventForge.Script.Library.Mathematics
import EventForge.Script.Library.StreamTool
import EventForge.Script.Library.System
import EventForge.Script.LibraryCall
import EventForge.Script.Matching
import EventForge.Script.Object
import EventForge.Script.Operation
import EventForge.Script.Reading.Basic
import EventForge.Script.Reading.Expression
import EventForge.Script.Reading.Pattern
import EventForge.Script.Reading.Statement
import EventForge.Script.Session
import EventForge.Script.SpecialMethod
import EventForge.Script.Step
import EventForge.Script.Syntax
import EventForge.Script.TextMethod
import EventForge.Script.TextTemplate
import EventForge.Script.Token
import EventForge.Script.Value
import EventForge.Sql.Catalog
import EventForge.Sql.Cell
import EventForge.Sql.Change
import EventForge.Sql.Connection
import EventForge.Sql.Constraint
import EventForge.Sql.Database
import EventForge.Sql.Decimal
import EventForge.Sql.Definition
import EventForge.Sql.Evaluation
import EventForge.Sql.Expression
import EventForge.Sql.Fault
import EventForge.Sql.Format
import EventForge.Sql.Function
import EventForge.Sql.JsonFunction
import EventForge.Sql.JsonNode
import EventForge.Sql.Moment
import EventForge.Sql.Reading.Basic
import EventForge.Sql.Reading.Definition
import EventForge.Sql.Reading.Expression
import EventForge.Sql.Reading.Statement
import EventForge.Sql.Scope
import EventForge.Sql.Statement
import EventForge.Sql.Token
import EventForge.Store.Event
import EventForge.Store.Migration
import EventForge.Store.Retry
import EventForge.Store.Workspace
import EventForge.Text.Basic
import EventForge.Text.Case
import EventForge.Text.Quoted
import EventForge.Text.Utf8
import EventForge.Yaml.Composition
import EventForge.Yaml.Lexer
import EventForge.Yaml.Reader
import EventForge.Yaml.Scalar
import EventForge.Yaml.Token
