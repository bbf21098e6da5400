import SqlPipeline.Text.Case
import SqlPipeline.Text.Blank
import SqlPipeline.Text.Letter
import SqlPipeline.Text.Quoted
import SqlPipeline.Text.Numeral
import SqlPipeline.Decimal.Binary64
import SqlPipeline.Decimal.Shortest
import SqlPipeline.Operator
import SqlPipeline.Sql.Token
import SqlPipeline.Sql.Escape
import SqlPipeline.Sql.Lexer
import SqlPipeline.Sql.Expr
import SqlPipeline.Sql.Statement
import SqlPipeline.Sql.Reader
import SqlPipeline.Sql.Nested
import SqlPipeline.Sql.Keyword
import SqlPipeline.Sql.Grammar.Values
import SqlPipeline.Sql.Grammar.Columns
import SqlPipeline.Sql.Grammar.Types
import SqlPipeline.Sql.Grammar.Calls
import SqlPipeline.Sql.Grammar.Expressions
import SqlPipeline.Sql.Grammar.Patterns
import SqlPipeline.Sql.Grammar.Reshaped
import SqlPipeline.Sql.Grammar.Tables
import SqlPipeline.Sql.Grammar.Queries
import SqlPipeline.Sql.Grammar.Definitions
import SqlPipeline.Sql.Grammar.Changes
import SqlPipeline.Sql.Grammar.Creations
import SqlPipeline.Sql.Grammar.Alterations
import SqlPipeline.Sql.Grammar.Sessions
import SqlPipeline.Sql.Grammar.Commands
import SqlPipeline.Sql.Grammar.Statements
import SqlPipeline.Sql.Script
import SqlPipeline.Json.Text
import SqlPipeline.Journal.Severity
import SqlPipeline.Journal.Record
import SqlPipeline.Journal.Event
import SqlPipeline.Journal.Logged
import SqlPipeline.Catalog.Table
import SqlPipeline.Catalog.Fault
import SqlPipeline.Catalog.Basic
import SqlPipeline.Catalog.Definition
import SqlPipeline.Layout.Storage
import SqlPipeline.Layout.Schema
import SqlPipeline.Query.Literal
import SqlPipeline.Query.Scalar
import SqlPipeline.Query.Projection
import SqlPipeline.Query.Basic
import SqlPipeline.Fault
import SqlPipeline.Text.Fresh
import SqlPipeline.Query.Names
import SqlPipeline.Query.Scope
import SqlPipeline.Query.Output
import SqlPipeline.Query.Resolve
import SqlPipeline.Plan.Access
import SqlPipeline.Plan.Formula
import SqlPipeline.Plan.Routine
import SqlPipeline.Plan.FormulaOf
import SqlPipeline.Layout.OfQuery
import SqlPipeline.Plan.Grouping
import SqlPipeline.Plan.Having
import SqlPipeline.Plan.Step
import SqlPipeline.Plan.Assembly
import SqlPipeline.Plan.OfQuery
import SqlPipeline.Listing.Lines
import SqlPipeline.Listing.Routines
import SqlPipeline.Listing.Construction
import SqlPipeline.Listing.Driver
import SqlPipeline.Listing.Basic
import SqlPipeline.Json.Value
import SqlPipeline.Json.Pretty
import SqlPipeline.Explain
import SqlPipeline.Compile
import SqlPipeline.Session
import SqlPipeline.Text.Lines
import SqlPipeline.Command.Fault
import SqlPipeline.Command.Arguments
import SqlPipeline.Command.Path
import SqlPipeline.Command.Config
import SqlPipeline.Command.Folder
import SqlPipeline.Command.Run
import SqlPipeline.Main
import SqlPipeline.Proofs.Outcome
import SqlPipeline.Proofs.Ensures
import SqlPipeline.Proofs.FreshNames
import SqlPipeline.Proofs.Truth
import SqlPipeline.Proofs.Conditions
import SqlPipeline.Proofs.Access
import SqlPipeline.Proofs.Stages
import SqlPipeline.Proofs.Pipeline
import SqlPipeline.Proofs.WellFormed
import SqlPipeline.Proofs.Groups
import SqlPipeline.Proofs.Planning
import SqlPipeline.Proofs.Compile
import SqlPipeline.Proofs.GroupLayout
import SqlPipeline.Proofs.Formulas
import SqlPipeline.Proofs.ScanOutput
import SqlPipeline.Proofs.RoutineNeeds
import SqlPipeline.Proofs.Wiring
import SqlPipeline.Proofs.Statements
import SqlPipeline.Proofs.Allocations
import SqlPipeline.Proofs.MemoryStatements
import SqlPipeline.Proofs.Freeing
import SqlPipeline.Proofs.LiteralRange
import SqlPipeline.Proofs.StoredValues
import SqlPipeline.Proofs.Printing
import SqlPipeline.Proofs.Calls
import SqlPipeline.Proofs.Explained
import SqlPipeline.Proofs.Sameness
import SqlPipeline.Proofs.Resolution
import SqlPipeline.Proofs.Aliases
import SqlPipeline.Proofs.Variables
import SqlPipeline.Proofs.Identifiers
import SqlPipeline.Proofs.Definitions
import SqlPipeline.Proofs.Histories
import SqlPipeline.Proofs.Scripts
import SqlPipeline.Proofs.OutputNames
import SqlPipeline.Proofs.Shadowing
import SqlPipeline.Proofs.Agreement
import SqlPipeline.Proofs.NameCase
import SqlPipeline.Proofs.Sessions
import SqlPipeline.Proofs.RecordLines
import SqlPipeline.Proofs.Thresholds
import SqlPipeline.Proofs.Classification
import SqlPipeline.Proofs.ConditionOrder
import SqlPipeline.Proofs.GroupConditions
import SqlPipeline.Proofs.Translation
import SqlPipeline.Proofs.ScalarValues
import SqlPipeline.Proofs.ColumnNames
import SqlPipeline.Proofs.Qualifiers
import SqlPipeline.Proofs.Routing
import SqlPipeline.Proofs.PlanComments
import SqlPipeline.Proofs.Targets
import SqlPipeline.Proofs.IndexHints
import SqlPipeline.Proofs.Replay
import SqlPipeline.Proofs.Reports
import SqlPipeline.Proofs.CompileRecords
import SqlPipeline.Proofs.FormulaTexts
import SqlPipeline.Proofs.SignedLiterals
import SqlPipeline.Proofs.LayoutChanges
