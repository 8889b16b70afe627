import TypedSql.Database
import TypedSql.Dialect.Basic
import TypedSql.Dialect.Bracketed
import TypedSql.Dialect.Vendor
import TypedSql.Error
import TypedSql.Expr.Basic
import TypedSql.Expr.Compile
import TypedSql.Expr.Scope
import TypedSql.Layout
import TypedSql.Numeric.Binary
import TypedSql.Numeric.Decimal.Notation
import TypedSql.Numeric.Decimal.Reader
import TypedSql.Numeric.Decimal.Shortest
import TypedSql.Proofs.Database.Cancellation
import TypedSql.Proofs.Database.Compilation
import TypedSql.Proofs.Database.Composed
import TypedSql.Proofs.Database.Counting
import TypedSql.Proofs.Database.Request
import TypedSql.Proofs.Database.Single
import TypedSql.Proofs.Database.Steps
import TypedSql.Proofs.Dialect.Paging
import TypedSql.Proofs.Expr.Alike
import TypedSql.Proofs.Expr.Compile
import TypedSql.Proofs.Expr.Functions
import TypedSql.Proofs.Expr.Literals
import TypedSql.Proofs.Expr.Mask
import TypedSql.Proofs.Expr.Pieces
import TypedSql.Proofs.Expr.References
import TypedSql.Proofs.Expr.Validity
import TypedSql.Proofs.Grammar.Compile
import TypedSql.Proofs.Grammar.Forms
import TypedSql.Proofs.Grammar.Levels
import TypedSql.Proofs.Grammar.Reader
import TypedSql.Proofs.Grammar.Term
import TypedSql.Proofs.Lexer.Cut
import TypedSql.Proofs.Lexer.Lexeme
import TypedSql.Proofs.Lexer.Placeholders
import TypedSql.Proofs.Lexer.Render
import TypedSql.Proofs.Lexer.Spelling
import TypedSql.Proofs.Numeric.Numeral
import TypedSql.Proofs.Outcome
import TypedSql.Proofs.Query.Alike
import TypedSql.Proofs.Query.Built
import TypedSql.Proofs.Query.Closed
import TypedSql.Proofs.Query.Commute
import TypedSql.Proofs.Query.Filter
import TypedSql.Proofs.Query.History
import TypedSql.Proofs.Query.Into
import TypedSql.Proofs.Query.Mask
import TypedSql.Proofs.Query.Outline
import TypedSql.Proofs.Query.Paging
import TypedSql.Proofs.Query.Parameters
import TypedSql.Proofs.Query.Parts
import TypedSql.Proofs.Query.Placeholders
import TypedSql.Proofs.Query.Statements
import TypedSql.Proofs.Query.Truth
import TypedSql.Proofs.Record.ByName
import TypedSql.Proofs.Record.Feed
import TypedSql.Proofs.Record.Group
import TypedSql.Proofs.Record.Layout
import TypedSql.Proofs.Record.Names
import TypedSql.Proofs.Record.Slice
import TypedSql.Proofs.Record.Sources
import TypedSql.Proofs.Relation.Attaching
import TypedSql.Proofs.Relation.Joining
import TypedSql.Proofs.Relation.Keys
import TypedSql.Proofs.Relation.Loading
import TypedSql.Proofs.Relation.Progress
import TypedSql.Proofs.Session.Conduct
import TypedSql.Proofs.Session.Drain
import TypedSql.Proofs.Session.Exchange
import TypedSql.Proofs.Session.Feeding
import TypedSql.Proofs.Session.Opened
import TypedSql.Proofs.Session.Served
import TypedSql.Proofs.Session.Stream
import TypedSql.Proofs.Session.Undisturbed
import TypedSql.Proofs.Shape.Lookup
import TypedSql.Proofs.Sql.Cut
import TypedSql.Proofs.Sql.Nesting
import TypedSql.Proofs.Text.Ascii
import TypedSql.Proofs.Text.Blank
import TypedSql.Proofs.Value.Conversion
import TypedSql.Proofs.Value.Integer
import TypedSql.Proofs.Value.Storage
import TypedSql.Proofs.Value.Wire
import TypedSql.Query.Basic
import TypedSql.Query.Emit
import TypedSql.Query.History
import TypedSql.Query.Printer
import TypedSql.Record.Basic
import TypedSql.Record.Mapper
import TypedSql.Relation.Attach
import TypedSql.Relation.Basic
import TypedSql.Relation.Load
import TypedSql.Row.Basic
import TypedSql.Row.Buffer
import TypedSql.Session.Basic
import TypedSql.Session.Connection
import TypedSql.Session.Drain
import TypedSql.Session.Event
import TypedSql.Session.Script
import TypedSql.Session.Stream
import TypedSql.Settings
import TypedSql.Shape.Basic
import TypedSql.Sql.Chunk
import TypedSql.Sql.Fragment
import TypedSql.Sql.Statement
import TypedSql.Sql.Token
import TypedSql.Text.Ascii
import TypedSql.Text.Blank
import TypedSql.Text.Quoted
import TypedSql.Text.Unprintable
import TypedSql.Toml.Document
import TypedSql.Toml.Item
import TypedSql.Toml.Scalar
import TypedSql.Toml.Text
import TypedSql.Value.Basic
import TypedSql.Value.Conversion
import TypedSql.Value.Error
import TypedSql.Value.FieldType
import TypedSql.Value.Printer
import TypedSql.Value.Storage
import TypedSql.Value.Wire
