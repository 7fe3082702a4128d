import Snippet.Text.Blank
import Snippet.Text.Lines
import Snippet.Text.Uppercase
import Snippet.Text.Printable
import Snippet.Text.Identifier
import Snippet.Text.Quoted
import Snippet.Text.Naming
import Snippet.Text.Doc
import Snippet.Number.Double
import Snippet.Number.Decimal
import Snippet.Number.Numeral
import Snippet.Number.Single
import Snippet.Tree.Operator
import Snippet.Tree.Basic
import Snippet.Tree.Precedence
import Snippet.Tree.Invariant
import Snippet.Tree.Dump
import Snippet.Data.Value
import Snippet.Tree.Encode
import Snippet.Tree.Decode
import Snippet.Comment.Record
import Snippet.Comment.Scan
import Snippet.Comment.Cursor
import Snippet.Layout.Line
import Snippet.Layout.Step
import Snippet.Layout.Page
import Snippet.Layout.Braces
import Snippet.Render.Scope
import Snippet.Target.Basic
import Snippet.Text.Affix
import Snippet.Target.Curly
import Snippet.Target.Pseudocode
import Snippet.Target.Hooks
import Snippet.Render.Rejection
import Snippet.Render.Expr
import Snippet.Render.Script
import Snippet.Render.Stmt
import Snippet.Render.Rendering
import Snippet.Source.Error
import Snippet.Source.Node
import Snippet.Source.Literal
import Snippet.Source.Expression
import Snippet.Source.Statement
import Snippet.Python.Token
import Snippet.Python.Lexer
import Snippet.Python.Parse
import Snippet.Python.Grammar.Expression
import Snippet.Python.Grammar.Pattern
import Snippet.Python.Grammar.Statement
import Snippet.Number.Digits
import Snippet.Settings.Value
import Snippet.Settings.Table
import Snippet.Settings.Reader
import Snippet.Settings.Scalar
import Snippet.Settings.Document
import Snippet.Settings.Basic
import Snippet.Samples
import Snippet.Number.Power
import Snippet.Proofs.Walk
import Snippet.Proofs.Balance
import Snippet.Proofs.Cursor
import Snippet.Proofs.Weaving
import Snippet.Proofs.Refusal.Stmt
import Snippet.Proofs.Formula.Reader
import Snippet.Proofs.Formula.Reads
import Snippet.Proofs.Formula.Grammar
import Snippet.Proofs.Grouping
import Snippet.Proofs.Meaning
import Snippet.Proofs.Outline.Texts
import Snippet.Proofs.Outline.Expr
import Snippet.Proofs.Outline.Piece
import Snippet.Proofs.Outline.Forms
import Snippet.Proofs.Outline.Outlined
import Snippet.Proofs.Outline.Quiet
import Snippet.Proofs.BraceStyles
import Snippet.Proofs.Outline.Characters
import Snippet.Proofs.Brackets
import Snippet.Proofs.Lexing
import Snippet.Proofs.Comments
import Snippet.Proofs.Branches
import Snippet.Proofs.Resolution
import Snippet.Proofs.Stops
import Snippet.Proofs.Passages
import Snippet.Proofs.Queue
import Snippet.Proofs.Promptness
import Snippet.Proofs.Refusal.Pseudocode
import Snippet.Proofs.Receiver
import Snippet.Proofs.Binding
import Snippet.Proofs.WellFormed
import Snippet.Proofs.Reached
import Snippet.Proofs.Order.Place
import Snippet.Proofs.Order.Walk
import Snippet.Proofs.Order.Reading
import Snippet.Proofs.JsonForm
import Snippet.Proofs.Loop.Range
import Snippet.Proofs.Latex.Typeset
import Snippet.Proofs.Construction
import Snippet.Proofs.Identifiers
import Snippet.Proofs.Scan.Remarks
import Snippet.Proofs.Scan.Lines
import Snippet.Proofs.Handful
import Snippet.Proofs.Nesting
import Snippet.Proofs.Scan.Inside
import Snippet.Proofs.Defaults
import Snippet.Proofs.Escapes
import Snippet.Proofs.Quoting
import Snippet.Proofs.Documentation
import Snippet.Proofs.Numerals
import Snippet.Proofs.Chains
import Snippet.Proofs.Operations
import Snippet.Proofs.Inline.Statements
import Snippet.Proofs.Lookup
import Snippet.Proofs.Styling
