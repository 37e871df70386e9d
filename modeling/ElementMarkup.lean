import ElementMarkup.Command.Flag
import ElementMarkup.Command.Line
import ElementMarkup.Command.Run
import ElementMarkup.Command.System
import ElementMarkup.Command.Usage
import ElementMarkup.Expression.Access
import ElementMarkup.Expression.Arguments
import ElementMarkup.Expression.Arithmetic
import ElementMarkup.Expression.BraceFields
import ElementMarkup.Expression.Call
import ElementMarkup.Expression.CollectionMethod
import ElementMarkup.Expression.Compare
import ElementMarkup.Expression.Evaluate
import ElementMarkup.Expression.Fault
import ElementMarkup.Expression.FieldLayout
import ElementMarkup.Expression.Filter
import ElementMarkup.Expression.Fold
import ElementMarkup.Expression.Grammar
import ElementMarkup.Expression.Operand
import ElementMarkup.Expression.PercentFields
import ElementMarkup.Expression.Stages
import ElementMarkup.Expression.Term
import ElementMarkup.Expression.Test
import ElementMarkup.Expression.TextMethod
import ElementMarkup.Expression.Token
import ElementMarkup.File.Folder
import ElementMarkup.File.Load
import ElementMarkup.File.Path
import ElementMarkup.Json.Read
import ElementMarkup.Main
import ElementMarkup.Markup.Layout
import ElementMarkup.Markup.Token
import ElementMarkup.Number.Arithmetic
import ElementMarkup.Number.Basic
import ElementMarkup.Number.Double
import ElementMarkup.Number.Format
import ElementMarkup.Number.Literal
import ElementMarkup.Number.Shortest
import ElementMarkup.Options
import ElementMarkup.Options.Validation
import ElementMarkup.Proofs.Command.Atomicity
import ElementMarkup.Proofs.Command.Perform
import ElementMarkup.Proofs.Command.Report
import ElementMarkup.Proofs.Command.Unexpected
import ElementMarkup.Proofs.Failure
import ElementMarkup.Proofs.File.Folder
import ElementMarkup.Proofs.File.Options
import ElementMarkup.Proofs.Json.LongRun
import ElementMarkup.Proofs.Markup.Extent
import ElementMarkup.Proofs.Markup.Indent
import ElementMarkup.Proofs.Markup.Nesting
import ElementMarkup.Proofs.Markup.NewlineEdit
import ElementMarkup.Proofs.Markup.Partition
import ElementMarkup.Proofs.Markup.Pattern
import ElementMarkup.Proofs.Markup.Reformat
import ElementMarkup.Proofs.Markup.Segment
import ElementMarkup.Proofs.Number.Literal
import ElementMarkup.Proofs.Render.Agreement
import ElementMarkup.Proofs.Render.Allowed
import ElementMarkup.Proofs.Render.Attempts
import ElementMarkup.Proofs.Render.Content
import ElementMarkup.Proofs.Render.Course
import ElementMarkup.Proofs.Render.Depth
import ElementMarkup.Proofs.Render.Family
import ElementMarkup.Proofs.Render.Filled
import ElementMarkup.Proofs.Render.Given
import ElementMarkup.Proofs.Render.Guard
import ElementMarkup.Proofs.Render.Head
import ElementMarkup.Proofs.Render.Modes
import ElementMarkup.Proofs.Render.Notation
import ElementMarkup.Proofs.Render.Parts
import ElementMarkup.Proofs.Render.Passes
import ElementMarkup.Proofs.Render.Preview
import ElementMarkup.Proofs.Render.Replay
import ElementMarkup.Proofs.Render.Rescan
import ElementMarkup.Proofs.Render.Resolve
import ElementMarkup.Proofs.Render.Respelled
import ElementMarkup.Proofs.Render.Root
import ElementMarkup.Proofs.Render.Shown
import ElementMarkup.Proofs.Render.Step
import ElementMarkup.Proofs.Render.TextRun
import ElementMarkup.Proofs.Render.Walk
import ElementMarkup.Proofs.Render.Written
import ElementMarkup.Proofs.Sexp.Cut
import ElementMarkup.Proofs.Sexp.Flaw
import ElementMarkup.Proofs.Sexp.Form
import ElementMarkup.Proofs.Sexp.Lexeme
import ElementMarkup.Proofs.Sexp.LongRun
import ElementMarkup.Proofs.Sexp.Scan
import ElementMarkup.Proofs.Text.Trim
import ElementMarkup.Proofs.Text.Utf8
import ElementMarkup.Proofs.Text.Words
import ElementMarkup.Proofs.Tree.ClassMerge
import ElementMarkup.Proofs.Tree.Depth
import ElementMarkup.Proofs.Tree.Expression
import ElementMarkup.Proofs.Tree.Group
import ElementMarkup.Proofs.Tree.WellShaped
import ElementMarkup.Proofs.Tree.Writable
import ElementMarkup.Proofs.Yaml.Fault
import ElementMarkup.Render.Document
import ElementMarkup.Render.Element
import ElementMarkup.Render.Outcome
import ElementMarkup.Render.Renderer
import ElementMarkup.Render.Root
import ElementMarkup.Sexp.Lexeme
import ElementMarkup.Sexp.Read
import ElementMarkup.Text.Basic
import ElementMarkup.Text.CaseTable
import ElementMarkup.Text.Identifier
import ElementMarkup.Text.LetterCase
import ElementMarkup.Text.Quoted
import ElementMarkup.Text.Search
import ElementMarkup.Text.Utf8
import ElementMarkup.Tree.Attribute
import ElementMarkup.Tree.Datum
import ElementMarkup.Tree.Item
import ElementMarkup.Tree.Key
import ElementMarkup.Tree.Shape
import ElementMarkup.Tree.Tag
import ElementMarkup.Yaml.Cursor
import ElementMarkup.Yaml.Node
import ElementMarkup.Yaml.Read
import ElementMarkup.Yaml.Scalar
import ElementMarkup.Yaml.ScalarText
import ElementMarkup.Yaml.Tag
import ElementMarkup.Yaml.Timestamp
import ElementMarkup.Yaml.Token
