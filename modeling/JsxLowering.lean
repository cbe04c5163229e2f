import JsxLowering.Comment
import JsxLowering.Config.Cursor
import JsxLowering.Config.Error
import JsxLowering.Config.Number
import JsxLowering.Config.Reader
import JsxLowering.Decimal.Binary64
import JsxLowering.Decimal.Numeral
import JsxLowering.Decimal.Pointed
import JsxLowering.Decimal.Shortest
import JsxLowering.Dialect
import JsxLowering.Fault
import JsxLowering.FileName
import JsxLowering.Form
import JsxLowering.Grammar.Basic
import JsxLowering.Grammar.Class
import JsxLowering.Grammar.Expression
import JsxLowering.Grammar.Function
import JsxLowering.Grammar.Key
import JsxLowering.Grammar.Markup
import JsxLowering.Grammar.Module
import JsxLowering.Grammar.ModuleSyntax
import JsxLowering.Grammar.Operand
import JsxLowering.Grammar.Pattern
import JsxLowering.Grammar.Primary
import JsxLowering.Grammar.Program
import JsxLowering.Grammar.Statement
import JsxLowering.Grammar.Type
import JsxLowering.Grammar.TypeDeclaration
import JsxLowering.HtmlTag
import JsxLowering.Journal
import JsxLowering.Markup.Lowering
import JsxLowering.Markup.Tag
import JsxLowering.MethodCall
import JsxLowering.Operator
import JsxLowering.Options
import JsxLowering.Printing.Class
import JsxLowering.Printing.Expression
import JsxLowering.Printing.Function
import JsxLowering.Printing.Layout
import JsxLowering.Printing.Module
import JsxLowering.Printing.Piece
import JsxLowering.Printing.Sheet
import JsxLowering.Printing.Statement
import JsxLowering.Printing.Tree
import JsxLowering.Printing.Type
import JsxLowering.Proofs.Acceptance
import JsxLowering.Proofs.AttributeKeys
import JsxLowering.Proofs.CallEdits
import JsxLowering.Proofs.CallOrder
import JsxLowering.Proofs.ConfigDefaults
import JsxLowering.Proofs.ConfigFormat
import JsxLowering.Proofs.DottedPaths
import JsxLowering.Proofs.DraftPlaces
import JsxLowering.Proofs.Drafts
import JsxLowering.Proofs.Elimination
import JsxLowering.Proofs.Equations
import JsxLowering.Proofs.HintOrder
import JsxLowering.Proofs.HintPlaces
import JsxLowering.Proofs.InPlace
import JsxLowering.Proofs.Introduced
import JsxLowering.Proofs.Json
import JsxLowering.Proofs.Layout.Basic
import JsxLowering.Proofs.Layout.Expression
import JsxLowering.Proofs.Layout.Function
import JsxLowering.Proofs.Layout.Markup
import JsxLowering.Proofs.Layout.Module
import JsxLowering.Proofs.Layout.Order
import JsxLowering.Proofs.Layout.Program
import JsxLowering.Proofs.Layout.Statement
import JsxLowering.Proofs.Layout.Tokens
import JsxLowering.Proofs.Layout.Type
import JsxLowering.Proofs.LineDivision
import JsxLowering.Proofs.Lines
import JsxLowering.Proofs.Loading.Basic
import JsxLowering.Proofs.Loading.Expression
import JsxLowering.Proofs.Loading.Function
import JsxLowering.Proofs.Loading.Program
import JsxLowering.Proofs.Loading.Statement
import JsxLowering.Proofs.Loading.Type
import JsxLowering.Proofs.Meaning
import JsxLowering.Proofs.NamesInCallees
import JsxLowering.Proofs.Nesting
import JsxLowering.Proofs.OneLine
import JsxLowering.Proofs.Pieces
import JsxLowering.Proofs.Places
import JsxLowering.Proofs.ReceiverInTags
import JsxLowering.Proofs.ReceiverRule
import JsxLowering.Proofs.References
import JsxLowering.Proofs.SameChildren
import JsxLowering.Proofs.SettledText
import JsxLowering.Proofs.SharedHints
import JsxLowering.Proofs.Slots
import JsxLowering.Proofs.Tags
import JsxLowering.Proofs.TextChildren
import JsxLowering.Proofs.Wrapping
import JsxLowering.Receiver
import JsxLowering.Session
import JsxLowering.SourceMap
import JsxLowering.Span
import JsxLowering.Text.Blank
import JsxLowering.Text.CharRange
import JsxLowering.Text.Collapsed
import JsxLowering.Text.DoubleQuoted
import JsxLowering.Text.Entity
import JsxLowering.Text.EntityTable
import JsxLowering.Text.IdentifierPart
import JsxLowering.Text.IdentifierStart
import JsxLowering.Text.Lines
import JsxLowering.Text.Name
import JsxLowering.Text.Normalized
import JsxLowering.Text.Quoted
import JsxLowering.Text.Unprintable
import JsxLowering.Text.Width
import JsxLowering.Token
import JsxLowering.Token.Literal
import JsxLowering.Token.Scan
import JsxLowering.Token.Trivia
import JsxLowering.Transform
import JsxLowering.Tree
import JsxLowering.Walk
