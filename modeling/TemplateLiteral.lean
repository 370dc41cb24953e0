import TemplateLiteral.Diagnostic.Outline
import TemplateLiteral.Engine
import TemplateLiteral.Template.SourceText
import TemplateLiteral.Proofs.Expr.Grammar
import TemplateLiteral.Proofs.Outcome
import TemplateLiteral.Proofs.Expr.Soundness
import TemplateLiteral.Proofs.Expr.Completeness
import TemplateLiteral.Proofs.Number.Numeral
import TemplateLiteral.Proofs.Token.Lexeme
import TemplateLiteral.Proofs.Token.Stream
import TemplateLiteral.Proofs.Template.Literal
import TemplateLiteral.Proofs.Template.Reading
import TemplateLiteral.Proofs.Template.Interpolation
import TemplateLiteral.Proofs.Token.Relocation
import TemplateLiteral.Proofs.Expr.Relocation
import TemplateLiteral.Proofs.Template.SourceText
import TemplateLiteral.Proofs.Template.Spelling
import TemplateLiteral.Proofs.Template.Concatenation
import TemplateLiteral.Proofs.Token.Prefix
import TemplateLiteral.Proofs.Token.Stretch
import TemplateLiteral.Proofs.Expr.Parts
import TemplateLiteral.Proofs.Template.Region
import TemplateLiteral.Proofs.Template.Names
import TemplateLiteral.Proofs.Expr.Qualification
import TemplateLiteral.Proofs.Token.Lookahead
import TemplateLiteral.Proofs.Value.Alike
import TemplateLiteral.Proofs.Template.Insertion
import TemplateLiteral.Proofs.Template.Qualification
import TemplateLiteral.Proofs.Offset.Basic
import TemplateLiteral.Proofs.Offset.Lexeme
import TemplateLiteral.Proofs.Offset.Stream
import TemplateLiteral.Proofs.Offset.Reader
import TemplateLiteral.Proofs.Offset.Piece
import TemplateLiteral.Proofs.Offset.Pointer
import TemplateLiteral.Proofs.Offset.Rendering
import TemplateLiteral.Proofs.Expr.Quoted
import TemplateLiteral.Proofs.Expr.Fault
import TemplateLiteral.Proofs.Template.Quoted
import TemplateLiteral.Proofs.Expr.Height
import TemplateLiteral.Proofs.Template.Height
import TemplateLiteral.Proofs.Number.Digits
import TemplateLiteral.Proofs.Number.Double
import TemplateLiteral.Proofs.Number.Shortest
import TemplateLiteral.Proofs.Number.Format
import TemplateLiteral.Proofs.Template.Number
import TemplateLiteral.Proofs.Template.Failure
import TemplateLiteral.Proofs.Template.Reordering
import TemplateLiteral.Proofs.Template.Unplaced
import TemplateLiteral.Proofs.Template.SourceFunction
import TemplateLiteral.Proofs.Token.Spacing
import TemplateLiteral.Proofs.Template.Spacing
import TemplateLiteral.Proofs.Expr.Evaluation
import TemplateLiteral.Proofs.Expr.Chain
import TemplateLiteral.Proofs.Template.Chain
import TemplateLiteral.Proofs.Expr.Parentheses
import TemplateLiteral.Proofs.Template.Safety
import TemplateLiteral.Proofs.Value.Text
import TemplateLiteral.Proofs.Template.Sum
import TemplateLiteral.Proofs.Text.Units
import TemplateLiteral.Proofs.Value.Order
import TemplateLiteral.Proofs.Value.Equality
import TemplateLiteral.Proofs.Template.ShortCircuit
import TemplateLiteral.Proofs.Template.Declaration
import TemplateLiteral.Proofs.Text.Lines
import TemplateLiteral.Proofs.Offset.Position
import TemplateLiteral.Proofs.Value.Indexing
import TemplateLiteral.Proofs.Store
import TemplateLiteral.Proofs.Number.Rounding
import TemplateLiteral.Proofs.Number.Reading
import TemplateLiteral.Proofs.Number.Shortness
import TemplateLiteral.Proofs.Number.Form
import TemplateLiteral.Proofs.Number.Arithmetic
import TemplateLiteral.Proofs.Number.Radix
import TemplateLiteral.Proofs.Number.Coercion
import TemplateLiteral.Proofs.Template.Numeral
