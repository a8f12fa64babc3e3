import FilterScript.Error
import FilterScript.Table
import FilterScript.Number.Format
import FilterScript.Number.Rounding
import FilterScript.Number.Decimal
import FilterScript.Number.Style
import FilterScript.Number.Literal
import FilterScript.Text.CodePoints
import FilterScript.Text.Blank
import FilterScript.Text.Digit
import FilterScript.Text.Word
import FilterScript.Text.Printable
import FilterScript.Text.Identifier
import FilterScript.Text.CaseTable
import FilterScript.Text.Case
import FilterScript.Text.Quoted
import FilterScript.Pattern.Width
import FilterScript.Pattern.Syntax
import FilterScript.Pattern.Fault
import FilterScript.Pattern.Token
import FilterScript.Pattern.Flags
import FilterScript.Pattern.Group
import FilterScript.Pattern.Escape
import FilterScript.Pattern.ClassReader
import FilterScript.Pattern.Rounds
import FilterScript.Pattern.Reader
import FilterScript.Pattern.Letter
import FilterScript.Pattern.Matching
import FilterScript.Pattern.Search
import FilterScript.Value.Kind
import FilterScript.Value.Basic
import FilterScript.Value.Render
import FilterScript.Value.Native
import FilterScript.Value.Relation
import FilterScript.Value.Cursor
import FilterScript.Script.Syntax
import FilterScript.Script.Builtin
import FilterScript.Script.State
import FilterScript.Script.Eval
import FilterScript.Script.Interpreter
import FilterScript.Proofs.Evaluation
import FilterScript.Proofs.Frame
import FilterScript.Proofs.Journal
import FilterScript.Proofs.MomentInvariant
import FilterScript.Proofs.Depth
import FilterScript.Proofs.OriginTrail
import FilterScript.Proofs.Trail
import FilterScript.Proofs.SampleHost
import FilterScript.Proofs.TestRow
import FilterScript.Proofs.TextRelations
import FilterScript.Proofs.Negation
import FilterScript.Proofs.Isolation
import FilterScript.Proofs.Masking
import FilterScript.Proofs.Following
import FilterScript.Proofs.Relevance
import FilterScript.Proofs.DepthLimit
import FilterScript.Proofs.Announcement
import FilterScript.Proofs.Cancellation
import FilterScript.Proofs.Soundness
import FilterScript.Proofs.ErrorContract
import FilterScript.Proofs.Sequence
import FilterScript.Proofs.Blindness
import FilterScript.Proofs.Inlining
import FilterScript.Proofs.NestedConditions
import FilterScript.Proofs.Replay
import FilterScript.Proofs.Quiet
import FilterScript.Proofs.Grid
import FilterScript.Proofs.Numeral
import FilterScript.Proofs.Reading
import FilterScript.Proofs.Narrowing
import FilterScript.Proofs.Closeness
import FilterScript.Proofs.NumericText
import FilterScript.Proofs.IntegerOrder
import FilterScript.Proofs.SignificantDigits
import FilterScript.Proofs.DecimalGrid
import FilterScript.Proofs.ShortestDouble
import FilterScript.Proofs.ReadBack
import FilterScript.Proofs.FewestDigits
import FilterScript.Proofs.Layout
import FilterScript.Proofs.ShownForm
import FilterScript.Proofs.ShortestRendering
import FilterScript.Proofs.RoundTrip
import FilterScript.Proofs.NineDigits
import FilterScript.Proofs.WholeNumberText
import FilterScript.Proofs.Uses
import FilterScript.Proofs.Orderly
import FilterScript.Proofs.ValueInvariant
import FilterScript.Proofs.NumericGrammar
import FilterScript.Proofs.NativeRoundTrip
import FilterScript.Proofs.NativeConversion
import FilterScript.Proofs.WholeNumberOrder
import FilterScript.Proofs.SingleRounding
import FilterScript.Proofs.TestOrder
import FilterScript.Proofs.TestOperands
import FilterScript.Proofs.CallOrder
import FilterScript.Proofs.StackExhaustion
import FilterScript.Proofs.PatternReading
import FilterScript.Proofs.SearchFailure
import FilterScript.Proofs.PlainPattern
import FilterScript.Proofs.Iteration
import FilterScript.Proofs.Cursors
import FilterScript.Proofs.Containment
