import Calculator.Demonstration
import Calculator.Main
import Calculator.Proofs.Evaluation.Chain
import Calculator.Proofs.Evaluation.Effect
import Calculator.Proofs.Grouping.Sequence
import Calculator.Proofs.Text.Classes
import Calculator.Proofs.Token.Form
import Calculator.Proofs.Token.Scanned
import Calculator.Proofs.Token.Layout
import Calculator.Proofs.Node.Grammar
import Calculator.Proofs.Node.Reading
import Calculator.Proofs.Evaluation.Literal
import Calculator.Proofs.Value.Caught
import Calculator.Proofs.Evaluation.Total
import Calculator.Proofs.Evaluation.Operand
import Calculator.Proofs.Node.Line
import Calculator.Proofs.Node.Sign
import Calculator.Proofs.Evaluation.Statement
import Calculator.Proofs.Evaluation.Substitution
import Calculator.Proofs.Value.Storable
import Calculator.Proofs.Session.Values
import Calculator.Proofs.Evaluation.Mention
import Calculator.Proofs.Session.Answer
import Calculator.Proofs.Session.History
import Calculator.Proofs.Evaluation.Shown
import Calculator.Proofs.Value.Exact
import Calculator.Proofs.Evaluation.Order
import Calculator.Proofs.Grouping.Growth
import Calculator.Proofs.Evaluation.Failure
import Calculator.Proofs.Session.Log
import Calculator.Proofs.Session.Transcript
import Calculator.Proofs.Token.Lossless
import Calculator.Proofs.Token.Stop
import Calculator.Proofs.Node.Refusal
import Calculator.Proofs.Token.Column
import Calculator.Proofs.Node.Pointer
import Calculator.Proofs.Evaluation.Spacing
import Calculator.Proofs.Token.Chunk
import Calculator.Proofs.Token.Extent
import Calculator.Proofs.Evaluation.Numeral
import Calculator.Proofs.Number.Sign
import Calculator.Proofs.Value.Closed
import Calculator.Proofs.Node.Settled
import Calculator.Proofs.Session.Walk
import Calculator.Proofs.Evaluation.Extent
