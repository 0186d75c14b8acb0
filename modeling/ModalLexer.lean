import ModalLexer.Main
import ModalLexer.Proofs.Classification
import ModalLexer.Proofs.Nesting
import ModalLexer.Proofs.Progress
import ModalLexer.Proofs.Restart
import ModalLexer.Proofs.Resync
import ModalLexer.Proofs.Balance
import ModalLexer.Proofs.Lines
import ModalLexer.Proofs.Underline
import ModalLexer.Proofs.JsonReading
import ModalLexer.Proofs.Lossless
import ModalLexer.Proofs.Overlap
import ModalLexer.Proofs.Munch
import ModalLexer.Proofs.LongestMatch
import ModalLexer.Proofs.Greedy
import ModalLexer.Proofs.LongestNumber
import ModalLexer.Proofs.Keyword
import ModalLexer.Proofs.Row
import ModalLexer.Proofs.Heading
import ModalLexer.Proofs.CommentDepth
import ModalLexer.Proofs.StringEnd
import ModalLexer.Proofs.Refusal
import ModalLexer.Proofs.EscapeForms
import ModalLexer.Proofs.SameExpression
import ModalLexer.Proofs.OperatorRun
import ModalLexer.Proofs.BareInterpolation
import ModalLexer.Proofs.Verdict
import ModalLexer.Proofs.Trail
import ModalLexer.Proofs.FileName
import ModalLexer.Proofs.Histogram
