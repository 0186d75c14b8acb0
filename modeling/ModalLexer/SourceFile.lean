import ModalLexer.Diagnostic
import ModalLexer.Text.Bytes
import ModalLexer.Text.Quoted
import ModalLexer.Text.Split

/-!
A named source text with its lines.
-/

namespace ModalLexer

structure SourceFile where
  name : String
  content : String
  deriving DecidableEq, Repr

inductive RangeError
  | reversed (start stop : Nat)
  | pastEnd (length start stop : Nat)
  | splitsCharacter (start stop : Nat)
  deriving DecidableEq, Repr

namespace RangeError

def label : RangeError → String
  | reversed .. => "InvalidSpan"
  | pastEnd .. => "SpanOutOfBounds"
  | splitsCharacter .. => "NotCharBoundary"

def message : RangeError → String
  | reversed start stop =>
    "Invalid span: start " ++ decimal start ++ " > end " ++ decimal stop
  | pastEnd length start stop =>
    "Span out of bounds: file has " ++ decimal length ++ " bytes, span is " ++ decimal start ++
      ".." ++ decimal stop
  | splitsCharacter start stop =>
    "Span " ++ decimal start ++ ".." ++ decimal stop ++ " is not on character boundaries"

def debug : RangeError → String
  | e@(reversed start stop) | e@(splitsCharacter start stop) =>
    e.label ++ " \x7b start: " ++ decimal start ++ ", end: " ++ decimal stop ++ " \x7d"
  | e@(pastEnd length start stop) =>
    e.label ++ " \x7b file_len: " ++ decimal length ++ ", span_start: " ++ decimal start ++
      ", span_end: " ++ decimal stop ++ " \x7d"

end RangeError

/-- The offsets at which lines start, for text that starts at `offset` inside a line. -/
def startsAfter (offset : Nat) : List Char → List Nat
  | [] => []
  | c :: rest =>
    if c = '\n' then (offset + c.utf8Size) :: startsAfter (offset + c.utf8Size) rest
    else startsAfter (offset + c.utf8Size) rest

/-- Without the newlines and carriage returns at its end. -/
def trimLineEnd (cs : List Char) : List Char :=
  (cs.reverse.dropWhile fun c => c == '\n' || c == '\r').reverse

namespace SourceFile

def size (f : SourceFile) : Nat := byteLength f.content.toList

def lineStarts (f : SourceFile) : List Nat := 0 :: startsAfter 0 f.content.toList

def lineCount (f : SourceFile) : Nat := f.lineStarts.length

/-- Where a line starts; the first line is number zero. -/
def lineStart? (f : SourceFile) (n : Nat) : Option Nat := f.lineStarts[n]?

/-- A line without its ending; the first line is number one. -/
def lineAt? (f : SourceFile) (n : Nat) : Option String :=
  match n with
  | 0 => none
  | n + 1 => (splitAtChar '\n' f.content.toList)[n]?.map fun l => String.ofList (trimLineEnd l)

def extract (f : SourceFile) (start stop : Nat) : Except RangeError String :=
  if stop < start then .error (.reversed start stop)
  else if f.size < stop then .error (.pastEnd f.size start stop)
  else match sliceBytes? start stop f.content.toList with
    | none => .error (.splitsCharacter start stop)
    | some cs => .ok (String.ofList cs)

/-- The number of characters of the span on its first line, the line ending left out; zero if the
span does not fit the text. -/
def widthOnLine (f : SourceFile) (s : Span) : Nat :=
  let stop := min ((f.lineStart? s.line).getD f.size) s.stop
  match f.extract (min s.start stop) stop with
  | .ok t => (trimLineEnd t.toList).length
  | .error _ => 0

/-- The first line of a span with the span underlined, if the file has such a line. -/
def snippet? (f : SourceFile) (s : Span) : Option Snippet :=
  (f.lineAt? s.line).map fun line =>
    { line
      lineNumber := s.line
      startColumn := s.column
      stopColumn := s.column + f.widthOnLine s
      label := none }

/-- Messages about the file, each with the line it is about. -/
def render (f : SourceFile) (ds : List Diagnostic) : List String :=
  ds.map fun d =>
    { d with snippets := d.snippets ++ (f.snippet? d.span).toList }.render f.name

def debug (f : SourceFile) : String :=
  "SourceFile \x7b name: " ++ Quoted.encode f.name ++ ", line_count: " ++ decimal f.lineCount ++
    " \x7d"

end SourceFile
end ModalLexer
