import ModalLexer.Text.JsonString
import ModalLexer.Toml.Scalar

/-!
Strings in TOML notation, written with as few escapes as the notation allows.
-/

namespace ModalLexer.Toml

/-- The ways to quote a string. Long forms may hold line endings; literal forms hold no escapes. -/
inductive Quoting
  | basic | literal | longBasic | longLiteral
  deriving DecidableEq, Repr

namespace Quoting

def mark : Quoting → List Char
  | basic => ['"']
  | literal => ['\'']
  | longBasic => ['"', '"', '"']
  | longLiteral => ['\'', '\'', '\'']

def isLong : Quoting → Bool
  | longBasic | longLiteral => true
  | _ => false

def isLiteral : Quoting → Bool
  | literal | longLiteral => true
  | _ => false

def longestRun (c : Char) (cs : List Char) : Nat :=
  (cs.foldl (fun (run, best) x => if x = c then (run + 1, max best (run + 1)) else (0, best))
    (0, 0)).2

def fits (q : Quoting) (cs : List Char) : Bool :=
  cs.all (fun c => isPlain c || c == '\n') &&
    (q.isLiteral || !cs.contains '\\') &&
    (q.isLong || !cs.contains '\n') &&
    longestRun (if q.isLiteral then '\'' else '"') cs ≤ (if q.isLong then 2 else 0)

/-- The first of the plainest forms that fits; if none does, escapes are needed, and a string with
line endings is written in the long form. -/
def choose (cs : List Char) : Quoting :=
  (([basic, literal, longBasic, longLiteral] : List Quoting).find? (·.fits cs)).getD
    (if cs.contains '\n' then longBasic else basic)

end Quoting

/-- A character of a basic string; `quotes` is the number of quotes directly before it. -/
def escape (long : Bool) (quotes : Nat) (c : Char) : List Char :=
  match c with
  | '"' => if quotes < (if long then 2 else 0) then ['"'] else ['\\', '"']
  | '\\' => ['\\', '\\']
  | '\x08' => ['\\', 'b']
  | '\t' => ['\\', 't']
  | '\n' => if long then ['\n'] else ['\\', 'n']
  | '\x0c' => ['\\', 'f']
  | '\r' => ['\\', 'r']
  | c => if isPlain c then [c] else ['\\', 'u'] ++ (JsonString.hex4 c.toNat).map Char.toUpper

/-- The text of a basic string. A quote that has to be escaped begins a new run. -/
def escapeAll (long : Bool) : Nat → List Char → List Char
  | _, [] => []
  | quotes, c :: rest =>
    let e := escape long quotes c
    e ++ escapeAll long (if e = ['"'] then quotes + 1 else 0) rest

/-- A string in the form chosen for it. Text with line endings begins on a line of its own. -/
def writeString (s : String) : String :=
  let cs := s.toList
  let q := Quoting.choose cs
  let body := if q.isLiteral then cs else escapeAll q.isLong 0 cs
  let start := if q.isLong && cs.contains '\n' then ['\n'] else []
  String.ofList (q.mark ++ start ++ body ++ q.mark)

def writeBool (b : Bool) : String := if b then "true" else "false"

end ModalLexer.Toml
