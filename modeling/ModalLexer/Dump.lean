import ModalLexer.Text.Align
import ModalLexer.Text.JsonString
import ModalLexer.Token

/-!
Token streams written out: as lines of text, as JSON, and as a table of counts.
-/

namespace ModalLexer

inductive DumpFormat
  | text | json
  deriving DecidableEq, Repr

namespace DumpFormat

/-- Case does not matter. Only ASCII letters need folding: no other character has a letter of
these names as its small form. -/
def named? (s : String) : Option DumpFormat :=
  let folded := s.toList.map Char.toLower
  if folded = "text".toList ∨ folded = "txt".toList then some text
  else if folded = "json".toList then some json
  else none

end DumpFormat

namespace Dump

def line (t : Token) : String :=
  decimal t.span.line ++ ":" ++ decimal t.span.column ++ "\t" ++ t.kind.path ++ "\t" ++
    Quoted.encode t.text ++ "\n"

def text (ts : List Token) : String := String.join (ts.map line)

def member (key value : String) : String := "    " ++ JsonString.encode key ++ ": " ++ value

def record (t : Token) : String :=
  "  \x7b\n" ++
    ",\n".intercalate
      [member "kind" (JsonString.encode t.kind.path),
        member "text" (JsonString.encode t.text),
        member "start" (decimal t.span.start),
        member "end" (decimal t.span.stop),
        member "line" (decimal t.span.line),
        member "column" (decimal t.span.column)] ++
    "\n  \x7d"

def json (ts : List Token) : String :=
  match ts with
  | [] => "[]\n"
  | ts => "[\n" ++ ",\n".intercalate (ts.map record) ++ "\n]\n"

/-- Counts a name once more. One that is new comes last. -/
def bump (name : String) : List (String × Nat) → List (String × Nat)
  | [] => [(name, 1)]
  | (other, n) :: counts =>
    if other = name then (other, n + 1) :: counts else (other, n) :: bump name counts

/-- How often each kind occurs, in the order of their first tokens. -/
def tally (ts : List Token) : List (String × Nat) :=
  ts.foldl (fun counts t => bump t.kind.path counts) []

def nameWidth (counts : List (String × Nat)) : Nat :=
  (counts.map (·.1.toList.length)).max?.getD 0

def row (width : Nat) (head : String) (n : Nat) : String :=
  alignLeft width head ++ "  " ++ decimal n ++ "\n"

/-- A row for each kind and one for all tokens. -/
def stats (ts : List Token) : String :=
  let counts := tally ts
  let width := nameWidth counts
  String.join (counts.map fun (name, n) => row width name n) ++ row width "total" ts.length

end Dump

def DumpFormat.render : DumpFormat → List Token → String
  | text => Dump.text
  | json => Dump.json

end ModalLexer
