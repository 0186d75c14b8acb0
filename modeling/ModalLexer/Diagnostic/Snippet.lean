import ModalLexer.Text.Align

/-!
A line of source with a stretch of it underlined.
-/

namespace ModalLexer

structure Snippet where
  line : String
  lineNumber : Nat
  startColumn : Nat
  stopColumn : Nat
  label : Option String
  deriving DecidableEq, Repr

namespace Snippet

def margin (s : Snippet) : Nat := max (Nat.toDigits 10 s.lineNumber).length 3

/-- At least one caret is drawn. -/
def carets (s : Snippet) : Nat := max (s.stopColumn - s.startColumn) 1

def format (s : Snippet) : String :=
  alignRight s.margin (decimal s.lineNumber) ++ " | " ++ s.line ++ "\n" ++
    repeated s.margin ' ' ++ " | " ++ repeated (s.startColumn - 1) ' ' ++ repeated s.carets '^' ++
    (s.label.map (" " ++ ·)).getD ""

end Snippet
end ModalLexer
