import ModalLexer.Diagnostic.Snippet
import ModalLexer.Span

/-!
Messages about a source text, and collections of them.
-/

namespace ModalLexer

inductive Level
  | note | warning | error
  deriving DecidableEq, Repr

namespace Level

def name : Level → String
  | note => "note"
  | warning => "warning"
  | error => "error"

def rank : Level → Nat
  | note => 0
  | warning => 1
  | error => 2

def graver (a b : Level) : Level := if a.rank ≤ b.rank then b else a

end Level

/-- A family letter and a number, with the name of what they stand for. -/
structure DiagnosticCode where
  family : String
  number : Nat
  name : String
  deriving DecidableEq, Repr

namespace DiagnosticCode

def text (c : DiagnosticCode) : String := c.family ++ zeroPadded 4 c.number

def debug (c : DiagnosticCode) : String := "DiagnosticCode(" ++ c.text ++ ", " ++ c.name ++ ")"

def unrecognizedInput : DiagnosticCode := ⟨"E", 1001, "lexer_unrecognized_input"⟩

def unclosedMode : DiagnosticCode := ⟨"W", 1001, "lexer_unclosed_mode"⟩

end DiagnosticCode

structure Diagnostic where
  level : Level
  message : String
  span : Span
  code : Option DiagnosticCode
  notes : List String
  helps : List String
  snippets : List Snippet
  deriving DecidableEq, Repr

namespace Diagnostic

def headline (d : Diagnostic) : String :=
  d.level.name ++ (d.code.map fun c => "[" ++ c.text ++ "]").getD "" ++ ": " ++ d.message

/-- The whole message; `origin` names the file it is about. -/
def render (d : Diagnostic) (origin : String) : String :=
  d.headline ++ "\n" ++
    "  --> " ++ origin ++ ":" ++ decimal d.span.line ++ ":" ++ decimal d.span.column ++ "\n" ++
    String.join (d.snippets.map (·.format ++ "\n")) ++
    String.join (d.notes.map ("  = note: " ++ · ++ "\n")) ++
    String.join (d.helps.map ("  = help: " ++ · ++ "\n"))

end Diagnostic

structure Diagnostics where
  reported : List Diagnostic
  deriving DecidableEq, Repr

namespace Diagnostics

def empty : Diagnostics := ⟨[]⟩

def report (ds : Diagnostics) (more : List Diagnostic) : Diagnostics := ⟨ds.reported ++ more⟩

def countAt (ds : Diagnostics) (l : Level) : Nat := ds.reported.countP (·.level == l)

def errorCount (ds : Diagnostics) : Nat := ds.countAt .error

def warningCount (ds : Diagnostics) : Nat := ds.countAt .warning

def hasErrors (ds : Diagnostics) : Bool := ds.reported.any (·.level == .error)

def gravest? (ds : Diagnostics) : Option Level :=
  match ds.reported with
  | [] => none
  | d :: rest => some (rest.foldl (fun l e => l.graver e.level) d.level)

theorem hasErrors_iff {ds : Diagnostics} : ds.hasErrors ↔ 0 < ds.errorCount := by
  simp [hasErrors, errorCount, countAt, List.countP_pos_iff]

end Diagnostics
end ModalLexer
