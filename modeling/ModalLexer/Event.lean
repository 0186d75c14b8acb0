import ModalLexer.Mode
import ModalLexer.Text.Align
import ModalLexer.Text.Quoted

/-!
What a run can log, and the lines of the log.
-/

namespace ModalLexer

inductive LogLevel
  | error | warn | info | debug | trace
  deriving DecidableEq, Repr

namespace LogLevel

def rank : LogLevel → Nat
  | error => 1
  | warn => 2
  | info => 3
  | debug => 4
  | trace => 5

def column : LogLevel → String
  | error => "ERROR"
  | warn => " WARN"
  | info => " INFO"
  | debug => "DEBUG"
  | trace => "TRACE"

end LogLevel

inductive Event
  /-- A mode was entered; the depth of the stack is that after the change, as in the next two. -/
  | pushed (m : Mode) (depth : Nat)
  | popped (m : Mode) (depth : Nat)
  | replaced (m : Mode) (depth : Nat)
  | unrecognized (text : String) (line column : Nat) (m : Mode)
  | resynced (line : Nat) (frames : List Mode)
  | unclosed (frames : List Mode)
  | tokenized (file : String) (tokens : Nat)
  | checking (jobs files : Nat)
  | unfamiliarName (file : String)
  | checked (file : String) (tokens errors warnings : Nat)
  deriving DecidableEq, Repr

namespace Event

def level : Event → LogLevel
  | pushed .. | popped .. | replaced .. => .trace
  | unfamiliarName .. => .warn
  | _ => .debug

def modeNames (ms : List Mode) : String := ", ".intercalate (ms.map Mode.name)

def text : Event → String
  | pushed m depth => "push mode mode=" ++ m.name ++ " depth=" ++ decimal depth
  | popped m depth => "pop mode mode=" ++ m.name ++ " depth=" ++ decimal depth
  | replaced m depth => "replace mode mode=" ++ m.name ++ " depth=" ++ decimal depth
  | unrecognized t line column m =>
    "unrecognized input text=" ++ Quoted.encode t ++ " line=" ++ decimal line ++ " column=" ++
      decimal column ++ " mode=" ++ m.name
  | resynced line frames =>
    "newline resync to root line=" ++ decimal line ++ " modes=[" ++
      ", ".intercalate (frames.map Mode.label) ++ "]"
  | unclosed frames => "mode stack not empty at EOF open=" ++ modeNames frames
  | tokenized file tokens => "tokenized file=" ++ file ++ " tokens=" ++ decimal tokens
  | checking jobs files => "checking jobs=" ++ decimal jobs ++ " files=" ++ decimal files
  | unfamiliarName file => "file name does not look like Morloc source file=" ++ file
  | checked file tokens errors warnings =>
    "checked file=" ++ file ++ " tokens=" ++ decimal tokens ++ " errors=" ++ decimal errors ++
      " warnings=" ++ decimal warnings

def line (e : Event) : String := e.level.column ++ " " ++ e.text ++ "\n"

/-- The lines of a log that keeps nothing more detailed than `filter`; without a filter it keeps
nothing. -/
def log (filter : Option LogLevel) (es : List Event) : String :=
  match filter with
  | none => ""
  | some l => String.join ((es.filter (·.level.rank ≤ l.rank)).map line)

end Event
end ModalLexer
