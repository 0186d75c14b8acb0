import ModalLexer.Event
import ModalLexer.FileTree

/-!
What a command comes to: a value or the cause of its failure, and what it logged up to then.
-/

namespace ModalLexer

structure Outcome (α : Type) where
  events : List Event
  result : Except Cause α

namespace Outcome

def ok {α : Type} (a : α) : Outcome α := ⟨[], .ok a⟩

def fail {α : Type} (c : Cause) : Outcome α := ⟨[], .error c⟩

def andThen {α β : Type} (o : Outcome α) (f : α → Outcome β) : Outcome β :=
  match o.result with
  | .ok a => ⟨o.events ++ (f a).events, (f a).result⟩
  | .error c => ⟨o.events, .error c⟩

def logging {α : Type} (es : List Event) (o : Outcome α) : Outcome α := ⟨es ++ o.events, o.result⟩

end Outcome

def Files.readSource (fs : Files) (path : String) : Except Cause String :=
  match fs.find? path with
  | none => .error (.inputNotFound path)
  | some .directory => .error (.inputNotFile path)
  | some e =>
    match e.text with
    | .ok s => .ok s
    | .error fault => .error (.inputUnreadable path fault)

end ModalLexer
