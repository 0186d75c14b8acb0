import ModalLexer.Cursor

/-!
Sequences of cursor operations, with places to come back to.
-/

namespace ModalLexer.Cursor

inductive Command
  | peek
  | peekNth (n : Nat)
  | previous
  | advance
  | advanceTo (target : Nat)
  | atEnd
  | eat (x : Char)
  | eatIf (p : Char → Bool)
  | eatWhile (p : Char → Bool)
  | eatText (s : String)
  | eatWord (s : String)
  | sliceFrom (start : Nat)
  | remaining
  | snapshot
  | restore (index : Nat)

inductive Answer
  | done
  | char (x : Option Char)
  | flag (b : Bool)
  | count (n : Nat)
  | text (s : String)
  | badSlice
  deriving DecidableEq

/-- A cursor and the places it has noted, the earliest first. -/
structure Trail where
  cursor : Cursor
  noted : List Cursor

namespace Trail

def start (s : String) : Trail := ⟨.ofString s, []⟩

def moveTo (t : Trail) (c : Cursor) : Trail := { t with cursor := c }

/-- Where an operation that may fail leads, and whether it succeeds; a failure moves nothing. -/
def attempt (t : Trail) (c : Option Cursor) : Answer × Trail :=
  (.flag c.isSome, t.moveTo (c.getD t.cursor))

def perform (t : Trail) : Command → Answer × Trail
  | .peek => (.char t.cursor.peek?, t)
  | .peekNth n => (.char (t.cursor.peekNth? n), t)
  | .previous => (.char t.cursor.previous?, t)
  | .advance => (.done, t.moveTo t.cursor.advance)
  | .advanceTo target => (.done, t.moveTo (t.cursor.advanceTo target))
  | .atEnd => (.flag t.cursor.atEnd, t)
  | .eat x => t.attempt (t.cursor.eat x)
  | .eatIf p => t.attempt (t.cursor.eatIf p)
  | .eatWhile p =>
    let n := t.cursor.runLength p
    (.count n, t.moveTo (t.cursor.skip n))
  | .eatText s => t.attempt (t.cursor.eatText s)
  | .eatWord s => t.attempt (t.cursor.eatWord s)
  | .sliceFrom start => (((t.cursor.sliceFrom? start).map .text).getD .badSlice, t)
  | .remaining => (.text t.cursor.remaining, t)
  | .snapshot => (.count t.noted.length, { t with noted := t.noted ++ [t.cursor] })
  | .restore index => (.done, t.moveTo (t.noted[index]?.getD t.cursor))

end Trail
end ModalLexer.Cursor
