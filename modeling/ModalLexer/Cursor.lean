import ModalLexer.Text.Bytes
import ModalLexer.Text.CharClass

/-!
A place between two characters of a source, with its byte offset, line and column.
-/

namespace ModalLexer

/-- `before` is what lies behind, the nearest character first; `ahead` is what is still to read.
Line and column are numbers without a bound: each is at most one more than the bytes of the source,
so counters of 32 bits agree with them for a source shorter than `2 ^ 32 - 1` bytes. -/
structure Cursor where
  before : List Char
  ahead : List Char
  position : Nat
  line : Nat
  column : Nat
  deriving DecidableEq, Repr

namespace Cursor

def ofList (cs : List Char) : Cursor := ⟨[], cs, 0, 1, 1⟩

def ofString (s : String) : Cursor := ofList s.toList

def source (c : Cursor) : List Char := c.before.reverse ++ c.ahead

def atEnd (c : Cursor) : Bool := c.ahead.isEmpty

def peek? (c : Cursor) : Option Char := c.ahead.head?

def peekNth? (c : Cursor) (n : Nat) : Option Char := c.ahead[n]?

def previous? (c : Cursor) : Option Char := c.before.head?

def remaining (c : Cursor) : String := String.ofList c.ahead

/-- Past the next character; only a newline ends a line. -/
def advance (c : Cursor) : Cursor :=
  match c.ahead with
  | [] => c
  | x :: rest =>
    { before := x :: c.before
      ahead := rest
      position := c.position + x.utf8Size
      line := if x = '\n' then c.line + 1 else c.line
      column := if x = '\n' then 1 else c.column + 1 }

def skip (c : Cursor) : Nat → Cursor
  | 0 => c
  | n + 1 => c.advance.skip n

@[simp] theorem skip_zero (c : Cursor) : c.skip 0 = c := rfl

theorem skip_succ (c : Cursor) (n : Nat) : c.skip (n + 1) = c.advance.skip n := rfl

@[simp] theorem source_ofList (cs : List Char) : (ofList cs).source = cs := rfl

@[simp] theorem ahead_advance (c : Cursor) : c.advance.ahead = c.ahead.tail := by
  unfold advance; split <;> simp_all

@[simp] theorem source_advance (c : Cursor) : c.advance.source = c.source := by
  unfold advance; split <;> simp_all [source]

@[simp] theorem ahead_skip (c : Cursor) (n : Nat) : (c.skip n).ahead = c.ahead.drop n := by
  induction n generalizing c with
  | zero => simp
  | succ n ih => rw [skip_succ, ih]; simp

@[simp] theorem source_skip (c : Cursor) (n : Nat) : (c.skip n).source = c.source := by
  induction n generalizing c with
  | zero => rfl
  | succ n ih => rw [skip_succ, ih, source_advance]

theorem skip_add (c : Cursor) (m n : Nat) : c.skip (m + n) = (c.skip m).skip n := by
  induction m generalizing c with
  | zero => simp
  | succ m ih => rw [Nat.succ_add, skip_succ, ih, skip_succ]

/-- How many characters begin before the offset `target`, for text that begins at `position`. -/
def startsBefore (target : Nat) : Nat → List Char → Nat
  | _, [] => 0
  | position, x :: rest =>
    if position < target then startsBefore target (position + x.utf8Size) rest + 1 else 0

/-- To the offset `target`, to the end of the character it lies in, or to the end of the source;
never backwards. -/
def advanceTo (c : Cursor) (target : Nat) : Cursor :=
  c.skip (startsBefore target c.position c.ahead)

def eatIf (c : Cursor) (p : Char → Bool) : Option Cursor :=
  if c.peek?.any p then some c.advance else none

def eat (c : Cursor) (x : Char) : Option Cursor := c.eatIf (· == x)

def runLength (c : Cursor) (p : Char → Bool) : Nat := (c.ahead.takeWhile p).length

def eatText (c : Cursor) (s : String) : Option Cursor :=
  if s.toList.isPrefixOf c.ahead then some (c.skip s.toList.length) else none

/-- A whole word: no identifier character stands on either side of it. -/
def eatWord (c : Cursor) (s : String) : Option Cursor :=
  if c.previous?.any isIdent then none
  else (c.eatText s).filter fun d => !d.peek?.any isIdent

/-- The text from the offset `start` to the cursor, unless `start` lies behind the cursor or
inside a character. -/
def sliceFrom? (c : Cursor) (start : Nat) : Option String :=
  (dropBytes? start c.before.reverse).map String.ofList

end Cursor
end ModalLexer
