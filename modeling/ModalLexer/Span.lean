/-!
Places in a source text.
-/

namespace ModalLexer

/-- The bytes from `start` up to `stop`, and the line and column of the first of them. Lines and
columns count from one; a column counts characters. They are numbers without a bound: counters of
32 bits agree with them as long as the source is shorter than `2 ^ 32 - 1` bytes. -/
structure Span where
  start : Nat
  stop : Nat
  line : Nat
  column : Nat
  deriving DecidableEq, Repr, Inhabited

namespace Span

/-- The span of a message about no place in particular. -/
def nowhere : Span := ⟨0, 0, 0, 0⟩

def point (offset line column : Nat) : Span := ⟨offset, offset, line, column⟩

end Span
end ModalLexer
