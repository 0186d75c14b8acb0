/-!
Sets of characters, given as lists of code-point ranges.
-/

namespace ModalLexer

/-- Every `step`-th code point from `first` to `last`. -/
structure CharRange where
  first : Nat
  last : Nat
  step : Nat

def CharRange.contains (r : CharRange) (n : Nat) : Bool :=
  r.first ≤ n && n ≤ r.last && (n - r.first) % r.step == 0

/-- Membership in a set whose ASCII part is `ascii` and whose other part is `table`. -/
def memClass (ascii : Char → Bool) (table : List CharRange) (c : Char) : Bool :=
  if c.toNat < 0x80 then ascii c else table.any (·.contains c.toNat)

theorem memClass_of_lt {ascii : Char → Bool} {table : List CharRange} {c : Char}
    (h : c.toNat < 0x80) : memClass ascii table c = ascii c := by
  simp [memClass, h]

end ModalLexer
