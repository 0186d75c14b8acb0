/-!
Shapes of text. A shape is matched at one place, from left to right and without going back: a
run takes all it can, and of two alternatives the first that matches is taken.
-/

namespace ModalLexer

inductive Shape
  | literal (cs : List Char)
  | one (p : Char → Bool)
  | many (p : Char → Bool)
  /-- The longest run of characters that pass a test together with what follows them; it may be
  empty. -/
  | run (p : Char → List Char → Bool)
  | digits (p : Char → Bool)
  | notAfter (p : Char → Bool)
  | notBefore (p : Char → Bool)
  | before (p : Char → Bool)
  | seq (a b : Shape)
  | alt (a b : Shape)
  | opt (a : Shape)

namespace Shape

instance : Append Shape := ⟨seq⟩
instance : OrElse Shape := ⟨fun a b => alt a (b ())⟩

def text (s : String) : Shape := literal s.toList

def char (x : Char) : Shape := one (· == x)

def many1 (p : Char → Bool) : Shape := one p ++ many p

def runLength (p : Char → List Char → Bool) : List Char → Nat
  | [] => 0
  | x :: rest => if p x rest then runLength p rest + 1 else 0

/-- The length of the longest run of digits and underscores that begins and ends with a digit. -/
def digitsLength (p : Char → Bool) (cs : List Char) : Nat :=
  if cs.head?.any p then
    ((cs.takeWhile fun x => p x || x == '_').reverse.dropWhile (· == '_')).length
  else 0

/-- The last of `prev` and the first `n` characters of `cs`. -/
def lastOf (prev : Option Char) (n : Nat) (cs : List Char) : Option Char :=
  (cs.take n).getLast?.or prev

/-- How many characters of `cs` the shape matches, if it does, where `prev` comes before. -/
def reach : Shape → Option Char → List Char → Option Nat
  | literal s, _, cs => if s.isPrefixOf cs then some s.length else none
  | one p, _, cs => if cs.head?.any p then some 1 else none
  | many p, _, cs => some (cs.takeWhile p).length
  | run p, _, cs => some (runLength p cs)
  | digits p, _, cs => if digitsLength p cs = 0 then none else some (digitsLength p cs)
  | notAfter p, prev, _ => if prev.any p then none else some 0
  | notBefore p, _, cs => if cs.head?.any p then none else some 0
  | before p, _, cs => if cs.head?.any p then some 0 else none
  | seq a b, prev, cs => do
    let m ← a.reach prev cs
    let n ← b.reach (lastOf prev m cs) (cs.drop m)
    return m + n
  | alt a b, prev, cs => (a.reach prev cs).or (b.reach prev cs)
  | opt a, prev, cs => some ((a.reach prev cs).getD 0)

@[simp] theorem append_eq (a b : Shape) : a ++ b = seq a b := rfl

@[simp] theorem orElse_eq (a b : Shape) : (a <|> b) = alt a b := rfl

theorem length_takeWhile_le (p : Char → Bool) (cs : List Char) :
    (cs.takeWhile p).length ≤ cs.length :=
  (List.takeWhile_sublist p).length_le

theorem runLength_le (p : Char → List Char → Bool) (cs : List Char) :
    runLength p cs ≤ cs.length := by
  induction cs with
  | nil => simp [runLength]
  | cons x cs ih => simp only [runLength, List.length_cons]; split <;> omega

theorem digitsLength_le (p : Char → Bool) (cs : List Char) : digitsLength p cs ≤ cs.length := by
  unfold digitsLength
  split
  · refine Nat.le_trans (List.dropWhile_sublist _).length_le ?_
    simpa using length_takeWhile_le _ cs
  · omega

theorem reach_le {s : Shape} {prev : Option Char} {cs : List Char} {n : Nat}
    (h : s.reach prev cs = some n) : n ≤ cs.length := by
  induction s generalizing prev cs n with
  | literal s =>
    simp only [reach, Option.ite_none_right_eq_some, Option.some.injEq] at h
    exact h.2 ▸ (List.isPrefixOf_iff_prefix.1 h.1).length_le
  | one p => cases cs with
    | nil => simp [reach] at h
    | cons x cs =>
      simp only [reach, Option.ite_none_right_eq_some, Option.some.injEq] at h
      simp [← h.2]
  | many p =>
    simp only [reach, Option.some.injEq] at h
    exact h ▸ length_takeWhile_le p cs
  | run p =>
    simp only [reach, Option.some.injEq] at h
    exact h ▸ runLength_le p cs
  | digits p =>
    simp only [reach, Option.ite_none_left_eq_some, Option.some.injEq] at h
    exact h.2 ▸ digitsLength_le p cs
  | notAfter p => simp [reach] at h; omega
  | notBefore p => simp [reach] at h; omega
  | before p => simp [reach] at h; omega
  | seq a b iha ihb =>
    simp only [reach, Option.bind_eq_bind, Option.bind_eq_some_iff, Option.pure_def,
      Option.some.injEq] at h
    obtain ⟨k, hk, l, hl, rfl⟩ := h
    have h₁ := iha hk
    have h₂ := ihb hl
    rw [List.length_drop] at h₂
    omega
  | alt a b iha ihb =>
    simp only [reach, Option.or_eq_some_iff] at h
    exact h.elim iha fun h => ihb h.2
  | opt a ih =>
    simp only [reach, Option.some.injEq] at h
    cases ha : a.reach prev cs with
    | none => simp_all; omega
    | some m =>
      rw [ha] at h
      exact h ▸ ih ha

end Shape
end ModalLexer
