import ModalLexer.Cursor

/-!
Line and column of a place, read off the text before it. A cursor keeps its counters in step with
that text however it moves.
-/

namespace ModalLexer

def lineAfter (before : List Char) : Nat := before.count '\n' + 1

/-- One more than the number of characters since the last newline. -/
def columnAfter (before : List Char) : Nat := (before.reverse.takeWhile (· != '\n')).length + 1

theorem lineAfter_concat (before : List Char) (x : Char) :
    lineAfter (before ++ [x]) = if x = '\n' then lineAfter before + 1 else lineAfter before := by
  by_cases h : x = '\n' <;> simp [lineAfter, List.count_append, h]

theorem columnAfter_concat (before : List Char) (x : Char) :
    columnAfter (before ++ [x]) = if x = '\n' then 1 else columnAfter before + 1 := by
  by_cases h : x = '\n' <;> simp [columnAfter, h]

theorem utf8ByteSize_ofList (cs : List Char) : (String.ofList cs).utf8ByteSize = byteLength cs := by
  induction cs with
  | nil => rfl
  | cons x cs ih =>
    rw [String.ofList_cons, String.utf8ByteSize_append, String.utf8ByteSize_singleton, ih]
    rfl

theorem byteLength_toList (s : String) : byteLength s.toList = s.utf8ByteSize := by
  rw [← utf8ByteSize_ofList, String.ofList_toList]

theorem length_le_byteLength (cs : List Char) : cs.length ≤ byteLength cs := by
  induction cs with
  | nil => simp
  | cons x cs ih =>
    have hx := x.utf8Size_pos
    simp only [List.length_cons, byteLength_cons]
    omega

theorem byteLength_le_of_isPrefix {u v : List Char} (h : u <+: v) : byteLength u ≤ byteLength v := by
  obtain ⟨r, rfl⟩ := h
  simp

theorem lineAfter_le (before : List Char) : lineAfter before ≤ byteLength before + 1 := by
  have hc := List.count_le_length (a := '\n') (l := before)
  have hl := length_le_byteLength before
  simp only [lineAfter]
  omega

theorem columnAfter_le (before : List Char) : columnAfter before ≤ byteLength before + 1 := by
  have hc := (List.takeWhile_sublist (· != '\n') (l := before.reverse)).length_le
  have hl := length_le_byteLength before
  simp only [columnAfter, List.length_reverse] at *
  omega

namespace Cursor

def behind (c : Cursor) : List Char := c.before.reverse

/-- The counters tell the place that the text behind the cursor leads to. -/
structure Placed (c : Cursor) : Prop where
  position : c.position = byteLength c.behind
  line : c.line = lineAfter c.behind
  column : c.column = columnAfter c.behind

theorem placed_ofList (cs : List Char) : (ofList cs).Placed := ⟨rfl, rfl, rfl⟩

theorem behind_append_ahead (c : Cursor) : c.behind ++ c.ahead = c.source := rfl

theorem behind_advance {c : Cursor} {x : Char} {rest : List Char} (h : c.ahead = x :: rest) :
    c.advance.behind = c.behind ++ [x] := by
  simp [advance, behind, h]

theorem advance_of_nil {c : Cursor} (h : c.ahead = []) : c.advance = c := by
  simp [advance, h]

theorem Placed.advance {c : Cursor} (hc : c.Placed) : c.advance.Placed := by
  cases h : c.ahead with
  | nil => rwa [advance_of_nil h]
  | cons x rest =>
    have hb := behind_advance h
    constructor
    · rw [hb, byteLength_append, ← hc.position]
      simp [Cursor.advance, h]
    · rw [hb, lineAfter_concat, ← hc.line]
      simp [Cursor.advance, h]
    · rw [hb, columnAfter_concat, ← hc.column]
      simp [Cursor.advance, h]

theorem Placed.skip {c : Cursor} (hc : c.Placed) (n : Nat) : (c.skip n).Placed := by
  induction n generalizing c with
  | zero => exact hc
  | succ n ih => exact ih hc.advance

theorem behind_skip (c : Cursor) (n : Nat) :
    (c.skip n).behind = c.behind ++ c.ahead.take n := by
  induction n generalizing c with
  | zero => simp
  | succ n ih =>
    rw [skip_succ, ih, ahead_advance]
    cases h : c.ahead with
    | nil => simp [advance_of_nil h]
    | cons x rest => simp [behind_advance h]

theorem position_skip (c : Cursor) (n : Nat) :
    (c.skip n).position = c.position + byteLength (c.ahead.take n) := by
  induction n generalizing c with
  | zero => simp
  | succ n ih =>
    rw [skip_succ, ih]
    cases h : c.ahead with
    | nil => simp [advance, h]
    | cons x rest => simp [advance, h, Nat.add_assoc]

end Cursor
end ModalLexer
