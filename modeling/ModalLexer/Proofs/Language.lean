import Mathlib.Data.List.TakeWhile
import ModalLexer.Shape

/-!
The texts that a shape can match, whatever stands around them. Matching is greedy and does not go
back, so a shape need not match every text of its language; what it matches is always in it.
-/

namespace ModalLexer

/-- A text that is not empty, all of whose characters belong to the class. -/
def IsRun (p : Char → Bool) (t : List Char) : Prop := t ≠ [] ∧ ∀ x ∈ t, p x = true

/-- Digits with underscores between them: a digit, then any number of times some underscores and
a digit. -/
inductive DigitRun (p : Char → Bool) : List Char → Prop
  | last {d : Char} : p d = true → DigitRun p [d]
  | cons {d : Char} (n : Nat) {rest : List Char} : p d = true → DigitRun p rest →
      DigitRun p (d :: (List.replicate n '_' ++ rest))

namespace DigitRun

variable {p : Char → Bool}

theorem exists_replicate {cs : List Char} (hne : cs ≠ []) (hall : ∀ x ∈ cs, p x = true ∨ x = '_')
    (hlast : ∀ x ∈ cs.getLast?, p x = true) :
    ∃ n rest, cs = List.replicate n '_' ++ rest ∧ DigitRun p rest := by
  induction cs with
  | nil => exact absurd rfl hne
  | cons x cs ih =>
    by_cases hcs : cs = []
    · subst hcs
      exact ⟨0, [x], rfl, .last (hlast x (by simp))⟩
    · obtain ⟨n, rest, e, hr⟩ := ih hcs (fun y hy => hall y (List.mem_cons_of_mem _ hy)) (by
        intro y hy
        apply hlast y
        rw [List.getLast?_cons_of_ne_nil hcs]
        exact hy)
      obtain hx | rfl := hall x List.mem_cons_self
      · exact ⟨0, x :: cs, rfl, e ▸ .cons n hx hr⟩
      · exact ⟨n + 1, rest, by rw [e, List.replicate_succ, List.cons_append], hr⟩

theorem of_ends {d : Char} {cs : List Char} (hd : p d = true)
    (hall : ∀ x ∈ cs, p x = true ∨ x = '_') (hlast : ∀ x ∈ cs.getLast?, p x = true) :
    DigitRun p (d :: cs) := by
  by_cases hcs : cs = []
  · subst hcs
    exact .last hd
  · obtain ⟨n, rest, rfl, hr⟩ := exists_replicate hcs hall hlast
    exact .cons n hd hr

theorem ne_nil {cs : List Char} (h : DigitRun p cs) : cs ≠ [] := by
  cases h <;> simp

end DigitRun

namespace Shape

/-- The language of the shape. Tests of what stands around a place take no text. -/
def Spells : Shape → List Char → Prop
  | literal s, t => t = s
  | one p, t => ∃ x, p x = true ∧ t = [x]
  | many p, t => ∀ x ∈ t, p x = true
  | run p, t => ∀ x ∈ t, ∃ rest, p x rest = true
  | digits p, t => DigitRun p t
  | notAfter _, t => t = []
  | notBefore _, t => t = []
  | before _, t => t = []
  | seq a b, t => ∃ u v, a.Spells u ∧ b.Spells v ∧ t = u ++ v
  | alt a b, t => a.Spells t ∨ b.Spells t
  | opt a, t => t = [] ∨ a.Spells t

theorem take_length_takeWhile (p : Char → Bool) (cs : List Char) :
    cs.take (cs.takeWhile p).length = cs.takeWhile p :=
  (List.prefix_iff_eq_take.1 (List.takeWhile_prefix p)).symm

theorem spells_run (p : Char → List Char → Bool) (cs : List Char) :
    (run p).Spells (cs.take (runLength p cs)) := by
  induction cs with
  | nil => simp [Spells, runLength]
  | cons x cs ih =>
    by_cases hx : p x cs = true
    · intro y hy
      rw [runLength, if_pos hx, List.take_succ_cons] at hy
      obtain rfl | hy := List.mem_cons.1 hy
      · exact ⟨cs, hx⟩
      · exact ih y hy
    · simp [Spells, runLength, hx]

theorem take_digitsLength {p : Char → Bool} {cs : List Char} (h : cs.head?.any p = true) :
    cs.take (digitsLength p cs) =
      ((cs.takeWhile fun x => p x || x == '_').reverse.dropWhile (· == '_')).reverse := by
  have hsuffix := List.dropWhile_suffix (· == '_')
    (l := (cs.takeWhile fun x => p x || x == '_').reverse)
  have hprefix := List.reverse_prefix.2 hsuffix
  rw [List.reverse_reverse] at hprefix
  have hall := hprefix.trans (List.takeWhile_prefix fun x => p x || x == '_')
  rw [digitsLength, if_pos h, ← List.length_reverse]
  exact (List.prefix_iff_eq_take.1 hall).symm

theorem spells_digits {p : Char → Bool} {cs : List Char} (hne : digitsLength p cs ≠ 0) :
    DigitRun p (cs.take (digitsLength p cs)) := by
  have hhead : cs.head?.any p = true := by
    by_contra hh
    exact hne (if_neg hh)
  cases cs with
  | nil => simp at hhead
  | cons d cs =>
    have hd : p d = true := by simpa using hhead
    have htake := take_digitsLength hhead
    obtain ⟨n, hn⟩ := Nat.exists_eq_succ_of_ne_zero hne
    have hmem : ∀ x ∈ (d :: cs).take (digitsLength p (d :: cs)), p x = true ∨ x = '_' := by
      intro x hx
      rw [htake, List.mem_reverse] at hx
      have hw := (List.dropWhile_suffix _).subset hx
      rw [List.mem_reverse] at hw
      simpa using List.mem_takeWhile_imp hw
    have hlast : ∀ x ∈ ((d :: cs).take (digitsLength p (d :: cs))).getLast?, p x = true := by
      intro x hx
      have hm := hmem x (List.mem_of_getLast? hx)
      rw [htake, List.getLast?_reverse] at hx
      have hnot := List.head?_dropWhile_not (· == '_')
        (((d :: cs).takeWhile fun x => p x || x == '_').reverse)
      rw [Option.mem_def.1 hx] at hnot
      exact hm.resolve_right (by simpa using hnot)
    rw [hn, List.take_succ_cons] at hmem hlast ⊢
    refine .of_ends hd (fun x hx => hmem x (List.mem_cons_of_mem _ hx)) ?_
    intro x hx
    apply hlast x
    rw [List.getLast?_cons_of_ne_nil (List.ne_nil_of_mem (List.mem_of_getLast? hx))]
    exact hx

/-- What a shape matches is in its language. -/
theorem spells_of_reach {s : Shape} {prev : Option Char} {cs : List Char} {n : Nat}
    (h : s.reach prev cs = some n) : s.Spells (cs.take n) := by
  induction s generalizing prev cs n with
  | literal s =>
    simp only [reach, Option.ite_none_right_eq_some, Option.some.injEq] at h
    rw [Spells, ← h.2, ← List.prefix_iff_eq_take.1 (List.isPrefixOf_iff_prefix.1 h.1)]
  | one p =>
    cases cs with
    | nil => simp [reach] at h
    | cons x cs =>
      simp only [reach, Option.ite_none_right_eq_some, Option.some.injEq] at h
      exact ⟨x, by simpa using h.1, by rw [← h.2]; rfl⟩
  | many p =>
    obtain rfl : _ = n := Option.some.inj h
    intro x hx
    rw [take_length_takeWhile] at hx
    exact List.mem_takeWhile_imp hx
  | run p =>
    obtain rfl : _ = n := Option.some.inj h
    exact spells_run p cs
  | digits p =>
    simp only [reach, Option.ite_none_left_eq_some, Option.some.injEq] at h
    rw [Spells, ← h.2]
    exact spells_digits h.1
  | notAfter p =>
    simp only [reach, Option.ite_none_left_eq_some, Option.some.injEq] at h
    rw [Spells, ← h.2, List.take_zero]
  | notBefore p =>
    simp only [reach, Option.ite_none_left_eq_some, Option.some.injEq] at h
    rw [Spells, ← h.2, List.take_zero]
  | before p =>
    simp only [reach, Option.ite_none_right_eq_some, Option.some.injEq] at h
    rw [Spells, ← h.2, List.take_zero]
  | seq a b iha ihb =>
    simp only [reach, Option.bind_eq_bind, Option.bind_eq_some_iff, Option.pure_def,
      Option.some.injEq] at h
    obtain ⟨k, hk, l, hl, rfl⟩ := h
    exact ⟨cs.take k, (cs.drop k).take l, iha hk, ihb hl, List.take_add⟩
  | alt a b iha ihb =>
    simp only [reach, Option.or_eq_some_iff] at h
    exact h.imp iha fun hb => ihb hb.2
  | opt a ih =>
    obtain rfl : _ = n := Option.some.inj h
    cases ha : a.reach prev cs with
    | none => exact .inl rfl
    | some m => exact .inr (ih ha)

end Shape
end ModalLexer
