import ModalLexer.Proofs.Characters
import ModalLexer.Proofs.FirstMatch
import ModalLexer.Proofs.Language

/-!
Two shapes at one place. Either they never match there together, or one of them takes no less than
the other: because it takes the whole run of a class that the other stays within, or because the
other is its beginning.
-/

namespace ModalLexer

theorem length_takeWhile_le_drop (p : Char → Bool) (n : Nat) (cs : List Char) :
    (cs.takeWhile p).length ≤ n + ((cs.drop n).takeWhile p).length := by
  induction cs generalizing n with
  | nil => simp
  | cons x cs ih =>
    cases n with
    | zero => simp
    | succ n =>
      have hrest := ih n
      rw [List.takeWhile_cons]
      split
      · rw [List.length_cons, List.drop_succ_cons]
        omega
      · simp

namespace Shape

variable {a b s t : Shape} {p : Char → Bool} {hs : List Char} {prev : Option Char} {cs : List Char}
  {n : Nat}

theorem exists_of_reach_seq (h : (a ++ s).reach prev cs = some n) : ∃ k l,
    a.reach prev cs = some k ∧ s.reach (lastOf prev k cs) (cs.drop k) = some l ∧ n = k + l := by
  simp only [append_eq, reach, Option.bind_eq_bind, Option.bind_eq_some_iff, Option.pure_def,
    Option.some.injEq] at h
  obtain ⟨k, hk, l, hl, rfl⟩ := h
  exact ⟨k, l, hk, hl, rfl⟩

theorem reach_append {k l : Nat} (ha : a.reach prev cs = some k)
    (hs : s.reach (lastOf prev k cs) (cs.drop k) = some l) : (a ++ s).reach prev cs = some (k + l) := by
  simp [reach, ha, hs]

theorem exists_of_reach_one (h : (one p).reach prev cs = some n) :
    (∃ x rest, cs = x :: rest ∧ p x = true) ∧ n = 1 := by
  obtain ⟨hp, hn⟩ := Option.ite_none_right_eq_some.1 h
  refine ⟨?_, (Option.some.inj hn).symm⟩
  cases cs with
  | nil => simp at hp
  | cons x rest => exact ⟨x, rest, rfl, by simpa using hp⟩

theorem prefix_of_reach_literal {u : List Char} (h : (literal u).reach prev cs = some n) :
    u <+: cs ∧ n = u.length := by
  obtain ⟨hu, hn⟩ := Option.ite_none_right_eq_some.1 h
  exact ⟨List.isPrefixOf_iff_prefix.1 hu, (Option.some.inj hn).symm⟩

theorem ne_zero_of_reach (hs : s.nullable = false) (h : s.reach prev cs = some n) : n ≠ 0 := by
  rintro rfl
  exact absurd (nullable_of_reach h) (by simp [hs])

/-- Where both match, the first takes no less than the second. -/
def Outruns (a b : Shape) : Prop :=
  ∀ ⦃prev cs m n⦄, a.reach prev cs = some m → b.reach prev cs = some n → n ≤ m

def Excludes (a b : Shape) : Prop :=
  ∀ ⦃prev cs m n⦄, a.reach prev cs = some m → b.reach prev cs ≠ some n

/-- A match takes all of the run of the class that begins where it begins. -/
def Covers (a : Shape) (p : Char → Bool) : Prop :=
  ∀ ⦃prev cs n⦄, a.reach prev cs = some n → (cs.takeWhile p).length ≤ n

def Within (a : Shape) (p : Char → Bool) : Prop :=
  ∀ ⦃t⦄, a.Spells t → ∀ x ∈ t, p x = true

theorem Within.length_le (h : a.Within p) (hn : a.reach prev cs = some n) :
    n ≤ (cs.takeWhile p).length := by
  have hall := h (spells_of_reach hn)
  have hrun : (cs.take n ++ cs.drop n).takeWhile p = cs.take n ++ (cs.drop n).takeWhile p :=
    List.takeWhile_append_of_pos hall
  rw [List.take_append_drop] at hrun
  rw [hrun, List.length_append, List.length_take, Nat.min_eq_left (reach_le hn)]
  exact Nat.le_add_right _ _

theorem Covers.outruns (ha : a.Covers p) (hb : b.Within p) : a.Outruns b :=
  fun _ _ _ _ hm hn => (hb.length_le hn).trans (ha hm)

theorem Excludes.symm (h : a.Excludes b) : b.Excludes a :=
  fun _ _ _ _ hm hn => h hn hm

theorem Excludes.outruns (h : a.Excludes b) : a.Outruns b :=
  fun _ _ _ _ hm hn => absurd hn (h hm)

theorem Excludes.append_left (h : a.Excludes b) (s : Shape) : (a ++ s).Excludes b := by
  intro prev cs m n hm hn
  obtain ⟨k, l, hk, -, -⟩ := exists_of_reach_seq hm
  exact h hk hn

theorem Excludes.append_right (h : a.Excludes b) (s : Shape) : a.Excludes (b ++ s) :=
  (h.symm.append_left s).symm

theorem Excludes.seq (h : s.Excludes t) (a : Shape) : (a ++ s).Excludes (a ++ t) := by
  intro prev cs m n hm hn
  obtain ⟨k, l, hk, hl, -⟩ := exists_of_reach_seq hm
  obtain ⟨k', l', hk', hl', -⟩ := exists_of_reach_seq hn
  obtain rfl := Option.some.inj (hk.symm.trans hk')
  exact h hl hl'

theorem Outruns.seq (h : s.Outruns t) (a : Shape) : (a ++ s).Outruns (a ++ t) := by
  intro prev cs m n hm hn
  obtain ⟨k, l, hk, hl, rfl⟩ := exists_of_reach_seq hm
  obtain ⟨k', l', hk', hl', rfl⟩ := exists_of_reach_seq hn
  obtain rfl := Option.some.inj (hk.symm.trans hk')
  exact Nat.add_le_add_left (h hl hl') k

theorem outruns_append (a s : Shape) : (a ++ s).Outruns a := by
  intro prev cs m n hm hn
  obtain ⟨k, l, hk, -, rfl⟩ := exists_of_reach_seq hm
  obtain rfl := Option.some.inj (hk.symm.trans hn)
  exact Nat.le_add_right k l

theorem Outruns.append_left (h : a.Outruns b) (s : Shape) : (a ++ s).Outruns b := by
  intro prev cs m n hm hn
  obtain ⟨k, l, hk, -, rfl⟩ := exists_of_reach_seq hm
  exact (h hk hn).trans (Nat.le_add_right k l)

theorem outruns_nothing (a : Shape) : a.Outruns (literal []) := by
  intro prev cs m n _ hn
  obtain rfl : 0 = n := by simpa [reach] using hn
  exact Nat.zero_le m

theorem covers_many (p : Char → Bool) : (many p).Covers p := by
  intro prev cs n h
  exact (Option.some.inj h).le

theorem covers_notBefore (p : Char → Bool) : (notBefore p).Covers p := by
  intro prev cs n h
  obtain ⟨hp, -⟩ := Option.ite_none_left_eq_some.1 h
  cases cs with
  | nil => simp
  | cons x cs =>
    have hx : p x = false := by simpa using hp
    simp [hx]

theorem covers_literal {u : List Char} (h : u.all p = false) : (literal u).Covers p := by
  intro prev cs n hn
  obtain ⟨⟨rest, rfl⟩, rfl⟩ := prefix_of_reach_literal hn
  obtain ⟨x, hx, hpx⟩ := List.all_eq_false.1 h
  by_contra hlong
  have hinside : u <+: (u ++ rest).takeWhile p :=
    List.prefix_of_prefix_length_le (List.prefix_append u rest) (List.takeWhile_prefix p)
      (by omega)
  exact hpx (List.mem_takeWhile_imp (hinside.subset hx))

theorem Covers.append_left (h : a.Covers p) (s : Shape) : (a ++ s).Covers p := by
  intro prev cs n hn
  obtain ⟨k, l, hk, -, rfl⟩ := exists_of_reach_seq hn
  exact (h hk).trans (Nat.le_add_right k l)

theorem Covers.append_right (h : s.Covers p) (a : Shape) : (a ++ s).Covers p := by
  intro prev cs n hn
  obtain ⟨k, l, -, hl, rfl⟩ := exists_of_reach_seq hn
  have hrun := length_takeWhile_le_drop p k cs
  have hrest := h hl
  omega

theorem Covers.orElse (ha : a.Covers p) (hb : b.Covers p) : (a <|> b).Covers p := by
  intro prev cs n hn
  obtain hn | ⟨-, hn⟩ := Option.or_eq_some_iff.1 hn
  · exact ha hn
  · exact hb hn

/-- What the shape takes begins with one of these characters. -/
def Begins (s : Shape) (hs : List Char) : Prop :=
  ∀ ⦃prev x cs n⦄, s.reach prev (x :: cs) = some n → n ≠ 0 → x ∈ hs

theorem begins_of_starts (h : ∀ x, s.starts x = true → x ∈ hs) : s.Begins hs :=
  fun _ x _ _ hn hz => h x (starts_of_reach hn hz)

theorem outruns_of_apart (hn : a.nullable = false)
    (h : ∀ prev x cs m n, a.reach prev (x :: cs) = some m → m ≠ 0 →
      b.reach prev (x :: cs) = some n → n = 0) : a.Outruns b := by
  intro prev cs m n hma hnb
  cases cs with
  | nil => exact (reach_le hnb).trans (Nat.zero_le m)
  | cons x cs =>
    rw [h prev x cs m n hma (ne_zero_of_reach hn hma) hnb]
    exact Nat.zero_le m

theorem Begins.outruns (ha : a.Begins hs) (hn : a.nullable = false)
    (hb : ∀ x ∈ hs, b.starts x = false) : a.Outruns b := by
  refine outruns_of_apart hn fun prev x cs m n hma hm hnb => ?_
  by_contra hz
  exact absurd (starts_of_reach hnb hz) (by simp [hb x (ha hma hm)])

theorem Begins.outruns_of (hb : b.Begins hs) (hn : a.nullable = false)
    (ha : ∀ x ∈ hs, a.starts x = false) : a.Outruns b := by
  refine outruns_of_apart hn fun prev x cs m n hma hm hnb => ?_
  by_contra hz
  exact absurd (starts_of_reach hma hm) (by simp [ha x (hb hnb hz)])

theorem char_excludes {x : Char} (hn : s.nullable = false) (h : s.starts x = false) :
    (char x).Excludes s := by
  intro prev cs m n hm hs
  obtain ⟨⟨y, rest, rfl, hy⟩, -⟩ := exists_of_reach_one hm
  obtain rfl := beq_iff_eq.1 hy
  rw [reach_eq_none hn h] at hs
  cases hs

theorem begins_literal (x : Char) (u : List Char) : (literal (x :: u)).Begins [x] :=
  begins_of_starts fun _ hy => List.mem_singleton.2 (Option.some.inj (beq_iff_eq.1 hy)).symm

theorem begins_char (x : Char) : (char x).Begins [x] :=
  begins_of_starts fun y hy => by simpa [char, starts] using hy

theorem Begins.mono {more : List Char} (h : a.Begins hs) (hm : hs ⊆ more) : a.Begins more :=
  fun _ _ _ _ hn hz => hm (h hn hz)

theorem Begins.append (h : a.Begins hs) (hn : a.nullable = false) (s : Shape) :
    (a ++ s).Begins hs := by
  intro prev x cs n hx _
  obtain ⟨k, l, hk, -, rfl⟩ := exists_of_reach_seq hx
  exact h hk (ne_zero_of_reach hn hk)

/-- The most characters that the shape can take, if there is a bound. -/
def widest? : Shape → Option Nat
  | literal s => some s.length
  | one _ => some 1
  | many _ | run _ | digits _ => none
  | notAfter _ | notBefore _ | before _ => some 0
  | seq a b => do return (← a.widest?) + (← b.widest?)
  | alt a b => do return max (← a.widest?) (← b.widest?)
  | opt a => a.widest?

theorem le_of_widest? {w : Nat} (hw : a.widest? = some w) (hn : a.reach prev cs = some n) :
    n ≤ w := by
  induction a generalizing prev cs n w with
  | literal s =>
    obtain ⟨-, rfl⟩ := prefix_of_reach_literal hn
    exact (Option.some.inj hw).le
  | one p =>
    obtain ⟨-, rfl⟩ := exists_of_reach_one hn
    exact (Option.some.inj hw).le
  | many p => cases hw
  | run p => cases hw
  | digits p => cases hw
  | notAfter p =>
    obtain rfl : 0 = n := by simpa using (Option.ite_none_left_eq_some.1 hn).2
    exact Nat.zero_le w
  | notBefore p =>
    obtain rfl : 0 = n := by simpa using (Option.ite_none_left_eq_some.1 hn).2
    exact Nat.zero_le w
  | before p =>
    obtain rfl : 0 = n := by simpa using (Option.ite_none_right_eq_some.1 hn).2
    exact Nat.zero_le w
  | seq a b iha ihb =>
    obtain ⟨u, hu, v, hv, rfl⟩ : ∃ u, a.widest? = some u ∧ ∃ v, b.widest? = some v ∧ u + v = w := by
      simpa [widest?, Option.bind_eq_some_iff] using hw
    obtain ⟨k, l, hk, hl, rfl⟩ := exists_of_reach_seq hn
    exact Nat.add_le_add (iha hu hk) (ihb hv hl)
  | alt a b iha ihb =>
    obtain ⟨u, hu, v, hv, rfl⟩ : ∃ u, a.widest? = some u ∧ ∃ v, b.widest? = some v ∧
        max u v = w := by
      simpa [widest?, Option.bind_eq_some_iff] using hw
    obtain hn | ⟨-, hn⟩ := Option.or_eq_some_iff.1 hn
    · exact (iha hu hn).trans (Nat.le_max_left u v)
    · exact (ihb hv hn).trans (Nat.le_max_right u v)
  | opt a ih =>
    obtain rfl := Option.some.inj hn
    cases ha : a.reach prev cs with
    | none => exact Nat.zero_le w
    | some m => exact ih hw ha

end Shape

namespace Lexeme

open Shape

theorem covers_word (u : String) : (word u).Covers isIdent :=
  (covers_notBefore isIdent).append_right _

theorem within_one_many {p q r : Char → Bool} (hp : ∀ x, p x = true → r x = true)
    (hq : ∀ x, q x = true → r x = true) : (one p ++ many q).Within r := by
  rintro t ⟨u, v, ⟨x, hx, rfl⟩, hv, rfl⟩ y hy
  obtain rfl | hy := List.mem_cons.1 hy
  · exact hp y hx
  · exact hq y (hv y hy)

theorem isIdent_of_isLowercase {x : Char} (h : isLowercase x = true) : isIdent x = true :=
  isIdent_of_isWord (isWord_of_isLowercase h)

theorem isIdent_of_isUppercase {x : Char} (h : isUppercase x = true) : isIdent x = true :=
  isIdent_of_isWord (isWord_of_isUppercase h)

theorem covers_lowerName : lowerName.Covers isIdent :=
  (((covers_many isIdent).append_right _).append_right _).orElse ((covers_many isIdent).append_right _)

theorem within_lowerName : lowerName.Within isIdent := by
  rintro t (⟨u, v, ⟨x, hx, rfl⟩, hv, rfl⟩ | ht) y hy
  · obtain rfl | hy := List.mem_cons.1 hy
    · rw [beq_iff_eq.1 hx]
      rfl
    · exact within_one_many (fun _ h => h) (fun _ h => h) hv y hy
  · exact within_one_many (fun _ => isIdent_of_isLowercase) (fun _ h => h) ht y hy

theorem within_upperName : upperName.Within isIdent :=
  within_one_many (fun _ => isIdent_of_isUppercase) fun _ h => h

theorem within_word {u : String} (hu : u.toList.all isIdent = true) : (word u).Within isIdent := by
  rintro t ⟨v, w, ⟨v', w', rfl, rfl, rfl⟩, rfl, rfl⟩ y hy
  exact List.all_eq_true.1 hu y (by simpa using hy)

theorem takeWhile_of_reach_word {u : String} (hu : u.toList.all isIdent = true)
    {prev : Option Char} {cs : List Char} {n : Nat} (h : (word u).reach prev cs = some n) :
    cs.takeWhile isIdent = u.toList := by
  obtain ⟨v, w, ⟨v', w', rfl, rfl, hv⟩, rfl, ht⟩ := spells_of_reach h
  have htake : cs.take n = u.toList := by simpa [hv] using ht
  have hlen := (within_word hu).length_le h
  have hall : cs.takeWhile isIdent = cs.take n := by
    have hcover : (cs.takeWhile isIdent).length = n := (covers_word u h).antisymm hlen
    rw [← hcover, take_length_takeWhile]
  rw [hall, htake]

theorem word_excludes {u v : String} (hu : u.toList.all isIdent = true)
    (hv : v.toList.all isIdent = true) (hne : u ≠ v) : (word u).Excludes (word v) := by
  intro prev cs m n hm hn
  apply hne
  rw [← String.toList_inj, ← takeWhile_of_reach_word hu hm, takeWhile_of_reach_word hv hn]

/-- A run of blanks takes the same with and without the blank that it must have. -/
theorem reach_many_of_blanks {prev : Option Char} {cs : List Char} {n : Nat}
    (h : blanks.reach prev cs = some n) : (many isBlank).reach prev cs = some n := by
  obtain ⟨k, l, hk, hl, rfl⟩ := exists_of_reach_seq h
  obtain ⟨⟨x, rest, rfl, hblank⟩, rfl⟩ := exists_of_reach_one hk
  obtain rfl := Option.some.inj hl
  simp [reach, hblank, Nat.add_comm]

theorem excludes_blanks {s t : Shape} (h : s.Excludes t) :
    (blanks ++ s).Excludes (many isBlank ++ t) := by
  intro prev cs m n hm hn
  obtain ⟨k, l, hk, hl, -⟩ := exists_of_reach_seq hm
  obtain ⟨k', l', hk', hl', -⟩ := exists_of_reach_seq hn
  obtain rfl := Option.some.inj ((reach_many_of_blanks hk).symm.trans hk')
  exact h hl hl'

theorem begins_blanks : blanks.Begins blankChars := by
  have hone : (one isBlank).Begins blankChars := begins_of_starts fun _ => mem_blankChars
  exact hone.append rfl _

def operatorChars : List Char := "!#$%&*+./<=>?@\\^|~:-".toList

theorem begins_lineComment : lineComment.Begins ['-'] :=
  (begins_literal '-' ['-']).append rfl _

theorem covers_lineComment : lineComment.Covers (· != '\n') :=
  (covers_many _).append_right _

theorem within_operator : operator.Within isOperatorChar := by
  intro t ht x hx
  obtain ⟨rest, hrest⟩ := ht x hx
  exact (Bool.and_eq_true_iff.1 hrest).1

theorem begins_operator : operator.Begins operatorChars := by
  intro prev x cs n h hn
  obtain ⟨k, rfl⟩ := Nat.exists_eq_succ_of_ne_zero hn
  have hx : isOperatorChar x = true := within_operator (spells_of_reach h) x (by simp)
  exact List.contains_iff_mem.1 hx

theorem selectorDot_outruns_operator : selectorDot.Outruns operator := by
  intro prev cs m n hm hn
  obtain ⟨k, l, hk, hl, rfl⟩ := exists_of_reach_seq hm
  obtain ⟨⟨x, rest, rfl, hdot⟩, rfl⟩ := exists_of_reach_one hk
  obtain rfl := beq_iff_eq.1 hdot
  have hnext : rest.head?.any startsSelector = true := (Option.ite_none_right_eq_some.1 hl).1
  obtain rfl : 0 = n := by simpa [operator, reach, runLength, hnext] using hn
  exact Nat.zero_le _

theorem mem_digitChars_of_isDigitIn {x : Char} (h : isDigitIn 10 x = true) : x ∈ digitChars := by
  unfold isDigitIn digitValue? at h
  split at h
  case isTrue hdigit => exact mem_digitChars hdigit
  case isFalse =>
    split at h
    · exact absurd h (by simp)
    · split at h
      · exact absurd h (by simp)
      · exact absurd h (by simp)

theorem begins_digitsIn : (digitsIn 10).Begins digitChars :=
  begins_of_starts fun _ => mem_digitChars_of_isDigitIn

/-- What the shape takes begins with a zero and the marker of a base. -/
def Marks (a : Shape) (mark : Char) : Prop :=
  ∀ ⦃prev cs n⦄, a.reach prev cs = some n →
    1 ≤ n ∧ ∃ x rest, cs = '0' :: x :: rest ∧ x ∈ [mark, mark.toUpper]

variable {a b : Shape} {mark other : Char}

theorem Marks.append (h : Marks a mark) (s : Shape) : Marks (a ++ s) mark := by
  intro prev cs n hn
  obtain ⟨k, l, hk, -, rfl⟩ := exists_of_reach_seq hn
  obtain ⟨hpos, htext⟩ := h hk
  exact ⟨hpos.trans (Nat.le_add_right k l), htext⟩

theorem Marks.begins (h : Marks a mark) : a.Begins digitChars := by
  intro prev x cs n hn _
  obtain ⟨-, y, rest, e, -⟩ := h hn
  obtain rfl : x = '0' := (List.cons.inj e).1
  decide

theorem marks_radixMark (mark : Char) : Marks (radixMark mark) mark := by
  intro prev cs n hn
  obtain ⟨k, l, hk, -, rfl⟩ := exists_of_reach_seq hn
  obtain ⟨k, l', hzero, hmark, rfl⟩ := exists_of_reach_seq hk
  obtain ⟨⟨z, after, rfl, hz⟩, rfl⟩ := exists_of_reach_one hzero
  obtain rfl := beq_iff_eq.1 hz
  obtain ⟨⟨x, rest, hafter, hx⟩, -⟩ := exists_of_reach_one hmark
  obtain rfl : after = x :: rest := hafter
  exact ⟨by omega, x, rest, rfl, by simpa using hx⟩

theorem Marks.excludes (ha : Marks a mark) (hb : Marks b other)
    (hne : [mark, mark.toUpper].all (!List.contains [other, other.toUpper] ·) = true) :
    a.Excludes b := by
  intro prev cs m n hm hn
  obtain ⟨-, x, rest, rfl, hx⟩ := ha hm
  obtain ⟨-, y, rest', e, hy⟩ := hb hn
  obtain ⟨rfl, -⟩ : x = y ∧ rest = rest' := by simpa using e
  have hother := List.all_eq_true.1 hne x hx
  simp only [Bool.not_eq_true', List.contains_eq_mem, decide_eq_false_iff_not] at hother
  exact hother hy

def marks : List Char := ['x', 'X', 'o', 'O', 'b', 'B']

theorem reach_digitsIn_of_mark {x : Char} {prev : Option Char} {rest : List Char} (hx : x ∈ marks) :
    (digitsIn 10).reach prev ('0' :: x :: rest) = some 1 := by
  have hmarks : marks.all (fun y => !(isDigitIn 10 y || y == '_')) = true := by decide
  have hzero : ∀ y ∈ ['0'], isDigitIn 10 y = true ∧ y ≠ '_' :=
    List.forall_mem_singleton.2 (by decide)
  have hend : (isDigitIn 10 x || x == '_') = false := by
    simpa using List.all_eq_true.1 hmarks x hx
  exact reach_digits (List.cons_ne_nil _ _) hzero (by simpa using hend)

theorem Marks.outruns_digitsIn (ha : Marks a mark) (hmark : [mark, mark.toUpper] ⊆ marks) :
    a.Outruns (digitsIn 10) := by
  intro prev cs m n hm hn
  obtain ⟨hpos, x, rest, rfl, hx⟩ := ha hm
  have hmem := hmark hx
  obtain rfl := Option.some.inj ((reach_digitsIn_of_mark hmem).symm.trans hn)
  exact hpos

theorem Marks.excludes_digitsIn {s : Shape} (ha : Marks a mark)
    (hmark : [mark, mark.toUpper] ⊆ marks) (hs : s.nullable = false)
    (hstarts : marks.all (!s.starts ·) = true) : a.Excludes (digitsIn 10 ++ s) := by
  intro prev cs m n hm hn
  obtain ⟨-, x, rest, rfl, hx⟩ := ha hm
  have hmem := hmark hx
  obtain ⟨k, l, hk, hl, -⟩ := exists_of_reach_seq hn
  obtain rfl := Option.some.inj ((reach_digitsIn_of_mark hmem).symm.trans hk)
  have hx : s.starts x = false := by simpa using List.all_eq_true.1 hstarts x hmem
  rw [List.drop_succ_cons, List.drop_zero, reach_eq_none hs hx] at hl
  cases hl

end Lexeme
end ModalLexer
