import ModalLexer.Lexeme
import ModalLexer.Proofs.Language

/-!
How numbers are written. Each form is described by its text alone, and the shapes of the number
rules are shown to keep to it.
-/

namespace ModalLexer.Numeral

def IsMark (mark x : Char) : Prop := x = mark ∨ x = mark.toUpper

/-- Zero, a marker and any number of underscores. -/
def Prefix (mark : Char) (t : List Char) : Prop :=
  ∃ x n, IsMark mark x ∧ t = '0' :: x :: List.replicate n '_'

/-- Underscores, a marker, perhaps a sign, and decimal digits. -/
def Exponent (mark : Char) (t : List Char) : Prop :=
  ∃ n x sign digits, IsMark mark x ∧ sign ∈ [[], ['+'], ['-']] ∧ DigitRun (isDigitIn 10) digits ∧
    t = List.replicate n '_' ++ x :: (sign ++ digits)

def Fraction (base : Nat) (t : List Char) : Prop :=
  ∃ digits, DigitRun (isDigitIn base) digits ∧ t = '.' :: digits

/-- Digits behind the marker of their base. -/
def Radix (mark : Char) (base : Nat) (t : List Char) : Prop :=
  ∃ lead digits, Prefix mark lead ∧ DigitRun (isDigitIn base) digits ∧ t = lead ++ digits

def FloatIn (base : Nat) (mark : Char) (t : List Char) : Prop :=
  ∃ digits fraction exponent, DigitRun (isDigitIn base) digits ∧
    (fraction = [] ∨ Fraction base fraction) ∧ (exponent = [] ∨ Exponent mark exponent) ∧
    ¬(fraction = [] ∧ exponent = []) ∧ t = digits ++ fraction ++ exponent

/-- A decimal float, or one with sixteen digits behind their marker. -/
def Floating (t : List Char) : Prop :=
  FloatIn 10 'e' t ∨ ∃ lead rest, Prefix 'x' lead ∧ FloatIn 16 'p' rest ∧ t = lead ++ rest

open Shape Lexeme

theorem Fraction.ne_nil {base : Nat} {t : List Char} (h : Fraction base t) : t ≠ [] := by
  obtain ⟨digits, -, rfl⟩ := h
  simp

theorem Exponent.ne_nil {mark : Char} {t : List Char} (h : Exponent mark t) : t ≠ [] := by
  obtain ⟨n, x, sign, digits, -, -, -, rfl⟩ := h
  simp

theorem spells_char {x : Char} {t : List Char} (h : (char x).Spells t) : t = [x] := by
  obtain ⟨y, hy, rfl⟩ := h
  rw [beq_iff_eq.1 hy]

theorem isMark_of_spells {mark : Char} {t : List Char} (h : (letter mark).Spells t) :
    ∃ x, IsMark mark x ∧ t = [x] := by
  obtain ⟨x, hx, rfl⟩ := h
  exact ⟨x, by simpa [IsMark] using hx, rfl⟩

theorem replicate_of_spells {x : Char} {t : List Char} (h : (many (· == x)).Spells t) :
    t = List.replicate t.length x :=
  List.eq_replicate_iff.2 ⟨rfl, fun y hy => beq_iff_eq.1 (h y hy)⟩

theorem prefix_of_spells {mark : Char} {t : List Char} (h : (radixMark mark).Spells t) :
    Prefix mark t := by
  obtain ⟨u, v, ⟨zero, m, hz, hm, rfl⟩, hv, rfl⟩ := h
  obtain rfl := spells_char hz
  obtain ⟨x, hx, rfl⟩ := isMark_of_spells hm
  exact ⟨x, v.length, hx, congrArg (_ :: _ :: ·) (replicate_of_spells hv)⟩

theorem radix_of_spells {mark : Char} {base : Nat} {t : List Char}
    (h : (radixInteger mark base).Spells t) : Radix mark base t := by
  obtain ⟨lead, digits, hl, hd, rfl⟩ := h
  exact ⟨lead, digits, prefix_of_spells hl, hd, rfl⟩

theorem exponent_of_spells {mark : Char} {t : List Char} (h : (exponent mark).Spells t) :
    Exponent mark t := by
  obtain ⟨us, digits, ⟨vs, sign, ⟨ws, m, hw, hm, rfl⟩, hs, rfl⟩, hd, rfl⟩ := h
  obtain ⟨x, hx, rfl⟩ := isMark_of_spells hm
  have hsign : sign ∈ [[], ['+'], ['-']] := by
    obtain rfl | ⟨y, hy, rfl⟩ := hs
    · simp
    · simpa using hy
  refine ⟨ws.length, x, sign, digits, hx, hsign, hd, ?_⟩
  rw [← replicate_of_spells hw]
  simp

theorem floatIn_of_exponent {base : Nat} {mark : Char} {digits t : List Char}
    (hd : DigitRun (isDigitIn base) digits) (h : (exponent mark).Spells t) :
    FloatIn base mark (digits ++ t) := by
  have he := exponent_of_spells h
  exact ⟨digits, [], t, hd, .inl rfl, .inr he, fun hn => he.ne_nil hn.2, by simp⟩

theorem floatIn_of_fraction {base : Nat} {mark : Char} {digits more t : List Char}
    (hd : DigitRun (isDigitIn base) digits) (hm : DigitRun (isDigitIn base) more)
    (h : (opt (exponent mark)).Spells t) : FloatIn base mark (digits ++ '.' :: more ++ t) := by
  have hf : Fraction base ('.' :: more) := ⟨more, hm, rfl⟩
  exact ⟨digits, '.' :: more, t, hd, .inr hf, h.imp_right exponent_of_spells,
    fun hn => hf.ne_nil hn.1, rfl⟩

theorem float_of_floatExponent {t : List Char} (h : floatExponent.Spells t) : Floating t := by
  obtain ⟨digits, rest, hd, he, rfl⟩ := h
  exact .inl (floatIn_of_exponent hd he)

theorem float_of_floatFraction {t : List Char} (h : floatFraction.Spells t) : Floating t := by
  obtain ⟨u, rest, ⟨v, more, ⟨digits, dot, hd, hdot, rfl⟩, hm, rfl⟩, he, rfl⟩ := h
  obtain rfl := spells_char hdot
  left
  simpa using floatIn_of_fraction hd hm he

theorem float_of_hexFloatExponent {t : List Char} (h : hexFloatExponent.Spells t) : Floating t := by
  obtain ⟨u, rest, ⟨lead, digits, hl, hd, rfl⟩, he, rfl⟩ := h
  right
  exact ⟨lead, digits ++ rest, prefix_of_spells hl, floatIn_of_exponent hd he, by simp⟩

theorem float_of_hexFloatFraction {t : List Char} (h : hexFloatFraction.Spells t) : Floating t := by
  obtain ⟨u, rest, ⟨v, more, ⟨w, dot, hw, hdot, rfl⟩, hm, rfl⟩, he, rfl⟩ := h
  obtain ⟨lead, digits, hl, hd, rfl⟩ := hw
  obtain rfl := spells_char hdot
  right
  exact ⟨lead, _, prefix_of_spells hl, floatIn_of_fraction hd hm he, by simp⟩

end ModalLexer.Numeral
