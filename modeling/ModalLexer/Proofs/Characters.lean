import ModalLexer.Text.CharClass

/-!
Inclusions between character classes. The small classes are listed, so that what holds of them can
be checked on each of their characters.
-/

namespace ModalLexer

def digitChars : List Char := (List.range' 0x30 10).map Char.ofNat

def lowerChars : List Char := (List.range' 0x61 26).map Char.ofNat

/-- All blanks, ASCII or not. -/
def blankChars : List Char :=
  [0x9, 0xa, 0xb, 0xc, 0xd, 0x20, 0x85, 0xa0, 0x1680, 0x2000, 0x2001, 0x2002, 0x2003, 0x2004,
    0x2005, 0x2006, 0x2007, 0x2008, 0x2009, 0x200a, 0x2028, 0x2029, 0x202f, 0x205f,
    0x3000].map Char.ofNat

variable {c : Char}

theorem between_iff {lo hi : Char} : (decide (lo.val ≤ c.val) && decide (c.val ≤ hi.val)) = true ↔
    lo.toNat ≤ c.toNat ∧ c.toNat ≤ hi.toNat := by
  rw [Bool.and_eq_true, decide_eq_true_eq, decide_eq_true_eq, UInt32.le_iff_toNat_le,
    UInt32.le_iff_toNat_le]
  exact Iff.rfl

theorem isDigit_iff : c.isDigit = true ↔ 0x30 ≤ c.toNat ∧ c.toNat ≤ 0x39 := between_iff

theorem isLower_iff : c.isLower = true ↔ 0x61 ≤ c.toNat ∧ c.toNat ≤ 0x7a := between_iff

theorem isUpper_iff : c.isUpper = true ↔ 0x41 ≤ c.toNat ∧ c.toNat ≤ 0x5a := by
  have h : c.isUpper = (decide ('A'.val ≤ c.val) && decide (c.val ≤ 'Z'.val)) := Bool.decide_and _ _
  rw [h]
  exact between_iff

theorem isAlphanum_iff :
    c.isAlphanum = true ↔ c.isUpper = true ∨ c.isLower = true ∨ c.isDigit = true := by
  rw [show c.isAlphanum = (c.isUpper || c.isLower || c.isDigit) from rfl]
  simp [or_assoc]

theorem isAlphanum_of_isLower (h : c.isLower = true) : c.isAlphanum = true :=
  isAlphanum_iff.2 (.inr (.inl h))

theorem isAlphanum_of_isDigit (h : c.isDigit = true) : c.isAlphanum = true :=
  isAlphanum_iff.2 (.inr (.inr h))

theorem mem_digitChars (h : c.isDigit = true) : c ∈ digitChars := by
  have hc := isDigit_iff.1 h
  exact List.mem_map.2 ⟨c.toNat, List.mem_range'_1.2 (by omega), Char.ofNat_toNat c⟩

theorem mem_lowerChars (h : c.isLower = true) : c ∈ lowerChars := by
  have hc := isLower_iff.1 h
  exact List.mem_map.2 ⟨c.toNat, List.mem_range'_1.2 (by omega), Char.ofNat_toNat c⟩

theorem mem_blankChars (h : isBlank c = true) : c ∈ blankChars := by
  simp only [isBlank, blankRanges, CharRange.contains, Nat.mod_one, List.any_cons, List.any_nil,
    beq_self_eq_true, Bool.and_true, Bool.or_false, Bool.or_eq_true, Bool.and_eq_true,
    decide_eq_true_eq] at h
  refine List.mem_map.2 ⟨c.toNat, ?_, Char.ofNat_toNat c⟩
  simp only [List.mem_cons, List.not_mem_nil, or_false]
  omega

theorem isLowercase_of_isLower (h : c.isLower = true) : isLowercase c = true := by
  have hc := isLower_iff.1 h
  rwa [isLowercase, memClass_of_lt (by omega)]

theorem isUppercase_of_isUpper (h : c.isUpper = true) : isUppercase c = true := by
  have hc := isUpper_iff.1 h
  rwa [isUppercase, memClass_of_lt (by omega)]

theorem isNumeric_of_isDigit (h : c.isDigit = true) : isNumeric c = true := by
  have hc := isDigit_iff.1 h
  rwa [isNumeric, memClass_of_lt (by omega)]

theorem isDigitIn_of_isDigit (h : c.isDigit = true) : isDigitIn 10 c = true := by
  have hall : digitChars.all (isDigitIn 10) = true := by decide
  exact List.all_eq_true.1 hall c (mem_digitChars h)

theorem isWord_of_isAlphanum (h : c.isAlphanum = true) : isWord c = true := by
  rcases isAlphanum_iff.1 h with hu | hl | hd
  · exact isWord_of_isUppercase (isUppercase_of_isUpper hu)
  · exact isWord_of_isLowercase (isLowercase_of_isLower hl)
  · simp [isWord, isNumeric_of_isDigit hd]

theorem isWord_of_isAsciiLetter (h : isAsciiLetter c = true) : isWord c = true := by
  obtain hl | hu : c.isLower = true ∨ c.isUpper = true := by simpa [isAsciiLetter] using h
  · exact isWord_of_isLowercase (isLowercase_of_isLower hl)
  · exact isWord_of_isUppercase (isUppercase_of_isUpper hu)

theorem isIdent_of_isAlphanum (h : c.isAlphanum = true) : isIdent c = true :=
  isIdent_of_isWord (isWord_of_isAlphanum h)

theorem eq_false_of_isBlank {p : Char → Bool} (hp : blankChars.all (!p ·) = true)
    (h : isBlank c = true) : p c = false := by
  simpa using List.all_eq_true.1 hp c (mem_blankChars h)

theorem isIdent_eq_false_of_isBlank (h : isBlank c = true) : isIdent c = false :=
  eq_false_of_isBlank (by decide +kernel) h

theorem isBlank_eq_false_of_isAlphanum (h : c.isAlphanum = true) : isBlank c = false := by
  cases hb : isBlank c with
  | false => rfl
  | true =>
    have hi := isIdent_eq_false_of_isBlank hb
    rw [isIdent_of_isAlphanum h] at hi
    exact absurd hi (by decide)

theorem any_head?_dropWhile (p : Char → Bool) (cs : List Char) :
    (cs.dropWhile p).head?.any p = false := by
  have h := List.head?_dropWhile_not p cs
  cases hd : (cs.dropWhile p).head? with
  | none => rfl
  | some x => simpa [hd] using h

theorem any_eq_false_of_blank {p : Char → Bool} {cs : List Char}
    (hp : ∀ x, isBlank x = true → p x = false) (h : cs.head?.any isBlank = true) :
    cs.head?.any p = false := by
  cases cs with
  | nil => rfl
  | cons x cs => exact hp x h

theorem any_isIdent_of_blank {cs : List Char} (h : cs.head?.any isBlank = true) :
    cs.head?.any isIdent = false :=
  any_eq_false_of_blank (fun _ => isIdent_eq_false_of_isBlank) h

end ModalLexer
