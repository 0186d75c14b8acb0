import ModalLexer.Proofs.Classification
import ModalLexer.Proofs.Greedy
import ModalLexer.Proofs.LongestMatch
import ModalLexer.Proofs.Passage

/-!
Numbers are read as far as they go. Every form of number has a rule that finds it, so the first rule
that matches takes the longest text that is a number at all; of which kind it is can be told from
its letters.
-/

namespace ModalLexer

open Shape Lexeme

namespace Numeral

variable {mark x : Char} {base : Nat} {t : List Char} {k : NumberKind}

theorem IsMark.spells (h : IsMark mark x) : (letter mark).Spells [x] :=
  ⟨x, by simpa [IsMark] using h, rfl⟩

theorem spells_replicate (n : Nat) : (many (· == '_')).Spells (List.replicate n '_') :=
  fun _ hx => beq_iff_eq.2 (List.eq_of_mem_replicate hx)

theorem Prefix.spells (h : Prefix mark t) : (radixMark mark).Spells t := by
  obtain ⟨x, n, hx, rfl⟩ := h
  exact ⟨['0', x], _, ⟨['0'], [x], ⟨'0', rfl, rfl⟩, hx.spells, rfl⟩, spells_replicate n, rfl⟩

theorem Radix.spells (h : Radix mark base t) : (radixInteger mark base).Spells t := by
  obtain ⟨lead, digits, hl, hd, rfl⟩ := h
  exact ⟨lead, digits, hl.spells, hd, rfl⟩

theorem Exponent.spells (h : Exponent mark t) : (exponent mark).Spells t := by
  obtain ⟨n, x, sign, digits, hx, hs, hd, rfl⟩ := h
  have hsign : (opt (one fun x => x == '+' || x == '-')).Spells sign := by
    simp only [List.mem_cons, List.not_mem_nil, or_false] at hs
    obtain rfl | rfl | rfl := hs
    · exact .inl rfl
    · exact .inr ⟨'+', rfl, rfl⟩
    · exact .inr ⟨'-', rfl, rfl⟩
  exact ⟨_, digits, ⟨_, sign, ⟨_, [x], spells_replicate n, hx.spells, rfl⟩, hsign, rfl⟩, hd,
    by simp⟩

theorem FloatIn.spells {s : Shape} (h : FloatIn base mark t) (lead : List Char)
    (hs : ∀ digits, DigitRun (isDigitIn base) digits → s.Spells (lead ++ digits)) :
    (s ++ exponent mark).Spells (lead ++ t) ∨
      (s ++ char '.' ++ digitsIn base ++ opt (exponent mark)).Spells (lead ++ t) := by
  obtain ⟨digits, fraction, e, hd, hf, he, hne, rfl⟩ := h
  obtain rfl | ⟨more, hm, rfl⟩ := hf
  · obtain rfl | he := he
    · exact absurd ⟨rfl, rfl⟩ hne
    · exact .inl ⟨lead ++ digits, e, hs digits hd, he.spells, by simp⟩
  · have hpoint : (s ++ char '.').Spells (lead ++ digits ++ ['.']) :=
      ⟨_, ['.'], hs digits hd, ⟨'.', rfl, rfl⟩, rfl⟩
    exact .inr ⟨lead ++ digits ++ ['.'] ++ more, e, ⟨_, more, hpoint, hm, rfl⟩,
      he.imp_right (·.spells), by simp⟩

theorem exists_rule (h : (TokenKind.number k).Admits t) :
    ∃ shape, Rule.emits (.number k) shape ∈ Rule.numbers ∧ shape.Spells t := by
  cases k with
  | integer => exact ⟨digitsIn 10, by simp [Rule.numbers], h⟩
  | bin => exact ⟨radixInteger 'b' 2, by simp [Rule.numbers], Radix.spells h⟩
  | oct => exact ⟨radixInteger 'o' 8, by simp [Rule.numbers], Radix.spells h⟩
  | hex => exact ⟨radixInteger 'x' 16, by simp [Rule.numbers], Radix.spells h⟩
  | float =>
    obtain h | ⟨lead, rest, hl, h, rfl⟩ := h
    · obtain h | h := h.spells [] (s := digitsIn 10) fun _ hd => hd
      · exact ⟨floatExponent, by simp [Rule.numbers], h⟩
      · exact ⟨floatFraction, by simp [Rule.numbers], h⟩
    · obtain h | h := h.spells lead (s := radixMark 'x' ++ digitsIn 16) fun digits hd =>
        ⟨lead, digits, hl.spells, hd, rfl⟩
      · exact ⟨hexFloatExponent, by simp [Rule.numbers], h⟩
      · exact ⟨hexFloatFraction, by simp [Rule.numbers], h⟩

theorem digitsIn_shuns {p : Char → Bool} (h : ∀ x, isDigitIn base x = true → p x = false) :
    (digitsIn base).Shuns p := by
  intro t ht
  obtain ⟨d, rest, rfl, hd⟩ := DigitRun.exists_head ht
  exact ⟨d, rest, rfl, h d hd⟩

theorem ne_of_isDigitIn {y : Char} (hy : isDigitIn base y = false) (h : isDigitIn base x = true) :
    (x == y) = false := by
  refine beq_false_of_ne ?_
  rintro rfl
  exact absurd h (by simp [hy])

theorem radixMark_endsBefore : (radixMark mark).EndsBefore (digitsIn base) :=
  (one_endsBefore.append one_endsBefore rfl).append
    (many_endsBefore (digitsIn_shuns fun _ => ne_of_isDigitIn rfl)) rfl

theorem mem_marks (h : IsMark mark x) : x ∈ [mark, mark.toUpper] := by
  simpa [IsMark] using h

def apart (base : Nat) (cs : List Char) : Bool := cs.all fun x => !(isDigitIn base x || x == '_')

theorem eq_false_of_apart {cs : List Char} (h : apart base cs = true) (hx : x ∈ cs) :
    (isDigitIn base x || x == '_') = false := by
  simpa using List.all_eq_true.1 h x hx

theorem digitsIn_endsBefore_exponent (h : apart base [mark, mark.toUpper] = true) :
    (digitsIn base).EndsBefore (exponent mark) := by
  refine digits_endsBefore rfl fun v hv => ?_
  obtain ⟨n, x, sign, digits, hx, -, -, rfl⟩ := exponent_of_spells hv
  exact ⟨n, x, sign ++ digits, rfl, eq_false_of_apart h (mem_marks hx)⟩

theorem digitsIn_endsBefore_point : (digitsIn base).EndsBefore (char '.') := by
  refine digits_endsBefore rfl fun v hv => ?_
  obtain rfl := spells_char hv
  exact ⟨0, '.', [], rfl, rfl⟩

theorem exponent_attains (h : apart base [mark, mark.toUpper] = true) :
    (exponent mark).Attains := by
  have hletter : (letter mark).Shuns (· == '_') := by
    intro t ht
    obtain ⟨x, hx, rfl⟩ := isMark_of_spells ht
    exact ⟨x, [], rfl, (Bool.or_eq_false_iff.1 (eq_false_of_apart h (mem_marks hx))).2⟩
  have hsign : (digitsIn 10).Shuns fun x => x == '+' || x == '-' := digitsIn_shuns fun x hx => by
    rw [ne_of_isDigitIn rfl hx, ne_of_isDigitIn rfl hx]
    rfl
  have hlead := ((many_endsBefore hletter).append (one_endsBefore (b := opt _)) rfl).append
    (opt_one_endsBefore hsign) rfl
  exact (digits_attains rfl).append hlead rfl

theorem float_attains (mark : Char) (base : Nat) {s : Shape}
    (hs : ∀ {b : Shape}, (digitsIn base).EndsBefore b → s.EndsBefore b)
    (h : apart base [mark, mark.toUpper] = true) :
    (s ++ exponent mark).Attains ∧
      (s ++ char '.' ++ digitsIn base ++ opt (exponent mark)).Attains := by
  have hexponent := exponent_attains h
  have hdigits := digitsIn_endsBefore_exponent h
  have hpoint : (s ++ char '.').EndsBefore (digitsIn base) :=
    (hs digitsIn_endsBefore_point).append one_endsBefore rfl
  exact ⟨hexponent.append (hs hdigits) rfl,
    ((digits_attains rfl).append hpoint rfl).append_opt (hpoint.append hdigits rfl) hexponent rfl⟩

theorem attains_numbers : ∀ r ∈ Rule.numbers, r.shape.Attains ∧ r.shape.lookbacks = [] := by
  obtain ⟨hhexExponent, hhexFraction⟩ := float_attains 'p' 16
    (s := radixMark 'x' ++ digitsIn 16) (fun h => radixMark_endsBefore.append h rfl) (by decide)
  obtain ⟨hexponent, hfraction⟩ := float_attains 'e' 10 (s := digitsIn 10)
    (fun h => h) (by decide)
  have hradix (mark : Char) (base : Nat) : (radixInteger mark base).Attains :=
    (digits_attains rfl).append radixMark_endsBefore rfl
  refine List.forall_iff_forall_mem.1 ⟨?_, ?_, ?_, ?_, ?_, ?_, ?_, ?_⟩
  · exact ⟨hhexExponent, rfl⟩
  · exact ⟨hhexFraction, rfl⟩
  · exact ⟨hexponent, rfl⟩
  · exact ⟨hfraction, rfl⟩
  · exact ⟨hradix 'b' 2, rfl⟩
  · exact ⟨hradix 'o' 8, rfl⟩
  · exact ⟨hradix 'x' 16, rfl⟩
  · exact ⟨digits_attains rfl, rfl⟩

def marked (mark : Char) (t : List Char) : Bool := t[1]?.any [mark, mark.toUpper].contains

def floats (mark : Char) (t : List Char) : Bool := t.any ['.', mark, mark.toUpper].contains

def kindOf (t : List Char) : NumberKind :=
  if marked 'b' t then .bin
  else if marked 'o' t then .oct
  else if marked 'x' t then if floats 'p' t then .float else .hex
  else if floats 'e' t then .float else .integer

/-- The base of the last digit. The exponent of a hexadecimal float is decimal. -/
def lastBase (t : List Char) : Nat :=
  match kindOf t with
  | .bin => 2
  | .oct => 8
  | .hex => 16
  | .integer => 10
  | .float => if marked 'x' t then 16 else 10

def decimalChars : List Char := digitChars ++ ['_', '.', 'e', 'E', '+', '-']

theorem mem_decimalChars_of_digits (h : DigitRun (isDigitIn 10) t) : t ⊆ decimalChars := by
  intro y hy
  obtain hd | rfl := h.mem y hy
  · exact List.mem_append_left _ (mem_digitChars_of_isDigitIn hd)
  · decide

theorem mem_decimalChars_of_float (h : FloatIn 10 'e' t) : t ⊆ decimalChars := by
  obtain ⟨digits, fraction, e, hd, hf, he, -, rfl⟩ := h
  have hfraction : fraction ⊆ decimalChars := by
    obtain rfl | ⟨more, hm, rfl⟩ := hf
    · exact List.nil_subset _
    · exact List.cons_subset.2 ⟨by decide, mem_decimalChars_of_digits hm⟩
  have hexponent : e ⊆ decimalChars := by
    obtain rfl | ⟨n, x, sign, more, hx, hs, hm, rfl⟩ := he
    · exact List.nil_subset _
    · have hmark : ['e', 'E'] ⊆ decimalChars := by decide
      have hsign : ∀ u ∈ [[], ['+'], ['-']], u ⊆ decimalChars := by decide
      refine List.append_subset.2 ⟨fun y hy => ?_, List.cons_subset.2
        ⟨hmark (mem_marks hx), List.append_subset.2 ⟨hsign _ hs, mem_decimalChars_of_digits hm⟩⟩⟩
      rw [List.eq_of_mem_replicate hy]
      decide
  exact List.append_subset.2
    ⟨List.append_subset.2 ⟨mem_decimalChars_of_digits hd, hfraction⟩, hexponent⟩

theorem marked_eq_false (h : t ⊆ decimalChars) :
    ∀ mark ∈ ['b', 'o', 'x'], marked mark t = false := by
  have hall : ['b', 'o', 'x'].all (fun mark =>
      decimalChars.all (!List.contains [mark, mark.toUpper] ·)) = true := by decide
  intro mark hmark
  rw [marked, ← Bool.not_eq_true, Option.any_eq_true]
  rintro ⟨y, hy, hc⟩
  have hnot := List.all_eq_true.1 (List.all_eq_true.1 hall mark hmark) y
    (h (List.mem_of_getElem? hy))
  rw [hc] at hnot
  cases hnot

theorem FloatIn.floats (h : FloatIn base mark t) : floats mark t = true := by
  obtain ⟨digits, fraction, e, -, hf, he, hne, rfl⟩ := h
  obtain rfl | ⟨more, -, rfl⟩ := hf
  · obtain rfl | ⟨n, x, sign, more, hx, -, -, rfl⟩ := he
    · exact absurd ⟨rfl, rfl⟩ hne
    · have hc : ['.', mark, mark.toUpper].contains x = true :=
        List.contains_iff_mem.2 (List.mem_cons_of_mem _ (mem_marks hx))
      exact List.any_eq_true.2 ⟨x, by simp, hc⟩
  · exact List.any_eq_true.2 ⟨'.', by simp, by simp⟩

/-- Behind the marker of a base only the letters of a float are still looked at. -/
theorem kindOf_behind {lead : List Char} (h : Prefix mark lead) (rest : List Char) :
    (mark = 'b' → kindOf (lead ++ rest) = .bin) ∧ (mark = 'o' → kindOf (lead ++ rest) = .oct) ∧
      (mark = 'x' → marked 'x' (lead ++ rest) = true ∧
        kindOf (lead ++ rest) = if floats 'p' rest then .float else .hex) := by
  obtain ⟨x, n, hx, rfl⟩ := h
  have hx := mem_marks hx
  refine ⟨?_, ?_, ?_⟩
  · rintro rfl
    obtain rfl | rfl : x = 'b' ∨ x = 'B' := by simpa using hx
    · rfl
    · rfl
  · rintro rfl
    obtain rfl | rfl : x = 'o' ∨ x = 'O' := by simpa using hx
    · rfl
    · rfl
  · rintro rfl
    obtain rfl | rfl : x = 'x' ∨ x = 'X' := by simpa using hx
    · simp [kindOf, marked, floats]
    · simp [kindOf, marked, floats]

theorem floats_digits (h : DigitRun (isDigitIn base) t)
    (hnone : apart base ['.', mark, mark.toUpper] = true) :
    floats mark t = false := by
  rw [← Bool.not_eq_true, floats, List.any_eq_true]
  rintro ⟨y, hy, hc⟩
  have hnot := eq_false_of_apart hnone (List.contains_iff_mem.1 hc)
  obtain hd | rfl := h.mem y hy
  · simp [hd] at hnot
  · simp at hnot

theorem kindOf_decimal (h : t ⊆ decimalChars) :
    kindOf t = if floats 'e' t then .float else .integer := by
  have hm := marked_eq_false h
  rw [kindOf, hm 'b' (by decide), hm 'o' (by decide), hm 'x' (by decide)]
  rfl

/-- No text is a number of two kinds. -/
theorem kindOf_of_admits (h : (TokenKind.number k).Admits t) : kindOf t = k := by
  cases k with
  | integer =>
    rw [kindOf_decimal (mem_decimalChars_of_digits h), floats_digits h (by decide)]
    rfl
  | bin =>
    obtain ⟨lead, digits, hl, -, rfl⟩ := h
    exact (kindOf_behind hl digits).1 rfl
  | oct =>
    obtain ⟨lead, digits, hl, -, rfl⟩ := h
    exact (kindOf_behind hl digits).2.1 rfl
  | hex =>
    obtain ⟨lead, digits, hl, hd, rfl⟩ := h
    rw [((kindOf_behind hl digits).2.2 rfl).2, floats_digits hd (by decide)]
    rfl
  | float =>
    obtain h | ⟨lead, rest, hl, h, rfl⟩ := h
    · rw [kindOf_decimal (mem_decimalChars_of_float h), if_pos h.floats]
    · rw [((kindOf_behind hl rest).2.2 rfl).2, if_pos h.floats]

def EndsIn (p : Char → Bool) (t : List Char) : Prop := ∃ u d, t = u ++ [d] ∧ p d = true

theorem EndsIn.append {p : Char → Bool} (h : EndsIn p t) (lead : List Char) :
    EndsIn p (lead ++ t) := by
  obtain ⟨u, d, rfl, hd⟩ := h
  exact ⟨lead ++ u, d, (List.append_assoc lead u [d]).symm, hd⟩

theorem EndsIn.mono {m n : Nat} (hmn : m ≤ n) (h : EndsIn (isDigitIn m) t) :
    EndsIn (isDigitIn n) t := by
  obtain ⟨u, d, e, hd⟩ := h
  refine ⟨u, d, e, ?_⟩
  obtain ⟨v, hv, hlt⟩ := (Option.any_eq_true _ _).1 hd
  exact (Option.any_eq_true _ _).2 ⟨v, hv, decide_eq_true ((of_decide_eq_true hlt).trans_le hmn)⟩

theorem Radix.endsIn (h : Radix mark base t) : EndsIn (isDigitIn base) t := by
  obtain ⟨lead, digits, -, hd, rfl⟩ := h
  exact EndsIn.append hd.exists_last lead

theorem FloatIn.endsIn (hbase : 10 ≤ base) (h : FloatIn base mark t) :
    EndsIn (isDigitIn base) t := by
  obtain ⟨digits, fraction, e, -, hf, he, hne, rfl⟩ := h
  obtain rfl | ⟨n, x, sign, more, -, -, hm, rfl⟩ := he
  · obtain rfl | ⟨more, hm, rfl⟩ := hf
    · exact absurd ⟨rfl, rfl⟩ hne
    · have hdigits : EndsIn (isDigitIn base) more := hm.exists_last
      simpa using (hdigits.append ['.']).append digits
  · have hdigits : EndsIn (isDigitIn 10) more := hm.exists_last
    have hexponent := (hdigits.append (x :: sign)).append (List.replicate n '_')
    exact (hexponent.append (digits ++ fraction)).mono hbase

/-- A number ends with a digit: neither underscores nor a dot, a marker or a sign are left at its
end. -/
theorem endsIn_digit (h : (TokenKind.number k).Admits t) : EndsIn (isDigitIn (lastBase t)) t := by
  have hkind := kindOf_of_admits h
  rw [lastBase, hkind]
  cases k with
  | integer => exact h.exists_last
  | bin => exact Radix.endsIn h
  | oct => exact Radix.endsIn h
  | hex => exact Radix.endsIn h
  | float =>
    obtain h | ⟨lead, rest, hl, h, rfl⟩ := h
    · dsimp only
      rw [marked_eq_false (mem_decimalChars_of_float h) 'x' (by decide)]
      exact h.endsIn (by decide)
    · dsimp only
      rw [((kindOf_behind hl rest).2.2 rfl).1]
      exact (h.endsIn (by decide)).append lead

end Numeral

namespace Rule

variable {c : Cursor} {x : Char} {cs : List Char}

/-- Where a digit stands, the rules for numbers come first. -/
theorem exists_first?_numbers {m : Mode} (hm : m = .root ∨ m.ReadsExpressions)
    (hc : c.ahead = x :: cs) (hx : x.isDigit = true) :
    ∃ rest, first? c m.rules = first? c (numbers ++ rest) := by
  have hdigit := mem_digitChars hx
  obtain rfl | hm := hm
  · have hclears : ∀ r ∈ [whitespace, lineComment, blockComment] ++ (words ++ [promoted] ++ names),
        r.clears digitChars = true := by decide
    exact ⟨signs ++ [operators] ++ [punctuation],
      first?_append fun r hr => match?_eq_none_of_clears hc hdigit (hclears r hr)⟩
  · have hclose : digitChars.all (· ∉ ['(', ')', ',', ']', '}']) = true := by decide
    have hclears : ∀ r ∈ [whitespace, blockComment, interpolation] ++ names,
        r.clears digitChars = true := by decide
    refine ⟨signs ++ [operators] ++ openers, (hm.first?_rules hc ?_).trans ?_⟩
    · exact of_decide_eq_true (List.all_eq_true.1 hclose x hdigit)
    · exact first?_append fun r hr => match?_eq_none_of_clears hc hdigit (hclears r hr)

end Rule

namespace Numeral

/-- The text is the longest at the beginning of `cs` that is a number. -/
structure Longest (cs : List Char) (k : NumberKind) (w : List Char) : Prop where
  stands : w <+: cs
  admits : (TokenKind.number k).Admits w
  longest : ∀ k' v, v <+: cs → (TokenKind.number k').Admits v → v.length ≤ w.length

theorem Longest.eq {cs w v : List Char} {k k' : NumberKind} (hw : Longest cs k w)
    (hv : Longest cs k' v) : v = w ∧ k' = k := by
  have hle := hw.longest k' v hv.stands hv.admits
  have hge := hv.longest k w hw.stands hw.admits
  have he : v = w := (List.prefix_of_prefix_length_le hv.stands hw.stands hle).eq_of_length
    (hle.antisymm hge)
  subst he
  exact ⟨rfl, (kindOf_of_admits hv.admits).symm.trans (kindOf_of_admits hw.admits)⟩

theorem ne_nil_of_admits {k : NumberKind} {t : List Char} (h : (TokenKind.number k).Admits t) :
    t ≠ [] := by
  obtain ⟨u, d, rfl, -⟩ := endsIn_digit h
  simp

end Numeral

namespace Rule

open Numeral

variable {c : Cursor}

/-- Where a number stands, its rule matches and takes no less. -/
theorem exists_match?_of_admits {k : NumberKind} {v : List Char} (hv : v <+: c.ahead)
    (h : (TokenKind.number k).Admits v) :
    ∃ r ∈ numbers, ∃ qs, r.match? c = some qs ∧ v.length ≤ Piece.total qs := by
  obtain ⟨shape, hr, hs⟩ := exists_rule h
  obtain ⟨hattains, hlook⟩ := attains_numbers _ hr
  exact ⟨_, hr, exists_match?_of_attains hattains hlook hs (ne_nil_of_admits h) hv⟩

theorem exists_kind : ∀ r ∈ numbers, ∃ k shape, r = emits (.number k) shape := by
  simp only [numbers, List.forall_mem_cons]
  exact ⟨⟨_, _, rfl⟩, ⟨_, _, rfl⟩, ⟨_, _, rfl⟩, ⟨_, _, rfl⟩, ⟨_, _, rfl⟩, ⟨_, _, rfl⟩,
    ⟨_, _, rfl⟩, ⟨_, _, rfl⟩, by simp⟩

/-- At a digit the rule that comes first takes the longest number. -/
theorem exists_first?_longest {m : Mode} (hm : m = .root ∨ m.ReadsExpressions)
    (hd : c.ahead.head?.any Char.isDigit = true) :
    ∃ k shape w, first? c m.rules = some (emits (.number k) shape, [(.number k, w.length)]) ∧
      Longest c.ahead k w := by
  obtain ⟨x, hx, hdigit⟩ := (Option.any_eq_true _ _).1 hd
  obtain ⟨cs, hc⟩ := List.head?_eq_some_iff.1 hx
  obtain ⟨rest, hfirst⟩ := exists_first?_numbers hm hc hdigit
  have hsingle : (TokenKind.number .integer).Admits [x] := .last (isDigitIn_of_isDigit hdigit)
  have hprefix : [x] <+: c.ahead := ⟨cs, hc.symm⟩
  obtain ⟨q, hq, qs, hqs, -⟩ := exists_match?_of_admits hprefix hsingle
  obtain ⟨r, ps, hnumber⟩ := exists_first? hq hqs
  obtain ⟨hr, hmatch⟩ := mem_of_first? hnumber
  obtain ⟨k, shape, rfl⟩ := exists_kind r hr
  obtain ⟨n, hn, hpos, rfl⟩ := exists_of_match?_token hmatch
  have hlen : (c.ahead.take n).length = n := by
    rw [List.length_take, Nat.min_eq_left (reach_le hn)]
  have hspells : shape.Spells (c.ahead.take n) := spells_of_reach hn
  refine ⟨k, shape, c.ahead.take n, ?_, List.take_prefix n _, ?_, fun k' v hv h => ?_⟩
  · rw [hfirst, hlen]
    exact first?_append_of_some hnumber rest
  · have hne : c.ahead.take n ≠ [] := by
      rw [← List.length_pos_iff, hlen]
      exact hpos
    exact keeps_numbers _ hr _ List.mem_cons_self _ hne hspells
  · obtain ⟨q, hq, qs, hqs, hle⟩ := exists_match?_of_admits hv h
    have htotal := total_le_of_first? pairwise_numbers hnumber hq hqs
    rw [hlen]
    exact hle.trans htotal

end Rule

namespace Scan

open Numeral

/-- What it is for a step to read a number: it is the longest text at the cursor that is one, it is
a number of no other kind, nothing is left at its end that no digit follows, and alone it is the
same number. -/
structure ReadsNumber (resync : Bool) (s : Scan) (k : NumberKind) (w : List Char) : Prop where
  longest : Longest s.cursor.ahead k w
  only : ∀ k', (TokenKind.number k').Admits w → k' = k
  ends : EndsIn (isDigitIn (lastBase w)) w
  tokens : (s.step resync).tokens = [⟨.number k, String.ofList w,
    ⟨s.cursor.position, (s.cursor.skip w.length).position, s.cursor.line, s.cursor.column⟩⟩]
  next : (s.step resync).next = ⟨s.cursor.skip w.length, s.modes⟩
  silent : (s.step resync).diagnostics = []
  alone : (lex resync (String.ofList w)).tokens =
    [⟨.number k, String.ofList w, ⟨0, byteLength w, 1, 1⟩⟩]

variable {resync : Bool} {s : Scan}

variable (resync) in
theorem step_number (hm : s.modes.top = .root ∨ s.modes.top.ReadsExpressions)
    (hd : s.cursor.ahead.head?.any Char.isDigit = true) :
    ∃ k w, Longest s.cursor.ahead k w ∧
      s.step resync = s.take [(.number k, w.length)] .stay := by
  obtain ⟨k, shape, w, hfirst, hw⟩ := Rule.exists_first?_longest hm hd
  exact ⟨k, w, hw, step_of_first? resync hfirst rfl⟩

theorem tokens_take_number {k : NumberKind} {w : List Char} (hw : Longest s.cursor.ahead k w) :
    (s.take [(.number k, w.length)] .stay).tokens = [⟨.number k, String.ofList w,
      ⟨s.cursor.position, (s.cursor.skip w.length).position, s.cursor.line, s.cursor.column⟩⟩] := by
  have hpos := List.length_pos_iff.2 (ne_nil_of_admits hw.admits)
  rw [take, Cursor.tokens_of_pos hpos, Cursor.token, ← List.prefix_iff_eq_take.1 hw.stands]

variable (resync) in
theorem lex_number {k : NumberKind} {w : List Char} (hw : (TokenKind.number k).Admits w)
    (hd : w.head?.any Char.isDigit = true) :
    (lex resync (String.ofList w)).tokens =
      [⟨.number k, String.ofList w, ⟨0, byteLength w, 1, 1⟩⟩] := by
  have hwhole : Longest w k w := ⟨List.prefix_rfl, hw, fun _ v hv _ => hv.length_le⟩
  obtain ⟨k', w', hw', hstep⟩ := step_number resync (s := start w) (.inl rfl) hd
  obtain ⟨rfl, rfl⟩ := hwhole.eq hw'
  have hnext : ((start w').step resync).next.cursor.ahead = [] := by
    rw [hstep, take]
    simp [start, Cursor.ofList]
  have hend : ((start w').cursor.skip w'.length).position = byteLength w' := by
    have hplaced : ((start w').cursor.skip w'.length).Placed := (Cursor.placed_ofList w').skip _
    rw [hplaced.position, Cursor.behind_skip]
    simp [start, Cursor.behind, Cursor.ofList]
  rw [lex, String.toList_ofList, run_of_ne_nil (ne_nil_of_admits hw), run_of_nil hnext]
  simp only [Run.after, List.append_nil]
  rw [hstep, tokens_take_number hwhole, hend]
  rfl

/-- At a digit, whatever comes after it, a number is read as far as it goes. -/
theorem exists_readsNumber (resync : Bool) {s : Scan}
    (hm : s.modes.top = .root ∨ s.modes.top.ReadsExpressions)
    (hd : s.cursor.ahead.head?.any Char.isDigit = true) : ∃ k w, s.ReadsNumber resync k w := by
  obtain ⟨k, w, hw, hstep⟩ := step_number resync hm hd
  have hhead : w.head?.any Char.isDigit = true := by
    obtain ⟨x, rest, rfl⟩ := List.exists_cons_of_ne_nil (ne_nil_of_admits hw.admits)
    obtain ⟨after, hafter⟩ := hw.stands
    simpa [← hafter] using hd
  refine ⟨k, w, hw, fun k' h => ?_, endsIn_digit hw.admits, ?_, ?_, ?_,
    lex_number resync hw.admits hhead⟩
  · rw [← kindOf_of_admits h, kindOf_of_admits hw.admits]
  · rw [hstep, tokens_take_number hw]
  · rw [hstep, take]
    rfl
  · rw [hstep]
    exact diagnostics_take _ (by simp)

/-- A float in parentheses, in front of what is no exponent. -/
theorem exists_readsNumber_parens :
    let s : Scan := ⟨.ofString "0x_1.8p_)", ModeStack.base.push .parens⟩
    s.modes.top.ReadsExpressions ∧ s.cursor.ahead.head?.any Char.isDigit = true ∧
      ∃ k w, s.ReadsNumber true k w := by
  intro s
  have hm : s.modes.top.ReadsExpressions := by simp [s, Mode.ReadsExpressions]
  exact ⟨hm, by decide, exists_readsNumber true (.inr hm) (by decide)⟩

example : ((Scan.step true ⟨.ofString "0x_1.8p_)", ModeStack.base.push .parens⟩).tokens.map
    fun t => (t.kind, t.text)) = [(.number .float, "0x_1.8")] := by decide

end Scan
end ModalLexer
