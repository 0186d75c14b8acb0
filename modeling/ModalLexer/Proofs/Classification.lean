import Mathlib.Data.List.Basic
import ModalLexer.Proofs.Characters
import ModalLexer.Proofs.Numeral
import ModalLexer.Proofs.Steps

/-!
Every kind of token has a language, and no token is of a kind whose language its text is not in.
Each shape of the rule table is checked against the kind that its place in the rule gives it; the
rest follows because tokens are made by rules, by refusal or by resynchronization alone.
-/

namespace ModalLexer

/-- What may follow the backslash of an escape. -/
def IsEscape (t : List Char) : Prop :=
  (∃ x ∈ ['a', 'b', 'f', 'n', 'r', 't', 'v', '"', '\'', '&', '\\', '#'], t = [x]) ∨
    (∃ x, (isUppercase x = true ∨ x ∈ ['@', '[', ']', '^', '_']) ∧ t = ['^', x]) ∨
    (∃ digits, IsRun (isDigitIn 8) digits ∧ t = 'o' :: digits) ∨
    (∃ digits, IsRun (isDigitIn 16) digits ∧ t = 'x' :: digits) ∨
    IsRun (isDigitIn 10) t

/-- A quote, then a list in brackets or parentheses that ends at the first that closes it, or
operator symbols. -/
def IsPromoted (t : List Char) : Prop :=
  (∃ inner, (∀ x ∈ inner, x ≠ ']') ∧ t = '\'' :: '[' :: (inner ++ [']'])) ∨
    (∃ inner, (∀ x ∈ inner, x ≠ ')') ∧ t = '\'' :: '(' :: (inner ++ [')'])) ∨
    ∃ symbols, IsRun isOperatorChar symbols ∧ t = '\'' :: symbols

def IsQuoted (t : List Char) : Prop :=
  ∃ inner, IsRun (· != '"') inner ∧ t = '"' :: (inner ++ ['"'])

namespace TokenKind

/-- The language of the kind. -/
def Admits : TokenKind → List Char → Prop
  | text, t => t = ['('] ∨ t = [')']
  | whitespace, t => IsRun isBlank t
  | error, t => ∃ x, t = [x]
  | keyword, t => ∃ w ∈ "module" :: reservedWords, t = w.toList
  | keywordType, t => t = ['[', ']'] ∨ IsPromoted t
  | name, t => IsRun (fun x => isWord x || x ∈ ['\'', '.', '-']) t ∧
      ∀ x ∈ t.head?, x ≠ '\'' ∧ x ≠ '-'
  | nameType, t => (∃ x rest, isUppercase x = true ∧ (∀ y ∈ rest, isIdent y = true) ∧
      t = x :: rest) ∨ IsRun isAsciiLetter t
  | nameBuiltin, t => t = ['(', ')']
  | operator, t => t = ['_'] ∨ IsRun isOperatorChar t
  | punctuation, t => ∃ x ∈ ['[', ']', '(', ')', ',', ';', '\x60', '{', '}'], t = [x]
  | number .integer, t => DigitRun (isDigitIn 10) t
  | number .bin, t => Numeral.Radix 'b' 2 t
  | number .oct, t => Numeral.Radix 'o' 8 t
  | number .hex, t => Numeral.Radix 'x' 16 t
  | number .float, t => Numeral.Floating t
  | string, t => t = ['"'] ∨ t = ['"', '"', '"'] ∨ t = ['#'] ∨
      IsRun (fun x => x != '\\' && x != '"' && x != '#') t ∨ IsQuoted t
  | stringEscape, t => t = ['\\'] ∨ IsEscape t
  | stringInterpol, t => t = ['#', '{'] ∨ t = ['}']
  | commentSingle, t => ∃ rest, (∀ x ∈ rest, x ≠ '\n') ∧ t = '-' :: '-' :: rest
  | commentMultiline, t => t = ['{', '-'] ∨ t = ['-', '}'] ∨ (∃ x ∈ ['-', '{', '}'], t = [x]) ∨
      IsRun (fun x => x != '-' && x != '{' && x != '}') t

end TokenKind

namespace Shape

def Fits (kind : TokenKind) (s : Shape) : Prop := ∀ t, t ≠ [] → s.Spells t → kind.Admits t

open Lexeme Numeral

theorem isRun_of_many {p q : Char → Bool} (hpq : ∀ x, p x = true → q x = true) {t : List Char}
    (hne : t ≠ []) (h : (many p).Spells t) : IsRun q t :=
  ⟨hne, fun x hx => hpq x (h x hx)⟩

theorem cons_of_spells {p q : Char → Bool} {t : List Char} (h : (one p ++ many q).Spells t) :
    ∃ x rest, p x = true ∧ (∀ y ∈ rest, q y = true) ∧ t = x :: rest := by
  obtain ⟨_, rest, ⟨x, hx, rfl⟩, hr, rfl⟩ := h
  exact ⟨x, rest, hx, hr, rfl⟩

theorem isRun_of_many1 {p : Char → Bool} {t : List Char} (h : (many1 p).Spells t) : IsRun p t := by
  obtain ⟨x, rest, hx, hr, rfl⟩ := cons_of_spells h
  exact ⟨by simp, by simpa using ⟨hx, hr⟩⟩

theorem toList_of_word {w : String} {t : List Char} (h : (word w).Spells t) : t = w.toList := by
  obtain ⟨u, v, ⟨a, b, rfl, rfl, rfl⟩, rfl, rfl⟩ := h
  simp

theorem fits_blanks : Fits .whitespace blanks := fun _ _ h => isRun_of_many1 h

theorem fits_many_blank : Fits .whitespace (many isBlank) :=
  fun _ hne h => isRun_of_many (fun _ hx => hx) hne h

theorem fits_word {w : String} (hw : w ∈ "module" :: reservedWords) : Fits .keyword (word w) :=
  fun _ _ h => ⟨w, hw, toList_of_word h⟩

theorem fits_lineComment : Fits .commentSingle Lexeme.lineComment := by
  rintro t - ⟨u, rest, hu, hr, rfl⟩
  refine ⟨rest, fun x hx => by simpa using hr x hx, ?_⟩
  rw [show u = ['-', '-'] from hu]
  rfl

theorem fits_commentText : Fits .commentMultiline commentText := by
  intro t _ h
  obtain ⟨hne, hall⟩ := isRun_of_many1 h
  refine .inr (.inr (.inr ⟨hne, fun x hx => ?_⟩))
  simpa [isCommentMark, and_assoc] using hall x hx

theorem fits_commentMark : Fits .commentMultiline (one isCommentMark) := by
  rintro t - ⟨x, hx, rfl⟩
  refine .inr (.inr (.inl ⟨x, ?_, rfl⟩))
  simpa [isCommentMark, or_assoc] using hx

theorem admits_name {x : Char} {rest : List Char} (hx : isWord x = true ∨ x = '.')
    (hr : ∀ y ∈ rest, isWord y = true ∨ y ∈ ['\'', '.', '-']) :
    TokenKind.name.Admits (x :: rest) := by
  have hq : x ≠ '\'' ∧ x ≠ '-' := by
    constructor
    · rintro rfl
      exact absurd hx (by decide)
    · rintro rfl
      exact absurd hx (by decide)
  refine ⟨⟨by simp, fun y hy => ?_⟩, fun y hy => ?_⟩
  · obtain rfl | hy := List.mem_cons.1 hy
    · obtain h | rfl := hx
      · simp [h]
      · decide
    · simpa using hr y hy
  · obtain rfl : x = y := by simpa using hy
    exact hq

theorem isWord_or_of_isIdent {y : Char} (h : isIdent y = true) :
    isWord y = true ∨ y ∈ ['\'', '.', '-'] := by
  obtain h | h : y = '\'' ∨ isWord y = true := by simpa [isIdent] using h
  · simp [h]
  · exact .inl h

theorem fits_lowerName : Fits .name lowerName := by
  rintro t - (⟨u, v, hu, hv, rfl⟩ | h)
  · obtain rfl := spells_char hu
    have hr := (isRun_of_many1 hv).2
    exact admits_name (.inl (by decide)) fun y hy => isWord_or_of_isIdent (hr y hy)
  · obtain ⟨x, rest, hx, hr, rfl⟩ := cons_of_spells h
    exact admits_name (.inl (isWord_of_isLowercase hx)) fun y hy => isWord_or_of_isIdent (hr y hy)

theorem fits_upperName : Fits .nameType upperName :=
  fun _ _ h => .inl (cons_of_spells h)

theorem fits_languageName : Fits .nameType languageName := fun _ _ h => .inr (isRun_of_many1 h)

theorem fits_dottedName : Fits .name dottedName := by
  intro t _ h
  obtain ⟨x, rest, hx, hr, rfl⟩ := cons_of_spells h
  refine admits_name (.inl (isWord_of_isLowercase hx)) fun y hy => ?_
  obtain hw | rfl : isWord y = true ∨ y = '.' := by simpa using hr y hy
  · exact .inl hw
  · simp

theorem fits_importPath : Fits .name importPath := by
  intro t _ h
  obtain ⟨x, rest, hx, hr, rfl⟩ := cons_of_spells h
  refine admits_name ?_ fun y hy => ?_
  · obtain hl | rfl : isAsciiLetter x = true ∨ x = '.' := by simpa using hx
    · exact .inl (isWord_of_isAsciiLetter hl)
    · exact .inr rfl
  · have hy := hr y hy
    simp only [Bool.or_eq_true, beq_iff_eq] at hy
    obtain (hw | rfl) | rfl := hy
    · exact .inl hw
    · simp
    · simp

theorem fits_importedName : Fits .name importedName := by
  intro t _ h
  obtain ⟨x, rest, hx, hr, rfl⟩ := cons_of_spells h
  exact admits_name (.inl (isWord_of_isAsciiLetter hx)) fun y hy => isWord_or_of_isIdent (hr y hy)

theorem fits_many1_isWord : Fits .name (many1 isWord) := by
  intro t _ h
  obtain ⟨x, rest, hx, hr, rfl⟩ := cons_of_spells h
  exact admits_name (.inl hx) fun y hy => .inl (hr y hy)

theorem fits_fieldSelector : Fits .name fieldSelector := by
  intro t _ h
  obtain ⟨x, rest, hx, hr, rfl⟩ := cons_of_spells h
  refine admits_name (.inl ?_) fun y hy => isWord_or_of_isIdent (hr y hy)
  obtain rfl | ha : x = '_' ∨ isAlphabetic x = true := by simpa using hx
  · rfl
  · simp [isWord, ha]

theorem fits_one {kind : TokenKind} {p : Char → Bool} (h : ∀ x, p x = true → kind.Admits [x]) :
    Fits kind (one p) := by
  rintro t - ⟨x, hx, rfl⟩
  exact h x hx

theorem fits_char {kind : TokenKind} {x : Char} (h : kind.Admits [x]) : Fits kind (char x) :=
  fits_one fun _ hy => beq_iff_eq.1 hy ▸ h

theorem fits_literal {kind : TokenKind} {cs : List Char} (h : kind.Admits cs) :
    Fits kind (literal cs) := by
  rintro t - rfl
  exact h

theorem fits_operator : Fits .operator operator := by
  refine fun t hne h => .inr ⟨hne, fun x hx => ?_⟩
  obtain ⟨rest, hr⟩ := h x hx
  exact (Bool.and_eq_true_iff.1 hr).1

theorem fits_selectorDot : Fits .operator selectorDot := by
  rintro t - ⟨u, v, hu, rfl, rfl⟩
  obtain rfl := spells_char hu
  exact .inr ⟨by simp, List.forall_mem_singleton.2 (by decide)⟩

theorem fits_promotedType : Fits .keywordType promotedType := by
  rintro t - ⟨u, v, hu, hv, rfl⟩
  obtain rfl := spells_char hu
  right
  rcases hv with ⟨-, b, ⟨a, inner, ha, hi, rfl⟩, hb, rfl⟩ |
    ⟨-, b, ⟨a, inner, ha, hi, rfl⟩, hb, rfl⟩ | h
  · obtain rfl := spells_char ha
    obtain rfl := spells_char hb
    exact .inl ⟨inner, fun x hx => by simpa using hi x hx, rfl⟩
  · obtain rfl := spells_char ha
    obtain rfl := spells_char hb
    exact .inr (.inl ⟨inner, fun x hx => by simpa using hi x hx, rfl⟩)
  · exact .inr (.inr ⟨v, isRun_of_many1 h, rfl⟩)

theorem fits_punctuation : Fits .punctuation (one isPunctuation) :=
  fits_one fun x hx => ⟨x, by simpa [isPunctuation] using hx, rfl⟩

theorem fits_digitsIn : Fits (.number .integer) (digitsIn 10) := fun _ _ h => h

theorem digitRun_of_isRun {t : List Char} (h : IsRun Char.isDigit t) :
    DigitRun (isDigitIn 10) t := by
  obtain ⟨hne, hall⟩ := h
  obtain ⟨d, rest, rfl⟩ := List.exists_cons_of_ne_nil hne
  have hd : ∀ x ∈ d :: rest, isDigitIn 10 x = true := fun x hx => isDigitIn_of_isDigit (hall x hx)
  exact .of_ends (hd d List.mem_cons_self)
    (fun x hx => .inl (hd x (List.mem_cons_of_mem _ hx)))
    fun x hx => hd x (List.mem_cons_of_mem _ (List.mem_of_getLast? hx))

theorem fits_indexSelector : Fits (.number .integer) indexSelector :=
  fun _ _ h => digitRun_of_isRun (isRun_of_many1 h)

theorem fits_plainString : Fits .string plainString := by
  rintro t - ⟨-, b, ⟨a, inner, ha, hi, rfl⟩, hb, rfl⟩
  obtain rfl := spells_char ha
  obtain rfl := spells_char hb
  exact .inr (.inr (.inr (.inr ⟨inner, isRun_of_many1 hi, rfl⟩)))

theorem fits_stringText : Fits .string stringText := by
  intro t _ h
  obtain ⟨hne, hall⟩ := isRun_of_many1 h
  refine .inr (.inr (.inr (.inl ⟨hne, fun x hx => ?_⟩)))
  simpa [isStringMark, and_assoc] using hall x hx

theorem fits_namedEscape : Fits .stringEscape namedEscape :=
  fits_one fun x hx => .inr (.inl ⟨x, by simpa using hx, rfl⟩)

theorem fits_controlEscape : Fits .stringEscape controlEscape := by
  rintro t - ⟨u, v, hu, ⟨x, hx, rfl⟩, rfl⟩
  obtain rfl := spells_char hu
  exact .inr (.inr (.inl ⟨x, by simpa using hx, rfl⟩))

theorem fits_octalEscape : Fits .stringEscape octalEscape := by
  rintro t - ⟨u, v, hu, hv, rfl⟩
  obtain rfl := spells_char hu
  exact .inr (.inr (.inr (.inl ⟨v, isRun_of_many1 hv, rfl⟩)))

theorem fits_hexEscape : Fits .stringEscape hexEscape := by
  rintro t - ⟨u, v, hu, hv, rfl⟩
  obtain rfl := spells_char hu
  exact .inr (.inr (.inr (.inr (.inl ⟨v, isRun_of_many1 hv, rfl⟩))))

theorem fits_decimalEscape : Fits .stringEscape decimalEscape :=
  fun _ _ h => .inr (.inr (.inr (.inr (.inr (isRun_of_many1 h)))))

end Shape

namespace Rule

open Lexeme Shape

def Keeps (r : Rule) : Prop := ∀ p ∈ r.parts, p.2.Fits p.1

theorem keeps_token {kind : TokenKind} {shape : Shape} {a : Action} (h : shape.Fits kind) :
    (token kind shape a).Keeps := by
  intro p hp
  obtain rfl := List.mem_singleton.1 hp
  exact h

theorem keeps_leaveWhen (test : Option Char → Bool) : (leaveWhen test).Keeps := by
  intro p hp
  exact absurd hp List.not_mem_nil

theorem keeps_groups {parts : List (TokenKind × Shape)} {a : Action}
    (h : parts.Forall fun p => p.2.Fits p.1) : (groups parts a).Keeps :=
  List.forall_iff_forall_mem.1 h

theorem keeps_whitespace : whitespace.Keeps := keeps_token fits_blanks

theorem keeps_lineComment : lineComment.Keeps := keeps_token fits_lineComment

theorem keeps_blockComment : blockComment.Keeps := keeps_token (fits_literal (.inl rfl))

theorem keeps_interpolation : interpolation.Keeps := keeps_token (fits_literal (.inl rfl))

theorem keeps_punctuation : punctuation.Keeps := keeps_token fits_punctuation

theorem fits_sign {x : Char} (h : x ∈ ['[', ']', '(', ')', ',', ';', '\x60', '{', '}']) :
    (char x).Fits .punctuation :=
  fits_char ⟨x, h, rfl⟩

theorem keeps_sign {x : Char} {a : Action}
    (h : x ∈ ['[', ']', '(', ')', ',', ';', '\x60', '{', '}']) :
    (token .punctuation (char x) a).Keeps :=
  keeps_token (fits_sign h)

theorem keeps_headers : ∀ r ∈ headers, r.Keeps := by
  have hsource := fits_word (w := "source") (by decide)
  have hfrom := fits_word (w := "from") (by decide)
  have htype := fits_word (w := "type") (by decide)
  have himport := fits_word (w := "import") (by decide)
  have hopen : (char '(').Fits .text := fits_char (.inl rfl)
  have hlist : (char '(').Fits .punctuation := fits_sign (by decide)
  refine List.forall_iff_forall_mem.1 ⟨?_, ?_, ?_, ?_, ?_, ?_⟩
  · exact keeps_groups ⟨hsource, fits_blanks, fits_languageName, fits_blanks, hfrom, fits_blanks,
      fits_plainString, fits_many_blank, hopen⟩
  · exact keeps_groups ⟨hsource, fits_blanks, fits_languageName, fits_many_blank, hopen⟩
  · exact keeps_groups ⟨htype, fits_blanks, fits_upperName⟩
  · exact keeps_groups ⟨himport, fits_blanks, fits_importPath, fits_many_blank, hlist⟩
  · exact keeps_groups ⟨himport, fits_blanks, fits_importPath⟩
  · exact keeps_groups ⟨himport, fits_many_blank, hlist⟩

theorem keeps_names : ∀ r ∈ names, r.Keeps := by
  refine List.forall_iff_forall_mem.1 ⟨?_, ?_, ?_⟩
  · exact keeps_token fits_lowerName
  · exact keeps_token fits_upperName
  · exact keeps_token (fits_char (.inl rfl))

theorem keeps_numbers : ∀ r ∈ numbers, r.Keeps := by
  refine List.forall_iff_forall_mem.1 ⟨?_, ?_, ?_, ?_, ?_, ?_, ?_, ?_⟩
  · exact keeps_token fun _ _ => Numeral.float_of_hexFloatExponent
  · exact keeps_token fun _ _ => Numeral.float_of_hexFloatFraction
  · exact keeps_token fun _ _ => Numeral.float_of_floatExponent
  · exact keeps_token fun _ _ => Numeral.float_of_floatFraction
  · exact keeps_token fun _ _ => Numeral.radix_of_spells
  · exact keeps_token fun _ _ => Numeral.radix_of_spells
  · exact keeps_token fun _ _ => Numeral.radix_of_spells
  · exact keeps_token fits_digitsIn

theorem keeps_literals : ∀ r ∈ literals, r.Keeps := by
  refine List.forall_mem_append.2 ⟨List.forall_mem_append.2 ⟨keeps_names, keeps_numbers⟩, ?_⟩
  refine List.forall_iff_forall_mem.1 ⟨?_, ?_, ?_, ?_, ?_, ?_⟩
  · exact keeps_token fits_selectorDot
  · exact keeps_token (fits_literal (.inr (.inl rfl)))
  · exact keeps_token (fits_literal (.inl rfl))
  · exact keeps_token (fits_literal (.inl rfl))
  · exact keeps_token (fits_literal rfl)
  · exact keeps_token fits_operator

theorem keeps_expression : ∀ r ∈ expression, r.Keeps := by
  have hfirst : ∀ r ∈ [whitespace, blockComment, interpolation], r.Keeps :=
    List.forall_iff_forall_mem.1 ⟨keeps_whitespace, keeps_blockComment, keeps_interpolation⟩
  refine List.forall_mem_append.2 ⟨List.forall_mem_append.2 ⟨hfirst, keeps_literals⟩, ?_⟩
  refine List.forall_iff_forall_mem.1 ⟨?_, ?_, ?_, keeps_punctuation⟩
  · exact keeps_sign (by decide)
  · exact keeps_sign (by decide)
  · exact keeps_sign (by decide)

theorem keeps_stringBody : ∀ r ∈ stringBody, r.Keeps := by
  refine List.forall_iff_forall_mem.1 ⟨?_, keeps_interpolation, ?_, ?_⟩
  · exact keeps_token fits_stringText
  · exact keeps_token (fits_char (.inr (.inr (.inl rfl))))
  · exact keeps_token (fits_char (.inl rfl))

theorem keeps_listBody (m : Mode) : ∀ r ∈ listBody m, r.Keeps := by
  refine List.forall_iff_forall_mem.1 ⟨keeps_whitespace, keeps_lineComment, ?_, ?_⟩
  · exact keeps_token (fits_char (.inl rfl))
  · exact keeps_token (fits_char (.inr rfl))

theorem keeps_escape : ∀ r ∈ Mode.escape.rules, r.Keeps := by
  refine List.forall_iff_forall_mem.1 ⟨?_, ?_, ?_, ?_, ?_, ?_, ?_⟩
  · exact keeps_token fits_namedEscape
  · exact keeps_token fits_controlEscape
  · exact keeps_token fits_octalEscape
  · exact keeps_token fits_hexEscape
  · exact keeps_token fits_decimalEscape
  · exact keeps_groups ⟨fits_blanks, fits_char (.inl rfl)⟩
  · exact keeps_token (fits_one fun x _ => ⟨x, rfl⟩)

theorem keeps_reserved : ∀ r ∈ reservedWords.map (emits .keyword <| word ·), r.Keeps := by
  intro r hr
  obtain ⟨w, hw, rfl⟩ := List.mem_map.1 hr
  exact keeps_token (fits_word (List.mem_cons_of_mem _ hw))

theorem keeps_root : ∀ r ∈ Mode.root.rules, r.Keeps := by
  have hmodule : (opens .keyword (word "module") .moduleName).Keeps :=
    keeps_token (fits_word List.mem_cons_self)
  have hfirst : ∀ r ∈ [whitespace, lineComment, blockComment,
      opens .keyword (word "module") .moduleName], r.Keeps :=
    List.forall_iff_forall_mem.1 ⟨keeps_whitespace, keeps_lineComment, keeps_blockComment, hmodule⟩
  have htype : ∀ r ∈ [emits .keywordType promotedType], r.Keeps :=
    List.forall_iff_forall_mem.1 (keeps_token fits_promotedType)
  have hlast : ∀ r ∈ [punctuation], r.Keeps := List.forall_iff_forall_mem.1 keeps_punctuation
  simp only [Mode.rules, List.forall_mem_append]
  exact ⟨⟨⟨⟨⟨hfirst, keeps_headers⟩, keeps_reserved⟩, htype⟩, keeps_literals⟩, hlast⟩

/-- The rules of every mode keep to the kinds that they make tokens of. -/
theorem keeps_of_mem_rules (m : Mode) : ∀ r ∈ m.rules, r.Keeps := by
  have hquote : (char '"').Fits .string := fits_char (.inl rfl)
  have hlist : ∀ r ∈ [emits .punctuation (char ',')], r.Keeps :=
    List.forall_iff_forall_mem.1 (keeps_sign (by decide))
  cases m with
  | root => exact keeps_root
  | comment =>
    refine List.forall_iff_forall_mem.1 ⟨?_, keeps_blockComment, ?_, ?_⟩
    · exact keeps_token fits_commentText
    · exact keeps_token (fits_literal (.inr (.inl rfl)))
    · exact keeps_token fits_commentMark
  | moduleName =>
    exact List.forall_iff_forall_mem.1
      ⟨keeps_whitespace, keeps_token fits_dottedName, keeps_leaveWhen _⟩
  | string =>
    exact List.forall_mem_append.2
      ⟨keeps_stringBody, List.forall_iff_forall_mem.1 (keeps_token hquote)⟩
  | multilineString =>
    have htriple : (closes .string (text "\"\"\"")).Keeps :=
      keeps_token (fits_literal (.inr (.inl rfl)))
    exact List.forall_mem_cons.2 ⟨htriple, List.forall_mem_append.2
      ⟨keeps_stringBody, List.forall_iff_forall_mem.1 (keeps_token hquote)⟩⟩
  | escape => exact keeps_escape
  | interpolation =>
    exact List.forall_mem_cons.2 ⟨keeps_token (fits_char (.inr rfl)), keeps_expression⟩
  | sourceList =>
    refine List.forall_mem_append.2 ⟨keeps_listBody _, ?_⟩
    refine List.forall_mem_cons.2 ⟨?_, List.forall_mem_cons.2 ⟨?_, hlist⟩⟩
    · exact keeps_groups ⟨fits_plainString, fits_blanks, fits_word (by decide), fits_blanks,
        fits_many1_isWord⟩
    · exact keeps_token fits_plainString
  | importList =>
    refine List.forall_mem_append.2 ⟨keeps_listBody _, ?_⟩
    exact List.forall_mem_cons.2 ⟨keeps_token fits_importedName, hlist⟩
  | pattern =>
    exact List.forall_iff_forall_mem.1 ⟨keeps_sign (by decide), keeps_token fits_fieldSelector,
      keeps_token fits_indexSelector, keeps_leaveWhen _⟩
  | patternGroup =>
    refine List.forall_iff_forall_mem.1 ⟨keeps_whitespace, ?_, ?_, ?_, ?_⟩
    · exact keeps_token (fits_char (.inr ⟨by simp, List.forall_mem_singleton.2 (by decide)⟩))
    · exact keeps_token (fits_char (.inr ⟨by simp, List.forall_mem_singleton.2 (by decide)⟩))
    · exact keeps_sign (by decide)
    · exact keeps_sign (by decide)
  | patternValue =>
    refine List.forall_mem_cons.2 ⟨?_, List.forall_mem_cons.2 ⟨?_, keeps_expression⟩⟩
    · exact keeps_sign (by decide)
    · exact keeps_leaveWhen _
  | parens => exact List.forall_mem_cons.2 ⟨keeps_sign (by decide), keeps_expression⟩
  | braces => exact List.forall_mem_cons.2 ⟨keeps_sign (by decide), keeps_expression⟩
  | brackets => exact List.forall_mem_cons.2 ⟨keeps_sign (by decide), keeps_expression⟩

end Rule

namespace Scan

/-- Every token of a step is in the language of its kind. -/
theorem admits_step (resync : Bool) {s : Scan} (h : s.cursor.ahead ≠ []) {t : Token}
    (ht : t ∈ (s.step resync).tokens) : t.kind.Admits t.text.toList := by
  obtain ⟨x, rest, hx⟩ := List.exists_cons_of_ne_nil h
  rw [step, tokens_perform] at ht
  obtain ⟨r, ps, hr, -, hm, e⟩ | ⟨r, -, -, -, e⟩ | ⟨-, hn, -, e⟩ | ⟨-, -, e⟩ := move_cases resync s
  · rw [e] at ht
    obtain ⟨part, hpart, k, n, rfl, hpos, hreach⟩ :=
      Cursor.exists_part_of_mem_tokens (Rule.split?_of_match? hm) ht
    have hne : (s.cursor.skip k).ahead.take n ≠ [] := by
      have hle := Shape.reach_le hreach
      rw [← List.length_pos_iff, List.length_take, Nat.min_eq_left hle]
      exact hpos
    rw [Cursor.token, String.toList_ofList]
    exact Rule.keeps_of_mem_rules _ r hr part hpart _ hne (Shape.spells_of_reach hreach)
  · rw [e] at ht
    exact absurd ht List.not_mem_nil
  · rw [e] at ht
    obtain rfl := List.mem_singleton.1 ht
    have hx' : x = '\n' := by simpa [Cursor.peek?, hx] using hn
    simp only [Cursor.token, hx, hx', String.toList_ofList]
    exact ⟨by simp, List.forall_mem_singleton.2 (by decide)⟩
  · rw [e] at ht
    obtain rfl := List.mem_singleton.1 ht
    simp only [Cursor.token, hx, String.toList_ofList]
    exact ⟨x, rfl⟩

end Scan

/-- The text of every token is in the language of the token's kind. -/
theorem admits_of_mem_lex (resync : Bool) (source : String) {t : Token}
    (h : t ∈ (lex resync source).tokens) : t.kind.Admits t.text.toList := by
  obtain ⟨u, -, hne, ht⟩ := Scan.exists_step_of_mem_run h
  exact Scan.admits_step resync hne ht

theorem admits_hexFloat :
    (⟨.number .float, "0x1.8", ⟨2, 7, 1, 3⟩⟩ : Token) ∈ (lex true "a 0x1.8").tokens ∧
      TokenKind.Admits (.number .float) "0x1.8".toList := by
  have h : (⟨.number .float, "0x1.8", ⟨2, 7, 1, 3⟩⟩ : Token) ∈ (lex true "a 0x1.8").tokens := by
    decide +kernel
  exact ⟨h, admits_of_mem_lex true "a 0x1.8" h⟩

end ModalLexer
