import ModalLexer.Proofs.Overlap

/-!
Rules that outrun others: where both match, they take no less. Most pairs of rules begin with
different characters, which is decided on the table. The others are words and names, the headers of
declarations, the forms of numbers, and signs that begin alike; for these the shapes are compared.
-/

namespace ModalLexer.Rule

open Shape Lexeme

variable {a b r : Rule} {c : Cursor} {ps : List Piece} {hs : List Char}

/-- The shapes of a rule in a row; what only leaves a mode takes nothing. -/
def shape : Rule → Shape
  | token _ s _ => s
  | groups parts _ => parts.foldr (fun part s => part.2 ++ s) (literal [])
  | leaveWhen _ => literal []

theorem reach_of_split? {parts : List (TokenKind × Shape)} {prev : Option Char} {cs : List Char}
    (h : split? parts prev cs = some ps) :
    (parts.foldr (fun part s => part.2 ++ s) (literal [])).reach prev cs =
      some (Piece.total ps) := by
  induction parts generalizing prev cs ps with
  | nil =>
    obtain rfl : [] = ps := Option.some.inj h
    simp [reach]
  | cons part parts ih =>
    obtain ⟨kind, s⟩ := part
    obtain ⟨n, qs, hn, hq, rfl⟩ := exists_of_split?_cons h
    exact reach_append hn (ih hq)

theorem reach_of_match? (h : r.match? c = some ps) :
    r.shape.reach c.previous? c.ahead = some (Piece.total ps) := by
  cases r with
  | token kind s action =>
    obtain ⟨n, hn, -, rfl⟩ := exists_of_match?_token h
    simpa [shape] using hn
  | groups parts action => exact reach_of_split? (Option.filter_eq_some_iff.1 h).1
  | leaveWhen test =>
    rw [match?_leaveWhen h]
    simp [shape, reach]

/-- Where both match, the first takes no less than the second. -/
def Outruns (a b : Rule) : Prop :=
  ∀ ⦃c ps qs⦄, a.match? c = some ps → b.match? c = some qs → Piece.total qs ≤ Piece.total ps

theorem outruns_of_shape (h : a.shape.Outruns b.shape) : a.Outruns b :=
  fun _ _ _ ha hb => h (reach_of_match? ha) (reach_of_match? hb)

def isSingle (r : Rule) : Bool := r.shape.widest? == some 0 || r.shape.widest? == some 1

theorem outruns_of_isSingle (ha : a.isZeroWidth = false) (hb : b.isSingle = true) :
    a.Outruns b := by
  intro c ps qs hps hqs
  have hpos := total_pos_of_match? hps ha
  have hle : Piece.total qs ≤ 1 := by
    rw [isSingle, Bool.or_eq_true, beq_iff_eq, beq_iff_eq] at hb
    obtain hw | hw := hb
    · exact (le_of_widest? hw (reach_of_match? hqs)).trans (by decide)
    · exact le_of_widest? hw (reach_of_match? hqs)
  omega

def avoids (hs : List Char) (r : Rule) : Bool := r.isSingle || hs.all (!r.shape.starts ·)

def clears (hs : List Char) (r : Rule) : Bool :=
  !r.shape.nullable && hs.all (!r.shape.starts ·)

theorem match?_eq_none_of_clears {x : Char} {cs : List Char} (hc : c.ahead = x :: cs) (hx : x ∈ hs)
    (hr : r.clears hs = true) : r.match? c = none := by
  obtain ⟨hn, hstarts⟩ := Bool.and_eq_true_iff.1 hr
  cases hm : r.match? c with
  | none => rfl
  | some ps =>
    have hreach := reach_of_match? hm
    have hstart : r.shape.starts x = false := by simpa using List.all_eq_true.1 hstarts x hx
    rw [hc, reach_eq_none (by simpa using hn) hstart] at hreach
    cases hreach

theorem isZeroWidth_of_nullable (h : r.shape.nullable = false) : r.isZeroWidth = false := by
  cases r with
  | leaveWhen test => simp [shape, nullable] at h
  | _ => rfl

/-- A rule outruns those that do not begin with its characters. -/
theorem outruns_of_avoids (ha : a.shape.Begins hs) (hn : a.shape.nullable = false)
    (hb : b.avoids hs = true) : a.Outruns b := by
  obtain hb | hb := Bool.or_eq_true_iff.1 hb
  · exact outruns_of_isSingle (isZeroWidth_of_nullable hn) hb
  · refine outruns_of_shape (ha.outruns hn fun x hx => ?_)
    simpa using List.all_eq_true.1 hb x hx

theorem outruns_of_clears (hb : b.shape.Begins hs) (ha : a.clears hs = true) : a.Outruns b := by
  obtain ⟨hn, ha⟩ := Bool.and_eq_true_iff.1 ha
  refine outruns_of_shape (hb.outruns_of (by simpa using hn) fun x hx => ?_)
  simpa using List.all_eq_true.1 ha x hx

theorem outruns_leaveWhen (a : Rule) (test : Option Char → Bool) :
    a.Outruns (leaveWhen test) :=
  outruns_of_shape (outruns_nothing _)

theorem pairwise_append_singles {rules rest : List Rule} (h : rules.Pairwise Outruns)
    (hwidth : ∀ a ∈ rules ++ rest, a.isZeroWidth = false) (hrest : ∀ b ∈ rest, b.isSingle = true) :
    (rules ++ rest).Pairwise Outruns := by
  have hsingle : ∀ a ∈ rules ++ rest, ∀ b ∈ rest, a.Outruns b := fun a ha b hb =>
    outruns_of_isSingle (hwidth a ha) (hrest b hb)
  obtain ⟨hleft, hright⟩ := List.forall_mem_append.1 hsingle
  exact List.pairwise_append.2 ⟨h, List.pairwise_of_forall_mem_list hright, hleft⟩

abbrev Headed := Rule × List Char

def Headed.Sound (h : Headed) : Prop := h.1.shape.Begins h.2 ∧ h.1.shape.nullable = false

/-- Rules that begin with characters which those behind them do not begin with. -/
theorem pairwise_of_heads {heads : List Headed} {rest : List Rule} (hs : ∀ h ∈ heads, h.Sound)
    (hapart : heads.Pairwise fun h k => k.1.avoids h.2 = true)
    (hrest : ∀ h ∈ heads, ∀ b ∈ rest, b.avoids h.2 = true) (hpairwise : rest.Pairwise Outruns) :
    (heads.map Prod.fst ++ rest).Pairwise Outruns := by
  refine List.pairwise_append.2 ⟨List.pairwise_map.2 ?_, hpairwise, ?_⟩
  · exact hapart.imp_of_mem fun ha _ hb => outruns_of_avoids (hs _ ha).1 (hs _ ha).2 hb
  · intro a ha b hb
    obtain ⟨h, hh, rfl⟩ := List.mem_map.1 ha
    exact outruns_of_avoids (hs h hh).1 (hs h hh).2 (hrest h hh b hb)

theorem reservedWords_isIdent : ∀ u ∈ "module" :: reservedWords, u.toList.all isIdent = true := by
  decide

theorem exists_word_of_mem_headers :
    ∀ r ∈ headers, ∃ u ∈ reservedWords, ∃ s, r.shape = word u ++ s := by
  simp only [headers, List.forall_mem_cons]
  exact ⟨⟨"source", by decide, _, rfl⟩, ⟨"source", by decide, _, rfl⟩, ⟨"type", by decide, _, rfl⟩,
    ⟨"import", by decide, _, rfl⟩, ⟨"import", by decide, _, rfl⟩, ⟨"import", by decide, _, rfl⟩,
    by simp⟩

theorem words_exclude {u v : String} (hu : u ∈ "module" :: reservedWords)
    (hv : v ∈ "module" :: reservedWords) (hne : u ≠ v) : (word u).Excludes (word v) :=
  word_excludes (reservedWords_isIdent u hu) (reservedWords_isIdent v hv) hne

theorem pairwise_headers : headers.Pairwise Outruns := by
  -- Behind the blanks, what is not a parenthesis excludes one.
  have hparen : ∀ {s : Shape}, s.nullable = false → s.starts '(' = false →
      (blanks ++ s).Excludes (many isBlank ++ (char '(' ++ literal [])) :=
    fun hn hs => excludes_blanks ((char_excludes hn hs).append_left _).symm
  simp only [headers, List.pairwise_cons, List.forall_mem_cons]
  refine ⟨⟨?source, ?_, ?_, ?_, ?_, by simp⟩, ⟨?_, ?_, ?_, ?_, by simp⟩, ⟨?_, ?_, ?_, by simp⟩,
    ⟨?longer, ?listed, by simp⟩, ⟨?target, by simp⟩, by simp, .nil⟩ <;> apply outruns_of_shape
  case source => exact ((((hparen rfl rfl).seq languageName).seq blanks).seq (word "source")).outruns
  case longer => exact (((outruns_nothing _).seq importPath).seq blanks).seq (word "import")
  case listed => exact ((hparen rfl rfl).seq (word "import")).outruns
  case target => exact ((hparen rfl rfl).seq (word "import")).outruns
  -- The other pairs begin with different words.
  all_goals
    exact (((words_exclude (by decide) (by decide) (by decide)).append_left _).append_right _).outruns

def hexFloats : List Rule :=
  [emits (.number .float) hexFloatExponent, emits (.number .float) hexFloatFraction]

def floats : List Rule :=
  [emits (.number .float) floatExponent, emits (.number .float) floatFraction]

def radixes : List Rule :=
  [emits (.number .bin) (radixInteger 'b' 2), emits (.number .oct) (radixInteger 'o' 8),
    emits (.number .hex) (radixInteger 'x' 16)]

def integer : Rule := emits (.number .integer) (digitsIn 10)

theorem numbers_eq : numbers = hexFloats ++ (floats ++ (radixes ++ [integer])) := rfl

theorem marks_hexFloats : ∀ r ∈ hexFloats, Marks r.shape 'x' := by
  simp only [hexFloats, List.forall_mem_cons]
  exact ⟨((marks_radixMark 'x').append _).append _,
    ((((marks_radixMark 'x').append _).append _).append _).append _, by simp⟩

theorem marks_radixInteger (mark : Char) (base : Nat) : Marks (radixInteger mark base) mark :=
  (marks_radixMark mark).append _

theorem exists_marks : ∀ r ∈ hexFloats ++ radixes,
    ∃ mark, Marks r.shape mark ∧ [mark, mark.toUpper] ⊆ marks := by
  have hradixes : ∀ r ∈ radixes, ∃ mark, Marks r.shape mark ∧ [mark, mark.toUpper] ⊆ marks := by
    simp only [radixes, List.forall_mem_cons]
    exact ⟨⟨'b', marks_radixInteger 'b' 2, by decide⟩, ⟨'o', marks_radixInteger 'o' 8, by decide⟩,
      ⟨'x', marks_radixInteger 'x' 16, by decide⟩, by simp⟩
  exact List.forall_mem_append.2 ⟨fun r hr => ⟨'x', marks_hexFloats r hr, by decide⟩, hradixes⟩

theorem begins_numbers : ∀ r ∈ numbers, r.shape.Begins digitChars := by
  have hmarked : ∀ r ∈ hexFloats ++ radixes, r.shape.Begins digitChars := by
    intro r hr
    obtain ⟨mark, hmark, -⟩ := exists_marks r hr
    exact hmark.begins
  obtain ⟨hhex, hradix⟩ := List.forall_mem_append.1 hmarked
  have hfloats : ∀ r ∈ floats, r.shape.Begins digitChars := by
    simp only [floats, List.forall_mem_cons]
    exact ⟨begins_digitsIn.append rfl _,
      ((begins_digitsIn.append rfl _).append rfl _).append rfl _, by simp⟩
  have hinteger : ∀ r ∈ [integer], r.shape.Begins digitChars :=
    List.forall_mem_singleton.2 begins_digitsIn
  simp only [numbers_eq, List.forall_mem_append]
  exact ⟨hhex, hfloats, hradix, hinteger⟩

theorem excludes_floats {a : Rule} (ha : a ∈ hexFloats ++ radixes) :
    ∀ b ∈ floats, a.shape.Excludes b.shape := by
  obtain ⟨mark, hmark, hmarks⟩ := exists_marks a ha
  simp only [floats, List.forall_mem_cons]
  exact ⟨hmark.excludes_digitsIn hmarks rfl (by decide),
    ((hmark.excludes_digitsIn hmarks rfl (by decide)).append_right _).append_right _, by simp⟩

theorem outruns_integer {a : Rule} (ha : a ∈ hexFloats ++ radixes) : a.Outruns integer := by
  obtain ⟨mark, hmark, hmarks⟩ := exists_marks a ha
  exact outruns_of_shape (hmark.outruns_digitsIn hmarks)

theorem exponent_excludes_point (mark : Char) (h : (exponent mark).starts '.' = false) :
    (exponent mark).Excludes (char '.') :=
  (char_excludes rfl h).symm

theorem pairwise_hexFloats : hexFloats.Pairwise Outruns := by
  have hpoint := (exponent_excludes_point 'p' rfl).seq (radixMark 'x' ++ digitsIn 16)
  exact List.pairwise_pair.2 (outruns_of_shape ((hpoint.append_right _).append_right _).outruns)

theorem pairwise_floats : floats.Pairwise Outruns := by
  have hpoint := (exponent_excludes_point 'e' rfl).seq (digitsIn 10)
  exact List.pairwise_pair.2 (outruns_of_shape ((hpoint.append_right _).append_right _).outruns)

theorem pairwise_radixes : radixes.Pairwise Outruns := by
  have hb := marks_radixInteger 'b' 2
  have ho := marks_radixInteger 'o' 8
  have hx := marks_radixInteger 'x' 16
  simp only [radixes, List.pairwise_cons, List.forall_mem_cons]
  exact ⟨⟨outruns_of_shape (hb.excludes ho (by decide)).outruns,
      outruns_of_shape (hb.excludes hx (by decide)).outruns, by simp⟩,
    ⟨outruns_of_shape (ho.excludes hx (by decide)).outruns, by simp⟩, by simp, .nil⟩

theorem hexFloats_outrun_radixes : ∀ a ∈ hexFloats, ∀ b ∈ radixes, a.Outruns b := by
  intro a ha
  have hb := (marks_hexFloats a ha).excludes (marks_radixInteger 'b' 2) (by decide)
  have ho := (marks_hexFloats a ha).excludes (marks_radixInteger 'o' 8) (by decide)
  have hx : a.shape.Outruns (radixInteger 'x' 16) := by
    revert a
    simp only [hexFloats, List.forall_mem_cons]
    exact ⟨fun _ _ => outruns_append _ _,
      fun _ _ => ((outruns_append _ _).append_left _).append_left _, by simp⟩
  simp only [radixes, List.forall_mem_cons]
  exact ⟨outruns_of_shape hb.outruns, outruns_of_shape ho.outruns, outruns_of_shape hx, by simp⟩

theorem pairwise_numbers : numbers.Pairwise Outruns := by
  have hleft : ∀ a ∈ hexFloats, a ∈ hexFloats ++ radixes := fun a ha =>
    List.mem_append_left radixes ha
  have hright : ∀ a ∈ radixes, a ∈ hexFloats ++ radixes := fun a ha =>
    List.mem_append_right hexFloats ha
  have hfloats : ∀ a ∈ floats, a.Outruns integer := by
    simp only [floats, List.forall_mem_cons]
    exact ⟨outruns_of_shape (outruns_append _ _),
      outruns_of_shape (((outruns_append _ _).append_left _).append_left _), by simp⟩
  simp only [numbers_eq, List.pairwise_append, List.forall_mem_append, List.forall_mem_singleton]
  refine ⟨pairwise_hexFloats, ⟨pairwise_floats, ⟨pairwise_radixes, List.pairwise_singleton _ _, ?_⟩,
    ?_⟩, ?_⟩
  · exact fun a ha => outruns_integer (hright a ha)
  · exact fun a ha => ⟨fun b hb => outruns_of_shape
      (excludes_floats (hright b hb) a ha).symm.outruns, hfloats a ha⟩
  · exact fun a ha => ⟨fun b hb => outruns_of_shape (excludes_floats (hleft a ha) b hb).outruns,
      hexFloats_outrun_radixes a ha, outruns_integer (hleft a ha)⟩

theorem within_names : ∀ r ∈ names, r.shape.Within isIdent := by
  have hunderscore : (char '_').Within isIdent := by
    rintro t ⟨x, hx, rfl⟩ y hy
    rw [List.mem_singleton.1 hy, beq_iff_eq.1 hx]
    rfl
  simp only [names, List.forall_mem_cons]
  exact ⟨within_lowerName, within_upperName, hunderscore, by simp⟩

theorem pairwise_names : names.Pairwise Outruns := by
  have hcover : upperName.Covers isIdent := (covers_many isIdent).append_right _
  have hwithin := within_names
  simp only [names, List.forall_mem_cons] at hwithin
  obtain ⟨-, hupper, hunderscore, -⟩ := hwithin
  simp only [names, List.pairwise_cons, List.forall_mem_cons]
  exact ⟨⟨outruns_of_shape (covers_lowerName.outruns hupper),
      outruns_of_shape (covers_lowerName.outruns hunderscore), by simp⟩,
    ⟨outruns_of_shape (hcover.outruns hunderscore), by simp⟩, by simp, .nil⟩

def reserved : List Rule := reservedWords.map (emits .keyword <| word ·)

theorem within_reserved : ∀ r ∈ reserved, r.shape.Within isIdent := by
  intro r hr
  obtain ⟨u, hu, rfl⟩ := List.mem_map.1 hr
  exact within_word (reservedWords_isIdent u (List.mem_cons_of_mem _ hu))

def moduleWord : Rule := opens .keyword (word "module") .moduleName

def words : List Rule := moduleWord :: headers ++ reserved

theorem covers_words : ∀ r ∈ words, r.shape.Covers isIdent := by
  have hheaders : ∀ r ∈ headers, r.shape.Covers isIdent := by
    intro r hr
    obtain ⟨u, -, s, h⟩ := exists_word_of_mem_headers r hr
    exact h ▸ (covers_word u).append_left s
  have hreserved : ∀ r ∈ reserved, r.shape.Covers isIdent := by
    intro r hr
    obtain ⟨u, -, rfl⟩ := List.mem_map.1 hr
    exact covers_word u
  simp only [words, List.cons_append, List.forall_mem_cons, List.forall_mem_append]
  exact ⟨covers_word "module", hheaders, hreserved⟩

theorem pairwise_words : words.Pairwise Outruns := by
  have hcovers := covers_words
  simp only [words, List.cons_append, List.forall_mem_cons, List.forall_mem_append] at hcovers
  obtain ⟨hmodule, hheaders, hreserved⟩ := hcovers
  have hnames : ∀ {a : Rule}, a.shape.Covers isIdent → ∀ b ∈ reserved, a.Outruns b :=
    fun ha b hb => outruns_of_shape (ha.outruns (within_reserved b hb))
  have hfirst : ∀ b ∈ headers, moduleWord.Outruns b := by
    intro b hb
    obtain ⟨u, hu, s, h⟩ := exists_word_of_mem_headers b hb
    have hne : "module" ≠ u := by
      rintro rfl
      exact absurd hu (by decide)
    have hword := words_exclude (by simp) (List.mem_cons_of_mem _ hu) hne
    refine outruns_of_shape ?_
    rw [h]
    exact (hword.append_right s).outruns
  have hlast : reserved.Pairwise Outruns :=
    List.pairwise_of_forall_mem_list fun a ha b hb => hnames (hreserved a ha) b hb
  simp only [words, List.cons_append, List.pairwise_cons, List.pairwise_append,
    List.forall_mem_append]
  exact ⟨⟨hfirst, hnames hmodule⟩, pairwise_headers, hlast, fun a ha => hnames (hheaders a ha)⟩

/-- The signs of a literal but for operators. -/
def signs : List Rule :=
  [opens .operator selectorDot .pattern, opens .string (text "\"\"\"") .multilineString,
    opens .string (text "\"") .string, emits .keywordType (text "[]"),
    emits .nameBuiltin (text "()")]

def operators : Rule := emits .operator Lexeme.operator

theorem literals_eq : literals = names ++ (numbers ++ (signs ++ [operators])) := rfl

def headedSigns : List Headed := signs.zip [['.'], ['"'], ['"'], ['['], ['(']]

theorem sound_headedSigns : ∀ h ∈ headedSigns, h.Sound := by
  simp only [headedSigns, signs, List.zip_cons_cons, List.zip_nil_left, List.forall_mem_cons]
  exact ⟨⟨(begins_char '.').append rfl _, rfl⟩, ⟨begins_literal _ _, rfl⟩,
    ⟨begins_literal _ _, rfl⟩, ⟨begins_literal _ _, rfl⟩, ⟨begins_literal _ _, rfl⟩, by simp⟩

def signChars : List Char := ['.', '"', '[', '('] ++ operatorChars

theorem begins_signs : ∀ r ∈ signs ++ [operators], r.shape.Begins signChars := by
  have hsub : ∀ h ∈ headedSigns, h.2 ⊆ signChars := by decide
  have hsigns : ∀ r ∈ headedSigns.map Prod.fst, r.shape.Begins signChars := by
    intro r hr
    obtain ⟨h, hh, rfl⟩ := List.mem_map.1 hr
    exact (sound_headedSigns h hh).1.mono (hsub h hh)
  exact List.forall_mem_append.2 ⟨hsigns, List.forall_mem_singleton.2
    (begins_operator.mono (List.subset_append_right _ _))⟩

theorem pairwise_signs : (signs ++ [operators]).Pairwise Outruns := by
  have hsigns : (headedSigns.map Prod.fst ++ []).Pairwise Outruns :=
    pairwise_of_heads sound_headedSigns (by decide) (by decide) .nil
  have hclears : ∀ a ∈ signs.tail, a.clears operatorChars = true := by decide
  have hoperators : ∀ a ∈ signs, a.Outruns operators :=
    List.forall_mem_cons.2 ⟨outruns_of_shape selectorDot_outruns_operator,
      fun a ha => outruns_of_clears begins_operator (hclears a ha)⟩
  rw [List.append_nil] at hsigns
  exact List.pairwise_append.2 ⟨hsigns, List.pairwise_singleton _ _, fun a ha =>
    List.forall_mem_singleton.2 (hoperators a ha)⟩

theorem pairwise_literals : literals.Pairwise Outruns := by
  have hclears : ∀ a ∈ names ++ numbers, a.clears signChars = true := by decide
  have hdigits : ∀ a ∈ names, a.clears digitChars = true := by decide
  have hsigns : ∀ a ∈ names ++ numbers, ∀ b ∈ signs ++ [operators], a.Outruns b :=
    fun a ha b hb => outruns_of_clears (begins_signs b hb) (hclears a ha)
  have hnumbers : ∀ a ∈ names, ∀ b ∈ numbers, a.Outruns b :=
    fun a ha b hb => outruns_of_clears (begins_numbers b hb) (hdigits a ha)
  rw [literals_eq, ← List.append_assoc, List.pairwise_append, List.pairwise_append]
  exact ⟨⟨pairwise_names, pairwise_numbers, hnumbers⟩, pairwise_signs, hsigns⟩

theorem outruns_literals (pre rest : List Rule) (ha : a.shape.Begins hs)
    (hn : a.shape.nullable = false) (hoperators : a.Outruns operators)
    (h : ∀ b ∈ pre ++ (names ++ numbers ++ signs) ++ rest, b.avoids hs = true) :
    ∀ b ∈ pre ++ (literals ++ rest), a.Outruns b := by
  have hall : ∀ b ∈ pre ++ (names ++ numbers ++ signs) ++ rest, a.Outruns b :=
    fun b hb => outruns_of_avoids ha hn (h b hb)
  simp only [List.forall_mem_append] at hall
  obtain ⟨⟨hpre, ⟨hnames, hnumbers⟩, hsigns⟩, hrest⟩ := hall
  simp only [literals_eq, List.forall_mem_append, List.forall_mem_singleton]
  exact ⟨hpre, ⟨hnames, hnumbers, hsigns, hoperators⟩, hrest⟩

end ModalLexer.Rule
