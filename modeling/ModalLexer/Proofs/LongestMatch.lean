import ModalLexer.Proofs.Munch
import ModalLexer.Proofs.Position

/-!
The first rule that matches takes most. Mode by mode, every rule outruns those behind it; only
where an argument of a pattern may be a parenthesis is the pair of parentheses cut short.
-/

namespace ModalLexer

namespace Rule

open Shape Lexeme

theorem begins_whitespace : whitespace.shape.Begins blankChars := begins_blanks

theorem begins_blockComment : blockComment.shape.Begins ['\x7b'] := begins_literal _ _

theorem begins_interpolation : interpolation.shape.Begins ['#'] := begins_literal _ _

theorem begins_lineCommentRule : lineComment.shape.Begins ['-'] := begins_lineComment

def openers : List Rule :=
  [opens .punctuation (char '(') .parens, opens .punctuation (char '\x7b') .braces,
    opens .punctuation (char '[') .brackets, punctuation]

theorem expression_eq :
    expression = [whitespace, blockComment, interpolation] ++ (literals ++ openers) := rfl

theorem pairwise_expression : expression.Pairwise Outruns := by
  have hliterals : (literals ++ openers).Pairwise Outruns :=
    pairwise_append_singles pairwise_literals (by decide) (by decide)
  have hblank : whitespace.Outruns operators := outruns_of_clears begins_operator (by decide)
  have hcomment : blockComment.Outruns operators := outruns_of_clears begins_operator (by decide)
  have hsign : interpolation.Outruns operators :=
    outruns_of_shape ((covers_literal (by decide)).outruns within_operator)
  rw [expression_eq]
  refine .cons ?_ (.cons ?_ (.cons ?_ hliterals))
  · exact outruns_literals [blockComment, interpolation] openers begins_whitespace rfl hblank
      (by decide +kernel)
  · exact outruns_literals [interpolation] openers begins_blockComment rfl hcomment (by decide)
  · exact outruns_literals [] openers begins_interpolation rfl hsign (by decide)

def closers : List Char := ['\x7d', ')', ']']

theorem pairwise_closed {kind : TokenKind} {x : Char} (hx : x ∈ closers) :
    (closes kind (char x) :: expression).Pairwise Outruns := by
  have hbegins : (closes kind (char x)).shape.Begins [x] := begins_char x
  have hclears : closers.all (fun x => operatorChars.all (!(char x).starts ·)) = true := by decide
  have hoperators : (closes kind (char x)).Outruns operators :=
    outruns_of_clears begins_operator (List.all_eq_true.1 hclears x hx)
  have havoids : closers.all (fun x => ([whitespace, blockComment, interpolation] ++
      (names ++ numbers ++ signs) ++ openers).all (·.avoids [x])) = true := by decide
  have hfirst := outruns_literals [whitespace, blockComment, interpolation] openers hbegins rfl
    hoperators (List.all_eq_true.1 (List.all_eq_true.1 havoids x hx))
  exact .cons hfirst pairwise_expression

def promoted : Rule := emits .keywordType promotedType

theorem rules_root : Mode.root.rules = whitespace :: lineComment :: blockComment ::
    ((words ++ [promoted]) ++ (literals ++ [punctuation])) := rfl

theorem begins_promoted : promoted.shape.Begins ['\''] := (begins_char '\'').append rfl _

/-- Words outrun names because a name is all of the identifier that a word is, and the rest because
it begins differently. -/
theorem words_outrun_literals : ∀ a ∈ words, ∀ b ∈ literals, a.Outruns b := by
  have hclears : ∀ a ∈ words, a.clears digitChars = true ∧ a.clears signChars = true := by decide
  intro a ha
  obtain ⟨hdigits, hsigns⟩ := hclears a ha
  have hnames : ∀ b ∈ names, a.Outruns b := fun b hb =>
    outruns_of_shape ((covers_words a ha).outruns (within_names b hb))
  have hnumbers : ∀ b ∈ numbers, a.Outruns b := fun b hb =>
    outruns_of_clears (begins_numbers b hb) hdigits
  have hrest : ∀ b ∈ signs ++ [operators], a.Outruns b := fun b hb =>
    outruns_of_clears (begins_signs b hb) hsigns
  rw [literals_eq]
  exact List.forall_mem_append.2 ⟨hnames, List.forall_mem_append.2 ⟨hnumbers, hrest⟩⟩

theorem pairwise_root : Mode.root.rules.Pairwise Outruns := by
  have hfirst : ∀ a ∈ words, a.clears ['\''] = true ∧ a.isZeroWidth = false := by decide
  have hwords : (words ++ [promoted]).Pairwise Outruns :=
    List.pairwise_append.2 ⟨pairwise_words, List.pairwise_singleton _ _, fun a ha =>
      List.forall_mem_singleton.2 (outruns_of_clears begins_promoted (hfirst a ha).1)⟩
  have hpromoted : ∀ b ∈ literals ++ [punctuation], promoted.Outruns b :=
    outruns_literals [] [punctuation] begins_promoted rfl
      (outruns_of_clears begins_operator (by decide)) (by decide)
  have hliterals : ∀ a ∈ words ++ [promoted], ∀ b ∈ literals ++ [punctuation], a.Outruns b := by
    refine List.forall_mem_append.2 ⟨fun a ha => ?_, List.forall_mem_singleton.2 hpromoted⟩
    exact List.forall_mem_append.2 ⟨words_outrun_literals a ha,
      List.forall_mem_singleton.2 (outruns_of_isSingle (hfirst a ha).2 (by decide))⟩
  have hline : lineComment.Outruns operators := by
    have hall : operatorChars.all (· != '\n') = true := by decide
    have hwithin : operators.shape.Within (· != '\n') := fun t ht x hx =>
      List.all_eq_true.1 hall x (List.contains_iff_mem.1 (within_operator ht x hx))
    exact outruns_of_shape (covers_lineComment.outruns hwithin)
  have hblank : whitespace.Outruns operators := outruns_of_clears begins_operator (by decide)
  have hblock : blockComment.Outruns operators := outruns_of_clears begins_operator (by decide)
  rw [rules_root]
  refine .cons ?_ (.cons ?_ (.cons ?_ (List.pairwise_append.2
    ⟨hwords, pairwise_append_singles pairwise_literals (by decide) (by decide), hliterals⟩)))
  · exact outruns_literals (lineComment :: blockComment :: (words ++ [promoted])) [punctuation]
      begins_whitespace rfl hblank (by decide +kernel)
  · exact outruns_literals (blockComment :: (words ++ [promoted])) [punctuation]
      begins_lineCommentRule rfl hline (by decide)
  · exact outruns_literals (words ++ [promoted]) [punctuation] begins_blockComment rfl hblock
      (by decide)

theorem pairwise_comment : Mode.comment.rules.Pairwise Outruns := by
  have hclose : (closes .commentMultiline commentClose).shape.Begins ['-'] := begins_literal _ _
  have hdelimiters : [blockComment, closes .commentMultiline commentClose].Pairwise Outruns :=
    List.pairwise_pair.2 (outruns_of_avoids begins_blockComment rfl (by decide))
  have htext : ∀ b ∈ [blockComment, closes .commentMultiline commentClose],
      (emits .commentMultiline commentText).Outruns b := by
    simp only [List.forall_mem_cons]
    exact ⟨outruns_of_clears begins_blockComment (by decide),
      outruns_of_clears hclose (by decide), by simp⟩
  have hall : (emits .commentMultiline commentText :: [blockComment,
      closes .commentMultiline commentClose] ++
      [emits .commentMultiline (one isCommentMark)]).Pairwise Outruns :=
    pairwise_append_singles (.cons htext hdelimiters) (by decide) (by decide)
  exact hall

theorem pairwise_moduleName : Mode.moduleName.rules.Pairwise Outruns := by
  have hsound : ∀ h ∈ [(whitespace, blankChars)], Headed.Sound h :=
    List.forall_mem_singleton.2 ⟨begins_whitespace, rfl⟩
  exact pairwise_of_heads hsound (by decide) (by decide +kernel)
    (List.pairwise_pair.2 (outruns_leaveWhen _ _))

theorem pairwise_stringBody {rest : List Rule} (hwidth : ∀ a ∈ rest, a.isZeroWidth = false)
    (hrest : ∀ b ∈ rest, b.isSingle = true) : (stringBody ++ rest).Pairwise Outruns := by
  have hsigns : [emits .string stringText, interpolation].Pairwise Outruns :=
    List.pairwise_pair.2 (outruns_of_clears begins_interpolation (by decide))
  have hbody : stringBody.Pairwise Outruns :=
    pairwise_append_singles hsigns (by decide) (by decide)
  exact pairwise_append_singles hbody (List.forall_mem_append.2 ⟨by decide, hwidth⟩) hrest

theorem pairwise_multilineString : Mode.multilineString.rules.Pairwise Outruns := by
  have hsound : ∀ h ∈ [(closes .string (text "\"\"\""), ['"'])], Headed.Sound h :=
    List.forall_mem_singleton.2 ⟨begins_literal _ _, rfl⟩
  exact pairwise_of_heads hsound (by decide) (by decide)
    (pairwise_stringBody (by decide) (by decide))

def headedEscapes : List Headed :=
  (Mode.escape.rules.take 6).zip
    ["abfnrtv\"'&\\#".toList, ['^'], ['o'], ['x'], digitChars, blankChars]

theorem sound_headedEscapes : ∀ h ∈ headedEscapes, h.Sound := by
  have hnamed : namedEscape.Begins "abfnrtv\"'&\\#".toList :=
    begins_of_starts fun _ hx => List.contains_iff_mem.1 hx
  have hdecimal : decimalEscape.Begins digitChars :=
    (begins_of_starts fun _ => mem_digitChars_of_isDigitIn : (one _).Begins _).append rfl _
  simp only [headedEscapes, Mode.rules, List.take_succ_cons, List.take_zero, List.zip_cons_cons,
    List.zip_nil_left, List.forall_mem_cons]
  exact ⟨⟨hnamed, rfl⟩, ⟨(begins_char _).append rfl _, rfl⟩, ⟨(begins_char _).append rfl _, rfl⟩,
    ⟨(begins_char _).append rfl _, rfl⟩, ⟨hdecimal, rfl⟩, ⟨begins_blanks.append rfl _, rfl⟩, by simp⟩

theorem pairwise_escape : Mode.escape.rules.Pairwise Outruns :=
  pairwise_of_heads sound_headedEscapes (by decide +kernel) (by decide)
    (List.pairwise_singleton _ _)

def headedLists (m : Mode) : List Headed :=
  (listBody m).zip [blankChars, ['-'], ['('], [')']]

theorem sound_headedLists (m : Mode) : ∀ h ∈ headedLists m, h.Sound := by
  simp only [headedLists, listBody, List.zip_cons_cons, List.zip_nil_left, List.forall_mem_cons]
  exact ⟨⟨begins_whitespace, rfl⟩, ⟨begins_lineComment, rfl⟩, ⟨begins_char _, rfl⟩,
    ⟨begins_char _, rfl⟩, by simp⟩

theorem pairwise_sourceList : Mode.sourceList.rules.Pairwise Outruns := by
  have hsources : (Mode.sourceList.rules.drop 4).Pairwise Outruns :=
    .cons (List.forall_mem_cons.2 ⟨outruns_of_shape (outruns_append plainString _),
        List.forall_mem_singleton.2 (outruns_of_isSingle rfl (by decide))⟩)
      (List.pairwise_pair.2 (outruns_of_isSingle rfl (by decide)))
  exact pairwise_of_heads (sound_headedLists .sourceList) (by decide +kernel) (by decide +kernel)
    hsources

theorem pairwise_importList : Mode.importList.rules.Pairwise Outruns := by
  have himports : (Mode.importList.rules.drop 4).Pairwise Outruns :=
    List.pairwise_pair.2 (outruns_of_isSingle rfl (by decide))
  exact pairwise_of_heads (sound_headedLists .importList) (by decide +kernel) (by decide +kernel)
    himports

theorem pairwise_pattern : Mode.pattern.rules.Pairwise Outruns := by
  have hsound : ∀ h ∈ [(token .punctuation (char '(') (.replace .patternGroup), ['('])],
      Headed.Sound h := List.forall_mem_singleton.2 ⟨begins_char _, rfl⟩
  have hindex : (closes (.number .integer) indexSelector).shape.Begins digitChars :=
    (begins_of_starts fun _ => mem_digitChars : (one _).Begins _).append rfl _
  have hselectors : (Mode.pattern.rules.drop 1).Pairwise Outruns :=
    .cons (List.forall_mem_cons.2 ⟨outruns_of_clears hindex (by decide),
        List.forall_mem_singleton.2 (outruns_leaveWhen _ _)⟩)
      (List.pairwise_pair.2 (outruns_leaveWhen _ _))
  exact pairwise_of_heads hsound (by decide) (by decide) hselectors

theorem pairwise_patternGroup : Mode.patternGroup.rules.Pairwise Outruns :=
  pairwise_append_singles (List.pairwise_singleton _ whitespace) (by decide) (by decide)

/-- Every rule outruns those behind it. -/
theorem pairwise_rules {m : Mode} (hm : m ≠ .patternValue) : m.rules.Pairwise Outruns := by
  cases m with
  | root => exact pairwise_root
  | comment => exact pairwise_comment
  | moduleName => exact pairwise_moduleName
  | string => exact pairwise_stringBody (by decide) (by decide)
  | multilineString => exact pairwise_multilineString
  | escape => exact pairwise_escape
  | interpolation => exact pairwise_closed (by decide)
  | sourceList => exact pairwise_sourceList
  | importList => exact pairwise_importList
  | pattern => exact pairwise_pattern
  | patternGroup => exact pairwise_patternGroup
  | patternValue => exact absurd rfl hm
  | parens => exact pairwise_closed (by decide)
  | braces => exact pairwise_closed (by decide)
  | brackets => exact pairwise_closed (by decide)

/-- Where every rule outruns those behind it, none takes more than the first that matches. -/
theorem total_le_of_first? {rules : List Rule} (h : rules.Pairwise Outruns) {c : Cursor} {r : Rule}
    {ps : List Piece} (hfirst : first? c rules = some (r, ps)) {q : Rule} (hq : q ∈ rules)
    {qs : List Piece} (hqs : q.match? c = some qs) : Piece.total qs ≤ Piece.total ps := by
  induction rules with
  | nil => simp at hq
  | cons p rules ih =>
    obtain ⟨hp, hrules⟩ := List.pairwise_cons.1 h
    cases hm : p.match? c with
    | some ms =>
      rw [first?_cons_of_some hm] at hfirst
      obtain ⟨rfl, rfl⟩ := Prod.mk.inj (Option.some.inj hfirst)
      obtain rfl | hq := List.mem_cons.1 hq
      · obtain rfl := Option.some.inj (hm.symm.trans hqs)
        exact Nat.le_refl _
      · exact hp q hq hm hqs
    | none =>
      rw [first?_cons_of_none hm] at hfirst
      obtain rfl | hq := List.mem_cons.1 hq
      · rw [hm] at hqs
        cases hqs
      · exact ih hrules hfirst hq

end Rule

/-- Of the rules that match, the first takes most. -/
theorem Mode.first?_takes_most {m : Mode} (hm : m ≠ .patternValue) {c : Cursor} {r : Rule}
    {ps : List Piece} (h : Rule.first? c m.rules = some (r, ps)) :
    ∀ q ∈ m.rules, ∀ qs, q.match? c = some qs →
      byteLength (c.ahead.take (Piece.total qs)) ≤ byteLength (c.ahead.take (Piece.total ps)) := by
  intro q hq qs hqs
  have htotal := Rule.total_le_of_first? (Rule.pairwise_rules hm) h hq hqs
  exact byteLength_le_of_isPrefix (List.take_prefix_take_left htotal)

/-- A comment that is an operator up to its first blank. -/
theorem Mode.first?_takes_most_comment : Mode.root ≠ .patternValue ∧
    Rule.first? (.ofString "-- x") Mode.root.rules = some (Rule.lineComment, [(.commentSingle, 4)]) ∧
      ∀ q ∈ Mode.root.rules, ∀ qs, q.match? (.ofString "-- x") = some qs →
        byteLength ((Cursor.ofString "-- x").ahead.take (Piece.total qs)) ≤
          byteLength ((Cursor.ofString "-- x").ahead.take 4) := by
  have hfirst : Rule.first? (.ofString "-- x") Mode.root.rules =
      some (Rule.lineComment, [(.commentSingle, 4)]) := rfl
  exact ⟨by decide, hfirst, Mode.first?_takes_most (by decide) hfirst⟩

/-- Where a pattern expects a value, a parenthesis comes before the pair of parentheses. -/
example : ((Rule.first? (.ofString "()") Mode.patternValue.rules).map (Piece.total ·.2),
    (Rule.emits .nameBuiltin (Shape.text "()")).match? (.ofString "()")) =
      (some 1, some [(.nameBuiltin, 2)]) := by decide

end ModalLexer
