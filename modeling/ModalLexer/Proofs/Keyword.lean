import ModalLexer.Proofs.Ledger
import ModalLexer.Proofs.Munch

/-!
Reserved words. Every keyword of a source is one of them and no part of a longer identifier; and
where one of them stands by itself at the root, it is read as a keyword, because no rule before
those for words takes anything there.
-/

namespace ModalLexer

open Lexeme

theorem Lexeme.reach_word {u : String} {prev : Option Char} {rest : List Char}
    (hprev : prev.any isIdent = false) (hrest : rest.head?.any isIdent = false) :
    (word u).reach prev (u.toList ++ rest) = some u.toList.length := by
  have hbegin : (Shape.notAfter isIdent).reach prev (u.toList ++ rest) = some 0 :=
    if_neg (Bool.not_eq_true _ ▸ hprev)
  have htext : (Shape.notAfter isIdent ++ Shape.text u).reach prev (u.toList ++ rest) =
      some u.toList.length := by
    rw [← Nat.zero_add u.toList.length]
    exact Shape.reach_append hbegin Shape.reach_literal
  have hend {q : Option Char} : (Shape.notBefore isIdent).reach q rest = some 0 :=
    if_neg (Bool.not_eq_true _ ▸ hrest)
  exact Shape.reach_append htext (by rw [List.drop_left]; exact hend)

namespace Cursor

/-- The text is next, and no identifier reaches over an end of it. -/
structure StandsAt (c : Cursor) (w : List Char) : Prop where
  stands : w <+: c.ahead
  before : c.previous?.any isIdent = false
  after : (c.ahead.drop w.length).head?.any isIdent = false

variable {c : Cursor} {w : List Char}

theorem reach_word_iff {u : String} {n : Nat} : (word u).reach c.previous? c.ahead = some n ↔
    c.StandsAt u.toList ∧ n = u.toList.length := by
  constructor
  · intro h
    obtain ⟨k, l, hk, hend, rfl⟩ := Shape.exists_of_reach_seq h
    obtain ⟨i, j, hbegin, htext, rfl⟩ := Shape.exists_of_reach_seq hk
    obtain ⟨hbefore, hi⟩ := Option.ite_none_left_eq_some.1 hbegin
    obtain ⟨hafter, hl⟩ := Option.ite_none_left_eq_some.1 hend
    obtain rfl : 0 = i := Option.some.inj hi
    obtain rfl : 0 = l := Option.some.inj hl
    obtain ⟨hstands, rfl⟩ := Shape.prefix_of_reach_literal htext
    rw [Nat.zero_add] at hafter
    exact ⟨⟨hstands, by simpa using hbefore, by simpa using hafter⟩, by simp⟩
  · rintro ⟨h, rfl⟩
    obtain ⟨rest, hrest⟩ := h.stands
    have hafter := h.after
    rw [← hrest, List.drop_left] at hafter
    rw [← hrest]
    exact reach_word h.before hafter

theorem StandsAt.text_token {u : String} (h : c.StandsAt u.toList) (kind : TokenKind) :
    (c.token kind u.toList.length).text = u := by
  rw [token, ← List.prefix_iff_eq_take.1 h.stands, String.ofList_toList]

theorem StandsAt.takeWhile_eq (h : c.StandsAt w) (hw : w.all isIdent = true) :
    c.ahead.takeWhile isIdent = w := by
  obtain ⟨rest, hrest⟩ := h.stands
  have hafter := h.after
  rw [← hrest, List.drop_left] at hafter
  rw [← hrest]
  exact Shape.takeWhile_append (List.all_eq_true.1 hw) hafter

theorem standsAt_of_takeWhile (hw : c.ahead.takeWhile isIdent = w)
    (hbefore : c.previous?.any isIdent = false) : c.StandsAt w := by
  refine ⟨hw ▸ List.takeWhile_prefix _, hbefore, ?_⟩
  have hsplit := List.takeWhile_append_dropWhile (p := isIdent) (l := c.ahead)
  rw [hw] at hsplit
  rw [← hsplit, List.drop_left]
  exact any_head?_dropWhile isIdent c.ahead

end Cursor

namespace Rule

theorem exists_parts_of_mem_words : ∀ r ∈ words, ∃ u ∈ "module" :: reservedWords, ∃ more,
    r.parts = (.keyword, word u) :: more := by
  have hreserved : ∀ r ∈ reserved, ∃ u ∈ "module" :: reservedWords, ∃ more,
      r.parts = (.keyword, word u) :: more := by
    intro r hr
    obtain ⟨u, hu, rfl⟩ := List.mem_map.1 hr
    exact ⟨u, List.mem_cons_of_mem _ hu, [], rfl⟩
  simp only [words, headers, List.cons_append, List.nil_append, List.forall_mem_cons]
  exact ⟨⟨"module", by decide, _, rfl⟩, ⟨"source", by decide, _, rfl⟩,
    ⟨"source", by decide, _, rfl⟩, ⟨"type", by decide, _, rfl⟩, ⟨"import", by decide, _, rfl⟩,
    ⟨"import", by decide, _, rfl⟩, ⟨"import", by decide, _, rfl⟩, hreserved⟩

variable {c : Cursor} {w : String}

theorem exists_match?_word (hw : w ∈ "module" :: reservedWords) (h : c.StandsAt w.toList) :
    ∃ r ∈ words, ∃ ps, r.match? c = some ps := by
  have hreach := Cursor.reach_word_iff.2 ⟨h, rfl⟩
  have hlen : ∀ u ∈ "module" :: reservedWords, u.toList.length ≠ 0 := by decide
  obtain rfl | hw' := List.mem_cons.1 hw
  · exact ⟨moduleWord, List.mem_cons_self, _, match?_token hreach (hlen _ hw)⟩
  · exact ⟨emits .keyword (word w), List.mem_append_right _ (List.mem_map_of_mem hw'), _,
      match?_token hreach (hlen w hw)⟩

/-- Where a reserved word stands at the root, the rules for words come first. -/
theorem first?_root_of_standsAt (hw : w ∈ "module" :: reservedWords) (h : c.StandsAt w.toList) :
    ∃ r ps, first? c words = some (r, ps) ∧ first? c Mode.root.rules = some (r, ps) := by
  have hletters : ∀ u ∈ "module" :: reservedWords,
      u.toList.head?.any lowerChars.contains = true := by decide
  have hclears : ∀ r ∈ [whitespace, Rule.lineComment, blockComment],
      r.clears lowerChars = true := by decide
  obtain ⟨x, hx, hlower⟩ := (Option.any_eq_true _ _).1 (hletters w hw)
  obtain ⟨cs, hcs⟩ := List.head?_eq_some_iff.1 hx
  obtain ⟨rest, hrest⟩ := h.stands
  rw [hcs] at hrest
  obtain ⟨q, hq, qs, hqs⟩ := exists_match?_word hw h
  obtain ⟨r, ps, hfirst⟩ := exists_first? hq hqs
  have hrules : Mode.root.rules = [whitespace, Rule.lineComment, blockComment] ++
      (words ++ ([emits .keywordType promotedType] ++ literals ++ [punctuation])) := rfl
  refine ⟨r, ps, hfirst, ?_⟩
  rw [hrules, first?_append fun q hq => match?_eq_none_of_clears hrest.symm
    (List.contains_iff_mem.1 hlower) (hclears q hq)]
  exact first?_append_of_some hfirst _

theorem exists_cons_of_match?_word {r : Rule} {ps : List Piece} (hw : w ∈ "module" :: reservedWords)
    (h : c.StandsAt w.toList) (hr : r ∈ words) (hm : r.match? c = some ps) :
    ∃ qs, ps = (.keyword, w.toList.length) :: qs := by
  obtain ⟨u, hu, more, hparts⟩ := exists_parts_of_mem_words r hr
  have hsplit := split?_of_match? hm
  rw [hparts] at hsplit
  obtain ⟨n, qs, hn, -, rfl⟩ := exists_of_split?_cons hsplit
  obtain ⟨hstands, rfl⟩ := Cursor.reach_word_iff.1 hn
  have hident := reservedWords_isIdent
  have he : w.toList = u.toList := by
    rw [← h.takeWhile_eq (hident w hw), hstands.takeWhile_eq (hident u hu)]
  exact ⟨qs, by rw [he]⟩

end Rule

namespace Mode

/-- The words that the rules of a mode make keywords of, one for each rule. -/
def words : Mode → List String
  | root => ["module", "source", "from", "source", "type", "import", "import", "import"] ++
      reservedWords
  | sourceList => ["as"]
  | _ => []

theorem exists_word_of_keyword {m : Mode} {r : Rule} (hr : r ∈ m.rules) {shape : Shape}
    (hp : (TokenKind.keyword, shape) ∈ r.parts) :
    ∃ u ∈ "module" :: reservedWords, shape = word u := by
  -- classes are functions: equality of them is not decided but seen by evaluating the table
  have hall : (m.rules.flatMap Rule.parts).filter (·.1 == .keyword) =
      m.words.map fun u => (.keyword, word u) := by
    cases m <;> rfl
  have hwords : m.words ⊆ "module" :: reservedWords := by
    cases m <;> decide
  have hmem : (TokenKind.keyword, shape) ∈ (m.rules.flatMap Rule.parts).filter (·.1 == .keyword) :=
    List.mem_filter.2 ⟨List.mem_flatMap.2 ⟨r, hr, hp⟩, rfl⟩
  rw [hall] at hmem
  obtain ⟨u, hu, he⟩ := List.mem_map.1 hmem
  exact ⟨u, hwords hu, (Prod.mk.inj he).2.symm⟩

/-- A rule of the root makes one token, or a keyword first. -/
theorem length_parts_eq_one_or_keyword : ∀ r ∈ Mode.root.rules, r.parts.length = 1 ∨
    r.parts.head?.any (fun p => p.1 == .keyword && !p.2.nullable) = true := by
  decide

theorem eq_lowerName {r : Rule} (hr : r ∈ Mode.root.rules) {shape : Shape}
    (hp : r.parts = [(.name, shape)]) : shape = lowerName := by
  have hall : (Mode.root.rules.filter (·.parts.length == 1)).flatMap
      (fun r => r.parts.filter (·.1 == .name)) = [(.name, lowerName)] := rfl
  have hmem : (TokenKind.name, shape) ∈ (Mode.root.rules.filter (·.parts.length == 1)).flatMap
      (fun r => r.parts.filter (·.1 == .name)) :=
    List.mem_flatMap.2 ⟨r, List.mem_filter.2 ⟨hr, by simp [hp]⟩, by simp [hp]⟩
  rw [hall] at hmem
  exact (Prod.mk.inj (List.mem_singleton.1 hmem)).2

end Mode

namespace Scan

variable {resync : Bool} {s : Scan} {t : Token}

/-- A keyword stands by itself where it was read. -/
theorem exists_standsAt_of_keyword (ht : t ∈ (s.step resync).tokens) (hk : t.kind = .keyword) :
    ∃ u ∈ "module" :: reservedWords, ∃ k, (s.cursor.skip k).StandsAt u.toList ∧
      t = (s.cursor.skip k).token .keyword u.toList.length := by
  obtain ⟨r, ps, hr, -, hm, e⟩ | ⟨-, h | h⟩ := taken_or_lone resync ht
  · rw [e] at ht
    obtain ⟨⟨kind, shape⟩, hpart, k, n, rfl, -, hn⟩ :=
      Cursor.exists_part_of_mem_tokens (Rule.split?_of_match? hm) ht
    obtain rfl : kind = .keyword := hk
    obtain ⟨u, hu, rfl⟩ := Mode.exists_word_of_keyword hr hpart
    obtain ⟨hstands, rfl⟩ := Cursor.reach_word_iff.1 hn
    exact ⟨u, hu, k, hstands, rfl⟩
  · rw [hk] at h
    cases h
  · rw [hk] at h
    cases h

variable (resync) in
/-- A reserved word by itself is a keyword, whatever is made of the text behind it. -/
theorem head?_step_of_standsAt {w : String} (hm : s.modes.top = .root)
    (hw : w ∈ "module" :: reservedWords) (h : s.cursor.StandsAt w.toList) :
    (s.step resync).tokens.head? = some (s.cursor.token .keyword w.toList.length) := by
  obtain ⟨r, ps, hwords, hfirst⟩ := Rule.first?_root_of_standsAt hw h
  obtain ⟨hr, hmatch⟩ := Rule.mem_of_first? hwords
  obtain ⟨qs, rfl⟩ := Rule.exists_cons_of_match?_word hw h hr hmatch
  have hroot := Mode.isZeroWidth_of_mem_rules_root (Rule.mem_of_first? hfirst).1
  have hlen : ∀ u ∈ "module" :: reservedWords, u.toList.length ≠ 0 := by decide
  obtain ⟨n, hn⟩ := Nat.exists_eq_succ_of_ne_zero (hlen w hw)
  rw [← hm] at hfirst
  rw [step_of_first? resync hfirst hroot, take, hn]
  rfl

theorem eq_token_of_name (hm : s.modes.top = .root) (ht : t ∈ (s.step resync).tokens.head?)
    (hk : t.kind = .name) :
    t = s.cursor.token .name (s.cursor.ahead.takeWhile isIdent).length := by
  obtain ⟨r, ps, hr, hz, hmatch, e⟩ | ⟨-, h | h⟩ := taken_or_lone resync (List.mem_of_head? ht)
  · rw [hm] at hr
    rw [e] at ht
    have hsplit := Rule.split?_of_match? hmatch
    have hpos := Rule.total_pos_of_match? hmatch hz
    obtain hone | hword := Mode.length_parts_eq_one_or_keyword r hr
    · obtain ⟨⟨kind, shape⟩, hparts⟩ := List.length_eq_one_iff.1 hone
      rw [hparts] at hsplit
      obtain ⟨n, hn, rfl⟩ := Rule.exists_of_split?_singleton hsplit
      rw [Cursor.tokens_of_pos (by simpa using hpos)] at ht
      obtain rfl : s.cursor.token kind n = t := Option.some.inj ht
      obtain rfl : kind = .name := hk
      obtain rfl := Mode.eq_lowerName hr hparts
      rw [(within_lowerName.length_le hn).antisymm (covers_lowerName hn)]
    · obtain ⟨⟨kind, shape⟩, hhead, hkeyword⟩ := (Option.any_eq_true _ _).1 hword
      obtain ⟨more, hparts⟩ := List.head?_eq_some_iff.1 hhead
      obtain ⟨hkind, hnull⟩ := Bool.and_eq_true_iff.1 hkeyword
      rw [hparts] at hsplit
      obtain ⟨n, qs, hn, -, rfl⟩ := Rule.exists_of_split?_cons hsplit
      obtain ⟨n, rfl⟩ := Nat.exists_eq_succ_of_ne_zero
        (Shape.ne_zero_of_reach (by simpa using hnull) hn)
      obtain rfl : s.cursor.token kind (n + 1) = t := Option.some.inj ht
      obtain rfl : kind = .name := hk
      cases hkind
  · rw [hk] at h
    cases h
  · rw [hk] at h
    cases h

end Scan

/-- Keywords are the reserved words that stand by themselves: every keyword is one, in whatever
mode, and at the root every such word is a keyword. A name there is a reserved word only directly
behind an identifier. -/
structure KeywordsExact (resync : Bool) (source : String) : Prop where
  whole : ∀ t ∈ (lex resync source).tokens, t.kind = .keyword →
    t.text ∈ "module" :: reservedWords ∧ ∃ before after, source = before ++ t.text ++ after ∧
      t.span.start = before.utf8ByteSize ∧ before.toList.getLast?.any isIdent = false ∧
        after.toList.head?.any isIdent = false
  taken : ∀ s, Scan.Reachable resync source s → s.modes.top = .root →
    ∀ w ∈ "module" :: reservedWords, s.cursor.StandsAt w.toList →
      ∃ t ∈ (s.step resync).tokens.head?, t.kind = .keyword ∧ t.text = w
  named : ∀ s, Scan.Reachable resync source s → s.modes.top = .root →
    ∀ t ∈ (s.step resync).tokens.head?, t.kind = .name → t.text ∈ "module" :: reservedWords →
      s.cursor.previous?.any isIdent = true

theorem lex_keywordsExact (resync : Bool) (source : String) : KeywordsExact resync source where
  whole := by
    intro t ht hk
    obtain ⟨s, hs, -, hmem⟩ := Scan.exists_step_of_mem_run ht
    obtain ⟨u, hu, k, hstands, rfl⟩ := Scan.exists_standsAt_of_keyword hmem hk
    have hplaced := (Scan.Reachable.placed hs).skip k
    have hsource : (s.cursor.skip k).source = source.toList :=
      (Cursor.source_skip s.cursor k).trans (Scan.source_eq_of_reaches hs)
    rw [← Cursor.behind_append_ahead] at hsource
    generalize s.cursor.skip k = c at hstands hplaced hsource
    obtain ⟨rest, hrest⟩ := hstands.stands
    have hafter := hstands.after
    rw [← hrest, List.drop_left] at hafter
    rw [hstands.text_token]
    refine ⟨hu, String.ofList c.behind, String.ofList rest, ?_, ?_, ?_, ?_⟩
    · rw [← String.toList_inj]
      simpa [hrest] using hsource.symm
    · rw [utf8ByteSize_ofList, ← hplaced.position]
      rfl
    · rw [String.toList_ofList, Cursor.behind, List.getLast?_reverse]
      exact hstands.before
    · rw [String.toList_ofList]
      exact hafter
  taken := by
    intro s _ hm w hw hstands
    exact ⟨_, Scan.head?_step_of_standsAt resync hm hw hstands, rfl, hstands.text_token _⟩
  named := by
    intro s _ hm t ht hk hw
    by_contra hbefore
    rw [Bool.not_eq_true] at hbefore
    obtain rfl := Scan.eq_token_of_name hm ht hk
    have hstands : s.cursor.StandsAt
        (s.cursor.token .name (s.cursor.ahead.takeWhile isIdent).length).text.toList := by
      refine Cursor.standsAt_of_takeWhile ?_ hbefore
      rw [Cursor.token, String.toList_ofList, Shape.take_length_takeWhile]
    have hkeyword := Scan.head?_step_of_standsAt resync hm hw hstands
    rw [Option.mem_def.1 ht] at hkeyword
    cases hkeyword

end ModalLexer
