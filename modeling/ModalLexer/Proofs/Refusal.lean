import ModalLexer.Proofs.Heading
import ModalLexer.Proofs.LongestMatch
import ModalLexer.Proofs.Passage
import ModalLexer.Proofs.Resync

/-!
What no rule reads. In every mode the next character decides whether any rule matches, in a few
places together with what follows it; where none does, a step makes an error of that character.
-/

namespace ModalLexer

open Lexeme Rule Shape

def isExpressionChar (x : Char) : Bool :=
  isBlank x || isLowercase x || isUppercase x || x == '_' || x.isDigit || isOperatorChar x ||
    x == '"' || isPunctuation x

/-- Whether a quote makes a type of what follows it. -/
def Promotes (cs : List Char) : Prop :=
  ∃ x rest, cs = x :: rest ∧
    (isOperatorChar x = true ∨ x = '[' ∧ ']' ∈ rest ∨ x = '(' ∧ ')' ∈ rest)

def ReadsInList (x : Char) (cs : List Char) : Prop :=
  isBlank x = true ∨ x ∈ ['(', ')', ','] ∨ ['-', '-'] <+: x :: cs

/-- Whether the mode has a reading for text that begins with `x` and goes on with `cs`. -/
def Mode.Reads : Mode → Char → List Char → Prop
  | root, x, cs => isExpressionChar x = true ∨ x = '\'' ∧ Promotes cs
  | interpolation, x, _ | parens, x, _ | braces, x, _ | brackets, x, _ | patternValue, x, _ =>
    isExpressionChar x = true
  -- what is no escape is still taken, as an error
  | escape, x, cs => x ≠ '\n' ∨ (cs.dropWhile isBlank).head? = some '\\'
  | sourceList, x, cs => ReadsInList x cs ∨ ∃ t, IsQuoted t ∧ t <+: x :: cs
  | importList, x, cs => ReadsInList x cs ∨ isAsciiLetter x = true
  | patternGroup, x, _ => isBlank x = true ∨ x ∈ ['.', '=', ',', ')']
  | comment, _, _ | moduleName, _, _ | string, _, _ | multilineString, _, _ | pattern, _, _ => True

namespace Rule

variable {P Q : Char → List Char → Prop} {r : Rule} {c : Cursor} {x : Char} {cs : List Char}
  {kind : TokenKind} {shape : Shape} {a : Action}

/-- Where the rule matches, this holds of the next character and of what follows it. -/
def Asks (r : Rule) (P : Char → List Char → Prop) : Prop :=
  ∀ ⦃c x cs⦄, c.ahead = x :: cs → r.match? c ≠ none → P x cs

theorem Asks.mono (h : r.Asks P) (hPQ : ∀ x cs, P x cs → Q x cs) : r.Asks Q :=
  fun _ _ _ hc hm => hPQ _ _ (h hc hm)

theorem asks_of_starts (h : ∀ x, r.starts x = true → ∀ cs, P x cs) : r.Asks P := by
  intro c x cs hc hm
  refine h x ?_ cs
  by_contra hx
  exact hm (match?_eq_none_of_starts hc (by simpa using hx))

theorem asks_of_begins {hs : List Char} (hb : r.shape.Begins hs) (hz : r.isZeroWidth = false)
    (h : ∀ x ∈ hs, ∀ cs, P x cs) : r.Asks P := by
  intro c x cs hc hm
  obtain ⟨ps, hps⟩ := Option.ne_none_iff_exists'.1 hm
  have hreach := reach_of_match? hps
  rw [hc] at hreach
  exact h x (hb hreach (total_pos_of_match? hps hz).ne') cs

theorem asks_of_spells (h : ∀ t, r.shape.Spells t → ∀ x cs, t <+: x :: cs → P x cs) : r.Asks P := by
  intro c x cs hc hm
  obtain ⟨ps, hps⟩ := Option.ne_none_iff_exists'.1 hm
  exact h _ (spells_of_reach (reach_of_match? hps)) x cs (hc ▸ List.take_prefix _ _)

theorem asks_char {y : Char} (h : ∀ cs, P y cs) : (token kind (char y) a).Asks P :=
  asks_of_starts fun _ hx => beq_iff_eq.1 hx ▸ h

theorem match?_ne_none_of_reach (hn : shape.nullable = false)
    (h : shape.reach c.previous? c.ahead ≠ none) : (token kind shape a).match? c ≠ none := by
  obtain ⟨n, hreach⟩ := Option.ne_none_iff_exists'.1 h
  rw [match?_token hreach (ne_zero_of_reach hn hreach)]
  exact Option.some_ne_none _

theorem match?_one_ne_none {p : Char → Bool} (hc : c.ahead = x :: cs) (hx : p x = true) :
    (token kind (one p) a).match? c ≠ none :=
  match?_ne_none_of_reach rfl (by simp [reach, hc, hx])

theorem match?_ne_none_of_attains {v : List Char} (ha : shape.Attains)
    (hlook : shape.lookbacks = []) (hs : shape.Spells v) (hne : v ≠ []) (hv : v <+: c.ahead) :
    (token kind shape a).match? c ≠ none := by
  obtain ⟨qs, hqs, -⟩ := exists_match?_of_attains ha hlook hs hne hv
  rw [hqs]
  exact Option.some_ne_none _

def AnyMatches (rules : List Rule) (c : Cursor) : Prop := ∃ r ∈ rules, r.match? c ≠ none

theorem AnyMatches.mono {rules more : List Rule} (h : AnyMatches rules c) (hsub : rules ⊆ more) :
    AnyMatches more c := by
  obtain ⟨r, hr, hm⟩ := h
  exact ⟨r, hsub hr, hm⟩

def expressionSigns : List Char := digitChars ++ signChars ++ ['(', ')', ',', '[', ']', '{', '}']

theorem isExpressionChar_of_mem (h : x ∈ expressionSigns) : isExpressionChar x = true := by
  have hall : expressionSigns.all isExpressionChar = true := by decide +kernel
  exact List.all_eq_true.1 hall x h

theorem asks_of_begins_signs {hs : List Char} (hb : r.shape.Begins hs)
    (hz : r.isZeroWidth = false) (hs' : hs ⊆ expressionSigns) :
    r.Asks fun x _ => isExpressionChar x = true :=
  asks_of_begins hb hz fun _ hx _ => isExpressionChar_of_mem (hs' hx)

theorem asks_blanks : whitespace.Asks fun x _ => isBlank x = true :=
  asks_of_starts fun x hx _ => by
    simpa [whitespace, emits, blanks, many1, Rule.starts, Shape.starts, nullable] using hx

theorem asks_whitespace : whitespace.Asks fun x _ => isExpressionChar x = true :=
  asks_blanks.mono fun x _ hx => by simp [isExpressionChar, hx]

theorem asks_punctuation : punctuation.Asks fun x _ => isExpressionChar x = true :=
  asks_of_starts fun x hx _ => by
    have hx : isPunctuation x = true := hx
    simp [isExpressionChar, hx]

theorem asks_names : ∀ r ∈ names, r.Asks fun x _ => isExpressionChar x = true := by
  simp only [names, List.forall_mem_cons]
  refine ⟨asks_of_starts fun x hx _ => ?_, asks_of_starts fun x hx _ => ?_,
    asks_char fun _ => by decide, by simp⟩
  · obtain rfl | hx : x = '_' ∨ isLowercase x = true := by
      simpa [emits, lowerName, char, Rule.starts, Shape.starts, nullable] using hx
    · decide
    · simp [isExpressionChar, hx]
  · have hx : isUppercase x = true := by
      simpa [emits, upperName, Rule.starts, Shape.starts, nullable] using hx
    simp [isExpressionChar, hx]

theorem asks_literals : ∀ r ∈ literals, r.Asks fun x _ => isExpressionChar x = true := by
  have hzero : ∀ r ∈ literals, r.isZeroWidth = false := by decide
  simp only [literals_eq, List.forall_mem_append] at hzero ⊢
  obtain ⟨-, hnumbers, hsigns⟩ := hzero
  refine ⟨asks_names, fun r hr => ?_, List.forall_mem_append.1 fun r hr => ?_⟩
  · exact asks_of_begins_signs (begins_numbers r hr) (hnumbers r hr) (by decide)
  · exact asks_of_begins_signs (begins_signs r hr)
      (List.forall_mem_append.2 hsigns r hr) (by decide)

theorem asks_expression : ∀ r ∈ expression, r.Asks fun x _ => isExpressionChar x = true := by
  simp only [expression_eq, openers, List.forall_mem_append, List.forall_mem_cons]
  refine ⟨⟨asks_whitespace, asks_of_begins_signs begins_blockComment rfl (by decide),
    asks_of_begins_signs begins_interpolation rfl (by decide), by simp⟩, asks_literals,
    asks_char fun _ => by decide, asks_char fun _ => by decide, asks_char fun _ => by decide,
    asks_punctuation, by simp⟩

theorem asks_of_readsExpressions {m : Mode} (hm : m.ReadsExpressions) :
    ∀ r ∈ m.rules, r.Asks fun x _ => isExpressionChar x = true := by
  obtain ⟨pre, e, hpre⟩ := hm.rules_eq
  have hclosers : ['(', ')', ',', ']', '}'] ⊆ expressionSigns := by decide
  rw [e]
  refine List.forall_mem_append.2 ⟨fun r hr => asks_of_starts fun x hx _ => ?_, asks_expression⟩
  refine isExpressionChar_of_mem (hclosers ?_)
  by_contra hmem
  rw [hpre x hmem r hr] at hx
  cases hx

def shared : List Rule := whitespace :: (literals ++ [punctuation])

/-- A dot selects something or is an operator, like every other operator character. -/
theorem anyMatches_operator (hc : c.ahead = x :: cs) (hx : isOperatorChar x = true) :
    AnyMatches literals c := by
  by_cases hdot : x = '.' ∧ cs.head?.any startsSelector = true
  · obtain ⟨rfl, hnext⟩ := hdot
    have hreach : selectorDot.reach c.previous? c.ahead = some 1 := by
      rw [hc]
      exact (reach_seq (t := ['.']) reach_char).trans (by simp [reach, hnext])
    exact ⟨opens .operator selectorDot .pattern, by simp [literals],
      match?_ne_none_of_reach rfl (by simp [hreach])⟩
  · have hrun : (isOperatorChar x && !(x == '.' && cs.head?.any startsSelector)) = true := by
      simpa [hx, imp_iff_not_or] using hdot
    refine ⟨emits .operator operator, by simp [literals], ?_⟩
    rw [emits, match?_token (by rw [hc, operator, reach, runLength, if_pos hrun])
      (Nat.succ_ne_zero _)]
    exact Option.some_ne_none _

theorem anyMatches_shared (hc : c.ahead = x :: cs) (hx : isExpressionChar x = true) :
    AnyMatches shared c := by
  have hliteral : literals ⊆ shared := fun r hr =>
    List.mem_cons_of_mem _ (List.mem_append_left _ hr)
  simp only [isExpressionChar, Bool.or_eq_true, beq_iff_eq] at hx
  obtain ((((((hblank | hlower) | hupper) | rfl) | hdigit) | hoperator) | rfl) | hsign := hx
  · exact ⟨whitespace, List.mem_cons_self, match?_many1_ne_none hc hblank⟩
  · exact ⟨emits .name lowerName, hliteral (by simp [literals, names]),
      match?_ne_none_of_reach rfl (by simp [lowerName, reach, hc, hlower])⟩
  · exact ⟨emits .nameType upperName, hliteral (by simp [literals, names]),
      match?_ne_none_of_reach rfl (by simp [upperName, reach, hc, hupper])⟩
  · exact ⟨emits .operator (char '_'), hliteral (by simp [literals, names]),
      match?_one_ne_none hc (by decide)⟩
  · exact ⟨emits (.number .integer) (digitsIn 10), hliteral (by simp [literals, numbers]),
      match?_ne_none_of_attains (digits_attains rfl) rfl (.last (isDigitIn_of_isDigit hdigit))
        (List.cons_ne_nil _ _) (hc ▸ ⟨cs, rfl⟩)⟩
  · exact (anyMatches_operator hc hoperator).mono hliteral
  · exact ⟨opens .string (text "\"") .string, hliteral (by simp [literals]),
      match?_ne_none_of_reach rfl (by simp [text, reach, hc])⟩
  · exact ⟨punctuation, by simp [shared], match?_one_ne_none hc hsign⟩

theorem shared_subset_expression : shared ⊆ expression := by
  rw [shared, expression_eq]
  refine List.cons_subset.2 ⟨by simp, List.append_subset.2 ⟨fun r hr => ?_, by simp [openers]⟩⟩
  exact List.mem_append_right _ (List.mem_append_left _ hr)

theorem shared_subset_root : shared ⊆ Mode.root.rules := by
  rw [shared, rules_root]
  refine List.cons_subset_cons _ fun r hr => ?_
  exact List.mem_cons_of_mem _ (List.mem_cons_of_mem _ (List.mem_append_right _ hr))

theorem begins_word : ∀ u ∈ "module" :: reservedWords,
    (word u).Begins lowerChars ∧ (word u).nullable = false := by
  have hheads : ∀ u ∈ "module" :: reservedWords,
      u.toList.head?.all (lowerChars.contains ·) = true ∧ (word u).nullable = false := by decide
  intro u hu
  obtain ⟨hhead, hn⟩ := hheads u hu
  refine ⟨begins_of_starts fun x hx => ?_, hn⟩
  have hx : u.toList.head? = some x := by simpa [word, text, Shape.starts, nullable] using hx
  simpa [hx] using hhead

theorem begins_words : ∀ r ∈ words, r.shape.Begins lowerChars := by
  have hheaders : ∀ r ∈ headers, r.shape.Begins lowerChars := by
    intro r hr
    obtain ⟨u, hu, s, h⟩ := exists_word_of_mem_headers r hr
    obtain ⟨hbegins, hn⟩ := begins_word u (List.mem_cons_of_mem _ hu)
    exact h ▸ hbegins.append hn s
  have hreserved : ∀ r ∈ reserved, r.shape.Begins lowerChars := by
    intro r hr
    obtain ⟨u, hu, rfl⟩ := List.mem_map.1 hr
    exact (begins_word u (List.mem_cons_of_mem _ hu)).1
  simp only [words, List.cons_append, List.forall_mem_cons, List.forall_mem_append]
  exact ⟨(begins_word "module" List.mem_cons_self).1, hheaders, hreserved⟩

theorem asks_promoted : promoted.Asks fun x cs => x = '\'' ∧ Promotes cs := by
  refine asks_of_spells fun t ht x cs hcs => ?_
  obtain ⟨u, v, hu, hv, rfl⟩ := ht
  obtain rfl := spells_char_iff.1 hu
  obtain ⟨rfl, rest, rfl⟩ := List.cons_prefix_cons.1 hcs
  refine ⟨rfl, ?_⟩
  rcases hv with ⟨-, -, ⟨-, inner, ⟨y, hy, rfl⟩, -, rfl⟩, ⟨z, hz, rfl⟩, rfl⟩ |
    ⟨-, -, ⟨-, inner, ⟨y, hy, rfl⟩, -, rfl⟩, ⟨z, hz, rfl⟩, rfl⟩ | h
  · exact ⟨y, _, rfl, .inr (.inl ⟨beq_iff_eq.1 hy, by simp [beq_iff_eq.1 hz]⟩)⟩
  · exact ⟨y, _, rfl, .inr (.inr ⟨beq_iff_eq.1 hy, by simp [beq_iff_eq.1 hz]⟩)⟩
  · obtain ⟨y, t, hy, -, rfl⟩ := cons_of_spells h
    exact ⟨y, t ++ rest, rfl, .inl hy⟩

theorem asks_root : ∀ r ∈ Mode.root.rules, r.Asks Mode.root.Reads := by
  have hread {r : Rule} (h : r.Asks fun x _ => isExpressionChar x = true) :
      r.Asks Mode.root.Reads := h.mono fun _ _ => .inl
  have hlower : lowerChars.all isExpressionChar = true := by decide +kernel
  have hwords : ∀ r ∈ words, r.Asks Mode.root.Reads := by
    have hzero : ∀ r ∈ words, r.isZeroWidth = false := by decide
    exact fun r hr => asks_of_begins (begins_words r hr) (hzero r hr)
      fun x hx _ => .inl (List.all_eq_true.1 hlower x hx)
  simp only [rules_root, List.forall_mem_cons, List.forall_mem_append]
  exact ⟨hread asks_whitespace, hread (asks_of_begins_signs begins_lineCommentRule rfl (by decide)),
    hread (asks_of_begins_signs begins_blockComment rfl (by decide)),
    ⟨hwords, asks_promoted.mono fun _ _ => .inr, by simp⟩, fun r hr => hread (asks_literals r hr),
    hread asks_punctuation, by simp⟩

theorem reach_enclosed {a b : Char} {prev : Option Char} (h : b ∈ cs) :
    (char a ++ many (· != b) ++ char b).reach prev (a :: cs) ≠ none := by
  obtain ⟨inner, rest, rfl, hinner⟩ := List.eq_append_cons_of_mem h
  have hinside : ∀ y ∈ inner, (y != b) = true := by
    rintro y hy
    simpa using ne_of_mem_of_not_mem hy hinner
  have hspells : (char a ++ many (· != b) ++ char b).Spells (a :: inner ++ [b]) :=
    ⟨a :: inner, [b], ⟨[a], inner, spells_char_iff.2 rfl, hinside, rfl⟩, spells_char_iff.2 rfl, rfl⟩
  have hends : (char a ++ many (· != b)).EndsBefore (char b) :=
    one_endsBefore.append (many_endsBefore (shuns_char (by simp))) rfl
  have hclose : (char b).Attains := one_attains _
  obtain ⟨n, hn, -⟩ := hclose.append hends rfl rest (free_of_nil rfl prev) hspells
  have htext : a :: inner ++ [b] ++ rest = a :: (inner ++ b :: rest) := by simp
  rw [← htext, hn]
  exact Option.some_ne_none n

theorem reach_orElse_ne_none {a b : Shape} {prev : Option Char}
    (h : a.reach prev cs ≠ none ∨ b.reach prev cs ≠ none) : (a <|> b).reach prev cs ≠ none := by
  simpa [reach, Option.or_eq_none_iff, imp_iff_not_or] using h

theorem match?_promoted_ne_none (hc : c.ahead = '\'' :: cs) (h : Promotes cs) :
    promoted.match? c ≠ none := by
  refine match?_ne_none_of_reach rfl ?_
  rw [hc, promotedType, show '\'' :: cs = ['\''] ++ cs from rfl, reach_seq reach_char]
  refine mt Option.map_eq_none_iff.1 ?_
  obtain ⟨y, rest, rfl, hoperator | ⟨rfl, hclose⟩ | ⟨rfl, hclose⟩⟩ := h
  · refine reach_orElse_ne_none (.inr (reach_orElse_ne_none (.inr ?_)))
    rw [reach_many1_of_head hoperator]
    exact Option.some_ne_none _
  · exact reach_orElse_ne_none (.inl (reach_enclosed hclose))
  · exact reach_orElse_ne_none (.inr (reach_orElse_ne_none (.inl (reach_enclosed hclose))))

theorem asks_lineComment : Rule.lineComment.Asks fun x cs => ['-', '-'] <+: x :: cs := by
  refine asks_of_spells fun t ht x cs hcs => ?_
  obtain ⟨u, v, rfl, -, rfl⟩ := ht
  exact (List.prefix_append _ _).trans hcs

theorem asks_listBody (m : Mode) :
    ∀ r ∈ listBody m ++ [emits .punctuation (char ',')], r.Asks ReadsInList := by
  have hsign {y : Char} (h : y ∈ ['(', ')', ',']) : ∀ cs, ReadsInList y cs :=
    fun _ => .inr (.inl h)
  simp only [listBody, List.cons_append, List.nil_append, List.forall_mem_cons]
  exact ⟨asks_blanks.mono fun _ _ => .inl, asks_lineComment.mono fun _ _ h => .inr (.inr h),
    asks_char (hsign (by decide)), asks_char (hsign (by decide)), asks_char (hsign (by decide)),
    by simp⟩

theorem asks_sourceList : ∀ r ∈ Mode.sourceList.rules, r.Asks Mode.sourceList.Reads := by
  have hbody : ∀ r ∈ listBody .sourceList ++ [emits .punctuation (char ',')],
      r.Asks Mode.sourceList.Reads :=
    fun r hr => (asks_listBody _ r hr).mono fun _ _ => .inl
  simp only [Mode.rules, List.forall_mem_append, List.forall_mem_cons] at hbody ⊢
  obtain ⟨hlist, hcomma, -⟩ := hbody
  refine ⟨hlist, asks_of_spells ?_, asks_of_spells ?_, hcomma, by simp⟩
  · rintro t ⟨u, v, hu, -, rfl⟩ x cs hcs
    exact .inr ⟨u, spells_plainString.1 hu, (List.prefix_append u v).trans hcs⟩
  · intro t ht x cs hcs
    exact .inr ⟨t, spells_plainString.1 ht, hcs⟩

theorem asks_importList : ∀ r ∈ Mode.importList.rules, r.Asks Mode.importList.Reads := by
  have hbody : ∀ r ∈ listBody .importList ++ [emits .punctuation (char ',')],
      r.Asks Mode.importList.Reads :=
    fun r hr => (asks_listBody _ r hr).mono fun _ _ => .inl
  simp only [Mode.rules, List.forall_mem_append, List.forall_mem_cons] at hbody ⊢
  obtain ⟨hlist, hcomma, -⟩ := hbody
  refine ⟨hlist, asks_of_starts fun x hx _ => .inr ?_, hcomma, by simp⟩
  simpa [emits, importedName, Rule.starts, Shape.starts, nullable] using hx

theorem asks_patternGroup : ∀ r ∈ Mode.patternGroup.rules, r.Asks Mode.patternGroup.Reads := by
  have hsign {y : Char} (h : y ∈ ['.', '=', ',', ')']) : ∀ cs, Mode.patternGroup.Reads y cs :=
    fun _ => .inr h
  simp only [Mode.rules, List.forall_mem_cons]
  exact ⟨asks_blanks.mono fun _ _ => .inl, asks_char (hsign (by decide)),
    asks_char (hsign (by decide)), asks_char (hsign (by decide)), asks_char (hsign (by decide)),
    by simp⟩

theorem asks_escape : ∀ r ∈ Mode.escape.rules, r.Asks Mode.escape.Reads := by
  intro r hr c x cs hc hm
  by_contra h
  obtain ⟨rfl, hgap⟩ : x = '\n' ∧ (cs.dropWhile isBlank).head? ≠ some '\\' := by
    simpa [Mode.Reads] using h
  have hstranded : (⟨c, .push .escape .base⟩ : Scan).Stranded :=
    Scan.stranded_iff.2 ⟨rfl, by simp [Cursor.peek?, hc], by rwa [hc]⟩
  exact hm (hstranded.unmatched r hr)

/-- In every mode only text that it has a reading for is taken. -/
theorem asks_rules (m : Mode) : ∀ r ∈ m.rules, r.Asks m.Reads := by
  cases m with
  | root => exact asks_root
  | interpolation | parens | braces | brackets | patternValue =>
    exact asks_of_readsExpressions (by simp [Mode.ReadsExpressions])
  | escape => exact asks_escape
  | sourceList => exact asks_sourceList
  | importList => exact asks_importList
  | patternGroup => exact asks_patternGroup
  | comment | moduleName | string | multilineString | pattern =>
    exact fun _ _ _ _ _ _ _ => trivial

theorem anyMatches_listBody {m : Mode} (hc : c.ahead = x :: cs) (h : ReadsInList x cs) :
    AnyMatches (listBody m ++ [emits .punctuation (char ',')]) c := by
  obtain hblank | hsign | ⟨rest, hrest⟩ := h
  · exact ⟨whitespace, by simp [listBody], match?_many1_ne_none hc hblank⟩
  · obtain rfl | rfl | rfl : x = '(' ∨ x = ')' ∨ x = ',' := by simpa using hsign
    · exact ⟨opens .text (char '(') m, by simp [listBody], match?_one_ne_none hc rfl⟩
    · exact ⟨closes .text (char ')'), by simp [listBody], match?_one_ne_none hc rfl⟩
    · exact ⟨emits .punctuation (char ','), by simp, match?_one_ne_none hc rfl⟩
  · have hreach : Lexeme.lineComment.reach c.previous? (['-', '-'] ++ rest) = some _ :=
      reach_append reach_literal rfl
    refine ⟨Rule.lineComment, by simp [listBody], match?_ne_none_of_reach rfl ?_⟩
    rw [hc, ← hrest, hreach]
    exact Option.some_ne_none _

theorem match?_plainString_ne_none {t : List Char} (h : IsQuoted t) (ht : t <+: c.ahead) :
    (emits .string plainString).match? c ≠ none := by
  obtain ⟨rest, hrest⟩ := ht
  have hreach := plainString_endsBefore (literal []) rest (free_of_nil rfl c.previous?)
    (spells_plainString.2 h) rfl
  rw [List.nil_append, hrest] at hreach
  exact match?_ne_none_of_reach rfl (by simp [hreach])

theorem anyMatches_patternGroup (hc : c.ahead = x :: cs) (h : Mode.patternGroup.Reads x cs) :
    AnyMatches Mode.patternGroup.rules c := by
  obtain hblank | hsign := h
  · exact ⟨whitespace, by simp [Mode.rules], match?_many1_ne_none hc hblank⟩
  · obtain rfl | rfl | rfl | rfl : x = '.' ∨ x = '=' ∨ x = ',' ∨ x = ')' := by simpa using hsign
    · exact ⟨opens .operator (char '.') .pattern, by simp [Mode.rules], match?_one_ne_none hc rfl⟩
    · exact ⟨opens .operator (char '=') .patternValue, by simp [Mode.rules],
        match?_one_ne_none hc rfl⟩
    · exact ⟨emits .punctuation (char ','), by simp [Mode.rules], match?_one_ne_none hc rfl⟩
    · exact ⟨closes .punctuation (char ')'), by simp [Mode.rules], match?_one_ne_none hc rfl⟩

theorem anyMatches_comment (hc : c.ahead = x :: cs) : AnyMatches Mode.comment.rules c := by
  cases hx : isCommentMark x with
  | true =>
    exact ⟨emits .commentMultiline (one isCommentMark), by simp [Mode.rules],
      match?_one_ne_none hc hx⟩
  | false =>
    exact ⟨emits .commentMultiline commentText, by simp [Mode.rules],
      match?_many1_ne_none hc (by simp [hx])⟩

theorem anyMatches_string {m : Mode} (hm : m.ReadsStrings) (hc : c.ahead = x :: cs) :
    AnyMatches m.rules c := by
  have hbody : stringBody ⊆ m.rules := by
    obtain rfl | rfl := hm
    · exact List.subset_append_left _ _
    · exact List.Subset.trans (List.subset_append_left _ _) (List.subset_cons_self _ _)
  cases hx : isStringMark x with
  | false => exact ⟨_, hbody List.mem_cons_self, match?_many1_ne_none hc (by simp [hx])⟩
  | true =>
    obtain (rfl | rfl) | rfl : (x = '\\' ∨ x = '"') ∨ x = '#' := by
      simpa [isStringMark] using hx
    · exact ⟨opens .stringEscape (char '\\') .escape, hbody (by simp [stringBody]),
        match?_one_ne_none hc rfl⟩
    · obtain rfl | rfl := hm
      · exact ⟨closes .string (char '"'), by simp [Mode.rules], match?_one_ne_none hc rfl⟩
      · exact ⟨emits .string (char '"'), by simp [Mode.rules], match?_one_ne_none hc rfl⟩
    · exact ⟨emits .string (char '#'), hbody (by simp [stringBody]), match?_one_ne_none hc rfl⟩

theorem anyMatches_escape (hc : c.ahead = x :: cs) (h : Mode.escape.Reads x cs) :
    AnyMatches Mode.escape.rules c := by
  by_contra hnone
  have hunmatched : ∀ r ∈ Mode.escape.rules, r.match? c = none := by
    simpa [AnyMatches] using hnone
  have hx : x = '\n' := by
    by_contra hx
    exact hnone ⟨closes .error (one (· != '\n')), by simp [Mode.rules],
      match?_one_ne_none hc (by simpa using hx)⟩
  have hstranded : (⟨c, .push .escape .base⟩ : Scan).Stranded :=
    ⟨by simp [Cursor.peek?, hc, hx], hunmatched⟩
  obtain ⟨-, -, hgap⟩ := Scan.stranded_iff.1 hstranded
  rw [hc, hx] at hgap
  exact h.elim (· hx) hgap

/-- Text that the mode has a reading for is taken by one of its rules. -/
theorem anyMatches_of_reads {m : Mode} (hc : c.ahead = x :: cs) (h : m.Reads x cs) :
    AnyMatches m.rules c := by
  have hexpression (hx : isExpressionChar x = true) (pre : List Rule) :
      AnyMatches (pre ++ expression) c :=
    (anyMatches_shared hc hx).mono fun _ hr => List.mem_append_right _ (shared_subset_expression hr)
  have hleave {rules : List Rule} (hr : (leaveWhen fun _ => true) ∈ rules) : AnyMatches rules c :=
    ⟨_, hr, by simp [match?]⟩
  cases m with
  | root =>
    obtain hx | ⟨rfl, hpromotes⟩ := h
    · exact (anyMatches_shared hc hx).mono shared_subset_root
    · exact ⟨promoted, by simp [rules_root], match?_promoted_ne_none hc hpromotes⟩
  | comment => exact anyMatches_comment hc
  | moduleName => exact hleave (by simp [Mode.rules])
  | string => exact anyMatches_string (.inl rfl) hc
  | multilineString => exact anyMatches_string (.inr rfl) hc
  | escape => exact anyMatches_escape hc h
  | interpolation => exact hexpression h [closes .stringInterpol (char '}')]
  | sourceList =>
    obtain hlist | ⟨t, ht, hcs⟩ := h
    · exact (anyMatches_listBody hc hlist).mono
        (List.append_subset.2 ⟨List.subset_append_left _ _, by simp [Mode.rules]⟩)
    · exact ⟨emits .string plainString, by simp [Mode.rules],
        match?_plainString_ne_none ht (hc ▸ hcs)⟩
  | importList =>
    obtain hlist | hletter := h
    · exact (anyMatches_listBody hc hlist).mono
        (List.append_subset.2 ⟨List.subset_append_left _ _, by simp [Mode.rules]⟩)
    · exact ⟨emits .name importedName, by simp [Mode.rules],
        match?_ne_none_of_reach rfl (by simp [importedName, reach, hc, hletter])⟩
  | pattern => exact hleave (by simp [Mode.rules])
  | patternGroup => exact anyMatches_patternGroup hc h
  | patternValue => exact hexpression h _
  | parens => exact hexpression h [closes .punctuation (char ')')]
  | braces => exact hexpression h [closes .punctuation (char '}')]
  | brackets => exact hexpression h [closes .punctuation (char ']')]

end Rule

/-- A rule of the mode matches exactly where the mode has a reading for what is ahead. -/
theorem Mode.anyMatches_iff (m : Mode) {c : Cursor} {x : Char} {cs : List Char}
    (hc : c.ahead = x :: cs) : AnyMatches m.rules c ↔ m.Reads x cs := by
  refine ⟨?_, anyMatches_of_reads hc⟩
  rintro ⟨r, hr, hm⟩
  exact asks_rules m r hr hc hm

theorem Mode.ne_error_of_mem_rules {m : Mode} (hm : m ≠ .escape) :
    ∀ r ∈ m.rules, ∀ p ∈ r.parts, p.1 ≠ .error := by
  cases m with
  | escape => exact absurd rfl hm
  | _ => decide

namespace Scan

variable {resync : Bool} {s : Scan} {x : Char} {cs : List Char}

theorem chosen?_eq_none_iff_not_reads (hc : s.cursor.ahead = x :: cs) :
    s.chosen? = none ↔ ¬s.modes.top.Reads x cs := by
  rw [← s.modes.top.anyMatches_iff hc, chosen?_eq_none_iff]
  simp [AnyMatches]

/-- What no rule reads is reported and passed over alone; the modes stay as they are. -/
theorem step_of_not_reads (resync : Bool) (hc : s.cursor.ahead = x :: cs)
    (hm : s.modes.top ≠ .escape) (h : ¬s.modes.top.Reads x cs) :
    (s.step resync).tokens = [s.cursor.token .error 1] ∧
      (s.step resync).diagnostics = [(s.cursor.token .error 1).complaint s.modes.top] ∧
        (s.step resync).next = ⟨s.cursor.advance, s.modes⟩ := by
  have hchosen := (chosen?_eq_none_iff_not_reads hc).2 h
  have hnewline : s.cursor.peek? ≠ some '\n' := by
    intro hpeek
    obtain ⟨rest, hrest⟩ := List.head?_eq_some_iff.1 hpeek
    obtain ⟨r, hr, hmatch⟩ := Mode.exists_match_newline hm hrest
    exact hmatch (chosen?_eq_none_iff.1 hchosen r hr)
  have hmove : s.move resync = .refuse := by simp [move, hchosen, hnewline]
  rw [step, hmove]
  exact ⟨rfl, rfl, rfl⟩

/-- Outside of escapes, errors are made of exactly what the mode has no reading for. -/
theorem exists_error_iff (resync : Bool) {s : Scan} {x : Char} {cs : List Char}
    (hc : s.cursor.ahead = x :: cs) (hm : s.modes.top ≠ .escape) :
    (∃ t ∈ (s.step resync).tokens, t.kind = .error) ↔ ¬s.modes.top.Reads x cs := by
  constructor
  · rintro ⟨t, ht, hkind⟩
    rw [step, tokens_perform] at ht
    rw [← chosen?_eq_none_iff_not_reads hc]
    obtain ⟨r, ps, hr, -, hmatch, e⟩ | ⟨r, -, -, -, e⟩ | ⟨hnone, -, -, -⟩ | ⟨hnone, -, -⟩ :=
      move_cases resync s
    · rw [e] at ht
      obtain ⟨part, hpart, k, n, rfl, -⟩ :=
        Cursor.exists_part_of_mem_tokens (split?_of_match? hmatch) ht
      exact absurd hkind (Mode.ne_error_of_mem_rules hm r hr part hpart)
    · rw [e] at ht
      exact absurd ht List.not_mem_nil
    · exact hnone
    · exact hnone
  · intro h
    rw [(step_of_not_reads resync hc hm h).1]
    exact ⟨_, List.mem_singleton.2 rfl, rfl⟩

/-- A quote with brackets behind it makes a type; without the second one it is an error. -/
theorem exists_error_iff_quote :
    let s : Scan := .start ['\'', '[', 'a', ']']
    let u : Scan := .start ['\'', '[', 'a']
    (¬∃ t ∈ (s.step true).tokens, t.kind = .error) ∧
      ∃ t ∈ (u.step true).tokens, t.kind = .error := by
  intro s u
  have hs : s.modes.top ≠ .escape := by decide
  have hu : u.modes.top ≠ .escape := by decide
  have hcloses : Promotes ['[', 'a', ']'] := ⟨'[', _, rfl, .inr (.inl ⟨rfl, by decide⟩)⟩
  have hopen : ¬Promotes ['[', 'a'] := by
    rintro ⟨y, rest, hrest, h⟩
    obtain ⟨rfl, rfl⟩ := List.cons.inj hrest
    revert h
    decide
  have hquote : isExpressionChar '\'' = false := by decide +kernel
  refine ⟨fun h => (exists_error_iff true rfl hs).1 h (.inr ⟨rfl, hcloses⟩),
    (exists_error_iff true rfl hu).2 ?_⟩
  rintro (h | ⟨-, h⟩)
  · rw [hquote] at h
    cases h
  · exact hopen h

end Scan
end ModalLexer
