import ModalLexer.Proofs.LongestMatch
import ModalLexer.Proofs.Passage
import ModalLexer.Proofs.Walk

/-!
Operators among selectors. An operator is a run of operator symbols that ends before the dot of a
selector, so that such a dot is never part of a longer operator. Where one stands, it is a token by
itself, and the selector behind it is read in a mode of its own; a chain of selectors leads back to
where it began.
-/

namespace ModalLexer

theorem lt_length_of_drop_eq_cons {cs rest : List Char} {x : Char} {i : Nat}
    (h : cs.drop i = x :: rest) : i < cs.length := by
  have hlength := congrArg List.length h
  rw [List.length_drop, List.length_cons] at hlength
  omega

namespace Shape

/-- A run is made of characters that pass the test, and the one behind it does not. -/
theorem runLength_spec (p : Char → List Char → Bool) (cs : List Char) :
    (∀ i < runLength p cs, ∃ x rest, cs.drop i = x :: rest ∧ p x rest = true) ∧
      ∀ x rest, cs.drop (runLength p cs) = x :: rest → p x rest = false := by
  induction cs with
  | nil => simp [runLength]
  | cons x cs ih =>
    cases hx : p x cs with
    | true =>
      rw [runLength, if_pos hx]
      refine ⟨fun i hi => ?_, ih.2⟩
      cases i with
      | zero => exact ⟨x, cs, rfl, hx⟩
      | succ i => exact ih.1 i (Nat.lt_of_succ_lt_succ hi)
    | false =>
      rw [runLength, if_neg (by simp [hx])]
      refine ⟨fun i hi => absurd hi (Nat.not_lt_zero i), fun y rest e => ?_⟩
      obtain ⟨rfl, rfl⟩ := List.cons.inj e
      exact hx

end Shape

namespace Lexeme

open Shape

/-- A dot with a word character or a parenthesis directly behind it. -/
def SelectorDot (cs : List Char) : Prop :=
  ∃ x rest, cs = '.' :: x :: rest ∧ (isWord x = true ∨ x = '(')

/-- The next character is an operator symbol, and no selector's dot. -/
def InOperator (cs : List Char) : Prop := cs.head?.any isOperatorChar = true ∧ ¬SelectorDot cs

/-- The next `n` characters are an operator, as long as can be. -/
structure OperatorRun (cs : List Char) (n : Nat) : Prop where
  pos : 0 < n
  within : ∀ i < n, InOperator (cs.drop i)
  ends : ¬InOperator (cs.drop n)

variable {x : Char} {cs : List Char} {prev : Option Char} {n : Nat}

theorem selectorDot_cons_iff :
    SelectorDot (x :: cs) ↔ (x == '.' && cs.head?.any startsSelector) = true := by
  cases cs with
  | nil => simp [SelectorDot]
  | cons y cs => simp [SelectorDot, startsSelector]

theorem inOperator_cons_iff : InOperator (x :: cs) ↔
    (isOperatorChar x && !(x == '.' && cs.head?.any startsSelector)) = true := by
  rw [InOperator, selectorDot_cons_iff, List.head?_cons, Option.any_some, Bool.not_eq_true,
    Bool.and_eq_true (isOperatorChar x), Bool.not_eq_true']

theorem not_inOperator_nil : ¬InOperator [] := fun h => absurd h.1 (by simp)

/-- What the rule for operators takes, if only nothing, ends with the operator. -/
theorem spec_of_reach_operator (h : operator.reach prev cs = some n) :
    (∀ i < n, InOperator (cs.drop i)) ∧ ¬InOperator (cs.drop n) := by
  obtain ⟨hwithin, hends⟩ := runLength_spec
    (fun c rest => isOperatorChar c && !(c == '.' && rest.head?.any startsSelector)) cs
  rw [Option.some.inj h] at hwithin hends
  refine ⟨fun i hi => ?_, fun hin => ?_⟩
  · obtain ⟨x, rest, e, hx⟩ := hwithin i hi
    rw [e]
    exact inOperator_cons_iff.2 hx
  · cases e : cs.drop n with
    | nil => exact not_inOperator_nil (e ▸ hin)
    | cons x rest =>
      have hx := inOperator_cons_iff.1 (e ▸ hin)
      rw [hends x rest e] at hx
      cases hx

theorem operatorRun_of_reach (h : operator.reach prev cs = some n) (hn : 0 < n) :
    OperatorRun cs n :=
  ⟨hn, (spec_of_reach_operator h).1, (spec_of_reach_operator h).2⟩

theorem selectorDot_of_reach (h : selectorDot.reach prev cs = some n) : SelectorDot cs := by
  obtain ⟨k, l, hk, hl, -⟩ := exists_of_reach_seq h
  obtain ⟨⟨x, rest, rfl, hx⟩, rfl⟩ := exists_of_reach_one hk
  rw [selectorDot_cons_iff, hx]
  exact (Option.ite_none_right_eq_some.1 hl).1

theorem reach_selectorDot_of (h : SelectorDot cs) : selectorDot.reach prev cs = some 1 := by
  obtain ⟨x, rest, rfl, hx⟩ := h
  have hstarts : startsSelector x = true := by simpa [startsSelector] using hx
  refine (reach_seq (t := ['.']) reach_char).trans ?_
  simp [reach, hstarts]

/-- The text, before what follows it, is all of one selector: the name of a field or an index. -/
inductive Selects : List Char → List Char → Prop
  | field {x : Char} {t rest : List Char} : (x = '_' ∨ isAlphabetic x = true) →
      (∀ y ∈ t, isIdent y = true) → rest.head?.any isIdent = false → Selects (x :: t) rest
  | index {u rest : List Char} : IsRun Char.isDigit u → rest.head?.any isWord = false →
      Selects u rest

/-- Selectors in a row before what follows them, each behind its dot. -/
inductive Chain : List Char → List Char → Prop
  | nil {rest : List Char} : Chain [] rest
  | cons {u w rest : List Char} : Selects u (w ++ rest) → Chain w rest → Chain ('.' :: u ++ w) rest

theorem Selects.selectorDot {u rest : List Char} (h : Selects u rest) :
    SelectorDot ('.' :: u ++ rest) := by
  cases h with
  | @field x t _ hx _ _ =>
    refine ⟨x, t ++ rest, rfl, .inl ?_⟩
    rcases hx with rfl | hx
    · rfl
    · simp [isWord, hx]
  | index hu _ =>
    obtain ⟨x, t, rfl⟩ := List.exists_cons_of_ne_nil hu.1
    have hx : x.isDigit = true := hu.2 x List.mem_cons_self
    exact ⟨x, t ++ rest, rfl, .inl (isWord_of_isAlphanum (isAlphanum_of_isDigit hx))⟩

end Lexeme

def Token.Spans (t : Token) (c : Cursor) : Prop :=
  t.span.start ≤ c.position ∧ c.position < t.span.stop

namespace Cursor

variable {c : Cursor}

theorem position_skip_lt_iff {i n : Nat} (hi : i < c.ahead.length) :
    (c.skip i).position < (c.skip n).position ↔ i < n := by
  rw [position_skip, position_skip]
  constructor
  · intro h
    by_contra hle
    have hbytes := byteLength_le_of_isPrefix
      (List.take_prefix_take_left (l := c.ahead) (Nat.le_of_not_lt hle))
    omega
  · intro h
    have hbytes := byteLength_le_of_isPrefix
      (List.take_prefix_take_left (l := c.ahead) (Nat.succ_le_of_lt h))
    rw [List.take_succ_eq_append_getElem hi, byteLength_append] at hbytes
    have hpos := (c.ahead[i]).utf8Size_pos
    simp only [byteLength_cons, byteLength_nil] at hbytes
    omega

theorem spans_token_iff {kind : TokenKind} {n i : Nat} (hi : i < c.ahead.length) :
    (c.token kind n).Spans (c.skip i) ↔ i < n := by
  have hstart : c.position ≤ (c.skip i).position := by
    rw [position_skip]
    exact Nat.le_add_right _ _
  exact ⟨fun h => (position_skip_lt_iff hi).1 h.2,
    fun h => ⟨hstart, (position_skip_lt_iff hi).2 h⟩⟩

end Cursor

open Rule Shape Lexeme

namespace Rule

variable {c : Cursor} {m : Mode}

/-- Where the dot of a selector stands, its rule comes first. -/
theorem first?_selectorDot (hm : m = .root ∨ m.ReadsExpressions) (h : SelectorDot c.ahead) :
    first? c m.rules = some (opens .operator selectorDot .pattern, [(.operator, 1)]) := by
  obtain ⟨x, rest, hc, -⟩ := id h
  have hmatch : (opens .operator selectorDot .pattern).match? c = some [(.operator, 1)] :=
    match?_token (reach_selectorDot_of h) Nat.one_ne_zero
  obtain rfl | hm := hm
  · have hclears : ∀ r ∈ [whitespace, lineComment, blockComment] ++
        (words ++ [promoted] ++ (names ++ numbers)), r.clears ['.'] = true := by decide
    have hfirst : first? c Mode.root.rules = first? c (opens .operator selectorDot .pattern ::
        (signs.tail ++ [operators] ++ [punctuation])) :=
      first?_append fun r hr => match?_eq_none_of_clears hc (by decide) (hclears r hr)
    exact hfirst.trans (first?_cons_of_some hmatch)
  · have hclears : ∀ r ∈ [whitespace, blockComment, interpolation] ++ (names ++ numbers),
        r.clears ['.'] = true := by decide
    have hfirst : first? c expression = first? c (opens .operator selectorDot .pattern ::
        (signs.tail ++ [operators] ++ openers)) :=
      first?_append fun r hr => match?_eq_none_of_clears hc (by decide) (hclears r hr)
    exact (hm.first?_rules hc (by decide)).trans (hfirst.trans (first?_cons_of_some hmatch))

def makesOperators (r : Rule) : Bool := r.parts.any (·.1 == .operator)

/-- Three rules of such a mode make operators, and each makes one at a time. -/
theorem filter_makesOperators (hm : m = .root ∨ m.ReadsExpressions) :
    m.rules.filter (·.makesOperators) =
      [emits .operator (char '_'), opens .operator selectorDot .pattern, operators] := by
  rcases hm with rfl | rfl | rfl | rfl | rfl | rfl <;> rfl

end Rule

namespace Scan

variable {resync : Bool} {s : Scan}

/-- An operator is the wildcard, the dot of a selector, or an operator as long as can be. -/
theorem operator_cases (hm : s.modes.top = .root ∨ s.modes.top.ReadsExpressions) {t : Token}
    (ht : t ∈ (s.step resync).tokens) (hk : t.kind = .operator) :
    (t = s.cursor.token .operator 1 ∧ s.cursor.ahead.head? = some '_') ∨
      SelectorDot s.cursor.ahead ∨
        ∃ n, t = s.cursor.token .operator n ∧ OperatorRun s.cursor.ahead n := by
  obtain ⟨r, ps, hr, -, hmatch, htokens⟩ | ⟨-, hlone⟩ := taken_or_lone resync ht
  · rw [htokens] at ht
    have hmakes : r.makesOperators = true := by
      obtain ⟨part, hpart, k, n, rfl, -⟩ :=
        Cursor.exists_part_of_mem_tokens (split?_of_match? hmatch) ht
      exact List.any_eq_true.2 ⟨part, hpart, beq_iff_eq.2 hk⟩
    have hthree := List.mem_filter.2 ⟨hr, hmakes⟩
    rw [filter_makesOperators hm] at hthree
    obtain ⟨shape, a, rfl⟩ : ∃ shape a, r = token .operator shape a := by
      simp only [List.mem_cons, List.not_mem_nil, or_false] at hthree
      rcases hthree with rfl | rfl | rfl <;> exact ⟨_, _, rfl⟩
    obtain ⟨n, hn, hpos, rfl⟩ := exists_of_match?_token hmatch
    obtain rfl : t = s.cursor.token .operator n := by
      rw [Cursor.tokens_of_pos hpos] at ht
      exact List.mem_singleton.1 ht
    simp only [List.mem_cons, List.not_mem_nil, or_false] at hthree
    rcases hthree with h | h | h
    · obtain rfl : shape = char '_' := by injection h
      obtain ⟨⟨x, rest, hx, hwild⟩, rfl⟩ := exists_of_reach_one hn
      exact .inl ⟨rfl, by rw [hx, beq_iff_eq.1 hwild, List.head?_cons]⟩
    · obtain rfl : shape = selectorDot := by injection h
      exact .inr (.inl (selectorDot_of_reach hn))
    · obtain rfl : shape = operator := by injection h
      exact .inr (.inr ⟨n, rfl, operatorRun_of_reach hn hpos⟩)
  · rw [hk] at hlone
    exact absurd hlone (by decide)

/-- The step takes the text as one token and opens the mode. -/
structure Enters (resync : Bool) (s : Scan) (kind : TokenKind) (u : List Char) (m : Mode) :
    Prop where
  tokens : (s.step resync).tokens = [⟨kind, .ofList u,
    ⟨s.cursor.position, s.cursor.position + byteLength u, s.cursor.line, s.cursor.column⟩⟩]
  next : (s.step resync).next = ⟨s.cursor.skip u.length, s.modes.push m⟩

theorem enters_of_first? {kind : TokenKind} {shape : Shape} {m : Mode} {u : List Char}
    (hfirst : first? s.cursor s.modes.top.rules = some (opens kind shape m, [(kind, u.length)]))
    (hpos : 0 < u.length) (hu : u <+: s.cursor.ahead) : s.Enters resync kind u m := by
  have hstep := step_of_first? resync hfirst rfl
  obtain ⟨rest, hc⟩ := hu
  have htake : s.cursor.ahead.take u.length = u := by rw [← hc, List.take_left]
  have hposition : (s.cursor.skip u.length).position = s.cursor.position + byteLength u := by
    rw [Cursor.position_skip, htake]
  refine ⟨?_, ?_⟩
  · rw [hstep, take, Cursor.tokens_of_pos hpos, Cursor.token, hposition, htake]
  · rw [hstep]
    rfl

def EntersSelector (resync : Bool) (s : Scan) : Prop := s.Enters resync .operator ['.'] .pattern

theorem entersSelector (hm : s.modes.top = .root ∨ s.modes.top.ReadsExpressions)
    (h : SelectorDot s.cursor.ahead) : s.EntersSelector resync := by
  obtain ⟨x, rest, hc, -⟩ := id h
  exact enters_of_first? (first?_selectorDot hm h) Nat.one_pos ⟨x :: rest, hc.symm⟩

theorem EntersSelector.eq_zero_of_spans (h : s.EntersSelector resync) {t : Token} {i : Nat}
    (ht : t ∈ (s.step resync).tokens) (hi : i < s.cursor.ahead.length)
    (hspans : t.Spans (s.cursor.skip i)) : i = 0 ∧ t.text = "." := by
  rw [h.tokens] at ht
  obtain rfl := List.mem_singleton.1 ht
  have hstop : (s.cursor.skip i).position < s.cursor.position + 1 := hspans.2
  have hlength := length_le_byteLength (s.cursor.ahead.take i)
  rw [Cursor.position_skip] at hstop
  rw [List.length_take] at hlength
  exact ⟨by omega, rfl⟩

def chainKinds : List TokenKind := [.operator, .name, .number .integer]

/-- In the mode of selectors, one selector is read, and the mode is left. -/
theorem makes_selects (resync : Bool) (S : ModeStack) {c : Cursor} {u rest : List Char}
    (h : Selects u rest) (hc : c.ahead = u ++ rest) :
    ∃ sts, Makes chainKinds resync ⟨c, S.push .pattern⟩ sts ⟨c.skip u.length, S⟩ u.length := by
  cases h with
  | @field x t _ hx ht hrest =>
    have hfirst : (x == '_' || isAlphabetic x) = true := by simpa using hx
    have hparen : (char '(').starts x = false := by
      refine beq_false_of_ne ?_
      rintro rfl
      exact absurd hfirst (by decide)
    have hnone : (token .punctuation (char '(') (.replace .patternGroup)).match? c = none :=
      match?_eq_none_of_starts hc hparen
    have hreach : fieldSelector.reach c.previous? c.ahead = some (t.length + 1) := by
      rw [hc]
      exact reach_one_many hfirst ht hrest
    have hmatch : (closes .name fieldSelector).match? c = some [(.name, t.length + 1)] :=
      match?_token hreach (Nat.succ_ne_zero _)
    exact ⟨_, .of_first? (s := ⟨c, S.push .pattern⟩)
      ((first?_cons_of_none hnone).trans (first?_cons_of_some hmatch)) (by decide) (by decide)⟩
  | index hu hrest =>
    obtain ⟨x, t, rfl⟩ := List.exists_cons_of_ne_nil hu.1
    have hall : digitChars.all (fun y => (Mode.pattern.rules.take 2).all (!·.starts y)) = true := by
      decide
    have hpre : ∀ q ∈ Mode.pattern.rules.take 2, q.starts x = false := by
      simpa using List.all_eq_true.1 hall x (mem_digitChars (hu.2 x List.mem_cons_self))
    have hend : rest.head?.any Char.isDigit = false := by
      cases rest with
      | nil => rfl
      | cons y rest =>
        by_contra hy
        rw [List.head?_cons, Option.any_some, Bool.not_eq_false] at hy
        have hword := isWord_of_isAlphanum (isAlphanum_of_isDigit hy)
        exact absurd hrest (by simp [hword])
    have hreach : indexSelector.reach c.previous? c.ahead = some (t.length + 1) := by
      rw [hc]
      exact reach_many1 hu.1 hu.2 hend
    have hmatch : (closes (.number .integer) indexSelector).match? c =
        some [(.number .integer, t.length + 1)] := match?_token hreach (Nat.succ_ne_zero _)
    exact ⟨_, .of_first? (s := ⟨c, S.push .pattern⟩)
      ((first?_append fun q hq => match?_eq_none_of_starts hc (hpre q hq)).trans
        (first?_cons_of_some hmatch)) (by decide) (by decide)⟩

/-- A chain of selectors leads back to the stack it began with. -/
theorem makes_chain {w rest : List Char} (h : Chain w rest) {s : Scan}
    (hm : s.modes.top = .root ∨ s.modes.top.ReadsExpressions) (hc : s.cursor.ahead = w ++ rest) :
    ∃ sts, s.Makes chainKinds resync sts ⟨s.cursor.skip w.length, s.modes⟩ w.length := by
  induction h generalizing s with
  | nil => exact ⟨[], .refl s⟩
  | @cons u w rest hu _ ih =>
    have hbehind : s.cursor.ahead = '.' :: u ++ (w ++ rest) := by rw [hc, List.append_assoc]
    have hdot : SelectorDot s.cursor.ahead := hbehind ▸ hu.selectorDot
    have hopen : s.Makes chainKinds resync [s.step resync]
        ⟨s.cursor.skip 1, s.modes.push .pattern⟩ 1 :=
      .of_first? (first?_selectorDot hm hdot) (by decide) (by decide)
    have hselector : (s.cursor.skip 1).ahead = u ++ (w ++ rest) := by
      rw [Cursor.ahead_skip, hbehind]
      rfl
    obtain ⟨sts, hsts⟩ := makes_selects resync s.modes hu hselector
    have hrest : ((s.cursor.skip 1).skip u.length).ahead = w ++ rest := by
      rw [Cursor.ahead_skip, hselector, List.drop_left]
    obtain ⟨sts', hsts'⟩ := ih (s := ⟨(s.cursor.skip 1).skip u.length, s.modes⟩) hm hrest
    have hall := (hopen.trans hsts).trans hsts'
    have hlength : ('.' :: u ++ w).length = 1 + u.length + w.length := by
      simp only [List.cons_append, List.length_cons, List.length_append]
      omega
    rw [hlength, Cursor.skip_add, Cursor.skip_add]
    exact ⟨_, hall⟩

/-- How a scan reads operators where dots may stand among them: the dot of a selector is an operator
by itself, any other goes as far as it can, and behind selectors in a row all is open that was open
before them. -/
structure ReadsOperators (resync : Bool) (s : Scan) : Prop where
  alone : ∀ t ∈ (s.step resync).tokens, t.kind = .operator → ∀ i, t.Spans (s.cursor.skip i) →
    SelectorDot (s.cursor.ahead.drop i) → i = 0 ∧ t.text = "." ∧ s.EntersSelector resync
  maximal : ∀ t ∈ (s.step resync).tokens, t.kind = .operator → t.text ≠ "_" →
    s.EntersSelector resync ∨
      ∃ n, t = s.cursor.token .operator n ∧ OperatorRun s.cursor.ahead n
  enters : SelectorDot s.cursor.ahead → s.EntersSelector resync
  returns : ∀ w rest, Chain w rest → s.cursor.ahead = w ++ rest →
    ∃ sts, s.Makes chainKinds resync sts ⟨s.cursor.skip w.length, s.modes⟩ w.length

/-- No dot of a selector is lost in an operator. -/
theorem readsOperators (resync : Bool) {s : Scan}
    (hm : s.modes.top = .root ∨ s.modes.top.ReadsExpressions) : s.ReadsOperators resync := by
  refine ⟨fun t ht hk i hi hdot => ?_, fun t ht hk htext => ?_, entersSelector hm,
    fun w rest hw hc => makes_chain hw hm hc⟩
  · have hlt : i < s.cursor.ahead.length := by
      obtain ⟨x, rest, e, -⟩ := id hdot
      exact lt_length_of_drop_eq_cons e
    obtain ⟨rfl, hwild⟩ | h | ⟨n, rfl, hrun⟩ := operator_cases hm ht hk
    · obtain rfl := Nat.lt_one_iff.1 ((Cursor.spans_token_iff hlt).1 hi)
      obtain ⟨x, rest, e, -⟩ := hdot
      rw [← List.drop_zero (l := s.cursor.ahead), e] at hwild
      exact absurd (Option.some.inj hwild) (by decide)
    · have henters : s.EntersSelector resync := entersSelector hm h
      obtain ⟨hzero, htext⟩ := henters.eq_zero_of_spans ht hlt hi
      exact ⟨hzero, htext, henters⟩
    · exact absurd hdot (hrun.within i ((Cursor.spans_token_iff hlt).1 hi)).2
  · obtain ⟨rfl, hwild⟩ | h | hrun := operator_cases hm ht hk
    · refine absurd ?_ htext
      obtain ⟨rest, hrest⟩ := List.head?_eq_some_iff.1 hwild
      rw [Cursor.token, hrest]
      rfl
    · exact .inl (entersSelector hm h)
    · exact .inr hrun

/-- In parentheses, an operator with a dot of its own before the selectors. -/
theorem readsOperators_parens :
    let s : Scan := ⟨.ofString "<>..0.y_1+.(", ModeStack.base.push .parens⟩
    (s.modes.top = .root ∨ s.modes.top.ReadsExpressions) ∧ s.ReadsOperators true := by
  intro s
  have hm : s.modes.top = .root ∨ s.modes.top.ReadsExpressions :=
    .inr (by simp [s, Mode.ReadsExpressions])
  exact ⟨hm, readsOperators true hm⟩

example : ((lex true "<>..0.y_1+.(").tokens.map (·.text)) =
    ["<>.", ".", "0", ".", "y_1", "+", ".", "("] := by decide +kernel

end Scan
end ModalLexer
