import ModalLexer.Proofs.Characters
import ModalLexer.Proofs.Form
import ModalLexer.Proofs.Handing

/-!
What single pieces of an expression do to the stack of modes, wherever they stand.
-/

namespace ModalLexer

def Mode.ReadsExpressions (m : Mode) : Prop :=
  m = interpolation ∨ m = parens ∨ m = braces ∨ m = brackets ∨ m = patternValue

def Mode.ReadsStrings (m : Mode) : Prop := m = string ∨ m = multilineString

open Rule Shape Lexeme

/-- Before what may follow it, the text takes the stack `S` to the stack `S'` and leaves all frames
of `floor` open. -/
def Passes (floor : List Mode) (S : ModeStack) (u : List Char) (S' : ModeStack)
    (follow : List Char → Prop) : Prop :=
  ∀ (c : Cursor) (rest : List Char), c.ahead = u ++ rest → follow rest →
    ∃ ts, Scan.Climbs floor ⟨c, S⟩ ts ⟨c.skip u.length, S'⟩

section

variable {floor : List Mode} {S S' S'' : ModeStack} {m : Mode} {u v : List Char} {x : Char}
  {f g : List Char → Prop} {kind : TokenKind} {shape : Shape} {a : Action} {rs : List Rule}

namespace Passes

theorem nil : Passes floor S [] S f := fun _ _ _ _ => ⟨[], .refl _⟩

theorem append (h₁ : Passes floor S u S' f) (h₂ : Passes floor S' v S'' g)
    (hfg : ∀ rest, g rest → f (v ++ rest)) : Passes floor S (u ++ v) S'' g := by
  intro c rest hc hg
  rw [List.append_assoc] at hc
  obtain ⟨ts, hts⟩ := h₁ c (v ++ rest) hc (hfg rest hg)
  obtain ⟨us, hus⟩ := h₂ (c.skip u.length) rest (by simp [hc]) hg
  rw [List.length_append, Cursor.skip_add]
  exact ⟨ts ++ us, hts.trans hus⟩

theorem mono {floor' : List Mode} (h : Passes floor S u S' f) (hf : floor' <:+ floor) :
    Passes floor' S u S' f := by
  intro c rest hc hr
  obtain ⟨ts, hts⟩ := h c rest hc hr
  exact ⟨ts, hts.mono hf⟩

theorem imp (h : Passes floor S u S' f) (hfg : ∀ rest, g rest → f rest) :
    Passes floor S u S' g :=
  fun c rest hc hr => h c rest hc (hfg rest hr)

theorem any (h : Passes floor S u S' fun _ => True) : Passes floor S u S' f :=
  h.imp fun _ _ => trivial

/-- The text is one token of a rule, and no other rule comes first. -/
theorem of_token (hk : kind ≠ .error) (hu : u ≠ [])
    (hf : floor <:+ (a.apply S).above)
    (hfirst : ∀ (c : Cursor) (rest : List Char), c.ahead = u ++ rest → f rest →
      first? c S.top.rules = first? c (token kind shape a :: rs))
    (hreach : ∀ prev rest, f rest → shape.reach prev (u ++ rest) = some u.length) :
    Passes floor S u (a.apply S) f := by
  intro c rest hc hr
  obtain ⟨n, hn⟩ := Nat.exists_eq_succ_of_ne_zero (List.length_pos_iff.2 hu).ne'
  have hmatch := hreach c.previous? rest hr
  rw [← hc, hn] at hmatch
  have hchosen : Scan.chosen? ⟨c, S⟩ = some (token kind shape a, [(kind, n + 1)]) := by
    rw [Scan.chosen?_eq_first?, hfirst c rest hc hr]
    exact first?_cons_of_some (match?_token hmatch n.succ_ne_zero)
  rw [hn]
  exact ⟨_, .single (.emit hchosen rfl hk hf)⟩

/-- The text is one token of the first rule that may start with its first character. -/
theorem of_filter (hm : S.top = m) (hk : kind ≠ .error)
    (hf : floor <:+ (a.apply S).above)
    (hfilter : m.rules.filter (·.starts x) = token kind shape a :: rs)
    (hreach : ∀ prev rest, f rest → shape.reach prev (x :: u ++ rest) = some (u.length + 1)) :
    Passes floor S (x :: u) (a.apply S) f := by
  subst hm
  have hfirst (c : Cursor) (rest : List Char) (hc : c.ahead = x :: u ++ rest) (_ : f rest) :
      first? c S.top.rules = first? c (token kind shape a :: rs) := by
    rw [← hfilter, first?_filter hc]
  exact of_token hk (List.cons_ne_nil x u) hf hfirst hreach

end Passes

namespace Mode.ReadsExpressions

/-- Behind what closes the mode, all modes that read expressions have the same rules. -/
theorem rules_eq (hm : m.ReadsExpressions) : ∃ pre, m.rules = pre ++ expression ∧
    ∀ x ∉ ['(', ')', ',', ']', '}'], ∀ q ∈ pre, q.starts x = false := by
  have hclose (y : Char) (hy : y ∈ ['(', ')', ',', ']', '}']) (kind : TokenKind) (a : Action) :
      ∀ x ∉ ['(', ')', ',', ']', '}'], ∀ q ∈ [token kind (char y) a], q.starts x = false := by
    intro x hx q hq
    obtain rfl := List.mem_singleton.1 hq
    exact beq_false_of_ne fun e => hx (e ▸ hy)
  rcases hm with rfl | rfl | rfl | rfl | rfl
  · exact ⟨_, rfl, hclose '}' (by decide) .stringInterpol .pop⟩
  · exact ⟨_, rfl, hclose ')' (by decide) .punctuation .pop⟩
  · exact ⟨_, rfl, hclose '}' (by decide) .punctuation .pop⟩
  · exact ⟨_, rfl, hclose ']' (by decide) .punctuation .pop⟩
  · refine ⟨_, rfl, fun x hx => List.forall_mem_cons.2 ⟨?_, List.forall_mem_singleton.2 ?_⟩⟩
    · exact hclose '(' (by decide) .punctuation (.push .parens) x hx _ (List.mem_singleton.2 rfl)
    · simp only [List.mem_cons, List.not_mem_nil, or_false, not_or] at hx
      simp [Rule.starts, hx]

theorem first?_rules (hm : m.ReadsExpressions) {c : Cursor} {cs : List Char}
    (hc : c.ahead = x :: cs) (hx : x ∉ ['(', ')', ',', ']', '}']) :
    first? c m.rules = first? c expression := by
  obtain ⟨pre, e, hpre⟩ := hm.rules_eq
  rw [e, first?_append fun q hq => match?_eq_none_of_starts hc (hpre x hx q hq)]

end Mode.ReadsExpressions

/-- A class whose members do not close anything and that no rule before a certain one starts
with. -/
theorem first?_of_class {p : Char → Bool} {l : List Char} (pre : List Rule)
    (hm : m.ReadsExpressions) (hp : ∀ x, p x = true → x ∈ l) (he : expression = pre ++ rs)
    (hl : l.all (fun x => x ∉ ['(', ')', ',', ']', '}'] && pre.all (!·.starts x)) = true)
    {c : Cursor} {cs : List Char} (hc : c.ahead = x :: cs) (hx : p x = true) :
    first? c m.rules = first? c rs := by
  obtain ⟨hclose, hpre⟩ : x ∉ ['(', ')', ',', ']', '}'] ∧ ∀ q ∈ pre, q.starts x = false := by
    simpa using List.all_eq_true.1 hl x (hp x hx)
  rw [hm.first?_rules hc hclose, he,
    first?_append fun q hq => match?_eq_none_of_starts hc (hpre q hq)]

theorem reach_lowerName {prev : Option Char} {rest : List Char} (hu : IsName u)
    (hr : rest.head?.any isIdent = false) : lowerName.reach prev (u ++ rest) = some u.length := by
  obtain ⟨x, t, hx, ht, rfl⟩ := hu
  have hfirst : (char '_' ++ many1 isIdent).starts x = false := by
    have hall : lowerChars.all (!(char '_' ++ many1 isIdent).starts ·) = true := by decide
    simpa using List.all_eq_true.1 hall x (mem_lowerChars hx)
  have hleft : (char '_' ++ many1 isIdent).reach prev (x :: (t ++ rest)) = none :=
    reach_eq_none rfl hfirst
  have hright : (one isLowercase ++ many isIdent).reach prev (x :: t ++ rest) =
      some (t.length + 1) :=
    reach_one_many (isLowercase_of_isLower hx) (fun y hy => isIdent_of_isAlphanum (ht y hy)) hr
  rw [lowerName, orElse_eq, reach, hright, List.cons_append, hleft]
  rfl

theorem reach_radixMark_eq_none {mark d : Char} {prev : Option Char} {cs : List Char}
    (h : cs.head?.any (fun x => x == mark || x == mark.toUpper) = false) :
    (radixMark mark).reach prev (d :: cs) = none := by
  refine reach_seq_eq_none ?_
  by_cases hd : d = '0'
  · have hone : (char '0').reach prev ([d] ++ cs) = some [d].length := by
      rw [hd]
      exact reach_char
    refine (reach_seq hone).trans ?_
    simp [letter, reach, h]
  · exact reach_seq_eq_none (by simp [char, reach, hd])

theorem isDigitIn_ten {x : Char} (h : x.isDigit = true) : isDigitIn 10 x = true ∧ x ≠ '_' :=
  ⟨isDigitIn_of_isDigit h, by rintro rfl; exact absurd h (by decide)⟩

theorem reach_digitsIn {prev : Option Char} {rest : List Char} (hu : IsRun Char.isDigit u)
    (hr : rest.head?.any isBlank = true) :
    (digitsIn 10).reach prev (u ++ rest) = some u.length := by
  have hall : blankChars.all (fun x => !(isDigitIn 10 x || x == '_')) = true := by decide
  refine reach_digits hu.1 (fun x hx => isDigitIn_ten (hu.2 x hx)) (any_eq_false_of_blank ?_ hr)
  exact fun x hx => by simpa using List.all_eq_true.1 hall x (mem_blankChars hx)

theorem reach_digitsIn_seq_eq_none {s : Shape} {prev : Option Char} {rest : List Char}
    (hn : s.nullable = false) (hall : blankChars.all (!s.starts ·) = true)
    (hu : IsRun Char.isDigit u) (hr : rest.head?.any isBlank = true) :
    (digitsIn 10 ++ s).reach prev (u ++ rest) = none := by
  rw [reach_seq (reach_digitsIn hu hr)]
  cases rest with
  | nil => simp at hr
  | cons b rest =>
    have hs : s.starts b = false := by
      simpa using List.all_eq_true.1 hall b (mem_blankChars hr)
    rw [reach_eq_none hn hs]
    rfl

theorem reach_radixMark_of_digits {mark : Char} {prev : Option Char} {rest : List Char}
    (hall : (digitChars ++ blankChars).all (fun x => !(x == mark || x == mark.toUpper)) = true)
    (hu : IsRun Char.isDigit u) (hr : rest.head?.any isBlank = true) :
    (radixMark mark).reach prev (u ++ rest) = none := by
  have hmark : ∀ x ∈ digitChars ++ blankChars, (x == mark || x == mark.toUpper) = false :=
    fun x hx => by simpa using List.all_eq_true.1 hall x hx
  obtain ⟨hne, hdigit⟩ := hu
  obtain ⟨d, t, rfl⟩ := List.exists_cons_of_ne_nil hne
  refine reach_radixMark_eq_none ?_
  cases t with
  | nil =>
    refine any_eq_false_of_blank (fun x hx => hmark x ?_) hr
    exact List.mem_append_right _ (mem_blankChars hx)
  | cons y t => exact hmark y (List.mem_append_left _ (mem_digitChars (hdigit y (by simp))))

theorem match?_number_eq_none {c : Cursor} {rest : List Char} (hu : IsRun Char.isDigit u)
    (hc : c.ahead = u ++ rest) (hr : rest.head?.any isBlank = true) :
    ∀ q ∈ numbers.take 7, q.match? c = none := by
  have hx : (radixMark 'x').reach c.previous? c.ahead = none := by
    rw [hc]
    exact reach_radixMark_of_digits (by decide) hu hr
  have hb : (radixMark 'b').reach c.previous? c.ahead = none := by
    rw [hc]
    exact reach_radixMark_of_digits (by decide) hu hr
  have ho : (radixMark 'o').reach c.previous? c.ahead = none := by
    rw [hc]
    exact reach_radixMark_of_digits (by decide) hu hr
  have hexponent : (digitsIn 10 ++ exponent 'e').reach c.previous? c.ahead = none := by
    rw [hc]
    exact reach_digitsIn_seq_eq_none rfl (by decide) hu hr
  have hdot : (digitsIn 10 ++ char '.').reach c.previous? c.ahead = none := by
    rw [hc]
    exact reach_digitsIn_seq_eq_none rfl (by decide) hu hr
  refine List.forall_iff_forall_mem.1 ⟨?_, ?_, ?_, ?_, ?_, ?_, ?_⟩
  · exact match?_token_eq_none (reach_seq_eq_none (reach_seq_eq_none hx))
  · have hdigits := reach_seq_eq_none (b := digitsIn 16) hx
    have hdot := reach_seq_eq_none (b := char '.') hdigits
    exact match?_token_eq_none (reach_seq_eq_none (reach_seq_eq_none hdot))
  · exact match?_token_eq_none hexponent
  · exact match?_token_eq_none (reach_seq_eq_none (reach_seq_eq_none hdot))
  · exact match?_token_eq_none (reach_seq_eq_none hb)
  · exact match?_token_eq_none (reach_seq_eq_none ho)
  · exact match?_token_eq_none (reach_seq_eq_none hx)

theorem match?_operator_eq_none {c : Cursor} {cs : List Char} (hc : c.ahead = x :: cs)
    (hx : isOperatorChar x = false) : (emits .operator operator).match? c = none := by
  refine match?_token_of_zero ?_
  rw [hc]
  simp [operator, reach, runLength, hx]

namespace Passes

theorem blanks (hm : S.top.ReadsExpressions) (hu : IsRun isBlank u) :
    Passes S.above S u S fun rest => rest.head?.any isBlank = false := by
  obtain ⟨hne, hall⟩ := hu
  obtain ⟨x, t, rfl⟩ := List.exists_cons_of_ne_nil hne
  have hfirst (c : Cursor) (rest : List Char) (hc : c.ahead = x :: t ++ rest)
      (_ : rest.head?.any isBlank = false) : first? c S.top.rules = first? c expression :=
    first?_of_class [] hm (fun x => mem_blankChars) rfl (by decide) hc
      (hall x List.mem_cons_self)
  exact of_token (a := .stay) (by decide) hne List.suffix_rfl hfirst
    fun prev rest hr => reach_many1 hne hall hr

theorem name (hm : S.top.ReadsExpressions) (hu : IsName u) :
    Passes S.above S u S fun rest => rest.head?.any isBlank = true := by
  obtain ⟨x, t, hx, ht, rfl⟩ := id hu
  have hfirst (c : Cursor) (rest : List Char) (hc : c.ahead = x :: t ++ rest)
      (_ : rest.head?.any isBlank = true) :
      first? c S.top.rules = first? c (emits .name lowerName :: expression.drop 4) :=
    first?_of_class [whitespace, blockComment, interpolation] hm
      (fun x => mem_lowerChars) rfl (by decide) hc hx
  exact of_token (a := .stay) (by decide) (List.cons_ne_nil x t) List.suffix_rfl hfirst
    fun _ _ hr => reach_lowerName hu (any_isIdent_of_blank hr)

theorem number (hm : S.top.ReadsExpressions) (hu : IsRun Char.isDigit u) :
    Passes S.above S u S fun rest => rest.head?.any isBlank = true := by
  obtain ⟨x, t, rfl⟩ := List.exists_cons_of_ne_nil hu.1
  have hfirst (c : Cursor) (rest : List Char) (hc : c.ahead = x :: t ++ rest)
      (hr : rest.head?.any isBlank = true) : first? c S.top.rules =
        first? c (emits (.number .integer) (digitsIn 10) :: expression.drop 14) :=
    (first?_of_class ([whitespace, blockComment, interpolation] ++ names) hm
      (fun x => mem_digitChars) rfl (by decide) hc
      (hu.2 x List.mem_cons_self)).trans (first?_append (match?_number_eq_none hu hc hr))
  exact of_token (a := .stay) (by decide) hu.1 List.suffix_rfl hfirst
    fun prev rest hr => reach_digitsIn hu hr

/-- A text that no rule before a certain one can start with, by its first character. -/
theorem of_symbol (hm : S.top.ReadsExpressions) (hx : x ∉ ['(', ')', ',', ']', '}'])
    (hk : kind ≠ .error) (hf : floor <:+ (a.apply S).above)
    (hfilter : expression.filter (·.starts x) = token kind shape a :: rs)
    (hreach : ∀ prev rest, f rest → shape.reach prev (x :: u ++ rest) = some (u.length + 1)) :
    Passes floor S (x :: u) (a.apply S) f := by
  have hfirst (c : Cursor) (rest : List Char) (hc : c.ahead = x :: u ++ rest) (_ : f rest) :
      first? c S.top.rules = first? c (token kind shape a :: rs) := by
    rw [hm.first?_rules hc hx, ← hfilter, first?_filter hc]
  exact of_token hk (List.cons_ne_nil x u) hf hfirst hreach

theorem dot (hm : S.top.ReadsExpressions) :
    Passes S.above S ['.'] (S.push .pattern) fun rest => rest.head?.any startsSelector = true := by
  refine of_symbol (a := .push .pattern) hm (by decide) (by decide) (List.suffix_cons _ _) rfl
    fun prev rest hr => ?_
  refine (reach_seq (t := ['.']) reach_char).trans ?_
  simp [reach, hr]

theorem tripleQuote (hm : S.top.ReadsExpressions) :
    Passes S.above S ['"', '"', '"'] (S.push .multilineString) fun _ => True :=
  of_symbol (a := .push .multilineString) hm (by decide) (by decide) (List.suffix_cons _ _) rfl
    fun _ _ _ => reach_literal

theorem commentOpen (hm : S.top.ReadsExpressions) :
    Passes S.above S ['{', '-'] (S.push .comment) fun _ => True :=
  of_symbol (a := .push .comment) hm (by decide) (by decide) (List.suffix_cons _ _) rfl
    fun _ _ _ => reach_literal

theorem quote (hm : S.top.ReadsExpressions) :
    Passes S.above S ['"'] (S.push .string) fun rest => ¬ ['"', '"'] <+: rest := by
  have hfirst (c : Cursor) (rest : List Char) (hc : c.ahead = ['"'] ++ rest)
      (hr : ¬ ['"', '"'] <+: rest) : first? c S.top.rules =
        first? c (opens .string (text "\"") .string :: [emits .operator operator]) := by
    have htriple : (text "\"\"\"").reach c.previous? c.ahead = none := by
      refine if_neg ?_
      rw [hc, List.isPrefixOf_iff_prefix]
      exact fun h => hr (List.cons_prefix_cons.1 h).2
    rw [hm.first?_rules hc (by decide), ← first?_filter hc]
    exact first?_cons_of_none (match?_token_eq_none htriple)
  exact of_token (a := .push .string) (by decide) (List.cons_ne_nil _ _)
    (List.suffix_cons _ _) hfirst fun _ _ _ => reach_literal

/-- A bracket with a blank behind it, where only what is made of both brackets and the operators
come before it. -/
theorem bracket {y : Char} {kind₂ : TokenKind} {m₂ : Mode} {a₂ : Action}
    (hx : isOperatorChar x = false) (hy : isBlank y = false)
    (hfilter : S.top.rules.filter (·.starts x) = token kind₂ (literal [x, y]) a₂ ::
      emits .operator operator :: opens .punctuation (char x) m₂ :: rs) :
    Passes S.above S [x] (S.push m₂) fun rest => rest.head?.any isBlank = true := by
  have hfirst (c : Cursor) (rest : List Char) (hc : c.ahead = [x] ++ rest)
      (hr : rest.head?.any isBlank = true) :
      first? c S.top.rules = first? c (opens .punctuation (char x) m₂ :: rs) := by
    have hpair : (literal [x, y]).reach c.previous? c.ahead = none := by
      rw [hc]
      refine reach_pair_eq_none (any_eq_false_of_blank ?_ hr)
      intro z hz
      refine beq_false_of_ne ?_
      rintro rfl
      exact absurd hz (by simp [hy])
    rw [← first?_filter hc, hfilter, first?_cons_of_none (match?_token_eq_none hpair)]
    exact first?_cons_of_none (match?_operator_eq_none hc hx)
  exact of_token (a := .push m₂) (by decide) (List.cons_ne_nil _ _) (List.suffix_cons _ _)
    hfirst fun _ _ _ => reach_char

theorem opener (k : Enclosure) (hm : S.top.ReadsExpressions) :
    Passes S.above S k.opener (S.push k.mode) fun rest => rest.head?.any isBlank = true := by
  have hf : S.above <:+ (S.push k.mode).above := List.suffix_cons _ _
  cases k with
  | interpolation =>
    exact of_symbol (a := .push .interpolation) hm (by decide) (by decide) hf rfl
      fun _ _ _ => reach_literal
  | brackets =>
    have hfilter : S.top.rules.filter (·.starts '[') = emits .keywordType (text "[]") ::
        emits .operator operator :: opens .punctuation (char '[') .brackets :: [punctuation] := by
      rcases hm with h | h | h | h | h <;> rw [h] <;> rfl
    exact bracket (by decide) (by decide) hfilter
  | braces =>
    have hfilter : S.top.rules.filter (·.starts '{') = blockComment ::
        emits .operator operator :: opens .punctuation (char '{') .braces :: [punctuation] := by
      rcases hm with h | h | h | h | h <;> rw [h] <;> rfl
    exact bracket (by decide) (by decide) hfilter
  | parens =>
    by_cases hv : S.top = .patternValue
    · exact of_filter (a := .push .parens) hv (by decide) hf rfl
        fun _ _ _ => reach_char
    · have hfilter : S.top.rules.filter (·.starts '(') = emits .nameBuiltin (text "()") ::
          emits .operator operator :: opens .punctuation (char '(') .parens :: [punctuation] := by
        rcases hm with h | h | h | h | h
        · rw [h]; rfl
        · rw [h]; rfl
        · rw [h]; rfl
        · rw [h]; rfl
        · exact absurd h hv
      exact bracket (by decide) (by decide) hfilter

theorem pops (hk : kind ≠ .error)
    (hfilter : m.rules.filter (·.starts x) = closes kind shape :: rs)
    (hreach : ∀ prev rest, f rest → shape.reach prev (x :: u ++ rest) = some (u.length + 1)) :
    Passes S.above (S.push m) (x :: u) S f :=
  of_filter (a := .pop) rfl hk List.suffix_rfl hfilter hreach

theorem closer (k : Enclosure) : Passes S.above (S.push k.mode) [k.closer] S fun _ => True := by
  cases k with
  | parens => exact pops (by decide) rfl fun _ _ _ => reach_char
  | brackets => exact pops (by decide) rfl fun _ _ _ => reach_char
  | braces => exact pops (by decide) rfl fun _ _ _ => reach_char
  | interpolation => exact pops (by decide) rfl fun _ _ _ => reach_char

theorem reach_text {p : Char → Bool} {prev : Option Char} {rest : List Char} (hne : u ≠ [])
    (hu : ∀ x ∈ u, p x = false) (hr : rest.head?.any p = true) :
    (many1 (!p ·)).reach prev (u ++ rest) = some u.length := by
  refine reach_many1 hne (by simpa using hu) ?_
  cases rest with
  | nil => simp at hr
  | cons x rest => simpa using hr

theorem commentText (hm : S.top = .comment) (hne : u ≠ []) (hu : ∀ x ∈ u, isCommentMark x = false) :
    Passes S.above S u S fun rest => rest.head?.any isCommentMark = true := by
  have hfirst (c : Cursor) (rest : List Char) (_ : c.ahead = u ++ rest)
      (_ : rest.head?.any isCommentMark = true) : first? c S.top.rules =
        first? c (emits .commentMultiline Lexeme.commentText :: Mode.comment.rules.tail) := by
    rw [hm]
    rfl
  exact of_token (a := .stay) (by decide) hne List.suffix_rfl hfirst
    fun _ _ hr => reach_text hne hu hr

theorem commentNested (hm : S.top = .comment) :
    Passes S.above S ['{', '-'] (S.push .comment) fun _ => True :=
  of_filter (a := .push .comment) hm (by decide) (List.suffix_cons _ _) rfl
    fun _ _ _ => reach_literal

theorem commentClose : Passes S.above (S.push .comment) ['-', '}'] S fun _ => True :=
  pops (by decide) rfl fun _ _ _ => reach_literal

theorem stringText (hm : S.top.ReadsStrings) (hne : u ≠ []) (hu : ∀ x ∈ u, isStringMark x = false) :
    Passes S.above S u S fun rest => rest.head?.any isStringMark = true := by
  rcases hm with h | h
  · have hfirst (c : Cursor) (rest : List Char) (_ : c.ahead = u ++ rest)
        (_ : rest.head?.any isStringMark = true) : first? c S.top.rules =
          first? c (emits .string Lexeme.stringText :: Mode.string.rules.drop 1) := by
      rw [h]
      rfl
    exact of_token (a := .stay) (by decide) hne List.suffix_rfl hfirst
      fun _ _ hr => reach_text hne hu hr
  · have hfirst (c : Cursor) (rest : List Char) (hc : c.ahead = u ++ rest)
        (_ : rest.head?.any isStringMark = true) : first? c S.top.rules =
          first? c (emits .string Lexeme.stringText :: Mode.multilineString.rules.drop 2) := by
      obtain ⟨x, t, rfl⟩ := List.exists_cons_of_ne_nil hne
      have hx : (text "\"\"\"").starts x = false := by
        refine beq_false_of_ne fun e => ?_
        obtain rfl := Option.some.inj e
        exact absurd (hu '"' List.mem_cons_self) (by decide)
      rw [h]
      exact first?_cons_of_none (match?_eq_none_of_starts hc hx)
    exact of_token (a := .stay) (by decide) hne List.suffix_rfl hfirst
      fun _ _ hr => reach_text hne hu hr

theorem stringInterpolation (hm : S.top.ReadsStrings) :
    Passes S.above S ['#', '{'] (S.push .interpolation) fun _ => True := by
  rcases hm with h | h
  · exact of_filter (a := .push .interpolation) h (by decide) (List.suffix_cons _ _) rfl
      fun _ _ _ => reach_literal
  · exact of_filter (a := .push .interpolation) h (by decide) (List.suffix_cons _ _) rfl
      fun _ _ _ => reach_literal

theorem backslash (hm : S.top.ReadsStrings) :
    Passes S.above S ['\\'] (S.push .escape) fun _ => True := by
  rcases hm with h | h
  · exact of_filter (a := .push .escape) h (by decide) (List.suffix_cons _ _) rfl
      fun _ _ _ => reach_char
  · exact of_filter (a := .push .escape) h (by decide) (List.suffix_cons _ _) rfl
      fun _ _ _ => reach_char

theorem namedEscape (hx : x ∈ escapeSigns) :
    Passes S.above (S.push .escape) [x] S fun _ => True := by
  have hsign : escapeSigns.all ("abfnrtv\"'&\\#".toList.contains ·) = true := by decide
  have hfirst (c : Cursor) (rest : List Char) (_ : c.ahead = [x] ++ rest) (_ : True) :
      first? c (S.push .escape).top.rules =
        first? c (closes .stringEscape Lexeme.namedEscape :: Mode.escape.rules.tail) := rfl
  refine of_token (a := .pop) (by decide) (List.cons_ne_nil _ _) List.suffix_rfl hfirst
    fun prev rest _ => ?_
  exact if_pos (List.all_eq_true.1 hsign x hx)

theorem stringClose : Passes S.above (S.push .string) ['"'] S fun _ => True :=
  pops (by decide) rfl fun _ _ _ => reach_char

theorem multilineClose :
    Passes S.above (S.push .multilineString) ['"', '"', '"'] S fun _ => True :=
  pops (by decide) rfl fun _ _ _ => reach_literal

theorem fieldSelected (hu : IsName u) :
    Passes S.above (S.push .pattern) u S fun rest => rest.head?.any isIdent = false := by
  obtain ⟨x, t, hx, ht, rfl⟩ := hu
  have halpha : (x == '_' || isAlphabetic x) = true := by
    simp [isAlphabetic_of_isLowercase (isLowercase_of_isLower hx)]
  have hparen : (char '(').starts x = false := by
    have hall : lowerChars.all (!(char '(').starts ·) = true := by decide
    simpa using List.all_eq_true.1 hall x (mem_lowerChars hx)
  have hfirst (c : Cursor) (rest : List Char) (hc : c.ahead = x :: t ++ rest)
      (_ : rest.head?.any isIdent = false) : first? c (S.push .pattern).top.rules =
        first? c (closes .name fieldSelector :: Mode.pattern.rules.drop 2) :=
    first?_cons_of_none (match?_eq_none_of_starts hc hparen)
  exact of_token (a := .pop) (by decide) (List.cons_ne_nil x t) List.suffix_rfl hfirst
    fun _ _ hr => reach_one_many halpha (fun y hy => isIdent_of_isAlphanum (ht y hy)) hr

theorem indexSelected (hu : IsRun Char.isDigit u) :
    Passes S.above (S.push .pattern) u S fun rest => rest.head?.any isIdent = false := by
  obtain ⟨x, t, rfl⟩ := List.exists_cons_of_ne_nil hu.1
  have hx : x.isDigit = true := hu.2 x List.mem_cons_self
  have hall : digitChars.all (fun y => (Mode.pattern.rules.take 2).all (!·.starts y)) = true := by
    decide
  have hpre : ∀ q ∈ Mode.pattern.rules.take 2, q.starts x = false := by
    simpa using List.all_eq_true.1 hall x (mem_digitChars hx)
  have hfirst (c : Cursor) (rest : List Char) (hc : c.ahead = x :: t ++ rest)
      (_ : rest.head?.any isIdent = false) : first? c (S.push .pattern).top.rules =
        first? c (closes (.number .integer) indexSelector :: Mode.pattern.rules.drop 3) :=
    first?_append fun q hq => match?_eq_none_of_starts hc (hpre q hq)
  refine of_token (a := .pop) (by decide) (List.cons_ne_nil x t) List.suffix_rfl hfirst
    fun _ rest hr => reach_many1 hu.1 hu.2 ?_
  cases rest with
  | nil => rfl
  | cons y rest =>
    by_contra hy
    rw [List.head?_cons, Option.any_some, Bool.not_eq_false] at hy
    have hi : isIdent y = true := isIdent_of_isAlphanum (isAlphanum_of_isDigit hy)
    exact absurd hr (by simp [hi])

theorem selector (hu : IsSelector u) :
    Passes S.above (S.push .pattern) u S fun rest => rest.head?.any isIdent = false :=
  hu.elim fieldSelected indexSelected

theorem groupOpen : Passes S.above (S.push .pattern) ['('] (S.push .patternGroup) fun _ => True :=
  of_filter (m := .pattern) (a := .replace .patternGroup) rfl (by decide)
    (List.suffix_cons _ _) rfl fun _ _ _ => reach_char

theorem groupBlanks (hm : S.top = .patternGroup) (hu : ∀ x ∈ u, isBlank x = true) :
    Passes S.above S u S fun rest => rest.head?.any isBlank = false := by
  by_cases hne : u = []
  · rw [hne]
    exact nil
  · have hfirst (c : Cursor) (rest : List Char) (_ : c.ahead = u ++ rest)
        (_ : rest.head?.any isBlank = false) : first? c S.top.rules =
          first? c (whitespace :: Mode.patternGroup.rules.tail) := by
      rw [hm]
      rfl
    exact of_token (a := .stay) (by decide) hne List.suffix_rfl hfirst
      fun prev rest hr => reach_many1 hne hu hr

theorem groupDot (hm : S.top = .patternGroup) :
    Passes S.above S ['.'] (S.push .pattern) fun _ => True :=
  of_filter (a := .push .pattern) hm (by decide) (List.suffix_cons _ _) rfl
    fun _ _ _ => reach_char

theorem assignment (hm : S.top = .patternGroup) :
    Passes S.above S ['='] (S.push .patternValue) fun _ => True :=
  of_filter (a := .push .patternValue) hm (by decide) (List.suffix_cons _ _) rfl
    fun _ _ _ => reach_char

theorem comma (hm : S.top = .patternGroup) : Passes S.above S [','] S fun _ => True :=
  of_filter (a := .stay) hm (by decide) List.suffix_rfl rfl fun _ _ _ => reach_char

theorem groupClose : Passes S.above (S.push .patternGroup) [')'] S fun _ => True :=
  pops (by decide) rfl fun _ _ _ => reach_char

theorem leave (hx : x = ',' ∨ x = ')') (hf : floor <:+ S.above)
    (h : Passes floor S (x :: u) S' f) : Passes floor (S.push .patternValue) (x :: u) S' f := by
  intro c rest hc hr
  obtain ⟨ts, hts⟩ := h c rest hc hr
  have hchosen : Scan.chosen? ⟨c, S.push .patternValue⟩ =
      some (leaveWhen fun next => next == some ',' || next == some ')', []) := by
    rw [Scan.chosen?_eq_first?]
    rcases hx with rfl | rfl
    · exact (first?_filter hc).symm.trans (first?_cons_of_some (by simp [match?, Cursor.peek?, hc]))
    · exact (first?_filter hc).symm.trans (first?_cons_of_some (by simp [match?, Cursor.peek?, hc]))
  refine ⟨ts, hts.leave hchosen rfl hf ?_⟩
  rintro rfl
  have hlen := congrArg List.length hts.ahead_eq
  simp [hc] at hlen
  omega

end Passes
end

end ModalLexer
