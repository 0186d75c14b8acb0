import ModalLexer.Proofs.Greedy
import ModalLexer.Proofs.OperatorRun

/-!
Interpolations that open within an expression. The sign that opens one begins with an operator
symbol, and its rule comes before that of operators, so that it is seen wherever a token begins.
Behind other operator symbols no token begins, and there it is the only thing that is missed.
-/

namespace ModalLexer

open Shape Lexeme Rule

def Shape.omits (x : Char) : Shape → Bool
  | literal s => !s.contains x
  | one p | many p => !p x
  | run _ => false
  | digits p => !p x && x != '_'
  | notAfter _ | notBefore _ | before _ => true
  | seq a b | alt a b => a.omits x && b.omits x
  | opt a => a.omits x

theorem Shape.within_of_omits {s : Shape} {x : Char} (h : s.omits x = true) :
    s.Within (· != x) := by
  have hclass {p : Char → Bool} {y : Char} (hx : (!p x) = true) (hy : p y = true) :
      (y != x) = true := by
    refine bne_iff_ne.2 ?_
    rintro rfl
    simp [hy] at hx
  induction s with
  | literal s =>
    rintro t rfl y hy
    refine bne_iff_ne.2 ?_
    rintro rfl
    exact absurd h (by simpa [omits] using hy)
  | one p =>
    rintro t ⟨z, hz, rfl⟩ y hy
    rw [List.mem_singleton.1 hy]
    exact hclass h hz
  | many p => exact fun t ht y hy => hclass h (ht y hy)
  | run p => cases h
  | digits p =>
    obtain ⟨hx, hline⟩ := Bool.and_eq_true_iff.1 h
    intro t ht y hy
    obtain hp | rfl := DigitRun.mem ht y hy
    · exact hclass hx hp
    · exact bne_iff_ne.2 (bne_iff_ne.1 hline).symm
  | notAfter p => rintro t rfl y ⟨⟩
  | notBefore p => rintro t rfl y ⟨⟩
  | before p => rintro t rfl y ⟨⟩
  | seq a b iha ihb =>
    obtain ⟨ha, hb⟩ := Bool.and_eq_true_iff.1 h
    rintro t ⟨u, v, hu, hv, rfl⟩ y hy
    exact (List.mem_append.1 hy).elim (iha ha hu y) (ihb hb hv y)
  | alt a b iha ihb =>
    obtain ⟨ha, hb⟩ := Bool.and_eq_true_iff.1 h
    rintro t (ht | ht) y hy
    · exact iha ha ht y hy
    · exact ihb hb ht y hy
  | opt a ih =>
    rintro t (rfl | ht) y hy
    · cases hy
    · exact ih h ht y hy

theorem Rule.head?_drop_ne_of_omits {r : Rule} {c : Cursor} {ps : List Piece} {x : Char} {i : Nat}
    (hr : r.shape.omits x = true) (h : r.match? c = some ps) (hi : i < Piece.total ps) :
    (c.ahead.drop i).head? ≠ some x := by
  intro hx
  have hwithin := within_of_omits hr (spells_of_reach (reach_of_match? h))
  have hmem : x ∈ c.ahead.take (Piece.total ps) := by
    rw [List.head?_drop] at hx
    obtain ⟨hlt, hget⟩ := List.getElem?_eq_some_iff.1 hx
    exact List.mem_take_iff_getElem.2 ⟨i, by omega, hget⟩
  exact absurd (hwithin x hmem) (by simp)

/-- No operator symbol is part of a selector, so the dots before one stay in the operator. -/
theorem Lexeme.inOperator_append {u cs : List Char} (hu : ∀ y ∈ u, isOperatorChar y = true) :
    InOperator (u ++ '#' :: cs) := by
  have hall : operatorChars.all (!startsSelector ·) = true := by decide +kernel
  have hstarts {y : Char} (hy : isOperatorChar y = true) : startsSelector y = false := by
    simpa using List.all_eq_true.1 hall y (List.contains_iff_mem.1 hy)
  have hsharp : isOperatorChar '#' = true := by decide
  cases u with
  | nil => exact inOperator_cons_iff.2 (by simp [hsharp])
  | cons x u =>
    obtain ⟨hx, hu⟩ := List.forall_mem_cons.1 hu
    have hnext : (u ++ '#' :: cs).head?.any startsSelector = false := by
      cases u with
      | nil => exact hstarts hsharp
      | cons y u => exact hstarts (hu y List.mem_cons_self)
    rw [List.cons_append, inOperator_cons_iff, hx, hnext, Bool.and_false]
    rfl

theorem not_prefix_of_isRun {u cs : List Char} (hu : IsRun isOperatorChar u)
    (h : u ++ ['#', '{'] <+: cs) : ¬['#', '{'] <+: cs := by
  rintro ⟨rest, rfl⟩
  have hbrace : isOperatorChar '{' = false := by decide
  obtain ⟨x, t, rfl⟩ := List.exists_cons_of_ne_nil hu.1
  have hbehind : t ++ ['#', '{'] <+: '{' :: rest := (List.cons_prefix_cons.1 h).2
  cases t with
  | nil => simp at hbehind
  | cons y t =>
    obtain rfl : y = '{' := (List.cons_prefix_cons.1 hbehind).1
    exact absurd (hu.2 '{' (by simp)) (by simp [hbrace])

theorem Lexeme.OperatorRun.exists_isRun {cs : List Char} {n i : Nat} (h : OperatorRun cs n)
    (hi : i < n) (hpos : i ≠ 0) (hsign : ['#', '{'] <+: cs.drop i) :
    ∃ u, IsRun isOperatorChar u ∧ u ++ ['#', '{'] <+: cs := by
  obtain ⟨rest, hrest⟩ := hsign
  have hlt : i < cs.length := lt_length_of_drop_eq_cons hrest.symm
  refine ⟨cs.take i, ⟨?_, fun y hy => ?_⟩, rest, ?_⟩
  · exact List.ne_nil_of_length_pos (by rw [List.length_take]; omega)
  · obtain ⟨j, hj, rfl⟩ := List.mem_take_iff_getElem.1 hy
    have hsymbol := (h.within j (by omega)).1
    rw [List.head?_drop, List.getElem?_eq_getElem (by omega)] at hsymbol
    exact hsymbol
  · rw [List.append_assoc, hrest, List.take_append_drop]

namespace Rule

variable {c : Cursor} {m : Mode}

theorem first?_interpolation (hm : m.ReadsExpressions) (h : ['#', '{'] <+: c.ahead) :
    first? c m.rules = some (interpolation, [(.stringInterpol, 2)]) := by
  obtain ⟨rest, hc⟩ := id h
  have hfilter : expression.filter (·.starts '#') = [interpolation, operators] := rfl
  rw [hm.first?_rules hc.symm (by decide), ← first?_filter hc.symm, hfilter]
  exact first?_cons_of_some (match?_literal h (by decide))

theorem filter_omits (hm : m.ReadsExpressions) :
    m.rules.filter (!·.shape.omits '#') = [interpolation, operators] := by
  rcases hm with rfl | rfl | rfl | rfl | rfl <;> rfl

/-- Where an operator stands that is no selector's dot and opens no interpolation, its rule comes
first. -/
theorem first?_operator (hm : m.ReadsExpressions) (hin : InOperator c.ahead)
    (h : ¬['#', '{'] <+: c.ahead) :
    ∃ n, first? c m.rules = some (operators, [(.operator, n)]) ∧ OperatorRun c.ahead n := by
  obtain ⟨x, hx, hsymbol⟩ := (Option.any_eq_true _ _).1 hin.1
  obtain ⟨cs, hc⟩ := List.head?_eq_some_iff.1 hx
  have hmem : x ∈ operatorChars := List.contains_iff_mem.1 hsymbol
  have hclose : operatorChars.all (· ∉ ['(', ')', ',', ']', '}']) = true := by decide
  have hblank : ∀ r ∈ [whitespace, blockComment], r.clears operatorChars = true := by decide
  have hnames : ∀ r ∈ names ++ numbers, r.clears operatorChars = true := by decide
  have hstrings : ∀ r ∈ signs.tail, r.clears operatorChars = true := by decide
  have hnone {rs : List Rule} (hrs : ∀ r ∈ rs, r.clears operatorChars = true) :
      ∀ r ∈ rs, r.match? c = none := fun r hr => match?_eq_none_of_clears hc hmem (hrs r hr)
  have hopen : interpolation.match? c = none := match?_literal_eq_none h
  have hdot : (opens .operator selectorDot .pattern).match? c = none := by
    cases hmatch : (opens .operator selectorDot .pattern).match? c with
    | none => rfl
    | some ps =>
      obtain ⟨n, hn, -⟩ := exists_of_match?_token hmatch
      exact absurd (selectorDot_of_reach hn) hin.2
  have hexpression : expression = [whitespace, blockComment] ++ ([interpolation] ++
      ((names ++ numbers) ++ ([opens .operator selectorDot .pattern] ++
        (signs.tail ++ (operators :: openers))))) := rfl
  obtain ⟨n, hreach⟩ : ∃ n, operator.reach c.previous? c.ahead = some n := ⟨_, rfl⟩
  have hpos : 0 < n := by
    refine Nat.pos_of_ne_zero ?_
    rintro rfl
    exact (spec_of_reach_operator hreach).2 hin
  have hmatch : operators.match? c = some [(.operator, n)] := match?_token hreach hpos.ne'
  refine ⟨n, ?_, operatorRun_of_reach hreach hpos⟩
  rw [hm.first?_rules hc (of_decide_eq_true (List.all_eq_true.1 hclose x hmem)), hexpression,
    first?_append (hnone hblank), first?_append (List.forall_mem_singleton.2 hopen),
    first?_append (hnone hnames), first?_append (List.forall_mem_singleton.2 hdot),
    first?_append (hnone hstrings)]
  exact first?_cons_of_some hmatch

end Rule

theorem Cursor.lt_total_of_spans {c : Cursor} {ps : List Piece} {t : Token} {i : Nat}
    (ht : t ∈ c.tokens ps) (hi : i < c.ahead.length) (h : t.Spans (c.skip i)) :
    i < Piece.total ps := by
  have hstop : t.span.stop ≤ (c.skip (Piece.total ps)).position := by
    clear h hi
    fun_induction tokens c ps with
    | case1 => cases ht
    | case2 c k ps ih =>
      rw [Piece.total_cons, Nat.zero_add]
      exact ih ht
    | case3 c k n ps ih =>
      rw [Piece.total_cons, Cursor.skip_add]
      obtain rfl | ht := List.mem_cons.1 ht
      · rw [Cursor.position_skip (c.skip (n + 1))]
        exact Nat.le_add_right _ _
      · exact ih ht
  exact (position_skip_lt_iff hi).1 (h.2.trans_le hstop)

namespace Scan

variable {resync : Bool} {s : Scan}

def EntersInterpolation (resync : Bool) (s : Scan) : Prop :=
  s.Enters resync .stringInterpol ['#', '{'] .interpolation

/-- Wherever the sign of an interpolation stands in the text of a step, the step opens it. -/
structure OpensInterpolations (resync : Bool) (s : Scan) : Prop where
  apart : ∀ t ∈ (s.step resync).tokens, t.kind = .operator → ∀ i, t.Spans (s.cursor.skip i) →
    ¬['#', '{'] <+: s.cursor.ahead.drop i
  opens : ∀ t ∈ (s.step resync).tokens, ∀ i, t.Spans (s.cursor.skip i) →
    ['#', '{'] <+: s.cursor.ahead.drop i → i = 0 ∧ s.EntersInterpolation resync
  enters : ['#', '{'] <+: s.cursor.ahead → s.EntersInterpolation resync

theorem entersInterpolation (hm : s.modes.top.ReadsExpressions)
    (h : ['#', '{'] <+: s.cursor.ahead) : s.EntersInterpolation resync :=
  enters_of_first? (first?_interpolation hm h) Nat.two_pos h

/-- Among the characters of a step, the sign stands first or within an operator. -/
theorem interpolation_cases (hm : s.modes.top.ReadsExpressions) {i : Nat}
    (hi : i < Piece.total (s.move resync).pieces) (h : ['#', '{'] <+: s.cursor.ahead.drop i) :
    ['#', '{'] <+: s.cursor.ahead ∨ ∃ n, OperatorRun s.cursor.ahead n ∧ i < n := by
  have hsharp : (s.cursor.ahead.drop i).head? = some '#' := by
    obtain ⟨rest, e⟩ := h
    rw [← e]
    rfl
  have hlone (hone : i < 1) : ['#', '{'] <+: s.cursor.ahead := by
    rwa [Nat.lt_one_iff.1 hone, List.drop_zero] at h
  obtain ⟨r, ps, hr, -, hmatch, e⟩ | ⟨-, -, -, -, e⟩ | ⟨-, -, -, e⟩ | ⟨-, -, e⟩ :=
    move_cases resync s
  · rw [e] at hi
    cases homits : r.shape.omits '#' with
    | true => exact absurd hsharp (head?_drop_ne_of_omits homits hmatch hi)
    | false =>
      have htwo : r ∈ s.modes.top.rules.filter (!·.shape.omits '#') :=
        List.mem_filter.2 ⟨hr, by simp [homits]⟩
      rw [filter_omits hm] at htwo
      obtain rfl | htwo := List.mem_cons.1 htwo
      · obtain ⟨n, hn, -⟩ := exists_of_match?_token hmatch
        exact .inl (prefix_of_reach_literal hn).1
      · obtain rfl := List.mem_singleton.1 htwo
        obtain ⟨n, hn, hpos, rfl⟩ := exists_of_match?_token hmatch
        exact .inr ⟨n, operatorRun_of_reach hn hpos, hi⟩
  · rw [e] at hi
    cases hi
  · rw [e] at hi
    exact .inl (hlone hi)
  · rw [e] at hi
    exact .inl (hlone hi)

/-- Behind operator symbols, the sign is lost in the operator. -/
theorem not_opensInterpolations_of_run (hm : s.modes.top.ReadsExpressions) {u : List Char}
    (hu : IsRun isOperatorChar u) (h : u ++ ['#', '{'] <+: s.cursor.ahead) :
    ¬s.OpensInterpolations resync := by
  intro hopens
  have hfirst := not_prefix_of_isRun hu h
  obtain ⟨rest, hrest⟩ := h
  have hc : s.cursor.ahead = u ++ '#' :: '{' :: rest := by simp [← hrest]
  have hin : ∀ i ≤ u.length, InOperator (s.cursor.ahead.drop i) := by
    intro i hi
    rw [hc, List.drop_append_of_le_length hi]
    exact inOperator_append fun y hy => hu.2 y (List.mem_of_mem_drop hy)
  obtain ⟨n, hoperator, hrun⟩ := first?_operator hm (hin 0 (Nat.zero_le _)) hfirst
  have hlong : u.length < n := by
    by_contra hle
    exact hrun.ends (hin n (Nat.le_of_not_lt hle))
  have hmem : s.cursor.token .operator n ∈ (s.step resync).tokens := by
    rw [step_of_first? resync hoperator rfl, take, Cursor.tokens_of_pos hrun.pos]
    exact List.mem_singleton.2 rfl
  have hlt : u.length < s.cursor.ahead.length := by simp [hc]
  refine hopens.apart _ hmem rfl u.length ((Cursor.spans_token_iff hlt).2 hlong) ?_
  rw [hc, List.drop_left]
  exact ⟨rest, rfl⟩

theorem eq_zero_of_sign (hm : s.modes.top.ReadsExpressions)
    (hfirst : ['#', '{'] <+: s.cursor.ahead) {i : Nat}
    (hi : i < Piece.total (s.move resync).pieces)
    (h : ['#', '{'] <+: s.cursor.ahead.drop i) : i = 0 := by
  rw [move_of_first? resync (first?_interpolation hm hfirst) rfl] at hi
  have hlt : i < 2 := hi
  obtain ⟨rest, hc⟩ := hfirst
  by_contra hne
  obtain rfl : i = 1 := by omega
  rw [← hc] at h
  simp at h

/-- Interpolations are opened just where no operator symbols come before their sign. -/
theorem opensInterpolations_iff (resync : Bool) {s : Scan} (hm : s.modes.top.ReadsExpressions) :
    s.OpensInterpolations resync ↔
      ¬∃ u, IsRun isOperatorChar u ∧ u ++ ['#', '{'] <+: s.cursor.ahead := by
  refine ⟨fun h ⟨u, hu, hc⟩ => not_opensInterpolations_of_run hm hu hc h, fun hnone => ?_⟩
  have hopens : ∀ t ∈ (s.step resync).tokens, ∀ i, t.Spans (s.cursor.skip i) →
      ['#', '{'] <+: s.cursor.ahead.drop i → i = 0 ∧ s.EntersInterpolation resync := by
    intro t ht i hi h
    have hlt : i < s.cursor.ahead.length := by
      obtain ⟨rest, e⟩ := h
      exact lt_length_of_drop_eq_cons e.symm
    rw [step, tokens_perform] at ht
    have htotal := Cursor.lt_total_of_spans ht hlt hi
    obtain hfirst | ⟨n, hrun, hn⟩ := interpolation_cases hm htotal h
    · exact ⟨eq_zero_of_sign hm hfirst htotal h, entersInterpolation hm hfirst⟩
    · obtain rfl : i = 0 := by
        by_contra hne
        exact hnone (hrun.exists_isRun hn hne h)
      exact ⟨rfl, entersInterpolation hm h⟩
  refine ⟨fun t ht hk i hi h => ?_, hopens, entersInterpolation hm⟩
  rw [((hopens t ht i hi h).2).tokens] at ht
  rw [List.mem_singleton.1 ht] at hk
  cases hk

/-- The sign by itself, with an operator symbol further on. -/
theorem opensInterpolations_iff_brackets :
    let s : Scan := ⟨.ofString "#\x7b+1\x7d]", ModeStack.base.push .brackets⟩
    s.modes.top.ReadsExpressions ∧ ∀ resync, s.OpensInterpolations resync := by
  intro s
  have hm : s.modes.top.ReadsExpressions := by simp [s, Mode.ReadsExpressions]
  refine ⟨hm, fun resync => (opensInterpolations_iff resync hm).2 ?_⟩
  rintro ⟨u, hu, hprefix⟩
  exact not_prefix_of_isRun hu hprefix ⟨['+', '1', '}', ']'], rfl⟩

/-- An interpolation behind a plus, in one that a string of a source has. -/
theorem not_opensInterpolations : ∃ s, Reachable true "\"#\x7b+#\x7b1\x7d\x7d\"" s ∧
    s.modes.top.ReadsExpressions ∧ s.cursor.ahead ≠ [] ∧ ¬s.OpensInterpolations true := by
  have hsteps : ((start "\"#\x7b+#\x7b1\x7d\x7d\"".toList).step true).next.cursor.ahead ≠ [] ∧
      (((start "\"#\x7b+#\x7b1\x7d\x7d\"".toList).step true).next.step true).next =
        ⟨⟨['{', '#', '"'], "+#\x7b1\x7d\x7d\"".toList, 3, 1, 4⟩,
          (ModeStack.base.push .string).push .interpolation⟩ := by
    decide +kernel
  obtain ⟨hopen, hs⟩ := hsteps
  have hreach : Reachable true "\"#\x7b+#\x7b1\x7d\x7d\"" _ :=
    (Reaches.refl.tail (by decide)).tail hopen
  rw [hs] at hreach
  refine ⟨_, hreach, .inl rfl, by decide, ?_⟩
  exact not_opensInterpolations_of_run (.inl rfl) (u := ['+'])
    ⟨by decide, List.forall_mem_singleton.2 (by decide)⟩ ⟨"1\x7d\x7d\"".toList, by decide⟩

end Scan
end ModalLexer
