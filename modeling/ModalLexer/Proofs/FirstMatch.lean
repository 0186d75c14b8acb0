import ModalLexer.Scan

/-!
Which rule comes first. Most rules of a mode are ruled out by the next character alone, so that
few are left to be tried on the text.
-/

namespace ModalLexer

namespace Shape

/-- Whether the shape may match without taking anything. -/
def nullable : Shape → Bool
  | literal s => s.isEmpty
  | one _ | digits _ => false
  | many _ | run _ | notAfter _ | notBefore _ | before _ | opt _ => true
  | seq a b => a.nullable && b.nullable
  | alt a b => a.nullable || b.nullable

/-- Whether the shape may take text that begins with the character. -/
def starts : Shape → Char → Bool
  | literal s, x => s.head? == some x
  | one p, x | many p, x | digits p, x => p x
  | run _, _ => true
  | notAfter _, _ | notBefore _, _ | before _, _ => false
  | seq a b, x => a.starts x || a.nullable && b.starts x
  | alt a b, x => a.starts x || b.starts x
  | opt a, x => a.starts x

theorem nullable_of_reach {s : Shape} {prev : Option Char} {cs : List Char}
    (h : s.reach prev cs = some 0) : s.nullable = true := by
  induction s generalizing prev cs with
  | literal s =>
    simp only [reach, Option.ite_none_right_eq_some, Option.some.injEq] at h
    simpa [nullable] using h.2
  | one p => simp [reach] at h
  | digits p =>
    simp only [reach, Option.ite_none_left_eq_some, Option.some.injEq] at h
    exact absurd h.2 h.1
  | many p => rfl
  | run p => rfl
  | notAfter p => rfl
  | notBefore p => rfl
  | before p => rfl
  | opt a => rfl
  | seq a b iha ihb =>
    simp only [reach, Option.bind_eq_bind, Option.bind_eq_some_iff, Option.pure_def,
      Option.some.injEq] at h
    obtain ⟨m, hm, n, hn, hsum⟩ := h
    obtain ⟨rfl, rfl⟩ := Nat.add_eq_zero_iff.1 hsum
    simp [nullable, iha hm, ihb hn]
  | alt a b iha ihb =>
    simp only [reach, Option.or_eq_some_iff] at h
    obtain ha | hb := h
    · simp [nullable, iha ha]
    · simp [nullable, ihb hb.2]

theorem starts_of_reach {s : Shape} {prev : Option Char} {x : Char} {cs : List Char} {n : Nat}
    (h : s.reach prev (x :: cs) = some n) (hn : n ≠ 0) : s.starts x = true := by
  induction s generalizing prev n with
  | literal s =>
    simp only [reach, Option.ite_none_right_eq_some, Option.some.injEq] at h
    obtain ⟨hp, rfl⟩ := h
    cases s with
    | nil => exact absurd rfl hn
    | cons y s => simpa [starts] using (List.cons_prefix_cons.1 (List.isPrefixOf_iff_prefix.1 hp)).1
  | one p => simpa [starts, reach] using (Option.ite_none_right_eq_some.1 h).1
  | many p =>
    obtain rfl : _ = n := Option.some.inj h
    cases hx : p x with
    | true => exact hx
    | false => simp [hx] at hn
  | run p => rfl
  | digits p =>
    cases hx : p x with
    | true => exact hx
    | false => simp [reach, digitsLength, hx] at h
  | notAfter p =>
    simp only [reach, Option.ite_none_left_eq_some, Option.some.injEq] at h
    exact absurd h.2.symm hn
  | notBefore p =>
    simp only [reach, Option.ite_none_left_eq_some, Option.some.injEq] at h
    exact absurd h.2.symm hn
  | before p =>
    simp only [reach, Option.ite_none_right_eq_some, Option.some.injEq] at h
    exact absurd h.2.symm hn
  | seq a b iha ihb =>
    simp only [reach, Option.bind_eq_bind, Option.bind_eq_some_iff, Option.pure_def,
      Option.some.injEq] at h
    obtain ⟨k, hk, l, hl, rfl⟩ := h
    by_cases hk0 : k = 0
    · subst hk0
      have hb := ihb hl (by omega)
      simp [starts, nullable_of_reach hk, hb]
    · simp [starts, iha hk hk0]
  | alt a b iha ihb =>
    simp only [reach, Option.or_eq_some_iff] at h
    obtain ha | hb := h
    · simp [starts, iha ha hn]
    · simp [starts, ihb hb.2 hn]
  | opt a ih =>
    obtain rfl : _ = n := Option.some.inj h
    cases ha : a.reach prev (x :: cs) with
    | none => simp [ha] at hn
    | some m =>
      rw [ha] at hn
      exact ih ha hn

/-- A shape that takes something does not match where it cannot start. -/
theorem reach_eq_none {s : Shape} {prev : Option Char} {x : Char} {cs : List Char}
    (hn : s.nullable = false) (hx : s.starts x = false) : s.reach prev (x :: cs) = none := by
  cases h : s.reach prev (x :: cs) with
  | none => rfl
  | some n =>
    by_cases hz : n = 0
    · subst hz
      exact absurd (nullable_of_reach h) (by simp [hn])
    · exact absurd (starts_of_reach h hz) (by simp [hx])

theorem reach_seq_eq_none {a b : Shape} {prev : Option Char} {cs : List Char}
    (h : a.reach prev cs = none) : (a ++ b).reach prev cs = none := by
  simp [reach, h]

theorem reach_seq {a b : Shape} {prev : Option Char} {t rest : List Char}
    (h : a.reach prev (t ++ rest) = some t.length) :
    (a ++ b).reach prev (t ++ rest) =
      (b.reach (lastOf prev t.length (t ++ rest)) rest).map (t.length + ·) := by
  cases hb : b.reach (lastOf prev t.length (t ++ rest)) rest with
  | none => simp [reach, h, hb]
  | some n => simp [reach, h, hb]

theorem takeWhile_append {p : Char → Bool} {t rest : List Char} (ht : ∀ x ∈ t, p x = true)
    (hr : rest.head?.any p = false) : (t ++ rest).takeWhile p = t := by
  rw [List.takeWhile_append_of_pos ht]
  cases rest with
  | nil => rw [List.takeWhile_nil, List.append_nil]
  | cons x rest =>
    have hx : p x = false := hr
    rw [List.takeWhile_cons_of_neg (by simp [hx]), List.append_nil]

theorem reach_many {p : Char → Bool} {prev : Option Char} {t rest : List Char}
    (ht : ∀ x ∈ t, p x = true) (hr : rest.head?.any p = false) :
    (many p).reach prev (t ++ rest) = some t.length := by
  rw [reach, takeWhile_append ht hr]

theorem reach_one_many {p q : Char → Bool} {prev : Option Char} {x : Char} {t rest : List Char}
    (hx : p x = true) (ht : ∀ y ∈ t, q y = true) (hr : rest.head?.any q = false) :
    (one p ++ many q).reach prev (x :: t ++ rest) = some (t.length + 1) := by
  have hone : (one p).reach prev ([x] ++ (t ++ rest)) = some [x].length := by simp [reach, hx]
  refine (reach_seq hone).trans ?_
  rw [reach_many ht hr, Option.map_some, List.length_singleton, Nat.add_comm]

theorem reach_many1 {p : Char → Bool} {prev : Option Char} {t rest : List Char} (hne : t ≠ [])
    (ht : ∀ x ∈ t, p x = true) (hr : rest.head?.any p = false) :
    (many1 p).reach prev (t ++ rest) = some t.length := by
  obtain ⟨x, t, rfl⟩ := List.exists_cons_of_ne_nil hne
  exact reach_one_many (ht x List.mem_cons_self) (fun y hy => ht y (List.mem_cons_of_mem _ hy)) hr

theorem reach_many1_of_head {p : Char → Bool} {prev : Option Char} {x : Char} {cs : List Char}
    (hx : p x = true) :
    (many1 p).reach prev (x :: cs) = some ((x :: cs).takeWhile p).length := by
  simp [many1, reach, hx, Nat.add_comm]

theorem exists_reach_many1 {p : Char → Bool} {x : Char} {cs : List Char} (hx : p x = true) :
    ∃ t rest, x :: cs = t ++ rest ∧ t ≠ [] ∧ (∀ y ∈ t, p y = true) ∧
      ∀ prev, (many1 p).reach prev (x :: cs) = some t.length := by
  refine ⟨(x :: cs).takeWhile p, (x :: cs).dropWhile p, List.takeWhile_append_dropWhile.symm, ?_,
    List.all_eq_true.1 List.all_takeWhile, fun _ => reach_many1_of_head hx⟩
  rw [List.takeWhile_cons_of_pos hx]
  exact List.cons_ne_nil _ _

theorem reach_char {x : Char} {prev : Option Char} {cs : List Char} :
    (char x).reach prev (x :: cs) = some 1 := by
  simp [char, reach]

theorem reach_pair_eq_none {x y : Char} {prev : Option Char} {cs : List Char}
    (h : cs.head?.any (· == y) = false) : (literal [x, y]).reach prev (x :: cs) = none := by
  cases cs with
  | nil => simp [reach]
  | cons z cs =>
    have hz : z ≠ y := by simpa using h
    simp [reach, Ne.symm hz]

theorem reach_literal {s rest : List Char} {prev : Option Char} :
    (literal s).reach prev (s ++ rest) = some s.length := by
  simp [reach]

theorem reach_literal_eq_none {s cs : List Char} {prev : Option Char} (h : ¬s <+: cs) :
    (literal s).reach prev cs = none :=
  if_neg (mt List.isPrefixOf_iff_prefix.1 h)

theorem reach_digits {p : Char → Bool} {prev : Option Char} {t rest : List Char} (hne : t ≠ [])
    (ht : ∀ x ∈ t, p x = true ∧ x ≠ '_')
    (hr : rest.head?.any (fun x => p x || x == '_') = false) :
    (digits p).reach prev (t ++ rest) = some t.length := by
  have hlong : (t ++ rest).takeWhile (fun x => p x || x == '_') = t :=
    takeWhile_append (fun x hx => by simp [(ht x hx).1]) hr
  have htrim : t.reverse.dropWhile (· == '_') = t.reverse := by
    cases hrev : t.reverse with
    | nil => rfl
    | cons x u =>
      have hx := (ht x (List.mem_reverse.1 (hrev ▸ List.mem_cons_self))).2
      simp [hx]
  have hhead : (t ++ rest).head?.any p = true := by
    obtain ⟨x, t, rfl⟩ := List.exists_cons_of_ne_nil hne
    simp [(ht x List.mem_cons_self).1]
  have hlen : digitsLength p (t ++ rest) = t.length := by
    rw [digitsLength, if_pos hhead, hlong, htrim, List.length_reverse]
  rw [reach, hlen, if_neg (by simpa using hne)]

end Shape

namespace Rule

def starts : Rule → Char → Bool
  | token _ shape _, x => shape.starts x
  | groups _ _, _ => true
  | leaveWhen test, x => test (some x)

def first? (c : Cursor) (rules : List Rule) : Option (Rule × List Piece) :=
  rules.findSome? fun r => (r.match? c).map (r, ·)

variable {c : Cursor} {r : Rule} {rules : List Rule} {kind : TokenKind} {shape : Shape} {a : Action}

theorem first?_cons_of_none (h : r.match? c = none) : first? c (r :: rules) = first? c rules := by
  simp [first?, h]

theorem first?_cons_of_some {ps : List Piece} (h : r.match? c = some ps) :
    first? c (r :: rules) = some (r, ps) := by
  simp [first?, h]

theorem match?_token {n : Nat} (h : shape.reach c.previous? c.ahead = some n) (hn : n ≠ 0) :
    (token kind shape a).match? c = some [(kind, n)] := by
  simp [match?, split?, h, Option.filter, Nat.pos_of_ne_zero hn]

theorem exists_of_split?_cons {parts : List (TokenKind × Shape)} {prev : Option Char}
    {cs : List Char} {ps : List Piece} (h : split? ((kind, shape) :: parts) prev cs = some ps) :
    ∃ n qs, shape.reach prev cs = some n ∧
      split? parts (Shape.lastOf prev n cs) (cs.drop n) = some qs ∧ ps = (kind, n) :: qs := by
  simp only [split?, Option.bind_eq_bind, Option.bind_eq_some_iff, Option.pure_def,
    Option.some.injEq] at h
  obtain ⟨n, hn, qs, hq, rfl⟩ := h
  exact ⟨n, qs, hn, hq, rfl⟩

theorem exists_of_split?_singleton {prev : Option Char} {cs : List Char} {ps : List Piece}
    (h : split? [(kind, shape)] prev cs = some ps) :
    ∃ n, shape.reach prev cs = some n ∧ ps = [(kind, n)] := by
  obtain ⟨n, qs, hn, hq, rfl⟩ := exists_of_split?_cons h
  obtain rfl : [] = qs := Option.some.inj hq
  exact ⟨n, hn, rfl⟩

theorem exists_of_match?_token {ps : List Piece} (h : (token kind shape a).match? c = some ps) :
    ∃ n, shape.reach c.previous? c.ahead = some n ∧ 0 < n ∧ ps = [(kind, n)] := by
  obtain ⟨hsplit, hpos⟩ := Option.filter_eq_some_iff.1 h
  obtain ⟨n, hn, rfl⟩ := exists_of_split?_singleton hsplit
  exact ⟨n, hn, of_decide_eq_true hpos, rfl⟩

theorem match?_token_eq_none (h : shape.reach c.previous? c.ahead = none) :
    (token kind shape a).match? c = none := by
  simp [match?, split?, h]

theorem match?_token_of_zero (h : shape.reach c.previous? c.ahead = some 0) :
    (token kind shape a).match? c = none := by
  simp [match?, split?, h, Option.filter]

theorem match?_literal {s : List Char} (h : s <+: c.ahead) (hs : s ≠ []) :
    (token kind (.literal s) a).match? c = some [(kind, s.length)] :=
  match?_token (if_pos (List.isPrefixOf_iff_prefix.2 h)) (mt List.length_eq_zero_iff.1 hs)

theorem match?_literal_eq_none {s : List Char} (h : ¬s <+: c.ahead) :
    (token kind (.literal s) a).match? c = none :=
  match?_token_eq_none (Shape.reach_literal_eq_none h)

theorem match?_char {x : Char} {cs : List Char} (h : c.ahead = x :: cs) :
    (token kind (.char x) a).match? c = some [(kind, 1)] :=
  match?_token (h ▸ Shape.reach_char) Nat.one_ne_zero

theorem match?_eq_none_of_starts {x : Char} {cs : List Char} (h : c.ahead = x :: cs)
    (hx : r.starts x = false) : r.match? c = none := by
  cases r with
  | token kind shape a =>
    cases hr : shape.reach c.previous? c.ahead with
    | none => exact match?_token_eq_none hr
    | some n =>
      by_cases hn : n = 0
      · subst hn
        exact match?_token_of_zero hr
      · rw [h] at hr
        exact absurd (Shape.starts_of_reach hr hn) (by simpa [starts] using hx)
  | groups parts a => simp [starts] at hx
  | leaveWhen test => simpa [match?, Cursor.peek?, h, starts] using hx

/-- Only rules that may start with the next character count. -/
theorem first?_filter {x : Char} {cs : List Char} (h : c.ahead = x :: cs) :
    first? c (rules.filter (·.starts x)) = first? c rules := by
  induction rules with
  | nil => rfl
  | cons r rules ih =>
    cases hx : r.starts x with
    | true =>
      rw [List.filter_cons_of_pos (by simpa using hx)]
      cases hm : r.match? c with
      | none => rw [first?_cons_of_none hm, first?_cons_of_none hm, ih]
      | some ps => rw [first?_cons_of_some hm, first?_cons_of_some hm]
    | false =>
      rw [List.filter_cons_of_neg (by simp [hx]), ih,
        first?_cons_of_none (match?_eq_none_of_starts h hx)]

theorem mem_of_first? {ps : List Piece} (h : first? c rules = some (r, ps)) :
    r ∈ rules ∧ r.match? c = some ps := by
  obtain ⟨q, hq, hm⟩ := List.exists_of_findSome?_eq_some h
  obtain ⟨qs, hqs, he⟩ := Option.map_eq_some_iff.1 hm
  cases he
  exact ⟨hq, hqs⟩

theorem exists_first? {ps : List Piece} (hr : r ∈ rules) (h : r.match? c = some ps) :
    ∃ q qs, first? c rules = some (q, qs) := by
  cases hf : first? c rules with
  | some p => exact ⟨p.1, p.2, rfl⟩
  | none =>
    have hnone := List.findSome?_eq_none_iff.1 hf r hr
    rw [h] at hnone
    cases hnone

theorem first?_append_of_some {p : Rule × List Piece} (h : first? c rules = some p)
    (more : List Rule) : first? c (rules ++ more) = some p := by
  rw [first?] at h
  rw [first?, List.findSome?_append, h, Option.some_or]

theorem first?_append {pre : List Rule} (h : ∀ q ∈ pre, q.match? c = none) :
    first? c (pre ++ rules) = first? c rules := by
  induction pre with
  | nil => rfl
  | cons q pre ih =>
    rw [List.cons_append, first?_cons_of_none (h q List.mem_cons_self)]
    exact ih fun r hr => h r (List.mem_cons_of_mem _ hr)

end Rule

/-- Every rule counts: at the root, where rules that take nothing would be passed over, there are
none. -/
theorem Scan.chosen?_eq_first? (s : Scan) :
    s.chosen? = Rule.first? s.cursor s.modes.top.rules := by
  have hcounts : ∀ r ∈ s.modes.top.rules, (r.isZeroWidth && s.modes.isRoot) = false := by
    intro r hr
    cases hroot : s.modes.isRoot with
    | false => exact Bool.and_false _
    | true =>
      rw [ModeStack.isRoot_iff.1 hroot] at hr
      rw [Mode.isZeroWidth_of_mem_rules_root hr, Bool.false_and]
  rw [chosen?, Rule.first?]
  generalize s.modes.top.rules = rules at hcounts
  induction rules with
  | nil => rfl
  | cons r rules ih =>
    obtain ⟨hr, hrules⟩ := List.forall_mem_cons.1 hcounts
    rw [List.findSome?_cons, List.findSome?_cons, ih hrules, hr]
    rfl

end ModalLexer
