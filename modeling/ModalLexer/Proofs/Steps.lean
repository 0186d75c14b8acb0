import ModalLexer.Proofs.FirstMatch

/-!
What one step of a scan can do, and the scans that steps lead to. Every step takes the pieces of
its move and changes the stack as the move says; nothing else about it depends on the rules.
-/

namespace ModalLexer

namespace Move

def pieces : Move → List Piece
  | take ps _ => ps
  | leave => []
  | refuse => [(.error, 1)]
  | resync => [(.whitespace, 1)]

def apply : Move → ModeStack → ModeStack
  | take _ a, s => a.apply s
  | leave, s => s.pop
  | refuse, s => s
  | resync, _ => .base

end Move

namespace Rule

/-- The shapes that the rule takes one after the other, each with the kind of its token. -/
def parts : Rule → List (TokenKind × Shape)
  | token kind shape _ => [(kind, shape)]
  | groups ps _ => ps
  | leaveWhen _ => []

theorem split?_of_match? {r : Rule} {c : Cursor} {ps : List Piece} (h : r.match? c = some ps) :
    split? r.parts c.previous? c.ahead = some ps := by
  cases r with
  | leaveWhen test => rw [match?_leaveWhen h]; rfl
  | token kind shape a => exact (Option.filter_eq_some_iff.1 h).1
  | groups parts a => exact (Option.filter_eq_some_iff.1 h).1

end Rule

theorem Cursor.tokens_singleton {c : Cursor} {p : Piece} {t : Token} (h : t ∈ c.tokens [p]) :
    c.tokens [p] = [t] := by
  obtain ⟨kind, n⟩ := p
  cases n with
  | zero => simp [tokens] at h
  | succ n => simpa [tokens, eq_comm] using h

theorem Cursor.tokens_of_pos {c : Cursor} {kind : TokenKind} {n : Nat} (hn : 0 < n) :
    c.tokens [(kind, n)] = [c.token kind n] := by
  obtain ⟨n, rfl⟩ := Nat.exists_eq_succ_of_ne_zero (Nat.pos_iff_ne_zero.1 hn)
  rfl

theorem Cursor.exists_piece_of_mem_tokens {c : Cursor} {ps : List Piece} {t : Token}
    (h : t ∈ c.tokens ps) : ∃ p ∈ ps, t.kind = p.1 := by
  fun_induction tokens c ps with
  | case1 => cases h
  | case2 c k ps ih => exact (ih h).imp fun p hp => ⟨List.mem_cons_of_mem _ hp.1, hp.2⟩
  | case3 c k n ps ih =>
    obtain rfl | h := List.mem_cons.1 h
    · exact ⟨_, List.mem_cons_self, rfl⟩
    · exact (ih h).imp fun p hp => ⟨List.mem_cons_of_mem _ hp.1, hp.2⟩

theorem Cursor.previous?_skip (c : Cursor) (n : Nat) :
    (c.skip n).previous? = Shape.lastOf c.previous? n c.ahead := by
  induction n generalizing c with
  | zero => simp [Shape.lastOf]
  | succ n ih =>
    rw [skip_succ, ih]
    cases h : c.ahead with
    | nil => simp [advance, h, Shape.lastOf]
    | cons x rest =>
      simp only [advance, h, previous?, Shape.lastOf, List.head?_cons, List.take_succ_cons,
        List.getLast?_cons]
      cases (rest.take n).getLast? <;> rfl

/-- A token of pieces in a row comes from one of the shapes that were matched, and stands where that
shape was. -/
theorem Cursor.exists_part_of_mem_tokens {c : Cursor} {parts : List (TokenKind × Shape)}
    {ps : List Piece} (h : Rule.split? parts c.previous? c.ahead = some ps) {t : Token}
    (ht : t ∈ c.tokens ps) :
    ∃ part ∈ parts, ∃ k n, t = (c.skip k).token part.1 n ∧ 0 < n ∧
      part.2.reach (c.skip k).previous? (c.skip k).ahead = some n := by
  induction parts generalizing c ps with
  | nil =>
    obtain rfl : [] = ps := by simpa [Rule.split?] using h
    simp [tokens] at ht
  | cons part parts ih =>
    obtain ⟨kind, shape⟩ := part
    obtain ⟨n, qs, hn, hq, rfl⟩ := Rule.exists_of_split?_cons h
    rw [← previous?_skip, ← ahead_skip] at hq
    have hrest (hm : t ∈ (c.skip n).tokens qs) : ∃ part ∈ (kind, shape) :: parts, ∃ k l,
        t = (c.skip k).token part.1 l ∧ 0 < l ∧
          part.2.reach (c.skip k).previous? (c.skip k).ahead = some l := by
      obtain ⟨part, hpart, k, l, hl⟩ := ih hq hm
      rw [← skip_add] at hl
      exact ⟨part, List.mem_cons_of_mem _ hpart, n + k, l, hl⟩
    cases n with
    | zero => exact hrest ht
    | succ n =>
      obtain rfl | hm := List.mem_cons.1 ht
      · exact ⟨_, List.mem_cons_self, 0, n + 1, rfl, Nat.succ_pos n, hn⟩
      · exact hrest hm

theorem Mode.length_parts_eq_one_or_ne_error (m : Mode) :
    ∀ r ∈ m.rules, r.parts.length = 1 ∨ ∀ p ∈ r.parts, p.1 ≠ .error := by
  cases m <;> decide

namespace Scan

variable (resync : Bool) (s : Scan) (m : Move)

@[simp] theorem tokens_perform : (s.perform m).tokens = s.cursor.tokens m.pieces := by
  cases m <;> rfl

theorem next_perform :
    (s.perform m).next = ⟨s.cursor.skip (Piece.total m.pieces), m.apply s.modes⟩ := by
  cases m <;> rfl

@[simp] theorem cursor_perform :
    (s.perform m).next.cursor = s.cursor.skip (Piece.total m.pieces) := by
  rw [next_perform]

@[simp] theorem modes_perform : (s.perform m).next.modes = m.apply s.modes := by
  rw [next_perform]

@[simp] theorem diagnostics_perform :
    (s.perform m).diagnostics =
      ((s.perform m).tokens.filter Token.isError).map (·.complaint s.modes.top) := by
  cases m <;> rfl

variable {s} in
theorem chosen?_eq_none_iff :
    s.chosen? = none ↔ ∀ r ∈ s.modes.top.rules, r.match? s.cursor = none := by
  rw [chosen?_eq_first?, Rule.first?, List.findSome?_eq_none_iff]
  simp only [Option.map_eq_none_iff]

/-- A step is made by a rule that takes text, by one that leaves the mode, or, where no rule
applies, by the two ways of dealing with a character that nothing takes. -/
theorem move_cases :
    (∃ r ps, r ∈ s.modes.top.rules ∧ r.isZeroWidth = false ∧ r.match? s.cursor = some ps ∧
        s.move resync = .take ps r.action) ∨
      (∃ r ∈ s.modes.top.rules, r.isZeroWidth = true ∧ s.modes.isRoot = false ∧
        s.move resync = .leave) ∨
      (s.chosen? = none ∧ s.cursor.peek? = some '\n' ∧ resync = true ∧
        s.move resync = .resync) ∨
      (s.chosen? = none ∧ ¬(s.cursor.peek? = some '\n' ∧ resync = true) ∧
        s.move resync = .refuse) := by
  cases hc : s.chosen? with
  | some p =>
    obtain ⟨r, ps⟩ := p
    obtain ⟨hr, hm, hz⟩ := chosen?_eq_some hc
    cases hw : r.isZeroWidth with
    | false => exact .inl ⟨r, ps, hr, hw, hm, by simp [move, hc, hw]⟩
    | true => exact .inr (.inl ⟨r, hr, hw, hz hw, by simp [move, hc, hw]⟩)
  | none =>
    by_cases hn : s.cursor.peek? = some '\n' ∧ resync = true
    · exact .inr (.inr (.inl ⟨rfl, hn.1, hn.2, by simp [move, hc, hn.1, hn.2]⟩))
    · refine .inr (.inr (.inr ⟨rfl, hn, ?_⟩))
      simp only [move, hc]
      rw [if_neg (by simpa using hn)]

variable {s}

/-- The first rule that matches makes the step, unless it takes nothing. -/
theorem move_of_first? {r : Rule} {ps : List Piece}
    (h : Rule.first? s.cursor s.modes.top.rules = some (r, ps)) (hr : r.isZeroWidth = false) :
    s.move resync = .take ps r.action := by
  rw [move, chosen?_eq_first?, h]
  simp [hr]

theorem step_of_first? {r : Rule} {ps : List Piece}
    (h : Rule.first? s.cursor s.modes.top.rules = some (r, ps)) (hr : r.isZeroWidth = false) :
    s.step resync = s.take ps r.action := by
  rw [step, move_of_first? resync h hr]
  rfl

theorem diagnostics_take {ps : List Piece} (a : Action) (h : ∀ p ∈ ps, p.1 ≠ .error) :
    (s.take ps a).diagnostics = [] := by
  have hnone : (s.cursor.tokens ps).filter Token.isError = [] := by
    rw [List.filter_eq_nil_iff]
    intro t ht he
    obtain ⟨p, hp, hk⟩ := Cursor.exists_piece_of_mem_tokens ht
    exact h p hp (hk ▸ beq_iff_eq.1 he)
  rw [take, hnone]
  rfl

theorem total_pieces_move_le (h : s.cursor.ahead ≠ []) :
    Piece.total (s.move resync).pieces ≤ s.cursor.ahead.length := by
  have hp := List.length_pos_iff.2 h
  obtain ⟨r, ps, -, -, hm, e⟩ | ⟨r, -, -, -, e⟩ | ⟨-, -, -, e⟩ | ⟨-, -, e⟩ := move_cases resync s
  · rw [e]; exact Rule.total_le_of_match? hm
  all_goals rw [e]; simp only [Move.pieces, Piece.total_nil, Piece.total_cons]; omega

/-- A token is made by a rule that takes text, or it is all that a step makes without one. -/
theorem taken_or_lone {t : Token} (ht : t ∈ (s.step resync).tokens) :
    (∃ r ps, r ∈ s.modes.top.rules ∧ r.isZeroWidth = false ∧ r.match? s.cursor = some ps ∧
        (s.step resync).tokens = s.cursor.tokens ps) ∨
      (s.step resync).tokens = [t] ∧ (t.kind = .whitespace ∨ t.kind = .error) := by
  rw [step, tokens_perform] at ht ⊢
  obtain ⟨r, ps, hr, hz, hm, e⟩ | ⟨r, -, -, -, e⟩ | ⟨-, -, -, e⟩ | ⟨-, -, e⟩ :=
    move_cases resync s
  · exact .inl ⟨r, ps, hr, hz, hm, by rw [e]; rfl⟩
  · rw [e] at ht
    cases ht
  · rw [e] at ht ⊢
    exact .inr ⟨Cursor.tokens_singleton ht, .inl (List.mem_singleton.1 ht ▸ rfl)⟩
  · rw [e] at ht ⊢
    exact .inr ⟨Cursor.tokens_singleton ht, .inr (List.mem_singleton.1 ht ▸ rfl)⟩

/-- An error token is all that its step makes. -/
theorem tokens_step_of_isError {t : Token} (ht : t ∈ (s.step resync).tokens)
    (he : t.isError = true) : (s.step resync).tokens = [t] := by
  obtain ⟨r, ps, hr, -, hm, e⟩ | ⟨h, -⟩ := taken_or_lone resync ht
  · rw [e] at ht ⊢
    have hs := Rule.split?_of_match? hm
    obtain hl | hk := Mode.length_parts_eq_one_or_ne_error _ r hr
    · obtain ⟨part, hpart⟩ := List.length_eq_one_iff.1 hl
      rw [hpart] at hs
      obtain ⟨n, -, rfl⟩ := Rule.exists_of_split?_singleton hs
      exact Cursor.tokens_singleton ht
    · obtain ⟨part, hpart, k, n, rfl, -⟩ := Cursor.exists_part_of_mem_tokens hs ht
      exact absurd (beq_iff_eq.1 he) (hk part hpart)
  · exact h

inductive Reaches (resync : Bool) (s : Scan) : Scan → Prop
  | refl : Reaches resync s s
  | tail {u : Scan} : Reaches resync s u → u.cursor.ahead ≠ [] →
      Reaches resync s (u.step resync).next

def Reachable (resync : Bool) (source : String) : Scan → Prop :=
  Reaches resync (start source.toList)

variable {resync}

theorem Reaches.head {u : Scan} (h : s.cursor.ahead ≠ [])
    (hu : Reaches resync (s.step resync).next u) : Reaches resync s u := by
  induction hu with
  | refl => exact .tail .refl h
  | tail _ hne ih => exact .tail ih hne

theorem Reaches.trans {u v : Scan} (hu : Reaches resync s u) (hv : Reaches resync u v) :
    Reaches resync s v := by
  induction hv with
  | refl => exact hu
  | tail _ hne ih => exact .tail ih hne

/-- What holds at the start and is kept by every step holds of all that is reached. -/
theorem Reaches.invariant {P : Scan → Prop} {u : Scan} (h : Reaches resync s u) (h₀ : P s)
    (hs : ∀ v, v.cursor.ahead ≠ [] → P v → P (v.step resync).next) : P u := by
  induction h with
  | refl => exact h₀
  | tail _ hne ih => exact hs _ hne ih

theorem Reaches.cases_head {u : Scan} (h : Reaches resync s u) :
    u = s ∨ Reaches resync (s.step resync).next u := by
  induction h with
  | refl => exact .inl rfl
  | tail _ hne ih =>
    obtain rfl | hu := ih
    · exact .inr .refl
    · exact .inr (.tail hu hne)

theorem Reaches.length_ahead_le {u : Scan} (h : Reaches resync s u) :
    u.cursor.ahead.length ≤ s.cursor.ahead.length := by
  refine h.invariant (P := fun u => u.cursor.ahead.length ≤ s.cursor.ahead.length)
    (Nat.le_refl _) fun v _ hv => ?_
  rw [step, cursor_perform, Cursor.ahead_skip, List.length_drop]
  omega

theorem source_eq_of_reaches {u : Scan} (h : Reaches resync s u) :
    u.cursor.source = s.cursor.source :=
  h.invariant (P := fun u => u.cursor.source = s.cursor.source) rfl
    fun v _ hv => by rw [step, cursor_perform, Cursor.source_skip, hv]

theorem run_of_nil (h : s.cursor.ahead = []) : s.run resync = ⟨[], [], [], s⟩ := by
  rw [run, dif_pos h]

theorem run_of_ne_nil (h : s.cursor.ahead ≠ []) :
    s.run resync = .after (s.step resync) ((s.step resync).next.run resync) := by
  rw [run, dif_neg h]

theorem ahead_final_run : (s.run resync).final.cursor.ahead = [] := by
  fun_induction run resync s with
  | case1 s h => exact h
  | case2 s h ih => exact ih

theorem reaches_final_run : Reaches resync s (s.run resync).final := by
  fun_induction run resync s with
  | case1 s h => exact .refl
  | case2 s h ih => exact ih.head h

theorem exists_step_of_mem_run {t : Token} (h : t ∈ (s.run resync).tokens) :
    ∃ u, Reaches resync s u ∧ u.cursor.ahead ≠ [] ∧ t ∈ (u.step resync).tokens := by
  fun_induction run resync s with
  | case1 s hs => simp at h
  | case2 s hs ih =>
    obtain ht | ht := List.mem_append.1 h
    · exact ⟨s, .refl, hs, ht⟩
    · obtain ⟨u, hu, hne, hm⟩ := ih ht
      exact ⟨u, hu.head hs, hne, hm⟩

theorem exists_token_of_mem_run {d : Diagnostic} (h : d ∈ (s.run resync).diagnostics) :
    ∃ t ∈ (s.run resync).tokens, ∃ m, d = t.complaint m := by
  fun_induction run resync s with
  | case1 s hs => simp at h
  | case2 s hs ih =>
    obtain hd | hd := List.mem_append.1 h
    · rw [step, diagnostics_perform] at hd
      obtain ⟨t, ht, rfl⟩ := List.mem_map.1 hd
      exact ⟨t, List.mem_append_left _ (List.mem_filter.1 ht).1, _, rfl⟩
    · obtain ⟨t, ht, m, e⟩ := ih hd
      exact ⟨t, List.mem_append_right _ ht, m, e⟩

end Scan

theorem mem_diagnostics_lex {resync : Bool} {source : String} {d : Diagnostic}
    (h : d ∈ (lex resync source).diagnostics) :
    (∃ t ∈ (lex resync source).tokens, ∃ m, d = t.complaint m) ∨
      d ∈ (lex resync source).final.unclosed :=
  (List.mem_append.1 h).imp_left Scan.exists_token_of_mem_run

end ModalLexer
