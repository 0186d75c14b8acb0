import Mathlib.Logic.Function.Iterate
import ModalLexer.Proofs.Ledger
import ModalLexer.Proofs.Standing
import ModalLexer.Proofs.Walk

/-!
How fast a scan comes on. A step takes text, or it leaves a mode and takes nothing; after a step of
the second kind comes one of the first, because a mode that is left at a place is never on one that
is left at the same place. For a selector this rests on the character that let it be entered.
-/

namespace ModalLexer

open Rule Lexeme

namespace Mode

def leftAt : Mode → Option Char → Bool
  | moduleName, _ | pattern, _ => true
  | patternValue, next => next == some ',' || next == some ')'
  | _, _ => false

theorem test_eq_leftAt {m : Mode} {test : Option Char → Bool} (h : leaveWhen test ∈ m.rules) :
    test = m.leftAt := by
  have hzero : leaveWhen test ∈ m.rules.filter (·.isZeroWidth) := List.mem_filter.2 ⟨h, rfl⟩
  cases m with
  | moduleName | pattern | patternValue => exact leaveWhen.inj (List.mem_singleton.1 hzero)
  | _ => exact absurd hzero List.not_mem_nil

theorem leaveWhen_mem_rules_pattern : (leaveWhen fun _ => true) ∈ Mode.pattern.rules := by
  simp [rules]

/-- Of two modes on each other only a selector and the value it is in can be left at one place. -/
theorem eq_pattern_of_leftAt {m n : Mode} {next : Option Char} (hn : n ∈ m.below)
    (hm : m.leftAt next = true) (hleft : n.leftAt next = true) :
    m = pattern ∧ n = patternValue := by
  cases m with
  | moduleName =>
    obtain rfl := List.mem_singleton.1 hn
    exact absurd hleft (by simp [leftAt])
  | patternValue =>
    obtain rfl := List.mem_singleton.1 hn
    exact absurd hleft (by simp [leftAt])
  | pattern =>
    refine ⟨rfl, ?_⟩
    cases n <;> simp_all [leftAt, below, expressionModes]
  | _ => simp [leftAt] at hm

theorem action_ne_stay_of_pattern : ∀ r ∈ Mode.pattern.rules, r.action ≠ .stay := by decide

theorem action_ne_replace_pattern (m : Mode) : ∀ r ∈ m.rules, r.action ≠ .replace .pattern := by
  cases m <;> decide

theorem eq_selectorDot {r : Rule} (hr : r ∈ Mode.patternValue.rules)
    (ha : r.action = .push .pattern) : r = opens .operator selectorDot .pattern := by
  have hmem : r ∈ Mode.patternValue.rules.filter (·.action = .push .pattern) :=
    List.mem_filter.2 ⟨hr, by simpa using ha⟩
  exact List.mem_singleton.1 hmem

end Mode

theorem Shape.reach_selectorDot {prev : Option Char} {cs : List Char} {n : Nat}
    (h : selectorDot.reach prev cs = some n) :
    n = 1 ∧ (cs.drop 1).head?.any startsSelector = true := by
  simp only [selectorDot, char, append_eq, reach, Option.bind_eq_bind, Option.bind_eq_some_iff,
    Option.pure_def, Option.some.injEq, Option.ite_none_right_eq_some] at h
  obtain ⟨k, ⟨-, rfl⟩, l, ⟨hs, rfl⟩, rfl⟩ := h
  exact ⟨rfl, hs⟩

theorem Cursor.tokens_ne_nil {c : Cursor} {ps : List Piece} (h : 0 < Piece.total ps) :
    c.tokens ps ≠ [] := by
  induction ps with
  | nil => simp at h
  | cons p ps ih =>
    obtain ⟨kind, n⟩ := p
    cases n with
    | zero => exact ih (by simpa using h)
    | succ n => exact List.cons_ne_nil _ _

theorem Tiles.length_le {before ahead : List Char} {ts : List Token} (h : Tiles before ahead ts) :
    ts.length ≤ ahead.length := by
  induction h with
  | nil => simp
  | cons hp _ _ _ ih =>
    have hpos := List.length_pos_iff.2 hp
    simp only [List.length_cons, List.length_append]
    omega

namespace Scan

variable {resync : Bool} {source : String} {s : Scan}

def Consumes (resync : Bool) (s : Scan) : Prop :=
  (s.step resync).next.cursor.ahead.length < s.cursor.ahead.length ∧ (s.step resync).tokens ≠ []

/-- The step takes nothing, makes nothing and closes one mode. -/
def Leaves (resync : Bool) (s : Scan) : Prop :=
  (s.step resync).next.cursor = s.cursor ∧ (s.step resync).tokens = [] ∧
    ∃ m, s.modes = (s.step resync).next.modes.push m

theorem Consumes.not_leaves (h : s.Consumes resync) : ¬ s.Leaves resync := fun hl => h.2 hl.2.1

theorem consumes_of_total_pos (h : s.cursor.ahead ≠ [])
    (hp : 0 < Piece.total (s.move resync).pieces) : s.Consumes resync := by
  have hpos := List.length_pos_iff.2 h
  constructor
  · rw [step, cursor_perform, Cursor.ahead_skip, List.length_drop]
    omega
  · rw [step, tokens_perform]
    exact Cursor.tokens_ne_nil hp

/-- Only the rules that are made for it leave a mode, and never the root. -/
theorem leftAt_of_move (h : s.move resync = .leave) :
    s.modes.top.leftAt s.cursor.peek? = true ∧ s.modes.isRoot = false := by
  cases hc : s.chosen? with
  | none => simp only [move, hc] at h; split at h <;> simp at h
  | some p =>
    obtain ⟨r, ps⟩ := p
    obtain ⟨hr, hm, hroot⟩ := chosen?_eq_some hc
    cases r with
    | leaveWhen test =>
      rw [← Mode.test_eq_leftAt hr]
      exact ⟨(Option.ite_none_right_eq_some.1 hm).1, hroot rfl⟩
    | token | groups => simp [move, hc, isZeroWidth] at h

theorem leaves_of_move (h : s.move resync = .leave) : s.Leaves resync := by
  have hroot := (leftAt_of_move h).2
  refine ⟨by rw [step, cursor_perform, h]; rfl, by rw [step, tokens_perform, h]; rfl, ?_⟩
  rw [step, modes_perform, h]
  generalize s.modes = modes at hroot
  cases modes using ModeStack.push_induction with
  | base => simp [ModeStack.isRoot] at hroot
  | push m modes => exact ⟨m, rfl⟩

variable (resync) in
theorem consumes_or_move_eq_leave (h : s.cursor.ahead ≠ []) :
    s.Consumes resync ∨ s.move resync = .leave := by
  obtain ⟨r, ps, -, hz, hm, e⟩ | ⟨r, -, -, -, e⟩ | ⟨-, -, -, e⟩ | ⟨-, -, e⟩ := move_cases resync s
  · exact .inl (consumes_of_total_pos h (by rw [e]; exact total_pos_of_match? hm hz))
  · exact .inr e
  · exact .inl (consumes_of_total_pos h (by rw [e]; exact Nat.one_pos))
  · exact .inl (consumes_of_total_pos h (by rw [e]; exact Nat.one_pos))

/-- Where a selector is to be read inside a value, one is ahead. -/
def Aimed (s : Scan) : Prop :=
  s.modes.top = .pattern → s.modes.pop.top = .patternValue →
    s.cursor.ahead.head?.any startsSelector = true

theorem top_pop_ne_pattern (h : s.modes.Stands) : s.modes.pop.top ≠ .pattern := by
  intro e
  cases hroot : s.modes.isRoot with
  | true =>
    rw [ModeStack.isRoot_iff.1 hroot] at e
    exact absurd e (by decide)
  | false =>
    have hbelow := h.top_pop hroot
    rw [e] at hbelow
    exact Mode.not_mem_below_of_mem_topModes (by decide) _ hbelow

theorem aimed_step (h : s.modes.Stands) : (s.step resync).next.Aimed := by
  intro htop hpop
  rw [step, modes_perform] at htop hpop
  rw [step, cursor_perform, Cursor.ahead_skip]
  obtain ⟨r, ps, hr, -, hm, e⟩ | ⟨r, -, -, -, e⟩ | ⟨-, -, -, e⟩ | ⟨hc, -, e⟩ := move_cases resync s
  · rw [e] at htop hpop ⊢
    simp only [Move.apply] at htop hpop
    cases ha : r.action with
    | stay =>
      rw [ha] at htop
      rw [show s.modes.top = .pattern from htop] at hr
      exact absurd ha (Mode.action_ne_stay_of_pattern r hr)
    | pop =>
      rw [ha] at htop
      exact absurd htop (top_pop_ne_pattern h)
    | replace m =>
      rw [ha] at htop
      obtain rfl : m = .pattern := htop
      exact absurd ha (Mode.action_ne_replace_pattern _ r hr)
    | push m =>
      rw [ha] at htop hpop
      obtain rfl : m = .pattern := htop
      rw [show s.modes.top = .patternValue from hpop] at hr
      obtain rfl := Mode.eq_selectorDot hr ha
      -- the dot was taken only because of what follows it
      obtain ⟨n, hn, -, rfl⟩ := exists_of_match?_token hm
      obtain ⟨rfl, hsel⟩ := Shape.reach_selectorDot hn
      exact hsel
  · rw [e] at htop
    exact absurd htop (top_pop_ne_pattern h)
  · rw [e] at htop
    exact absurd (show Mode.root = .pattern from htop) (by decide)
  · rw [e] at htop
    have hnone := chosen?_eq_none_iff.1 hc
    rw [show s.modes.top = .pattern from htop] at hnone
    exact absurd (hnone _ Mode.leaveWhen_mem_rules_pattern) (by simp [match?])

theorem Reachable.aimed (h : Reachable resync source s) : s.Aimed := by
  cases h with
  | refl => exact fun htop => absurd (show Mode.root = .pattern from htop) (by decide)
  | tail hu => exact aimed_step (Reachable.stands hu)

/-- No mode is left right after another. -/
theorem Reachable.move_next_ne_leave (h : Reachable resync source s) (hm : s.move resync = .leave) :
    (s.step resync).next.move resync ≠ .leave := by
  intro hnext
  obtain ⟨hleft, hroot⟩ := leftAt_of_move hm
  have hagain := (leftAt_of_move hnext).1
  rw [step, modes_perform, cursor_perform, hm] at hagain
  obtain ⟨htop, hpop⟩ := Mode.eq_pattern_of_leftAt (h.stands.top_pop hroot) hleft hagain
  -- a value is left before a comma or a parenthesis, neither of which begins a selector
  have haimed := h.aimed htop hpop
  rw [show (Move.leave.apply s.modes).top = .patternValue from hpop] at hagain
  cases hc : s.cursor.ahead with
  | nil => simp [hc] at haimed
  | cons x cs =>
    have hx : x = ',' ∨ x = ')' := by simpa [Mode.leftAt, Cursor.peek?, Move.pieces, hc] using hagain
    have hsign : startsSelector ',' = false ∧ startsSelector ')' = false := by decide
    rw [hc] at haimed
    rcases hx with rfl | rfl
    · simp [hsign] at haimed
    · simp [hsign] at haimed

theorem Reachable.consumes_next (h : Reachable resync source s) (hne : s.cursor.ahead ≠ [])
    (hl : s.Leaves resync) : (s.step resync).next.Consumes resync := by
  have hm := (consumes_or_move_eq_leave resync hne).resolve_left fun hc => hc.not_leaves hl
  rw [← hl.1] at hne
  exact (consumes_or_move_eq_leave resync hne).resolve_right (h.move_next_ne_leave hm)

/-- A step that takes text saves one of the two that each character is good for. -/
theorem length_steps_le (h : Reachable resync source s) :
    (s.steps resync).length ≤ 2 * s.cursor.ahead.length ∧
      (s.Consumes resync → (s.steps resync).length < 2 * s.cursor.ahead.length) := by
  fun_induction steps resync s with
  | case1 s he => simp [Consumes, he]
  | case2 s hne ih =>
    obtain ⟨hle, hlt⟩ := ih (h.tail hne)
    rw [List.length_cons]
    obtain hc | hm := consumes_or_move_eq_leave resync hne
    · have hless := hc.1
      omega
    · have hl := leaves_of_move hm
      have hless := hlt (h.consumes_next hne hl)
      rw [hl.1] at hless
      exact ⟨by omega, fun hc => absurd hl hc.not_leaves⟩

end Scan

namespace Session

/-- The call makes so many steps, the last of which makes the token that it hands out. -/
def AnswersIn (n : Nat) (s : Session) : Prop :=
  (∀ k < n, (advance^[k] s).pending = [] ∧ (advance^[k] s).scan.cursor.ahead ≠ []) ∧
    ∃ t ts, (advance^[n] s).pending = t :: ts ∧
      s.next = (some t, { advance^[n] s with pending := ts })

variable {s : Session}

theorem answersIn_one (hp : s.pending = []) (hne : s.scan.cursor.ahead ≠ [])
    (hc : s.scan.Consumes s.resync) : s.AnswersIn 1 := by
  refine ⟨fun k hk => ?_, ?_⟩
  · obtain rfl : k = 0 := by omega
    exact ⟨hp, hne⟩
  · obtain ⟨t, ts, ht⟩ := List.exists_cons_of_ne_nil hc.2
    rw [← pending_advance hp] at ht
    exact ⟨t, ts, ht, by rw [next_of_ne_nil hp hne, next_of_pending ht]; rfl⟩

theorem AnswersIn.succ {n : Nat} (hp : s.pending = []) (hne : s.scan.cursor.ahead ≠ [])
    (h : s.advance.AnswersIn n) : s.AnswersIn (n + 1) := by
  obtain ⟨hwait, t, ts, ht, hnext⟩ := h
  refine ⟨fun k hk => ?_, t, ts, ht, ?_⟩
  · cases k with
    | zero => exact ⟨hp, hne⟩
    | succ k => exact hwait k (by omega)
  · rw [next_of_ne_nil hp hne, hnext]
    rfl

/-- The first step of a call makes a token, or it leaves a mode and the second one does. -/
theorem answersIn_one_or_two {source : String} (h : Scan.Reachable s.resync source s.scan)
    (hp : s.pending = []) (hne : s.scan.cursor.ahead ≠ []) : s.AnswersIn 1 ∨ s.AnswersIn 2 := by
  obtain hc | hm := Scan.consumes_or_move_eq_leave s.resync hne
  · exact .inl (answersIn_one hp hne hc)
  · have hl := Scan.leaves_of_move hm
    have hpending : s.advance.pending = [] := (pending_advance hp).trans hl.2.1
    have hahead : s.advance.scan.cursor.ahead ≠ [] := by
      rw [show s.advance.scan.cursor = s.scan.cursor from hl.1]
      exact hne
    exact .inr (.succ hp hne (answersIn_one hpending hahead (h.consumes_next hne hl)))

end Session

/-- How steps, calls and tokens are bounded by the text of a source. -/
structure Advances (resync : Bool) (source : String) : Prop where
  each : ∀ s, Scan.Reachable resync source s → s.cursor.ahead ≠ [] →
    s.Consumes resync ∨ s.Leaves resync
  never_twice : ∀ s, Scan.Reachable resync source s → s.cursor.ahead ≠ [] →
    ¬ (s.Leaves resync ∧ (s.step resync).next.Leaves resync)
  call : ∀ rs, let s := (Ledger.after resync source rs).session
    s.pending = [] → s.scan.cursor.ahead ≠ [] → s.AnswersIn 1 ∨ s.AnswersIn 2
  steps : let sts := (Scan.start source.toList).steps resync
    Scan.Walks resync (.start source.toList) sts (lex resync source).final ∧
      sts.length ≤ 2 * source.length
  tokens : (lex resync source).tokens.length ≤ source.length

theorem lex_advances (resync : Bool) (source : String) : Advances resync source where
  each := fun s _ hne => (Scan.consumes_or_move_eq_leave resync hne).imp_right Scan.leaves_of_move
  never_twice := fun s hs hne hl => (hs.consumes_next hne hl.1).not_leaves hl.2
  call := by
    intro rs s hp hne
    have hsound := Ledger.sound_after resync source rs
    have hreach : Scan.Reachable s.resync source s.scan := hsound.mode ▸ hsound.reachable
    exact Session.answersIn_one_or_two hreach hp hne
  steps := by
    have h := (Scan.length_steps_le (.refl : Scan.Reachable resync source _)).1
    rw [show (Scan.start source.toList).cursor.ahead = source.toList from rfl,
      String.length_toList] at h
    exact ⟨Scan.walks_steps, h⟩
  tokens := by
    have h := (tiles_lex resync source).length_le
    rwa [String.length_toList] at h

end ModalLexer
