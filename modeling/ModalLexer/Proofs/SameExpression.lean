import ModalLexer.Proofs.Passage
import ModalLexer.Proofs.Walk

/-!
The modes that read expressions, side by side. Behind the rules that each of them puts in front,
they share all others; so up to what closes one of them, a text is read alike in any of them,
whatever lies below. The one exception is `()`, of which the value of a pattern takes only the
first character.
-/

namespace ModalLexer

/-- What is ahead closes none of the modes that read expressions. -/
def Cursor.Continues (c : Cursor) : Prop := c.peek?.any [')', ',', ']', '}'].contains = false

instance (c : Cursor) : Decidable c.Continues := inferInstanceAs (Decidable (_ = false))

namespace Scan

/-- Of the next `n` steps, those with nothing above the frame are made where `P` holds. A step that
goes back to the root closes the frame, and of what comes later nothing is asked. -/
def Undisturbed (P : Cursor → Prop) (resync : Bool) (frame : ModeStack) : Nat → Scan → Prop
  | 0, _ => True
  | n + 1, s => s.cursor.ahead ≠ [] → (s.modes = frame → P s.cursor) ∧
      (s.move resync ≠ .resync → Undisturbed P resync frame n (s.step resync).next)

instance decidableUndisturbed {P : Cursor → Prop} [DecidablePred P] (resync : Bool)
    (frame : ModeStack) : ∀ n s, Decidable (Undisturbed P resync frame n s)
  | 0, _ => .isTrue trivial
  | n + 1, s =>
    have := decidableUndisturbed (P := P) resync frame n (s.step resync).next
    inferInstanceAs (Decidable (s.cursor.ahead ≠ [] → (s.modes = frame → P s.cursor) ∧
      (s.move resync ≠ .resync → Undisturbed P resync frame n (s.step resync).next)))

/-- Brackets that a text opens itself do not count; the last one here closes the value. -/
example :
    let c := Cursor.ofString "f (x, ()) \x7b-\x7d-\x7d \"#\x7by\x7d]\" [[], 1] )"
    let s : Scan := ⟨c, .push .patternValue ⟨[.patternGroup]⟩⟩
    Undisturbed Cursor.Continues true s.modes 27 s ∧
      ¬Undisturbed Cursor.Continues true s.modes 28 s := by
  decide +kernel

end Scan

/-- Where `P` holds, a text is read alike in any two of the modes, on any stacks. -/
structure SameExpression (modes : Mode → Prop) (P : Cursor → Prop) : Prop where
  step : ∀ resync c (S S' : ModeStack) m m', modes m → modes m' → c.ahead ≠ [] → P c →
    (Scan.step resync ⟨c, S.push m⟩).tokens = (Scan.step resync ⟨c, S'.push m'⟩).tokens ∧
    Scan.move resync ⟨c, S.push m⟩ = Scan.move resync ⟨c, S'.push m'⟩
  stretch : ∀ resync n c (S S' : ModeStack) m m', modes m → modes m' →
    Scan.Undisturbed P resync (S.push m) n ⟨c, S.push m⟩ →
      ((Scan.steps resync ⟨c, S.push m⟩).take n).map (·.tokens) =
        ((Scan.steps resync ⟨c, S'.push m'⟩).take n).map (·.tokens)

def ModeStack.under (S : ModeStack) (opened : List Mode) : ModeStack := ⟨opened ++ S.above⟩

def Action.keeps : Action → Bool
  | stay | push _ => true
  | pop | replace _ => false

theorem Action.exists_apply_under (a : Action) {opened : List Mode}
    (h : opened = [] → a.keeps = true) :
    ∃ opened', ∀ S : ModeStack, a.apply (S.under opened) = S.under opened' := by
  cases a with
  | stay => exact ⟨opened, fun _ => rfl⟩
  | push m => exact ⟨m :: opened, fun _ => rfl⟩
  | pop =>
    cases opened with
    | nil => exact absurd (h rfl) Bool.false_ne_true
    | cons _ opened => exact ⟨opened, fun _ => rfl⟩
  | replace m =>
    cases opened with
    | nil => exact absurd (h rfl) Bool.false_ne_true
    | cons _ opened => exact ⟨m :: opened, fun _ => rfl⟩

namespace Move

def keeps : Move → Bool
  | take _ a => a.keeps
  | refuse => true
  | leave | resync => false

theorem exists_apply_under {mv : Move} (hresync : mv ≠ .resync) {opened : List Mode}
    (h : opened = [] → mv.keeps = true) :
    ∃ opened', ∀ S : ModeStack, mv.apply (S.under opened) = S.under opened' := by
  cases mv with
  | take ps a => exact a.exists_apply_under h
  | leave => exact Action.pop.exists_apply_under h
  | refuse => exact Action.stay.exists_apply_under fun _ => rfl
  | resync => exact absurd rfl hresync

end Move

open Rule Shape Lexeme

namespace Scan

variable {resync : Bool} {c : Cursor} {F F' : ModeStack} {P : Cursor → Prop}

/-- Of the stack, only the rules of the mode on top decide what is done. -/
theorem move_eq_of_first? (h : first? c F.top.rules = first? c F'.top.rules) :
    move resync ⟨c, F⟩ = move resync ⟨c, F'⟩ := by
  simp only [move, chosen?_eq_first?, h]

theorem tokens_step_of_move (h : move resync ⟨c, F⟩ = move resync ⟨c, F'⟩) :
    (step resync ⟨c, F⟩).tokens = (step resync ⟨c, F'⟩).tokens := by
  rw [step, step, tokens_perform, tokens_perform, h]

theorem keeps_move (h : first? c F.top.rules = first? c expression)
    (hresync : move resync ⟨c, F⟩ ≠ .resync) : (move resync ⟨c, F⟩).keeps = true := by
  have hall : ∀ r ∈ expression, r.isZeroWidth = false ∧ r.action.keeps = true := by decide
  cases hf : first? c expression with
  | some p =>
    obtain ⟨r, ps⟩ := p
    obtain ⟨hz, hkeeps⟩ := hall r (mem_of_first? hf).1
    rw [move_of_first? (s := ⟨c, F⟩) resync (h.trans hf) hz]
    exact hkeeps
  | none =>
    rw [move, chosen?_eq_first?, h, hf] at hresync ⊢
    dsimp only at hresync ⊢
    split at hresync
    · exact absurd rfl hresync
    · rename_i hnewline
      rw [if_neg hnewline]
      rfl

/-- Two frames under which, where `P` holds, the rules of an expression come first. -/
theorem tokens_take_steps
    (hF : ∀ c, c.ahead ≠ [] → P c → first? c F.top.rules = first? c expression)
    (hF' : ∀ c, c.ahead ≠ [] → P c → first? c F'.top.rules = first? c expression) (n : Nat)
    (c : Cursor) (opened : List Mode) (h : Undisturbed P resync F n ⟨c, F.under opened⟩) :
    ((steps resync ⟨c, F.under opened⟩).take n).map (·.tokens) =
      ((steps resync ⟨c, F'.under opened⟩).take n).map (·.tokens) := by
  induction n generalizing c opened with
  | zero => rfl
  | succ n ih =>
    by_cases hne : c.ahead = []
    · rw [steps_of_nil (s := ⟨c, F.under opened⟩) hne, steps_of_nil (s := ⟨c, F'.under opened⟩) hne]
    obtain ⟨hP, hrest⟩ := h hne
    have hmove : move resync ⟨c, F.under opened⟩ = move resync ⟨c, F'.under opened⟩ := by
      refine move_eq_of_first? ?_
      cases opened with
      | nil => exact (hF c hne (hP rfl)).trans (hF' c hne (hP rfl)).symm
      | cons m opened => rfl
    rw [steps_of_ne_nil (s := ⟨c, F.under opened⟩) hne,
      steps_of_ne_nil (s := ⟨c, F'.under opened⟩) hne, List.take_succ_cons, List.take_succ_cons,
      List.map_cons, List.map_cons, tokens_step_of_move hmove]
    by_cases hresync : move resync ⟨c, F.under opened⟩ = .resync
    · -- back at the root, the two scans are one
      have hnext : (step resync ⟨c, F.under opened⟩).next =
          (step resync ⟨c, F'.under opened⟩).next := by
        rw [step, step, ← hmove, hresync]
        rfl
      rw [hnext]
    · have hkeeps : opened = [] → (move resync ⟨c, F.under opened⟩).keeps = true := by
        rintro rfl
        exact keeps_move (hF c hne (hP rfl)) hresync
      obtain ⟨opened', happly⟩ := Move.exists_apply_under hresync hkeeps
      have hleft := hrest hresync
      rw [step, next_perform, happly] at hleft
      rw [step, step, next_perform, next_perform, ← hmove, happly, happly]
      rw [ih _ opened' hleft]

end Scan

/-- Where the rules of an expression come first in each of the modes, nothing tells them apart. -/
theorem sameExpression_of_first? {modes : Mode → Prop} {P : Cursor → Prop}
    (h : ∀ m, modes m → ∀ c, c.ahead ≠ [] → P c → first? c m.rules = first? c expression) :
    SameExpression modes P where
  step := by
    intro resync c S S' m m' hm hm' hne hP
    have hmove : Scan.move resync ⟨c, S.push m⟩ = Scan.move resync ⟨c, S'.push m'⟩ :=
      Scan.move_eq_of_first? ((h m hm c hne hP).trans (h m' hm' c hne hP).symm)
    exact ⟨Scan.tokens_step_of_move hmove, hmove⟩
  stretch := fun resync n c _ _ m m' hm hm' hu => Scan.tokens_take_steps (h m hm) (h m' hm') n c [] hu

section

variable {c : Cursor} {cs : List Char} {m : Mode} {S : ModeStack} {resync : Bool}

theorem first?_expression_of_unit (h : ['(', ')'] <+: c.ahead) :
    first? c expression = some (emits .nameBuiltin (text "()"), [(.nameBuiltin, 2)]) := by
  obtain ⟨cs, ha⟩ := id h
  rw [← first?_filter ha.symm]
  exact first?_cons_of_some (match?_literal h (by decide))

theorem first?_expression_of_paren (ha : c.ahead = '(' :: cs) (h : ¬['(', ')'] <+: c.ahead) :
    first? c expression = some (opens .punctuation (char '(') .parens, [(.punctuation, 1)]) := by
  have hfilter : expression.filter (·.starts '(') = [emits .nameBuiltin (text "()"),
      emits .operator operator, opens .punctuation (char '(') .parens, punctuation] := rfl
  have hunit : (emits .nameBuiltin (text "()")).match? c = none := match?_literal_eq_none h
  rw [← first?_filter ha, hfilter, first?_cons_of_none hunit,
    first?_cons_of_none (match?_operator_eq_none ha (by decide))]
  exact first?_cons_of_some (match?_char ha)

theorem first?_patternValue_of_paren (ha : c.ahead = '(' :: cs) :
    first? c Mode.patternValue.rules =
      some (opens .punctuation (char '(') .parens, [(.punctuation, 1)]) :=
  first?_cons_of_some (match?_char ha)

theorem Mode.ReadsExpressions.first?_of_continues (hm : m.ReadsExpressions) (hne : c.ahead ≠ [])
    (hc : c.Continues) (hunit : m = .patternValue → ¬['(', ')'] <+: c.ahead) :
    first? c m.rules = first? c expression := by
  obtain ⟨x, cs, ha⟩ := List.exists_cons_of_ne_nil hne
  have hx : x ∉ [')', ',', ']', '}'] := by simpa [Cursor.Continues, Cursor.peek?, ha] using hc
  by_cases hparen : x = '('
  · subst hparen
    rcases hm with rfl | rfl | rfl | rfl | rfl
    · exact first?_cons_of_none (match?_eq_none_of_starts ha (by decide))
    · exact first?_cons_of_none (match?_eq_none_of_starts ha (by decide))
    · exact first?_cons_of_none (match?_eq_none_of_starts ha (by decide))
    · exact first?_cons_of_none (match?_eq_none_of_starts ha (by decide))
    · rw [first?_patternValue_of_paren ha, first?_expression_of_paren ha (hunit rfl)]
  · exact hm.first?_rules ha fun hmem => (List.mem_cons.1 hmem).elim hparen hx

/-- In the value of a pattern, the unit is not read as elsewhere. -/
theorem Scan.move_ne_of_unit (hc : c.Continues) (h : ['(', ')'] <+: c.ahead) :
    move resync ⟨c, S.push .parens⟩ ≠ move resync ⟨c, S.push .patternValue⟩ := by
  obtain ⟨cs, ha⟩ := id h
  have hne : c.ahead ≠ [] := ha ▸ List.cons_ne_nil _ _
  have hparens : first? c Mode.parens.rules =
      some (emits .nameBuiltin (text "()"), [(.nameBuiltin, 2)]) := by
    rw [Mode.ReadsExpressions.first?_of_continues (.inr (.inl rfl)) hne hc nofun]
    exact first?_expression_of_unit h
  rw [move_of_first? (s := ⟨c, S.push .parens⟩) resync hparens rfl,
    move_of_first? (s := ⟨c, S.push .patternValue⟩) resync
      (first?_patternValue_of_paren ha.symm) rfl]
  decide

end

/-- With a bracket of their own to close them, the modes differ in nothing else. -/
theorem sameExpression_of_ne_patternValue :
    SameExpression (fun m => m.ReadsExpressions ∧ m ≠ .patternValue) Cursor.Continues :=
  sameExpression_of_first? fun _ hm _ hne hc =>
    hm.1.first?_of_continues hne hc fun h => absurd h hm.2

/-- The modes read an expression alike just where no unit stands. -/
theorem sameExpression_iff {P : Cursor → Prop} (hP : ∀ c, P c → c.Continues) :
    SameExpression Mode.ReadsExpressions P ↔ ∀ c, P c → ¬['(', ')'] <+: c.ahead := by
  constructor
  · intro h c hc hunit
    have hne : c.ahead ≠ [] := by
      rintro he
      simp [he] at hunit
    have hmove := (h.step true c .base .base .parens .patternValue (.inr (.inl rfl))
      (.inr (.inr (.inr (.inr rfl)))) hne hc).2
    exact Scan.move_ne_of_unit (hP c hc) hunit hmove
  · intro h
    exact sameExpression_of_first? fun m hm c hne hc =>
      hm.first?_of_continues hne (hP c hc) fun _ => h c hc

/-- All that the modes need in order to agree is that no unit is ahead; one further on may be. -/
theorem sameExpression_iff_noUnit :
    let P := fun c : Cursor => c.Continues ∧ ¬['(', ')'] <+: c.ahead
    P (.ofString "((), x)") ∧ (∀ c, P c → c.Continues) ∧
      SameExpression Mode.ReadsExpressions P := by
  intro P
  have hP : ∀ c, P c → c.Continues := fun _ h => h.1
  exact ⟨by decide, hP, (sameExpression_iff hP).2 fun _ h => h.2⟩

/-- The last value in `.(.a = ())` is not read as it would be between parentheses. -/
theorem not_sameExpression : ¬SameExpression Mode.ReadsExpressions Cursor.Continues := by
  intro h
  have hstep := (h.step true ((Cursor.ofString ".(.a = ())").skip 7) ⟨[.patternGroup]⟩ .base
    .patternValue .parens (.inr (.inr (.inr (.inr rfl)))) (.inr (.inl rfl)) (by decide +kernel)
    (by decide +kernel)).1
  exact absurd hstep (by decide +kernel)

end ModalLexer
