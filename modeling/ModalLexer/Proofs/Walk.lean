import ModalLexer.Proofs.Steps

/-!
Scans step by step: the steps of a run in a row, and stretches of them with all that came of each.
-/

namespace ModalLexer

theorem Run.foldr_after (sts : List Step) (r : Run) :
    sts.foldr .after r =
      { tokens := sts.flatMap (·.tokens) ++ r.tokens
        diagnostics := sts.flatMap (·.diagnostics) ++ r.diagnostics
        events := sts.flatMap (·.events) ++ r.events
        final := r.final } := by
  induction sts with
  | nil => rfl
  | cons st sts ih => rw [List.foldr_cons, ih]; simp [after]

namespace Scan

def steps (resync : Bool) (s : Scan) : List Step :=
  if _ : s.cursor.ahead = [] then []
  else s.step resync :: (s.step resync).next.steps resync
termination_by s.weight
decreasing_by exact weight_step_lt resync ‹_›

/-- A stretch of a run: the steps that lead from one scan to another. -/
inductive Walks (resync : Bool) : Scan → List Step → Scan → Prop
  | refl (s : Scan) : Walks resync s [] s
  | head {s u : Scan} {sts : List Step} : s.cursor.ahead ≠ [] →
      Walks resync (s.step resync).next sts u → Walks resync s (s.step resync :: sts) u

variable {resync : Bool} {s u : Scan} {sts : List Step}

theorem steps_of_nil (h : s.cursor.ahead = []) : s.steps resync = [] := by
  rw [steps, dif_pos h]

theorem steps_of_ne_nil (h : s.cursor.ahead ≠ []) :
    s.steps resync = s.step resync :: (s.step resync).next.steps resync := by
  rw [steps, dif_neg h]

/-- The steps of a run lead to the end of it. -/
theorem walks_steps : Walks resync s (s.steps resync) (s.run resync).final := by
  fun_induction run resync s with
  | case1 s h => rw [steps_of_nil h]; exact .refl s
  | case2 s h ih => rw [steps_of_ne_nil h]; exact .head h ih

namespace Walks

theorem reaches (h : Walks resync s sts u) : Reaches resync s u := by
  induction h with
  | refl => exact .refl
  | head hne _ ih => exact ih.head hne

theorem concat (h : Walks resync s sts u) (hne : u.cursor.ahead ≠ []) :
    Walks resync s (sts ++ [u.step resync]) (u.step resync).next := by
  induction h with
  | refl s => exact .head hne (.refl _)
  | head hs _ ih => exact .head hs (ih hne)

theorem append {v : Scan} {sts' : List Step} (h : Walks resync s sts u)
    (hu : Walks resync u sts' v) : Walks resync s (sts ++ sts') v := by
  induction h with
  | refl => exact hu
  | head hne _ ih => exact .head hne (ih hu)

theorem run_eq (h : Walks resync s sts u) :
    s.run resync = sts.foldr .after (u.run resync) := by
  induction h with
  | refl => rfl
  | head hne _ ih => rw [run_of_ne_nil hne, ih, List.foldr_cons]

end Walks

theorem Reaches.exists_walks (h : Reaches resync s u) : ∃ sts, Walks resync s sts u := by
  induction h with
  | refl => exact ⟨[], .refl s⟩
  | tail _ hne ih =>
    obtain ⟨sts, hw⟩ := ih
    exact ⟨_, hw.concat hne⟩

/-- Steps that come on by `n` characters and make tokens of certain kinds of them, without any
message. -/
structure Makes (kinds : List TokenKind) (resync : Bool) (s : Scan) (sts : List Step) (u : Scan)
    (n : Nat) : Prop where
  walks : Walks resync s sts u
  cursor : u.cursor = s.cursor.skip n
  only : ∀ t ∈ sts.flatMap (·.tokens), t.kind ∈ kinds
  texts : (sts.flatMap (·.tokens)).flatMap (·.text.toList) = s.cursor.ahead.take n
  silent : sts.flatMap (·.diagnostics) = []

namespace Makes

variable {kinds : List TokenKind} {k n : Nat} {v : Scan} {sts' : List Step}

theorem refl (s : Scan) : s.Makes kinds resync [] s 0 :=
  ⟨.refl s, rfl, by simp, rfl, rfl⟩

theorem trans (h : s.Makes kinds resync sts u k) (hu : u.Makes kinds resync sts' v n) :
    s.Makes kinds resync (sts ++ sts') v (k + n) := by
  refine ⟨h.walks.append hu.walks, ?_, ?_, ?_, ?_⟩
  · rw [hu.cursor, h.cursor, Cursor.skip_add]
  · rw [List.flatMap_append]
    exact List.forall_mem_append.2 ⟨h.only, hu.only⟩
  · rw [List.flatMap_append, List.flatMap_append, h.texts, hu.texts, h.cursor, Cursor.ahead_skip,
      List.take_add]
  · rw [List.flatMap_append, h.silent, hu.silent]
    rfl

theorem of_take {kind : TokenKind} {a : Action} (hstep : s.step resync = s.take [(kind, n)] a)
    (hkind : kind ∈ kinds) (herror : kind ≠ .error) (hn : 0 < n)
    (hle : n ≤ s.cursor.ahead.length) :
    s.Makes kinds resync [s.step resync] ⟨s.cursor.skip n, a.apply s.modes⟩ n := by
  have htokens : (s.step resync).tokens = [s.cursor.token kind n] := by
    rw [hstep, take, Cursor.tokens_of_pos hn]
  have hsilent : (s.step resync).diagnostics = [] := by
    rw [hstep]
    exact diagnostics_take _ (List.forall_mem_singleton.2 herror)
  have hnext : (s.step resync).next = ⟨s.cursor.skip n, a.apply s.modes⟩ := by
    rw [hstep]
    rfl
  have hne : s.cursor.ahead ≠ [] := List.ne_nil_of_length_pos (by omega)
  refine ⟨hnext ▸ .head hne (.refl _), rfl, ?_, ?_, ?_⟩
  · rw [List.flatMap_singleton, htokens]
    exact List.forall_mem_singleton.2 hkind
  · rw [List.flatMap_singleton, htokens]
    simp [Cursor.token]
  · rw [List.flatMap_singleton, hsilent]

theorem of_first? {kind : TokenKind} {shape : Shape} {a : Action}
    (hfirst : Rule.first? s.cursor s.modes.top.rules = some (.token kind shape a, [(kind, n)]))
    (hkind : kind ∈ kinds) (herror : kind ≠ .error) :
    s.Makes kinds resync [s.step resync] ⟨s.cursor.skip n, a.apply s.modes⟩ n := by
  have hmatch := (Rule.mem_of_first? hfirst).2
  refine of_take (step_of_first? resync hfirst rfl) hkind herror ?_ ?_
  · simpa using Rule.total_pos_of_match? hmatch rfl
  · simpa using Rule.total_le_of_match? hmatch

theorem run_eq (h : s.Makes kinds resync sts u n) (hend : u.cursor.ahead = []) :
    (s.run resync).tokens = sts.flatMap (·.tokens) ∧ (s.run resync).diagnostics = [] ∧
      (s.run resync).final = u := by
  rw [h.walks.run_eq, run_of_nil hend, Run.foldr_after]
  exact ⟨List.append_nil _, by rw [h.silent]; rfl, rfl⟩

end Makes
end Scan
end ModalLexer
