import ModalLexer.Proofs.FirstMatch
import ModalLexer.Proofs.Ledger
import ModalLexer.Proofs.Walk

/-!
The two ways of dealing with a newline that no rule takes. Only behind the backslash of an escape
is there such a newline; up to the first of them, and so to the end where there is none, it makes
no difference which way is taken.
-/

namespace ModalLexer

open Rule Shape Lexeme

theorem drop_length_takeWhile (p : Char → Bool) (cs : List Char) :
    cs.drop (cs.takeWhile p).length = cs.dropWhile p := by
  have h : (cs.takeWhile p ++ cs.dropWhile p).drop (cs.takeWhile p).length = cs.dropWhile p :=
    List.drop_left
  rwa [List.takeWhile_append_dropWhile] at h

namespace Rule

variable {c : Cursor} {x : Char} {cs : List Char}

theorem match?_many1_ne_none {kind : TokenKind} {p : Char → Bool} {a : Action}
    (h : c.ahead = x :: cs) (hx : p x = true) : (token kind (many1 p) a).match? c ≠ none := by
  have hreach : (many1 p).reach c.previous? c.ahead = some ((x :: cs).takeWhile p).length := by
    rw [h]
    exact reach_many1_of_head hx
  rw [match?_token hreach (by simp [hx])]
  exact Option.some_ne_none _

theorem match?_gap_eq_none_iff (h : c.ahead = x :: cs) (hx : isBlank x = true) :
    (groups [(.whitespace, blanks), (.stringEscape, char '\\')] .pop).match? c = none ↔
      (c.ahead.dropWhile isBlank).head? ≠ some '\\' := by
  have hreach : blanks.reach c.previous? c.ahead = some (c.ahead.takeWhile isBlank).length := by
    rw [h]
    exact reach_many1_of_head hx
  have hpos : 0 < (c.ahead.takeWhile isBlank).length := by simp [h, hx]
  simp only [match?, split?, hreach, drop_length_takeWhile, Option.bind_eq_bind, Option.bind_some,
    Option.pure_def, char, reach]
  cases (c.ahead.dropWhile isBlank).head? with
  | none => simp
  | some y => by_cases hy : y = '\\' <;> simp [hy, Option.filter]

end Rule

namespace Mode

/-- Only behind the backslash of an escape a newline is not read as a matter of course. -/
theorem exists_match_newline {m : Mode} (hm : m ≠ .escape) {c : Cursor} {cs : List Char}
    (h : c.ahead = '\n' :: cs) : ∃ r ∈ m.rules, r.match? c ≠ none := by
  have hblank : Rule.whitespace.match? c ≠ none := match?_many1_ne_none h (by decide)
  have hcomment : (emits .commentMultiline commentText).match? c ≠ none :=
    match?_many1_ne_none h (by decide)
  have hstring : (emits .string stringText).match? c ≠ none := match?_many1_ne_none h (by decide)
  cases m with
  | escape => exact absurd rfl hm
  | comment => exact ⟨_, List.mem_cons_self, hcomment⟩
  | string => exact ⟨_, List.mem_cons_self, hstring⟩
  | multilineString => exact ⟨_, List.mem_cons_of_mem _ List.mem_cons_self, hstring⟩
  | pattern => exact ⟨leaveWhen fun _ => true, by simp [rules], by simp [match?]⟩
  | _ => exact ⟨Rule.whitespace, by simp [rules, expression, listBody], hblank⟩

end Mode

namespace Scan

structure Stranded (s : Scan) : Prop where
  newline : s.cursor.peek? = some '\n'
  unmatched : ∀ r ∈ s.modes.top.rules, r.match? s.cursor = none

variable {resync : Bool} {source : String} {s : Scan}

theorem Stranded.exists_ahead (h : s.Stranded) : ∃ cs, s.cursor.ahead = '\n' :: cs :=
  List.head?_eq_some_iff.1 h.newline

theorem stranded_iff : s.Stranded ↔ s.modes.top = .escape ∧ s.cursor.peek? = some '\n' ∧
    (s.cursor.ahead.dropWhile isBlank).head? ≠ some '\\' := by
  have hnewline : isBlank '\n' = true := by decide
  constructor
  · intro h
    obtain ⟨cs, hcs⟩ := h.exists_ahead
    have hm : s.modes.top = .escape := by
      by_contra hne
      obtain ⟨r, hr, hmatch⟩ := Mode.exists_match_newline hne hcs
      exact hmatch (h.unmatched r hr)
    refine ⟨hm, h.newline, (match?_gap_eq_none_iff hcs hnewline).1 (h.unmatched _ ?_)⟩
    simp [hm, Mode.rules]
  · intro ⟨hm, hpeek, hgap⟩
    obtain ⟨cs, hcs⟩ := List.head?_eq_some_iff.1 hpeek
    refine ⟨hpeek, fun r hr => ?_⟩
    rw [hm] at hr
    cases hx : r.starts '\n' with
    | false => exact match?_eq_none_of_starts hcs hx
    | true =>
      have hmem : r ∈ Mode.escape.rules.filter (·.starts '\n') := List.mem_filter.2 ⟨hr, hx⟩
      obtain rfl := List.mem_singleton.1 hmem
      exact (match?_gap_eq_none_iff hcs hnewline).2 hgap

theorem Stranded.ahead_ne_nil (h : s.Stranded) : s.cursor.ahead ≠ [] := by
  obtain ⟨cs, hcs⟩ := h.exists_ahead
  simp [hcs]

theorem Stranded.top_eq (h : s.Stranded) : s.modes.top = .escape := (stranded_iff.1 h).1

theorem Stranded.move_eq (h : s.Stranded) :
    s.move resync = if resync then .resync else .refuse := by
  cases resync <;> simp [move, chosen?_eq_none_iff.2 h.unmatched, h.newline]

def newlineToken (s : Scan) (kind : TokenKind) : Token :=
  ⟨kind, "\n", ⟨s.cursor.position, s.cursor.position + 1, s.cursor.line, s.cursor.column⟩⟩

theorem Stranded.tokens_step (h : s.Stranded) : (s.step resync).tokens =
    [s.newlineToken (if resync then .whitespace else .error)] := by
  obtain ⟨cs, hcs⟩ := h.exists_ahead
  have hsize : '\n'.utf8Size = 1 := by decide
  have htoken (kind : TokenKind) : s.cursor.tokens [(kind, 1)] = [s.newlineToken kind] := by
    simp [Cursor.tokens, Cursor.token, newlineToken, hcs, Cursor.skip_succ, Cursor.advance, hsize]
  rw [step, tokens_perform, h.move_eq]
  cases resync
  · exact htoken .error
  · exact htoken .whitespace

theorem Stranded.next_step (h : s.Stranded) : (s.step resync).next =
    ⟨s.cursor.advance, if resync then .base else s.modes⟩ := by
  rw [step, h.move_eq]
  cases resync <;> rfl

theorem Stranded.diagnostics_step (h : s.Stranded) : (s.step resync).diagnostics =
    if resync then [] else [(s.newlineToken .error).complaint .escape] := by
  have ht : (s.step resync).tokens = _ := h.tokens_step
  rw [step] at ht ⊢
  rw [diagnostics_perform, ht, h.top_eq]
  cases resync <;> rfl

theorem step_eq_of_not_stranded (h : ¬ s.Stranded) : s.step resync = s.step true := by
  have hmove : s.move resync = s.move true := by
    cases hc : s.chosen? with
    | some p => simp [move, hc]
    | none =>
      have hpeek : s.cursor.peek? ≠ some '\n' := fun e => h ⟨e, chosen?_eq_none_iff.1 hc⟩
      simp [move, hc, hpeek]
  rw [step, hmove, step]

/-- Where the runs with and without resynchronization part: after the steps `before`, at `u`. -/
structure Parts (s : Scan) (before : List Step) (u : Scan) : Prop where
  walks : ∀ resync, Walks resync s before u
  stranded : u.Stranded
  first : ∀ resync v, Reaches resync s v → v.Stranded → Reaches resync u v

theorem Reaches.eq_of_nil {v : Scan} (h : Reaches resync s v) (he : s.cursor.ahead = []) :
    v = s := by
  induction h with
  | refl => rfl
  | tail _ hne ih => exact absurd (ih ▸ he) hne

variable {before : List Step} {u : Scan}

/-- A step that does not tell the two ways apart can be put in front. -/
theorem Parts.cons (hs : ¬ s.Stranded) (hne : s.cursor.ahead ≠ [])
    (h : (s.step true).next.Parts before u) : s.Parts (s.step true :: before) u where
  walks := by
    intro resync
    have hwalks := h.walks resync
    rw [← step_eq_of_not_stranded hs] at hwalks ⊢
    exact .head hne hwalks
  stranded := h.stranded
  first := by
    intro resync v hv hstranded
    obtain rfl | hv := hv.cases_head
    · exact absurd hstranded hs
    · rw [step_eq_of_not_stranded hs] at hv
      exact h.first resync v hv hstranded

/-- Nothing stranded is met, whichever way is taken, and both ways make the same of the scan. -/
structure Alike (s : Scan) : Prop where
  never : ∀ resync v, Reaches resync s v → ¬ v.Stranded
  steps : s.steps true = s.steps false
  run : s.run true = s.run false

theorem alike_of_nil (he : s.cursor.ahead = []) : s.Alike where
  never := by
    intro resync v hv hstranded
    rw [hv.eq_of_nil he] at hstranded
    exact hstranded.ahead_ne_nil he
  steps := by rw [steps_of_nil he, steps_of_nil he]
  run := by rw [run_of_nil he, run_of_nil he]

theorem Alike.cons (hs : ¬ s.Stranded) (hne : s.cursor.ahead ≠ [])
    (h : (s.step true).next.Alike) : s.Alike where
  never := by
    intro resync v hv
    obtain rfl | hv := hv.cases_head
    · exact hs
    · rw [step_eq_of_not_stranded hs] at hv
      exact h.never resync v hv
  steps := by
    rw [steps_of_ne_nil hne, h.steps, ← step_eq_of_not_stranded hs, ← steps_of_ne_nil hne]
  run := by
    rw [run_of_ne_nil hne, h.run, ← step_eq_of_not_stranded hs, ← run_of_ne_nil hne]

/-- Scans agree step by step up to the first newline that no rule takes. -/
theorem alike_or_parts (s : Scan) : s.Alike ∨ ∃ before u, s.Parts before u := by
  fun_induction steps true s with
  | case1 s he => exact .inl (alike_of_nil he)
  | case2 s hne ih =>
    by_cases hs : s.Stranded
    · exact .inr ⟨[], s, fun _ => .refl s, hs, fun _ _ hv _ => hv⟩
    · obtain h | ⟨before, u, h⟩ := ih
      · exact .inl (h.cons hs hne)
      · exact .inr ⟨_, u, h.cons hs hne⟩

end Scan

/-- What the two runs of a source do where they part: after the steps `before`, at `u`. -/
structure PartsAt (source : String) (before : List Step) (u : Scan) : Prop where
  parts : (Scan.start source.toList).Parts before u
  run : ∀ resync, (Scan.start source.toList).run resync =
    before.foldr .after (.after (u.step resync) ((u.step resync).next.run resync))
  resynced_tokens : (u.step true).tokens = [u.newlineToken .whitespace]
  resynced_diagnostics : (u.step true).diagnostics = []
  resynced_next : (u.step true).next = ⟨u.cursor.advance, .base⟩
  refused_tokens : (u.step false).tokens = [u.newlineToken .error]
  refused_diagnostics : ∃ d, (u.step false).diagnostics = [d] ∧
    d.Blames (u.newlineToken .error) .escape
  refused_next : (u.step false).next = ⟨u.cursor.advance, u.modes⟩

theorem Scan.Parts.partsAt {source : String} {before : List Step} {u : Scan}
    (h : (Scan.start source.toList).Parts before u) : PartsAt source before u where
  parts := h
  run := by
    intro resync
    rw [(h.walks resync).run_eq, run_of_ne_nil h.stranded.ahead_ne_nil]
  resynced_tokens := h.stranded.tokens_step
  resynced_diagnostics := h.stranded.diagnostics_step
  resynced_next := h.stranded.next_step
  refused_tokens := h.stranded.tokens_step
  refused_diagnostics := ⟨_, h.stranded.diagnostics_step, Token.blames_complaint _ _⟩
  refused_next := h.stranded.next_step

/-- A run with resynchronization and one without differ only behind a backslash at the end of a
line, and from the first one on. -/
theorem lex_eq_or_partsAt (source : String) :
    (∀ s : Scan, s.Stranded ↔ s.modes.top = .escape ∧ s.cursor.peek? = some '\n' ∧
      (s.cursor.ahead.dropWhile isBlank).head? ≠ some '\\') ∧
    ((Scan.start source.toList).Alike ∧ lex true source = lex false source ∨
      ∃ before u, PartsAt source before u) := by
  refine ⟨fun s => Scan.stranded_iff, ?_⟩
  obtain h | ⟨before, u, h⟩ := (Scan.start source.toList).alike_or_parts
  · exact .inl ⟨h, by rw [lex, h.run, lex]⟩
  · exact .inr ⟨before, u, h.partsAt⟩

end ModalLexer
