import ModalLexer.Proofs.Ledger
import ModalLexer.Proofs.Walk

/-!
Starting again in the middle of a source. Rules look back only to see whether a word begins where
the cursor is, and a scan knows its place by adding to it; hence where nothing but the root is open
and no word reaches across, what is left of a source is lexed as if it were all of it, and every
place is shifted by the text in front.
-/

namespace ModalLexer

namespace Shape

def lookbacks : Shape → List (Char → Bool)
  | notAfter p => [p]
  | seq a b | alt a b => a.lookbacks ++ b.lookbacks
  | opt a => a.lookbacks
  | _ => []

variable {prev prev' : Option Char}

theorem any_lastOf_congr {p : Char → Bool} (h : prev.any p = prev'.any p) (n : Nat)
    (cs : List Char) : (lastOf prev n cs).any p = (lastOf prev' n cs).any p := by
  unfold lastOf
  cases (cs.take n).getLast? with
  | none => exact h
  | some x => rfl

/-- What comes before matters only in the classes that it is looked up in. -/
theorem reach_congr {s : Shape} (h : ∀ p ∈ s.lookbacks, prev.any p = prev'.any p)
    (cs : List Char) : s.reach prev cs = s.reach prev' cs := by
  induction s generalizing prev prev' cs with
  | notAfter p => rw [reach, h p List.mem_cons_self, reach]
  | seq a b iha ihb =>
    obtain ⟨ha, hb⟩ := List.forall_mem_append.1 h
    have hrest (m : Nat) := ihb (fun p hp => any_lastOf_congr (hb p hp) m cs) (cs.drop m)
    simp only [reach, iha ha cs, hrest]
  | alt a b iha ihb =>
    obtain ⟨ha, hb⟩ := List.forall_mem_append.1 h
    rw [reach, iha ha, ihb hb, reach]
  | opt a ih => rw [reach, ih h, reach]
  | literal | one | many | run | digits | notBefore | before => rfl

end Shape

namespace Rule

def lookbacks (r : Rule) : List (Char → Bool) := r.parts.flatMap (·.2.lookbacks)

theorem split?_congr {parts : List (TokenKind × Shape)} {prev prev' : Option Char}
    (h : ∀ p ∈ parts.flatMap (·.2.lookbacks), prev.any p = prev'.any p) (cs : List Char) :
    split? parts prev cs = split? parts prev' cs := by
  induction parts generalizing prev prev' cs with
  | nil => rfl
  | cons part parts ih =>
    obtain ⟨kind, shape⟩ := part
    rw [List.flatMap_cons] at h
    obtain ⟨hshape, hparts⟩ := List.forall_mem_append.1 h
    have hrest (n : Nat) := ih (fun p hp => Shape.any_lastOf_congr (hparts p hp) n cs) (cs.drop n)
    simp only [split?, Shape.reach_congr hshape, hrest]

theorem match?_congr {r : Rule} {c d : Cursor} (hahead : c.ahead = d.ahead)
    (hprev : ∀ p ∈ r.lookbacks, c.previous?.any p = d.previous?.any p) :
    r.match? c = r.match? d := by
  have hsplit : split? r.parts c.previous? c.ahead = split? r.parts d.previous? d.ahead := by
    rw [hahead, split?_congr hprev]
  cases r with
  | token | groups => exact congrArg (Option.filter (0 < Piece.total ·)) hsplit
  | leaveWhen test => rw [match?, Cursor.peek?, hahead, match?, Cursor.peek?]

end Rule

/-- All that is looked back for, in any mode, is the end of a word. -/
theorem Mode.eq_isIdent_of_mem_lookbacks {m : Mode} {r : Rule} (hr : r ∈ m.rules)
    {p : Char → Bool} (hp : p ∈ r.lookbacks) : p = isIdent := by
  -- classes are functions: equality of them is not decided but seen by evaluating the table
  have hall : m.rules.flatMap Rule.lookbacks =
      List.replicate (m.rules.flatMap Rule.lookbacks).length isIdent := by
    cases m <;> rfl
  exact List.eq_replicate_length.1 hall p (List.mem_flatMap.2 ⟨r, hr, hp⟩)

theorem Scan.move_congr {resync : Bool} {s u : Scan} (hmodes : s.modes = u.modes)
    (hahead : s.cursor.ahead = u.cursor.ahead)
    (hprev : s.cursor.previous?.any isIdent = u.cursor.previous?.any isIdent) :
    s.move resync = u.move resync := by
  have hmatch : ∀ r ∈ s.modes.top.rules, r.match? s.cursor = r.match? u.cursor :=
    fun r hr => Rule.match?_congr hahead fun p hp => by
      rwa [Mode.eq_isIdent_of_mem_lookbacks hr hp]
  have hchosen : s.chosen? = u.chosen? := by
    simp only [chosen?, ← List.head?_filterMap, ← hmodes]
    rw [List.filterMap_congr fun r hr => by rw [hmatch r hr]]
  rw [move, move, hchosen, Cursor.peek?, Cursor.peek?, hahead]

def lastLineLength (front : List Char) : Nat := (front.reverse.takeWhile (· != '\n')).length

/-- The span in a text that is preceded by `front`: only on the first line columns change. -/
def Span.shift (front : List Char) (s : Span) : Span :=
  { start := byteLength front + s.start
    stop := byteLength front + s.stop
    line := front.count '\n' + s.line
    column := if s.line = 1 then lastLineLength front + s.column else s.column }

def Token.shift (front : List Char) (t : Token) : Token := { t with span := t.span.shift front }

def Diagnostic.shift (front : List Char) (d : Diagnostic) : Diagnostic :=
  { d with span := d.span.shift front }

namespace Cursor

def shift (front : List Char) (c : Cursor) : Cursor :=
  { before := c.before ++ front.reverse
    ahead := c.ahead
    position := byteLength front + c.position
    line := front.count '\n' + c.line
    column := if c.line = 1 then lastLineLength front + c.column else c.column }

variable {front : List Char} {c : Cursor}

theorem eq_shift_ofList (hc : c.Placed) : c = (ofList c.ahead).shift c.behind := by
  obtain ⟨before, ahead, position, line, column⟩ := c
  obtain ⟨hposition, hline, hcolumn⟩ := hc
  simp only [behind, lineAfter, columnAfter] at hposition hline hcolumn
  simp [shift, ofList, behind, lastLineLength, hposition, hline, hcolumn]

theorem line_advance_pos (h : 0 < c.line) : 0 < c.advance.line := by
  unfold advance
  split
  · exact h
  · simp only
    split <;> omega

theorem line_skip_pos (h : 0 < c.line) (n : Nat) : 0 < (c.skip n).line := by
  induction n generalizing c with
  | zero => exact h
  | succ n ih => exact ih (line_advance_pos h)

theorem advance_shift (h : 0 < c.line) : (c.shift front).advance = c.advance.shift front := by
  cases ha : c.ahead with
  | nil => rw [advance_of_nil ha, advance_of_nil (c := c.shift front) ha]
  | cons x rest =>
    -- behind a newline the line is not the first one, in which columns are shifted
    have hline : c.line ≠ 0 := by omega
    by_cases hx : x = '\n'
    · simp [advance, shift, ha, hx, hline, Nat.add_assoc]
    · simp only [advance, shift, ha, if_neg hx]
      split <;> simp only [List.cons_append, Nat.add_assoc]

theorem skip_shift (h : 0 < c.line) (n : Nat) :
    (c.shift front).skip n = (c.skip n).shift front := by
  induction n generalizing c with
  | zero => rfl
  | succ n ih => rw [skip_succ, advance_shift h, ih (line_advance_pos h), skip_succ]

theorem token_shift (h : 0 < c.line) (kind : TokenKind) (n : Nat) :
    (c.shift front).token kind n = (c.token kind n).shift front := by
  rw [token, skip_shift h]
  rfl

theorem tokens_shift (h : 0 < c.line) (ps : List Piece) :
    (c.shift front).tokens ps = (c.tokens ps).map (·.shift front) := by
  induction ps generalizing c with
  | nil => rfl
  | cons p ps ih =>
    obtain ⟨kind, n⟩ := p
    cases n with
    | zero => exact ih h
    | succ n =>
      rw [tokens, token_shift h, skip_shift h, ih (line_skip_pos h _), tokens, List.map_cons]

theorem any_previous?_shift (hfront : front.getLast?.any isIdent = false) :
    (c.shift front).previous?.any isIdent = c.previous?.any isIdent := by
  rw [previous?, previous?, shift, List.head?_append, List.head?_reverse]
  cases c.before.head? with
  | none => exact hfront
  | some x => rfl

end Cursor

namespace Scan

def shift (front : List Char) (s : Scan) : Scan := ⟨s.cursor.shift front, s.modes⟩

variable {resync : Bool} {front : List Char} {s : Scan}

theorem move_shift (hfront : front.getLast?.any isIdent = false) :
    (s.shift front).move resync = s.move resync :=
  move_congr rfl rfl (Cursor.any_previous?_shift hfront)

variable (resync) in
/-- What a step does in a source that begins with `front`. -/
theorem step_shift (hfront : front.getLast?.any isIdent = false) (h : 0 < s.cursor.line) :
    ((s.shift front).step resync).tokens = (s.step resync).tokens.map (·.shift front) ∧
    ((s.shift front).step resync).diagnostics = (s.step resync).diagnostics.map (·.shift front) ∧
    ((s.shift front).step resync).next = (s.step resync).next.shift front := by
  have htokens : ((s.shift front).step resync).tokens =
      (s.step resync).tokens.map (·.shift front) := by
    rw [step, step, move_shift hfront, tokens_perform, tokens_perform]
    exact Cursor.tokens_shift h _
  refine ⟨htokens, ?_, ?_⟩
  · rw [step] at htokens
    rw [step, step, diagnostics_perform, htokens, diagnostics_perform, List.filter_map,
      List.map_map, List.map_map]
    rfl
  · rw [step, step, move_shift hfront, next_perform, next_perform, shift, Cursor.skip_shift h]
    rfl

theorem unclosed_shift : (s.shift front).unclosed = s.unclosed.map (·.shift front) := by
  rw [unclosed, unclosed, shift]
  split <;> rfl

variable (resync) in
/-- What a run makes of a source that begins with `front`, from there on. -/
theorem run_shift (hfront : front.getLast?.any isIdent = false) (h : 0 < s.cursor.line) :
    ((s.shift front).run resync).tokens = (s.run resync).tokens.map (·.shift front) ∧
    ((s.shift front).run resync).diagnostics = (s.run resync).diagnostics.map (·.shift front) ∧
    ((s.shift front).run resync).final = (s.run resync).final.shift front := by
  fun_induction run resync s with
  | case1 s he =>
    rw [run_of_nil (s := s.shift front) he]
    exact ⟨rfl, rfl, rfl⟩
  | case2 s hne ih =>
    have hline : 0 < (s.step resync).next.cursor.line := by
      rw [step, cursor_perform]
      exact Cursor.line_skip_pos h _
    obtain ⟨htokens, hdiagnostics, hnext⟩ := step_shift resync hfront h
    obtain ⟨ihtokens, ihdiagnostics, ihfinal⟩ := ih hline
    rw [run_of_ne_nil (s := s.shift front) hne, hnext]
    simp only [Run.after, List.map_append]
    exact ⟨by rw [htokens, ihtokens], by rw [hdiagnostics, ihdiagnostics], ihfinal⟩

end Scan

/-- How lexing `a ++ b` goes on from `u`, where the steps `sts` lead: as `b` alone is lexed. -/
structure Restarts (resync : Bool) (a b : String) (sts : List Step) (u : Scan) : Prop where
  tokens : (lex resync (a ++ b)).tokens =
    sts.flatMap (·.tokens) ++ (lex resync b).tokens.map (·.shift a.toList)
  diagnostics : (lex resync (a ++ b)).diagnostics =
    sts.flatMap (·.diagnostics) ++ (lex resync b).diagnostics.map (·.shift a.toList)
  modes : (lex resync (a ++ b)).final.modes = (lex resync b).final.modes
  session : ∀ rs, let s := (Ledger.after resync (a ++ b) rs).session
    s.scan = u → s.pending = [] →
      s.rest.1 = (lex resync b).tokens.map (·.shift a.toList) ∧
      s.rest.2.diagnostics =
        s.diagnostics.report ((lex resync b).diagnostics.map (·.shift a.toList)) ∧
      s.rest.2.scan.modes = (lex resync b).final.modes

theorem eq_of_append_of_byteLength {a b c d : List Char} (h : a ++ b = c ++ d)
    (hl : byteLength a = byteLength c) : a = c ∧ b = d := by
  have hd := dropBytes?_byteLength a b
  rw [h, hl, dropBytes?_byteLength] at hd
  obtain rfl : d = b := Option.some.inj hd
  exact ⟨List.append_cancel_right h, rfl⟩

namespace Scan

variable {resync : Bool} {a b : String} {u : Scan}

/-- With nothing but the root open, a scan that has come to the end of `a` is one that begins. -/
theorem Reachable.eq_shift_start (hu : Reachable resync (a ++ b) u)
    (hpos : u.cursor.position = a.utf8ByteSize) (hm : u.modes = .base) :
    u = (start b.toList).shift a.toList := by
  have hsource : u.cursor.behind ++ u.cursor.ahead = a.toList ++ b.toList := by
    rw [Cursor.behind_append_ahead, source_eq_of_reaches hu, ← String.toList_append]
    rfl
  have hlength : byteLength u.cursor.behind = byteLength a.toList := by
    rw [← hu.placed.position, hpos, byteLength_toList]
  obtain ⟨hbehind, hahead⟩ := eq_of_append_of_byteLength hsource hlength
  have hcursor := Cursor.eq_shift_ofList hu.placed
  rw [hbehind, hahead] at hcursor
  obtain ⟨cursor, modes⟩ := u
  exact congrArg₂ mk hcursor hm

variable (resync b) in
/-- The same for a whole source, with what is reported at the end of it. -/
theorem run_shift_start {front : List Char} (hfront : front.getLast?.any isIdent = false) :
    let r := ((start b.toList).shift front).run resync
    r.tokens = (lex resync b).tokens.map (·.shift front) ∧
    r.diagnostics ++ r.final.unclosed = (lex resync b).diagnostics.map (·.shift front) ∧
    r.final.modes = (lex resync b).final.modes := by
  have hline : 0 < (start b.toList).cursor.line := Nat.one_pos
  obtain ⟨htokens, hdiagnostics, hfinal⟩ := run_shift resync hfront hline
  dsimp only
  rw [hdiagnostics, hfinal, unclosed_shift, ← List.map_append]
  exact ⟨htokens, rfl, rfl⟩

end Scan

theorem Session.rest_of_base {s : Session} (hp : s.pending = []) (hm : s.scan.modes = .base)
    (hf : s.finished = true → s.scan.cursor.ahead = []) :
    let r := s.scan.run s.resync
    s.rest.1 = r.tokens ∧
    s.rest.2.diagnostics = s.diagnostics.report (r.diagnostics ++ r.final.unclosed) ∧
    s.rest.2.scan = r.final := by
  intro r
  refine ⟨by rw [rest, hp]; rfl, ?_, ?_⟩
  · cases hfin : s.finished with
    | false => simp [rest, finish, hfin, Diagnostics.report, r]
    | true =>
      have hunclosed : s.scan.unclosed = [] := by simp [Scan.unclosed, hm, ModeStack.isRoot]
      simp [rest, finish, hfin, r, Scan.run_of_nil (hf hfin), hunclosed]
  · cases hfin : s.finished <;> simp [rest, finish, hfin, r]

theorem restarts_of_walks {resync : Bool} {a b : String} {sts : List Step} {u : Scan}
    (hu : Scan.Walks resync (.start (a ++ b).toList) sts u)
    (hpos : u.cursor.position = a.utf8ByteSize) (hm : u.modes = .base)
    (ha : ∀ x ∈ a.toList.getLast?, isIdent x = false) : Restarts resync a b sts u := by
  obtain rfl := Scan.Reachable.eq_shift_start hu.reaches hpos hm
  have hlast : a.toList.getLast?.any isIdent = false := by
    rw [← Bool.not_eq_true, Option.any_eq_true]
    rintro ⟨x, hx, hident⟩
    exact absurd (ha x hx) (by simp [hident])
  obtain ⟨htokens, hdiagnostics, hmodes⟩ := Scan.run_shift_start resync b hlast
  have hrun := hu.run_eq
  rw [Run.foldr_after] at hrun
  refine ⟨?_, ?_, ?_, ?_⟩
  · rw [lex, hrun, ← htokens]
  · rw [lex, hrun, ← hdiagnostics, ← List.append_assoc]
  · rw [lex, hrun, hmodes]
  · intro rs s hs hp
    have hsound := Ledger.sound_after resync (a ++ b) rs
    have hfinished : s.finished = true → s.scan.cursor.ahead = [] :=
      fun hf => (hsound.atEnd (hsound.finished ▸ hf)).2
    obtain ⟨h₁, h₂, h₃⟩ := Session.rest_of_base hp (by rw [hs]; exact hm) hfinished
    rw [hs, show s.resync = resync from hsound.mode] at h₁ h₂ h₃
    exact ⟨h₁.trans htokens, h₂.trans (congrArg _ hdiagnostics), by rw [h₃, hmodes]⟩

/-- After a string on the second line, with an error and an open string still to come. -/
theorem restarts_afterString :
    let a := "\n\"é\""
    let b := "module ¤\n\""
    let s := (Ledger.after true (a ++ b) [.next, .next, .look, .next, .next]).session
    s.pending = [] ∧ (lex true b).diagnostics.length = 2 ∧
      ∃ sts, Scan.Walks true (.start (a ++ b).toList) sts s.scan ∧
        Restarts true a b sts s.scan := by
  intro a b s
  obtain ⟨sts, hwalks⟩ := (Ledger.sound_after true (a ++ b) _).reachable.exists_walks
  refine ⟨by decide +kernel, by decide +kernel, sts, hwalks, ?_⟩
  refine restarts_of_walks hwalks (by decide +kernel) (by decide +kernel) ?_
  have hquote : a.toList.getLast? = some '"' := by decide +kernel
  rw [hquote]
  rintro _ ⟨⟩
  decide +kernel

/-- Behind a digit there is no word: a cut between the two changes what is read. -/
example : (lex true "1module").tokens.map (·.kind) = [.number .integer, .name] ∧
    (lex true "module").tokens.map (·.kind) = [.keyword] := by
  decide +kernel

end ModalLexer
