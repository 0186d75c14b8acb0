import ModalLexer.Proofs.Passage
import ModalLexer.Proofs.Walk

/-!
Comments in comments. A comment is as long as a count of its delimiters tells, whatever else is
written in it; where the count never comes down to nothing, it goes on to the end of the source.
-/

namespace ModalLexer

open Lexeme Rule Shape

/-- Inside so many comments: how far a text belongs to them, and how many are open behind that.
Delimiters are looked for from left to right, until none is open or nothing is left. -/
def nesting : Nat → List Char → Nat × Nat
  | 0, _ => (0, 0)
  | depth + 1, [] => (0, depth + 1)
  | depth + 1, '{' :: '-' :: cs => (nesting (depth + 2) cs).map (· + 2) id
  | depth + 1, '-' :: '}' :: cs => (nesting depth cs).map (· + 2) id
  | depth + 1, _ :: cs => (nesting (depth + 1) cs).map (· + 1) id

def ModeStack.commented (s : ModeStack) : Nat → ModeStack
  | 0 => s
  | depth + 1 => (s.commented depth).push .comment

variable {depth : Nat} {x : Char} {cs : List Char}

theorem nesting_cons (hopen : ¬['{', '-'] <+: x :: cs) (hclose : ¬['-', '}'] <+: x :: cs) :
    nesting (depth + 1) (x :: cs) = (nesting (depth + 1) cs).map (· + 1) id := by
  rw [nesting]
  · rintro rest rfl rfl
    exact hopen ⟨rest, rfl⟩
  · rintro rest rfl rfl
    exact hclose ⟨rest, rfl⟩

theorem nesting_append {t : List Char} (ht : ∀ y ∈ t, isCommentMark y = false) (rest : List Char) :
    nesting (depth + 1) (t ++ rest) = (nesting (depth + 1) rest).map (· + t.length) id := by
  induction t with
  | nil => rfl
  | cons y t ih =>
    obtain ⟨hy, ht⟩ := List.forall_mem_cons.1 ht
    have hopen : ¬['{', '-'] <+: y :: (t ++ rest) := by
      intro h
      obtain rfl := (List.cons_prefix_cons.1 h).1
      cases hy
    have hclose : ¬['-', '}'] <+: y :: (t ++ rest) := by
      intro h
      obtain rfl := (List.cons_prefix_cons.1 h).1
      cases hy
    rw [List.cons_append, nesting_cons hopen hclose, ih ht]
    rfl

theorem nesting_eq_length (h : (nesting depth cs).2 ≠ 0) : (nesting depth cs).1 = cs.length := by
  fun_induction nesting depth cs with
  | case1 => exact absurd rfl h
  | case2 => rfl
  | case3 depth cs ih => simpa using ih h
  | case4 depth cs ih => simpa using ih h
  | case5 depth x cs _ _ ih => simpa using ih h

/-- A brace behind an opener does not close what was opened. -/
example : nesting 1 ['{', '-', '}'] = (3, 2) := rfl

namespace Scan

/-- Steps that come on by `n` characters and make nothing but comments of them. -/
structure Comments (resync : Bool) (s : Scan) (sts : List Step) (u : Scan) (n : Nat) : Prop where
  walks : Walks resync s sts u
  cursor : u.cursor = s.cursor.skip n
  kinds : ∀ t ∈ sts.flatMap (·.tokens), t.kind = .commentMultiline
  texts : (sts.flatMap (·.tokens)).flatMap (·.text.toList) = s.cursor.ahead.take n
  silent : sts.flatMap (·.diagnostics) = []

/-- What it is for a comment to be read over `n` characters, with `depth` comments left open. -/
structure ReadsComment (resync : Bool) (s : Scan) (n depth : Nat) : Prop where
  comments : ∃ sts u, s.Comments resync sts u n ∧ u.modes = s.modes.commented depth
  whole : depth ≠ 0 → n = s.cursor.ahead.length ∧ (s.run resync).diagnostics = [] ∧
    (∀ t ∈ (s.run resync).tokens, t.kind = .commentMultiline) ∧
      (s.run resync).final.modes = s.modes.commented depth

variable {resync : Bool} {s u : Scan} {sts : List Step} {n : Nat} {S : ModeStack}

namespace Comments

theorem refl (s : Scan) : s.Comments resync [] s 0 :=
  ⟨.refl s, rfl, by simp, rfl, rfl⟩

theorem iff_makes : s.Comments resync sts u n ↔ s.Makes [.commentMultiline] resync sts u n :=
  ⟨fun h => ⟨h.walks, h.cursor, fun t ht => List.mem_singleton.2 (h.kinds t ht), h.texts, h.silent⟩,
    fun h => ⟨h.walks, h.cursor, fun t ht => List.mem_singleton.1 (h.only t ht), h.texts, h.silent⟩⟩

theorem head {k : Nat} {a : Action} (hstep : s.step resync = s.take [(.commentMultiline, k)] a)
    (hk : 0 < k) (hle : k ≤ s.cursor.ahead.length)
    (h : (s.step resync).next.Comments resync sts u n) :
    s.Comments resync (s.step resync :: sts) u (n + k) := by
  have hfirst := Makes.of_take hstep (List.mem_singleton.2 rfl) (by decide) hk hle
  have hnext : (s.step resync).next = ⟨s.cursor.skip k, a.apply s.modes⟩ := by
    rw [hstep, take, Piece.total_cons, Piece.total_nil, Nat.add_zero]
  rw [← hnext] at hfirst
  rw [Nat.add_comm]
  exact iff_makes.2 (hfirst.trans (iff_makes.1 h))

theorem run_eq (h : s.Comments resync sts u n) (hend : u.cursor.ahead = []) :
    (s.run resync).tokens = sts.flatMap (·.tokens) ∧ (s.run resync).diagnostics = [] ∧
      (s.run resync).final = u :=
  (iff_makes.1 h).run_eq hend

end Comments

/-- The first rule makes a comment of what stands at the cursor, and counts it as `nesting` does. -/
def Counted (c : Cursor) (depth : Nat) : Prop :=
  ∃ shape a n e, first? c Mode.comment.rules =
      some (token .commentMultiline shape a, [(.commentMultiline, n)]) ∧
    (∀ S : ModeStack, a.apply (S.commented (depth + 1)) = S.commented e) ∧
      nesting (depth + 1) c.ahead = (nesting e (c.ahead.drop n)).map (· + n) id

variable {c : Cursor}

theorem counted_text (hc : c.ahead = x :: cs) (hx : isCommentMark x = false) (depth : Nat) :
    Counted c depth := by
  have hbegin : (!isCommentMark x) = true := by simpa using hx
  obtain ⟨t, rest, hsplit, hne, hrun, hreach⟩ := exists_reach_many1 (p := (!isCommentMark ·)) hbegin
  rw [← hc] at hsplit hreach
  refine ⟨commentText, .stay, t.length, depth + 1, ?_, fun _ => rfl, ?_⟩
  · exact first?_cons_of_some (match?_token (hreach _) (List.length_pos_iff.2 hne).ne')
  · rw [hsplit, List.drop_left]
    exact nesting_append (fun y hy => by simpa using hrun y hy) rest

/-- A delimiter is taken as a whole; a character that belongs to none is taken alone. -/
theorem counted_mark (hc : c.ahead = x :: cs) (hx : isCommentMark x = true) (depth : Nat) :
    Counted c depth := by
  have htext : (emits .commentMultiline commentText).match? c = none :=
    match?_eq_none_of_starts hc (by
      simp [emits, commentText, many1, Rule.starts, Shape.starts, nullable, hx])
  have hfirst : first? c Mode.comment.rules = first? c [blockComment,
      closes .commentMultiline commentClose, emits .commentMultiline (one isCommentMark)] :=
    first?_cons_of_none htext
  by_cases hopen : ['{', '-'] <+: x :: cs
  · obtain ⟨rest, hrest⟩ := hopen
    have hahead : c.ahead = ['{', '-'] ++ rest := hc.trans hrest.symm
    have hmatch : blockComment.match? c = some [(.commentMultiline, 2)] :=
      match?_literal ⟨rest, hahead.symm⟩ (by decide)
    refine ⟨commentOpen, .push .comment, 2, depth + 2, hfirst.trans ?_, fun _ => rfl, ?_⟩
    · exact first?_cons_of_some hmatch
    · rw [hahead]
      rfl
  have hnotOpen : blockComment.match? c = none := match?_literal_eq_none (hc ▸ hopen)
  by_cases hclose : ['-', '}'] <+: x :: cs
  · obtain ⟨rest, hrest⟩ := hclose
    have hahead : c.ahead = ['-', '}'] ++ rest := hc.trans hrest.symm
    have hmatch : (closes .commentMultiline commentClose).match? c = some [(.commentMultiline, 2)] :=
      match?_literal ⟨rest, hahead.symm⟩ (by decide)
    refine ⟨commentClose, .pop, 2, depth, ?_, fun _ => rfl, ?_⟩
    · rw [hfirst, first?_cons_of_none hnotOpen]
      exact first?_cons_of_some hmatch
    · rw [hahead]
      rfl
  have hnotClose : (closes .commentMultiline commentClose).match? c = none :=
    match?_literal_eq_none (hc ▸ hclose)
  have hreach : (one isCommentMark).reach c.previous? c.ahead = some 1 := by
    simp [hc, reach, hx]
  refine ⟨one isCommentMark, .stay, 1, depth + 1, ?_, fun _ => rfl, ?_⟩
  · rw [hfirst, first?_cons_of_none hnotOpen, first?_cons_of_none hnotClose]
    exact first?_cons_of_some (match?_token hreach (by decide))
  · rw [hc]
    exact nesting_cons hopen hclose

theorem counted (hne : c.ahead ≠ []) (depth : Nat) : Counted c depth := by
  obtain ⟨x, cs, hc⟩ := List.exists_cons_of_ne_nil hne
  cases hx : isCommentMark x with
  | false => exact counted_text hc hx depth
  | true => exact counted_mark hc hx depth

/-- From inside of comments the count is followed to where it ends. -/
theorem exists_comments (resync : Bool) (hs : s.modes = S.commented depth) :
    ∃ sts u, s.Comments resync sts u (nesting depth s.cursor.ahead).1 ∧
      u.modes = S.commented (nesting depth s.cursor.ahead).2 := by
  induction hl : s.cursor.ahead.length using Nat.strong_induction_on generalizing s depth with
  | _ l ih =>
    cases depth with
    | zero =>
      rw [nesting]
      exact ⟨[], s, .refl s, hs⟩
    | succ depth =>
      by_cases hne : s.cursor.ahead = []
      · rw [hne]
        exact ⟨[], s, .refl s, hs⟩
      · obtain ⟨shape, a, n, e, hfirst, hmodes, hcount⟩ := counted hne depth
        have hmatch := (mem_of_first? hfirst).2
        have hpos : 0 < n := by simpa using total_pos_of_match? hmatch rfl
        have hle : n ≤ s.cursor.ahead.length := by simpa using total_le_of_match? hmatch
        have htop : s.modes.top = .comment := hs ▸ rfl
        have hstep : s.step resync = s.take [(.commentMultiline, n)] a :=
          step_of_first? resync (htop ▸ hfirst) rfl
        have hnext : (s.step resync).next = ⟨s.cursor.skip n, S.commented e⟩ := by
          rw [hstep, take, hs, ← hmodes S]
          rfl
        have hahead : (s.step resync).next.cursor.ahead = s.cursor.ahead.drop n := by
          rw [hnext, Cursor.ahead_skip]
        have hopen : (s.step resync).next.modes = S.commented e := by rw [hnext]
        have hless : (s.step resync).next.cursor.ahead.length < l := by
          rw [← hl, hahead, List.length_drop]
          omega
        obtain ⟨sts, u, hsts, hu⟩ := ih _ hless hopen rfl
        rw [hahead] at hsts hu
        rw [hcount]
        exact ⟨_, u, hsts.head hstep hpos hle, hu⟩

theorem step_of_opener (resync : Bool) (hm : s.modes.top = .root ∨ s.modes.top.ReadsExpressions)
    (hc : ['{', '-'] <+: s.cursor.ahead) :
    s.step resync = s.take [(.commentMultiline, 2)] (.push .comment) := by
  obtain ⟨rest, hrest⟩ := id hc
  have hahead : s.cursor.ahead = '{' :: '-' :: rest := hrest.symm
  have hmatch : blockComment.match? s.cursor = some [(.commentMultiline, 2)] :=
    match?_literal hc (by decide)
  have hfirst : first? s.cursor s.modes.top.rules =
      some (blockComment, [(.commentMultiline, 2)]) := by
    obtain hm | hm := hm
    · rw [hm, ← first?_filter hahead]
      exact first?_cons_of_some hmatch
    · rw [hm.first?_rules hahead (by decide), ← first?_filter hahead]
      exact first?_cons_of_some hmatch
  exact step_of_first? resync hfirst rfl

/-- A comment is read as far as the count of its delimiters goes. -/
theorem readsComment (resync : Bool) {s : Scan}
    (hm : s.modes.top = .root ∨ s.modes.top.ReadsExpressions)
    (hc : ['{', '-'] <+: s.cursor.ahead) :
    s.ReadsComment resync ((nesting 1 (s.cursor.ahead.drop 2)).1 + 2)
      (nesting 1 (s.cursor.ahead.drop 2)).2 := by
  have hstep := step_of_opener resync hm hc
  have hle := hc.length_le
  have hnext : (s.step resync).next = ⟨s.cursor.skip 2, s.modes.commented 1⟩ := by
    rw [hstep]
    rfl
  have hahead : (s.step resync).next.cursor.ahead = s.cursor.ahead.drop 2 := by
    rw [hnext, Cursor.ahead_skip]
  have hmodes : (s.step resync).next.modes = s.modes.commented 1 := by rw [hnext]
  obtain ⟨sts, u, hsts, hu⟩ := exists_comments resync hmodes
  rw [hahead] at hsts hu
  have hall := hsts.head hstep (by decide) hle
  refine ⟨⟨_, u, hall, hu⟩, fun hopen => ?_⟩
  have hlen := nesting_eq_length hopen
  rw [List.length_drop] at hlen
  have htotal : (nesting 1 (s.cursor.ahead.drop 2)).1 + 2 = s.cursor.ahead.length := by
    simp only [List.length_cons, List.length_nil] at hle
    omega
  have hend : u.cursor.ahead = [] := by
    rw [hall.cursor, Cursor.ahead_skip, htotal, List.drop_length]
  obtain ⟨htokens, hsilent, hfinal⟩ := hall.run_eq hend
  exact ⟨htotal, hsilent, by rw [htokens]; exact hall.kinds, by rw [hfinal, hu]⟩

/-- A comment with another one in it, in parentheses. -/
theorem readsComment_parens :
    let s : Scan := ⟨.ofString "\x7b-\x7b-\x7d--\x7d-\x7d)", ModeStack.base.push .parens⟩
    s.modes.top.ReadsExpressions ∧ ['{', '-'] <+: s.cursor.ahead ∧ s.ReadsComment true 10 0 := by
  intro s
  have hm : s.modes.top.ReadsExpressions := by simp [s, Mode.ReadsExpressions]
  have hc : ['{', '-'] <+: s.cursor.ahead := by decide
  have hcount : nesting 1 (s.cursor.ahead.drop 2) = (8, 0) := by decide
  have hread := readsComment true (.inr hm) hc
  rw [hcount] at hread
  exact ⟨hm, hc, hread⟩

end Scan
end ModalLexer
