import Mathlib.Data.List.Count
import ModalLexer.Proofs.Numeral
import ModalLexer.Proofs.Progress

/-!
Marks that open and close modes, counted in the tokens and in the stack. Interpolations and block
comments have marks of their own. Each step makes an opening mark exactly if it puts on a frame of
the mode, and a closing mark exactly if it takes one off; only a newline that resets the stack takes
frames off without marks, so the count starts anew behind it.
-/

namespace ModalLexer

open Lexeme

/-- A pair of marks around what is read in a mode, with the kind of their tokens. -/
structure Delimiter where
  kind : TokenKind
  opening : String
  closing : String
  mode : Mode

namespace Delimiter

def interpolation : Delimiter := ⟨.stringInterpol, "#\x7b", "\x7d", .interpolation⟩

def comment : Delimiter := ⟨.commentMultiline, "\x7b-", "-\x7d", .comment⟩

def all : List Delimiter := [interpolation, comment]

def marks (d : Delimiter) (mark : String) (t : Token) : Bool := t.kind == d.kind && t.text == mark

def opened (d : Delimiter) (ts : List Token) : Nat := ts.countP (d.marks d.opening)

def closed (d : Delimiter) (ts : List Token) : Nat := ts.countP (d.marks d.closing)

def frames (d : Delimiter) (s : ModeStack) : Nat := s.frames.count d.mode

/-- What was opened and not closed stands on the stack. -/
def Balances (d : Delimiter) (ts : List Token) (s : ModeStack) : Prop :=
  (d.opened ts : Int) - d.closed ts = d.frames s

variable {d : Delimiter} {ts us : List Token} {t : Token}

@[simp] theorem opened_nil : d.opened [] = 0 := rfl

@[simp] theorem closed_nil : d.closed [] = 0 := rfl

@[simp] theorem opened_append : d.opened (ts ++ us) = d.opened ts + d.opened us :=
  List.countP_append

@[simp] theorem closed_append : d.closed (ts ++ us) = d.closed ts + d.closed us :=
  List.countP_append

theorem count_of_kind {mark : String} (h : ∀ t ∈ ts, t.kind ≠ d.kind) :
    ts.countP (d.marks mark) = 0 := by
  refine List.countP_eq_zero.2 fun t ht => ?_
  simp [marks, h t ht]

theorem count_singleton {mark : String} (h : t.kind = d.kind) :
    [t].countP (d.marks mark) = if t.text = mark then 1 else 0 := by
  simp [marks, h, List.countP_cons]

end Delimiter

namespace Action

def enters (m : Mode) : Action → Nat
  | push k | replace k => if k = m then 1 else 0
  | stay | pop => 0

def leaves (m top : Mode) : Action → Nat
  | pop | replace _ => if top = m then 1 else 0
  | stay | push _ => 0

theorem count_apply {m : Mode} (hm : m ≠ .root) (a : Action) (s : ModeStack) :
    (a.apply s).frames.count m + a.leaves m s.top = s.frames.count m + a.enters m := by
  have hpush (k : Mode) (s : ModeStack) :
      (s.push k).frames.count m = s.frames.count m + if k = m then 1 else 0 := by
    simp [ModeStack.frames_push, List.count_append, List.count_singleton]
  have hpop : s.pop.frames.count m + (if s.top = m then 1 else 0) = s.frames.count m := by
    cases s using ModeStack.push_induction with
    | base => simp [ModeStack.pop, ModeStack.base, ModeStack.top, hm.symm]
    | push k s => by_cases hk : k = m <;> simp [hpush, hk]
  cases a with
  | stay => rfl
  | push k => simp [apply, enters, leaves, hpush]
  | pop => simpa [apply, enters, leaves] using hpop
  | replace k =>
    have hreplace := hpush k s.pop
    simp only [apply, enters, leaves, ModeStack.replace]
    omega

end Action

namespace Rule

/-- In mode `m` the rule makes a mark for each frame that it puts on or takes off, and no other. -/
def Settles (d : Delimiter) (m : Mode) (r : Rule) : Prop :=
  ∀ c ps, r.match? c = some ps →
    d.opened (c.tokens ps) = r.action.enters d.mode ∧
      d.closed (c.tokens ps) = r.action.leaves d.mode m

def sparing (d : Delimiter) (m : Mode) (r : Rule) : Bool :=
  r.parts.all (·.1 ≠ d.kind) && r.action.enters d.mode == 0 && r.action.leaves d.mode m == 0

variable {d : Delimiter} {m : Mode} {r : Rule}

theorem settles_of_sparing (h : r.sparing d m = true) : r.Settles d m := by
  intro c ps hm
  simp only [sparing, Bool.and_eq_true, List.all_eq_true, decide_eq_true_eq, beq_iff_eq] at h
  obtain ⟨⟨hkind, henter⟩, hleave⟩ := h
  have hother : ∀ t ∈ c.tokens ps, t.kind ≠ d.kind := by
    intro t ht
    obtain ⟨part, hpart, k, n, rfl, -⟩ := Cursor.exists_part_of_mem_tokens (split?_of_match? hm) ht
    exact hkind part hpart
  rw [henter, hleave]
  exact ⟨Delimiter.count_of_kind hother, Delimiter.count_of_kind hother⟩

theorem settles_token {shape : Shape} {a : Action}
    (h : ∀ t, shape.Spells t → (if String.ofList t = d.opening then 1 else 0) = a.enters d.mode ∧
      (if String.ofList t = d.closing then 1 else 0) = a.leaves d.mode m) :
    (token d.kind shape a).Settles d m := by
  intro c ps hm
  obtain ⟨n, hn, hpos, rfl⟩ := exists_of_match?_token hm
  have htext := h _ (Shape.spells_of_reach hn)
  rw [Cursor.tokens_of_pos hpos, Delimiter.opened, Delimiter.closed,
    Delimiter.count_singleton rfl, Delimiter.count_singleton rfl]
  exact htext

theorem settles_literal {cs : List Char} {a : Action}
    (ho : (if String.ofList cs = d.opening then 1 else 0) = a.enters d.mode)
    (hc : (if String.ofList cs = d.closing then 1 else 0) = a.leaves d.mode m) :
    (token d.kind (.literal cs) a).Settles d m := by
  refine settles_token ?_
  rintro t rfl
  exact ⟨ho, hc⟩

theorem settles_interpolation : Rule.interpolation.Settles .interpolation m :=
  settles_literal rfl rfl

theorem settles_interpolationClose :
    (closes .stringInterpol (Shape.char '\x7d')).Settles .interpolation .interpolation := by
  refine settles_token ?_
  intro t h
  rw [Numeral.spells_char h]
  exact ⟨rfl, rfl⟩

theorem settles_blockComment : blockComment.Settles .comment m := settles_literal rfl rfl

theorem settles_commentClose : (closes .commentMultiline commentClose).Settles .comment .comment :=
  settles_literal rfl rfl

theorem settles_commentText : (emits .commentMultiline commentText).Settles .comment m := by
  refine settles_token ?_
  rintro t ⟨_, rest, ⟨x, hx, rfl⟩, -, rfl⟩
  have hne (y z : Char) (hy : isCommentMark y = true) :
      String.ofList ([x] ++ rest) ≠ String.ofList [y, z] := by
    intro e
    have hxy : x = y := (List.cons.inj (String.ofList_injective e)).1
    have hx' : isCommentMark x = false := by simpa using hx
    rw [hxy, hy] at hx'
    exact absurd hx' (by decide)
  exact ⟨if_neg (hne '\x7b' '-' rfl), if_neg (hne '-' '\x7d' rfl)⟩

theorem settles_commentMark : (emits .commentMultiline (.one isCommentMark)).Settles .comment m := by
  refine settles_token ?_
  rintro t ⟨x, -, rfl⟩
  have hne (y z : Char) : String.ofList [x] ≠ String.ofList [y, z] := by
    intro e
    exact absurd (String.ofList_injective e) (by simp)
  exact ⟨if_neg (hne '\x7b' '-'), if_neg (hne '-' '\x7d')⟩

end Rule

open Rule in
theorem Mode.settles_of_mem_rules {d : Delimiter} (hd : d ∈ Delimiter.all) (m : Mode) :
    ∀ r ∈ m.rules, r.Settles d m := by
  intro r hr
  by_cases hs : r.sparing d m = true
  · exact settles_of_sparing hs
  -- few rules are left, and which they are can be read off the table
  have hmem : r ∈ m.rules.filter fun r => !r.sparing d m :=
    List.mem_filter.2 ⟨hr, by simpa using hs⟩
  clear hr hs
  obtain rfl | rfl : d = .interpolation ∨ d = .comment := by simpa [Delimiter.all] using hd
  · have hopen (h : r ∈ [Rule.interpolation]) : r.Settles .interpolation m :=
      List.mem_singleton.1 h ▸ settles_interpolation
    cases m with
    | interpolation =>
      obtain rfl | hmem := List.mem_cons.1 hmem
      · exact settles_interpolationClose
      · exact hopen hmem
    | string | multilineString | patternValue | parens | braces | brackets => exact hopen hmem
    | _ => exact absurd hmem List.not_mem_nil
  · have hopen (h : r ∈ [blockComment]) : r.Settles .comment m :=
      List.mem_singleton.1 h ▸ settles_blockComment
    cases m with
    | comment =>
      have hall : [emits .commentMultiline commentText, blockComment,
          closes .commentMultiline commentClose,
          emits .commentMultiline (.one isCommentMark)].Forall (·.Settles .comment .comment) :=
        ⟨settles_commentText, settles_blockComment, settles_commentClose, settles_commentMark⟩
      exact List.forall_iff_forall_mem.1 hall r hmem
    | root | interpolation | patternValue | parens | braces | brackets => exact hopen hmem
    | _ => exact absurd hmem List.not_mem_nil

namespace Scan

variable {resync : Bool} {source : String} {s u v : Scan} {sts : List Step} {d : Delimiter}

theorem frames_step (hd : d ∈ Delimiter.all) (h : s.move resync ≠ .resync) :
    d.frames (s.step resync).next.modes + d.closed (s.step resync).tokens =
      d.frames s.modes + d.opened (s.step resync).tokens := by
  have hroot : d.mode ≠ .root := by
    have hall : ∀ d ∈ Delimiter.all, d.mode ≠ .root := by decide
    exact hall d hd
  rw [step, modes_perform, tokens_perform]
  obtain ⟨r, ps, hr, -, hm, e⟩ | ⟨r, -, -, -, e⟩ | ⟨-, -, -, e⟩ | ⟨-, -, e⟩ := move_cases resync s
  · have hcount := Action.count_apply hroot r.action s.modes
    obtain ⟨ho, hc⟩ := Mode.settles_of_mem_rules hd _ r hr _ _ hm
    rw [e]
    simp only [Move.pieces, Move.apply, Delimiter.frames]
    omega
  · have hleft := (leftAt_of_move e).1
    have hne : s.modes.top ≠ d.mode := by
      have hall : ∀ d ∈ Delimiter.all, ∀ next, d.mode.leftAt next = false := by
        simp [Delimiter.all, Delimiter.interpolation, Delimiter.comment, Mode.leftAt]
      intro htop
      rw [htop, hall d hd] at hleft
      exact absurd hleft (by decide)
    have hcount := Action.count_apply hroot .pop s.modes
    rw [e]
    simpa [Move.pieces, Move.apply, Cursor.tokens, Delimiter.frames, Action.apply, Action.leaves,
      Action.enters, hne] using hcount
  · exact absurd e h
  · have hkind : ∀ t ∈ s.cursor.tokens [(.error, 1)], t.kind ≠ d.kind := by
      have hall : ∀ d ∈ Delimiter.all, TokenKind.error ≠ d.kind := by decide
      intro t ht
      rw [List.mem_singleton.1 ht]
      exact hall d hd
    rw [e, Move.pieces, Move.apply, Delimiter.closed, Delimiter.opened,
      Delimiter.count_of_kind hkind, Delimiter.count_of_kind hkind]

/-- A stretch of a run in which no newline resets the stack. -/
inductive Unbroken (resync : Bool) (s : Scan) : List Step → Scan → Prop
  | refl : Unbroken resync s [] s
  | concat {u : Scan} {sts : List Step} : Unbroken resync s sts u → u.cursor.ahead ≠ [] →
      u.move resync ≠ .resync → Unbroken resync s (sts ++ [u.step resync]) (u.step resync).next

theorem Unbroken.frames_eq (hd : d ∈ Delimiter.all) (h : Unbroken resync s sts u) :
    d.frames u.modes + d.closed (sts.flatMap (·.tokens)) =
      d.frames s.modes + d.opened (sts.flatMap (·.tokens)) := by
  induction h with
  | refl => rfl
  | concat _ _ hm ih =>
    have hstep := frames_step hd hm
    simp only [List.flatMap_append, List.flatMap_singleton, Delimiter.closed_append,
      Delimiter.opened_append]
    omega

/-- Where the count starts: at the start of a run and behind a newline that resets the stack. -/
inductive Renewed (resync : Bool) (source : String) : Scan → Prop
  | start : Renewed resync source (.start source.toList)
  | reset {u : Scan} : Reachable resync source u → u.cursor.ahead ≠ [] →
      u.move resync = .resync → Renewed resync source (u.step resync).next

theorem Renewed.modes_eq (h : Renewed resync source s) : s.modes = .base := by
  cases h with
  | start => rfl
  | reset _ _ hm => rw [step, modes_perform, hm]; rfl

theorem Renewed.balances (hd : d ∈ Delimiter.all) (h : Renewed resync source v)
    (hu : Unbroken resync v sts u) : d.Balances (sts.flatMap (·.tokens)) u.modes := by
  have hbase : d.frames v.modes = 0 := by
    have hall : ∀ d ∈ Delimiter.all, d.frames .base = 0 := by decide
    rw [h.modes_eq]
    exact hall d hd
  have hframes := hu.frames_eq hd
  rw [Delimiter.Balances]
  omega

/-- The steps up to a state, cut where the count last started. -/
theorem Reachable.exists_unbroken (h : Reachable resync source u) :
    ∃ old v new, Walks resync (.start source.toList) old v ∧ Renewed resync source v ∧
      Unbroken resync v new u ∧ Walks resync (.start source.toList) (old ++ new) u := by
  induction h with
  | refl => exact ⟨[], _, [], .refl _, .start, .refl, .refl _⟩
  | @tail w hw hne ih =>
    obtain ⟨old, v, new, hold, hv, hnew, hall⟩ := ih
    have hnext := hall.concat hne
    by_cases hm : w.move resync = .resync
    · exact ⟨_, _, [], hnext, .reset hw hne hm, .refl, by rwa [List.append_nil]⟩
    · exact ⟨old, v, _, hold, hv, hnew.concat hne hm, by rwa [← List.append_assoc]⟩

end Scan

theorem Mode.name_injective : Function.Injective Mode.name := by
  intro m n h
  have hm := named?_name m
  rw [h, named?_name] at hm
  exact (Option.some.inj hm).symm

/-- Marks and frames in all runs of a source. Each state comes behind a place where the count
started, with no reset between them, and the marks since then balance the frames there; the warning
about the end of the source names as many modes as were left open. -/
structure CountsMarks (resync : Bool) (source : String) : Prop where
  since : ∀ u, Scan.Reachable resync source u → ∃ old v new,
    Scan.Walks resync (.start source.toList) old v ∧ Scan.Renewed resync source v ∧
      Scan.Unbroken resync v new u ∧ Scan.Walks resync (.start source.toList) (old ++ new) u
  balance : ∀ v new u, Scan.Renewed resync source v → Scan.Unbroken resync v new u →
    ∀ d ∈ Delimiter.all, d.Balances (new.flatMap (·.tokens)) u.modes
  note : ∀ v new, Scan.Renewed resync source v →
    Scan.Unbroken resync v new (lex resync source).final → ∃ names : List String,
      (∀ w ∈ (lex resync source).diagnostics, w.level = .warning →
        w.notes = ["open modes: " ++ ", ".intercalate names]) ∧
      (names ≠ [] → ∃ w ∈ (lex resync source).diagnostics, w.level = .warning) ∧
      ∀ d ∈ Delimiter.all, (names.count d.mode.name : Int) =
        d.opened (new.flatMap (·.tokens)) - d.closed (new.flatMap (·.tokens))

theorem lex_countsMarks (resync : Bool) (source : String) : CountsMarks resync source where
  since := fun u hu => hu.exists_unbroken
  balance := fun v new u hv hu d hd => hv.balances hd hu
  note := by
    intro v new hv hu
    have hbalance (d : Delimiter) (hd : d ∈ Delimiter.all) := hv.balances hd hu
    generalize hf : (lex resync source).final = u at hbalance
    refine ⟨u.modes.frames.tail.map Mode.name, ?_, ?_, ?_⟩
    · intro w hw hlevel
      obtain ⟨t, -, m, rfl⟩ | hw := mem_diagnostics_lex hw
      · exact absurd hlevel (by simp [Token.complaint])
      · rw [hf, Scan.unclosed] at hw
        split at hw
        · exact absurd hw List.not_mem_nil
        · rw [List.mem_singleton.1 hw]
          rfl
    · intro hnames
      have hroot : u.modes.isRoot = false := by
        by_contra hroot
        have hbase : u.modes = .base := ModeStack.isRoot_iff.1 (by simpa using hroot)
        rw [hbase] at hnames
        exact hnames rfl
      have hwarn : (lex resync source).diagnostics =
          ((Scan.start source.toList).run resync).diagnostics ++ u.unclosed := by
        rw [← hf]
        rfl
      rw [hwarn, Scan.unclosed, hroot]
      exact ⟨_, List.mem_append_right _ List.mem_cons_self, rfl⟩
    · intro d hd
      have hroot : d.mode ≠ .root := by
        have hall : ∀ d ∈ Delimiter.all, d.mode ≠ .root := by decide
        exact hall d hd
      have hcount := hbalance d hd
      rw [Delimiter.Balances, Delimiter.frames, ModeStack.frames, List.count_cons_of_ne hroot.symm]
        at hcount
      rw [hcount, List.count_map_of_injective _ _ Mode.name_injective]
      rfl

end ModalLexer
