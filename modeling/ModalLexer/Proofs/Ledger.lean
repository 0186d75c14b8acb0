import Mathlib.Data.List.Forall2
import ModalLexer.Proofs.Partition
import ModalLexer.Session

/-!
The books of a session. Tokens are handed out one by one while messages collect and are taken
away; a ledger keeps both. Main result: at every moment, whatever was asked for and in which order,
the messages reported so far are those of the error tokens handed out so far, and the warning about
open modes is added by the first call that meets the end.
-/

namespace ModalLexer

inductive Session.Query
  | next | look | take
  deriving DecidableEq, Repr

/-- A session and what it has given away; `ended` is set by the first call that gets no token. -/
structure Ledger where
  session : Session
  handed : List Token
  taken : List Diagnostic
  ended : Bool

/-- The character of the token was read while `m` was the innermost mode. -/
def Token.ReadIn (resync : Bool) (source : String) (t : Token) (m : Mode) : Prop :=
  ∃ s, Scan.Reachable resync source s ∧ s.cursor.ahead ≠ [] ∧ (s.step resync).tokens = [t] ∧
    s.modes.top = m

namespace Diagnostic

structure Blames (d : Diagnostic) (t : Token) (m : Mode) : Prop where
  level : d.level = .error
  code : d.code.map DiagnosticCode.text = some "E1001"
  span : d.span = t.span
  notes : d.notes = ["while lexing in mode \x60" ++ m.name ++ "\x60"]

/-- The message tells of modes left open at the end of the source, the outermost first. -/
structure Warns (d : Diagnostic) (source : String) (frames : List Mode) : Prop where
  level : d.level = .warning
  code : d.code.map DiagnosticCode.text = some "W1001"
  span : d.span =
    .point source.utf8ByteSize (lineAfter source.toList) (columnAfter source.toList)
  notes : d.notes = ["open modes: " ++ ", ".intercalate (frames.map Mode.name)]

def Answers (resync : Bool) (source : String) (t : Token) (d : Diagnostic) : Prop :=
  ∃ m, t.ReadIn resync source m ∧ d.Blames t m

/-- What the end of the source gives rise to: one warning exactly if a mode is open. -/
def Close (source : String) (s : ModeStack) (ds : List Diagnostic) : Prop :=
  if s = .base then ds = [] else ∃ d, ds = [d] ∧ d.Warns source s.above.reverse

end Diagnostic

open Diagnostic

theorem DiagnosticCode.text_unrecognizedInput : unrecognizedInput.text = "E1001" := by decide

theorem DiagnosticCode.text_unclosedMode : unclosedMode.text = "W1001" := by decide

theorem Token.blames_complaint (t : Token) (m : Mode) : (t.complaint m).Blames t m :=
  ⟨rfl, congrArg some DiagnosticCode.text_unrecognizedInput, rfl, rfl⟩

namespace Scan

variable {resync : Bool} {source : String} {s : Scan}

theorem Reachable.placed (h : Reachable resync source s) : s.cursor.Placed :=
  h.invariant (P := fun s => s.cursor.Placed) (Cursor.placed_ofList _)
    fun _ _ hv => placed_step hv

theorem Reachable.behind (h : Reachable resync source s) (he : s.cursor.ahead = []) :
    s.cursor.behind = source.toList := by
  have hs := source_eq_of_reaches h
  rw [← Cursor.behind_append_ahead, he, List.append_nil] at hs
  exact hs

theorem close_unclosed (h : Reachable resync source s) (he : s.cursor.ahead = []) :
    Close source s.modes s.unclosed := by
  by_cases hb : s.modes = .base
  · simp [Close, unclosed, hb, ModeStack.isRoot]
  · have hr : s.modes.isRoot = false := by
      simpa using fun e => hb (ModeStack.isRoot_iff.1 e)
    rw [Close, if_neg hb, unclosed, hr]
    have hp := h.placed
    refine ⟨_, rfl, rfl, congrArg some DiagnosticCode.text_unclosedMode, ?_, ?_⟩
    · rw [hp.position, hp.line, hp.column, h.behind he, byteLength_toList]
    · simp [Event.modeNames, ModeStack.frames]

end Scan

namespace Session

/-- `s'` is `s` some steps on; no error token waits in it. -/
structure Leads (s s' : Session) : Prop where
  resync : s'.resync = s.resync
  reaches : Scan.Reaches s.resync s.scan s'.scan
  quiet : ∀ t ∈ s'.pending, t.isError = false

inductive Called (s : Session) : Option Token × Session → Prop
  | plain {t : Token} {s' : Session} : s.Leads s' → t.isError = false →
      s'.diagnostics = s.diagnostics → s'.finished = s.finished → Called s (some t, s')
  | error {t : Token} {s' : Session} (u : Scan) : s.Leads s' → t.isError = true →
      Scan.Reaches s.resync s.scan u → u.cursor.ahead ≠ [] → (u.step s.resync).tokens = [t] →
      s'.diagnostics = s.diagnostics.report [t.complaint u.modes.top] →
      s'.finished = s.finished → Called s (some t, s')
  | none {s' : Session} : s.Leads s' → s'.scan.cursor.ahead = [] → s'.pending = [] →
      s'.diagnostics =
        (if s.finished then s.diagnostics else s.diagnostics.report s'.scan.unclosed) →
      s'.finished = true → Called s (none, s')

variable {s : Session}

theorem next_of_pending {t : Token} {ts : List Token} (h : s.pending = t :: ts) :
    s.next = (some t, { s with pending := ts }) := by
  rw [next, h]

theorem next_of_end (hp : s.pending = []) (he : s.scan.cursor.ahead = []) :
    s.next = (none, s.finish) := by
  rw [next, hp]
  simp [he]

theorem next_of_ne_nil (hp : s.pending = []) (he : s.scan.cursor.ahead ≠ []) :
    s.next = s.advance.next := by
  rw [next, hp]
  simp [he]

theorem pending_advance (hp : s.pending = []) :
    s.advance.pending = (s.scan.step s.resync).tokens := by
  simp [advance, hp]

theorem diagnostics_advance : s.advance.diagnostics = s.diagnostics.report
    (((s.scan.step s.resync).tokens.filter Token.isError).map (·.complaint s.scan.modes.top)) := by
  rw [Scan.step, ← Scan.diagnostics_perform]
  rfl

theorem report_nil (ds : Diagnostics) : ds.report [] = ds := by
  simp [Diagnostics.report]

theorem Leads.head {s' : Session} (he : s.scan.cursor.ahead ≠ []) (h : s.advance.Leads s') :
    s.Leads s' :=
  ⟨h.resync, h.reaches.head he, h.quiet⟩

/-- A step that makes no token makes no difference to what a call can come to. -/
theorem Called.head {r : Option Token × Session} (he : s.scan.cursor.ahead ≠ [])
    (hn : (s.scan.step s.resync).tokens = []) (h : s.advance.Called r) : s.Called r := by
  have hd : s.advance.diagnostics = s.diagnostics := by
    rw [diagnostics_advance, hn]
    exact report_nil _
  cases h with
  | plain hl ht hs hf => exact .plain (hl.head he) ht (hs.trans hd) hf
  | error u hl ht hu hne hk hs hf =>
    exact .error u (hl.head he) ht (hu.head he) hne hk (by rw [hs, hd]) hf
  | none hl ha hp hs hf => exact .none (hl.head he) ha hp (by rw [hs, hd]; rfl) hf

theorem called_finish (hp : s.pending = []) (he : s.scan.cursor.ahead = []) :
    s.Called (none, s.finish) := by
  by_cases hf : s.finished = true
  · have e : s.finish = s := by simp [finish, hf]
    rw [e]
    exact .none ⟨rfl, .refl, by simp [hp]⟩ he hp (by simp [hf]) hf
  · have e : s.finish = { s with
        finished := true, diagnostics := s.diagnostics.report s.scan.unclosed } := by
      simp [finish, hf]
    rw [e]
    exact .none ⟨rfl, .refl, by simp [hp]⟩ he hp (by simp [hf]) rfl

theorem called_of_step {t : Token} {ts : List Token} (hp : s.pending = [])
    (he : s.scan.cursor.ahead ≠ []) (ht : (s.scan.step s.resync).tokens = t :: ts) :
    s.Called s.advance.next := by
  have hall : ∀ u ∈ t :: ts, u.isError = true → t :: ts = [u] := by
    intro u hu hue
    rw [← ht] at hu ⊢
    exact Scan.tokens_step_of_isError _ hu hue
  have hquiet : ∀ u ∈ ts, u.isError = false := by
    intro u hu
    by_contra hne
    have e := hall u (List.mem_cons_of_mem _ hu) (by simpa using hne)
    obtain rfl : ts = [] := (List.cons.inj e).2
    simp at hu
  rw [next_of_pending ((pending_advance hp).trans ht)]
  have hl : s.Leads { s.advance with pending := ts } := ⟨rfl, .tail .refl he, hquiet⟩
  have hd := diagnostics_advance (s := s)
  have hts : ts.filter Token.isError = [] :=
    List.filter_eq_nil_iff.2 fun u hu => by simp [hquiet u hu]
  rw [ht, List.filter_cons, hts] at hd
  cases hte : t.isError with
  | false => exact .plain hl hte (by simpa [hte, report_nil] using hd) rfl
  | true =>
    have hk : (s.scan.step s.resync).tokens = [t] := ht.trans (hall t List.mem_cons_self hte)
    exact .error s.scan hl hte .refl he hk (by simpa [hte] using hd) rfl

theorem called_next (hq : ∀ t ∈ s.pending, t.isError = false) : s.Called s.next := by
  cases hp : s.pending with
  | cons t ts =>
    rw [hp] at hq
    rw [next_of_pending hp]
    exact .plain ⟨rfl, .refl, fun u hu => hq u (List.mem_cons_of_mem _ hu)⟩
      (hq t List.mem_cons_self) rfl rfl
  | nil =>
    clear hq
    fun_induction next s with
    | case1 s t ts h => simp [hp] at h
    | case2 s _ he => exact called_finish hp he
    | case3 s _ he ih =>
      cases ht : (s.scan.step s.resync).tokens with
      | nil => exact (ih ((pending_advance hp).trans ht)).head he ht
      | cons t ts => exact called_of_step hp he ht

theorem rest_next (s : Session) :
    s.rest = (s.next.1.toList ++ s.next.2.rest.1, s.next.2.rest.2) := by
  fun_induction next s with
  | case1 s t ts h => simp [rest, h]
  | case2 s hp he => cases hf : s.finished <;> simp [rest, finish, Scan.run_of_nil, report_nil, *]
  | case3 s hp he ih =>
    have ha : s.advance.rest = s.rest := by
      simp [rest, advance, hp, Scan.run_of_ne_nil he, Run.after, Diagnostics.report]
    rw [← ha, ih]

theorem next_of_finished (hf : s.finished = true) (hp : s.pending = [])
    (he : s.scan.cursor.ahead = []) : s.next = (none, s) := by
  rw [next_of_end hp he]
  simp [finish, hf]

end Session

namespace Ledger

def start (resync : Bool) (source : String) : Ledger := ⟨.start resync source, [], [], false⟩

def serve (l : Ledger) : Session.Query → Ledger
  | .next =>
    { l with
      session := l.session.next.2
      handed := l.handed ++ l.session.next.1.toList
      ended := l.ended || l.session.next.1.isNone }
  | .look => l
  | .take =>
    { l with
      session := l.session.takeDiagnostics.2
      taken := l.taken ++ l.session.takeDiagnostics.1 }

def after (resync : Bool) (source : String) (rs : List Session.Query) : Ledger :=
  rs.foldl serve (start resync source)

def emitted (l : Ledger) : List Diagnostic := l.taken ++ l.session.diagnostics.reported

/-- What one more request adds: `ts` are handed out, `errors` tell of the error tokens among them,
and `warnings` are empty unless the request is the first to meet the end. -/
structure Adds (resync : Bool) (source : String) (l l' : Ledger) (ts : List Token)
    (errors warnings : List Diagnostic) : Prop where
  handed : l'.handed = l.handed ++ ts
  emitted : l'.emitted = l.emitted ++ (errors ++ warnings)
  errors : List.Forall₂ (Answers resync source) (ts.filter Token.isError) errors
  warnings : if l.ended = false ∧ l'.ended = true then
    Close source l'.session.scan.modes warnings else warnings = []

/-- The tokens handed out are those of the source, from the first on and in the end all of them.
The messages match them: in all that was given away so far, in what any next request adds, and, once
the end was met, in that nothing is added or moved any more. -/
structure Faithful (resync : Bool) (source : String) (l : Ledger) : Prop where
  inOrder : l.handed <+: (lex resync source).tokens
  whole : l.ended = true → l.handed = (lex resync source).tokens
  sofar : ∃ errors warnings, l.emitted = errors ++ warnings ∧
    List.Forall₂ (Answers resync source) (l.handed.filter Token.isError) errors ∧
    if l.ended then Close source l.session.scan.modes warnings else warnings = []
  each : ∀ r, ∃ ts errors warnings, l.Adds resync source (l.serve r) ts errors warnings
  ended : l.ended = true → l.session.next = (none, l.session)

structure Sound (resync : Bool) (source : String) (l : Ledger) : Prop where
  mode : l.session.resync = resync
  reachable : Scan.Reachable resync source l.session.scan
  quiet : ∀ t ∈ l.session.pending, t.isError = false
  finished : l.session.finished = l.ended
  atEnd : l.ended = true → l.session.pending = [] ∧ l.session.scan.cursor.ahead = []

variable {resync : Bool} {source : String} {l : Ledger}

theorem sound_start : (start resync source).Sound resync source :=
  ⟨rfl, .refl, by simp [start, Session.start], rfl, by simp [start]⟩

theorem Sound.next_of_ended (h : l.Sound resync source) (he : l.ended = true) :
    l.session.next = (none, l.session) :=
  Session.next_of_finished (h.finished.trans he) (h.atEnd he).1 (h.atEnd he).2

theorem Sound.serve_next (h : l.Sound resync source) : (l.serve .next).Sound resync source ∧
    ∃ ts errors warnings, l.Adds resync source (l.serve .next) ts errors warnings := by
  cases he : l.ended with
  | true =>
    have hn := h.next_of_ended he
    have e : l.serve .next = l := by simp [serve, hn, ← he]
    rw [e]
    exact ⟨h, [], [], [], by simp, by simp, .nil, by simp [he]⟩
  | false =>
    have hc := Session.called_next h.quiet
    have hf := h.finished
    generalize hr : l.session.next = r at hc
    cases hc with
    | @plain t s' hl ht hd hfin =>
      have e : l.serve .next = ⟨s', l.handed ++ [t], l.taken, false⟩ := by simp [serve, hr, he]
      rw [e]
      refine ⟨⟨?_, ?_, hl.quiet, ?_, by simp⟩, [t], [], [], rfl, ?_, ?_, ?_⟩
      · rw [hl.resync, h.mode]
      · exact h.reachable.trans (h.mode ▸ hl.reaches)
      · rw [hfin, hf, he]
      · simp [emitted, hd]
      · simp [ht]
      · simp
    | @error t s' u hl ht hu hne hk hd hfin =>
      have e : l.serve .next = ⟨s', l.handed ++ [t], l.taken, false⟩ := by simp [serve, hr, he]
      have hread : t.ReadIn resync source u.modes.top :=
        ⟨u, h.reachable.trans (h.mode ▸ hu), hne, h.mode ▸ hk, rfl⟩
      rw [e]
      refine ⟨⟨?_, ?_, hl.quiet, ?_, by simp⟩, [t], [t.complaint u.modes.top], [], rfl, ?_, ?_, ?_⟩
      · rw [hl.resync, h.mode]
      · exact h.reachable.trans (h.mode ▸ hl.reaches)
      · rw [hfin, hf, he]
      · simp [emitted, hd, Diagnostics.report]
      · simpa [ht] using ⟨_, hread, t.blames_complaint _⟩
      · simp
    | @none s' hl ha hp hd hfin =>
      have e : l.serve .next = ⟨s', l.handed, l.taken, true⟩ := by simp [serve, hr]
      have hreach : Scan.Reachable resync source s'.scan :=
        h.reachable.trans (h.mode ▸ hl.reaches)
      rw [hf, he] at hd
      rw [e]
      refine ⟨⟨?_, hreach, hl.quiet, hfin, fun _ => ⟨hp, ha⟩⟩, [], [], s'.scan.unclosed, ?_, ?_,
        .nil,
        ?_⟩
      · rw [hl.resync, h.mode]
      · simp
      · simp [emitted, hd, Diagnostics.report]
      · simpa [he] using Scan.close_unclosed hreach ha

theorem Sound.serve (h : l.Sound resync source) (r : Session.Query) :
    (l.serve r).Sound resync source ∧
      ∃ ts errors warnings, l.Adds resync source (l.serve r) ts errors warnings := by
  cases r with
  | next => exact h.serve_next
  | look =>
    refine ⟨h, [], [], [], ?_, ?_, .nil, ?_⟩
    all_goals simp [Ledger.serve]
  | take =>
    refine ⟨⟨h.mode, h.reachable, h.quiet, h.finished, h.atEnd⟩, [], [], [], ?_, ?_, .nil, ?_⟩
    · simp [Ledger.serve]
    · simp [Ledger.serve, emitted, Session.takeDiagnostics, Diagnostics.empty]
    · simp [Ledger.serve]

theorem after_concat (resync : Bool) (source : String) (rs : List Session.Query)
    (r : Session.Query) :
    after resync source (rs ++ [r]) = (after resync source rs).serve r := by
  simp [after]

theorem sound_after (resync : Bool) (source : String) (rs : List Session.Query) :
    (after resync source rs).Sound resync source := by
  induction rs using List.reverseRecOn with
  | nil => exact sound_start
  | append_singleton rs r ih => rw [after_concat]; exact (ih.serve r).1

/-- What was reported before and what one more request adds make what is reported after it. -/
theorem Adds.sofar {l' : Ledger} {ts : List Token} {errors warnings old : List Diagnostic}
    (ha : l.Adds resync source l' ts errors warnings) (hl : l.ended = false)
    (he : l.emitted = old)
    (ho : List.Forall₂ (Answers resync source) (l.handed.filter Token.isError) old) :
    ∃ errors warnings, l'.emitted = errors ++ warnings ∧
      List.Forall₂ (Answers resync source) (l'.handed.filter Token.isError) errors ∧
      if l'.ended then Close source l'.session.scan.modes warnings else warnings = [] := by
  refine ⟨old ++ errors, warnings, ?_, ?_, ?_⟩
  · rw [ha.emitted, he, List.append_assoc]
  · rw [ha.handed, List.filter_append]
    exact List.rel_append ho ha.errors
  · have hw := ha.warnings
    rw [hl] at hw
    simpa using hw

theorem serve_of_ended (h : l.Sound resync source) (he : l.ended = true) (r : Session.Query) :
    (l.serve r).emitted = l.emitted ∧ (l.serve r).handed = l.handed ∧ (l.serve r).ended = true ∧
      (l.serve r).session.scan = l.session.scan := by
  cases r with
  | next => simp [serve, h.next_of_ended he, emitted]
  | look => exact ⟨rfl, rfl, he, rfl⟩
  | take =>
    refine ⟨?_, rfl, he, rfl⟩
    simp [serve, emitted, Session.takeDiagnostics, Diagnostics.empty]

theorem sofar_after (resync : Bool) (source : String) (rs : List Session.Query) :
    let l := after resync source rs
    ∃ errors warnings, l.emitted = errors ++ warnings ∧
      List.Forall₂ (Answers resync source) (l.handed.filter Token.isError) errors ∧
      if l.ended then Close source l.session.scan.modes warnings else warnings = [] := by
  induction rs using List.reverseRecOn with
  | nil => exact ⟨[], [], rfl, .nil, rfl⟩
  | append_singleton rs r ih =>
    obtain ⟨errors, warnings, he, ho, hw⟩ := ih
    have h := sound_after resync source rs
    rw [after_concat]
    generalize after resync source rs = l at *
    cases hl : l.ended with
    | true =>
      obtain ⟨h₁, h₂, h₃, h₄⟩ := serve_of_ended h hl r
      refine ⟨errors, warnings, h₁.trans he, h₂ ▸ ho, ?_⟩
      rw [h₃, h₄]
      simpa [hl] using hw
    | false =>
      obtain rfl : warnings = [] := by simpa [hl] using hw
      obtain ⟨ts, es, ws, ha⟩ := (h.serve r).2
      exact ha.sofar hl (he.trans (List.append_nil _)) ho

/-- What was handed out and what is left make the tokens of the source. -/
theorem handed_append_rest (resync : Bool) (source : String) (rs : List Session.Query) :
    (after resync source rs).handed ++ (after resync source rs).session.rest.1 =
      (lex resync source).tokens := by
  induction rs using List.reverseRecOn with
  | nil => rfl
  | append_singleton rs r ih =>
    rw [after_concat, ← ih]
    generalize after resync source rs = l
    cases r with
    | next =>
      rw [l.session.rest_next]
      simp [serve]
    | look => rfl
    | take => rfl

theorem handed_of_ended (rs : List Session.Query) (h : (after resync source rs).ended = true) :
    (after resync source rs).handed = (lex resync source).tokens := by
  obtain ⟨hp, he⟩ := (sound_after resync source rs).atEnd h
  rw [← handed_append_rest resync source rs, Session.rest, hp, Scan.run_of_nil he]
  simp

theorem faithful_after (resync : Bool) (source : String) (rs : List Session.Query) :
    (after resync source rs).Faithful resync source where
  inOrder := ⟨_, handed_append_rest resync source rs⟩
  whole := handed_of_ended rs
  sofar := sofar_after resync source rs
  each := fun r => ((sound_after resync source rs).serve r).2
  ended := (sound_after resync source rs).next_of_ended

end Ledger
end ModalLexer
