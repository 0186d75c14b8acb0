import ModalLexer.Diagnostic
import ModalLexer.Event
import ModalLexer.Table

/-!
Scanning a source, one step at a time. Each step consumes text or leaves a mode, so that every run
comes to the end of the source.
-/

namespace ModalLexer

/-- How far a scan has come: its place and the modes open there. -/
structure Scan where
  cursor : Cursor
  modes : ModeStack
  deriving DecidableEq, Repr

/-- What is done with the text at the cursor: tokens are made of it, the mode is left, the next
character is an error, or a newline leads back to the root. -/
inductive Move
  | take (pieces : List Piece) (action : Action)
  | leave
  | refuse
  | resync
  deriving DecidableEq, Repr

structure Step where
  tokens : List Token
  diagnostics : List Diagnostic
  events : List Event
  next : Scan

namespace Cursor

def token (c : Cursor) (kind : TokenKind) (n : Nat) : Token :=
  { kind
    text := String.ofList (c.ahead.take n)
    span := ⟨c.position, (c.skip n).position, c.line, c.column⟩ }

/-- The tokens of pieces in a row; an empty piece makes none. -/
def tokens : Cursor → List Piece → List Token
  | _, [] => []
  | c, (_, 0) :: ps => c.tokens ps
  | c, (kind, n + 1) :: ps => c.token kind (n + 1) :: (c.skip (n + 1)).tokens ps

end Cursor

namespace Token

def complaint (t : Token) (m : Mode) : Diagnostic :=
  { level := .error
    message := "unrecognized input '" ++ Quoted.encodeLone t.text ++ "'"
    span := t.span
    code := some .unrecognizedInput
    notes := ["while lexing in mode \x60" ++ m.name ++ "\x60"]
    helps := []
    snippets := [] }

end Token

namespace Action

/-- What is logged of the action; `s` is the stack before it. -/
def events (a : Action) (s : ModeStack) : List Event :=
  match a with
  | stay => []
  | push m => [.pushed m (s.push m).depth]
  | pop => if s.isRoot then [] else [.popped s.top s.pop.depth]
  | replace m => [.replaced m (s.replace m).depth]

end Action

namespace Scan

def start (source : List Char) : Scan := ⟨.ofList source, .base⟩

/-- The first rule that applies decides. A rule that takes nothing applies only above the root. -/
def chosen? (s : Scan) : Option (Rule × List Piece) :=
  s.modes.top.rules.findSome? fun r =>
    if r.isZeroWidth && s.modes.isRoot then none else (r.match? s.cursor).map (r, ·)

def move (resync : Bool) (s : Scan) : Move :=
  match s.chosen? with
  | some (r, ps) => if r.isZeroWidth then .leave else .take ps r.action
  | none => if s.cursor.peek? == some '\n' && resync then .resync else .refuse

/-- Takes pieces and changes the stack. Errors are reported in the mode that was on top before. -/
def take (s : Scan) (ps : List Piece) (a : Action) : Step :=
  let ts := s.cursor.tokens ps
  let errors := ts.filter Token.isError
  { tokens := ts
    diagnostics := errors.map (·.complaint s.modes.top)
    events := errors.map (fun t => .unrecognized t.text t.span.line t.span.column s.modes.top) ++
      a.events s.modes
    next := ⟨s.cursor.skip (Piece.total ps), a.apply s.modes⟩ }

def perform (s : Scan) : Move → Step
  | .take ps a => s.take ps a
  | .leave => s.take [] .pop
  | .refuse => s.take [(.error, 1)] .stay
  | .resync =>
    { s.take [(.whitespace, 1)] .stay with
      events := if s.modes.isRoot then [] else [.resynced s.cursor.line s.modes.frames]
      next := ⟨s.cursor.skip 1, .base⟩ }

def step (resync : Bool) (s : Scan) : Step := s.perform (s.move resync)

/-- A bound on the number of steps still to come. -/
def weight (s : Scan) : Nat := 2 * s.cursor.ahead.length + s.modes.above.length

theorem chosen?_eq_some {s : Scan} {r : Rule} {ps : List Piece} (h : s.chosen? = some (r, ps)) :
    r ∈ s.modes.top.rules ∧ r.match? s.cursor = some ps ∧
      (r.isZeroWidth = true → s.modes.isRoot = false) := by
  obtain ⟨r', hr, hm⟩ := List.exists_of_findSome?_eq_some h
  split at hm
  · simp at hm
  · rename_i hz
    obtain ⟨qs, hq, he⟩ := Option.map_eq_some_iff.1 hm
    cases he
    exact ⟨hr, hq, by simpa using hz⟩

theorem length_above_apply_le (a : Action) (s : ModeStack) :
    (a.apply s).above.length ≤ s.above.length + 1 := by
  cases a <;> simp [Action.apply, ModeStack.replace]; omega

theorem weight_step_lt (resync : Bool) {s : Scan} (h : s.cursor.ahead ≠ []) :
    (s.step resync).next.weight < s.weight := by
  have hp := List.length_pos_iff.2 h
  simp only [step, move]
  split
  · rename_i r ps hc
    obtain ⟨-, hm, hz⟩ := chosen?_eq_some hc
    by_cases hr : r.isZeroWidth = true
    · have ha : s.modes.above ≠ [] := by simpa [ModeStack.isRoot] using hz hr
      have := List.length_pos_iff.2 ha
      simp [hr, perform, take, weight, Action.apply]
      omega
    · have := Rule.total_pos_of_match? hm (by simpa using hr)
      have := length_above_apply_le r.action s.modes
      simp [hr, perform, take, weight]
      omega
  · split <;> simp [perform, take, weight, Action.apply] <;> omega

def unclosed (s : Scan) : List Diagnostic :=
  if s.modes.isRoot then []
  else
    [{ level := .warning
       message := "mode stack not empty at EOF"
       span := .point s.cursor.position s.cursor.line s.cursor.column
       code := some .unclosedMode
       notes := ["open modes: " ++ Event.modeNames s.modes.frames.tail]
       helps := []
       snippets := [] }]

def closingEvents (s : Scan) : List Event :=
  if s.modes.isRoot then [] else [.unclosed s.modes.frames.tail]

end Scan

structure Run where
  tokens : List Token
  diagnostics : List Diagnostic
  events : List Event
  final : Scan

namespace Run

def after (st : Step) (r : Run) : Run :=
  { tokens := st.tokens ++ r.tokens
    diagnostics := st.diagnostics ++ r.diagnostics
    events := st.events ++ r.events
    final := r.final }

end Run

/-- Steps until nothing is ahead; the end is reported by no step. -/
def Scan.run (resync : Bool) (s : Scan) : Run :=
  if _ : s.cursor.ahead = [] then ⟨[], [], [], s⟩
  else .after (s.step resync) ((s.step resync).next.run resync)
termination_by s.weight
decreasing_by exact weight_step_lt resync ‹_›

/-- Lexes a whole source: modes left open at its end are reported last. -/
def lex (resync : Bool) (source : String) : Run :=
  let r := (Scan.start source.toList).run resync
  { r with
    diagnostics := r.diagnostics ++ r.final.unclosed
    events := r.events ++ r.final.closingEvents }

def tokenize (source : String) : List Token := (lex true source).tokens

end ModalLexer
