import ModalLexer.Scan

/-!
Lexing on demand: tokens are handed out one by one, and messages are collected as they arise.
-/

namespace ModalLexer

/-- A scan under way. A step may make several tokens: those not yet handed out are `pending`. -/
structure Session where
  resync : Bool
  scan : Scan
  pending : List Token
  finished : Bool
  diagnostics : Diagnostics

namespace Session

def start (resync : Bool) (source : String) : Session :=
  ⟨resync, .start source.toList, [], false, .empty⟩

def mode (s : Session) : Mode := s.scan.modes.top

def position (s : Session) : Nat := s.scan.cursor.position

def advance (s : Session) : Session :=
  let st := s.scan.step s.resync
  { s with
    scan := st.next
    pending := s.pending ++ st.tokens
    diagnostics := s.diagnostics.report st.diagnostics }

/-- Reports modes left open, the first time that the end is met. -/
def finish (s : Session) : Session :=
  if s.finished then s
  else { s with finished := true, diagnostics := s.diagnostics.report s.scan.unclosed }

def next (s : Session) : Option Token × Session :=
  match s.pending with
  | t :: ts => (some t, { s with pending := ts })
  | [] =>
    if _ : s.scan.cursor.ahead = [] then (none, s.finish)
    else s.advance.next
termination_by s.scan.weight
decreasing_by exact Scan.weight_step_lt s.resync ‹_›

def rest (s : Session) : List Token × Session :=
  let r := s.scan.run s.resync
  (s.pending ++ r.tokens,
    { s with
      scan := r.final
      pending := []
      diagnostics := s.diagnostics.report r.diagnostics }.finish)

/-- The messages so far; none are kept. -/
def takeDiagnostics (s : Session) : List Diagnostic × Session :=
  (s.diagnostics.reported, { s with diagnostics := .empty })

end Session
end ModalLexer
