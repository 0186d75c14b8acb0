import ModalLexer.Cursor
import ModalLexer.Mode.Stack
import ModalLexer.Shape
import ModalLexer.Token

/-!
Rules: what text they take, which tokens they make of it, and how they move the mode stack.
-/

namespace ModalLexer

inductive Action
  | stay
  | push (m : Mode)
  | pop
  | replace (m : Mode)
  deriving DecidableEq, Repr

def Action.apply : Action → ModeStack → ModeStack
  | stay, s => s
  | push m, s => s.push m
  | pop, s => s.pop
  | replace m, s => s.replace m

/-- The kind of a token and its number of characters. -/
abbrev Piece := TokenKind × Nat

def Piece.total : List Piece → Nat
  | [] => 0
  | (_, n) :: ps => n + total ps

@[simp] theorem Piece.total_nil : total [] = 0 := rfl

@[simp] theorem Piece.total_cons (k : TokenKind) (n : Nat) (ps : List Piece) :
    total ((k, n) :: ps) = n + total ps := rfl

/-- One token for the whole match, or one for each of the shapes in a row that is not empty, or no
token: the mode is left where the next character passes a test. -/
inductive Rule
  | token (kind : TokenKind) (shape : Shape) (action : Action)
  | groups (parts : List (TokenKind × Shape)) (action : Action)
  | leaveWhen (test : Option Char → Bool)

namespace Rule

def emits (kind : TokenKind) (shape : Shape) : Rule := token kind shape .stay
def opens (kind : TokenKind) (shape : Shape) (m : Mode) : Rule := token kind shape (.push m)
def closes (kind : TokenKind) (shape : Shape) : Rule := token kind shape .pop

def action : Rule → Action
  | token _ _ a | groups _ a => a
  | leaveWhen _ => .pop

def isZeroWidth : Rule → Bool
  | leaveWhen _ => true
  | _ => false

def split? : List (TokenKind × Shape) → Option Char → List Char → Option (List Piece)
  | [], _, _ => some []
  | (kind, s) :: rest, prev, cs => do
    let n ← s.reach prev cs
    let ps ← split? rest (Shape.lastOf prev n cs) (cs.drop n)
    return (kind, n) :: ps

/-- The pieces of what the rule takes at the cursor. Shapes that match without taking anything
count as no match. -/
def match? (r : Rule) (c : Cursor) : Option (List Piece) :=
  match r with
  | token kind shape _ => (split? [(kind, shape)] c.previous? c.ahead).filter (0 < Piece.total ·)
  | groups parts _ => (split? parts c.previous? c.ahead).filter (0 < Piece.total ·)
  | leaveWhen test => if test c.peek? then some [] else none

theorem match?_leaveWhen {test : Option Char → Bool} {c : Cursor} {ps : List Piece}
    (h : (leaveWhen test).match? c = some ps) : ps = [] := by
  simp [match?] at h; exact h.2

theorem total_pos_of_match? {r : Rule} {c : Cursor} {ps : List Piece} (h : r.match? c = some ps)
    (hr : r.isZeroWidth = false) : 0 < Piece.total ps := by
  cases r <;> simp_all [match?, isZeroWidth, Option.filter_eq_some_iff]

theorem total_le_of_split? {parts : List (TokenKind × Shape)} {prev : Option Char}
    {cs : List Char} {ps : List Piece} (h : split? parts prev cs = some ps) :
    Piece.total ps ≤ cs.length := by
  induction parts generalizing prev cs ps with
  | nil => simp [split?] at h; simp [h]
  | cons p parts ih =>
    simp only [split?, Option.bind_eq_bind, Option.bind_eq_some_iff, Option.pure_def,
      Option.some.injEq] at h
    obtain ⟨n, hn, qs, hq, rfl⟩ := h
    have h₁ := Shape.reach_le hn
    have h₂ := ih hq
    simp only [Piece.total_cons, List.length_drop] at *
    omega

theorem total_le_of_match? {r : Rule} {c : Cursor} {ps : List Piece} (h : r.match? c = some ps) :
    Piece.total ps ≤ c.ahead.length := by
  cases r with
  | leaveWhen test => simp [match?_leaveWhen h]
  | _ =>
    simp only [match?, Option.filter_eq_some_iff] at h
    exact total_le_of_split? h.1

end Rule
end ModalLexer
