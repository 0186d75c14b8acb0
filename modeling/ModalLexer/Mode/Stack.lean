import ModalLexer.Mode

/-!
Stacks of open modes. The root mode lies at the bottom of every stack and is never taken off.
-/

namespace ModalLexer

/-- The frames above the root, innermost first. -/
structure ModeStack where
  above : List Mode
  deriving DecidableEq, Repr

namespace ModeStack

def base : ModeStack := ⟨[]⟩

instance : Inhabited ModeStack := ⟨base⟩

def top (s : ModeStack) : Mode := s.above.headD .root

def depth (s : ModeStack) : Nat := s.above.length + 1

def isRoot (s : ModeStack) : Bool := s.above.isEmpty

/-- All frames, from the root to the innermost. -/
def frames (s : ModeStack) : List Mode := .root :: s.above.reverse

def push (m : Mode) (s : ModeStack) : ModeStack := ⟨m :: s.above⟩

/-- Fails when only the root is left. -/
def pop? (s : ModeStack) : Option ModeStack :=
  match s.above with
  | [] => none
  | _ :: rest => some ⟨rest⟩

def pop (s : ModeStack) : ModeStack := ⟨s.above.tail⟩

/-- The root is not replaced: the new mode goes on top of it. -/
def replace (m : Mode) (s : ModeStack) : ModeStack := s.pop.push m

@[simp] theorem top_base : base.top = .root := rfl
@[simp] theorem top_push (m : Mode) (s : ModeStack) : (s.push m).top = m := rfl
@[simp] theorem top_replace (m : Mode) (s : ModeStack) : (s.replace m).top = m := rfl
@[simp] theorem pop_push (m : Mode) (s : ModeStack) : (s.push m).pop = s := rfl
@[simp] theorem above_base : base.above = [] := rfl
@[simp] theorem above_push (m : Mode) (s : ModeStack) : (s.push m).above = m :: s.above := rfl
@[simp] theorem above_pop (s : ModeStack) : s.pop.above = s.above.tail := rfl

theorem isRoot_iff {s : ModeStack} : s.isRoot ↔ s = base := by
  cases s with | mk a => cases a <;> simp [isRoot, base]

theorem pop?_eq {s : ModeStack} : s.pop? = if s.isRoot then none else some s.pop := by
  cases s with | mk a => cases a <;> rfl

theorem length_frames (s : ModeStack) : s.frames.length = s.depth := by simp [frames, depth]

end ModeStack
end ModalLexer
