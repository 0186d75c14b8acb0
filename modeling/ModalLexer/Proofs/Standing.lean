import Mathlib.Data.List.Chain
import ModalLexer.Proofs.Steps

/-!
Which modes stand on which. The rules of a mode open only modes that may stand on it, hence in
every state of a scan each frame of the stack stands on one that may carry it.
-/

namespace ModalLexer

namespace Mode

def expressionModes : List Mode := [interpolation, patternValue, parens, braces, brackets]

/-- The modes that a frame of the mode may stand directly on. -/
def below : Mode → List Mode
  | root => []
  | moduleName => [root]
  | sourceList => [root, sourceList]
  | importList => [root, importList]
  | comment => [root, comment] ++ expressionModes
  | escape => [string, multilineString]
  | interpolation => [string, multilineString] ++ expressionModes
  | string | multilineString => root :: expressionModes
  | pattern | patternGroup => [root, patternGroup] ++ expressionModes
  | patternValue => [patternGroup]
  | parens | braces | brackets => expressionModes

def topModes : List Mode := [moduleName, escape, pattern]

theorem not_mem_below_of_mem_topModes {m : Mode} (hm : m ∈ topModes) (n : Mode) : m ∉ n.below := by
  have hall : ∀ m ∈ topModes, ∀ n ∈ all, m ∉ n.below := by decide
  exact hall m hm n (mem_all n)

end Mode

/-- Whether the action keeps the order of frames on a stack with the mode on top. What replaces a
frame has to stand on whatever the frame may stand on. -/
def Action.suits : Action → Mode → Bool
  | stay, _ | pop, _ => true
  | push m, n => n ∈ m.below
  | replace m, n => n ≠ .root && n.below.all (· ∈ m.below)

theorem Mode.suits_of_mem_rules (m : Mode) : ∀ r ∈ m.rules, r.action.suits m = true := by
  cases m <;> decide

namespace ModeStack

/-- Each frame stands on one that may carry it. -/
def Stands (s : ModeStack) : Prop := s.frames.IsChain fun n m => n ∈ m.below

/-- How the frames of a stack lie above each other. -/
structure Shaped (s : ModeStack) : Prop where
  bottom : s.frames.head? = some .root
  above_bottom : .root ∉ s.frames.tail
  top_only : ∀ m ∈ Mode.topModes, m ∉ s.frames.dropLast
  stands : s.Stands

variable {s : ModeStack} {m : Mode}

@[elab_as_elim]
theorem push_induction {P : ModeStack → Prop} (base : P base)
    (push : ∀ m s, P s → P (push m s)) (s : ModeStack) : P s := by
  obtain ⟨above⟩ := s
  induction above with
  | nil => exact base
  | cons m rest ih => exact push m ⟨rest⟩ ih

theorem frames_push : (s.push m).frames = s.frames ++ [m] := by simp [frames]

theorem getLast?_frames (s : ModeStack) : s.frames.getLast? = some s.top := by
  cases s using push_induction with
  | base => rfl
  | push m s => simp [frames_push]

theorem stands_base : base.Stands := .singleton _

theorem stands_push : (s.push m).Stands ↔ s.Stands ∧ s.top ∈ m.below := by
  simp [Stands, frames_push, List.isChain_append, getLast?_frames]

namespace Stands

theorem pop (h : s.Stands) : s.pop.Stands := by
  cases s using push_induction with
  | base => exact h
  | push m s => exact (stands_push.1 h).1

theorem top_pop (h : s.Stands) (hr : s.isRoot = false) : s.pop.top ∈ s.top.below := by
  cases s using push_induction with
  | base => simp [isRoot] at hr
  | push m s => exact (stands_push.1 h).2

theorem replace (h : s.Stands) (hroot : s.top ≠ .root)
    (hm : ∀ n ∈ s.top.below, n ∈ m.below) : (s.replace m).Stands := by
  cases s using push_induction with
  | base => exact absurd rfl hroot
  | push k s =>
    obtain ⟨hs, hk⟩ := stands_push.1 h
    exact stands_push.2 ⟨hs, hm _ hk⟩

theorem apply {a : Action} (h : s.Stands) (ha : a.suits s.top = true) : (a.apply s).Stands := by
  cases a with
  | stay => exact h
  | pop => exact h.pop
  | push m => exact stands_push.2 ⟨h, by simpa [Action.suits] using ha⟩
  | replace m =>
    obtain ⟨hroot, hm⟩ : s.top ≠ .root ∧ ∀ n ∈ s.top.below, n ∈ m.below := by
      simpa [Action.suits] using ha
    exact h.replace hroot hm

theorem root_not_mem (h : s.Stands) : .root ∉ s.frames.tail := by
  induction s using push_induction with
  | base => simp [frames]
  | push m s ih =>
    obtain ⟨hs, hm⟩ := stands_push.1 h
    have hne : m ≠ .root := by
      rintro rfl
      exact List.not_mem_nil hm
    have htail : (s.push m).frames.tail = s.frames.tail ++ [m] := by simp [frames]
    rw [htail]
    simpa [hne.symm] using ih hs

theorem exists_below (h : s.Stands) {n : Mode} (hn : n ∈ s.frames.dropLast) :
    ∃ m, n ∈ Mode.below m := by
  induction s using push_induction with
  | base => simp [frames] at hn
  | push m s ih =>
    obtain ⟨hs, hm⟩ := stands_push.1 h
    rw [frames_push, List.dropLast_concat, ← List.dropLast_append_getLast?
      s.top (s.getLast?_frames)] at hn
    obtain hn | hn := List.mem_append.1 hn
    · exact ih hs hn
    · exact ⟨m, List.mem_singleton.1 hn ▸ hm⟩

end Stands

theorem shaped_of_stands (h : s.Stands) : s.Shaped where
  bottom := rfl
  above_bottom := h.root_not_mem
  top_only := by
    intro m hm hd
    obtain ⟨k, hk⟩ := h.exists_below hd
    exact Mode.not_mem_below_of_mem_topModes hm k hk
  stands := h

end ModeStack

namespace Scan

variable {resync : Bool} {source : String} {s : Scan}

theorem stands_step (h : s.modes.Stands) : (s.step resync).next.modes.Stands := by
  rw [step, modes_perform]
  obtain ⟨r, ps, hr, -, -, e⟩ | ⟨r, -, -, -, e⟩ | ⟨-, -, -, e⟩ | ⟨-, -, e⟩ := move_cases resync s
  · rw [e]
    exact h.apply (Mode.suits_of_mem_rules _ r hr)
  · rw [e]
    exact h.pop
  · rw [e]
    exact ModeStack.stands_base
  · rw [e]
    exact h

theorem Reachable.stands (h : Reachable resync source s) : s.modes.Stands :=
  h.invariant (P := fun s => s.modes.Stands) ModeStack.stands_base fun _ _ => stands_step

/-- In every state of a scan the frames lie above each other as they may. -/
theorem Reachable.shaped (h : Reachable resync source s) : s.modes.Shaped :=
  ModeStack.shaped_of_stands h.stands

/-- A comment in the value of a pattern in an interpolation. -/
theorem shaped_comment :
    let u := (lex true "\"#\x7b.(.a = \x7b-").final
    Reachable true "\"#\x7b.(.a = \x7b-" u ∧
      u.modes.frames = [.root, .string, .interpolation, .patternGroup, .patternValue, .comment] ∧
        u.modes.Shaped := by
  intro u
  have hreach : Reachable true "\"#\x7b.(.a = \x7b-" u := reaches_final_run
  exact ⟨hreach, by decide +kernel, hreach.shaped⟩

end Scan
end ModalLexer
