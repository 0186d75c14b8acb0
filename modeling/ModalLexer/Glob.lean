/-!
Patterns for names: a star stands for any text, a question mark for one character, and every other
character for itself. Pattern and name are gone through from the left. A star stands for nothing at
first; where pattern and name part, the last star takes one character more, and all behind it is
tried again. Earlier stars are left as they are.
-/

namespace ModalLexer.Glob

/-- A star of the pattern, and where in the name its text ends. -/
structure Star where
  index : Nat
  stop : Nat
  deriving DecidableEq, Repr

/-- How far pattern and name have been gone through, and the last star on the way. -/
structure Search where
  glob : Nat
  name : Nat
  star? : Option Star
  deriving DecidableEq, Repr

inductive Turn
  | goesOn (s : Search)
  | ends (fits : Bool)
  deriving DecidableEq, Repr

namespace Search

def start : Search := ⟨0, 0, none⟩

def behind (e : Star) : Search := ⟨e.index + 1, e.stop, some e⟩

def retry (s : Search) : Turn :=
  match s.star? with
  | some e => .goesOn (behind ⟨e.index, e.stop + 1⟩)
  | none => .ends false

/-- Behind the end of the name, only stars may be left of the pattern. -/
def turn (glob name : Array Char) (s : Search) : Turn :=
  if h : s.name < name.size then
    match glob[s.glob]? with
    | some c =>
      if c = '*' then .goesOn (behind ⟨s.glob, s.name⟩)
      else if c = '?' ∨ c = name[s.name] then .goesOn ⟨s.glob + 1, s.name + 1, s.star?⟩
      else s.retry
    | none => s.retry
  else .ends ((glob.toList.drop s.glob).all (· == '*'))

variable {glob name : Array Char} {s t : Search}

/-- Nothing in the pattern stands for the next character of the name. -/
def Parts (glob name : Array Char) (s : Search) : Prop :=
  ∃ h : s.name < name.size, ∀ c, glob[s.glob]? = some c → c ≠ '*' ∧ c ≠ '?' ∧ c ≠ name[s.name]

inductive Turns (glob name : Array Char) (s : Search) : Turn → Prop
  | star : s.name < name.size → glob[s.glob]? = some '*' →
      Turns glob name s (.goesOn (behind ⟨s.glob, s.name⟩))
  | pair {c : Char} (h : s.name < name.size) : glob[s.glob]? = some c → c ≠ '*' →
      c = '?' ∨ c = name[s.name] →
      Turns glob name s (.goesOn ⟨s.glob + 1, s.name + 1, s.star?⟩)
  | retry {e : Star} : s.Parts glob name → s.star? = some e →
      Turns glob name s (.goesOn (behind ⟨e.index, e.stop + 1⟩))
  | fails : s.Parts glob name → s.star? = none → Turns glob name s (.ends false)
  | finishes : name.size ≤ s.name →
      Turns glob name s (.ends ((glob.toList.drop s.glob).all (· == '*')))

theorem Parts.turns_retry (h : s.Parts glob name) : s.Turns glob name s.retry := by
  unfold Search.retry
  split
  · rename_i e he
    exact .retry h he
  · rename_i hnone
    exact .fails h hnone

theorem turns_turn (glob name : Array Char) (s : Search) :
    s.Turns glob name (s.turn glob name) := by
  unfold turn
  split
  · rename_i h
    split
    · rename_i c hc
      split
      · rename_i hstar
        exact .star h (hstar ▸ hc)
      · rename_i hstar
        split
        · rename_i hpair
          exact .pair h hc hstar hpair
        · rename_i hpair
          refine Parts.turns_retry ⟨h, fun d hd => ?_⟩
          obtain rfl := Option.some.inj (hc.symm.trans hd)
          exact ⟨hstar, not_or.1 hpair⟩
    · rename_i hnone
      exact Parts.turns_retry
        ⟨h, fun c hc => absurd (hc.symm.trans hnone) (Option.some_ne_none c)⟩
  · rename_i h
    exact .finishes (Nat.not_lt.1 h)

structure Within (glob name : Array Char) (s : Search) : Prop where
  glob_le : s.glob ≤ glob.size
  name_le : s.name ≤ name.size
  star : ∀ e, s.star? = some e → e.index < s.glob ∧ e.stop ≤ s.name

theorem within_start (glob name : Array Char) : start.Within glob name :=
  ⟨Nat.zero_le _, Nat.zero_le _, fun e he => absurd he.symm (Option.some_ne_none e)⟩

theorem lt_size_of_getElem? {cs : Array Char} {i : Nat} {c : Char} (h : cs[i]? = some c) :
    i < cs.size :=
  (Array.getElem?_eq_some_iff.1 h).1

theorem within_behind {e : Star} (hindex : e.index < glob.size) (hstop : e.stop ≤ name.size) :
    (behind e).Within glob name := by
  refine ⟨hindex, hstop, fun e' he' => ?_⟩
  obtain rfl := Option.some.inj he'
  exact ⟨Nat.lt_succ_self _, Nat.le_refl _⟩

theorem Within.next (h : s.Within glob name) (ht : s.turn glob name = .goesOn t) :
    t.Within glob name := by
  have hturns := ht ▸ turns_turn glob name s
  cases hturns with
  | star hname hc => exact within_behind (lt_size_of_getElem? hc) h.name_le
  | pair hname hc _ _ =>
    refine ⟨lt_size_of_getElem? hc, hname, fun e he => ?_⟩
    obtain ⟨hindex, hstop⟩ := h.star e he
    exact ⟨Nat.lt_succ_of_lt hindex, Nat.le_succ_of_le hstop⟩
  | @retry e hparts he =>
    obtain ⟨hname, -⟩ := hparts
    obtain ⟨hindex, hstop⟩ := h.star e he
    exact within_behind (Nat.lt_of_lt_of_le hindex h.glob_le) (Nat.lt_of_le_of_lt hstop hname)

/-- Where in the name the text of the last star ends. -/
def taken (s : Search) : Nat :=
  match s.star? with
  | some e => e.stop
  | none => 0

theorem Within.taken_le (h : s.Within glob name) : s.taken ≤ s.name := by
  unfold taken
  split
  · rename_i e he
    exact (h.star e he).2
  · exact Nat.zero_le _

/-- A bound for the turns that are left: the text of stars only gets longer, and as long as it
does not, the search moves on in the pattern. -/
def remaining (glob name : Array Char) (s : Search) : Nat :=
  (name.size - s.taken) * (glob.size + 1) + (glob.size - s.glob)

theorem Within.remaining_lt (h : s.Within glob name) (ht : s.turn glob name = .goesOn t) :
    t.remaining glob name < s.remaining glob name := by
  have hturns := ht ▸ turns_turn glob name s
  cases hturns with
  | star hname hc =>
    have hglob := lt_size_of_getElem? hc
    have htaken : (name.size - s.name) * (glob.size + 1) ≤
        (name.size - s.taken) * (glob.size + 1) :=
      Nat.mul_le_mul_right _ (Nat.sub_le_sub_left h.taken_le _)
    have hless : glob.size - (s.glob + 1) < glob.size - s.glob := by omega
    exact Nat.add_lt_add_of_le_of_lt htaken hless
  | pair hname hc _ _ =>
    have hglob := lt_size_of_getElem? hc
    have hless : glob.size - (s.glob + 1) < glob.size - s.glob := by omega
    exact Nat.add_lt_add_left hless _
  | @retry e hparts he =>
    -- the way back in the pattern is shorter than what one character of text counts for
    obtain ⟨hname, -⟩ := hparts
    have hstop := (h.star e he).2
    have htaken : s.taken = e.stop := by rw [taken, he]
    have hone : name.size - e.stop = name.size - (e.stop + 1) + 1 := by omega
    have hmore : (name.size - s.taken) * (glob.size + 1) =
        (name.size - (e.stop + 1)) * (glob.size + 1) + (glob.size + 1) := by
      rw [htaken, hone, Nat.succ_mul]
    have hback : glob.size - (e.index + 1) < glob.size + 1 + (glob.size - s.glob) := by omega
    calc (name.size - (e.stop + 1)) * (glob.size + 1) + (glob.size - (e.index + 1))
      _ < (name.size - (e.stop + 1)) * (glob.size + 1) +
          (glob.size + 1 + (glob.size - s.glob)) := Nat.add_lt_add_left hback _
      _ = s.remaining glob name := by rw [remaining, hmore, Nat.add_assoc _ (glob.size + 1)]

def run (glob name : Array Char) (s : Search) (h : s.Within glob name) : Bool :=
  match ht : s.turn glob name with
  | .goesOn t => run glob name t (h.next ht)
  | .ends fits => fits
termination_by s.remaining glob name
decreasing_by exact h.remaining_lt ht

end Search

def accepts (glob name : List Char) : Bool :=
  Search.start.run glob.toArray name.toArray (Search.within_start _ _)

end ModalLexer.Glob
