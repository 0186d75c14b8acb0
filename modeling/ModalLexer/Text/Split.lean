/-!
Text cut at a separator.
-/

namespace ModalLexer

/-- The stretches between separators: one more than there are separators. -/
def splitAtChar (sep : Char) : List Char → List (List Char)
  | [] => [[]]
  | c :: rest =>
    if c = sep then [] :: splitAtChar sep rest
    else
      match splitAtChar sep rest with
      | [] => [[c]]
      | l :: ls => (c :: l) :: ls

theorem splitAtChar_ne_nil (sep : Char) (cs : List Char) : splitAtChar sep cs ≠ [] := by
  cases cs with
  | nil => simp [splitAtChar]
  | cons c cs => simp only [splitAtChar]; split <;> try split
                 all_goals simp

theorem length_splitAtChar (sep : Char) (cs : List Char) :
    (splitAtChar sep cs).length = cs.count sep + 1 := by
  induction cs with
  | nil => rfl
  | cons c cs ih =>
    simp only [splitAtChar]
    split
    · rename_i h
      simp [h, ih]
    · rename_i h
      have := splitAtChar_ne_nil sep cs
      split
      · contradiction
      · rename_i l ls hs
        rw [hs] at ih
        simpa [List.count_cons_of_ne h] using ih

end ModalLexer
