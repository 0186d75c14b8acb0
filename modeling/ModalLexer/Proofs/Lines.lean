import Mathlib.Data.List.DropRight
import Mathlib.Data.List.TakeWhile
import ModalLexer.Proofs.Position
import ModalLexer.SourceFile

/-!
The lines of a source file. A line is found in two ways, by the offsets at which lines start and by
cutting the text at its newlines, and both find the same line; the number of newlines before a place
is the number of its line, counted from zero.
-/

namespace ModalLexer

theorem startsAfter_append (offset : Nat) (a b : List Char) :
    startsAfter offset (a ++ b) = startsAfter offset a ++ startsAfter (offset + byteLength a) b := by
  induction a generalizing offset with
  | nil => simp [startsAfter]
  | cons c a ih => by_cases hc : c = '\n' <;> simp [startsAfter, hc, ih, Nat.add_assoc]

theorem startsAfter_of_not_mem {offset : Nat} {cs : List Char} (h : '\n' ∉ cs) :
    startsAfter offset cs = [] := by
  induction cs generalizing offset with
  | nil => rfl
  | cons c cs ih =>
    obtain ⟨hc, hcs⟩ := not_or.1 (mt List.mem_cons.2 h)
    rw [startsAfter, if_neg (Ne.symm hc), ih hcs]

theorem length_startsAfter (offset : Nat) (cs : List Char) :
    (startsAfter offset cs).length = cs.count '\n' := by
  induction cs generalizing offset with
  | nil => rfl
  | cons c cs ih => by_cases hc : c = '\n' <;> simp [startsAfter, hc, ih]

theorem sliceBytes?_append (a b c : List Char) :
    sliceBytes? (byteLength a) (byteLength (a ++ b)) (a ++ b ++ c) = some b := by
  have hdrop : dropBytes? (byteLength a) (a ++ (b ++ c)) = some (b ++ c) := dropBytes?_byteLength _ _
  have hlen : byteLength (a ++ b) - byteLength a = byteLength b := by simp
  have htake : takeBytes? (byteLength b) (b ++ c) = some b := by
    rw [takeBytes?, dropBytes?_byteLength]
    simp
  rw [sliceBytes?, List.append_assoc, hdrop, hlen]
  simp [htake]

theorem splitAtChar_append_cons (sep : Char) (a b : List Char) :
    splitAtChar sep (a ++ sep :: b) = splitAtChar sep a ++ splitAtChar sep b := by
  induction a with
  | nil => simp [splitAtChar]
  | cons c a ih =>
    by_cases hc : c = sep
    · simp [splitAtChar, hc, ih]
    · obtain ⟨l, ls, hl⟩ := List.exists_cons_of_ne_nil (splitAtChar_ne_nil sep a)
      simp [splitAtChar, hc, ih, hl]

theorem splitAtChar_of_not_mem {sep : Char} {cs : List Char} (h : sep ∉ cs) :
    splitAtChar sep cs = [cs] := by
  induction cs with
  | nil => rfl
  | cons c cs ih =>
    obtain ⟨hc, hcs⟩ := not_or.1 (mt List.mem_cons.2 h)
    rw [splitAtChar, if_neg (Ne.symm hc), ih hcs]

theorem splitAtChar_join {ls : List String} (h : ∀ l ∈ ls, '\n' ∉ l.toList) :
    splitAtChar '\n' (String.join (ls.map (· ++ "\n"))).toList = ls.map String.toList ++ [[]] := by
  induction ls with
  | nil => rfl
  | cons l ls ih =>
    obtain ⟨hl, hls⟩ := List.forall_mem_cons.1 h
    have hcons : (String.join ((l :: ls).map (· ++ "\n"))).toList =
        l.toList ++ '\n' :: (String.join (ls.map (· ++ "\n"))).toList := by
      simp
    rw [hcons, splitAtChar_append_cons, splitAtChar_of_not_mem hl, ih hls]
    rfl

def isLineEnd (c : Char) : Bool := c == '\n' || c == '\r'

theorem trimLineEnd_eq (cs : List Char) : trimLineEnd cs = cs.rdropWhile isLineEnd := rfl

theorem trimLineEnd_append_newline (cs : List Char) : trimLineEnd (cs ++ ['\n']) = trimLineEnd cs := by
  rw [trimLineEnd_eq, List.rdropWhile_concat_pos _ _ _ rfl, trimLineEnd_eq]

theorem trimLineEnd_isPrefix (cs : List Char) : trimLineEnd cs <+: cs :=
  List.rdropWhile_prefix _ cs

theorem isPrefix_trimLineEnd {u v : List Char} (h : u <+: v) (hu : ∀ x ∈ u.getLast?, isLineEnd x = false) :
    u <+: trimLineEnd v := by
  obtain ⟨r, rfl⟩ := h
  induction r using List.reverseRecOn with
  | nil =>
    have hself : trimLineEnd u = u := by
      rw [trimLineEnd_eq, List.rdropWhile_eq_self_iff]
      intro hne
      simpa using hu _ (List.getLast?_eq_some_getLast hne)
    rw [List.append_nil]
    exact hself.symm ▸ List.prefix_refl u
  | append_singleton r x ih =>
    rw [trimLineEnd_eq, ← List.append_assoc, List.rdropWhile_concat]
    split
    · exact ih
    · rw [List.append_assoc]
      exact List.prefix_append _ _

theorem getLast?_trimLineEnd (cs : List Char) :
    ∀ x ∈ (trimLineEnd cs).getLast?, isLineEnd x = false := by
  intro x hx
  rw [trimLineEnd_eq] at hx
  obtain ⟨hne, rfl⟩ := List.mem_getLast?_eq_getLast hx
  simpa using List.rdropWhile_last_not isLineEnd cs hne

namespace SourceFile

/-- The text is `before`, a whole line, and `after`. -/
structure HasLine (f : SourceFile) (before line after : List Char) : Prop where
  text : f.content.toList = before ++ line ++ after
  starts : ∀ x ∈ before.getLast?, x = '\n'
  inside : '\n' ∉ line
  ends : ∀ x ∈ after.head?, x = '\n'

variable {f : SourceFile} {before line after : List Char}

theorem exists_hasLine {a b : List Char} (h : f.content.toList = a ++ b) :
    ∃ before lead after, a = before ++ lead ∧ b = b.takeWhile (· != '\n') ++ after ∧
      f.HasLine before (lead ++ b.takeWhile (· != '\n')) after := by
  have hsplit : a = a.rdropWhile (· != '\n') ++ a.rtakeWhile (· != '\n') :=
    List.rdropWhile_append_rtakeWhile.symm
  have hb : b = b.takeWhile (· != '\n') ++ b.dropWhile (· != '\n') :=
    List.takeWhile_append_dropWhile.symm
  refine ⟨_, _, _, hsplit, hb, ?_, ?_, ?_, ?_⟩
  · rw [h, ← List.append_assoc, ← hsplit, List.append_assoc, ← hb]
  · intro x hx
    obtain ⟨hne, rfl⟩ := List.mem_getLast?_eq_getLast hx
    simpa using List.rdropWhile_last_not (· != '\n') a hne
  · intro hmem
    obtain hmem | hmem := List.mem_append.1 hmem
    · simpa using List.mem_rtakeWhile_imp hmem
    · simpa using List.mem_takeWhile_imp hmem
  · intro x hx
    have hnot := List.head?_dropWhile_not (· != '\n') b
    rw [Option.mem_def.1 hx] at hnot
    simpa using hnot

namespace HasLine

/-- The line starts where the text before it ends. -/
theorem lineStart?_eq (h : f.HasLine before line after) :
    f.lineStart? (before.count '\n') = some (byteLength before) := by
  rw [lineStart?, lineStarts, h.text, List.append_assoc]
  cases before using List.reverseRecOn with
  | nil => rfl
  | append_singleton b x =>
    obtain rfl : x = '\n' := h.starts x (by simp)
    have hcount : (b ++ ['\n']).count '\n' = (startsAfter 0 b).length + 1 := by
      simp [length_startsAfter, List.count_append]
    rw [hcount, startsAfter_append, startsAfter_append]
    simp [startsAfter]

theorem lineStart?_succ (h : f.HasLine before line after) :
    f.lineStart? (before.count '\n' + 1) =
      if after = [] then none else some (byteLength (before ++ line) + 1) := by
  have hnewline : '\n'.utf8Size = 1 := by decide
  rw [lineStart?, lineStarts, h.text, List.append_assoc, List.getElem?_cons_succ,
    ← length_startsAfter 0 before, startsAfter_append, startsAfter_append,
    startsAfter_of_not_mem h.inside]
  cases after with
  | nil => simp [startsAfter]
  | cons x after =>
    obtain rfl : x = '\n' := h.ends x rfl
    simp [startsAfter, hnewline, Nat.add_assoc]

/-- The line with its newline ends where the next line starts, or where the text does. -/
theorem lineEnd_eq (h : f.HasLine before line after) :
    (f.lineStart? (before.count '\n' + 1)).getD f.size =
      byteLength (before ++ (line ++ after.take 1)) := by
  have hnewline : '\n'.utf8Size = 1 := by decide
  rw [h.lineStart?_succ, size, h.text]
  cases after with
  | nil => simp
  | cons x after =>
    obtain rfl : x = '\n' := h.ends x rfl
    simp [hnewline, Nat.add_assoc]

theorem lineAt?_eq (h : f.HasLine before line after) :
    f.lineAt? (before.count '\n' + 1) = some (String.ofList (trimLineEnd line)) := by
  have hline : (splitAtChar '\n' (line ++ after))[0]? = some line := by
    cases after with
    | nil => rw [List.append_nil, splitAtChar_of_not_mem h.inside]; rfl
    | cons x after =>
      obtain rfl : x = '\n' := h.ends x rfl
      rw [splitAtChar_append_cons, splitAtChar_of_not_mem h.inside]
      rfl
  have hat : (splitAtChar '\n' f.content.toList)[before.count '\n']? = some line := by
    rw [h.text, List.append_assoc]
    cases before using List.reverseRecOn with
    | nil => exact hline
    | append_singleton b x =>
      obtain rfl : x = '\n' := h.starts x (by simp)
      have hcount : (b ++ ['\n']).count '\n' = (splitAtChar '\n' b).length := by
        simp [length_splitAtChar, List.count_append]
      rw [hcount, List.append_assoc, List.singleton_append, splitAtChar_append_cons,
        List.getElem?_append_right (Nat.le_refl _), Nat.sub_self, hline]
  rw [lineAt?, hat]
  rfl

theorem trimLineEnd_eq (h : f.HasLine before line after) :
    trimLineEnd (line ++ after.take 1) = trimLineEnd line := by
  cases after with
  | nil => simp
  | cons x after =>
    obtain rfl : x = '\n' := h.ends x rfl
    exact trimLineEnd_append_newline line

theorem slice_eq (h : f.HasLine before line after) :
    sliceBytes? (byteLength before) (byteLength (before ++ (line ++ after.take 1)))
      f.content.toList = some (line ++ after.take 1) := by
  have htext : f.content.toList = before ++ (line ++ after.take 1) ++ after.drop 1 := by
    rw [h.text, List.append_assoc, List.append_assoc, List.append_assoc, List.take_append_drop]
  rw [htext]
  exact sliceBytes?_append _ _ _

end HasLine

theorem lineCount_eq (f : SourceFile) : f.lineCount = f.content.toList.count '\n' + 1 := by
  simp [lineCount, lineStarts, length_startsAfter]

theorem exists_append_of_le_count {n : Nat} {cs : List Char} (h : n ≤ cs.count '\n') :
    ∃ a b, cs = a ++ b ∧ a.count '\n' = n := by
  induction cs generalizing n with
  | nil => exact ⟨[], [], rfl, (Nat.le_zero.1 h).symm⟩
  | cons c cs ih =>
    cases n with
    | zero => exact ⟨[], c :: cs, rfl, rfl⟩
    | succ n =>
      by_cases hc : c = '\n'
      · subst hc
        obtain ⟨a, b, rfl, ha⟩ := ih (n := n) (by simpa using h)
        exact ⟨'\n' :: a, b, rfl, by simp [ha]⟩
      · obtain ⟨a, b, rfl, ha⟩ := ih (n := n + 1) (by simpa [hc] using h)
        exact ⟨c :: a, b, rfl, by simp [hc, ha]⟩

/-- Every number up to the number of lines is that of a line. -/
theorem exists_hasLine_of_lt (f : SourceFile) {n : Nat} (h : n < f.lineCount) :
    ∃ before line after, f.HasLine before line after ∧ before.count '\n' = n := by
  rw [lineCount_eq] at h
  obtain ⟨a, b, hab, ha⟩ := exists_append_of_le_count (Nat.lt_succ_iff.1 h)
  obtain ⟨before, lead, after, rfl, -, hline⟩ := exists_hasLine hab
  have hlead : '\n' ∉ lead := fun hmem => hline.inside (List.mem_append_left _ hmem)
  refine ⟨before, _, after, hline, ?_⟩
  rw [← ha, List.count_append, List.count_eq_zero_of_not_mem hlead, Nat.add_zero]

end SourceFile
end ModalLexer
