import ModalLexer.Proofs.Overlap
import ModalLexer.Proofs.Restart

/-!
Texts that are found. A shape is matched from left to right and never goes back, so it may miss a
text of its language. It finds the text where each of its parts ends before the next one can begin,
and then it takes no less than that.
-/

namespace ModalLexer

namespace DigitRun

variable {p : Char → Bool} {t : List Char}

theorem mem (h : DigitRun p t) : ∀ x ∈ t, p x = true ∨ x = '_' := by
  induction h with
  | last hd => exact List.forall_mem_singleton.2 (.inl hd)
  | cons n hd _ ih =>
    refine List.forall_mem_cons.2 ⟨.inl hd, List.forall_mem_append.2 ⟨fun x hx => ?_, ih⟩⟩
    exact .inr (List.eq_of_mem_replicate hx)

theorem exists_head (h : DigitRun p t) : ∃ d rest, t = d :: rest ∧ p d = true := by
  cases h with
  | last hd => exact ⟨_, _, rfl, hd⟩
  | cons n hd => exact ⟨_, _, rfl, hd⟩

theorem exists_last (h : DigitRun p t) : ∃ u d, t = u ++ [d] ∧ p d = true := by
  induction h with
  | last hd => exact ⟨[], _, rfl, hd⟩
  | @cons d n rest _ _ ih =>
    obtain ⟨u, e, rfl, he⟩ := ih
    exact ⟨d :: (List.replicate n '_' ++ u), e, by simp, he⟩

end DigitRun

namespace Shape

variable {a b c : Shape} {p : Char → Bool}

def Free (s : Shape) (prev : Option Char) : Prop := ∀ p ∈ s.lookbacks, prev.any p = false

/-- Before a text of the second shape, exactly the text of the first is matched. -/
def EndsBefore (a b : Shape) : Prop :=
  ∀ ⦃prev u v⦄ (rest : List Char), a.Free prev → a.Spells u → b.Spells v →
    a.reach prev (u ++ (v ++ rest)) = some u.length

/-- Where a text of the shape stands, no less than that text is matched. -/
def Attains (s : Shape) : Prop :=
  ∀ ⦃prev t⦄ (rest : List Char), s.Free prev → s.Spells t →
    ∃ n, s.reach prev (t ++ rest) = some n ∧ t.length ≤ n

/-- Every text of the shape begins with a character that is not of the class. -/
def Shuns (s : Shape) (p : Char → Bool) : Prop :=
  ∀ ⦃t⦄, s.Spells t → ∃ x rest, t = x :: rest ∧ p x = false

theorem free_of_nil (h : a.lookbacks = []) (prev : Option Char) : a.Free prev := by
  rw [Free, h]
  exact fun p hp => absurd hp List.not_mem_nil

theorem shuns_one {q : Char → Bool} (h : ∀ x, q x = true → p x = false) : (one q).Shuns p := by
  rintro t ⟨x, hx, rfl⟩
  exact ⟨x, [], rfl, h x hx⟩

theorem shuns_char {x : Char} (h : p x = false) : (char x).Shuns p :=
  shuns_one fun _ hy => beq_iff_eq.1 hy ▸ h

theorem Shuns.append (h : a.Shuns p) (b : Shape) : (a ++ b).Shuns p := by
  rintro t ⟨u, v, hu, -, rfl⟩
  obtain ⟨x, rest, rfl, hx⟩ := h hu
  exact ⟨x, rest ++ v, rfl, hx⟩

theorem shuns_many_append {q : Char → Bool} (h : ∀ x, q x = true → p x = false) (hb : b.Shuns p) :
    (many q ++ b).Shuns p := by
  rintro t ⟨u, v, hu, hv, rfl⟩
  cases u with
  | nil => exact hb hv
  | cons x u => exact ⟨x, u ++ v, rfl, h x (hu x List.mem_cons_self)⟩

theorem one_endsBefore : (one p).EndsBefore b := by
  rintro prev u v rest - ⟨x, hx, rfl⟩ -
  simp [reach, hx]

theorem many_endsBefore (h : b.Shuns p) : (many p).EndsBefore b := by
  intro prev u v rest _ hu hv
  obtain ⟨x, v, rfl, hx⟩ := h hv
  exact reach_many hu hx

theorem EndsBefore.append (hab : a.EndsBefore b) (hbc : b.EndsBefore c) (hb : b.lookbacks = []) :
    (a ++ b).EndsBefore c := by
  rintro prev _ v rest hfree ⟨u, t, hu, ht, rfl⟩ hv
  have ha := hab (v ++ rest) (fun p hp => hfree p (List.mem_append_left _ hp)) hu ht
  rw [List.append_assoc, List.length_append]
  refine reach_append ha ?_
  rw [List.drop_left]
  exact hbc rest (free_of_nil hb _) ht hv

theorem many1_endsBefore (h : b.Shuns p) : (many1 p).EndsBefore b :=
  one_endsBefore.append (many_endsBefore h) rfl

theorem opt_one_endsBefore (h : b.Shuns p) : (opt (one p)).EndsBefore b := by
  rintro prev u v rest - (rfl | ⟨x, hx, rfl⟩) hv
  · obtain ⟨y, v, rfl, hy⟩ := h hv
    simp [reach, hy]
  · simp [reach, hx]

theorem many_attains (p : Char → Bool) : (many p).Attains := by
  intro prev t rest _ ht
  exact ⟨_, rfl, by rw [List.takeWhile_append_of_pos ht, List.length_append]; omega⟩

theorem one_attains (p : Char → Bool) : (one p).Attains := by
  rintro prev t rest - ⟨x, hx, rfl⟩
  exact ⟨1, by simp [reach, hx], le_rfl⟩

theorem Attains.append (hb : b.Attains) (hab : a.EndsBefore b) (hlook : b.lookbacks = []) :
    (a ++ b).Attains := by
  rintro prev _ rest hfree ⟨u, v, hu, hv, rfl⟩
  have ha := hab rest (fun p hp => hfree p (List.mem_append_left _ hp)) hu hv
  obtain ⟨n, hn, hle⟩ := hb rest
    (free_of_nil hlook (lastOf prev u.length (u ++ (v ++ rest)))) hv
  rw [List.append_assoc, List.length_append]
  exact ⟨u.length + n, reach_append ha (by rwa [List.drop_left]), by omega⟩

/-- A text that may have more behind it; where it has, it ends before that. -/
theorem Attains.append_opt (ha : a.Attains) (hab : a.EndsBefore b) (hb : b.Attains)
    (hlook : b.lookbacks = []) : (a ++ opt b).Attains := by
  rintro prev _ rest hfree ⟨u, v, hu, rfl | hv, rfl⟩
  · have hleft : a.Free prev := fun p hp => hfree p (List.mem_append_left _ hp)
    obtain ⟨n, hn, hle⟩ := ha rest hleft hu
    rw [List.append_nil]
    exact ⟨_, reach_append hn rfl, by omega⟩
  · have hleft : (a ++ b).Free prev := hfree
    obtain ⟨n, hn, hle⟩ := (hb.append hab hlook) rest hleft ⟨u, v, hu, hv, rfl⟩
    obtain ⟨k, l, hk, hl, rfl⟩ := exists_of_reach_seq hn
    exact ⟨k + l, reach_append hk (by rw [reach, hl]; rfl), hle⟩

/-- Behind a digit run, what there is of digits and underscores counts but for the underscores at
its end. -/
theorem digitsLength_append {u : List Char} (hp : p '_' = false) (hu : DigitRun p u)
    (rest : List Char) : digitsLength p (u ++ rest) = u.length +
      ((rest.takeWhile fun x => p x || x == '_').reverse.dropWhile (· == '_')).length := by
  obtain ⟨d, v, hd, hdigit⟩ := hu.exists_head
  obtain ⟨v', e, he, hlast⟩ := hu.exists_last
  have hne : e ≠ '_' := by
    rintro rfl
    exact absurd hlast (by simp [hp])
  have hhead : (u ++ rest).head?.any p = true := by simp [hd, hdigit]
  have hrun : (u ++ rest).takeWhile (fun x => p x || x == '_') =
      u ++ rest.takeWhile (fun x => p x || x == '_') :=
    List.takeWhile_append_of_pos fun x hx => by simpa using hu.mem x hx
  have hkeep : u.reverse.dropWhile (· == '_') = u.reverse := by simp [he, hne]
  rw [digitsLength, if_pos hhead, hrun, List.reverse_append, List.dropWhile_append, hkeep]
  split
  · rename_i hnil
    simp [List.isEmpty_iff.1 hnil]
  · simp [Nat.add_comm]

theorem reach_digits_append {u : List Char} (hp : p '_' = false) (hu : DigitRun p u)
    (prev : Option Char) (rest : List Char) :
    (digits p).reach prev (u ++ rest) = some (digitsLength p (u ++ rest)) := by
  have hpos := List.length_pos_iff.2 hu.ne_nil
  have hlen := digitsLength_append hp hu rest
  rw [reach, if_neg (by omega)]

theorem digits_attains (hp : p '_' = false) : (digits p).Attains := by
  intro prev t rest _ ht
  have hlen := digitsLength_append hp ht rest
  exact ⟨_, reach_digits_append hp ht prev rest, by omega⟩

theorem digits_endsBefore (hp : p '_' = false)
    (h : ∀ v, b.Spells v → ∃ n x rest, v = List.replicate n '_' ++ x :: rest ∧
      (p x || x == '_') = false) : (digits p).EndsBefore b := by
  intro prev u v rest _ hu hv
  obtain ⟨n, x, v, rfl, hx⟩ := h v hv
  have hrun : (List.replicate n '_' ++ x :: v ++ rest).takeWhile (fun x => p x || x == '_') =
      List.replicate n '_' := by
    rw [List.append_assoc, List.takeWhile_append_of_pos (by simp), List.cons_append,
      List.takeWhile_cons_of_neg (by simp [hx]), List.append_nil]
  rw [reach_digits_append hp hu, digitsLength_append hp hu, hrun]
  simp

end Shape

/-- Where a text of its shape stands, the rule matches and takes no less. -/
theorem Rule.exists_match?_of_attains {kind : TokenKind} {shape : Shape} {a : Action} {c : Cursor}
    {v : List Char} (ha : shape.Attains) (hlook : shape.lookbacks = []) (hs : shape.Spells v)
    (hne : v ≠ []) (hv : v <+: c.ahead) :
    ∃ qs, (token kind shape a).match? c = some qs ∧ v.length ≤ Piece.total qs := by
  obtain ⟨rest, hrest⟩ := hv
  obtain ⟨n, hn, hle⟩ := ha rest (Shape.free_of_nil hlook c.previous?) hs
  have hpos := List.length_pos_iff.2 hne
  rw [hrest] at hn
  exact ⟨[(kind, n)], match?_token hn (by omega), by simpa using hle⟩

end ModalLexer
