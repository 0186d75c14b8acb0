import ModalLexer.Proofs.Greedy
import ModalLexer.Proofs.Munch

/-!
Shapes in a row, with a token for what each of them takes. Where every shape ends before the next
one can begin, a row takes all texts that its shapes spell one after the other, and no shape takes
less than its text.
-/

namespace ModalLexer

namespace Piece

def texts : List Piece → List Char → List (List Char)
  | [], _ => []
  | (_, n) :: ps, cs => cs.take n :: texts ps (cs.drop n)

theorem flatten_texts (ps : List Piece) (cs : List Char) :
    (texts ps cs).flatten = cs.take (total ps) := by
  induction ps generalizing cs with
  | nil => rfl
  | cons p ps ih =>
    obtain ⟨kind, n⟩ := p
    rw [texts, List.flatten_cons, ih, total_cons, List.take_add]

end Piece

theorem Cursor.map_tokens {c : Cursor} {ps : List Piece} (h : Piece.total ps ≤ c.ahead.length) :
    (c.tokens ps).map (fun t => (t.kind, t.text.toList)) =
      ((ps.map Prod.fst).zip (Piece.texts ps c.ahead)).filter (!·.2.isEmpty) := by
  induction ps generalizing c with
  | nil => rfl
  | cons p ps ih =>
    obtain ⟨kind, n⟩ := p
    rw [Piece.total_cons] at h
    have hrest := ih (c := c.skip n) (by rw [ahead_skip, List.length_drop]; omega)
    rw [ahead_skip] at hrest
    cases n with
    | zero => simpa [tokens, Piece.texts] using hrest
    | succ n =>
      have htext : (c.ahead.take (n + 1)).isEmpty = false := by
        rw [List.isEmpty_eq_false_iff, ← List.length_pos_iff, List.length_take]
        omega
      rw [tokens, List.map_cons, hrest, Piece.texts, List.map_cons, List.zip_cons_cons,
        List.filter_cons_of_pos (by simpa using htext), token, String.toList_ofList]

namespace Rule

open Shape

variable {parts : List (TokenKind × Shape)} {prev : Option Char} {cs : List Char} {ps : List Piece}

theorem spells_of_split? (h : split? parts prev cs = some ps) :
    ps.map Prod.fst = parts.map Prod.fst ∧
      List.Forall₂ (fun part t => part.2.Spells t) parts (Piece.texts ps cs) := by
  induction parts generalizing prev cs ps with
  | nil =>
    obtain rfl : [] = ps := Option.some.inj h
    exact ⟨rfl, .nil⟩
  | cons part parts ih =>
    obtain ⟨kind, shape⟩ := part
    obtain ⟨n, qs, hn, hq, rfl⟩ := exists_of_split?_cons h
    obtain ⟨hkinds, hspells⟩ := ih hq
    exact ⟨congrArg (kind :: ·) hkinds, .cons (spells_of_reach hn) hspells⟩

def row (parts : List (TokenKind × Shape)) : Shape :=
  parts.foldr (fun part s => part.2 ++ s) (literal [])

/-- Each shape ends before the next one, which finds nothing in front that it looks back for, and
the last one takes no less than what it spells. -/
inductive Parted : List (TokenKind × Shape) → Prop
  | last (kind : TokenKind) {s : Shape} : s.Attains → Parted [(kind, s)]
  | cons (kind : TokenKind) {s : Shape} {part : TokenKind × Shape}
      {parts : List (TokenKind × Shape)} : s.EndsBefore (row (part :: parts)) →
      (∀ prev u, s.Spells u → part.2.Free (u.getLast?.or prev)) → Parted (part :: parts) →
      Parted ((kind, s) :: part :: parts)

theorem Parted.before {s : Shape} {part : TokenKind × Shape} (h : Parted (part :: parts))
    (kind : TokenKind) (hs : s.EndsBefore (row (part :: parts))) (hlook : part.2.lookbacks = []) :
    Parted ((kind, s) :: part :: parts) :=
  .cons kind hs (fun _ _ _ => free_of_nil hlook _) h

theorem spells_row {ts : List (List Char)}
    (h : List.Forall₂ (fun part t => part.2.Spells t) parts ts) :
    (row parts).Spells ts.flatten := by
  induction h with
  | nil => exact rfl
  | cons hs _ ih => exact ⟨_, _, hs, ih, rfl⟩

/-- A row of shapes takes what they spell, and each of them no less than its text. -/
theorem Parted.exists_split? (h : Parted parts) {ts : List (List Char)}
    (hts : List.Forall₂ (fun part t => part.2.Spells t) parts ts)
    (hfree : ∀ part ∈ parts.head?, part.2.Free prev) (rest : List Char) :
    ∃ ps, split? parts prev (ts.flatten ++ rest) = some ps ∧
      List.Forall₂ (fun u t => u.length ≤ t.length) ts (Piece.texts ps (ts.flatten ++ rest)) := by
  induction h generalizing prev ts with
  | last kind hs =>
    obtain ⟨u, _, hu, hnil, rfl⟩ := List.forall₂_cons_left_iff.1 hts
    obtain rfl := List.forall₂_nil_left_iff.1 hnil
    obtain ⟨n, hn, hle⟩ := hs rest (hfree _ rfl) hu
    rw [List.flatten_singleton]
    refine ⟨[(kind, n)], by simp [split?, hn], .cons ?_ .nil⟩
    rwa [List.length_take, Nat.min_eq_left (reach_le hn)]
  | @cons kind s part parts hs hnext _ ih =>
    obtain ⟨u, us, hu, hus, rfl⟩ := List.forall₂_cons_left_iff.1 hts
    have hreach := hs rest (hfree _ rfl) hu (spells_row hus)
    have hlast : lastOf prev u.length (u ++ (us.flatten ++ rest)) = u.getLast?.or prev := by
      rw [lastOf, List.take_left]
    have hfree : ∀ q ∈ (part :: parts).head?, q.2.Free (u.getLast?.or prev) :=
      fun q hq => Option.some.inj hq ▸ hnext prev u hu
    obtain ⟨ps, hps, hle⟩ := ih hus hfree
    rw [List.flatten_cons, List.append_assoc]
    refine ⟨(kind, u.length) :: ps, ?_, ?_⟩
    · rw [split?, hreach, Option.bind_eq_bind, Option.bind_some, hlast, List.drop_left, hps]
      rfl
    · rw [Piece.texts, List.take_left, List.drop_left]
      exact .cons le_rfl hle

end Rule
end ModalLexer
