import Mathlib.Data.List.Chain
import ModalLexer.Proofs.Position
import ModalLexer.Proofs.Steps

/-!
The tokens of a source cut it into pieces: nothing is lost, nothing is taken twice, and every span
tells the place of its piece. `Tiles` says so of any stretch of text; a step tiles what it takes,
hence a run tiles all that was ahead.
-/

namespace ModalLexer

def Span.covering (before piece : List Char) : Span :=
  ⟨byteLength before, byteLength (before ++ piece), lineAfter before, columnAfter before⟩

/-- The tokens cut the text `ahead`, which follows `before`, into pieces that are not empty. -/
inductive Tiles : List Char → List Char → List Token → Prop
  | nil (before : List Char) : Tiles before [] []
  | cons {before piece ahead : List Char} {t : Token} {ts : List Token} : piece ≠ [] →
      t.text = String.ofList piece → t.span = Span.covering before piece →
      Tiles (before ++ piece) ahead ts → Tiles before (piece ++ ahead) (t :: ts)

/-- Tokens that partition a source, with spans that tell where each of them stands. -/
structure Partitions (source : String) (ts : List Token) : Prop where
  first : ∀ t ∈ ts.head?, t.span.start = 0
  adjacent : ts.IsChain fun t u => u.span.start = t.span.stop
  last : ∀ t ∈ ts.getLast?, t.span.stop = source.utf8ByteSize
  nothing : ts = [] ↔ source = ""
  slice : ∀ t ∈ ts, t.text ≠ "" ∧ ∃ before after, source = before ++ t.text ++ after ∧
    t.span.start = before.utf8ByteSize ∧ t.span.stop = (before ++ t.text).utf8ByteSize ∧
    t.span.line = lineAfter before.toList ∧ t.span.column = columnAfter before.toList
  /-- In 32 bits no counter overflows for a source shorter than `2 ^ 32 - 1` bytes. -/
  counters : ∀ t ∈ ts, t.span.line ≤ source.utf8ByteSize + 1 ∧
    t.span.column ≤ source.utf8ByteSize + 1

namespace Tiles

variable {before ahead : List Char} {ts : List Token}

theorem append {more : List Char} {us : List Token} (h : Tiles before ahead ts)
    (hu : Tiles (before ++ ahead) more us) : Tiles before (ahead ++ more) (ts ++ us) := by
  induction h with
  | nil before => simpa using hu
  | cons hp ht hs _ ih =>
    rw [List.append_assoc]
    exact .cons hp ht hs (ih (by simpa using hu))

theorem exists_split (h : Tiles before ahead ts) {t : Token} (ht : t ∈ ts) :
    ∃ b piece a, before ++ ahead = b ++ piece ++ a ∧ piece ≠ [] ∧
      t.text = String.ofList piece ∧ t.span = Span.covering b piece := by
  induction h with
  | nil before => simp at ht
  | @cons before piece ahead u us hp hu hs _ ih =>
    obtain rfl | ht := List.mem_cons.1 ht
    · exact ⟨before, piece, ahead, by simp, hp, hu, hs⟩
    · obtain ⟨b, q, a, e, hq⟩ := ih ht
      exact ⟨b, q, a, by simpa using e, hq⟩

theorem start_of_head (h : Tiles before ahead ts) {t : Token} (ht : t ∈ ts.head?) :
    t.span.start = byteLength before := by
  cases h with
  | nil => simp at ht
  | cons hp hu hs _ =>
    obtain rfl : _ = t := by simpa using ht
    rw [hs]
    rfl

theorem stop_of_getLast (h : Tiles before ahead ts) {t : Token} (ht : t ∈ ts.getLast?) :
    t.span.stop = byteLength (before ++ ahead) := by
  induction h with
  | nil before => simp at ht
  | @cons before piece ahead u us hp hu hs hrest ih =>
    rw [List.getLast?_cons] at ht
    cases hl : us.getLast? with
    | none =>
      obtain rfl := List.getLast?_eq_none_iff.1 hl
      obtain rfl : u = t := by simpa using ht
      cases hrest
      simp [hs, Span.covering]
    | some v =>
      rw [hl] at ht
      rw [ih (by simpa [hl] using ht), List.append_assoc]

theorem isChain (h : Tiles before ahead ts) :
    ts.IsChain fun t u => u.span.start = t.span.stop := by
  induction h with
  | nil => exact .nil
  | @cons before piece ahead t us hp ht hs hrest ih =>
    refine List.isChain_cons.2 ⟨?_, ih⟩
    intro u hu
    rw [hrest.start_of_head hu, hs]
    rfl

theorem eq_nil_iff (h : Tiles before ahead ts) : ts = [] ↔ ahead = [] := by
  cases h with
  | nil => simp
  | cons hp => simp [hp]

theorem le_start (h : Tiles before ahead ts) {t : Token} (ht : t ∈ ts) :
    byteLength before ≤ t.span.start := by
  induction h with
  | nil => cases ht
  | cons _ _ hs _ ih =>
    obtain rfl | ht := List.mem_cons.1 ht
    · rw [hs]
      exact Nat.le_refl _
    · have hle := ih ht
      rw [byteLength_append] at hle
      omega

theorem pairwise_start (h : Tiles before ahead ts) :
    ts.Pairwise fun t u => t.span.start < u.span.start := by
  induction h with
  | nil => exact .nil
  | @cons before piece ahead t us hp ht hs hrest ih =>
    refine .cons (fun u hu => ?_) ih
    have hle := hrest.le_start hu
    have hlength := length_le_byteLength piece
    have hpos := List.length_pos_iff.2 hp
    rw [byteLength_append] at hle
    rw [hs]
    change byteLength before < u.span.start
    omega

theorem start_lt (h : Tiles before ahead ts) {t : Token} (ht : t ∈ ts) :
    t.span.start < byteLength (before ++ ahead) := by
  obtain ⟨b, piece, a, e, hp, -, hs⟩ := h.exists_split ht
  have hlength := length_le_byteLength piece
  have hpos := List.length_pos_iff.2 hp
  rw [e, hs, byteLength_append, byteLength_append]
  change byteLength b < _
  omega

end Tiles

/-- What a cursor makes of pieces tiles the text that they take. -/
theorem Cursor.tiles_tokens {c : Cursor} (hc : c.Placed) {ps : List Piece}
    (h : Piece.total ps ≤ c.ahead.length) :
    Tiles c.behind (c.ahead.take (Piece.total ps)) (c.tokens ps) := by
  induction ps generalizing c with
  | nil => simpa [tokens] using Tiles.nil c.behind
  | cons p ps ih =>
    obtain ⟨kind, n⟩ := p
    rw [Piece.total_cons] at h ⊢
    cases n with
    | zero =>
      rw [Nat.zero_add] at h ⊢
      exact ih hc h
    | succ n =>
      have hne : c.ahead.take (n + 1) ≠ [] := by
        intro e
        have hlen := congrArg List.length e
        simp only [List.length_take, List.length_nil] at hlen
        omega
      have hspan : (c.token kind (n + 1)).span = Span.covering c.behind (c.ahead.take (n + 1)) := by
        rw [token, Span.covering, (hc.skip (n + 1)).position, behind_skip, hc.position, hc.line,
          hc.column]
      have hrest := ih (hc.skip (n + 1)) (by rw [ahead_skip, List.length_drop]; omega)
      rw [behind_skip, ahead_skip] at hrest
      rw [List.take_add]
      exact .cons hne rfl hspan hrest

namespace Scan

variable {resync : Bool} {s : Scan}

theorem placed_step (hs : s.cursor.Placed) : (s.step resync).next.cursor.Placed := by
  rw [step, cursor_perform]
  exact hs.skip _

theorem tiles_step (resync : Bool) (hs : s.cursor.Placed) (h : s.cursor.ahead ≠ []) :
    ∃ n, (s.step resync).next.cursor = s.cursor.skip n ∧
      Tiles s.cursor.behind (s.cursor.ahead.take n) (s.step resync).tokens := by
  refine ⟨Piece.total (s.move resync).pieces, cursor_perform s _, ?_⟩
  rw [step, tokens_perform]
  exact Cursor.tiles_tokens hs (total_pieces_move_le resync h)

/-- A run tiles all that was ahead of it. -/
theorem tiles_run (hs : s.cursor.Placed) :
    Tiles s.cursor.behind s.cursor.ahead (s.run resync).tokens := by
  fun_induction run resync s with
  | case1 s h => rw [h]; exact .nil _
  | case2 s h ih =>
    obtain ⟨n, hn, ht⟩ := tiles_step resync hs h
    have hrest := ih (placed_step hs)
    rw [hn, Cursor.behind_skip, Cursor.ahead_skip] at hrest
    have hall := ht.append hrest
    rwa [List.take_append_drop] at hall

end Scan

theorem tiles_lex (resync : Bool) (source : String) :
    Tiles [] source.toList (lex resync source).tokens :=
  Scan.tiles_run (s := .start source.toList) (Cursor.placed_ofList source.toList)

theorem exists_slice_of_mem_lex {resync : Bool} {source : String} {t : Token}
    (ht : t ∈ (lex resync source).tokens) :
    t.text ≠ "" ∧ ∃ before after, source = before ++ t.text ++ after ∧
      t.span.start = before.utf8ByteSize ∧ t.span.stop = (before ++ t.text).utf8ByteSize ∧
      t.span.line = lineAfter before.toList ∧ t.span.column = columnAfter before.toList := by
  obtain ⟨b, piece, a, e, hp, htext, hspan⟩ := (tiles_lex resync source).exists_split ht
  have hsource : source = String.ofList b ++ t.text ++ String.ofList a := by
    rw [htext, ← String.ofList_append, ← String.ofList_append, ← e, List.nil_append,
      String.ofList_toList]
  refine ⟨?_, String.ofList b, String.ofList a, hsource, ?_⟩
  · rw [htext]
    simpa using hp
  · rw [htext, ← String.ofList_append, utf8ByteSize_ofList, utf8ByteSize_ofList,
      String.toList_ofList, hspan]
    exact ⟨rfl, rfl, rfl, rfl⟩

theorem lex_partitions (resync : Bool) (source : String) :
    Partitions source (lex resync source).tokens where
  first := fun t ht => (tiles_lex resync source).start_of_head ht
  adjacent := (tiles_lex resync source).isChain
  last := by
    intro t ht
    rw [(tiles_lex resync source).stop_of_getLast ht, List.nil_append, byteLength_toList]
  nothing := by
    rw [(tiles_lex resync source).eq_nil_iff]
    simp
  slice := fun t ht => exists_slice_of_mem_lex ht
  counters := by
    intro t ht
    obtain ⟨-, before, after, e, -, -, hl, hc⟩ := exists_slice_of_mem_lex ht
    have hb : byteLength before.toList ≤ source.utf8ByteSize := by
      rw [byteLength_toList, e, String.utf8ByteSize_append, String.utf8ByteSize_append]
      omega
    have hline := lineAfter_le before.toList
    have hcolumn := columnAfter_le before.toList
    omega

end ModalLexer
