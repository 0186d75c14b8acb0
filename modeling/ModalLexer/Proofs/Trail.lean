import ModalLexer.Cursor.Script
import ModalLexer.Proofs.Position

/-!
Cursors under any operations in any order. A cursor has no source to look back at but what it
carries; main result: whatever was asked of it, its offset is a boundary of the source, its line and
column are those of the text before, and what it sees ahead and behind is what stands there. Only
going back to a place that was noted leads backwards, and what fails changes nothing.
-/

namespace ModalLexer

/-- The character that begins at an offset: a byte below 128 is one by itself, any other is decoded
with those behind it. -/
def decodedAt? (bytes : ByteArray) (i : Nat) : Option Char :=
  if h : i < bytes.size then
    if bytes[i] < 128 then some (.ofNat bytes[i].toNat) else bytes.utf8DecodeChar? i
  else none

theorem size_utf8Encode (cs : List Char) : cs.utf8Encode.size = byteLength cs := by
  rw [← utf8ByteSize_ofList]
  rfl

theorem ofNat_of_utf8EncodeChar {x : Char} {b : UInt8} {bs : List UInt8}
    (h : String.utf8EncodeChar x = b :: bs) (hb : b < 128) : Char.ofNat b.toNat = x := by
  have hlt : b.toNat < 128 := hb
  unfold String.utf8EncodeChar at h
  dsimp only at h
  split at h
  · obtain ⟨rfl, -⟩ := List.cons.inj h
    rw [UInt8.toNat_ofNat', Nat.mod_eq_of_lt (by omega)]
    exact Char.ofNat_toNat x
  · -- the first of several bytes is at least 192
    exfalso
    split at h
    · obtain ⟨rfl, -⟩ := List.cons.inj h
      rw [UInt8.toNat_ofNat'] at hlt
      omega
    · split at h
      · obtain ⟨rfl, -⟩ := List.cons.inj h
        rw [UInt8.toNat_ofNat'] at hlt
        omega
      · obtain ⟨rfl, -⟩ := List.cons.inj h
        rw [UInt8.toNat_ofNat'] at hlt
        omega

theorem decodedAt?_utf8Encode (before after : List Char) :
    decodedAt? (before ++ after).utf8Encode (byteLength before) = after.head? := by
  rw [List.utf8Encode_append]
  have hsize := size_utf8Encode before
  cases after with
  | nil => simp [decodedAt?, hsize]
  | cons x rest =>
    obtain ⟨b, bs, hb⟩ := List.exists_cons_of_ne_nil (String.utf8EncodeChar_ne_nil (c := x))
    have hin : byteLength before < (before.utf8Encode ++ (x :: rest).utf8Encode).size := by
      have hpos := x.utf8Size_pos
      rw [ByteArray.size_append, hsize, size_utf8Encode, byteLength_cons]
      omega
    have hbyte : (before.utf8Encode ++ (x :: rest).utf8Encode)[byteLength before] = b := by
      rw [ByteArray.getElem_append_right (Nat.le_of_eq hsize)]
      simp only [hsize, Nat.sub_self]
      simp [List.utf8Encode, hb]
    rw [decodedAt?, dif_pos hin, hbyte]
    split
    · rename_i hlt
      rw [ofNat_of_utf8EncodeChar hb hlt]
      rfl
    · rw [ByteArray.utf8DecodeChar?_eq_utf8DecodeChar?_extract,
        ByteArray.extract_append_eq_right hsize.symm ByteArray.size_append]
      exact List.utf8DecodeChar?_utf8Encode_cons

namespace Cursor

/-- What the cursor tells is true of the source at its offset. -/
structure Consistent (source : String) (c : Cursor) : Prop where
  boundary : String.Pos.Raw.IsValid source ⟨c.position⟩
  inside : c.position ≤ source.utf8ByteSize
  place : ∃ before after, source = before ++ after ∧ c.position = before.utf8ByteSize ∧
    c.line = lineAfter before.toList ∧ c.column = columnAfter before.toList ∧
    c.remaining = after ∧ c.peek? = after.toList.head? ∧ c.previous? = before.toList.getLast?
  decoded : c.peek? = decodedAt? source.toUTF8 c.position
  /-- In 32 bits no counter overflows for a source shorter than `2 ^ 32 - 1` bytes. -/
  counters : c.line ≤ source.utf8ByteSize + 1 ∧ c.column ≤ source.utf8ByteSize + 1

structure Follows (source : String) (c : Cursor) : Prop where
  placed : c.Placed
  source : c.source = source.toList

variable {source : String} {c d : Cursor}

theorem follows_ofString (source : String) : (ofString source).Follows source :=
  ⟨placed_ofList _, rfl⟩

theorem Follows.skip (h : c.Follows source) (n : Nat) : (c.skip n).Follows source :=
  ⟨h.placed.skip n, (source_skip c n).trans h.source⟩

theorem Follows.consistent (h : c.Follows source) : c.Consistent source := by
  have htext : source.toList = c.behind ++ c.ahead := h.source.symm
  have hsplit : source = String.ofList c.behind ++ String.ofList c.ahead := by
    rw [← String.ofList_append, ← htext, String.ofList_toList]
  have hposition : c.position = (String.ofList c.behind).utf8ByteSize := by
    rw [utf8ByteSize_ofList, h.placed.position]
  have hinside : byteLength c.behind ≤ source.utf8ByteSize := by
    rw [← byteLength_toList, htext, byteLength_append]
    exact Nat.le_add_right _ _
  refine ⟨?_, ?_, ⟨_, _, hsplit, hposition, ?_, ?_, rfl, ?_, ?_⟩, ?_, ?_, ?_⟩
  · rw [String.Pos.Raw.isValid_iff_exists_append]
    exact ⟨_, _, hsplit, by rw [hposition]; rfl⟩
  · rw [h.placed.position]
    exact hinside
  · rw [String.toList_ofList, h.placed.line]
  · rw [String.toList_ofList, h.placed.column]
  · rw [String.toList_ofList, peek?]
  · rw [String.toList_ofList, behind, List.getLast?_reverse, previous?]
  · rw [String.toUTF8_eq_toByteArray, ← String.utf8Encode_toList, htext, h.placed.position,
      decodedAt?_utf8Encode, peek?]
  · rw [h.placed.line]
    exact Nat.le_trans (lineAfter_le _) (Nat.succ_le_succ hinside)
  · rw [h.placed.column]
    exact Nat.le_trans (columnAfter_le _) (Nat.succ_le_succ hinside)

theorem position_le_skip (c : Cursor) (n : Nat) : c.position ≤ (c.skip n).position := by
  rw [position_skip]
  exact Nat.le_add_right _ _

theorem exists_skip_of_eatIf {p : Char → Bool} (h : c.eatIf p = some d) : ∃ n, d = c.skip n := by
  obtain ⟨-, hd⟩ := Option.ite_none_right_eq_some.1 h
  exact ⟨1, (Option.some.inj hd).symm⟩

theorem exists_skip_of_eatText {s : String} (h : c.eatText s = some d) : ∃ n, d = c.skip n := by
  obtain ⟨-, hd⟩ := Option.ite_none_right_eq_some.1 h
  exact ⟨_, (Option.some.inj hd).symm⟩

theorem exists_skip_of_eatWord {s : String} (h : c.eatWord s = some d) : ∃ n, d = c.skip n := by
  obtain ⟨-, hd⟩ := Option.ite_none_left_eq_some.1 h
  exact exists_skip_of_eatText (Option.filter_eq_some_iff.1 hd).1

def Command.isRestore : Command → Bool
  | .restore _ => true
  | _ => false

namespace Trail

variable {t : Trail} {k : Command}

def after (t : Trail) (ks : List Command) : Trail := ks.foldl (fun t k => (t.perform k).2) t

theorem exists_skip_attempt {o : Option Cursor}
    (h : ∀ d, o = some d → ∃ n, d = t.cursor.skip n) :
    ∃ n, (t.attempt o).2.cursor = t.cursor.skip n := by
  cases o with
  | none => exact ⟨0, rfl⟩
  | some d => exact h d rfl

/-- Whatever does not go back goes over some characters, if any. -/
theorem exists_skip_perform (hk : k.isRestore = false) :
    ∃ n, (t.perform k).2.cursor = t.cursor.skip n := by
  cases k with
  | advance => exact ⟨1, rfl⟩
  | advanceTo target => exact ⟨_, rfl⟩
  | eatWhile p => exact ⟨_, rfl⟩
  | eat x => exact exists_skip_attempt fun d => exists_skip_of_eatIf
  | eatIf p => exact exists_skip_attempt fun d => exists_skip_of_eatIf
  | eatText s => exact exists_skip_attempt fun d => exists_skip_of_eatText
  | eatWord s => exact exists_skip_attempt fun d => exists_skip_of_eatWord
  | restore index => cases hk
  | peek | peekNth | previous | atEnd | sliceFrom | remaining | snapshot => exact ⟨0, rfl⟩

theorem mem_noted_perform {c : Cursor} (h : c ∈ (t.perform k).2.noted) :
    c ∈ t.noted ∨ c = t.cursor := by
  cases k with
  | snapshot => simpa [perform] using h
  | _ => exact .inl h

/-- An operation that may fail and does leaves all as it was. -/
theorem eq_of_attempt {o : Option Cursor} (h : (t.attempt o).1 = .flag false) :
    (t.attempt o).2 = t := by
  cases o with
  | none => rfl
  | some d => simp [attempt] at h

theorem perform_of_failed (h : (t.perform k).1 = .flag false) : (t.perform k).2 = t := by
  cases k with
  | eat x => exact eq_of_attempt h
  | eatIf p => exact eq_of_attempt h
  | eatText s => exact eq_of_attempt h
  | eatWord s => exact eq_of_attempt h
  | advance | advanceTo | eatWhile | snapshot | restore => simp [perform] at h
  | peek | peekNth | previous | atEnd | sliceFrom | remaining => rfl

structure Follows (source : String) (t : Trail) : Prop where
  cursor : t.cursor.Follows source
  noted : ∀ c ∈ t.noted, c.Follows source

variable {source : String}

theorem follows_start (source : String) : (start source).Follows source :=
  ⟨follows_ofString source, by simp [start]⟩

theorem Follows.perform (h : t.Follows source) (k : Command) : (t.perform k).2.Follows source := by
  constructor
  · cases hk : k.isRestore with
    | false =>
      obtain ⟨n, hn⟩ := exists_skip_perform (t := t) hk
      rw [hn]
      exact h.cursor.skip n
    | true =>
      obtain ⟨index, rfl⟩ : ∃ index, k = .restore index := by
        cases k with
        | restore index => exact ⟨index, rfl⟩
        | _ => cases hk
      change (t.noted[index]?.getD t.cursor).Follows source
      cases hnoted : t.noted[index]? with
      | none => exact h.cursor
      | some c => exact h.noted c (List.mem_of_getElem? hnoted)
  · intro c hc
    obtain hc | rfl := mem_noted_perform hc
    · exact h.noted c hc
    · exact h.cursor

theorem Follows.after (h : t.Follows source) (ks : List Command) :
    (t.after ks).Follows source := by
  induction ks generalizing t with
  | nil => exact h
  | cons k ks ih => exact ih (h.perform k)

theorem position_le_after (t : Trail) {ks : List Command} (hks : ∀ k ∈ ks, k.isRestore = false) :
    t.cursor.position ≤ (t.after ks).cursor.position := by
  induction ks generalizing t with
  | nil => exact Nat.le_refl _
  | cons k ks ih =>
    obtain ⟨hk, hks⟩ := List.forall_mem_cons.1 hks
    obtain ⟨n, hn⟩ := exists_skip_perform (t := t) hk
    have hstep : t.cursor.position ≤ (t.perform k).2.cursor.position := by
      rw [hn]
      exact position_le_skip t.cursor n
    exact Nat.le_trans hstep (ih (t.perform k).2 hks)

/-- What holds of a trail at any time: of where it is, of where it can go back to, and of what it
does next. -/
structure Consistent (source : String) (t : Trail) : Prop where
  cursor : t.cursor.Consistent source
  noted : ∀ c ∈ t.noted, c.Consistent source
  forward : ∀ ks, (∀ k ∈ ks, k.isRestore = false) →
    t.cursor.position ≤ (t.after ks).cursor.position
  failed : ∀ k, (t.perform k).1 = .flag false → (t.perform k).2 = t
  restored : ∀ index c, t.noted[index]? = some c → (t.perform (.restore index)).2.cursor = c

/-- After any operations, all is as it should be. -/
theorem consistent_after (source : String) (ks : List Command) :
    ((start source).after ks).Consistent source where
  cursor := ((follows_start source).after ks).cursor.consistent
  noted := fun c hc => (((follows_start source).after ks).noted c hc).consistent
  forward := fun _ => position_le_after _
  failed := fun _ => perform_of_failed
  restored := by
    intro index c hc
    rw [perform, hc]
    rfl

/-- Into a character of two bytes, back, and past the end. -/
example :
    let t := (start "aé\n").after [.advance, .snapshot, .advanceTo 2, .eat 'x', .restore 0]
    (t.cursor.position, (t.after [.advanceTo 2]).cursor.position,
      (t.after [.advanceTo 9]).cursor.position, (t.after [.advanceTo 9]).cursor.line) =
        (1, 3, 4, 2) := by
  decide

end Trail
end Cursor
end ModalLexer
