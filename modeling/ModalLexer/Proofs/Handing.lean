import ModalLexer.Proofs.FirstMatch
import ModalLexer.Proofs.Ledger

/-!
Stretches of a scan in which only rules apply and no frame below a certain height is left, as a
session hands them out: a call leaves what modes it must and then makes its token.
-/

namespace ModalLexer

namespace Scan

variable {floor : List Mode}

/-- A token that is made by a rule, perhaps after some modes were left; all frames of `floor` stay
open. -/
inductive Hands (floor : List Mode) : Scan → Token → Scan → Prop
  | emit {s : Scan} {r : Rule} {kind : TokenKind} {n : Nat} :
      s.chosen? = some (r, [(kind, n + 1)]) → r.isZeroWidth = false → kind ≠ .error →
        floor <:+ (r.action.apply s.modes).above →
          Hands floor s (s.cursor.token kind (n + 1))
            ⟨s.cursor.skip (n + 1), r.action.apply s.modes⟩
  | leave {s u : Scan} {r : Rule} {t : Token} :
      s.chosen? = some (r, []) → r.isZeroWidth = true → floor <:+ s.modes.pop.above →
        Hands floor ⟨s.cursor, s.modes.pop⟩ t u → Hands floor s t u

inductive Climbs (floor : List Mode) : Scan → List Token → Scan → Prop
  | refl (s : Scan) : Climbs floor s [] s
  | cons {s u v : Scan} {t : Token} {ts : List Token} :
      Hands floor s t u → Climbs floor u ts v → Climbs floor s (t :: ts) v

variable {s u v : Scan} {t : Token} {ts us : List Token}

theorem Hands.ahead_ne_nil (h : s.Hands floor t u) : s.cursor.ahead ≠ [] := by
  induction h with
  | leave _ _ _ _ ih => exact ih
  | emit hc =>
    have hle := Rule.total_le_of_match? (chosen?_eq_some hc).2.1
    intro he
    simp [he] at hle

theorem Hands.ahead_eq (h : s.Hands floor t u) :
    s.cursor.ahead = t.text.toList ++ u.cursor.ahead := by
  induction h with
  | leave _ _ _ _ ih => exact ih
  | emit => simp [Cursor.token]

theorem Hands.suffix (h : s.Hands floor t u) : floor <:+ u.modes.above := by
  induction h with
  | leave _ _ _ _ ih => exact ih
  | emit _ _ _ hf => exact hf

theorem Hands.ne_error (h : s.Hands floor t u) : t.kind ≠ .error := by
  induction h with
  | leave _ _ _ _ ih => exact ih
  | emit _ _ hk => exact hk

/-- What is reached from the start of a token lies before the token or behind it. -/
theorem Hands.between {resync : Bool} (h : s.Hands floor t u) (hs : floor <:+ s.modes.above)
    (hv : Reaches resync s v) :
    (floor <:+ v.modes.above ∧ v.cursor = s.cursor) ∨ Reaches resync u v := by
  induction h with
  | @emit s r kind n hc hz _ _ =>
    have hstep : (s.step resync).next = ⟨s.cursor.skip (n + 1), r.action.apply s.modes⟩ := by
      simp [step, move, hc, hz, perform, take]
    obtain rfl | hv := hv.cases_head
    · exact .inl ⟨hs, rfl⟩
    · rw [hstep] at hv
      exact .inr hv
  | @leave s u r t hc hz hf _ ih =>
    have hstep : (s.step resync).next = ⟨s.cursor, s.modes.pop⟩ := by
      simp [step, move, hc, hz, perform, take, Action.apply]
    obtain rfl | hv := hv.cases_head
    · exact .inl ⟨hs, rfl⟩
    · rw [hstep] at hv
      exact ih hf hv

theorem Hands.mono {floor' : List Mode} (h : s.Hands floor t u) (hf : floor' <:+ floor) :
    s.Hands floor' t u := by
  induction h with
  | emit hc hz hk hs => exact .emit hc hz hk (hf.trans hs)
  | leave hc hz hs _ ih => exact .leave hc hz (hf.trans hs) ih

namespace Climbs

theorem single (h : s.Hands floor t u) : s.Climbs floor [t] u := .cons h (.refl u)

theorem trans (h₁ : s.Climbs floor ts u) (h₂ : u.Climbs floor us v) :
    s.Climbs floor (ts ++ us) v := by
  induction h₁ with
  | refl => exact h₂
  | cons h _ ih => exact .cons h (ih h₂)

theorem leave {r : Rule} (hc : s.chosen? = some (r, [])) (hz : r.isZeroWidth = true)
    (hf : floor <:+ s.modes.pop.above) (h : Climbs floor ⟨s.cursor, s.modes.pop⟩ ts u)
    (hts : ts ≠ []) : s.Climbs floor ts u := by
  cases h with
  | refl => exact absurd rfl hts
  | cons h hrest => exact .cons (.leave hc hz hf h) hrest

theorem mono {floor' : List Mode} (h : s.Climbs floor ts u) (hf : floor' <:+ floor) :
    s.Climbs floor' ts u := by
  induction h with
  | refl => exact .refl _
  | cons h _ ih => exact .cons (h.mono hf) ih

theorem ahead_eq (h : s.Climbs floor ts u) :
    s.cursor.ahead = ts.flatMap (·.text.toList) ++ u.cursor.ahead := by
  induction h with
  | refl => rfl
  | cons h _ ih => rw [h.ahead_eq, ih, List.flatMap_cons, List.append_assoc]

theorem ne_error (h : s.Climbs floor ts u) : ∀ t ∈ ts, t.kind ≠ .error := by
  induction h with
  | refl => simp
  | cons h _ ih =>
    intro x hx
    obtain rfl | hx := List.mem_cons.1 hx
    · exact h.ne_error
    · exact ih x hx

/-- Whatever is reached before the end of the stretch has all frames of `floor` open. -/
theorem stays {resync : Bool} (h : s.Climbs floor ts u) (hs : floor <:+ s.modes.above)
    (hv : Reaches resync s v) (hlt : u.cursor.ahead.length < v.cursor.ahead.length) :
    floor <:+ v.modes.above := by
  induction h with
  | refl s =>
    have hle := hv.length_ahead_le
    omega
  | cons h _ ih =>
    obtain ⟨hf, -⟩ | hv := h.between hs hv
    · exact hf
    · exact ih h.suffix hv hlt

end Climbs
end Scan

namespace Session

variable {floor : List Mode} {s : Session} {u : Scan} {t : Token} {ts : List Token}

/-- So many calls of `next`, with what they hand out. -/
def calls : Nat → Session → List (Option Token) × Session
  | 0, s => ([], s)
  | n + 1, s => (s.next.1 :: (s.next.2.calls n).1, (s.next.2.calls n).2)

/-- A call makes the steps up to the token, and no message comes of them. -/
theorem next_of_hands (hp : s.pending = []) (h : s.scan.Hands floor t u) :
    s.next = (some t, { s with scan := u }) := by
  obtain ⟨resync, scan, pending, finished, diagnostics⟩ := s
  obtain rfl : pending = [] := hp
  change scan.Hands floor t u at h
  induction h with
  | @emit s r kind n hc hz hk hf =>
    have hne := (Scan.Hands.emit hc hz hk hf).ahead_ne_nil
    have hstep : s.step resync = s.take [(kind, n + 1)] r.action := by
      simp [Scan.step, Scan.move, hc, hz, Scan.perform]
    have herr : (s.cursor.token kind (n + 1)).isError = false := by
      simpa [Token.isError, Cursor.token] using hk
    have hpending : (advance ⟨resync, s, [], finished, diagnostics⟩).pending =
        [s.cursor.token kind (n + 1)] := by
      simp [advance, hstep, Scan.take, Cursor.tokens]
    rw [next_of_ne_nil rfl hne, next_of_pending hpending]
    simp [advance, hstep, Scan.take, Cursor.tokens, herr, report_nil]
  | @leave s u r t hc hz _ h ih =>
    have hstep : s.step resync = s.take [] .pop := by
      simp [Scan.step, Scan.move, hc, hz, Scan.perform]
    have hadv : advance ⟨resync, s, [], finished, diagnostics⟩ =
        ⟨resync, ⟨s.cursor, s.modes.pop⟩, [], finished, diagnostics⟩ := by
      simp [advance, hstep, Scan.take, Cursor.tokens, report_nil, Action.apply]
    rw [next_of_ne_nil rfl h.ahead_ne_nil, hadv]
    exact ih

theorem calls_of_climbs (hp : s.pending = []) (h : s.scan.Climbs floor ts u) :
    s.calls ts.length = (ts.map some, { s with scan := u }) := by
  induction ts generalizing s with
  | nil =>
    cases h
    rfl
  | cons t ts ih =>
    cases h with
    | @cons _ v _ _ _ h hs =>
      have hrest := ih (s := { s with scan := v }) hp hs
      rw [List.length_cons, calls, next_of_hands hp h, hrest]
      rfl

theorem suffix_calls (hp : s.pending = []) (h : s.scan.Climbs floor ts u)
    (hs : floor <:+ s.scan.modes.above) {n : Nat} (hn : n ≤ ts.length) :
    floor <:+ (s.calls n).2.scan.modes.above := by
  induction n generalizing s ts with
  | zero => exact hs
  | succ n ih =>
    cases h with
    | refl => simp at hn
    | @cons _ v _ _ _ h hrest =>
      rw [calls, next_of_hands hp h]
      exact ih (s := { s with scan := v }) hp hrest h.suffix (by simpa using hn)

end Session
end ModalLexer
