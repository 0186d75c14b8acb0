import ModalLexer.Text.Align
import ModalLexer.Text.Quoted

/-!
Numbers and quoted text read back. A reader takes one character at a time and keeps what it has
read so far; an escape brings it back to where it was, with one more character read. Hence no text
between quotes can end its own quotation.
-/

namespace ModalLexer

section readers

variable {σ : Type} {step : σ → Char → Option σ}

/-- A reader that takes in each digit reads the number that the digits write. -/
theorem foldlM_toDigits {b : Nat} (hb : 1 < b) (place : Nat → σ)
    (h : ∀ m, ∀ d < b, step (place m) d.digitChar = some (place (b * m + d))) (n : Nat) :
    (Nat.toDigits b n).foldlM step (place 0) = some (place n) := by
  induction n using Nat.strongRecOn with
  | ind n ih =>
    by_cases hn : n < b
    · rw [Nat.toDigits_of_lt_base hn]
      simpa using h 0 n hn
    · have hlead := ih (n / b) (Nat.div_lt_self (by omega) hb)
      have hlast := h (n / b) (n % b) (Nat.mod_lt n (by omega))
      rw [Nat.div_add_mod] at hlast
      rw [Nat.toDigits_of_base_le hb (by omega), List.foldlM_append, hlead]
      simpa using hlast

/-- A reader that undoes the escape of every character undoes those of a text. -/
theorem foldlM_flatMap {escape : Char → List Char} {place : List Char → σ}
    (h : ∀ cs c, (escape c).foldlM step (place cs) = some (place (cs ++ [c])))
    (cs text : List Char) :
    (text.flatMap escape).foldlM step (place cs) = some (place (cs ++ text)) := by
  induction text generalizing cs with
  | nil => simp
  | cons c text ih =>
    rw [List.flatMap_cons, List.foldlM_append, h, Option.bind_eq_bind, Option.bind_some, ih]
    simp

end readers

def digit? (base : Nat) (c : Char) : Option Nat :=
  let value := if c.isDigit then c.toNat - 48 else c.toLower.toNat - 87
  if (c.isDigit ∨ 'a' ≤ c.toLower) ∧ value < base then some value else none

theorem digit?_sixteen : ∀ d < 16, digit? 16 d.digitChar = some d := by decide

theorem digit?_ten : ∀ d < 10, digit? 10 d.digitChar = some d := by decide

def number? (cs : List Char) : Option Nat :=
  if cs = [] then none else cs.foldlM (fun n c => (digit? 10 c).map (10 * n + ·)) 0

theorem number?_toDigits (n : Nat) : number? (Nat.toDigits 10 n) = some n := by
  rw [number?, if_neg Nat.toDigits_ne_nil]
  refine foldlM_toDigits (by decide) id (fun m d hd => ?_) n
  rw [digit?_ten d hd]
  rfl

theorem exists_digit_of_mem_toDigits {b n : Nat} (hb : 1 < b) {c : Char}
    (hc : c ∈ Nat.toDigits b n) : ∃ d < b, c = d.digitChar := by
  induction n using Nat.strongRecOn with
  | ind n ih =>
    by_cases hn : n < b
    · rw [Nat.toDigits_of_lt_base hn, List.mem_singleton] at hc
      exact ⟨n, hn, hc⟩
    · rw [Nat.toDigits_of_base_le hb (by omega), List.mem_append, List.mem_singleton] at hc
      obtain hc | hc := hc
      · exact ih (n / b) (Nat.div_lt_self (by omega) hb) hc
      · exact ⟨n % b, Nat.mod_lt n (by omega), hc⟩

namespace Quoted

inductive Phase
  | start
  | plain (cs : List Char)
  | escape (cs : List Char)
  | brace (cs : List Char)
  | code (cs : List Char) (n : Nat)
  | done (cs : List Char)

/-- The letters of short escapes, and what they stand for. -/
def shorts : List (Char × Char) :=
  [('0', '\x00'), ('t', '\t'), ('n', '\n'), ('r', '\r'), ('\\', '\\'), ('"', '"')]

def Phase.step (p : Phase) (c : Char) : Option Phase :=
  match p with
  | .start => if c = '"' then some (.plain []) else none
  | .plain cs =>
    if c = '"' then some (.done cs)
    else if c = '\\' then some (.escape cs)
    else some (.plain (cs ++ [c]))
  | .escape cs =>
    if c = 'u' then some (.brace cs) else (shorts.lookup c).map fun x => .plain (cs ++ [x])
  | .brace cs => if c = '\x7b' then some (.code cs 0) else none
  | .code cs n =>
    if c = '\x7d' then some (.plain (cs ++ [Char.ofNat n]))
    else (digit? 16 c).map fun d => .code cs (16 * n + d)
  | .done _ => none

def read? (cs : List Char) : Option (List Char) :=
  match cs.foldlM Phase.step .start with
  | some (.done text) => some text
  | _ => none

theorem step_digit (cs : List Char) (m d : Nat) (hd : d < 16) :
    Phase.step (.code cs m) d.digitChar = some (.code cs (16 * m + d)) := by
  have hbrace : ∀ d < 16, Nat.digitChar d ≠ '\x7d' := by decide
  rw [Phase.step, if_neg (hbrace d hd), digit?_sixteen d hd]
  rfl

theorem read_codePoint (cs : List Char) (c : Char) :
    (codePoint c).foldlM Phase.step (.plain cs) = some (.plain (cs ++ [c])) := by
  have hopen : "\\u\x7b".toList.foldlM Phase.step (.plain cs) = some (.code cs 0) := rfl
  have hdigits := foldlM_toDigits (by decide) (Phase.code cs) (step_digit cs) c.toNat
  have hclose : Phase.step (.code cs c.toNat) '\x7d' = some (.plain (cs ++ [c])) := by
    rw [Phase.step, if_pos rfl, Char.ofNat_toNat]
  rw [codePoint, List.foldlM_append, List.foldlM_append, hopen]
  simp [hdigits, hclose]

theorem read_escape (cs : List Char) (c : Char) :
    (escape c).foldlM Phase.step (.plain cs) = some (.plain (cs ++ [c])) := by
  unfold escape
  split
  case h_7 hbackslash hquote =>
    split
    · have hstep : Phase.step (.plain cs) c = some (.plain (cs ++ [c])) := by
        rw [Phase.step, if_neg hquote, if_neg hbackslash]
      simpa using hstep
    · exact read_codePoint cs c
  all_goals rfl

theorem read?_encode (s : String) : read? (encode s).toList = some s.toList := by
  have hopen : Phase.step .start '"' = some (.plain []) := rfl
  have htext := foldlM_flatMap read_escape [] s.toList
  rw [List.nil_append] at htext
  have hclose : Phase.step (.plain s.toList) '"' = some (.done s.toList) := rfl
  rw [read?, encode, String.toList_ofList, List.cons_append, List.foldlM_cons, hopen,
    Option.bind_eq_bind, Option.bind_some, List.foldlM_append, htext]
  simp [hclose]

theorem not_mem_escape {x : Char} (hx : x = '\t' ∨ x = '\n') (c : Char) : x ∉ escape c := by
  have hdigit : ∀ d < 16, Nat.digitChar d ≠ '\t' ∧ Nat.digitChar d ≠ '\n' := by decide
  have hcode : x ∉ codePoint c := by
    intro hmem
    simp only [codePoint, List.mem_append, List.mem_singleton] at hmem
    obtain (hmem | hmem) | rfl := hmem
    · obtain rfl | rfl := hx <;> exact absurd hmem (by decide)
    · obtain ⟨d, hd, rfl⟩ := exists_digit_of_mem_toDigits (by decide) hmem
      exact hx.elim (hdigit d hd).1 (hdigit d hd).2
    · exact absurd hx (by decide)
  unfold escape
  split
  case h_7 =>
    split
    · rw [List.mem_singleton]
      rintro rfl
      obtain rfl | rfl := hx <;> contradiction
    · exact hcode
  all_goals obtain rfl | rfl := hx <;> decide

theorem not_mem_encode {x : Char} (hx : x = '\t' ∨ x = '\n') (s : String) :
    x ∉ (encode s).toList := by
  have hquote : x ≠ '"' := by obtain rfl | rfl := hx <;> decide
  simp [encode, hquote, not_mem_escape hx]

end Quoted
end ModalLexer
