import ModalLexer.Proofs.Form
import ModalLexer.Proofs.Heading
import ModalLexer.Proofs.LongestMatch
import ModalLexer.Proofs.Resync

/-!
What is read behind a backslash: the longest escape that stands there, or one character as an
error; the string goes on in both cases. A caret makes an escape of every upper-case letter, and
the ASCII letters are not all of these.
-/

namespace ModalLexer

open Lexeme Rule Shape

def octalChars : List Char := "01234567".toList

def hexChars : List Char := "0123456789abcdefABCDEF".toList

/-- The texts that a backslash makes escapes of, with the pieces that they are read in. A caret may
stand before the letters `upper` and before a few signs. -/
inductive Escape (upper : Char → Bool) : List Char → List Piece → Prop
  | named {x : Char} : x ∈ escapeSigns → Escape upper [x] [(.stringEscape, 1)]
  | control {x : Char} : upper x = true ∨ x ∈ ['@', '[', ']', '^', '_'] →
      Escape upper ['^', x] [(.stringEscape, 2)]
  | octal {t : List Char} : IsRun (octalChars.contains ·) t →
      Escape upper ('o' :: t) [(.stringEscape, t.length + 1)]
  | hex {t : List Char} : IsRun (hexChars.contains ·) t →
      Escape upper ('x' :: t) [(.stringEscape, t.length + 1)]
  | decimal {t : List Char} : IsRun Char.isDigit t → Escape upper t [(.stringEscape, t.length)]
  | gap {t : List Char} : IsRun isBlank t →
      Escape upper (t ++ ['\\']) [(.whitespace, t.length), (.stringEscape, 1)]

def EscapeAt (upper : Char → Bool) (cs w : List Char) (ps : List Piece) : Prop :=
  w <+: cs ∧ Escape upper w ps

section

variable {x : Char} {base : Nat}

/-- From the first digit to the last letter. -/
def alphanumericChars : List Char := (List.range' 0x30 75).map Char.ofNat

theorem mem_alphanumericChars (h : isDigitIn base x = true) : x ∈ alphanumericChars := by
  have hrange : 0x30 ≤ x.toNat ∧ x.toNat ≤ 0x7a := by
    unfold isDigitIn digitValue? at h
    split at h
    case isTrue hdigit =>
      have hx := isDigit_iff.1 hdigit
      omega
    case isFalse =>
      split at h
      case isTrue hlower =>
        have hx := isLower_iff.1 hlower
        omega
      case isFalse =>
        split at h
        case isTrue hupper =>
          have hx := isUpper_iff.1 hupper
          omega
        case isFalse => exact absurd h (by simp)
  exact List.mem_map.2 ⟨x.toNat, List.mem_range'_1.2 (by omega), Char.ofNat_toNat x⟩

theorem isDigitIn_eq_contains {l : List Char} (hl : l.all (isDigitIn base) = true)
    (hall : alphanumericChars.all (fun x => isDigitIn base x == l.contains x) = true) :
    isDigitIn base = (l.contains ·) := by
  funext x
  cases hx : isDigitIn base x with
  | true =>
    have hsame := List.all_eq_true.1 hall x (mem_alphanumericChars hx)
    rw [hx] at hsame
    exact beq_iff_eq.1 hsame
  | false =>
    symm
    by_contra hmem
    have hdigit := List.all_eq_true.1 hl x (by simpa using hmem)
    rw [hx] at hdigit
    cases hdigit

theorem isDigitIn_eight : isDigitIn 8 = (octalChars.contains ·) :=
  isDigitIn_eq_contains (by decide) (by decide)

theorem isDigitIn_sixteen : isDigitIn 16 = (hexChars.contains ·) :=
  isDigitIn_eq_contains (by decide) (by decide)

theorem isDigitIn_decimal : isDigitIn 10 = Char.isDigit := by
  have hall : digitChars.all Char.isDigit = true := by decide
  funext x
  rw [Bool.eq_iff_iff]
  exact ⟨fun h => List.all_eq_true.1 hall x (mem_digitChars_of_isDigitIn h), isDigitIn_of_isDigit⟩

end

namespace Escape

variable {upper : Char → Bool} {w t : List Char} {ps : List Piece}

theorem total (h : Escape upper w ps) : Piece.total ps = w.length := by
  cases h <;> simp

theorem ne_error (h : Escape upper w ps) : ∀ p ∈ ps, p.1 ≠ .error := by
  cases h <;> simp

theorem ne_nil (h : Escape upper w ps) : w ≠ [] := by
  cases h with
  | decimal ht => exact ht.1
  | _ => simp

theorem exists_control (h : Escape upper ('^' :: t) ps) :
    ∃ x, (upper x = true ∨ x ∈ ['@', '[', ']', '^', '_']) ∧ t = [x] := by
  generalize hw : '^' :: t = w at h
  cases h with
  | named hx =>
    obtain ⟨rfl, -⟩ := List.cons.inj hw
    exact absurd hx (by decide)
  | control hx => exact ⟨_, hx, (List.cons.inj hw).2⟩
  | octal | hex => exact absurd (List.cons.inj hw).1 (by decide)
  | decimal ht =>
    have hdigit := ht.2 '^' (hw ▸ List.mem_cons_self)
    exact absurd hdigit (by decide)
  | gap ht =>
    obtain ⟨y, b, rfl⟩ := List.exists_cons_of_ne_nil ht.1
    obtain ⟨rfl, -⟩ := List.cons.inj hw
    exact absurd (ht.2 '^' List.mem_cons_self) (by decide)

end Escape

theorem EscapeAt.imp {upper upper' : Char → Bool} {cs w : List Char} {ps : List Piece}
    (h : EscapeAt upper cs w ps) (hupper : ∀ x, ['^', x] <+: cs → upper x = true → upper' x = true) :
    EscapeAt upper' cs w ps := by
  obtain ⟨hw, h⟩ := h
  refine ⟨hw, ?_⟩
  cases h with
  | named hx => exact .named hx
  | control hx => exact .control (hx.imp_left (hupper _ hw))
  | octal ht => exact .octal ht
  | hex ht => exact .hex ht
  | decimal ht => exact .decimal ht
  | gap ht => exact .gap ht

namespace Rule

/-- The rules for escapes; behind them comes the one for errors. -/
def escapes : List Rule := Mode.escape.rules.take 6

def invalidEscape : Rule := closes .error (one (· != '\n'))

theorem rules_escape : Mode.escape.rules = escapes ++ [invalidEscape] := rfl

variable {c : Cursor} {r : Rule} {shape : Shape} {a : Action} {w : List Char} {ps qs : List Piece}

theorem escapeAt_of_token
    (hs : ∀ t, shape.Spells t → Escape isUppercase t [(.stringEscape, t.length)])
    (hm : (token .stringEscape shape a).match? c = some ps) :
    EscapeAt isUppercase c.ahead (c.ahead.take (Piece.total ps)) ps := by
  obtain ⟨n, hn, -, rfl⟩ := exists_of_match?_token hm
  have hescape := hs _ (spells_of_reach hn)
  rw [List.length_take, Nat.min_eq_left (reach_le hn)] at hescape
  exact ⟨List.take_prefix _ _, hescape⟩

theorem escapeAt_of_gap
    (hm : (groups [(.whitespace, blanks), (.stringEscape, char '\\')] a).match? c = some ps) :
    EscapeAt isUppercase c.ahead (c.ahead.take (Piece.total ps)) ps := by
  obtain ⟨n, qs, hn, hq, rfl⟩ := exists_of_split?_cons (split?_of_match? hm)
  obtain ⟨k, hk, rfl⟩ := exists_of_split?_singleton hq
  have hgap : IsRun isBlank (c.ahead.take n) := spells_many1.1 (spells_of_reach hn)
  have hclose := spells_char_iff.1 (spells_of_reach hk)
  obtain rfl := (exists_of_reach_one hk).2
  have hescape : Escape isUppercase _ _ := .gap hgap
  rw [List.length_take, Nat.min_eq_left (reach_le hn), ← hclose, ← List.take_add] at hescape
  exact ⟨List.take_prefix _ _, hescape⟩

theorem escapeAt_of_match? :
    ∀ r ∈ escapes, ∀ ps, r.match? c = some ps →
      EscapeAt isUppercase c.ahead (c.ahead.take (Piece.total ps)) ps := by
  simp only [escapes, Mode.rules, List.take_succ_cons, List.take_zero, List.forall_mem_cons]
  refine ⟨fun _ => escapeAt_of_token ?named, fun _ => escapeAt_of_token ?control,
    fun _ => escapeAt_of_token ?octal, fun _ => escapeAt_of_token ?hex,
    fun _ => escapeAt_of_token ?decimal, fun _ => escapeAt_of_gap, by simp⟩
  case named =>
    rintro t ⟨x, hx, rfl⟩
    exact .named (by simpa [escapeSigns] using hx)
  case control =>
    rintro t ⟨u, v, hu, ⟨x, hx, rfl⟩, rfl⟩
    obtain rfl := spells_char_iff.1 hu
    exact .control (by simpa using hx)
  case octal =>
    rintro t ⟨u, v, hu, hv, rfl⟩
    obtain rfl := spells_char_iff.1 hu
    exact .octal (isDigitIn_eight ▸ spells_many1.1 hv)
  case hex =>
    rintro t ⟨u, v, hu, hv, rfl⟩
    obtain rfl := spells_char_iff.1 hu
    exact .hex (isDigitIn_sixteen ▸ spells_many1.1 hv)
  case decimal =>
    intro t ht
    exact .decimal (isDigitIn_decimal ▸ spells_many1.1 ht)

theorem many1_attains (p : Char → Bool) : (many1 p).Attains :=
  (many_attains p).append one_endsBefore rfl

theorem match?_gap {t : List Char} (ht : IsRun isBlank t) (hw : t ++ ['\\'] <+: c.ahead) :
    (groups [(.whitespace, blanks), (.stringEscape, char '\\')] a).match? c =
      some [(.whitespace, t.length), (.stringEscape, 1)] := by
  obtain ⟨rest, hrest⟩ := hw
  rw [List.append_assoc] at hrest
  have hblanks : blanks.reach c.previous? c.ahead = some t.length := by
    rw [← hrest]
    exact reach_many1 ht.1 ht.2 rfl
  refine match?_of_split? ?_ rfl
  rw [parts, split?, hblanks, ← hrest, Option.bind_eq_bind, Option.bind_some, List.drop_left]
  rfl

theorem exists_match?_of_escapeAt (h : EscapeAt isUppercase c.ahead w qs) :
    ∃ r ∈ escapes, ∃ ps, r.match? c = some ps ∧ w.length ≤ Piece.total ps := by
  have hmem (n : Nat) (r : Rule) (hr : escapes[n]? = some r) : r ∈ escapes :=
    List.mem_of_getElem? hr
  obtain ⟨hw, h⟩ := h
  cases h with
  | named hx =>
    refine ⟨_, hmem 0 _ rfl, exists_match?_of_attains (one_attains _) rfl ⟨_, ?_, rfl⟩ (by simp) hw⟩
    simpa [escapeSigns] using hx
  | @control x hx =>
    refine ⟨_, hmem 1 _ rfl, exists_match?_of_attains ((one_attains _).append one_endsBefore rfl) rfl
      ⟨['^'], [x], spells_char_iff.2 rfl, ⟨x, ?_, rfl⟩, rfl⟩ (by simp) hw⟩
    simpa using hx
  | @octal t ht =>
    exact ⟨_, hmem 2 _ rfl, exists_match?_of_attains ((many1_attains _).append one_endsBefore rfl) rfl
      ⟨['o'], t, spells_char_iff.2 rfl, spells_many1.2 (isDigitIn_eight ▸ ht), rfl⟩ (by simp) hw⟩
  | @hex t ht =>
    exact ⟨_, hmem 3 _ rfl, exists_match?_of_attains ((many1_attains _).append one_endsBefore rfl) rfl
      ⟨['x'], t, spells_char_iff.2 rfl, spells_many1.2 (isDigitIn_sixteen ▸ ht), rfl⟩ (by simp) hw⟩
  | decimal ht =>
    exact ⟨_, hmem 4 _ rfl, exists_match?_of_attains (many1_attains _) rfl
      (spells_many1.2 (isDigitIn_decimal ▸ ht)) ht.1 hw⟩
  | gap ht => exact ⟨_, hmem 5 _ rfl, _, match?_gap ht hw, by simp⟩

theorem pairwise_escapes : escapes.Pairwise Outruns :=
  pairwise_escape.sublist (List.take_sublist _ _)

/-- Where an escape stands, the rule that comes first takes the longest. -/
theorem exists_first?_of_escapeAt (h : EscapeAt isUppercase c.ahead w qs) :
    ∃ r ps, first? c Mode.escape.rules = some (r, ps) ∧ r ∈ escapes ∧
      EscapeAt isUppercase c.ahead (c.ahead.take (Piece.total ps)) ps ∧
        ∀ v vs, EscapeAt isUppercase c.ahead v vs → v.length ≤ Piece.total ps := by
  obtain ⟨q, hq, ms, hms, -⟩ := exists_match?_of_escapeAt h
  obtain ⟨r, ps, hfirst⟩ := exists_first? hq hms
  obtain ⟨hr, hmatch⟩ := mem_of_first? hfirst
  refine ⟨r, ps, ?_, hr, escapeAt_of_match? r hr ps hmatch, fun v vs hv => ?_⟩
  · rw [rules_escape]
    exact first?_append_of_some hfirst _
  · obtain ⟨q, hq, ms, hms, hle⟩ := exists_match?_of_escapeAt hv
    exact hle.trans (total_le_of_first? pairwise_escapes hfirst hq hms)

/-- Where none stands, only the rule for errors is left. -/
theorem first?_of_no_escape (h : ∀ v vs, ¬EscapeAt isUppercase c.ahead v vs) :
    first? c Mode.escape.rules = first? c [invalidEscape] := by
  rw [rules_escape]
  refine first?_append fun r hr => ?_
  by_contra hm
  obtain ⟨ps, hps⟩ := Option.ne_none_iff_exists'.1 hm
  exact h _ _ (escapeAt_of_match? r hr ps hps)

end Rule

namespace Scan

/-- What it is for a step to read what stands behind a backslash: the longest escape there is, or
else an error of one character. A newline is dealt with as one that no rule takes. -/
structure ReadsEscape (upper : Char → Bool) (resync : Bool) (s : Scan) : Prop where
  escape : (∃ v vs, EscapeAt upper s.cursor.ahead v vs) → ∃ w ps,
    EscapeAt upper s.cursor.ahead w ps ∧
      (∀ v vs, EscapeAt upper s.cursor.ahead v vs → v.length ≤ w.length) ∧
      (s.step resync).tokens = s.cursor.tokens ps ∧ (s.step resync).diagnostics = [] ∧
      (s.step resync).next = ⟨s.cursor.skip w.length, s.modes.pop⟩
  error : (∀ v vs, ¬EscapeAt upper s.cursor.ahead v vs) → s.cursor.peek? ≠ some '\n' →
    (s.step resync).tokens = [s.cursor.token .error 1] ∧
      (∃ d, (s.step resync).diagnostics = [d] ∧ d.Blames (s.cursor.token .error 1) .escape) ∧
      (s.step resync).next = ⟨s.cursor.skip 1, s.modes.pop⟩
  newline : (∀ v vs, ¬EscapeAt upper s.cursor.ahead v vs) → s.cursor.peek? = some '\n' →
    (s.step resync).tokens = [s.newlineToken (if resync then .whitespace else .error)] ∧
      (s.step resync).diagnostics =
        (if resync then [] else [(s.newlineToken .error).complaint .escape]) ∧
      (s.step resync).next = ⟨s.cursor.advance, if resync then .base else s.modes⟩

variable {resync : Bool} {s : Scan}

theorem stranded_of_no_escape (hm : s.modes.top = .escape)
    (h : ∀ v vs, ¬EscapeAt isUppercase s.cursor.ahead v vs) (hn : s.cursor.peek? = some '\n') :
    s.Stranded := by
  obtain ⟨cs, hcs⟩ := List.head?_eq_some_iff.1 hn
  refine ⟨hn, ?_⟩
  rw [← chosen?_eq_none_iff, chosen?_eq_first?, hm, first?_of_no_escape h,
    first?_cons_of_none (match?_eq_none_of_starts hcs (by decide))]
  rfl

theorem readsEscape (resync : Bool) (hm : s.modes.top = .escape) (hne : s.cursor.ahead ≠ []) :
    s.ReadsEscape isUppercase resync where
  escape := by
    rintro ⟨v, vs, hv⟩
    obtain ⟨r, ps, hfirst, hr, hescape, hlongest⟩ := exists_first?_of_escapeAt hv
    have hpops : ∀ r ∈ escapes, r.isZeroWidth = false ∧ r.action = .pop := by decide
    obtain ⟨hzero, haction⟩ := hpops r hr
    have hstep := step_of_first? resync (hm ▸ hfirst) hzero
    have hlen := hescape.2.total
    refine ⟨_, ps, hescape, fun u us hu => hlen ▸ hlongest u us hu, ?_⟩
    rw [hstep, haction, ← hlen]
    exact ⟨rfl, diagnostics_take _ hescape.2.ne_error, rfl⟩
  error := by
    intro hnone hnewline
    obtain ⟨x, cs, hc⟩ := List.exists_cons_of_ne_nil hne
    have hx : (x != '\n') = true := by simpa [Cursor.peek?, hc] using hnewline
    have hmatch : invalidEscape.match? s.cursor = some [(.error, 1)] :=
      match?_token (by simp [reach, hc, hx]) (by decide)
    have hfirst : first? s.cursor s.modes.top.rules = some (invalidEscape, [(.error, 1)]) := by
      rw [hm, first?_of_no_escape hnone, first?_cons_of_some hmatch]
    rw [step_of_first? resync hfirst rfl]
    exact ⟨rfl, ⟨_, rfl, hm ▸ Token.blames_complaint _ _⟩, rfl⟩
  newline := by
    intro hnone hnewline
    have hstranded := stranded_of_no_escape hm hnone hnewline
    exact ⟨hstranded.tokens_step, hstranded.diagnostics_step, hstranded.next_step⟩

theorem ReadsEscape.congr {upper upper' : Char → Bool} (hs : s.ReadsEscape upper resync)
    (h : ∀ v vs, EscapeAt upper s.cursor.ahead v vs ↔ EscapeAt upper' s.cursor.ahead v vs) :
    s.ReadsEscape upper' resync where
  escape := by simpa only [h] using hs.escape
  error := by simpa only [h] using hs.error
  newline := by simpa only [h] using hs.newline

theorem not_escapeAt_isUpper {x : Char} (hc : ['^', x] <+: s.cursor.ahead)
    (hx : isUppercase x = true) (hascii : x.isUpper = false) :
    ∀ v vs, ¬EscapeAt Char.isUpper s.cursor.ahead v vs := by
  rintro v vs ⟨hv, h⟩
  have hsign : ['@', '[', ']', '^', '_'].all (!isUppercase ·) = true := by decide
  obtain ⟨y, t, rfl⟩ := List.exists_cons_of_ne_nil h.ne_nil
  obtain ⟨rest, hrest⟩ := hc
  rw [← hrest] at hv
  obtain ⟨rfl, ht⟩ := List.cons_prefix_cons.1 hv
  obtain ⟨z, hz, rfl⟩ := h.exists_control
  obtain ⟨rfl, -⟩ := List.cons_prefix_cons.1 ht
  obtain hz | hz := hz
  · rw [hascii] at hz
    cases hz
  · have hlower := List.all_eq_true.1 hsign z hz
    rw [hx] at hlower
    cases hlower

/-- Escapes are those of ASCII letters but behind a caret with another upper-case letter. -/
theorem readsEscape_ascii_iff (resync : Bool) {s : Scan} (hm : s.modes.top = .escape)
    (hne : s.cursor.ahead ≠ []) : s.ReadsEscape Char.isUpper resync ↔
      ∀ x, ['^', x] <+: s.cursor.ahead → isUppercase x = true → x.isUpper = true := by
  have htrue := readsEscape resync hm hne
  constructor
  · intro hs x hc hx
    by_contra hascii
    have hnone := not_escapeAt_isUpper hc hx (by simpa using hascii)
    have hcaret : s.cursor.peek? ≠ some '\n' := by
      obtain ⟨rest, hrest⟩ := hc
      simp [Cursor.peek?, ← hrest]
    obtain ⟨-, ⟨d, hd, -⟩, -⟩ := hs.error hnone hcaret
    obtain ⟨w, ps, -, -, -, hsilent, -⟩ := htrue.escape ⟨_, _, hc, .control (.inl hx)⟩
    rw [hd] at hsilent
    cases hsilent
  · intro h
    exact htrue.congr fun v vs => ⟨fun hv => hv.imp h,
      fun hv => hv.imp fun _ _ => isUppercase_of_isUpper⟩

/-- A caret and an ASCII letter. -/
theorem readsEscape_ascii_iff_control :
    let s : Scan := ⟨.ofString "^A\"", (ModeStack.base.push .string).push .escape⟩
    s.modes.top = .escape ∧ s.cursor.ahead ≠ [] ∧
      ∀ resync, s.ReadsEscape Char.isUpper resync := by
  intro s
  have hm : s.modes.top = .escape := rfl
  have hne : s.cursor.ahead ≠ [] := by decide
  refine ⟨hm, hne, fun resync => (readsEscape_ascii_iff resync hm hne).2 fun x hx _ => ?_⟩
  obtain ⟨rfl, -⟩ := List.cons_prefix_cons.1 (List.cons_prefix_cons.1 hx).2
  decide

/-- A caret and a letter that is not an ASCII one, in a string of a source. -/
theorem not_readsEscape_ascii : ∃ s, Reachable true "\"\\^É\"" s ∧ s.modes.top = .escape ∧
    s.cursor.ahead ≠ [] ∧ ¬s.ReadsEscape Char.isUpper true := by
  have hsteps : ((start "\"\\^É\"".toList).step true).next.cursor.ahead ≠ [] ∧
      (((start "\"\\^É\"".toList).step true).next.step true).next =
        ⟨⟨['\\', '"'], ['^', 'É', '"'], 2, 1, 3⟩, (ModeStack.base.push .string).push .escape⟩ := by
    decide +kernel
  obtain ⟨hopen, hs⟩ := hsteps
  have hreach : Reachable true "\"\\^É\"" _ := (Reaches.refl.tail (by decide)).tail hopen
  rw [hs] at hreach
  refine ⟨_, hreach, rfl, List.cons_ne_nil _ _, fun h => ?_⟩
  have hnone := not_escapeAt_isUpper (s := ⟨⟨['\\', '"'], ['^', 'É', '"'], 2, 1, 3⟩,
    (ModeStack.base.push .string).push .escape⟩) ⟨['"'], rfl⟩ (by decide +kernel) (by decide)
  have htokens := (h.error hnone (by decide)).1
  exact absurd htokens (by decide +kernel)

end Scan
end ModalLexer
