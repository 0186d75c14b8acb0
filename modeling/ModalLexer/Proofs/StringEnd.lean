import ModalLexer.Proofs.LongestMatch
import ModalLexer.Proofs.Passage
import ModalLexer.Proofs.Walk

/-!
Where strings end. A string is as long as a search for its delimiter tells that leaves out escapes;
where there is no delimiter, it goes on to the end of the source. Only another backslash and what
opens an interpolation make it more than a text.
-/

namespace ModalLexer

open Lexeme Rule Shape

/-- How far it is to the first delimiter `d` that is not part of an escape. -/
def closing? (d : List Char) : List Char → Option Nat
  | [] => none
  | '\\' :: x :: cs =>
    if escapeSigns.contains x then (closing? d cs).map (· + 2)
    else (closing? d (x :: cs)).map (· + 1)
  | x :: cs => if d.isPrefixOf (x :: cs) then some 0 else (closing? d cs).map (· + 1)

/-- Whether there are no backslashes in a text but those of escapes, and nothing outside of escapes
that opens an interpolation. -/
def isPlain : List Char → Bool
  | [] => true
  | ['\\'] => false
  | '\\' :: x :: cs => escapeSigns.contains x && isPlain cs
  | '#' :: '\x7b' :: _ => false
  | _ :: cs => isPlain cs

def Mode.delimiter : Mode → List Char
  | multilineString => ['"', '"', '"']
  | _ => ['"']

def stringMode (cs : List Char) : Mode :=
  if ['"', '"', '"'].isPrefixOf cs then .multilineString else .string

section

variable {d t rest cs : List Char} {x : Char}

def bodyLength (d cs : List Char) : Nat := (closing? d cs).getD cs.length

theorem getD_map_add (o : Option Nat) (n k : Nat) :
    (o.map (· + k)).getD (n + k) = o.getD n + k := by
  cases o <;> rfl

theorem closing?_cons (hx : x ≠ '\\') : closing? d (x :: cs) =
    if d.isPrefixOf (x :: cs) then some 0 else (closing? d cs).map (· + 1) := by
  rw [closing?]
  rintro y rest rfl
  exact absurd rfl hx

theorem bodyLength_cons (hx : x ≠ '\\') (h : ¬d <+: x :: cs) :
    bodyLength d (x :: cs) = bodyLength d cs + 1 := by
  rw [bodyLength, closing?_cons hx, if_neg (mt List.isPrefixOf_iff_prefix.1 h), List.length_cons,
    getD_map_add, bodyLength]

theorem bodyLength_escape (hx : x ∈ escapeSigns) :
    bodyLength d ('\\' :: x :: cs) = bodyLength d cs + 2 := by
  rw [bodyLength, closing?, if_pos (List.contains_iff_mem.2 hx), List.length_cons, List.length_cons,
    getD_map_add, bodyLength]

theorem bodyLength_other (hx : x ∉ escapeSigns) :
    bodyLength d ('\\' :: x :: cs) = bodyLength d (x :: cs) + 1 := by
  rw [bodyLength, closing?, if_neg (by simpa using hx), List.length_cons, getD_map_add, bodyLength]

theorem exists_of_isPlain_backslash (h : isPlain ('\\' :: t) = true) :
    ∃ x u, t = x :: u ∧ x ∈ escapeSigns ∧ isPlain u = true := by
  cases t with
  | nil => exact absurd h (by decide)
  | cons x u => exact ⟨x, u, rfl, by simpa [isPlain] using h⟩

theorem isPlain_cons (hx : x ≠ '\\') (h : x = '#' → cs.head? ≠ some '\x7b') :
    isPlain (x :: cs) = isPlain cs := by
  rw [isPlain]
  · rintro rfl
    exact absurd rfl hx
  · rintro y rest rfl
    exact absurd rfl hx
  · rintro rest rfl rfl
    exact absurd rfl (h rfl)

theorem head?_of_isPlain_sharp (h : isPlain ('#' :: t) = true) : t.head? ≠ some '\x7b' := by
  intro ht
  obtain ⟨u, rfl⟩ := List.head?_eq_some_iff.1 ht
  exact absurd h (by simp [isPlain])

def HasPlainBody (d cs : List Char) : Prop := isPlain (cs.take (bodyLength d cs)) = true

variable {m : Mode}

theorem delimiter_eq (m : Mode) : ∃ more, m.delimiter = '"' :: more := by
  cases m <;> exact ⟨_, rfl⟩

theorem delimiter_not_here (hx : x ≠ '"') : ¬m.delimiter <+: x :: cs := by
  obtain ⟨more, hmore⟩ := delimiter_eq m
  rw [hmore]
  exact fun h => hx (List.cons_prefix_cons.1 h).1.symm

theorem bodyLength_of_delimiter (h : m.delimiter <+: cs) : bodyLength m.delimiter cs = 0 := by
  obtain ⟨more, hmore⟩ := delimiter_eq m
  obtain ⟨rest, rfl⟩ := h
  have hprefix : ('"' :: more).isPrefixOf ('"' :: (more ++ rest)) = true :=
    List.isPrefixOf_iff_prefix.2 (List.prefix_append ('"' :: more) rest)
  rw [hmore, List.cons_append, bodyLength, closing?_cons (by decide), if_pos hprefix,
    Option.getD_some]

theorem prefix_of_closing? {q : Nat} (h : closing? d cs = some q) : d <+: cs.drop q := by
  fun_induction closing? d cs generalizing q with
  | case1 => cases h
  | case2 x cs hx ih =>
    obtain ⟨n, hn, rfl⟩ := Option.map_eq_some_iff.1 h
    exact ih hn
  | case3 x cs hx ih =>
    obtain ⟨n, hn, rfl⟩ := Option.map_eq_some_iff.1 h
    exact ih hn
  | case4 x cs _ hd =>
    obtain rfl := Option.some.inj h
    exact List.isPrefixOf_iff_prefix.1 hd
  | case5 x cs _ hd ih =>
    obtain ⟨n, hn, rfl⟩ := Option.map_eq_some_iff.1 h
    exact ih hn

theorem bodyLength_append (ht : ∀ y ∈ t, isStringMark y = false) (rest : List Char) :
    bodyLength m.delimiter (t ++ rest) = t.length + bodyLength m.delimiter rest := by
  induction t with
  | nil => simp
  | cons y t ih =>
    obtain ⟨hy, ht⟩ := List.forall_mem_cons.1 ht
    obtain ⟨⟨hbackslash, hquote⟩, -⟩ : (y ≠ '\\' ∧ y ≠ '"') ∧ y ≠ '#' := by
      simpa [isStringMark] using hy
    rw [List.cons_append, bodyLength_cons hbackslash (delimiter_not_here hquote), ih ht,
      List.length_cons]
    omega

theorem isPlain_append (ht : ∀ y ∈ t, isStringMark y = false) (rest : List Char) :
    isPlain (t ++ rest) = isPlain rest := by
  induction t with
  | nil => rfl
  | cons y t ih =>
    obtain ⟨hy, ht⟩ := List.forall_mem_cons.1 ht
    obtain ⟨⟨hbackslash, -⟩, hsharp⟩ : (y ≠ '\\' ∧ y ≠ '"') ∧ y ≠ '#' := by
      simpa [isStringMark] using hy
    rw [List.cons_append, isPlain_cons hbackslash fun h => absurd h hsharp, ih ht]

namespace HasPlainBody

theorem of_append (ht : ∀ y ∈ t, isStringMark y = false)
    (h : HasPlainBody m.delimiter (t ++ rest)) : HasPlainBody m.delimiter rest := by
  rwa [HasPlainBody, bodyLength_append ht, List.take_length_add_append, isPlain_append ht] at h

theorem of_escape (h : HasPlainBody m.delimiter ('\\' :: cs)) :
    ∃ x rest, cs = x :: rest ∧ x ∈ escapeSigns ∧ HasPlainBody m.delimiter rest := by
  cases cs with
  | nil =>
    have hlen : bodyLength m.delimiter ['\\'] = 1 := by cases m <;> rfl
    rw [HasPlainBody, hlen] at h
    exact absurd h (by decide)
  | cons x rest =>
    by_cases hx : x ∈ escapeSigns
    · refine ⟨x, rest, rfl, hx, ?_⟩
      simpa [HasPlainBody, bodyLength_escape hx, isPlain, hx] using h
    · rw [HasPlainBody, bodyLength_other hx, List.take_succ_cons] at h
      obtain ⟨y, u, hu, hy, -⟩ := exists_of_isPlain_backslash h
      obtain ⟨n, hn⟩ : ∃ n, bodyLength m.delimiter (x :: rest) = n + 1 :=
        Nat.exists_eq_succ_of_ne_zero fun hz => by simp [hz] at hu
      rw [hn, List.take_succ_cons] at hu
      exact absurd ((List.cons.inj hu).1 ▸ hy) hx

theorem of_sharp (h : HasPlainBody m.delimiter ('#' :: cs)) :
    cs.head? ≠ some '\x7b' ∧ HasPlainBody m.delimiter cs := by
  rw [HasPlainBody, bodyLength_cons (by decide) (delimiter_not_here (by decide)),
    List.take_succ_cons] at h
  have hhead : cs.head? ≠ some '\x7b' := by
    intro hcs
    obtain ⟨rest, rfl⟩ := List.head?_eq_some_iff.1 hcs
    rw [bodyLength_cons (by decide) (delimiter_not_here (by decide)), List.take_succ_cons] at h
    exact head?_of_isPlain_sharp h rfl
  have htake : (cs.take (bodyLength m.delimiter cs)).head? ≠ some '\x7b' := by
    rw [List.head?_take]
    split
    · simp
    · exact hhead
  rw [isPlain_cons (by decide) fun _ => htake] at h
  exact ⟨hhead, h⟩

theorem of_quote (hd : ¬d <+: '"' :: cs) (h : HasPlainBody d ('"' :: cs)) : HasPlainBody d cs := by
  rwa [HasPlainBody, bodyLength_cons (by decide) hd, List.take_succ_cons,
    isPlain_cons (by decide) fun h => absurd h (by decide)] at h

end HasPlainBody

end

namespace Scan

def stringKinds : List TokenKind := [.string, .stringEscape]

variable {resync : Bool} {s : Scan} {k : Nat} {x : Char} {cs : List Char}

/-- Steps that come on by `k` characters of a string and are still in it. -/
def Stays (resync : Bool) (s : Scan) (k : Nat) : Prop :=
  ∃ sts, s.Makes stringKinds resync sts ⟨s.cursor.skip k, s.modes⟩ k

theorem stays_of_first? (shape : Shape)
    (h : first? s.cursor s.modes.top.rules = some (emits .string shape, [(.string, k)])) :
    s.Stays resync k :=
  ⟨_, .of_first? h (by decide) (by decide)⟩

theorem stays_text (hm : s.modes.top.ReadsStrings) (hc : s.cursor.ahead = x :: cs)
    (hx : isStringMark x = false) :
    ∃ t rest, s.cursor.ahead = t ++ rest ∧ t ≠ [] ∧ (∀ y ∈ t, isStringMark y = false) ∧
      s.Stays resync t.length := by
  have hbegin : (!isStringMark x) = true := by simpa using hx
  obtain ⟨t, rest, hsplit, hne, hrun, hreach⟩ := exists_reach_many1 (p := (!isStringMark ·)) hbegin
  rw [← hc] at hsplit hreach
  have hmatch : (emits .string stringText).match? s.cursor = some [(.string, t.length)] :=
    match?_token (hreach _) (List.length_pos_iff.2 hne).ne'
  have hfirst : first? s.cursor s.modes.top.rules =
      some (emits .string stringText, [(.string, t.length)]) := by
    obtain hm | hm := hm
    · rw [hm]
      exact first?_cons_of_some hmatch
    · have hquote : x ≠ '"' := by
        rintro rfl
        exact absurd hx (by decide)
      have hclose : (closes .string (text "\"\"\"")).starts x = false :=
        beq_false_of_ne fun e => hquote (Option.some.inj e).symm
      rw [hm]
      exact (first?_cons_of_none (match?_eq_none_of_starts hc hclose)).trans
        (first?_cons_of_some hmatch)
  exact ⟨t, rest, hsplit, hne, fun y hy => by simpa using hrun y hy, stays_of_first? _ hfirst⟩

theorem stays_sharp (hm : s.modes.top.ReadsStrings) (hc : s.cursor.ahead = '#' :: cs)
    (hcs : cs.head? ≠ some '\x7b') : s.Stays resync 1 := by
  have hopen : interpolation.match? s.cursor = none := by
    refine match?_token_eq_none (hc ▸ reach_pair_eq_none ?_)
    cases cs with
    | nil => rfl
    | cons y cs => simpa using hcs
  have hmatch : (emits .string (char '#')).match? s.cursor = some [(.string, 1)] :=
    match?_char hc
  refine stays_of_first? (char '#') ?_
  rw [← first?_filter hc]
  obtain hm | hm := hm
  · rw [hm]
    exact (first?_cons_of_none hopen).trans (first?_cons_of_some hmatch)
  · rw [hm]
    exact (first?_cons_of_none hopen).trans (first?_cons_of_some hmatch)

theorem stays_quote (hm : s.modes.top.ReadsStrings) (hc : s.cursor.ahead = '"' :: cs)
    (hd : ¬s.modes.top.delimiter <+: s.cursor.ahead) : s.Stays resync 1 := by
  obtain hm | hm := hm
  · rw [hm, hc] at hd
    exact absurd ⟨cs, rfl⟩ hd
  · have hclose : (closes .string (text "\"\"\"")).match? s.cursor = none := by
      rw [hm] at hd
      exact match?_literal_eq_none hd
    have hmatch : (emits .string (char '"')).match? s.cursor = some [(.string, 1)] :=
      match?_char hc
    refine stays_of_first? (char '"') ?_
    rw [← first?_filter hc, hm]
    exact (first?_cons_of_none hclose).trans (first?_cons_of_some hmatch)

theorem stays_escape (hm : s.modes.top.ReadsStrings) (hc : s.cursor.ahead = '\\' :: x :: cs)
    (hx : x ∈ escapeSigns) : s.Stays resync 2 := by
  have hbackslash : first? s.cursor s.modes.top.rules =
      some (opens .stringEscape (char '\\') .escape, [(.stringEscape, 1)]) := by
    rw [← first?_filter hc]
    obtain hm | hm := hm
    · rw [hm]
      exact first?_cons_of_some (match?_char hc)
    · rw [hm]
      exact first?_cons_of_some (match?_char hc)
  have hsign : escapeSigns.all ("abfnrtv\"'&\\#".toList.contains ·) = true := by decide
  have hnamed : first? (s.cursor.skip 1) (s.modes.push .escape).top.rules =
      some (closes .stringEscape namedEscape, [(.stringEscape, 1)]) := by
    refine first?_cons_of_some (match?_token ?_ (by decide))
    rw [Cursor.ahead_skip, hc]
    exact if_pos (List.all_eq_true.1 hsign x hx)
  have hopen : s.Makes stringKinds resync [s.step resync]
      ⟨s.cursor.skip 1, s.modes.push .escape⟩ 1 := .of_first? hbackslash (by decide) (by decide)
  exact ⟨_, hopen.trans (.of_first? (s := ⟨s.cursor.skip 1, s.modes.push .escape⟩) hnamed
    (by decide) (by decide))⟩

theorem Stays.trans {n : Nat} (h : s.Stays resync k)
    (hn : (⟨s.cursor.skip k, s.modes⟩ : Scan).Stays resync n) : s.Stays resync (k + n) := by
  obtain ⟨sts, hsts⟩ := h
  obtain ⟨sts', hsts'⟩ := hn
  refine ⟨sts ++ sts', ?_⟩
  rw [Cursor.skip_add]
  exact hsts.trans hsts'

variable (resync) in
/-- What stands in a string, neither at its end nor at that of the source, is read as such. -/
theorem exists_stays (hm : s.modes.top.ReadsStrings) (hne : s.cursor.ahead ≠ [])
    (hd : ¬s.modes.top.delimiter <+: s.cursor.ahead)
    (h : HasPlainBody s.modes.top.delimiter s.cursor.ahead) :
    ∃ k, 0 < k ∧ s.Stays resync k ∧
      HasPlainBody s.modes.top.delimiter (s.cursor.ahead.drop k) ∧
        bodyLength s.modes.top.delimiter s.cursor.ahead =
          k + bodyLength s.modes.top.delimiter (s.cursor.ahead.drop k) := by
  obtain ⟨x, cs, hc⟩ := List.exists_cons_of_ne_nil hne
  cases hx : isStringMark x with
  | false =>
    obtain ⟨t, rest, hsplit, ht, hrun, hstays⟩ := stays_text hm hc hx
    refine ⟨t.length, List.length_pos_iff.2 ht, hstays, ?_⟩
    rw [hsplit] at h ⊢
    rw [List.drop_left]
    exact ⟨h.of_append hrun, bodyLength_append hrun rest⟩
  | true =>
    obtain (rfl | rfl) | rfl : (x = '\\' ∨ x = '"') ∨ x = '#' := by
      simpa [isStringMark] using hx
    · rw [hc] at h
      obtain ⟨y, rest, rfl, hy, hrest⟩ := h.of_escape
      refine ⟨2, by decide, stays_escape hm hc hy, ?_⟩
      rw [hc, bodyLength_escape hy, Nat.add_comm]
      exact ⟨hrest, rfl⟩
    · have hstays : s.Stays resync 1 := stays_quote hm hc hd
      rw [hc] at h hd ⊢
      refine ⟨1, by decide, hstays, h.of_quote hd, ?_⟩
      rw [bodyLength_cons (by decide) hd, Nat.add_comm]
      rfl
    · rw [hc] at h
      obtain ⟨hhead, hrest⟩ := h.of_sharp
      refine ⟨1, by decide, stays_sharp hm hc hhead, ?_⟩
      rw [hc, bodyLength_cons (by decide) (delimiter_not_here (by decide)), Nat.add_comm]
      exact ⟨hrest, rfl⟩

/-- A string is read as far as the search for its end goes. -/
theorem stays_body (resync : Bool) (hm : s.modes.top.ReadsStrings)
    (h : HasPlainBody s.modes.top.delimiter s.cursor.ahead) :
    s.Stays resync (bodyLength s.modes.top.delimiter s.cursor.ahead) := by
  induction hl : s.cursor.ahead.length using Nat.strong_induction_on generalizing s with
  | _ l ih =>
    by_cases hne : s.cursor.ahead = []
    · rw [hne]
      exact ⟨[], .refl s⟩
    by_cases hd : s.modes.top.delimiter <+: s.cursor.ahead
    · rw [bodyLength_of_delimiter hd]
      exact ⟨[], .refl s⟩
    obtain ⟨k, hk, hstays, hrest, hlen⟩ := exists_stays resync hm hne hd h
    have hless : (s.cursor.skip k).ahead.length < l := by
      have hpos := List.length_pos_iff.2 hne
      rw [Cursor.ahead_skip, List.length_drop]
      omega
    rw [← Cursor.ahead_skip] at hrest hlen
    rw [hlen]
    exact hstays.trans (ih _ hless (s := ⟨s.cursor.skip k, s.modes⟩) hm hrest rfl)

/-- What it is for a string that is read in mode `m` to be read from its opener. -/
structure ReadsString (resync : Bool) (s : Scan) (m : Mode) : Prop where
  closed : ∀ q, closing? m.delimiter (s.cursor.ahead.drop m.delimiter.length) = some q →
    isPlain ((s.cursor.ahead.drop m.delimiter.length).take q) = true →
      ∃ sts u, s.Makes stringKinds resync sts u (m.delimiter.length + q + m.delimiter.length) ∧
        u.modes = s.modes
  unclosed : closing? m.delimiter (s.cursor.ahead.drop m.delimiter.length) = none →
    isPlain (s.cursor.ahead.drop m.delimiter.length) = true →
      ∃ sts u, s.Makes stringKinds resync sts u s.cursor.ahead.length ∧
        u.modes = s.modes.push m ∧ (s.run resync).tokens = sts.flatMap (·.tokens) ∧
          (s.run resync).diagnostics = [] ∧ (s.run resync).final = u

theorem delimiter_stringMode (h : ['"'] <+: cs) :
    (stringMode cs).ReadsStrings ∧ (stringMode cs).delimiter <+: cs := by
  unfold stringMode
  split
  · rename_i htriple
    exact ⟨.inr rfl, List.isPrefixOf_iff_prefix.1 htriple⟩
  · exact ⟨.inl rfl, h⟩

theorem exists_first?_openers {c : Cursor} {m : Mode} (hm : m = .root ∨ m.ReadsExpressions)
    (hc : c.ahead = '"' :: cs) : ∃ rest, first? c m.rules =
      first? c (opens .string (text "\"\"\"") .multilineString ::
        opens .string (text "\"") .string :: rest) := by
  obtain rfl | hm := hm
  · have hclears : ∀ r ∈ [whitespace, Rule.lineComment, blockComment] ++
        (words ++ [promoted] ++ (names ++ numbers ++ [opens .operator selectorDot .pattern])),
        r.clears ['"'] = true := by decide
    exact ⟨_, first?_append fun r hr => match?_eq_none_of_clears hc (by decide) (hclears r hr)⟩
  · have hclears : ∀ r ∈ [whitespace, blockComment, interpolation] ++
        (names ++ numbers ++ [opens .operator selectorDot .pattern]),
        r.clears ['"'] = true := by decide
    exact ⟨_, (hm.first?_rules hc (by decide)).trans
      (first?_append fun r hr => match?_eq_none_of_clears hc (by decide) (hclears r hr))⟩

/-- Where it stands, the opener of a string is the first of all that matches. -/
theorem makes_opener (resync : Bool)
    (hm : s.modes.top = .root ∨ s.modes.top.ReadsExpressions) (hc : ['"'] <+: s.cursor.ahead) :
    ∃ sts, s.Makes stringKinds resync sts
      ⟨s.cursor.skip (stringMode s.cursor.ahead).delimiter.length,
        s.modes.push (stringMode s.cursor.ahead)⟩
      (stringMode s.cursor.ahead).delimiter.length := by
  obtain ⟨cs, hcs⟩ := id hc
  obtain ⟨rest, hfirst⟩ := exists_first?_openers hm hcs.symm
  by_cases htriple : ['"', '"', '"'] <+: s.cursor.ahead
  · have hmode : stringMode s.cursor.ahead = .multilineString :=
      if_pos (List.isPrefixOf_iff_prefix.2 htriple)
    have hmatch : (opens .string (text "\"\"\"") .multilineString).match? s.cursor =
        some [(.string, 3)] :=
      match?_literal htriple (by decide)
    rw [hmode]
    exact ⟨_, .of_first? (hfirst.trans (first?_cons_of_some hmatch)) (by decide) (by decide)⟩
  · have hmode : stringMode s.cursor.ahead = .string :=
      if_neg (mt List.isPrefixOf_iff_prefix.1 htriple)
    have hnone : (opens .string (text "\"\"\"") .multilineString).match? s.cursor = none :=
      match?_literal_eq_none htriple
    have hmatch : (opens .string (text "\"") .string).match? s.cursor = some [(.string, 1)] :=
      match?_literal hc (by decide)
    rw [hmode]
    exact ⟨_, .of_first? (hfirst.trans
      ((first?_cons_of_none hnone).trans (first?_cons_of_some hmatch))) (by decide) (by decide)⟩

/-- Where it stands in a string, the delimiter closes it. -/
theorem makes_closer (resync : Bool) {c : Cursor} {m : Mode} {S : ModeStack} (hm : m.ReadsStrings)
    (hd : m.delimiter <+: c.ahead) :
    ∃ sts, Makes stringKinds resync ⟨c, S.push m⟩ sts ⟨c.skip m.delimiter.length, S⟩
      m.delimiter.length := by
  obtain rfl | rfl := hm
  · obtain ⟨rest, hrest⟩ := hd
    have hmatch : (closes .string (char '"')).match? c = some [(.string, 1)] :=
      match?_char hrest.symm
    have hfirst : first? c Mode.string.rules = some (closes .string (char '"'), [(.string, 1)]) :=
      (first?_filter hrest.symm).symm.trans (first?_cons_of_some hmatch)
    exact ⟨_, .of_first? (s := ⟨c, S.push .string⟩) hfirst (by decide) (by decide)⟩
  · have hmatch : (closes .string (text "\"\"\"")).match? c = some [(.string, 3)] :=
      match?_literal hd (by decide)
    exact ⟨_, .of_first? (s := ⟨c, S.push .multilineString⟩) (first?_cons_of_some hmatch)
      (by decide) (by decide)⟩

/-- A string is read as far as the search for its delimiter goes. -/
theorem readsString (resync : Bool) {s : Scan}
    (hm : s.modes.top = .root ∨ s.modes.top.ReadsExpressions) (hc : ['"'] <+: s.cursor.ahead) :
    s.ReadsString resync (stringMode s.cursor.ahead) := by
  obtain ⟨hread, hd⟩ := delimiter_stringMode hc
  obtain ⟨opened, hopened⟩ := makes_opener resync hm hc
  generalize stringMode s.cursor.ahead = m at hread hd hopened
  have hbody := stays_body resync (s := ⟨s.cursor.skip m.delimiter.length, s.modes.push m⟩) hread
  rw [ModeStack.top_push, Cursor.ahead_skip] at hbody
  constructor
  · intro q hq hplain
    have hlen : bodyLength m.delimiter (s.cursor.ahead.drop m.delimiter.length) = q := by
      rw [bodyLength, hq, Option.getD_some]
    rw [HasPlainBody, hlen] at hbody
    obtain ⟨inside, hinside⟩ := hbody hplain
    have hend : m.delimiter <+: ((s.cursor.skip m.delimiter.length).skip q).ahead := by
      rw [Cursor.ahead_skip, Cursor.ahead_skip]
      exact prefix_of_closing? hq
    obtain ⟨closed, hclosed⟩ := makes_closer resync (S := s.modes) hread hend
    exact ⟨_, _, (hopened.trans hinside).trans hclosed, rfl⟩
  · intro hq hplain
    have hlen : bodyLength m.delimiter (s.cursor.ahead.drop m.delimiter.length) =
        s.cursor.ahead.length - m.delimiter.length := by
      rw [bodyLength, hq, Option.getD_none, List.length_drop]
    rw [HasPlainBody, hlen, List.take_of_length_le (List.length_drop.le)] at hbody
    obtain ⟨inside, hinside⟩ := hbody hplain
    have hmakes := hopened.trans hinside
    rw [Nat.add_sub_of_le hd.length_le] at hmakes
    have hend : ((s.cursor.skip m.delimiter.length).skip
        (s.cursor.ahead.length - m.delimiter.length)).ahead = [] := by
      rw [Cursor.ahead_skip, Cursor.ahead_skip, List.drop_drop, Nat.add_sub_of_le hd.length_le,
        List.drop_length]
    exact ⟨_, _, hmakes, rfl, hmakes.run_eq hend⟩

/-- Behind three quotes, one that is escaped, one that is not, and a number sign are text. -/
theorem readsString_multiline :
    let s : Scan := ⟨.ofString "\"\"\"\\\"\"#\"\"\"\")", ModeStack.base.push .parens⟩
    s.modes.top.ReadsExpressions ∧ ['"'] <+: s.cursor.ahead ∧
      closing? ['"', '"', '"'] (s.cursor.ahead.drop 3) = some 4 ∧
        s.ReadsString true .multilineString := by
  intro s
  have hm : s.modes.top.ReadsExpressions := by simp [s, Mode.ReadsExpressions]
  have hc : ['"'] <+: s.cursor.ahead := by decide
  exact ⟨hm, hc, by decide, readsString true (.inr hm) hc⟩

end Scan
end ModalLexer
