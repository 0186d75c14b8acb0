import ModalLexer.Proofs.Classification
import ModalLexer.Proofs.Keyword
import ModalLexer.Proofs.Row

/-!
How declarations begin. At the root, where the word of a declaration stands by itself, the first
heading that fits is read as far as it goes, group by group; where none fits, only the word is read.
-/

namespace ModalLexer

open Shape Lexeme

/-- What declarations begin with: a class of texts for each group, with the kind of its token, and
the list that is opened behind them, if any. -/
structure Heading where
  groups : List (TokenKind × (List Char → Prop))
  opens : Option Mode

namespace Heading

abbrev Group := TokenKind × (List Char → Prop)

def Led (p q : Char → Bool) (t : List Char) : Prop :=
  ∃ x rest, p x = true ∧ (∀ y ∈ rest, q y = true) ∧ t = x :: rest

def word (w : String) : Group := (.keyword, (· = w.toList))

def blanks : Group := (.whitespace, IsRun isBlank)

def gap : Group := (.whitespace, fun t => ∀ x ∈ t, isBlank x = true)

def language : Group := (.nameType, IsRun isAsciiLetter)

def quoted : Group := (.string, IsQuoted)

def typeName : Group := (.nameType, Led isUppercase isIdent)

def path : Group :=
  (.name, Led (fun x => isAsciiLetter x || x == '.') fun x => isWord x || x == '.' || x == '-')

def paren (kind : TokenKind) : Group := (kind, (· = ['(']))

/-- All headings, in the order of precedence. -/
def all : List Heading :=
  [⟨[word "source", blanks, language, blanks, word "from", blanks, quoted, gap, paren .text],
      some .sourceList⟩,
    ⟨[word "source", blanks, language, gap, paren .text], some .sourceList⟩,
    ⟨[word "type", blanks, typeName], none⟩,
    ⟨[word "import", blanks, path, gap, paren .punctuation], some .importList⟩,
    ⟨[word "import", blanks, path], none⟩,
    ⟨[word "import", gap, paren .punctuation], some .importList⟩]

/-- Texts that are next, one for each group. -/
structure Fits (h : Heading) (cs : List Char) (ts : List (List Char)) : Prop where
  each : List.Forall₂ (fun g t => g.2 t) h.groups ts
  stands : ts.flatten <+: cs

/-- No group takes more in another way to fit. -/
def Greedy (h : Heading) (cs : List Char) (ts : List (List Char)) : Prop :=
  h.Fits cs ts ∧ ∀ us, h.Fits cs us → List.Forall₂ (fun u t => u.length ≤ t.length) us ts

end Heading

namespace Lexeme

variable {p q : Char → Bool} {t : List Char}

theorem spells_one_many : (one p ++ many q).Spells t ↔ Heading.Led p q t :=
  ⟨cons_of_spells, fun ⟨x, rest, hx, hr, he⟩ => ⟨[x], rest, ⟨x, hx, rfl⟩, hr, he⟩⟩

theorem spells_many1 : (many1 p).Spells t ↔ IsRun p t := by
  refine ⟨isRun_of_many1, fun h => ?_⟩
  obtain ⟨x, rest, rfl⟩ := List.exists_cons_of_ne_nil h.1
  obtain ⟨hx, hr⟩ := List.forall_mem_cons.1 h.2
  exact ⟨[x], rest, ⟨x, hx, rfl⟩, hr, rfl⟩

theorem spells_word {w : String} : (Lexeme.word w).Spells t ↔ t = w.toList :=
  ⟨toList_of_word, fun h => ⟨t, [], ⟨[], t, rfl, h, rfl⟩, rfl, by simp⟩⟩

theorem spells_char_iff {x : Char} : (char x).Spells t ↔ t = [x] :=
  ⟨Numeral.spells_char, fun h => ⟨x, beq_self_eq_true x, h⟩⟩

theorem spells_plainString : plainString.Spells t ↔ IsQuoted t := by
  constructor
  · rintro ⟨_, _, ⟨_, inner, hl, hi, rfl⟩, hr, rfl⟩
    rw [spells_char_iff.1 hl, spells_char_iff.1 hr]
    exact ⟨inner, spells_many1.1 hi, rfl⟩
  · rintro ⟨inner, hi, rfl⟩
    exact ⟨'"' :: inner, ['"'], ⟨['"'], inner, spells_char_iff.2 rfl, spells_many1.2 hi, rfl⟩,
      spells_char_iff.2 rfl, rfl⟩

end Lexeme

namespace Rule

def Renders (part : TokenKind × Shape) (g : Heading.Group) : Prop :=
  part.1 = g.1 ∧ ∀ t, part.2.Spells t ↔ g.2 t

structure Describes (r : Rule) (h : Heading) : Prop where
  groups : List.Forall₂ Renders r.parts h.groups
  action : r.action = h.opens.elim .stay .push

theorem describes_headers : List.Forall₂ Describes headers Heading.all := by
  have hword (w : String) : Renders (.keyword, word w) (Heading.word w) :=
    ⟨rfl, fun _ => spells_word⟩
  have hblanks : Renders (.whitespace, blanks) Heading.blanks := ⟨rfl, fun _ => spells_many1⟩
  have hgap : Renders (.whitespace, many isBlank) Heading.gap := ⟨rfl, fun _ => Iff.rfl⟩
  have hlanguage : Renders (.nameType, languageName) Heading.language :=
    ⟨rfl, fun _ => spells_many1⟩
  have hquoted : Renders (.string, plainString) Heading.quoted := ⟨rfl, fun _ => spells_plainString⟩
  have htype : Renders (.nameType, upperName) Heading.typeName := ⟨rfl, fun _ => spells_one_many⟩
  have hpath : Renders (.name, importPath) Heading.path := ⟨rfl, fun _ => spells_one_many⟩
  have hparen (kind : TokenKind) : Renders (kind, char '(') (Heading.paren kind) :=
    ⟨rfl, fun _ => spells_char_iff⟩
  refine .cons ⟨?_, rfl⟩ (.cons ⟨?_, rfl⟩ (.cons ⟨?_, rfl⟩ (.cons ⟨?_, rfl⟩ (.cons ⟨?_, rfl⟩
    (.cons ⟨?_, rfl⟩ .nil)))))
  · exact .cons (hword _) (.cons hblanks (.cons hlanguage (.cons hblanks (.cons (hword _)
      (.cons hblanks (.cons hquoted (.cons hgap (.cons (hparen _) .nil))))))))
  · exact .cons (hword _) (.cons hblanks (.cons hlanguage (.cons hgap (.cons (hparen _) .nil))))
  · exact .cons (hword _) (.cons hblanks (.cons htype .nil))
  · exact .cons (hword _) (.cons hblanks (.cons hpath (.cons hgap (.cons (hparen _) .nil))))
  · exact .cons (hword _) (.cons hblanks (.cons hpath .nil))
  · exact .cons (hword _) (.cons hgap (.cons (hparen _) .nil))

theorem forall₂_spells_iff {parts : List (TokenKind × Shape)} {gs : List Heading.Group}
    (h : List.Forall₂ Renders parts gs) {ts : List (List Char)} :
    List.Forall₂ (fun part t => part.2.Spells t) parts ts ↔
      List.Forall₂ (fun g t => g.2 t) gs ts := by
  induction h generalizing ts with
  | nil => simp
  | cons hr _ ih => simp only [List.forall₂_cons_left_iff, hr.2, ih]

theorem shuns_row {kind : TokenKind} {s : Shape} {p : Char → Bool} (h : s.Shuns p)
    (parts : List (TokenKind × Shape)) : (row ((kind, s) :: parts)).Shuns p :=
  h.append _

theorem shuns_row_many {kind : TokenKind} {p q : Char → Bool} {parts : List (TokenKind × Shape)}
    (h : ∀ x, q x = true → p x = false) (hs : (row parts).Shuns p) :
    (row ((kind, many q) :: parts)).Shuns p :=
  shuns_many_append h hs

theorem word_endsBefore {w : String} {b : Shape} (h : b.Shuns isIdent) :
    (word w).EndsBefore b := by
  intro prev u v rest hfree hu hv
  obtain ⟨x, v, rfl, hx⟩ := h hv
  obtain rfl := spells_word.1 hu
  exact reach_word (hfree isIdent List.mem_cons_self) hx

theorem word_shuns {w : String} {p : Char → Bool} {x : Char} {cs : List Char}
    (hw : w.toList = x :: cs) (hx : p x = false) : (word w).Shuns p := by
  intro t ht
  exact ⟨x, cs, (spells_word.1 ht).trans hw, hx⟩

theorem one_shuns_blanks {p : Char → Bool} (hp : ∀ x, isBlank x = true → p x = false) :
    (one p).Shuns isBlank := by
  refine shuns_one fun x hx => ?_
  by_contra hb
  rw [Bool.not_eq_false] at hb
  rw [hp x hb] at hx
  cases hx

theorem blanks_shuns {p : Char → Bool} (hp : ∀ x, isBlank x = true → p x = false) :
    blanks.Shuns p :=
  (shuns_one hp).append _

theorem plainString_endsBefore (b : Shape) : plainString.EndsBefore b := by
  have hinner : (many1 (· != '"')).EndsBefore (char '"') := many1_endsBefore (shuns_char rfl)
  exact (one_endsBefore.append hinner rfl).append one_endsBefore rfl

section

variable {parts : List (TokenKind × Shape)} {part : TokenKind × Shape} {p : Char → Bool}

theorem Parted.behind_word (h : Parted (part :: parts)) (hs : part.2.Shuns isBlank)
    (hlook : part.2.lookbacks = []) (w : String) :
    Parted ((.keyword, word w) :: (.whitespace, blanks) :: part :: parts) := by
  have hblanks : Parted ((.whitespace, blanks) :: part :: parts) :=
    h.before _ (many1_endsBefore (shuns_row hs _)) hlook
  have hshuns : blanks.Shuns isIdent := blanks_shuns fun _ => isIdent_eq_false_of_isBlank
  exact hblanks.before _ (word_endsBefore (shuns_row hshuns _)) rfl

theorem parted_gap (kind : TokenKind) : Parted [(.whitespace, many isBlank), (kind, char '(')] :=
  (Parted.last kind (one_attains _)).before _ (many_endsBefore (shuns_row (shuns_char rfl) _)) rfl

theorem gap_shuns (hblank : ∀ x, isBlank x = true → p x = false) (hparen : p '(' = false)
    (kind : TokenKind) : (row [(.whitespace, many isBlank), (kind, char '(')]).Shuns p :=
  shuns_row_many hblank (shuns_row (shuns_char hparen) _)

theorem free_word_of_blanks {w : String} {prev : Option Char} {u : List Char}
    (hu : blanks.Spells u) : (word w).Free (u.getLast?.or prev) := by
  obtain ⟨hne, hall⟩ := spells_many1.1 hu
  have hlast : isIdent (u.getLast hne) = false :=
    isIdent_eq_false_of_isBlank (hall _ (List.getLast_mem hne))
  rw [List.getLast?_eq_some_getLast hne]
  exact List.forall_mem_singleton.2 hlast

end

theorem isAsciiLetter_eq_false_of_isBlank {x : Char} : isBlank x = true → isAsciiLetter x = false :=
  eq_false_of_isBlank (by decide)

theorem isUppercase_eq_false_of_isBlank {x : Char} (hx : isBlank x = true) :
    isUppercase x = false := by
  by_contra h
  rw [Bool.not_eq_false] at h
  have hident := isIdent_of_isUppercase h
  rw [isIdent_eq_false_of_isBlank hx] at hident
  cases hident

theorem parted_origin : Parted [(.whitespace, blanks), (.keyword, word "from"),
    (.whitespace, blanks), (.string, plainString), (.whitespace, many isBlank),
    (.text, char '(')] := by
  have hquote : plainString.Shuns isBlank := ((shuns_char rfl).append _).append _
  have hfrom := ((parted_gap .text).before .string (plainString_endsBefore _) rfl).behind_word
    hquote rfl "from"
  exact .cons _ (many1_endsBefore (shuns_row (word_shuns rfl rfl) _))
    (fun _ _ => free_word_of_blanks) hfrom

theorem parted_language {part : TokenKind × Shape} {parts : List (TokenKind × Shape)}
    (h : Parted (part :: parts)) (hlook : part.2.lookbacks = [])
    (hs : (row (part :: parts)).Shuns isAsciiLetter) : Parted ((.keyword, word "source") ::
      (.whitespace, blanks) :: (.nameType, languageName) :: part :: parts) := by
  have hlanguage : languageName.Shuns isBlank :=
    (one_shuns_blanks fun _ => isAsciiLetter_eq_false_of_isBlank).append _
  exact (h.before .nameType (many1_endsBefore hs) hlook).behind_word hlanguage rfl _

theorem importPath_shuns : importPath.Shuns isBlank := by
  have hlead (x : Char) : isBlank x = true → (isAsciiLetter x || x == '.') = false :=
    eq_false_of_isBlank (p := fun x => isAsciiLetter x || x == '.') (by decide)
  exact (one_shuns_blanks hlead).append _

theorem parted_importPath : Parted [(.name, importPath), (.whitespace, many isBlank),
    (.punctuation, char '(')] := by
  have hblank (x : Char) (hx : isBlank x = true) : (isWord x || x == '.' || x == '-') = false := by
    have hword := (Bool.or_eq_false_iff.1 (isIdent_eq_false_of_isBlank hx)).2
    have hsign := eq_false_of_isBlank (p := fun x => x == '.' || x == '-') (by decide) hx
    rw [Bool.or_assoc, hword]
    exact hsign
  exact (parted_gap _).before _
    (one_endsBefore.append (many_endsBefore (gap_shuns hblank rfl _)) rfl) rfl

theorem parted_headers : ∀ r ∈ headers, Parted r.parts := by
  have hletter (x : Char) (hx : isBlank x = true) := isAsciiLetter_eq_false_of_isBlank hx
  have hname : upperName.Shuns isBlank :=
    (one_shuns_blanks fun _ => isUppercase_eq_false_of_isBlank).append _
  have htyped : Parted [(.nameType, upperName)] :=
    .last _ ((many_attains _).append one_endsBefore rfl)
  have himported : Parted [(.name, importPath)] :=
    .last _ ((many_attains _).append one_endsBefore rfl)
  refine List.forall_iff_forall_mem.1 ⟨?_, ?_, ?_, ?_, ?_, ?_⟩
  · exact parted_language parted_origin rfl (shuns_row (blanks_shuns hletter) _)
  · exact parted_language (parted_gap _) rfl (gap_shuns hletter rfl _)
  · exact htyped.behind_word hname rfl _
  · exact parted_importPath.behind_word importPath_shuns rfl _
  · exact himported.behind_word importPath_shuns rfl _
  · exact (parted_gap _).before _
      (word_endsBefore (gap_shuns (fun _ => isIdent_eq_false_of_isBlank) rfl _)) rfl

variable {r : Rule} {h : Heading} {c : Cursor} {ts : List (List Char)} {ps : List Piece}

theorem match?_of_split? (hs : split? r.parts c.previous? c.ahead = some ps)
    (hn : (row r.parts).nullable = false) : r.match? c = some ps := by
  have hpos : decide (0 < Piece.total ps) = true := by
    have hne := ne_zero_of_reach hn (reach_of_split? hs)
    exact decide_eq_true (Nat.pos_of_ne_zero hne)
  cases r with
  | token | groups => exact Option.filter_eq_some_iff.2 ⟨hs, hpos⟩
  | leaveWhen test => cases hn

/-- Where a heading fits, its rule takes no less in any group. -/
theorem Describes.exists_match? (hd : r.Describes h) (hr : r ∈ headers)
    (hc : c.previous?.any isIdent = false) (hts : h.Fits c.ahead ts) :
    ∃ ps, r.match? c = some ps ∧
      List.Forall₂ (fun u t => u.length ≤ t.length) ts (Piece.texts ps c.ahead) := by
  have hnull : ∀ r ∈ headers, (row r.parts).nullable = false := by decide
  obtain ⟨rest, hrest⟩ := hts.stands
  have hfree : ∀ part ∈ r.parts.head?, part.2.Free c.previous? := by
    obtain ⟨u, -, more, hparts⟩ :=
      exists_parts_of_mem_words r (List.mem_append_left _ (List.mem_cons_of_mem _ hr))
    rintro part hpart
    obtain rfl : (.keyword, word u) = part := by simpa [hparts] using hpart
    exact List.forall_mem_singleton.2 hc
  obtain ⟨ps, hps, hle⟩ := (parted_headers r hr).exists_split?
    ((forall₂_spells_iff hd.groups).2 hts.each) hfree rest
  rw [hrest] at hps hle
  exact ⟨ps, match?_of_split? hps (hnull r hr), hle⟩

/-- What the rule of a heading takes fits it. -/
theorem Describes.fits_of_match? (hd : r.Describes h) (hm : r.match? c = some ps) :
    h.Fits c.ahead (Piece.texts ps c.ahead) ∧ ps.map Prod.fst = h.groups.map Prod.fst := by
  obtain ⟨hkinds, hspells⟩ := spells_of_split? (split?_of_match? hm)
  refine ⟨⟨(forall₂_spells_iff hd.groups).1 hspells, ?_⟩, hkinds.trans ?_⟩
  · rw [Piece.flatten_texts]
    exact List.take_prefix _ _
  · have hsame : List.Forall₂ (· = ·) (r.parts.map Prod.fst) (h.groups.map Prod.fst) := by
      rw [List.forall₂_map_left_iff, List.forall₂_map_right_iff]
      exact hd.groups.imp fun _ _ hg => hg.1
    exact List.forall₂_eq_eq_eq ▸ hsame

theorem Describes.greedy_of_match? (hd : r.Describes h) (hr : r ∈ headers)
    (hc : c.previous?.any isIdent = false) (hm : r.match? c = some ps) :
    h.Greedy c.ahead (Piece.texts ps c.ahead) := by
  refine ⟨(hd.fits_of_match? hm).1, fun us hus => ?_⟩
  obtain ⟨qs, hqs, hle⟩ := hd.exists_match? hr hc hus
  obtain rfl := Option.some.inj (hm.symm.trans hqs)
  exact hle

/-- No heading before fits, so no rule before matches. -/
theorem match?_eq_none_of_describes {rules : List Rule} {hs : List Heading}
    (h : List.Forall₂ Describes rules hs) (hnone : ∀ k ∈ hs, ∀ ts, ¬ k.Fits c.ahead ts) :
    ∀ r ∈ rules, r.match? c = none := by
  induction h with
  | nil => simp
  | cons hd _ ih =>
    obtain ⟨hk, hks⟩ := List.forall_mem_cons.1 hnone
    refine List.forall_mem_cons.2 ⟨?_, ih hks⟩
    by_contra hm
    obtain ⟨ps, hps⟩ := Option.ne_none_iff_exists'.1 hm
    exact hk _ (hd.fits_of_match? hps).1

end Rule

namespace Scan

/-- What it is for a step to read a heading. -/
structure ReadsHeading (resync : Bool) (s : Scan) (h : Heading) (ts : List (List Char)) : Prop where
  greedy : h.Greedy s.cursor.ahead ts
  tokens : (s.step resync).tokens.map (fun t => (t.kind, t.text.toList)) =
    ((h.groups.map Prod.fst).zip ts).filter (!·.2.isEmpty)
  next : (s.step resync).next =
    ⟨s.cursor.skip ts.flatten.length, h.opens.elim s.modes (s.modes.push ·)⟩
  silent : (s.step resync).diagnostics = []

/-- How a step goes on where the word of a declaration stands. -/
structure Declares (resync : Bool) (s : Scan) (w : List Char) : Prop where
  heading : ∀ pre h post, Heading.all = pre ++ h :: post →
    (∀ k ∈ pre, ∀ ts, ¬ k.Fits s.cursor.ahead ts) → (∃ ts, h.Fits s.cursor.ahead ts) →
      ∃ ts, s.ReadsHeading resync h ts
  word : (∀ h ∈ Heading.all, ∀ ts, ¬ h.Fits s.cursor.ahead ts) →
    (s.step resync).tokens = [s.cursor.token .keyword w.length] ∧
      (s.step resync).next = ⟨s.cursor.skip w.length, s.modes⟩ ∧ (s.step resync).diagnostics = []

variable {resync : Bool} {s : Scan} {r : Rule} {h : Heading} {ps : List Piece}

theorem readsHeading_of_first? (hd : r.Describes h) (hr : r ∈ Rule.headers)
    (hc : s.cursor.previous?.any isIdent = false)
    (hfirst : Rule.first? s.cursor s.modes.top.rules = some (r, ps)) :
    s.ReadsHeading resync h (Piece.texts ps s.cursor.ahead) := by
  have htaken : ∀ r ∈ Rule.headers, r.isZeroWidth = false ∧ ∀ p ∈ r.parts, p.1 ≠ .error := by
    decide
  have hmatch := (Rule.mem_of_first? hfirst).2
  have hstep := step_of_first? resync hfirst (htaken r hr).1
  have hle := Rule.total_le_of_match? hmatch
  refine ⟨hd.greedy_of_match? hr hc hmatch, ?_, ?_, ?_⟩
  · rw [hstep, take, Cursor.map_tokens hle, (hd.fits_of_match? hmatch).2]
  · rw [hstep, take, Piece.flatten_texts, List.length_take, Nat.min_eq_left hle, hd.action]
    cases h.opens <;> rfl
  · rw [hstep]
    refine diagnostics_take _ fun p hp => ?_
    have hkind := List.mem_map_of_mem (f := Prod.fst) hp
    rw [(Rule.spells_of_split? (Rule.split?_of_match? hmatch)).1] at hkind
    obtain ⟨part, hpart, he⟩ := List.mem_map.1 hkind
    exact he ▸ (htaken r hr).2 part hpart

variable (resync) in
/-- The first heading that fits is read, and if there is none, the word alone. -/
theorem declares_of_standsAt (hm : s.modes.top = .root) {w : String}
    (hw : w ∈ ["source", "type", "import"]) (hs : s.cursor.StandsAt w.toList) :
    s.Declares resync w.toList := by
  have hdeclared : ∀ u ∈ ["source", "type", "import"],
      u ∈ "module" :: reservedWords ∧ u.toList ≠ "module".toList ∧ u.toList.length ≠ 0 := by decide
  obtain ⟨hreserved, hother, hlen⟩ := hdeclared w hw
  have hmodule : Rule.moduleWord.match? s.cursor = none := by
    by_contra hne
    obtain ⟨ps, hps⟩ := Option.ne_none_iff_exists'.1 hne
    obtain ⟨n, hn, -⟩ := Rule.exists_of_match?_token hps
    have hstands := (Cursor.reach_word_iff.1 hn).1
    have hident := Rule.reservedWords_isIdent
    exact hother ((hs.takeWhile_eq (hident w hreserved)).symm.trans
      (hstands.takeWhile_eq (hident "module" List.mem_cons_self)))
  obtain ⟨r, ps, hwords, hroot⟩ := Rule.first?_root_of_standsAt hreserved hs
  rw [← hm] at hroot
  obtain ⟨hr, hmatch⟩ := Rule.mem_of_first? hwords
  rw [Rule.words, List.cons_append, Rule.first?_cons_of_none hmodule] at hwords
  constructor
  case heading =>
    rintro pre h post hall hpre ⟨us, hus⟩
    have hd := Rule.describes_headers
    rw [hall] at hd
    have hbefore := List.forall₂_take_append _ _ _ hd
    obtain ⟨q, more, hq, -, hdrop⟩ :=
      List.forall₂_cons_right_iff.1 (List.forall₂_drop_append _ _ _ hd)
    have hheaders : Rule.headers = Rule.headers.take pre.length ++ q :: more := by
      rw [← hdrop, List.take_append_drop]
    have hmem : q ∈ Rule.headers := by
      rw [hheaders]
      simp
    obtain ⟨qs, hqs, -⟩ := hq.exists_match? hmem hs.before hus
    rw [hheaders, List.append_assoc,
      Rule.first?_append (Rule.match?_eq_none_of_describes hbefore hpre), List.cons_append,
      Rule.first?_cons_of_some hqs] at hwords
    cases hwords
    exact ⟨_, readsHeading_of_first? hq hmem hs.before hroot⟩
  case word =>
    intro hnone
    obtain ⟨qs, rfl⟩ := Rule.exists_cons_of_match?_word hreserved hs hr hmatch
    rw [Rule.first?_append (Rule.match?_eq_none_of_describes Rule.describes_headers hnone)]
      at hwords
    obtain ⟨u, -, rfl⟩ := List.mem_map.1 (Rule.mem_of_first? hwords).1
    obtain ⟨n, -, -, he⟩ := Rule.exists_of_match?_token hmatch
    obtain ⟨-, rfl⟩ := List.cons.inj he
    rw [step_of_first? resync hroot rfl, take, Cursor.tokens_of_pos (Nat.pos_of_ne_zero hlen)]
    exact ⟨rfl, rfl, rfl⟩

/-- An import with the list that it opens. -/
theorem declares_of_standsAt_import :
    let s := start "import lib.math (add)".toList
    s.modes.top = .root ∧ "import" ∈ ["source", "type", "import"] ∧
      s.cursor.StandsAt "import".toList ∧ s.Declares true "import".toList := by
  intro s
  have hstands : s.cursor.StandsAt "import".toList := ⟨by decide, rfl, by decide⟩
  exact ⟨rfl, by decide, hstands, declares_of_standsAt true rfl (by decide) hstands⟩

/-- Without its parenthesis the heading of a source is no heading at all. -/
example : ((start "source Py from \"a\" b".toList).step true).tokens.map
    (fun t => (t.kind, t.text)) = [(.keyword, "source")] := by decide

end Scan
end ModalLexer
