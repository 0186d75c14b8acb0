import ModalLexer.Proofs.Passage

/-!
Nested expressions always close. What each category of text does to the stack of modes is proved
by induction on how the text is formed; a session then hands out an expression token by token and
comes back to the stack it had before.
-/

namespace ModalLexer

open Lexeme

/-- The body of a comment or of a string, which the marks structure. A run of other characters may
stand before it, since it is taken together with those that the body begins with. -/
def PassesBody (marks : Char → Bool) (S : ModeStack) (t : List Char) : Prop :=
  ∀ u : List Char, (∀ x ∈ u, marks x = false) →
    Passes S.above S (u ++ t) S fun rest => rest.head?.any marks = true

namespace PassesBody

variable {marks : Char → Bool} {S : ModeStack} {t v : List Char} {x : Char}

theorem nil (h : ∀ u ≠ [], (∀ x ∈ u, marks x = false) →
    Passes S.above S u S fun rest => rest.head?.any marks = true) : PassesBody marks S [] := by
  intro u hu
  rw [List.append_nil]
  by_cases hne : u = []
  · rw [hne]
    exact .nil
  · exact h u hne hu

theorem cons (hx : marks x = false) (h : PassesBody marks S t) : PassesBody marks S (x :: t) := by
  intro u hu
  have hux : ∀ y ∈ u ++ [x], marks y = false :=
    List.forall_mem_append.2 ⟨hu, List.forall_mem_singleton.2 hx⟩
  rw [List.append_cons]
  exact h (u ++ [x]) hux

theorem piece (hnil : PassesBody marks S []) (hv : v.head?.any marks = true)
    (h : Passes S.above S v S fun _ => True) (ht : PassesBody marks S t) :
    PassesBody marks S (v ++ t) := by
  intro u hu
  have hrun := hnil u hu
  rw [List.append_nil] at hrun
  have hpiece := hrun.append h fun rest _ => by
    cases v with
    | nil => simp at hv
    | cons y v => exact hv
  have hrest := hpiece.append (ht [] (by simp)) fun _ _ => trivial
  rwa [List.nil_append, List.append_assoc] at hrest

end PassesBody

namespace Form

variable {S : ModeStack} {i b b₀ b₁ b₂ e t u sel rest : List Char}

/-- What a text of the category does to the stack. -/
def Closes : Category → List Char → Prop
  | .expression, e => ∀ S : ModeStack, S.top.ReadsExpressions →
      Passes S.above S e S fun rest => rest.head?.any isBlank = false
  | .item, i => ∀ S : ModeStack, S.top.ReadsExpressions →
      Passes S.above S i S fun rest => rest.head?.any isBlank = true
  | .commentBody, t => ∀ S : ModeStack, S.top = .comment → PassesBody isCommentMark S t
  | .stringBody, t => ∀ S : ModeStack, S.top.ReadsStrings → PassesBody isStringMark S t
  | .entry, t => ∀ S : ModeStack, S.top = .patternGroup →
      Passes S.above S t (S.push .patternValue) fun rest =>
        rest.head?.any (fun x => x == ',' || x == ')') = true
  | .entries, t => ∀ S : ModeStack,
      Passes S.above (S.push .patternGroup) (t ++ [')']) S fun _ => True

theorem head_item (h : Form .item i) : ∃ x t, i = x :: t ∧ isBlank x = false := by
  cases h with
  | name h =>
    obtain ⟨x, t, hx, -, rfl⟩ := h
    exact ⟨x, t, rfl, isBlank_eq_false_of_isAlphanum (isAlphanum_of_isLower hx)⟩
  | number h =>
    obtain ⟨x, t, rfl⟩ := List.exists_cons_of_ne_nil h.1
    have hx := h.2 x List.mem_cons_self
    exact ⟨x, t, rfl, isBlank_eq_false_of_isAlphanum (isAlphanum_of_isDigit hx)⟩
  | enclosed k => cases k <;> exact ⟨_, _, rfl, by decide⟩
  | selection => exact ⟨_, _, rfl, by decide⟩
  | comment => exact ⟨_, _, rfl, by decide⟩
  | string => exact ⟨_, _, rfl, by decide⟩
  | multiline => exact ⟨_, _, rfl, by decide⟩
  | group => exact ⟨_, _, rfl, by decide⟩

theorem head_expression (h : Form .expression e) (hr : rest.head?.any isBlank = false) :
    (e ++ rest).head?.any isBlank = false := by
  cases h with
  | empty => exact hr
  | cons hi =>
    obtain ⟨x, t, rfl, hx⟩ := head_item hi
    exact hx

theorem head_stringBody (h : Form .stringBody t) : t.head? ≠ some '"' := by
  cases h with
  | stringEnd => simp
  | stringChar hx =>
    intro e
    obtain rfl := Option.some.inj e
    exact absurd hx (by decide)
  | stringEscape => simp
  | stringInterpolation => simp

/-- No string but the empty one begins with two quotes, and no third one follows that. -/
theorem not_prefix_stringBody (h : Form .stringBody t) (hr : rest.head?.any isBlank = true) :
    ¬ ['"', '"'] <+: t ++ ['"'] ++ rest := by
  intro hp
  cases t with
  | nil =>
    cases rest with
    | nil => simp at hr
    | cons x rest =>
      obtain rfl : '"' = x := by simpa using hp
      have hquote : isBlank '"' = false := by decide
      simp [hquote] at hr
  | cons x t =>
    obtain rfl : '"' = x := (List.cons_prefix_cons.1 hp).1
    exact head_stringBody h rfl

theorem head_blanks (hb : IsRun isBlank b) : (b ++ rest).head?.any isBlank = true := by
  obtain ⟨x, t, rfl⟩ := List.exists_cons_of_ne_nil hb.1
  exact hb.2 x List.mem_cons_self

theorem closes_empty : Closes .expression [] := fun _ _ => .nil

theorem closes_cons (hi : Closes .item i) (hb : IsRun isBlank b) (he : Form .expression e)
    (hc : Closes .expression e) : Closes .expression (i ++ b ++ e) := by
  intro S hm
  have hblanks := (hi S hm).append (Passes.blanks hm hb) fun rest _ => head_blanks hb
  exact hblanks.append (hc S hm) fun rest hr => head_expression he hr

theorem passes_body (hm : S.top.ReadsExpressions) (hb : ∀ x ∈ b, isBlank x = true)
    (he : Form .expression e) (hc : Closes .expression e) :
    Passes S.above S (b ++ e) S fun rest => rest.head?.any isBlank = false := by
  by_cases hne : b = []
  · rw [hne]
    exact hc S hm
  · exact (Passes.blanks hm ⟨hne, hb⟩).append (hc S hm) fun rest hr => head_expression he hr

theorem readsExpressions_mode (k : Enclosure) : k.mode.ReadsExpressions := by
  cases k <;> simp [Mode.ReadsExpressions, Enclosure.mode]

theorem isBlank_closer (k : Enclosure) : isBlank k.closer = false := by
  cases k <;> decide

theorem passes_enclosed (k : Enclosure) (hb : IsRun isBlank b) (he : Form .expression e)
    (hc : Closes .expression e) :
    Passes S.above (S.push k.mode) (b ++ e ++ [k.closer]) S fun _ => True := by
  have hbody := passes_body (S := S.push k.mode) (readsExpressions_mode k) hb.2 he hc
  exact (hbody.mono (List.suffix_cons _ _)).append (Passes.closer k)
    fun rest _ => isBlank_closer k

theorem closes_name (h : IsName t) : Closes .item t := fun _ hm => .name hm h

theorem closes_number (h : IsRun Char.isDigit t) : Closes .item t := fun _ hm => .number hm h

theorem startsSelector_of_isSelector (h : IsSelector t) :
    (t ++ rest).head?.any startsSelector = true := by
  rcases h with ⟨x, t, hx, -, rfl⟩ | ⟨hne, hall⟩
  · have hw : isWord x = true := isWord_of_isAlphanum (isAlphanum_of_isLower hx)
    simp [startsSelector, hw]
  · obtain ⟨x, t, rfl⟩ := List.exists_cons_of_ne_nil hne
    have hx := hall x List.mem_cons_self
    have hw : isWord x = true := isWord_of_isAlphanum (isAlphanum_of_isDigit hx)
    simp [startsSelector, hw]

theorem closes_selection (h : IsSelector t) : Closes .item ('.' :: t) := by
  intro S hm
  have hselector := (Passes.selector (S := S) h).imp fun _ hr => any_isIdent_of_blank hr
  exact (Passes.dot hm).append hselector fun _ _ => startsSelector_of_isSelector h

theorem closes_enclosed (k : Enclosure) (hb : IsRun isBlank b) (he : Form .expression e)
    (hc : Closes .expression e) : Closes .item (k.opener ++ b ++ e ++ [k.closer]) := by
  intro S hm
  rw [List.append_assoc, List.append_assoc, ← List.append_assoc b]
  refine ((Passes.opener k hm).append (passes_enclosed k hb he hc) fun rest _ => ?_).any
  rw [List.append_assoc, List.append_assoc]
  exact head_blanks hb

theorem passes_comment (hc : Closes .commentBody t) :
    Passes S.above (S.push .comment) (t ++ ['-', '}']) S fun _ => True := by
  have hbody := hc (S.push .comment) rfl [] (by simp)
  exact (hbody.mono (List.suffix_cons _ _)).append .commentClose fun _ _ => rfl

theorem closes_comment (hc : Closes .commentBody t) :
    Closes .item (['{', '-'] ++ t ++ ['-', '}']) := by
  intro S hm
  rw [List.append_assoc]
  exact ((Passes.commentOpen hm).append (passes_comment hc) fun _ _ => trivial).any

theorem closes_commentEnd : Closes .commentBody [] :=
  fun _ hm => .nil fun _ hne hu => .commentText hm hne hu

theorem closes_commentNested (ht : Closes .commentBody t) (hu : Closes .commentBody u) :
    Closes .commentBody (['{', '-'] ++ t ++ ['-', '}'] ++ u) := by
  intro S hm
  have hnested := (Passes.commentNested hm).append (passes_comment ht) fun _ _ => trivial
  rw [← List.append_assoc] at hnested
  exact .piece (closes_commentEnd S hm) rfl hnested (hu S hm)

theorem closes_string (ht : Form .stringBody t) (hc : Closes .stringBody t) :
    Closes .item (['"'] ++ t ++ ['"']) := by
  intro S hm
  have hbody := hc (S.push .string) (.inl rfl) [] (by simp)
  have hclose := (hbody.mono (List.suffix_cons _ _)).append .stringClose fun _ _ => rfl
  rw [List.append_assoc]
  exact (Passes.quote hm).append hclose.any fun rest hr => not_prefix_stringBody ht hr

theorem closes_multiline (hc : Closes .stringBody t) :
    Closes .item (['"', '"', '"'] ++ t ++ ['"', '"', '"']) := by
  intro S hm
  have hbody := hc (S.push .multilineString) (.inr rfl) [] (by simp)
  have hclose := (hbody.mono (List.suffix_cons _ _)).append .multilineClose fun _ _ => rfl
  rw [List.append_assoc]
  exact ((Passes.tripleQuote hm).append hclose fun _ _ => trivial).any

theorem closes_stringEnd : Closes .stringBody [] :=
  fun _ hm => .nil fun _ hne hu => .stringText hm hne hu

theorem closes_stringEscape {x : Char} (hx : x ∈ escapeSigns) (hc : Closes .stringBody t) :
    Closes .stringBody (['\\', x] ++ t) := by
  intro S hm
  have hescape := (Passes.backslash hm).append (Passes.namedEscape hx) fun _ _ => trivial
  exact .piece (closes_stringEnd S hm) rfl hescape (hc S hm)

theorem closes_stringInterpolation (hb : IsRun isBlank b) (he : Form .expression e)
    (hce : Closes .expression e) (hc : Closes .stringBody t) :
    Closes .stringBody (['#', '{'] ++ b ++ e ++ ['}'] ++ t) := by
  intro S hm
  have hinner := (Passes.stringInterpolation hm).append (passes_enclosed .interpolation hb he hce)
    fun _ _ => trivial
  rw [← List.append_assoc, ← List.append_assoc] at hinner
  exact .piece (closes_stringEnd S hm) rfl hinner (hc S hm)

theorem closes_group (hc : Closes .entries t) : Closes .item (['.', '('] ++ t ++ [')']) := by
  intro S hm
  have hopen := (Passes.dot hm).append Passes.groupOpen fun _ _ => rfl
  rw [List.append_assoc]
  exact (hopen.append (hc S) fun _ _ => trivial).any

theorem any_isIdent_blanks (hb : ∀ x ∈ b, isBlank x = true) (hr : rest.head?.any isIdent = false) :
    (b ++ rest).head?.any isIdent = false := by
  cases b with
  | nil => exact hr
  | cons x b => exact isIdent_eq_false_of_isBlank (hb x List.mem_cons_self)

theorem closes_entry (hb₀ : ∀ x ∈ b₀, isBlank x = true) (hs : IsSelector sel)
    (hb₁ : ∀ x ∈ b₁, isBlank x = true) (hb₂ : ∀ x ∈ b₂, isBlank x = true)
    (he : Form .expression e) (hc : Closes .expression e) :
    Closes .entry (b₀ ++ ['.'] ++ sel ++ b₁ ++ ['='] ++ b₂ ++ e) := by
  intro S hm
  have hdot := (Passes.groupBlanks hm hb₀).append (Passes.groupDot hm) fun _ _ => rfl
  have hsel := hdot.append (Passes.selector hs) fun _ _ => trivial
  have hblanks := hsel.append ((Passes.groupBlanks hm hb₁).append (Passes.assignment hm)
    fun _ _ => rfl) fun rest _ => by
      rw [List.append_assoc]
      exact any_isIdent_blanks hb₁ rfl
  have hvalue := passes_body (S := S.push .patternValue) (by simp [Mode.ReadsExpressions]) hb₂ he hc
  have hall := hblanks.append (hvalue.mono (List.suffix_cons _ _)) fun _ _ => trivial
  simp only [List.append_assoc] at hall ⊢
  refine hall.imp fun rest hr => ?_
  cases rest with
  | nil => rfl
  | cons x rest =>
    obtain rfl | rfl : x = ',' ∨ x = ')' := by simpa using hr
    · rfl
    · rfl

theorem closes_noEntries (hb : ∀ x ∈ b, isBlank x = true) : Closes .entries b := by
  intro S
  have hblanks := Passes.groupBlanks (S := S.push .patternGroup) rfl hb
  exact (hblanks.mono (List.suffix_cons _ _)).append .groupClose fun _ _ => rfl

theorem closes_lastEntry (hc : Closes .entry t) : Closes .entries t := by
  intro S
  have hentry := (hc (S.push .patternGroup) rfl).mono (List.suffix_cons _ _)
  exact hentry.append (.leave (.inr rfl) (List.suffix_cons _ _) .groupClose) fun _ _ => rfl

theorem closes_moreEntries (ht : Closes .entry t) (hu : Closes .entries u) :
    Closes .entries (t ++ [','] ++ u) := by
  intro S
  have hentry := ht (S.push .patternGroup) rfl
  have hcomma := hentry.append (.leave (.inl rfl) List.suffix_rfl (.comma rfl)) fun _ _ => rfl
  rw [List.append_assoc]
  exact (hcomma.mono (List.suffix_cons _ _)).append (hu S) fun _ _ => trivial

/-- Every text does what its category promises. -/
theorem closes {k : Category} (h : Form k t) : Closes k t := by
  induction h with
  | empty => exact closes_empty
  | cons _ hb he hi hc => exact closes_cons hi hb he hc
  | name h => exact closes_name h
  | number h => exact closes_number h
  | selection h => exact closes_selection h
  | enclosed k hb he hc => exact closes_enclosed k hb he hc
  | comment _ hc => exact closes_comment hc
  | string ht hc => exact closes_string ht hc
  | multiline _ hc => exact closes_multiline hc
  | group _ hc => exact closes_group hc
  | commentEnd => exact closes_commentEnd
  | commentChar hx _ hc => exact fun S hm => (hc S hm).cons hx
  | commentNested _ _ ht hu => exact closes_commentNested ht hu
  | stringEnd => exact closes_stringEnd
  | stringChar hx _ hc => exact fun S hm => (hc S hm).cons hx
  | stringEscape hx _ hc => exact closes_stringEscape hx hc
  | stringInterpolation hb he _ hce hc => exact closes_stringInterpolation hb he hce hc
  | entry hb₀ hs hb₁ hb₂ he hc => exact closes_entry hb₀ hs hb₁ hb₂ he hc
  | noEntries hb => exact closes_noEntries hb
  | lastEntry _ hc => exact closes_lastEntry hc
  | moreEntries _ _ ht hu => exact closes_moreEntries ht hu

end Form

namespace Session

/-- What it is for a session to read a text and come back to the stack that it started with: calls
hand out its tokens one by one, and neither a call nor a step in between leaves a mode that was open
before. -/
structure ReadsThrough (s : Session) (e : List Char) (ts : List Token) : Prop where
  calls : s.calls ts.length =
    (ts.map some, { s with scan := ⟨s.scan.cursor.skip e.length, s.scan.modes⟩ })
  texts : ts.flatMap (·.text.toList) = e
  ne_error : ∀ t ∈ ts, t.kind ≠ .error
  stays : ∀ n ≤ ts.length, s.scan.modes.above <:+ (s.calls n).2.scan.modes.above
  stays_step : ∀ v, Scan.Reaches s.resync s.scan v →
    (s.scan.cursor.skip e.length).ahead.length < v.cursor.ahead.length →
      s.scan.modes.above <:+ v.modes.above

/-- Wherever an expression stands before something that is not a blank, a session that reads
expressions reads through it, however deep it nests. -/
theorem exists_readsThrough {s : Session} {e rest : List Char} (he : Form .expression e)
    (hm : s.mode.ReadsExpressions) (hp : s.pending = [])
    (ha : s.scan.cursor.ahead = e ++ rest) (hr : rest.head?.any isBlank = false) :
    ∃ ts, s.ReadsThrough e ts := by
  obtain ⟨ts, hts⟩ := he.closes s.scan.modes hm s.scan.cursor rest ha hr
  refine ⟨ts, calls_of_climbs hp hts, ?_, hts.ne_error, ?_, ?_⟩
  · have htext := hts.ahead_eq
    rw [Cursor.ahead_skip, ha, List.drop_left] at htext
    exact (List.append_cancel_right htext).symm
  · exact fun n hn => suffix_calls hp hts List.suffix_rfl hn
  · exact fun v hv hlt => hts.stays List.suffix_rfl hv hlt

/-- Behind the signs that open a string and an interpolation in it. -/
theorem exists_readsThrough_interpolation :
    let u := (((Scan.start "\"#\x7b( a ) \x7d\"".toList).step true).next.step true).next
    Scan.Reachable true "\"#\x7b( a ) \x7d\"" u ∧ Form .expression "( a ) ".toList ∧
      u.modes.top.ReadsExpressions ∧ u.cursor.ahead = "( a ) ".toList ++ ['}', '"'] ∧
        ∃ ts, ReadsThrough ⟨true, u, [], false, .empty⟩ "( a ) ".toList ts := by
  intro u
  have hreach : Scan.Reachable true "\"#\x7b( a ) \x7d\"" u :=
    .tail (.tail .refl (by decide)) (by decide +kernel)
  have hname : Form .item ['a'] := .name ⟨'a', [], by decide, by simp, rfl⟩
  have hblank : IsRun isBlank [' '] := ⟨by simp, List.forall_mem_singleton.2 (by decide)⟩
  have he : Form .expression "( a ) ".toList :=
    .cons (.enclosed .parens hblank (.cons hname hblank .empty)) hblank .empty
  have hmode : u.modes.top = .interpolation := by decide +kernel
  have hahead : u.cursor.ahead = "( a ) ".toList ++ ['}', '"'] := by decide +kernel
  exact ⟨hreach, he, .inl hmode, hahead,
    exists_readsThrough (s := ⟨true, u, [], false, .empty⟩) he (.inl hmode) rfl hahead (by decide)⟩

end Session
end ModalLexer
