import ModalLexer.Proofs.Ledger
import ModalLexer.Proofs.Lines

/-!
Where the carets of a message stand. The line and column that a scan counts are those that the
offsets of the file lead to, so that the snippet of a token or of a message shows its line, with
carets under just those of its characters that stand on that line.
-/

namespace ModalLexer

theorem toList_decimal (n : Nat) : (decimal n).toList = Nat.toDigits 10 n := String.toList_ofList

theorem toList_repeated (n : Nat) (c : Char) : (repeated n c).toList = List.replicate n c :=
  String.toList_ofList

namespace Snippet

/-- Written out, the snippet is its line behind a margin, and below it, behind the same margin,
carets under the columns from `first` up to `last`, the latter left out, and under no other. -/
def Underlines (s : Snippet) (first last : Nat) : Prop :=
  ∃ margin under : List Char, s.format.toList = margin ++ s.line.toList ++ '\n' :: under ∧
    '\n' ∉ margin ∧ '\n' ∉ under ∧
    (∀ k, 1 ≤ k → (under[margin.length + (k - 1)]? = some '^' ↔ first ≤ k ∧ k < last)) ∧
    under.count '^' = last - first

theorem getElem?_carets {blank : List Char} (h : '^' ∉ blank) (n i : Nat) :
    (blank ++ List.replicate n '^')[i]? = some '^' ↔ blank.length ≤ i ∧ i < blank.length + n := by
  by_cases hi : i < blank.length
  · rw [List.getElem?_append_left hi]
    have hne : blank[i]? ≠ some '^' := fun e => h (List.mem_of_getElem? e)
    simp only [hne, false_iff]
    omega
  · rw [List.getElem?_append_right (by omega), List.getElem?_replicate]
    split <;> simp <;> omega

theorem underlines_format {s : Snippet} (hlabel : s.label = none) (hstart : 1 ≤ s.startColumn) :
    s.Underlines s.startColumn (s.startColumn + s.carets) := by
  let margin := List.replicate (s.margin - (decimal s.lineNumber).toList.length) ' ' ++
    (decimal s.lineNumber).toList ++ [' ', '|', ' ']
  let blank := List.replicate s.margin ' ' ++ [' ', '|', ' '] ++ List.replicate (s.startColumn - 1) ' '
  have hdigits : ∀ x ∈ (decimal s.lineNumber).toList, x ≠ '\n' := by
    intro x hx hn
    rw [toList_decimal, hn] at hx
    exact absurd (Nat.isDigit_of_mem_toDigits (by decide) (by decide) hx) (by decide)
  have hmargin : margin.length = s.margin + 3 := by
    have hwide : (decimal s.lineNumber).toList.length ≤ s.margin := by
      rw [toList_decimal]
      exact Nat.le_max_left _ _
    simp only [margin, List.length_append, List.length_replicate, List.length_cons, List.length_nil]
    omega
  have hblank : blank.length = s.margin + 3 + (s.startColumn - 1) := by
    simp only [blank, List.length_append, List.length_replicate, List.length_cons, List.length_nil]
  have hcaret : '^' ∉ blank := by simp [blank]
  refine ⟨margin, blank ++ List.replicate s.carets '^', ?_, ?_, ?_, fun k hk => ?_, ?_⟩
  · simp [format, alignRight, toList_repeated, hlabel, margin, blank]
  · simpa [margin] using fun hmem => hdigits _ hmem rfl
  · simp [blank]
  · rw [getElem?_carets hcaret]
    omega
  · rw [List.count_append, List.count_eq_zero_of_not_mem hcaret, List.count_replicate_self]
    omega

end Snippet

theorem takeWhile_ne_newline {m : List Char} (hm : '\n' ∉ m) (q : List Char) :
    (m ++ '\n' :: q).takeWhile (· != '\n') = m := by
  have hall : ∀ x ∈ m, (x != '\n') = true := by
    intro x hx
    simpa using ne_of_mem_of_not_mem hx hm
  rw [List.takeWhile_append_of_pos hall, List.takeWhile_cons_of_neg (by decide), List.append_nil]

/-- The part of a piece of text up to the end of the line that it begins in, the newline included,
and that line without its newline differ in their ends only. -/
theorem exists_part_on_line {piece rest after : List Char}
    (h : piece ++ rest = (piece ++ rest).takeWhile (· != '\n') ++ after) :
    ∃ part, part <+: piece ++ rest ∧ min (byteLength ((piece ++ rest).takeWhile (· != '\n') ++
        after.take 1)) (byteLength piece) = byteLength part ∧
      trimLineEnd part = trimLineEnd (piece.takeWhile (· != '\n')) := by
  by_cases hn : '\n' ∈ piece
  · obtain ⟨m, q, rfl, hm⟩ := List.eq_append_cons_of_mem hn
    have hfirst : (m ++ '\n' :: q).takeWhile (· != '\n') = m := takeWhile_ne_newline hm q
    have hall : (m ++ '\n' :: q ++ rest).takeWhile (· != '\n') = m := by
      rw [List.append_assoc, List.cons_append, takeWhile_ne_newline hm]
    have hafter : after.take 1 = ['\n'] := by
      rw [hall, List.append_assoc, List.append_cancel_left_eq] at h
      rw [← h]
      rfl
    have hprefix : m ++ ['\n'] <+: m ++ '\n' :: q := ⟨q, by simp⟩
    rw [hall, hafter, hfirst]
    exact ⟨m ++ ['\n'], hprefix.trans (List.prefix_append _ _),
      Nat.min_eq_left (byteLength_le_of_isPrefix hprefix), trimLineEnd_append_newline m⟩
  · have hpos : ∀ x ∈ piece, (x != '\n') = true := by
      intro x hx
      simpa using ne_of_mem_of_not_mem hx hn
    have hprefix : piece <+: (piece ++ rest).takeWhile (· != '\n') ++ after.take 1 := by
      rw [List.takeWhile_append_of_pos hpos, List.append_assoc]
      exact List.prefix_append _ _
    rw [List.takeWhile_eq_self_iff.2 hpos]
    exact ⟨piece, List.prefix_append _ _, Nat.min_eq_right (byteLength_le_of_isPrefix hprefix), rfl⟩

/-- The part of a text on its first line, without the end of that line. -/
def firstLine (piece : List Char) : List Char := trimLineEnd (piece.takeWhile (· != '\n'))

theorem firstLine_eq {lead piece rest : List Char} (hne : firstLine piece ≠ []) :
    ((trimLineEnd (lead ++ (piece ++ rest).takeWhile (· != '\n'))).drop lead.length).take
      (firstLine piece).length = firstLine piece := by
  have hpiece : piece.takeWhile (· != '\n') <+: (piece ++ rest).takeWhile (· != '\n') := by
    rw [List.takeWhile_append]
    split
    · exact (List.takeWhile_prefix _).trans (List.prefix_append _ _)
    · exact List.prefix_refl _
  have hprefix : lead ++ firstLine piece <+: lead ++ (piece ++ rest).takeWhile (· != '\n') :=
    (List.prefix_append_right_inj lead).2 ((trimLineEnd_isPrefix _).trans hpiece)
  have hlast : ∀ x ∈ (lead ++ firstLine piece).getLast?, isLineEnd x = false := by
    intro x hx
    rw [List.getLast?_append_of_ne_nil _ hne] at hx
    exact getLast?_trimLineEnd _ x hx
  obtain ⟨r, hr⟩ := isPrefix_trimLineEnd hprefix hlast
  rw [← hr]
  simp

theorem SourceFile.extract_append {f : SourceFile} {a b c : List Char}
    (h : f.content.toList = a ++ b ++ c) :
    f.extract (byteLength a) (byteLength (a ++ b)) = .ok (String.ofList b) := by
  have hsize : f.size = byteLength (a ++ b ++ c) := by rw [size, h]
  have hlt : ¬ byteLength (a ++ b) < byteLength a := by simp
  have hle : ¬ f.size < byteLength (a ++ b) := by simp [hsize]
  rw [extract, if_neg hlt, if_neg hle, h, sliceBytes?_append]

/-- A line of the file, and a piece of text that begins in it behind `lead`. -/
structure SourceFile.Holds (f : SourceFile) (before lead piece rest after : List Char) : Prop where
  text : f.content.toList = before ++ lead ++ piece ++ rest
  line : f.HasLine before (lead ++ (piece ++ rest).takeWhile (· != '\n')) after
  ends : piece ++ rest = (piece ++ rest).takeWhile (· != '\n') ++ after

theorem SourceFile.exists_holds {f : SourceFile} {a piece rest : List Char}
    (h : f.content.toList = a ++ piece ++ rest) :
    ∃ before lead after, a = before ++ lead ∧ f.Holds before lead piece rest after := by
  obtain ⟨before, lead, after, rfl, hends, hline⟩ := exists_hasLine (h.trans (List.append_assoc _ _ _))
  exact ⟨before, lead, after, rfl, h, hline, hends⟩

namespace SourceFile.Holds

variable {f : SourceFile} {before lead piece rest after : List Char} {s : Span}

theorem span_eq (h : f.Holds before lead piece rest after) :
    Span.covering (before ++ lead) piece =
      ⟨byteLength (before ++ lead), byteLength (before ++ lead ++ piece), before.count '\n' + 1,
        lead.length + 1⟩ := by
  have hlead : '\n' ∉ lead := fun hmem => h.line.inside (List.mem_append_left _ hmem)
  have hline : lineAfter (before ++ lead) = before.count '\n' + 1 := by
    rw [lineAfter, List.count_append, List.count_eq_zero_of_not_mem hlead, Nat.add_zero]
  have hcolumn : columnAfter (before ++ lead) = lead.length + 1 := by
    have hpos : ∀ x ∈ lead.reverse, (x != '\n') = true := by
      intro x hx
      simpa using ne_of_mem_of_not_mem (List.mem_reverse.1 hx) hlead
    have hstop : before.reverse.takeWhile (· != '\n') = [] := by
      cases before using List.reverseRecOn with
      | nil => rfl
      | append_singleton b x => simp [h.line.starts x (by simp)]
    rw [columnAfter, List.reverse_append, List.takeWhile_append_of_pos hpos, hstop]
    simp
  rw [Span.covering, hline, hcolumn]

theorem widthOnLine_eq (h : f.Holds before lead piece rest after) :
    f.widthOnLine (.covering (before ++ lead) piece) = (firstLine piece).length := by
  obtain ⟨part, ⟨tail, htail⟩, hmin, htrim⟩ := exists_part_on_line h.ends
  have hstop : min ((f.lineStart? (before.count '\n' + 1)).getD f.size)
      (byteLength (before ++ lead ++ piece)) = byteLength (before ++ lead ++ part) := by
    rw [h.line.lineEnd_eq]
    simp only [byteLength_append] at hmin ⊢
    omega
  have hextract : f.extract (byteLength (before ++ lead)) (byteLength (before ++ lead ++ part)) =
      .ok (String.ofList part) := by
    refine extract_append (c := tail) ?_
    rw [h.text, List.append_assoc _ piece, ← htail, List.append_assoc _ part]
  have hle : byteLength (before ++ lead) ≤ byteLength (before ++ lead ++ part) := by simp
  rw [h.span_eq, widthOnLine, hstop, Nat.min_eq_left hle, hextract]
  simp [htrim, firstLine]

end SourceFile.Holds

/-- A span of a file with its snippet. The line starts at `start`, what comes before the span in it
is `lead`, the line itself is `line`, its newline included, and the span covers `piece`. -/
structure SourceFile.Shows (f : SourceFile) (s : Span) (start : Nat) (lead line piece : List Char)
    (sn : Snippet) : Prop where
  start_eq : f.lineStart? (s.line - 1) = some start
  start_le : start ≤ s.start
  lt_next : ∀ next ∈ f.lineStart? s.line, s.start < next
  lead_eq : sliceBytes? start s.start f.content.toList = some lead
  column_eq : s.column = lead.length + 1
  line_eq : sliceBytes? start ((f.lineStart? s.line).getD f.size) f.content.toList = some line
  piece_eq : sliceBytes? s.start s.stop f.content.toList = some piece
  snippet_eq : f.snippet? s = some sn
  shown_line : sn.line = String.ofList (trimLineEnd line)
  one_line : '\n' ∉ sn.line.toList
  start_column : sn.startColumn = s.column
  stop_column : sn.stopColumn = s.column + (firstLine piece).length
  shown_piece : firstLine piece ≠ [] →
    (sn.line.toList.drop (sn.startColumn - 1)).take (sn.stopColumn - sn.startColumn) =
      firstLine piece
  carets : sn.Underlines sn.startColumn
    (if firstLine piece = [] then sn.startColumn + 1 else sn.stopColumn)

/-- The line and the column of the span are those of the file, and its snippet shows it. -/
def SourceFile.Places (f : SourceFile) (s : Span) : Prop :=
  1 ≤ s.line ∧ s.line ≤ f.lineCount ∧ ∃ start lead line piece sn, f.Shows s start lead line piece sn

theorem Snippet.underlines_firstLine {s : Snippet} {piece : List Char} (hlabel : s.label = none)
    (hstart : 1 ≤ s.startColumn) (hstop : s.stopColumn = s.startColumn + (firstLine piece).length) :
    s.Underlines s.startColumn
      (if firstLine piece = [] then s.startColumn + 1 else s.stopColumn) := by
  have h := underlines_format hlabel hstart
  rw [carets, hstop, Nat.add_sub_cancel_left] at h
  by_cases hp : firstLine piece = []
  · rw [if_pos hp]
    simpa [hp] using h
  · have hpos := List.length_pos_iff.2 hp
    rw [if_neg hp, hstop]
    rwa [Nat.max_eq_left hpos] at h

namespace SourceFile

variable {f : SourceFile}

theorem HasLine.count_lt {before line after : List Char} (h : f.HasLine before line after) :
    before.count '\n' < f.lineCount := by
  rw [lineCount_eq, h.text, List.append_assoc, List.count_append]
  omega

theorem Holds.snippet?_eq {before lead piece rest after : List Char}
    (h : f.Holds before lead piece rest after) :
    f.snippet? (.covering (before ++ lead) piece) = some
      { line := String.ofList (trimLineEnd (lead ++ (piece ++ rest).takeWhile (· != '\n')))
        lineNumber := before.count '\n' + 1
        startColumn := lead.length + 1
        stopColumn := lead.length + 1 + (firstLine piece).length
        label := none } := by
  have hwidth := h.widthOnLine_eq
  rw [h.span_eq] at hwidth ⊢
  rw [snippet?, h.line.lineAt?_eq, hwidth]
  rfl

theorem Holds.shows {before lead piece rest after : List Char}
    (h : f.Holds before lead piece rest after) :
    ∃ sn, f.Shows (.covering (before ++ lead) piece) (byteLength before) lead
      (lead ++ (piece ++ rest).takeWhile (· != '\n') ++ after.take 1) piece sn := by
  have hlead : f.content.toList = before ++ lead ++ (piece ++ rest) := by
    rw [h.text, List.append_assoc]
  have hsnippet := h.snippet?_eq
  rw [h.span_eq] at hsnippet ⊢
  refine ⟨_, h.line.lineStart?_eq, by simp, ?_, ?_, rfl, ?_, ?_, hsnippet, ?_, ?_, rfl, rfl, ?_, ?_⟩
  · intro next hnext
    rw [h.line.lineStart?_succ] at hnext
    split at hnext
    · exact absurd hnext (by simp)
    · obtain rfl := Option.some.inj hnext
      simp only [byteLength_append]
      omega
  · rw [hlead]
    exact sliceBytes?_append _ _ _
  · rw [h.line.lineEnd_eq]
    exact h.line.slice_eq
  · rw [h.text]
    exact sliceBytes?_append _ _ _
  · rw [h.line.trimLineEnd_eq]
  · rw [String.toList_ofList]
    exact fun hmem => h.line.inside ((trimLineEnd_isPrefix _).subset hmem)
  · intro hne
    simpa using firstLine_eq hne
  · exact Snippet.underlines_firstLine rfl (Nat.le_add_left _ _) rfl

theorem Holds.places {before lead piece rest after : List Char}
    (h : f.Holds before lead piece rest after) : f.Places (.covering (before ++ lead) piece) := by
  obtain ⟨sn, hsn⟩ := h.shows
  have hcount := h.line.count_lt
  have hline : (Span.covering (before ++ lead) piece).line = before.count '\n' + 1 := by rw [h.span_eq]
  exact ⟨by omega, by omega, _, _, _, _, sn, hsn⟩

theorem places_covering {a piece rest : List Char} (h : f.content.toList = a ++ piece ++ rest) :
    f.Places (.covering a piece) := by
  obtain ⟨before, lead, after, rfl, hholds⟩ := exists_holds h
  exact hholds.places

/-- Just the lines of the file can be shown. -/
theorem isSome_snippet?_iff (f : SourceFile) (s : Span) :
    (f.snippet? s).isSome = true ↔ 1 ≤ s.line ∧ s.line ≤ f.lineCount := by
  rw [snippet?, Option.isSome_map]
  constructor
  · intro h
    cases hl : s.line with
    | zero => simp [lineAt?, hl] at h
    | succ n =>
      rw [hl, lineAt?, Option.isSome_map, isSome_getElem?, length_splitAtChar] at h
      rw [lineCount_eq]
      omega
  · rintro ⟨hpos, hle⟩
    obtain ⟨before, line, after, hline, hcount⟩ := f.exists_hasLine_of_lt (n := s.line - 1) (by omega)
    have hat := hline.lineAt?_eq
    rw [hcount, Nat.sub_add_cancel hpos] at hat
    rw [hat]
    rfl

/-- Whatever the span, the line that is shown is cut out of the text at the offsets of lines. -/
theorem exists_slice_of_snippet? {s : Span} {sn : Snippet} (h : f.snippet? s = some sn) :
    ∃ start line, f.lineStart? (s.line - 1) = some start ∧
      sliceBytes? start ((f.lineStart? s.line).getD f.size) f.content.toList = some line ∧
      sn.line = String.ofList (trimLineEnd line) := by
  obtain ⟨hpos, hle⟩ := (f.isSome_snippet?_iff s).1 (by rw [h]; rfl)
  obtain ⟨before, line, after, hline, hcount⟩ := f.exists_hasLine_of_lt (n := s.line - 1) (by omega)
  have hat := hline.lineAt?_eq
  have hend := hline.lineEnd_eq
  rw [hcount, Nat.sub_add_cancel hpos] at hat hend
  refine ⟨byteLength before, line ++ after.take 1, hcount ▸ hline.lineStart?_eq, ?_, ?_⟩
  · rw [hend]
    exact hline.slice_eq
  · rw [snippet?, hat] at h
    rw [← Option.some.inj h, hline.trimLineEnd_eq]

end SourceFile

/-- Messages about a source point at what they are about. The last two fields hold of all spans,
whether they fit the file or not. -/
structure Underlining (resync : Bool) (name source : String) : Prop where
  tokens : ∀ t ∈ (lex resync source).tokens, (SourceFile.mk name source).Places t.span
  diagnostics : ∀ d ∈ (lex resync source).diagnostics, (SourceFile.mk name source).Places d.span
  isSome_iff : ∀ (f : SourceFile) (s : Span),
    (f.snippet? s).isSome = true ↔ 1 ≤ s.line ∧ s.line ≤ f.lineCount
  slice : ∀ (f : SourceFile) (s : Span) (sn : Snippet), f.snippet? s = some sn →
    ∃ start line, f.lineStart? (s.line - 1) = some start ∧
      sliceBytes? start ((f.lineStart? s.line).getD f.size) f.content.toList = some line ∧
      sn.line = String.ofList (trimLineEnd line)

theorem places_of_mem_lex {resync : Bool} {name source : String} {t : Token}
    (h : t ∈ (lex resync source).tokens) : (SourceFile.mk name source).Places t.span := by
  obtain ⟨b, piece, a, e, -, -, hspan⟩ := (tiles_lex resync source).exists_split h
  rw [hspan]
  exact SourceFile.places_covering e

theorem places_of_mem_unclosed {resync : Bool} {name source : String} {d : Diagnostic}
    (h : d ∈ (lex resync source).final.unclosed) : (SourceFile.mk name source).Places d.span := by
  have hfinal : Scan.Reachable resync source (lex resync source).final := Scan.reaches_final_run
  have hclose := Scan.close_unclosed hfinal Scan.ahead_final_run
  have hspan : d.span = Span.covering source.toList [] := by
    rw [Diagnostic.Close] at hclose
    split at hclose
    · rw [show (lex resync source).final.unclosed = [] from hclose] at h
      exact absurd h List.not_mem_nil
    · obtain ⟨e, he, hwarns⟩ := hclose
      rw [show (lex resync source).final.unclosed = [e] from he] at h
      rw [List.mem_singleton.1 h, hwarns.span, ← byteLength_toList, Span.covering, List.append_nil,
        Span.point]
  have hall : (SourceFile.mk name source).content.toList = source.toList ++ [] ++ [] := by simp
  rw [hspan]
  exact SourceFile.places_covering hall

theorem lex_underlining (resync : Bool) (name source : String) : Underlining resync name source where
  tokens := fun _ ht => places_of_mem_lex ht
  diagnostics := by
    intro d hd
    obtain ⟨t, ht, m, rfl⟩ | hd := mem_diagnostics_lex hd
    · exact places_of_mem_lex ht
    · exact places_of_mem_unclosed hd
  isSome_iff := SourceFile.isSome_snippet?_iff
  slice := fun _ _ _ h => SourceFile.exists_slice_of_snippet? h

end ModalLexer
