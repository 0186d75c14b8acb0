import ModalLexer.Command.Tokens
import ModalLexer.Proofs.JsonReading
import ModalLexer.Proofs.Lines
import ModalLexer.Proofs.Partition

/-!
What the listing of the tokens of a source tells. Both formats are read back without a look at the
source: one line, or one object, for each token, and in it the place, the kind and the text. Since
tokens partition a source, nothing of it is lost.
-/

namespace ModalLexer

/-- What a dump tells of a token; only some formats tell the offsets of its first byte and of the
byte behind its last. -/
structure Dump.Row where
  line : Nat
  column : Nat
  kind : String
  text : String
  extent : Option (Nat × Nat)
  deriving DecidableEq, Repr

def DumpFormat.row (f : DumpFormat) (t : Token) : Dump.Row :=
  { line := t.span.line
    column := t.span.column
    kind := t.kind.path
    text := t.text
    extent :=
      match f with
      | text => none
      | json => some (t.span.start, t.span.stop) }

namespace Dump

def stem (t : Token) : String :=
  decimal t.span.line ++ ":" ++ decimal t.span.column ++ "\t" ++ t.kind.path ++ "\t" ++
    Quoted.encode t.text

/-- Reads a line: cut at the tabs, with the place cut at its colon. -/
def readLine? (cs : List Char) : Option Row :=
  match splitAtChar '\t' cs with
  | [place, kind, quoted] =>
    match splitAtChar ':' place with
    | [line, column] => do
      let text ← Quoted.read? quoted
      return ⟨← number? line, ← number? column, String.ofList kind, String.ofList text, none⟩
    | _ => none
  | _ => none

def readLines? (cs : List Char) : Option (List Row) :=
  let ls := splitAtChar '\n' cs
  if ls.getLast? = some [] then ls.dropLast.mapM readLine? else none

theorem not_mem_decimal {x : Char} (hx : x ∈ ['\t', '\n', ' ', ':']) (n : Nat) :
    x ∉ (decimal n).toList := by
  have hdigit : ∀ d < 10, Nat.digitChar d ∉ ['\t', '\n', ' ', ':'] := by decide
  rw [decimal, String.toList_ofList]
  intro hmem
  obtain ⟨d, hd, rfl⟩ := exists_digit_of_mem_toDigits (by decide) hmem
  exact hdigit d hd hx

theorem not_mem_path {x : Char} (hx : x ∈ ['\t', '\n', ' ']) (k : TokenKind) : x ∉ k.path.toList := by
  have hpath : TokenKind.all.all (fun k => k.path.toList.all (· ∉ ['\t', '\n', ' '])) = true := by
    decide
  intro hmem
  have hall := List.all_eq_true.1 (List.all_eq_true.1 hpath k k.mem_all) x hmem
  exact of_decide_eq_true hall hx

theorem not_mem_newline_stem (t : Token) : '\n' ∉ (stem t).toList := by
  have hnumber := not_mem_decimal (x := '\n') (by decide)
  have hpath := not_mem_path (x := '\n') (by decide) t.kind
  have hquoted := Quoted.not_mem_encode (.inr rfl) t.text
  simp [stem, hnumber, hpath, hquoted]

theorem splitAtChar_tab_stem (t : Token) : splitAtChar '\t' (stem t).toList =
    [(decimal t.span.line).toList ++ ':' :: (decimal t.span.column).toList, t.kind.path.toList,
      (Quoted.encode t.text).toList] := by
  have hnumber := not_mem_decimal (x := '\t') (by decide)
  have hplace : '\t' ∉ (decimal t.span.line).toList ++ ':' :: (decimal t.span.column).toList := by
    simp [hnumber]
  have hpath := not_mem_path (x := '\t') (by decide) t.kind
  have hquoted := Quoted.not_mem_encode (.inl rfl) t.text
  have hstem : (stem t).toList =
      ((decimal t.span.line).toList ++ ':' :: (decimal t.span.column).toList) ++
        '\t' :: (t.kind.path.toList ++ '\t' :: (Quoted.encode t.text).toList) := by
    simp [stem]
  rw [hstem, splitAtChar_append_cons, splitAtChar_append_cons, splitAtChar_of_not_mem hplace,
    splitAtChar_of_not_mem hpath, splitAtChar_of_not_mem hquoted]
  rfl

theorem count_tab_stem (t : Token) : (stem t).toList.count '\t' = 2 := by
  have hlen := length_splitAtChar '\t' (stem t).toList
  rw [splitAtChar_tab_stem] at hlen
  simpa using hlen.symm

theorem readLine?_stem (t : Token) :
    readLine? (stem t).toList = some (DumpFormat.row .text t) := by
  have hcolon := not_mem_decimal (x := ':') (by decide)
  have hplace : splitAtChar ':' ((decimal t.span.line).toList ++
      ':' :: (decimal t.span.column).toList) =
      [(decimal t.span.line).toList, (decimal t.span.column).toList] := by
    rw [splitAtChar_append_cons, splitAtChar_of_not_mem (hcolon _),
      splitAtChar_of_not_mem (hcolon _)]
    rfl
  have hnumber : ∀ n, number? (decimal n).toList = some n := by
    intro n
    rw [decimal, String.toList_ofList, number?_toDigits]
  simp [readLine?, splitAtChar_tab_stem, hplace, Quoted.read?_encode, hnumber, DumpFormat.row]

theorem splitAtChar_newline_text (ts : List Token) :
    splitAtChar '\n' (text ts).toList = ts.map (fun t => (stem t).toList) ++ [[]] := by
  have hlines : text ts = String.join ((ts.map stem).map (· ++ "\n")) := by
    rw [List.map_map]
    rfl
  have hnewline : ∀ l ∈ ts.map stem, '\n' ∉ l.toList := by
    simpa using fun t _ => not_mem_newline_stem t
  rw [hlines, splitAtChar_join hnewline, List.map_map]
  rfl

def members (t : Token) : Json.Members :=
  [("kind", .string t.kind.path), ("text", .string t.text), ("start", .number t.span.start),
    ("end", .number t.span.stop), ("line", .number t.span.line), ("column", .number t.span.column)]

theorem record_eq (t : Token) : record t = Json.object (members t) := rfl

def numberOf? (ms : Json.Members) (name : String) : Option Nat :=
  match ms.lookup name with
  | some (.number n) => some n
  | _ => none

def stringOf? (ms : Json.Members) (name : String) : Option String :=
  match ms.lookup name with
  | some (.string s) => some s
  | _ => none

/-- Reads an object, whatever the order of its members. -/
def readObject? (ms : Json.Members) : Option Row := do
  let extent := (← numberOf? ms "start", ← numberOf? ms "end")
  return ⟨← numberOf? ms "line", ← numberOf? ms "column", ← stringOf? ms "kind",
    ← stringOf? ms "text", some extent⟩

theorem readObject?_members (t : Token) :
    readObject? (members t) = some (DumpFormat.row .json t) := rfl

theorem read?_json (ts : List Token) : Json.read? (json ts) = some (ts.map members) := by
  cases ts with
  | nil => exact Json.read?_nil
  | cons t ts =>
    have hrecord : record = Json.object ∘ members := funext record_eq
    have hmembers : ∀ ms ∈ (t :: ts).map members, ms ≠ [] := by simp [members]
    have hread := Json.read?_objects (by simp) hmembers
    rwa [List.map_map, ← hrecord] at hread

end Dump

namespace DumpFormat

open Dump

def read? (f : DumpFormat) (s : String) : Option (List Row) :=
  match f with
  | text => readLines? s.toList
  | json => (Json.read? s).bind (·.mapM readObject?)

/-- A dump tells of each of its tokens all that its format tells, and of nothing else. -/
theorem read?_render (f : DumpFormat) (ts : List Token) :
    f.read? (f.render ts) = some (ts.map f.row) := by
  cases f with
  | text =>
    have hline : (readLine? ∘ fun t => (stem t).toList) = fun t => some (text.row t) :=
      funext fun t => by rw [Function.comp_apply, readLine?_stem]
    have hread : (ts.map fun t => (stem t).toList).mapM readLine? = some (ts.map text.row) := by
      rw [List.mapM_map, hline]
      exact List.mapM_pure
    rw [read?, render, readLines?, splitAtChar_newline_text]
    simpa using hread
  | json =>
    have hobject : readObject? ∘ members = fun t => some (json.row t) :=
      funext fun t => by rw [Function.comp_apply, readObject?_members]
    rw [read?, render, read?_json, Option.bind_some, List.mapM_map, hobject]
    exact List.mapM_pure

end DumpFormat

theorem TokenKind.path_eq_whitespace {k : TokenKind} :
    k.path = "Text.Whitespace" ↔ k = .whitespace := by
  have hall : ∀ k ∈ all, k.path = "Text.Whitespace" ↔ k = whitespace := by decide
  exact hall k k.mem_all

theorem Tiles.join_text {before ahead : List Char} {ts : List Token} (h : Tiles before ahead ts) :
    String.join (ts.map Token.text) = String.ofList ahead := by
  induction h with
  | nil => rfl
  | cons hp ht hs _ ih => rw [List.map_cons, String.join_cons, ih, ht, String.ofList_append]

namespace TokensCommand

/-- The command lists the tokens of a source in a format. -/
structure Lists (c : TokensCommand) (s : Settings) (source : String) (format : DumpFormat)
    (listing : Listing) : Prop where
  format : DumpFormat.named? (c.formatName s) = some format
  stats : c.stats = false
  result : (c.render s source).result = .ok listing

/-- What the output of a listing tells, with no look at the source: all that the format tells of
each token. With the whitespace the texts make up the source, so that no other source has this
output, whatever the command and its settings. Without it, the output tells what a full listing
tells of the other tokens. -/
structure Lossless (c : TokensCommand) (s : Settings) (source : String) (format : DumpFormat)
    (listing : Listing) : Prop where
  read : format.read? listing.output =
    some ((c.listed s (lex s.newlineResync source).tokens).map format.row)
  lines : format = .text → ∃ ls : List String,
    ls.length = (c.listed s (lex s.newlineResync source).tokens).length ∧
    listing.output = String.join (ls.map (· ++ "\n")) ∧
    ∀ l ∈ ls, '\n' ∉ l.toList ∧ l.toList.count '\t' = 2
  whole : c.skipsWhitespace s = false → ∃ rows, format.read? listing.output = some rows ∧
    String.join (rows.map (·.text)) = source
  distinct : c.skipsWhitespace s = false → ∀ c' s' source' listing',
    Lists c' s' source' format listing' → c'.skipsWhitespace s' = false →
    listing'.output = listing.output → source' = source
  skipping : c.skipsWhitespace s = true → ∀ c' s' full, Lists c' s' source format full →
    c'.skipsWhitespace s' = false → s'.newlineResync = s.newlineResync →
    listing.diagnostics = full.diagnostics ∧ ∃ rows, format.read? full.output = some rows ∧
      format.read? listing.output = some (rows.filter (·.kind ≠ "Text.Whitespace"))

variable {c : TokensCommand} {s : Settings} {source : String} {format : DumpFormat}
  {listing : Listing}

theorem Lists.eq (h : Lists c s source format listing) :
    listing = ⟨format.render (c.listed s (lex s.newlineResync source).tokens),
      (lex s.newlineResync source).diagnostics⟩ := by
  have hresult := h.result
  simp only [render, h.format, h.stats, Except.ok.injEq] at hresult
  simpa using hresult.symm

theorem Lists.read (h : Lists c s source format listing) : format.read? listing.output =
    some ((c.listed s (lex s.newlineResync source).tokens).map format.row) := by
  rw [h.eq, DumpFormat.read?_render]

theorem listed_eq_self (h : c.skipsWhitespace s = false) (ts : List Token) : c.listed s ts = ts := by
  simp [listed, h]

theorem Lists.join_text (h : Lists c s source format listing) (hc : c.skipsWhitespace s = false) :
    ∃ rows, format.read? listing.output = some rows ∧ String.join (rows.map (·.text)) = source := by
  refine ⟨_, h.read, ?_⟩
  have htexts : ((lex s.newlineResync source).tokens.map format.row).map (·.text) =
      (lex s.newlineResync source).tokens.map Token.text := by
    simp [DumpFormat.row, Function.comp_def]
  rw [listed_eq_self hc, htexts, (tiles_lex s.newlineResync source).join_text, String.ofList_toList]

theorem map_row_listed (hc : c.skipsWhitespace s = true) (ts : List Token) :
    (c.listed s ts).map format.row =
      (ts.map format.row).filter (·.kind ≠ "Text.Whitespace") := by
  rw [List.filter_map]
  congr 1
  refine List.filter_congr fun t _ => ?_
  simp [hc, DumpFormat.row, TokenKind.path_eq_whitespace, beq_eq_decide]

theorem Lists.lossless (h : Lists c s source format listing) :
    Lossless c s source format listing where
  read := h.read
  lines := by
    rintro rfl
    refine ⟨(c.listed s (lex s.newlineResync source).tokens).map Dump.stem, by simp, ?_, ?_⟩
    · rw [h.eq, List.map_map]
      rfl
    · intro l hl
      obtain ⟨t, -, rfl⟩ := List.mem_map.1 hl
      exact ⟨Dump.not_mem_newline_stem t, Dump.count_tab_stem t⟩
  whole := h.join_text
  distinct := by
    intro hc c' s' source' listing' h' hc' houtput
    obtain ⟨rows, hrows, hsource⟩ := h.join_text hc
    obtain ⟨rows', hrows', hsource'⟩ := h'.join_text hc'
    rw [houtput, hrows, Option.some.injEq] at hrows'
    rw [← hsource', ← hsource, hrows']
  skipping := by
    intro hc c' s' full hfull hc' hresync
    refine ⟨?_, _, hfull.read, ?_⟩
    · rw [h.eq, hfull.eq, hresync]
    · rw [h.read, map_row_listed hc, listed_eq_self hc', hresync]

theorem render_lossless (c : TokensCommand) (s : Settings) (source : String) {format : DumpFormat}
    (hformat : DumpFormat.named? (c.formatName s) = some format) (hstats : c.stats = false) :
    ∃ listing, (c.render s source).result = .ok listing ∧
      Lossless c s source format listing := by
  have hrender : (c.render s source).result =
      .ok ⟨format.render (c.listed s (lex s.newlineResync source).tokens),
        (lex s.newlineResync source).diagnostics⟩ := by
    simp [render, hformat, hstats]
  exact ⟨_, hrender, Lists.lossless ⟨hformat, hstats, hrender⟩⟩

/-- A tab in a string, listed as the standard settings have it. -/
theorem render_lossless_standard :
    DumpFormat.named? (formatName ⟨"main.loc", none, false, false⟩ .standard) = some .text ∧
      ∃ listing, (render ⟨"main.loc", none, false, false⟩ .standard "x = \"\t\"\n").result =
          .ok listing ∧
        Lossless ⟨"main.loc", none, false, false⟩ .standard "x = \"\t\"\n" .text listing :=
  ⟨by decide, render_lossless _ _ _ (by decide) rfl⟩

end TokensCommand
end ModalLexer
