import Mathlib.Algebra.GroupWithZero.Nat
import ModalLexer.Proofs.Lossless

/-!
The table of counts. Names are counted one by one, and the table is read back without a look at the
tokens; main result: it has a row for each kind that occurs, in the order of the first tokens, with
the number of its tokens, and a last row for all of them. The counts of the kinds start in one
column. The last one starts there too, unless there are tokens of no other kinds than the two whose
paths are shorter than the name of the last row.
-/

namespace ModalLexer.Dump

/-- The table counts the names: each that occurs, in the order in which they come up. -/
structure Counts (names : List String) (counts : List (String × Nat)) : Prop where
  mem : ∀ p, p ∈ counts.map Prod.fst ↔ p ∈ names
  ordered : (counts.map Prod.fst).Pairwise fun p q => names.idxOf p < names.idxOf q
  count : ∀ c ∈ counts, c.2 = names.count c.1
  sum : (counts.map Prod.snd).sum = names.length

variable {name : String} {names : List String} {counts : List (String × Nat)}

theorem map_fst_bump (name : String) (counts : List (String × Nat)) :
    (bump name counts).map Prod.fst =
      if name ∈ counts.map Prod.fst then counts.map Prod.fst else counts.map Prod.fst ++ [name] := by
  induction counts with
  | nil => rfl
  | cons c counts ih =>
    by_cases hc : c.1 = name
    · simp [bump, hc]
    · rw [bump, if_neg hc, List.map_cons, ih]
      by_cases hmem : name ∈ counts.map Prod.fst
      · simp [hmem]
      · simp [hmem, Ne.symm hc]

theorem sum_bump (name : String) (counts : List (String × Nat)) :
    ((bump name counts).map Prod.snd).sum = (counts.map Prod.snd).sum + 1 := by
  induction counts with
  | nil => rfl
  | cons c counts ih =>
    by_cases hc : c.1 = name
    · rw [bump, if_pos hc]
      simp only [List.map_cons, List.sum_cons]
      omega
    · rw [bump, if_neg hc]
      simp only [List.map_cons, List.sum_cons, ih]
      omega

theorem mem_bump {c : String × Nat} (hnodup : (counts.map Prod.fst).Nodup)
    (hc : c ∈ bump name counts) : (c.1 ≠ name ∧ c ∈ counts) ∨
      ∃ n, c = (name, n + 1) ∧ ((name, n) ∈ counts ∨ n = 0 ∧ name ∉ counts.map Prod.fst) := by
  induction counts with
  | nil => exact .inr ⟨0, List.mem_singleton.1 hc, .inr ⟨rfl, List.not_mem_nil⟩⟩
  | cons d counts ih =>
    obtain ⟨hd, hrest⟩ := List.nodup_cons.1 hnodup
    rw [bump] at hc
    split at hc
    · rename_i heq
      obtain rfl | hc := List.mem_cons.1 hc
      · exact .inr ⟨d.2, by rw [heq], .inl (heq ▸ List.mem_cons_self)⟩
      · refine .inl ⟨?_, List.mem_cons_of_mem _ hc⟩
        rintro rfl
        exact hd (heq ▸ List.mem_map_of_mem hc)
    · rename_i hne
      obtain rfl | hc := List.mem_cons.1 hc
      · exact .inl ⟨hne, List.mem_cons_self⟩
      · obtain ⟨hc, hmem⟩ | ⟨n, rfl, hmem | ⟨rfl, hmem⟩⟩ := ih hrest hc
        · exact .inl ⟨hc, List.mem_cons_of_mem _ hmem⟩
        · exact .inr ⟨n, rfl, .inl (List.mem_cons_of_mem _ hmem)⟩
        · refine .inr ⟨0, rfl, .inr ⟨rfl, fun h => ?_⟩⟩
          exact (List.mem_cons.1 h).elim (Ne.symm hne) hmem

theorem Counts.nodup (h : Counts names counts) : (counts.map Prod.fst).Nodup :=
  h.ordered.imp fun hlt heq => absurd (heq ▸ hlt) (Nat.lt_irrefl _)

theorem Counts.bump (h : Counts names counts) (name : String) :
    Counts (names ++ [name]) (bump name counts) where
  mem := by
    intro p
    rw [map_fst_bump]
    split
    · rename_i hmem
      rw [h.mem, List.mem_append, List.mem_singleton]
      exact ⟨.inl, fun hp => hp.elim id fun hp => hp ▸ (h.mem name).1 hmem⟩
    · rw [List.mem_append, List.mem_append, h.mem]
  ordered := by
    have hold : (counts.map Prod.fst).Pairwise
        fun p q => (names ++ [name]).idxOf p < (names ++ [name]).idxOf q := by
      refine h.ordered.imp_of_mem fun hp hq hlt => ?_
      rwa [List.idxOf_append_of_mem ((h.mem _).1 hp), List.idxOf_append_of_mem ((h.mem _).1 hq)]
    rw [map_fst_bump]
    split
    · exact hold
    · rename_i hmem
      refine List.pairwise_append.2 ⟨hold, List.pairwise_singleton _ _, fun p hp q hq => ?_⟩
      obtain rfl := List.mem_singleton.1 hq
      rw [List.idxOf_append_of_mem ((h.mem p).1 hp),
        List.idxOf_append_of_notMem (mt (h.mem _).2 hmem)]
      exact Nat.lt_add_right _ (List.idxOf_lt_length_of_mem ((h.mem p).1 hp))
  count := by
    intro c hc
    obtain ⟨hne, hc⟩ | ⟨n, rfl, hn | ⟨rfl, hn⟩⟩ := mem_bump h.nodup hc
    · rw [h.count c hc, List.count_append, List.count_singleton]
      simp [Ne.symm hne]
    · rw [List.count_append, ← h.count _ hn, List.count_singleton_self]
    · have hzero : names.count name = 0 := List.count_eq_zero.2 (mt (h.mem name).2 hn)
      simp [List.count_append, hzero]
  sum := by rw [sum_bump, h.sum, List.length_append, List.length_singleton]

theorem counts_tally (ts : List Token) : Counts (ts.map (·.kind.path)) (tally ts) := by
  induction ts using List.reverseRecOn with
  | nil => exact ⟨by simp [tally], .nil, by simp [tally], rfl⟩
  | append_singleton ts t ih =>
    rw [tally, List.foldl_append, ← tally, List.map_append]
    exact ih.bump t.kind.path

/-- What a row says, and how many characters stand before its count. -/
structure StatsRow where
  name : String
  count : Nat
  column : Nat
  deriving DecidableEq, Repr

/-- Reads a row: a name, spaces, and a number. -/
def readStatsRow? (cs : List Char) : Option StatsRow :=
  let digits := (cs.dropWhile (· != ' ')).dropWhile (· == ' ')
  (number? digits).map fun n =>
    ⟨String.ofList (cs.takeWhile (· != ' ')), n, cs.length - digits.length⟩

def readStats? (s : String) : Option (List StatsRow) :=
  let ls := splitAtChar '\n' s.toList
  if ls.getLast? = some [] then ls.dropLast.mapM readStatsRow? else none

def rowStem (width : Nat) (name : String) (n : Nat) : String :=
  alignLeft width name ++ "  " ++ decimal n

theorem toList_rowStem (width : Nat) (name : String) (n : Nat) : (rowStem width name n).toList =
    name.toList ++ (List.replicate (width - name.toList.length + 2) ' ' ++ (decimal n).toList) := by
  simp [rowStem, alignLeft, repeated, List.replicate_add]

theorem not_mem_newline_rowStem {name : String} (h : '\n' ∉ name.toList) (width n : Nat) :
    '\n' ∉ (rowStem width name n).toList := by
  have hnumber := not_mem_decimal (x := '\n') (by decide) n
  simp [toList_rowStem, h, hnumber]

/-- The count starts behind the longer of name and width, and two spaces. -/
theorem readStatsRow?_rowStem {name : String} (h : ' ' ∉ name.toList) (width n : Nat) :
    readStatsRow? (rowStem width name n).toList =
      some ⟨name, n, max width name.toList.length + 2⟩ := by
  have hname : ∀ x ∈ name.toList, (x != ' ') = true :=
    fun x hx => bne_iff_ne.2 (ne_of_mem_of_not_mem hx h)
  have hspaces : ∀ x ∈ List.replicate (width - name.toList.length + 2) ' ', (x == ' ') = true :=
    fun x hx => beq_iff_eq.2 (List.eq_of_mem_replicate hx)
  have hdigits : (decimal n).toList.dropWhile (· == ' ') = (decimal n).toList := by
    refine List.dropWhile_eq_self_iff.2 fun hpos => ?_
    have hdigit := not_mem_decimal (x := ' ') (by decide) n
    exact mt beq_iff_eq.1 fun he => hdigit (he ▸ List.getElem_mem hpos)
  have htake : (rowStem width name n).toList.takeWhile (· != ' ') = name.toList := by
    rw [toList_rowStem, List.takeWhile_append_of_pos hname, List.replicate_succ]
    simp
  have hdrop : ((rowStem width name n).toList.dropWhile (· != ' ')).dropWhile (· == ' ') =
      (decimal n).toList := by
    rw [toList_rowStem, List.dropWhile_append_of_pos hname, List.replicate_succ, List.cons_append,
      List.dropWhile_cons_of_neg (by simp), ← List.cons_append, ← List.replicate_succ,
      List.dropWhile_append_of_pos hspaces, hdigits]
  have hnumber : number? (decimal n).toList = some n := by
    rw [decimal, String.toList_ofList, number?_toDigits]
  have hcolumn : (rowStem width name n).toList.length - (decimal n).toList.length =
      max width name.toList.length + 2 := by
    rw [toList_rowStem, List.length_append, List.length_append, List.length_replicate]
    omega
  rw [readStatsRow?, htake, hdrop, hnumber, String.ofList_toList]
  simp only [Option.map_some, hcolumn]

theorem mapM_eq_some_map {α β : Type} {f : α → Option β} {g : α → β} {l : List α}
    (h : ∀ x ∈ l, f x = some (g x)) : l.mapM f = some (l.map g) := by
  induction l with
  | nil => rfl
  | cons x l ih =>
    obtain ⟨hx, hl⟩ := List.forall_mem_cons.1 h
    rw [List.mapM_cons, hx, ih hl]
    rfl

theorem readStats?_join {width : Nat}
    (h : ∀ c ∈ counts, ' ' ∉ c.1.toList ∧ '\n' ∉ c.1.toList) :
    readStats? (String.join (counts.map fun c => row width c.1 c.2)) =
      some (counts.map fun c => ⟨c.1, c.2, max width c.1.toList.length + 2⟩) := by
  have hlines : counts.map (fun c => row width c.1 c.2) =
      (counts.map fun c => rowStem width c.1 c.2).map (· ++ "\n") := by
    rw [List.map_map]
    rfl
  have hnewline : ∀ l ∈ counts.map fun c => rowStem width c.1 c.2, '\n' ∉ l.toList := by
    rw [List.forall_mem_map]
    exact fun c hc => not_mem_newline_rowStem (h c hc).2 _ _
  have hrows : ∀ c ∈ counts, readStatsRow? (rowStem width c.1 c.2).toList =
      some ⟨c.1, c.2, max width c.1.toList.length + 2⟩ :=
    fun c hc => readStatsRow?_rowStem (h c hc).1 _ _
  rw [readStats?, hlines, splitAtChar_join hnewline, List.map_map]
  simp only [List.getLast?_concat, List.dropLast_concat, if_true]
  rw [List.mapM_map]
  exact mapM_eq_some_map hrows

theorem stats_eq (ts : List Token) : stats ts =
    String.join ((tally ts ++ [("total", ts.length)]).map fun c =>
      row (nameWidth (tally ts)) c.1 c.2) := by
  simp [stats]

theorem exists_of_mem_tally {ts : List Token} {c : String × Nat} (hc : c ∈ tally ts) :
    ∃ t ∈ ts, t.kind.path = c.1 :=
  List.mem_map.1 (((counts_tally ts).mem c.1).1 (List.mem_map_of_mem hc))

theorem le_nameWidth {c : String × Nat} (hc : c ∈ counts) :
    c.1.toList.length ≤ nameWidth counts :=
  List.le_max?_getD_of_mem (List.mem_map_of_mem (f := (·.1.toList.length)) hc)

theorem le_nameWidth_iff {n : Nat} (hn : 0 < n) :
    n ≤ nameWidth counts ↔ ∃ c ∈ counts, n ≤ c.1.toList.length := by
  constructor
  · intro hle
    unfold nameWidth at hle
    cases hmax : (counts.map (·.1.toList.length)).max? with
    | none =>
      rw [hmax] at hle
      exact absurd hle (Nat.not_le.2 hn)
    | some m =>
      rw [hmax] at hle
      obtain ⟨c, hc, rfl⟩ := List.mem_map.1 (List.max?_mem hmax)
      exact ⟨c, hc, hle⟩
  · rintro ⟨c, hc, hle⟩
    exact Nat.le_trans hle (le_nameWidth hc)

theorem readStats?_stats (ts : List Token) : readStats? (stats ts) =
    some ((tally ts).map (fun c => ⟨c.1, c.2, nameWidth (tally ts) + 2⟩) ++
      [⟨"total", ts.length, max (nameWidth (tally ts)) 5 + 2⟩]) := by
  have hplain : ∀ c ∈ tally ts ++ [("total", ts.length)],
      ' ' ∉ c.1.toList ∧ '\n' ∉ c.1.toList := by
    refine List.forall_mem_append.2 ⟨fun c hc => ?_, by simp⟩
    obtain ⟨t, -, ht⟩ := exists_of_mem_tally hc
    exact ht ▸ ⟨not_mem_path (by decide) t.kind, not_mem_path (by decide) t.kind⟩
  have hwidth : ∀ c ∈ tally ts, (⟨c.1, c.2, max (nameWidth (tally ts)) c.1.toList.length + 2⟩ :
      StatsRow) = ⟨c.1, c.2, nameWidth (tally ts) + 2⟩ := by
    intro c hc
    rw [Nat.max_eq_left (le_nameWidth hc)]
  have htotal : "total".toList.length = 5 := by decide
  rw [stats_eq, readStats?_join hplain, List.map_append, List.map_congr_left hwidth,
    List.map_singleton, htotal]

def Aligned (rows : List StatsRow) : Prop := ∃ column, ∀ r ∈ rows, r.column = column

/-- A table says of tokens how often each kind occurs, in the order in which the kinds come up. Its
last count, that of all tokens, starts below the others or one column further on. -/
structure Tabulates (ts : List Token) (s : String) (rows : List StatsRow) (total : StatsRow) :
    Prop where
  read : readStats? s = some (rows ++ [total])
  mem : ∀ p, p ∈ rows.map (·.name) ↔ ∃ t ∈ ts, t.kind.path = p
  ordered : rows.Pairwise fun r r' =>
    (ts.map (·.kind.path)).idxOf r.name < (ts.map (·.kind.path)).idxOf r'.name
  count : ∀ r ∈ rows, r.count = ts.countP (·.kind.path == r.name)
  last : total.name = "total"
  length : total.count = ts.length
  sum : total.count = (rows.map (·.count)).sum
  aligned : Aligned rows
  near : ∀ r ∈ rows, total.column = r.column ∨ total.column = r.column + 1

/-- Two kinds have a path that is shorter than the name of the last row, by one character. -/
theorem length_path_cases (k : TokenKind) : 4 ≤ k.path.toList.length ∧
    (5 ≤ k.path.toList.length ↔ k ≠ .name ∧ k ≠ .text) := by
  have hall : ∀ k ∈ TokenKind.all, 4 ≤ k.path.toList.length ∧
      (5 ≤ k.path.toList.length ↔ k ≠ .name ∧ k ≠ .text) := by decide
  exact hall k k.mem_all

theorem five_le_nameWidth_iff (ts : List Token) :
    5 ≤ nameWidth (tally ts) ↔ ∃ t ∈ ts, t.kind ≠ .name ∧ t.kind ≠ .text := by
  rw [le_nameWidth_iff (by decide)]
  constructor
  · rintro ⟨c, hc, hle⟩
    obtain ⟨t, ht, hpath⟩ := exists_of_mem_tally hc
    exact ⟨t, ht, (length_path_cases t.kind).2.1 (hpath ▸ hle)⟩
  · rintro ⟨t, ht, hkind⟩
    have hmem := ((counts_tally ts).mem t.kind.path).2 (List.mem_map_of_mem ht)
    obtain ⟨c, hc, hpath⟩ := List.mem_map.1 hmem
    exact ⟨c, hc, hpath ▸ (length_path_cases t.kind).2.2 hkind⟩

theorem tabulates_stats (ts : List Token) : Tabulates ts (stats ts)
    ((tally ts).map fun c => ⟨c.1, c.2, nameWidth (tally ts) + 2⟩)
    ⟨"total", ts.length, max (nameWidth (tally ts)) 5 + 2⟩ where
  read := readStats?_stats ts
  mem := by
    intro p
    rw [List.map_map]
    exact ((counts_tally ts).mem p).trans List.mem_map
  ordered := by
    have hnames := (counts_tally ts).ordered
    rw [List.pairwise_map] at hnames ⊢
    exact hnames
  count := by
    rw [List.forall_mem_map]
    intro c hc
    rw [(counts_tally ts).count c hc, List.count, List.countP_map]
    rfl
  last := rfl
  length := rfl
  sum := by
    rw [List.map_map, ← List.length_map (f := (·.kind.path)), ← (counts_tally ts).sum]
    rfl
  aligned := by
    refine ⟨nameWidth (tally ts) + 2, ?_⟩
    rw [List.forall_mem_map]
    exact fun _ _ => rfl
  near := by
    rw [List.forall_mem_map]
    intro c hc
    obtain ⟨t, -, hpath⟩ := exists_of_mem_tally hc
    have hfour := hpath ▸ (length_path_cases t.kind).1
    have hwidth := Nat.le_trans hfour (le_nameWidth hc)
    dsimp only
    omega

/-- The last count is where the others are just if some path is as wide as its name. -/
theorem Tabulates.aligned_iff {ts : List Token} {rows : List StatsRow} {total : StatsRow}
    (h : Tabulates ts (stats ts) rows total) :
    Aligned (rows ++ [total]) ↔ ts = [] ∨ ∃ t ∈ ts, t.kind ≠ .name ∧ t.kind ≠ .text := by
  rw [← five_le_nameWidth_iff, ← Option.some.inj ((readStats?_stats ts).symm.trans h.read)]
  constructor
  · rintro ⟨column, hcolumn⟩
    obtain ⟨hrows, htotal⟩ := List.forall_mem_append.1 hcolumn
    cases ts with
    | nil => exact .inl rfl
    | cons t ts =>
      have hmem := ((counts_tally (t :: ts)).mem t.kind.path).2 (by simp)
      obtain ⟨c, hc, -⟩ := List.mem_map.1 hmem
      have hrow := hrows _ (List.mem_map_of_mem hc)
      have hlast := htotal _ (List.mem_singleton_self _)
      dsimp only at hrow hlast
      exact .inr (by omega)
  · rintro (rfl | hwidth)
    · exact ⟨7, by simp [tally, nameWidth]⟩
    · refine ⟨nameWidth (tally ts) + 2, List.forall_mem_append.2 ⟨?_, ?_⟩⟩
      · rw [List.forall_mem_map]
        exact fun _ _ => rfl
      · rw [List.forall_mem_singleton, Nat.max_eq_left hwidth]

end ModalLexer.Dump

namespace ModalLexer.TokensCommand

variable {c : TokensCommand} {s : Settings} {format : DumpFormat}

theorem result_render_of_stats (source : String)
    (hformat : DumpFormat.named? (c.formatName s) = some format) (hstats : c.stats = true) :
    (c.render s source).result =
      .ok ⟨Dump.stats (c.listed s (lex s.newlineResync source).tokens),
        (lex s.newlineResync source).diagnostics⟩ := by
  simp [render, hformat, hstats]

/-- The counts of a listing are exact, and in one column unless only short kinds are listed. -/
theorem exists_tabulates (source : String)
    (hformat : DumpFormat.named? (c.formatName s) = some format) (hstats : c.stats = true) :
    let ts := c.listed s (lex s.newlineResync source).tokens
    ∃ listing rows total, (c.render s source).result = .ok listing ∧
      Dump.Tabulates ts listing.output rows total ∧
      (Dump.Aligned (rows ++ [total]) ↔ ts = [] ∨ ∃ t ∈ ts, t.kind ≠ .name ∧ t.kind ≠ .text) := by
  intro ts
  have htable := Dump.tabulates_stats ts
  exact ⟨_, _, _, result_render_of_stats source hformat hstats, htable, htable.aligned_iff⟩

/-- With the blanks between them, names are counted in one column with all tokens. -/
theorem exists_tabulates_blanks :
    let c : TokensCommand := ⟨"a.mlc", none, false, true⟩
    let ts := c.listed .standard (lex Settings.standard.newlineResync "f x y").tokens
    (DumpFormat.named? (c.formatName .standard) = some .text ∧ c.stats = true) ∧
      ∃ listing rows total, (c.render .standard "f x y").result = .ok listing ∧
        Dump.Tabulates ts listing.output rows total ∧ Dump.Aligned (rows ++ [total]) := by
  intro c ts
  have hformat : DumpFormat.named? (c.formatName .standard) = some .text := by decide
  obtain ⟨listing, rows, total, hresult, htable, haligned⟩ := exists_tabulates "f x y" hformat rfl
  have hwide : ∃ t ∈ ts, t.kind ≠ .name ∧ t.kind ≠ .text := by decide +kernel
  exact ⟨⟨hformat, rfl⟩, listing, rows, total, hresult, htable, haligned.2 (.inr hwide)⟩

/-- A name alone is counted one column before all tokens. -/
theorem not_aligned_name :
    let c : TokensCommand := ⟨"x.mlc", none, false, true⟩
    (DumpFormat.named? (c.formatName .standard) = some .text ∧ c.stats = true) ∧
      ∃ listing rows, (c.render .standard "x").result = .ok listing ∧
        listing.output = "Name  1\ntotal  1\n" ∧
        Dump.readStats? listing.output = some rows ∧ ¬Dump.Aligned rows := by
  intro c
  have hformat : DumpFormat.named? (c.formatName .standard) = some .text := by decide
  have houtput : Dump.stats (c.listed .standard (lex Settings.standard.newlineResync "x").tokens) =
      "Name  1\ntotal  1\n" := by
    decide +kernel
  have hread : Dump.readStats? "Name  1\ntotal  1\n" =
      some [⟨"Name", 1, 6⟩, ⟨"total", 1, 7⟩] := by
    decide +kernel
  refine ⟨⟨hformat, rfl⟩, _, _, result_render_of_stats "x" hformat rfl, houtput,
    houtput ▸ hread, ?_⟩
  rintro ⟨column, hcolumn⟩
  obtain ⟨hname, htotal⟩ := List.forall_mem_cons.1 hcolumn
  have hlast := htotal _ (List.mem_singleton_self _)
  exact absurd (hname.trans hlast.symm) (by decide)

end ModalLexer.TokensCommand
