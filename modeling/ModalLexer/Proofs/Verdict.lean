import ModalLexer.Command.Line
import ModalLexer.Proofs.Ledger

/-!
What a check of files comes to. Reports are made from the messages that were collected while a file
was read; main result: they say just what the tokens and the last stack say, file by file in the
order of the arguments, and the check fails with the number of files that are not sound, or with a
file that is not to be read.
-/

namespace ModalLexer

open Diagnostic

namespace Scan

variable {resync : Bool} {source : String} {s : Scan}

theorem answers_step (h : Reachable resync source s) (hne : s.cursor.ahead ≠ []) :
    List.Forall₂ (Answers resync source) ((s.step resync).tokens.filter Token.isError)
      (s.step resync).diagnostics := by
  rw [step, diagnostics_perform, ← step]
  refine List.forall₂_map_right_iff.2 (List.forall₂_same.2 fun t ht => ?_)
  obtain ⟨ht, he⟩ := List.mem_filter.1 ht
  exact ⟨s.modes.top, ⟨s, h, hne, tokens_step_of_isError resync ht he, rfl⟩, t.blames_complaint _⟩

/-- A run reports its error tokens, each of them once and in order. -/
theorem answers_run (h : Reachable resync source s) :
    List.Forall₂ (Answers resync source) ((s.run resync).tokens.filter Token.isError)
      (s.run resync).diagnostics := by
  fun_induction run resync s with
  | case1 s hs => exact .nil
  | case2 s hs ih =>
    rw [Run.after, List.filter_append]
    exact List.rel_append (answers_step h hs) (ih (h.tail hs))

end Scan

section

variable {resync : Bool} {source : String}

theorem exists_diagnostics_lex (resync : Bool) (source : String) : ∃ errors warnings,
    (lex resync source).diagnostics = errors ++ warnings ∧
      List.Forall₂ (Answers resync source)
        ((lex resync source).tokens.filter Token.isError) errors ∧
      Close source (lex resync source).final.modes warnings := by
  have hwarnings :
      Close source (lex resync source).final.modes (lex resync source).final.unclosed :=
    Scan.close_unclosed Scan.reaches_final_run Scan.ahead_final_run
  exact ⟨_, _, rfl, Scan.answers_run .refl, hwarnings⟩

theorem spans_of_answers {ts : List Token} {ds : List Diagnostic}
    (h : List.Forall₂ (Answers resync source) ts ds) : ds.map (·.span) = ts.map (·.span) := by
  induction h with
  | nil => rfl
  | cons hd _ ih =>
    obtain ⟨m, -, hblames⟩ := hd
    rw [List.map_cons, List.map_cons, hblames.span, ih]

theorem levels_of_answers {ts : List Token} {ds : List Diagnostic}
    (h : List.Forall₂ (Answers resync source) ts ds) : ∀ d ∈ ds, d.level = .error := by
  induction h with
  | nil => simp
  | cons hd _ ih =>
    obtain ⟨m, -, hblames⟩ := hd
    exact List.forall_mem_cons.2 ⟨hblames.level, ih⟩

theorem counts_of_answers {ts : List Token} {ds : List Diagnostic}
    (h : List.Forall₂ (Answers resync source) ts ds) :
    ds.countP (·.level == .error) = ts.length ∧ ds.countP (·.level == .warning) = 0 := by
  have hlevels := levels_of_answers h
  refine ⟨?_, List.countP_eq_zero.2 fun d hd => by simp [hlevels d hd]⟩
  rw [h.length_eq]
  exact List.countP_eq_length.2 fun d hd => by simp [hlevels d hd]

theorem counts_of_close {S : ModeStack} {ds : List Diagnostic} (h : Close source S ds) :
    ds.countP (·.level == .error) = 0 ∧ ds.countP (·.level == .warning) = ds.length ∧
      ds.length = if S = .base then 0 else 1 := by
  by_cases hb : S = .base
  · rw [Close, if_pos hb] at h
    simp [h, hb]
  · rw [Close, if_neg hb] at h
    obtain ⟨d, rfl, hd⟩ := h
    simp [hd.level, hb]

theorem counts_lex (resync : Bool) (source : String) :
    let ds : Diagnostics := ⟨(lex resync source).diagnostics⟩
    ds.errorCount = (lex resync source).tokens.countP Token.isError ∧
      ds.warningCount = (if (lex resync source).final.modes = .base then 0 else 1) ∧
      ds.reported.length = ds.errorCount + ds.warningCount := by
  obtain ⟨errors, warnings, e, herrors, hwarnings⟩ := exists_diagnostics_lex resync source
  obtain ⟨herror, hnone⟩ := counts_of_answers herrors
  obtain ⟨hnone', hwarning, hone⟩ := counts_of_close hwarnings
  have hlength := herrors.length_eq
  simp only [Diagnostics.errorCount, Diagnostics.warningCount, Diagnostics.countAt, e,
    List.countP_append, List.length_append, herror, hnone, hnone', hwarning,
    List.countP_eq_length_filter (p := Token.isError)]
  omega

/-- The messages are in the order of the places that they are about. -/
theorem pairwise_diagnostics_lex (resync : Bool) (source : String) :
    (lex resync source).diagnostics.Pairwise fun d e => d.span.start < e.span.start := by
  obtain ⟨errors, warnings, e, herrors, hwarnings⟩ := exists_diagnostics_lex resync source
  have htiles := tiles_lex resync source
  have hspans := spans_of_answers herrors
  have hordered : errors.Pairwise fun d e => d.span.start < e.span.start := by
    have htokens : ((lex resync source).tokens.filter Token.isError).Pairwise
        fun t u => t.span.start < u.span.start := htiles.pairwise_start.sublist List.filter_sublist
    have hmap := List.pairwise_map (f := Token.span) (R := fun a b => a.start < b.start).2 htokens
    rw [← hspans] at hmap
    exact (List.pairwise_map (f := Diagnostic.span) (R := fun a b => a.start < b.start)).1 hmap
  have hlast : ∀ d ∈ errors, d.span.start < source.utf8ByteSize := by
    intro d hd
    have hmem := List.mem_map_of_mem (f := (·.span)) hd
    rw [hspans] at hmem
    obtain ⟨t, ht, hs⟩ := List.mem_map.1 hmem
    have hlt := htiles.start_lt (List.mem_filter.1 ht).1
    rw [hs, List.nil_append, byteLength_toList] at hlt
    exact hlt
  rw [e]
  unfold Close at hwarnings
  split at hwarnings
  · rw [hwarnings, List.append_nil]
    exact hordered
  · obtain ⟨d, rfl, hd⟩ := hwarnings
    refine List.pairwise_append.2 ⟨hordered, List.pairwise_singleton _ _, fun u hu => ?_⟩
    refine List.forall_mem_singleton.2 ?_
    rw [hd.span]
    exact hlast u hu

end

/-- Whether a source is a failure: it has an error token, or modes are left open where that
counts. -/
def Settings.fails (s : Settings) (source : String) : Bool :=
  (lex s.newlineResync source).tokens.any Token.isError ||
    (s.failOnUnclosed && (lex s.newlineResync source).final.modes != .base)

/-- The entry shows the message: its level, code and words, the place in the file, the line there
with the place underlined, and what is noted about it. -/
def Diagnostic.ShownAs (f : SourceFile) (d : Diagnostic) (entry : String) : Prop :=
  entry = d.level.name ++ (d.code.map fun c => "[" ++ c.text ++ "]").getD "" ++ ": " ++ d.message ++
    "\n  --> " ++ f.name ++ ":" ++ decimal d.span.line ++ ":" ++ decimal d.span.column ++ "\n" ++
    String.join ((d.snippets ++ (f.snippet? d.span).toList).map (·.format ++ "\n")) ++
    String.join (d.notes.map ("  = note: " ++ · ++ "\n")) ++
    String.join (d.helps.map ("  = help: " ++ · ++ "\n"))

theorem SourceFile.shownAs_render (f : SourceFile) (ds : List Diagnostic) :
    List.Forall₂ (ShownAs f) ds (f.render ds) := by
  refine List.forall₂_map_right_iff.2 (List.forall₂_same.2 fun d _ => ?_)
  simp only [ShownAs, Diagnostic.render, headline, String.append_assoc]
  rfl

/-- The report tells of the source what its tokens and its last stack tell. Its entries show the
messages about the error tokens and the modes left open, one each and in the order of their
places. -/
structure FileReport.Describes (s : Settings) (path source : String) (r : FileReport) : Prop where
  named : r.path = path
  tokens : r.tokens = (lex s.newlineResync source).tokens.length
  errors : r.errors = (lex s.newlineResync source).tokens.countP Token.isError
  warnings : r.warnings = if (lex s.newlineResync source).final.modes = .base then 0 else 1
  rendered : ∃ errors warnings,
    List.Forall₂ (ShownAs ⟨path, source⟩) (errors ++ warnings) r.rendered ∧
    List.Forall₂ (Answers s.newlineResync source)
      ((lex s.newlineResync source).tokens.filter Token.isError) errors ∧
    Close source (lex s.newlineResync source).final.modes warnings ∧
    (errors ++ warnings).Pairwise fun d e => d.span.start < e.span.start
  counted : r.rendered.length = r.errors + r.warnings

namespace FileReport

variable {s : Settings} {path source : String}

theorem exists_describes (s : Settings) (path source : String) :
    ∃ r, (reportOn s path source).result = .ok r ∧ r.Describes s path source := by
  obtain ⟨errors, warnings, e, herrors, hwarnings⟩ := exists_diagnostics_lex s.newlineResync source
  obtain ⟨herror, hwarning, hall⟩ := counts_lex s.newlineResync source
  have hshown := SourceFile.shownAs_render ⟨path, source⟩ (lex s.newlineResync source).diagnostics
  refine ⟨_, rfl, rfl, rfl, herror, hwarning, ?_, hshown.length_eq.symm.trans hall⟩
  refine ⟨errors, warnings, e ▸ hshown, herrors, hwarnings, ?_⟩
  rw [← e]
  exact pairwise_diagnostics_lex s.newlineResync source

theorem Describes.failed_eq {r : FileReport} (h : r.Describes s path source) :
    r.failed s.failOnUnclosed = s.fails source := by
  have herror : decide (0 < r.errors) =
      (lex s.newlineResync source).tokens.any Token.isError := by
    rw [h.errors, Bool.eq_iff_iff, decide_eq_true_iff, List.countP_pos_iff, List.any_eq_true]
  have hwarning : decide (0 < r.warnings) =
      ((lex s.newlineResync source).final.modes != .base) := by
    rw [h.warnings]
    by_cases hb : (lex s.newlineResync source).final.modes = .base
    · simp [hb]
    · simp [hb]
  rw [failed, Settings.fails, herror, hwarning]

end FileReport

def Files.Holds (fs : Files) (path source : String) : Prop :=
  ∃ content, fs.find? path = some (.file content) ∧ String.fromUTF8? content = some source

/-- Why a path does not lead to a file that holds a text. -/
inductive Files.Lacks (fs : Files) (path : String) : Cause → Prop
  | missing : fs.find? path = none → Lacks fs path (.inputNotFound path)
  | directory : fs.find? path = some .directory → Lacks fs path (.inputNotFile path)
  | notText {content : ByteArray} : fs.find? path = some (.file content) →
      String.fromUTF8? content = none → Lacks fs path (.inputUnreadable path .notText)

namespace Files

variable {fs : Files} {path source : String} {cause : Cause}

theorem Holds.readSource_eq (h : fs.Holds path source) : fs.readSource path = .ok source := by
  obtain ⟨content, hfind, htext⟩ := h
  simp [readSource, hfind, Entry.text, htext]

theorem holds_of_toUTF8 (h : fs.find? path = some (.file source.toUTF8)) :
    fs.Holds path source := by
  refine ⟨_, h, ?_⟩
  rw [String.fromUTF8?, String.toUTF8_eq_toByteArray, dif_pos source.isValidUTF8]
  rfl

theorem Lacks.readSource_eq (h : fs.Lacks path cause) : fs.readSource path = .error cause := by
  cases h with
  | missing hfind => simp [readSource, hfind]
  | directory hfind => simp [readSource, hfind]
  | notText hfind htext => simp [readSource, hfind, Entry.text, htext]

theorem holds_or_lacks (fs : Files) (path : String) :
    (∃ source, fs.Holds path source) ∨ ∃ cause, fs.Lacks path cause := by
  cases hfind : fs.find? path with
  | none => exact .inr ⟨_, .missing hfind⟩
  | some e =>
    cases e with
    | directory => exact .inr ⟨_, .directory hfind⟩
    | file content =>
      cases htext : String.fromUTF8? content with
      | none => exact .inr ⟨_, .notText hfind htext⟩
      | some source => exact .inl ⟨source, content, hfind, htext⟩

end Files

namespace Outcome

variable {α β : Type} {o : Outcome α} {f : α → Outcome β}

theorem result_andThen_of_ok {a : α} (h : o.result = .ok a) :
    (o.andThen f).result = (f a).result := by
  simp [andThen, h]

theorem result_andThen_of_error {c : Cause} (h : o.result = .error c) :
    (o.andThen f).result = .error c := by
  simp [andThen, h]

end Outcome

section

variable {s : Settings} {fs : Files} {path source : String} {paths sources : List String}
  {cause : Cause}

theorem exists_checkFile (s : Settings) (h : fs.Holds path source) :
    ∃ r, (checkFile s fs path).result = .ok r ∧ r.Describes s path source := by
  rw [checkFile, h.readSource_eq]
  exact FileReport.exists_describes s path source

theorem checkFile_of_lacks (s : Settings) (h : fs.Lacks path cause) :
    (checkFile s fs path).result = .error cause := by
  rw [checkFile, h.readSource_eq]
  rfl

theorem exists_checkAll (s : Settings) (h : List.Forall₂ fs.Holds paths sources) :
    ∃ rs, (checkAll s fs paths).result = .ok rs ∧
      List.Forall₂ (fun p r => r.Describes s p.1 p.2) (paths.zip sources) rs := by
  induction h with
  | nil => exact ⟨[], rfl, .nil⟩
  | cons h _ ih =>
    obtain ⟨r, hr, hdescribes⟩ := exists_checkFile s h
    obtain ⟨rs, hrs, hall⟩ := ih
    refine ⟨r :: rs, ?_, .cons hdescribes hall⟩
    rw [checkAll, Outcome.result_andThen_of_ok hr, Outcome.result_andThen_of_ok hrs]
    rfl

/-- One file that cannot be read is enough for the check to come to nothing. -/
theorem checkAll_of_lacks (s : Settings) (hp : path ∈ paths) (h : fs.Lacks path cause) :
    ∃ q ∈ paths, ∃ c, fs.Lacks q c ∧ (checkAll s fs paths).result = .error c := by
  induction paths with
  | nil => cases hp
  | cons q paths ih =>
    obtain ⟨source, hq⟩ | ⟨c, hq⟩ := fs.holds_or_lacks q
    · obtain ⟨r, hr, -⟩ := exists_checkFile s hq
      have hrest : path ∈ paths := by
        refine (List.mem_cons.1 hp).resolve_left ?_
        rintro rfl
        have hread := h.readSource_eq
        rw [hq.readSource_eq] at hread
        cases hread
      obtain ⟨q', hq', c, hc, hresult⟩ := ih hrest
      refine ⟨q', List.mem_cons_of_mem _ hq', c, hc, ?_⟩
      rw [checkAll, Outcome.result_andThen_of_ok hr, Outcome.result_andThen_of_error hresult]
    · refine ⟨q, List.mem_cons_self, c, hq, ?_⟩
      rw [checkAll, Outcome.result_andThen_of_error (checkFile_of_lacks s hq)]

theorem countP_failed {ps : List (String × String)} {rs : List FileReport}
    (h : List.Forall₂ (fun p r => r.Describes s p.1 p.2) ps rs) :
    rs.countP (·.failed s.failOnUnclosed) = ps.countP (s.fails ·.2) := by
  induction h with
  | nil => rfl
  | cons h _ ih => rw [List.countP_cons, List.countP_cons, h.failed_eq, ih]

end

namespace CheckCommand

def outcome (c : CheckCommand) (s : Settings) (fs : Files) : Except Cause Unit :=
  (c.reports s fs).result.bind (verdict s)

/-- The program ends as the command does. -/
theorem exists_runCheck_eq (w : World) (s : Settings) (verbose : Bool) (c : CheckCommand) :
    ∃ stderr, w.runCheck s verbose c = match c.outcome s w.files with
      | .ok _ => ⟨0, "", stderr⟩
      | .error cause => .failed stderr cause := by
  unfold World.runCheck outcome
  dsimp only
  cases (c.reports s w.files).result with
  | error cause => exact ⟨_, rfl⟩
  | ok rs =>
    dsimp only [Except.bind]
    cases verdict s rs with
    | error cause => exact ⟨_, rfl⟩
    | ok _ => exact ⟨_, rfl⟩

variable {c : CheckCommand} {s : Settings} {fs : Files}

theorem result_reports (hfiles : c.files ≠ []) (hjobs : 0 < c.effectiveJobs s) :
    (c.reports s fs).result = (checkAll s fs c.files).result := by
  have hempty : c.files.isEmpty = false := by simpa using hfiles
  rw [reports, hempty, if_neg (by simp), if_neg hjobs.ne']
  rfl

/-- What it is for a check to say of files what there is to say. If all can be read, there is a
report on each of them, in their order, and the command fails with the number of those that do; if
one cannot be read, there are no reports, and the command fails with such a one. As the command
ends, so does the program. -/
structure Judges (c : CheckCommand) (s : Settings) (fs : Files) : Prop where
  reports : ∀ sources, List.Forall₂ fs.Holds c.files sources →
    (∃ rs, (c.reports s fs).result = .ok rs ∧
      List.Forall₂ (fun p r => r.Describes s p.1 p.2) (c.files.zip sources) rs) ∧
    c.outcome s fs = if sources.countP s.fails = 0 then .ok ()
      else .error (.filesFailed (sources.countP s.fails))
  refuses : ∀ path ∈ c.files, ∀ cause, fs.Lacks path cause →
    ∃ q ∈ c.files, ∃ cause', fs.Lacks q cause' ∧ (c.reports s fs).result = .error cause' ∧
      c.outcome s fs = .error cause'
  ends : ∀ (w : World) verbose, w.files = fs → ∃ stderr, w.runCheck s verbose c =
    match c.outcome s fs with
    | .ok _ => ⟨0, "", stderr⟩
    | .error cause => .failed stderr cause

/-- With files to check and someone to check them, a check is true to its files. -/
theorem judges (fs : Files) (hfiles : c.files ≠ []) (hjobs : 0 < c.effectiveJobs s) :
    c.Judges s fs where
  reports := by
    intro sources h
    obtain ⟨rs, hrs, hall⟩ := exists_checkAll s h
    have hresult := (result_reports hfiles hjobs).trans hrs
    have hcount : rs.countP (·.failed s.failOnUnclosed) = sources.countP s.fails := by
      have hsources : (c.files.zip sources).map Prod.snd = sources :=
        List.map_snd_zip h.length_eq.ge
      rw [countP_failed hall]
      conv_rhs => rw [← hsources, List.countP_map]
      rfl
    refine ⟨⟨rs, hresult, hall⟩, ?_⟩
    rw [outcome, hresult, ← hcount]
    rfl
  refuses := by
    intro path hp cause h
    obtain ⟨q, hq, cause', hlacks, hresult⟩ := checkAll_of_lacks s hp h
    have hreports := (result_reports hfiles hjobs).trans hresult
    refine ⟨q, hq, cause', hlacks, hreports, ?_⟩
    rw [outcome, hreports]
    rfl
  ends := by
    rintro w verbose rfl
    exact exists_runCheck_eq w s verbose c

/-- Two files of three fail: a character that no rule takes, and a string that is not closed. -/
theorem judges_three :
    let c : CheckCommand := ⟨["a.mlc", "b.mlc", "c.mlc"], some 2⟩
    let fs : Files := (FileTree.mk [(⟨.here, ["a.mlc"]⟩, .file "x ° y".toUTF8),
      (⟨.here, ["b.mlc"]⟩, .file "y = 2".toUTF8),
      (⟨.here, ["c.mlc"]⟩, .file "\"open".toUTF8)]).files
    (c.files ≠ [] ∧ 0 < c.effectiveJobs .standard) ∧ c.Judges .standard fs ∧
      c.outcome .standard fs = .error (.filesFailed 2) := by
  intro c fs
  have hfiles : c.files ≠ [] := by decide
  have hjobs : 0 < c.effectiveJobs .standard := by decide
  have hjudges : c.Judges .standard fs := judges fs hfiles hjobs
  have hholds : List.Forall₂ fs.Holds c.files ["x ° y", "y = 2", "\"open"] := by
    refine .cons ?_ (.cons ?_ (.cons ?_ .nil))
    · exact Files.holds_of_toUTF8 rfl
    · exact Files.holds_of_toUTF8 rfl
    · exact Files.holds_of_toUTF8 rfl
  have hcount : ["x ° y", "y = 2", "\"open"].countP Settings.standard.fails = 2 := by decide +kernel
  refine ⟨⟨hfiles, hjobs⟩, hjudges, ?_⟩
  rw [(hjudges.reports _ hholds).2, hcount]
  rfl

end CheckCommand
end ModalLexer
