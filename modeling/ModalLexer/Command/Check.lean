import ModalLexer.Command.Outcome
import ModalLexer.Language
import ModalLexer.Scan
import ModalLexer.Settings
import ModalLexer.SourceFile

/-!
The command that reports what is wrong with files.
-/

namespace ModalLexer

structure FileReport where
  path : String
  tokens : Nat
  errors : Nat
  warnings : Nat
  rendered : List String
  deriving DecidableEq, Repr

def FileReport.failed (r : FileReport) (failOnUnclosed : Bool) : Bool :=
  0 < r.errors || (failOnUnclosed && 0 < r.warnings)

def reportOn (s : Settings) (path source : String) : Outcome FileReport :=
  let r := lex s.newlineResync source
  let ds : Diagnostics := ⟨r.diagnostics⟩
  { events :=
      r.events ++ [.checked path r.tokens.length ds.errorCount ds.warningCount]
    result := .ok
      { path
        tokens := r.tokens.length
        errors := ds.errorCount
        warnings := ds.warningCount
        rendered := (SourceFile.mk path source).render r.diagnostics } }

def checkFile (s : Settings) (fs : Files) (path : String) : Outcome FileReport :=
  .logging (if Language.claims path then [] else [.unfamiliarName path])
    (match fs.readSource path with
      | .error cause => .fail cause
      | .ok source => reportOn s path source)

/-- The reports on files in order; the first failure to read one is the failure of all. -/
def checkAll (s : Settings) (fs : Files) : List String → Outcome (List FileReport)
  | [] => .ok []
  | path :: paths =>
    (checkFile s fs path).andThen fun r => (checkAll s fs paths).andThen fun rs => .ok (r :: rs)

structure CheckCommand where
  files : List String
  jobs : Option Nat
  deriving Inhabited

namespace CheckCommand

def effectiveJobs (c : CheckCommand) (s : Settings) : Nat := c.jobs.getD s.jobs

def reports (c : CheckCommand) (s : Settings) (fs : Files) : Outcome (List FileReport) :=
  if c.files.isEmpty then .fail .noInput
  else if c.effectiveJobs s = 0 then .fail .noJobs
  else .logging [.checking (c.effectiveJobs s) c.files.length] (checkAll s fs c.files)

/-- The messages about a file, and where nothing is held back, that it is sound. -/
def said (s : Settings) (verbose : Bool) (r : FileReport) : String :=
  String.join r.rendered ++
    (if verbose && !r.failed s.failOnUnclosed then
      "ok: " ++ r.path ++ " (" ++ decimal r.tokens ++ " tokens)\n"
    else "")

/-- What is said of all files; `elapsed` tells how long it took to check them. -/
def summary (s : Settings) (verbose : Bool) (elapsed : String) (rs : List FileReport) : String :=
  String.join (rs.map (said s verbose)) ++
    (if verbose then "Checked " ++ decimal rs.length ++ " file(s) in " ++ elapsed ++ "\n" else "")

def verdict (s : Settings) (rs : List FileReport) : Except Cause Unit :=
  let count := rs.countP (·.failed s.failOnUnclosed)
  if count = 0 then .ok () else .error (.filesFailed count)

end CheckCommand
end ModalLexer
