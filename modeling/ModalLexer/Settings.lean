import ModalLexer.FileTree
import ModalLexer.Toml.Reader
import ModalLexer.Toml.Written

/-!
Settings, the documents they are kept in, and where these are looked for.
-/

namespace ModalLexer

structure Settings where
  verbose : Bool
  newlineResync : Bool
  format : String
  skipWhitespace : Bool
  jobs : Nat
  failOnUnclosed : Bool
  deriving DecidableEq, Repr

namespace Settings

/-- One worker is run where the process has one processor. -/
def standard : Settings :=
  { verbose := false
    newlineResync := true
    format := "text"
    skipWhitespace := false
    jobs := 1
    failOnUnclosed := true }

instance : Inhabited Settings := ⟨standard⟩

open Toml

/-- The value of a key: the standard one where the key is missing, none where it has no such
value. -/
def readBool (standard : Bool) : Option Value → Option Bool
  | none => some standard
  | some (.boolean b) => some b
  | _ => none

def readString (standard : String) : Option Value → Option String
  | none => some standard
  | some (.string s) => some s
  | _ => none

def jobsBound : Nat := 0x100000000

def readJobs (standard : Nat) : Option Value → Option Nat
  | none => some standard
  | some (.integer n) => if 0 ≤ n ∧ n < jobsBound then some n.toNat else none
  | _ => none

/-- How the values of a section are found: by their names in a table, or by their order in an
array. A date has none of them. -/
def fields (names : List String) : Option Value → Option (List (Option Value))
  | none => some (names.map fun _ => none)
  | some (.table _ es) => some (names.map (Entries.get? es))
  | some (.array vs) => some (names.zipIdx.map fun (_, i) => vs[i]?)
  | some (.series ts) =>
    some (names.zipIdx.map fun (_, i) => ts.reverse[i]?.map (.table .header))
  | some (.datetime _) => some (names.map fun _ => none)
  | _ => none

def ofEntries (es : Entries) : Option Settings := do
  let std := standard
  let verbose ← readBool std.verbose (Entries.get? es "verbose")
  let lexer ← fields ["newline_resync"] (Entries.get? es "lexer")
  let tokens ← fields ["format", "skip_whitespace"] (Entries.get? es "tokens")
  let check ← fields ["jobs", "fail_on_unclosed"] (Entries.get? es "check")
  return {
    verbose
    newlineResync := ← readBool std.newlineResync (lexer[0]?.join)
    format := ← readString std.format (tokens[0]?.join)
    skipWhitespace := ← readBool std.skipWhitespace (tokens[1]?.join)
    jobs := ← readJobs std.jobs (check[0]?.join)
    failOnUnclosed := ← readBool std.failOnUnclosed (check[1]?.join) }

def ofText? (s : String) : Option Settings := (Toml.read? s).bind ofEntries

def toText (s : Settings) : String :=
  "verbose = " ++ writeBool s.verbose ++ "\n" ++
    "\n[lexer]\n" ++
    "newline_resync = " ++ writeBool s.newlineResync ++ "\n" ++
    "\n[tokens]\n" ++
    "format = " ++ writeString s.format ++ "\n" ++
    "skip_whitespace = " ++ writeBool s.skipWhitespace ++ "\n" ++
    "\n[check]\n" ++
    "jobs = " ++ decimal s.jobs ++ "\n" ++
    "fail_on_unclosed = " ++ writeBool s.failOnUnclosed ++ "\n"

def ofEntry (e : Entry) : Except Cause Settings :=
  match e.text with
  | .error fault => .error (.settingsUnreadable fault)
  | .ok s =>
    match ofText? s with
    | some settings => .ok settings
    | none => .error .settingsMalformed

def loadFrom (fs : Files) (path : String) : Except Cause Settings :=
  match fs.find? path with
  | none => .error (.settingsNotFound path)
  | some e => ofEntry e

/-- Where settings are looked for, in this order. -/
def searchOrder : List Location :=
  [⟨.here, ["morlex.toml"]⟩, ⟨.home, [".config", "morlex", "morlex.toml"]⟩,
    ⟨.settings, ["morlex", "morlex.toml"]⟩]

/-- The settings in the first file that exists, or else the standard ones. -/
def search (fs : Files) : Except Cause Settings :=
  match searchOrder.findSome? fs.at? with
  | none => .ok standard
  | some e => ofEntry e

def load (fs : Files) (path : Option String) : Except Cause Settings :=
  match path with
  | some p => loadFrom fs p
  | none => search fs

def save (s : Settings) (t : FileTree) (path : String) : Except FileFault FileTree :=
  t.write path s.toText

end Settings
end ModalLexer
