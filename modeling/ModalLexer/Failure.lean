import ModalLexer.Text.Align
import ModalLexer.Text.Quoted

/-!
Why a command fails, and how the failure is worded.
-/

namespace ModalLexer

inductive FileFault
  | notFound | alreadyExists | notDirectory | isDirectory | notText
  | other (text : String)
  deriving DecidableEq, Repr

namespace FileFault

/-- The number, the kind and the description of a fault that the system reports. -/
def system? : FileFault → Option (Nat × String × String)
  | notFound => some (2, "NotFound", "No such file or directory")
  | alreadyExists => some (17, "AlreadyExists", "File exists")
  | notDirectory => some (20, "NotADirectory", "Not a directory")
  | isDirectory => some (21, "IsADirectory", "Is a directory")
  | notText | other _ => none

def message (f : FileFault) : String :=
  match f, f.system? with
  | _, some (code, _, text) => text ++ " (os error " ++ decimal code ++ ")"
  | other text, _ => text
  | _, _ => "stream did not contain valid UTF-8"

def debug (f : FileFault) : String :=
  match f, f.system? with
  | _, some (code, kind, text) =>
    "Os \x7b code: " ++ decimal code ++ ", kind: " ++ kind ++ ", message: " ++
      Quoted.encode text ++ " \x7d"
  | other text, _ => "Custom \x7b kind: Other, error: " ++ Quoted.encode text ++ " \x7d"
  | _, _ =>
    "Error \x7b kind: InvalidData, message: " ++ Quoted.encode f.message ++ " \x7d"

end FileFault

inductive Failure
  | config (detail : String)
  | fileOperation (detail : String)
  | validation (detail : String)
  | io (fault : FileFault)
  | lexFailed (files : Nat)
  deriving DecidableEq, Repr

namespace Failure

def label : Failure → String
  | config _ => "Config"
  | fileOperation _ => "FileOperation"
  | validation _ => "Validation"
  | io _ => "Io"
  | lexFailed _ => "LexFailed"

def message : Failure → String
  | config detail => "Configuration error: " ++ detail
  | fileOperation detail => "File operation failed: " ++ detail
  | validation detail => "Validation error: " ++ detail
  | io fault => "IO error: " ++ fault.message
  | lexFailed files => decimal files ++ " file(s) failed to lex"

def debug (f : Failure) : String :=
  let inside := match f with
    | config detail | fileOperation detail | validation detail => Quoted.encode detail
    | io fault => fault.debug
    | lexFailed files => decimal files
  f.label ++ "(" ++ inside ++ ")"

/-- Whether another fault lies behind the failure. -/
def hasSource : Failure → Bool
  | io _ => true
  | _ => false

end Failure

inductive Cause
  | settingsNotFound (path : String)
  | settingsMalformed
  | settingsUnreadable (fault : FileFault)
  | inputNotFound (path : String)
  | inputNotFile (path : String)
  | inputUnreadable (path : String) (fault : FileFault)
  | formatUnknown (name : String)
  | noInput
  | noJobs
  | filesFailed (count : Nat)
  deriving DecidableEq, Repr

def Cause.failure : Cause → Failure
  | settingsNotFound path => .config ("Configuration file not found: " ++ path)
  | settingsMalformed => .config "Failed to parse configuration: ..."
  | settingsUnreadable fault => .io fault
  | inputNotFound path => .validation ("Input path does not exist: " ++ path)
  | inputNotFile path => .validation ("Input path is not a file: " ++ path)
  | inputUnreadable path fault => .fileOperation (path ++ ": " ++ fault.message)
  | formatUnknown name => .validation ("Unknown format: " ++ name)
  | noInput => .validation "No input files specified"
  | noJobs => .validation "Number of jobs must be at least 1"
  | filesFailed count => .lexFailed count

end ModalLexer
