import ModalLexer.Command.Arguments

/-!
The whole program: from a command line and what surrounds it to what is printed.
-/

namespace ModalLexer

inductive LogChoice
  | off
  | upTo (l : LogLevel)
  | byVerbosity
  deriving DecidableEq, Repr

def LogChoice.filter (verbose : Bool) : LogChoice → Option LogLevel
  | off => none
  | upTo l => some l
  | byVerbosity => some (if verbose then .debug else .info)

/-- What surrounds a run of the program. -/
structure World where
  environment : Request.Environment
  files : Files
  log : LogChoice
  elapsed : String

structure Printed where
  exit : Nat
  stdout : String
  stderr : String
  deriving DecidableEq, Repr

def Printed.failed (stderr : String) (c : Cause) : Printed :=
  ⟨1, "", stderr ++ "Error: " ++ c.failure.debug ++ "\n"⟩

namespace World

def runTokens (w : World) (s : Settings) (verbose : Bool) (c : TokensCommand) : Printed :=
  let o := c.run s w.files
  let log := Event.log (w.log.filter verbose) o.events
  match o.result with
  | .error cause => .failed log cause
  | .ok (output, messages) =>
    { exit := 0
      stdout := output
      stderr := log ++ String.join messages ++
        (if verbose then c.file ++ ": " ++ decimal messages.length ++ " diagnostic(s)\n" else "") }

def runCheck (w : World) (s : Settings) (verbose : Bool) (c : CheckCommand) : Printed :=
  let o := c.reports s w.files
  let log := Event.log (w.log.filter verbose) o.events
  match o.result with
  | .error cause => .failed log cause
  | .ok reports =>
    let stderr := log ++ CheckCommand.summary s verbose w.elapsed reports
    match CheckCommand.verdict s reports with
    | .ok _ => ⟨0, "", stderr⟩
    | .error cause => .failed stderr cause

def run (w : World) (q : Request) : Printed :=
  match Settings.load w.files q.settingsPath with
  | .error cause => .failed "" cause
  | .ok s =>
    let verbose := q.verbose || s.verbose
    match q.command with
    | .tokens c => w.runTokens s verbose c
    | .check c => w.runCheck s verbose c
    | .info c => ⟨0, c.render, ""⟩

def versionText (command : Option CommandName) : String :=
  "morlex" ++ (command.map ("-" ++ ·.name)).getD "" ++ " 0.1.0\n"

/-- Runs a command line, unless it is refused. -/
def runLine (w : World) (args : List String) : Except UsageFault Printed :=
  match Request.ofArguments w.environment args with
  | .ok q => .ok (w.run q)
  | .error (.version command) => .ok ⟨0, versionText command, ""⟩
  | .error (.usage fault) => .error fault

end World
end ModalLexer
