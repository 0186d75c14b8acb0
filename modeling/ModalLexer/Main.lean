import ModalLexer.Command.Line

/-!
The program itself: it reads what a command line asks for, and prints what comes of it.
-/

namespace ModalLexer

/-- Whether the number of a fault, which may come negated, says that a path goes on behind something
that is no directory. -/
def saysNotDirectory (code : UInt32) : Bool := code == 20 || code == -20

/-- What is at a path; whatever exists and cannot be read as a file is taken for a directory. -/
def readEntry? (path : String) : IO (Option Entry) := do
  try
    return some (.file (← IO.FS.readBinFile path))
  catch
    | .noFileOrDirectory .. => return none
    | .inappropriateType _ code _ =>
      return if saysNotDirectory code then none else some .directory
    | _ => return some .directory

def pathOf (l : Location) : IO String := do
  let home := (← IO.getEnv "HOME").getD ""
  let start ← match l.place with
    | .here => pure "."
    | .home => pure home
    | .settings => pure ((← IO.getEnv "XDG_CONFIG_HOME").getD (home ++ "/.config"))
  return "/".intercalate (start :: l.names)

def readFiles (paths : List String) : IO Files := do
  let given ← paths.mapM fun p => do return (p, ← readEntry? p)
  let places ← Settings.searchOrder.mapM fun l => do return (l, ← readEntry? (← pathOf l))
  return { find? := fun p => (given.lookup p).join, at? := fun l => (places.lookup l).join }

def readEnvironment : IO Request.Environment := do
  let found ← ["MORLEX_VERBOSE", "MORLEX_CONFIG", "MORLEX_NO_COLOR"].mapM fun key => do
    return (← IO.getEnv key).map (key, ·)
  return found.filterMap id

def seconds (milliseconds : Nat) : String :=
  decimal (milliseconds / 1000) ++ "." ++ zeroPadded 2 (milliseconds % 1000 / 10) ++ "s"

end ModalLexer

open ModalLexer

def main (args : List String) : IO UInt32 := do
  let start ← IO.monoMsNow
  let environment ← readEnvironment
  let paths := match Request.ofArguments environment args with
    | .ok q => q.paths
    | .error _ => []
  let files ← readFiles paths
  let elapsed := seconds ((← IO.monoMsNow) - start)
  let world : World := { environment, files, log := .byVerbosity, elapsed }
  match world.runLine args with
  | .error _ =>
    IO.eprintln "usage: morlex [OPTIONS] <tokens|check|info> [ARGS]"
    return 2
  | .ok printed =>
    IO.print printed.stdout
    IO.eprint printed.stderr
    return printed.exit.toUInt32
