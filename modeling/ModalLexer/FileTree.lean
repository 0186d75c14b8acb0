import ModalLexer.Failure
import ModalLexer.Text.Split

/-!
Files and directories below the working directory, the user's home directory and the user's
settings directory, and the paths that lead to them.
-/

namespace ModalLexer

inductive Place
  | here | home | settings
  deriving DecidableEq, Repr

structure Location where
  place : Place
  names : List String
  deriving DecidableEq, Repr

namespace Location

def child (l : Location) (name : String) : Location := { l with names := l.names ++ [name] }

def parent (l : Location) : Location := { l with names := l.names.dropLast }

def isBelow (l m : Location) : Bool := l.place == m.place && m.names.isPrefixOf l.names && l != m

end Location

inductive Entry
  | file (content : ByteArray)
  | directory

def Entry.text : Entry → Except FileFault String
  | directory => .error .isDirectory
  | file content =>
    match String.fromUTF8? content with
    | some s => .ok s
    | none => .error .notText

/-- What can be read, by its path or at its place. -/
structure Files where
  find? : String → Option Entry
  at? : Location → Option Entry

/-- What is known to exist; a directory is also there if something lies below it. -/
structure FileTree where
  entries : List (Location × Entry)

namespace FileTree

def at? (t : FileTree) (l : Location) : Option Entry :=
  if l.names.isEmpty then some .directory
  else
    match t.entries.lookup l with
    | some e => some e
    | none => if t.entries.any (·.1.isBelow l) then some .directory else none

def isDirectory (t : FileTree) (l : Location) : Bool := t.at? l matches some .directory

def put (t : FileTree) (l : Location) (e : Entry) : FileTree :=
  ⟨(l, e) :: t.entries.filter (·.1 != l)⟩

/-- Where a path leads; what lies beyond the places is not known, but its directories exist. -/
inductive Spot
  | within (l : Location)
  | beyond
  deriving DecidableEq, Repr

def step? (t : FileTree) (s : Spot) (name : String) : Option Spot :=
  let isDot := name == "" || name == "."
  match s with
  | .beyond => if isDot || name == ".." then some .beyond else none
  | .within l =>
    if !t.isDirectory l then none
    else if isDot then some s
    else if name == ".." then
      some (if l.names.isEmpty then .beyond else .within l.parent)
    else if (t.at? (l.child name)).isSome then some (.within (l.child name))
    else none

def steps (path : String) : List String := (splitAtChar '/' path.toList).map String.ofList

def origin (path : String) : Spot :=
  if path.toList.head? == some '/' then .beyond else .within ⟨.here, []⟩

def walk? (t : FileTree) (s : Spot) (names : List String) : Option Spot :=
  names.foldlM t.step? s

def find? (t : FileTree) (path : String) : Option Entry :=
  if path = "" then none
  else
    (t.walk? (origin path) (steps path)).bind fun
      | .within l => t.at? l
      | .beyond => some .directory

def files (t : FileTree) : Files := ⟨t.find?, t.at?⟩

/-- Makes the directories on the way along a path. Something else in the place of the last one is
reported as existing, in the place of another as no directory. -/
def makeDirectories (t : FileTree) (s : Spot) : List String → Except FileFault (FileTree × Spot)
  | [] => .ok (t, s)
  | name :: rest =>
    match s, t.step? s name with
    | .within l, none =>
      if t.isDirectory l then
        makeDirectories (t.put (l.child name) .directory) (.within (l.child name)) rest
      else .error .notDirectory
    | .beyond, none => .error .notFound
    | _, some (.within l) =>
      if t.isDirectory l then makeDirectories t (.within l) rest
      else if rest.isEmpty then .error .alreadyExists
      else .error .notDirectory
    | _, some .beyond => makeDirectories t .beyond rest

/-- Writes a file, making the directories that it needs. A path that goes on after the name of the
file, if only by a slash or a dot, can lead to a directory only. -/
def write (t : FileTree) (path : String) (text : String) : Except FileFault FileTree := do
  if path = "" then .error .notFound
  let names := (steps path).filter fun n => n != "" && n != "."
  let tail := (steps path).reverse.takeWhile fun n => n == "" || n == "."
  match names.getLast? with
  | none => .error .isDirectory
  | some name =>
    let (t, s) ← t.makeDirectories (origin path) names.dropLast
    match s with
    | .beyond => .error .notFound
    | .within l =>
      if name == ".." || t.isDirectory (l.child name) then .error .isDirectory
      else if tail.isEmpty then .ok (t.put (l.child name) (.file text.toUTF8))
      else if (t.at? (l.child name)).isSome then .error .notDirectory
      else .error (if tail.contains "." then .notFound else .isDirectory)

end FileTree
end ModalLexer
