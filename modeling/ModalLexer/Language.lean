import ModalLexer.Glob
import ModalLexer.Text.Split

/-!
How a highlighter recognises Morloc: by name, by alias, or by the name of a file.
-/

namespace ModalLexer.Language

def name : String := "Morloc"

def aliases : List String := ["morloc"]

def globs : List String := ["*.mlc"]

/-- The steps of a path that lead somewhere: neither empty nor a single dot. -/
def segments (path : String) : List (List Char) :=
  (splitAtChar '/' path.toList).filter fun s => s != [] && s != ['.']

/-- The last step of a path, unless it leads to the directory above. A path is a text here: on a
system whose paths are bytes, a path whose last step is not UTF-8 has no such name and is not
claimed. -/
def fileName? (path : String) : Option (List Char) :=
  (segments path).getLast?.filter (· != ['.', '.'])

def claims (path : String) : Bool :=
  (fileName? path).any fun n => globs.any fun g => Glob.accepts g.toList n

end ModalLexer.Language
