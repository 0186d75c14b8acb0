import ModalLexer.Language
import ModalLexer.Mode
import ModalLexer.Token

/-!
The command that tells what the lexer is for.
-/

namespace ModalLexer

structure InfoCommand where
  kinds : Bool
  paths : List String
  deriving Inhabited

namespace InfoCommand

def commaList (ss : List String) : String := ", ".intercalate ss

def verdict (path : String) : String :=
  path ++ ": " ++ (if Language.claims path then "matches" else "does not match") ++ "\n"

def render (c : InfoCommand) : String :=
  "name: " ++ Language.name ++ "\n" ++
    "aliases: " ++ commaList Language.aliases ++ "\n" ++
    "filenames: " ++ commaList Language.globs ++ "\n" ++
    "modes: " ++ commaList (Mode.all.map Mode.name) ++ "\n" ++
    (if c.kinds then
      "kinds:\n" ++ String.join (TokenKind.all.map fun k => "  " ++ k.path ++ "\n")
    else "") ++
    String.join (c.paths.map verdict)

end InfoCommand
end ModalLexer
