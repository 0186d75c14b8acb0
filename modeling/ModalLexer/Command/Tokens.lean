import ModalLexer.Command.Outcome
import ModalLexer.Dump
import ModalLexer.Scan
import ModalLexer.Settings
import ModalLexer.SourceFile

/-!
The command that writes out the tokens of a file.
-/

namespace ModalLexer

structure TokensCommand where
  file : String
  format : Option String
  skipWhitespace : Bool
  stats : Bool
  deriving Inhabited

namespace TokensCommand

/-- What is written, and the messages about the source. -/
structure Listing where
  output : String
  diagnostics : List Diagnostic

def formatName (c : TokensCommand) (s : Settings) : String := c.format.getD s.format

def skipsWhitespace (c : TokensCommand) (s : Settings) : Bool :=
  c.skipWhitespace || s.skipWhitespace

def listed (c : TokensCommand) (s : Settings) (ts : List Token) : List Token :=
  ts.filter fun t => !(c.skipsWhitespace s && t.kind == .whitespace)

/-- The format is checked before the source is read, and even where it does not matter. -/
def render (c : TokensCommand) (s : Settings) (source : String) : Outcome Listing :=
  match DumpFormat.named? (c.formatName s) with
  | none => .fail (.formatUnknown (c.formatName s))
  | some format =>
    let r := lex s.newlineResync source
    let ts := c.listed s r.tokens
    { events := r.events ++ [.tokenized c.file ts.length]
      result := .ok
        { output := if c.stats then Dump.stats ts else format.render ts
          diagnostics := r.diagnostics } }

def run (c : TokensCommand) (s : Settings) (fs : Files) : Outcome (String × List String) :=
  match fs.readSource c.file with
  | .error cause => .fail cause
  | .ok source =>
    (c.render s source).andThen fun listing =>
      .ok (listing.output, (SourceFile.mk c.file source).render listing.diagnostics)

end TokensCommand
end ModalLexer
