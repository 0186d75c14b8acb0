import ModalLexer.Text.Graphic

/-!
Text in quotes: what a reader could not see or would take for the end is written as an escape.
-/

namespace ModalLexer.Quoted

def codePoint (c : Char) : List Char :=
  "\\u\x7b".toList ++ Nat.toDigits 16 c.toNat ++ ['\x7d']

def escape (c : Char) : List Char :=
  match c with
  | '\x00' => ['\\', '0']
  | '\t' => ['\\', 't']
  | '\n' => ['\\', 'n']
  | '\r' => ['\\', 'r']
  | '\\' => ['\\', '\\']
  | '"' => ['\\', '"']
  | c => if isGraphic c then [c] else codePoint c

/-- A character as it stands alone in a message, where single quotes enclose it. -/
def escapeLone (c : Char) : List Char := if c = '\'' then ['\\', '\''] else escape c

def encode (s : String) : String := String.ofList ('"' :: s.toList.flatMap escape ++ ['"'])

def encodeLone (s : String) : String := String.ofList (s.toList.flatMap escapeLone)

end ModalLexer.Quoted
