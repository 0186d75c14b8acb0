import ModalLexer.Shape
import ModalLexer.Text.CharClass

/-!
The shapes of the smallest pieces of Morloc source text.
-/

namespace ModalLexer.Lexeme

open Shape

def blanks : Shape := many1 isBlank

/-- A word that is not part of a longer identifier. -/
def word (s : String) : Shape := notAfter isIdent ++ text s ++ notBefore isIdent

def lineComment : Shape := text "--" ++ many (· != '\n')

def commentOpen : Shape := literal ['{', '-']

def commentClose : Shape := literal ['-', '}']

def isCommentMark (c : Char) : Bool := c == '-' || c == '{' || c == '}'

def commentText : Shape := many1 (!isCommentMark ·)

def lowerName : Shape := char '_' ++ many1 isIdent <|> one isLowercase ++ many isIdent

def upperName : Shape := one isUppercase ++ many isIdent

def dottedName : Shape := one isLowercase ++ many fun c => isWord c || c == '.'

/-- The target of an import: a dotted path that may have hyphens. -/
def importPath : Shape :=
  one (fun c => isAsciiLetter c || c == '.') ++ many fun c => isWord c || c == '.' || c == '-'

def importedName : Shape := one isAsciiLetter ++ many isIdent

def languageName : Shape := many1 isAsciiLetter

/-- A type made from a list, a tuple or an operator. -/
def promotedType : Shape :=
  char '\'' ++
    (char '[' ++ many (· != ']') ++ char ']' <|>
      char '(' ++ many (· != ')') ++ char ')' <|>
      many1 isOperatorChar)

def digitsIn (base : Nat) : Shape := digits (isDigitIn base)

def letter (c : Char) : Shape := one fun x => x == c || x == c.toUpper

def radixMark (c : Char) : Shape := char '0' ++ letter c ++ many (· == '_')

def exponent (c : Char) : Shape :=
  many (· == '_') ++ letter c ++ opt (one fun x => x == '+' || x == '-') ++ digitsIn 10

def hexFloatExponent : Shape := radixMark 'x' ++ digitsIn 16 ++ exponent 'p'

def hexFloatFraction : Shape :=
  radixMark 'x' ++ digitsIn 16 ++ char '.' ++ digitsIn 16 ++ opt (exponent 'p')

def floatExponent : Shape := digitsIn 10 ++ exponent 'e'

def floatFraction : Shape := digitsIn 10 ++ char '.' ++ digitsIn 10 ++ opt (exponent 'e')

def radixInteger (mark : Char) (base : Nat) : Shape := radixMark mark ++ digitsIn base

def selectorDot : Shape := char '.' ++ before startsSelector

/-- A run of operator symbols; it stops before the dot of a selector. -/
def operator : Shape :=
  run fun c rest => isOperatorChar c && !(c == '.' && rest.head?.any startsSelector)

def fieldSelector : Shape := one (fun c => c == '_' || isAlphabetic c) ++ many isIdent

def indexSelector : Shape := many1 Char.isDigit

/-- A string without escapes; it may not be empty. -/
def plainString : Shape := char '"' ++ many1 (· != '"') ++ char '"'

def isStringMark (c : Char) : Bool := c == '\\' || c == '"' || c == '#'

def stringText : Shape := many1 (!isStringMark ·)

def interpolationOpen : Shape := literal ['#', '{']

def namedEscape : Shape := one fun c => "abfnrtv\"'&\\#".toList.contains c

def controlEscape : Shape :=
  char '^' ++ one fun c => isUppercase c || "@[]^_".toList.contains c

def octalEscape : Shape := char 'o' ++ many1 (isDigitIn 8)

def hexEscape : Shape := char 'x' ++ many1 (isDigitIn 16)

def decimalEscape : Shape := many1 (isDigitIn 10)

end ModalLexer.Lexeme
