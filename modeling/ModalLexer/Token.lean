import ModalLexer.Span
import ModalLexer.Text.Quoted

/-!
Tokens and the kinds a highlighter tells apart.
-/

namespace ModalLexer

inductive NumberKind
  | integer | float | hex | oct | bin
  deriving DecidableEq, Repr

inductive TokenKind
  | text | whitespace | error
  | keyword | keywordType
  | name | nameType | nameBuiltin
  | operator | punctuation
  | number (kind : NumberKind)
  | string | stringEscape | stringInterpol
  | commentSingle | commentMultiline
  deriving DecidableEq, Repr

namespace TokenKind

def all : List TokenKind :=
  [text, whitespace, error, keyword, keywordType, name, nameType, nameBuiltin, operator,
    punctuation, number .integer, number .float, number .hex, number .oct, number .bin,
    string, stringEscape, stringInterpol, commentSingle, commentMultiline]

theorem mem_all (k : TokenKind) : k ∈ all := by
  cases k with
  | number n => cases n <;> simp [all]
  | _ => simp [all]

/-- The dotted path under which a highlighter knows the kind. -/
def path : TokenKind → String
  | text => "Text"
  | whitespace => "Text.Whitespace"
  | error => "Error"
  | keyword => "Keyword.Reserved"
  | keywordType => "Keyword.Type"
  | name => "Name"
  | nameType => "Name.Class"
  | nameBuiltin => "Name.Builtin"
  | operator => "Operator"
  | punctuation => "Punctuation"
  | number .integer => "Literal.Number.Integer"
  | number .float => "Literal.Number.Float"
  | number .hex => "Literal.Number.Hex"
  | number .oct => "Literal.Number.Oct"
  | number .bin => "Literal.Number.Bin"
  | string => "Literal.String"
  | stringEscape => "Literal.String.Escape"
  | stringInterpol => "Literal.String.Interpol"
  | commentSingle => "Comment.Single"
  | commentMultiline => "Comment.Multiline"

def isComment : TokenKind → Bool
  | commentSingle | commentMultiline => true
  | _ => false

def isString : TokenKind → Bool
  | string | stringEscape | stringInterpol => true
  | _ => false

def isNumber : TokenKind → Bool
  | number _ => true
  | _ => false

/-- Kinds that a parser skips. -/
def isTrivia (k : TokenKind) : Bool := k == whitespace || k.isComment

end TokenKind

structure Token where
  kind : TokenKind
  text : String
  span : Span
  deriving DecidableEq, Repr

namespace Token

def isError (t : Token) : Bool := t.kind == .error

def display (t : Token) : String := t.kind.path ++ "(" ++ Quoted.encode t.text ++ ")"

end Token
end ModalLexer
