import ModalLexer.Lexeme
import ModalLexer.Rule

/-!
The rules of every mode, in the order in which they are tried.
-/

namespace ModalLexer

open Lexeme Shape

/-- Reserved words that stand for themselves; `module`, which opens a mode, is not among them. -/
def reservedWords : List String :=
  ["source", "class", "instance", "from", "as", "where", "type", "import", "object", "table",
    "record", "export"]

namespace Rule

def whitespace : Rule := emits .whitespace blanks

def lineComment : Rule := emits .commentSingle Lexeme.lineComment

def blockComment : Rule := opens .commentMultiline commentOpen .comment

def interpolation : Rule := opens .stringInterpol interpolationOpen .interpolation

def punctuation : Rule := emits .punctuation (one isPunctuation)

/-- Declaration headers. Each is taken as a whole, so that the names in it get their own kinds
and a list that it opens gets its own mode. -/
def headers : List Rule :=
  [groups [(.keyword, word "source"), (.whitespace, blanks), (.nameType, languageName),
      (.whitespace, blanks), (.keyword, word "from"), (.whitespace, blanks),
      (.string, plainString), (.whitespace, many isBlank), (.text, char '(')] (.push .sourceList),
    groups [(.keyword, word "source"), (.whitespace, blanks), (.nameType, languageName),
      (.whitespace, many isBlank), (.text, char '(')] (.push .sourceList),
    groups [(.keyword, word "type"), (.whitespace, blanks), (.nameType, upperName)] .stay,
    groups [(.keyword, word "import"), (.whitespace, blanks), (.name, importPath),
      (.whitespace, many isBlank), (.punctuation, char '(')] (.push .importList),
    groups [(.keyword, word "import"), (.whitespace, blanks), (.name, importPath)] .stay,
    groups [(.keyword, word "import"), (.whitespace, many isBlank), (.punctuation, char '(')]
      (.push .importList)]

def names : List Rule :=
  [emits .name lowerName, emits .nameType upperName, emits .operator (char '_')]

/-- Floats come before integers, and both before the selector dot, so that `3.0` is one float. -/
def numbers : List Rule :=
  [emits (.number .float) hexFloatExponent,
    emits (.number .float) hexFloatFraction,
    emits (.number .float) floatExponent,
    emits (.number .float) floatFraction,
    emits (.number .bin) (radixInteger 'b' 2),
    emits (.number .oct) (radixInteger 'o' 8),
    emits (.number .hex) (radixInteger 'x' 16),
    emits (.number .integer) (digitsIn 10)]

def literals : List Rule :=
  names ++ numbers ++
    [opens .operator selectorDot .pattern,
      opens .string (text "\"\"\"") .multilineString,
      opens .string (text "\"") .string,
      emits .keywordType (text "[]"),
      emits .nameBuiltin (text "()"),
      emits .operator operator]

/-- What every mode accepts that accepts an expression. -/
def expression : List Rule :=
  [whitespace, blockComment, interpolation] ++ literals ++
    [opens .punctuation (char '(') .parens,
      opens .punctuation (char '{') .braces,
      opens .punctuation (char '[') .brackets,
      punctuation]

def stringBody : List Rule :=
  [emits .string stringText, interpolation, emits .string (char '#'),
    opens .stringEscape (char '\\') .escape]

def listBody (m : Mode) : List Rule :=
  [whitespace, lineComment, opens .text (char '(') m, closes .text (char ')')]

end Rule

open Rule

def Mode.rules : Mode → List Rule
  | root =>
    [whitespace, Rule.lineComment, blockComment, opens .keyword (word "module") moduleName] ++
      headers ++ reservedWords.map (emits .keyword <| word ·) ++
      [emits .keywordType promotedType] ++ literals ++ [punctuation]
  | comment =>
    [emits .commentMultiline commentText, blockComment, closes .commentMultiline commentClose,
      emits .commentMultiline (one isCommentMark)]
  | moduleName => [whitespace, closes .name dottedName, leaveWhen fun _ => true]
  | string => stringBody ++ [closes .string (char '"')]
  | multilineString =>
    closes .string (text "\"\"\"") :: stringBody ++ [emits .string (char '"')]
  | escape =>
    [closes .stringEscape namedEscape, closes .stringEscape controlEscape,
      closes .stringEscape octalEscape, closes .stringEscape hexEscape,
      closes .stringEscape decimalEscape,
      groups [(.whitespace, blanks), (.stringEscape, char '\\')] .pop,
      closes .error (one (· != '\n'))]
  | interpolation => closes .stringInterpol (char '}') :: expression
  | sourceList =>
    listBody sourceList ++
      [groups [(.string, plainString), (.whitespace, blanks), (.keyword, word "as"),
        (.whitespace, blanks), (.name, many1 isWord)] .stay,
        emits .string plainString, emits .punctuation (char ',')]
  | importList =>
    listBody importList ++ [emits .name importedName, emits .punctuation (char ',')]
  | pattern =>
    [token .punctuation (char '(') (.replace patternGroup), closes .name fieldSelector,
      closes (.number .integer) indexSelector, leaveWhen fun _ => true]
  | patternGroup =>
    [whitespace, opens .operator (char '.') pattern, opens .operator (char '=') patternValue,
      emits .punctuation (char ','), closes .punctuation (char ')')]
  | patternValue =>
    [opens .punctuation (char '(') parens,
      leaveWhen fun next => next == some ',' || next == some ')'] ++ expression
  | parens => closes .punctuation (char ')') :: expression
  | braces => closes .punctuation (char '}') :: expression
  | brackets => closes .punctuation (char ']') :: expression

theorem Mode.isZeroWidth_of_mem_rules_root {r : Rule} (h : r ∈ Mode.root.rules) :
    r.isZeroWidth = false := by
  have : ∀ r ∈ Mode.root.rules, r.isZeroWidth = false := by decide
  exact this r h

end ModalLexer
