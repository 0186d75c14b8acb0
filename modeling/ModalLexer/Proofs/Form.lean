import ModalLexer.Lexeme
import ModalLexer.Mode
import ModalLexer.Proofs.Language

/-!
How expressions are written: items with blanks after each, in which brackets, comments, strings and
groups of patterns nest to any depth.
-/

namespace ModalLexer

/-- An expression between two signs, read in a mode of its own. -/
inductive Enclosure
  | parens | brackets | braces | interpolation
  deriving DecidableEq, Repr

namespace Enclosure

def opener : Enclosure → List Char
  | parens => ['(']
  | brackets => ['[']
  | braces => ['{']
  | interpolation => ['#', '{']

def closer : Enclosure → Char
  | parens => ')'
  | brackets => ']'
  | braces | interpolation => '}'

def mode : Enclosure → Mode
  | parens => .parens
  | brackets => .brackets
  | braces => .braces
  | interpolation => .interpolation

end Enclosure

/-- A small ASCII letter and perhaps more letters and digits. -/
def IsName (t : List Char) : Prop :=
  ∃ x rest, x.isLower = true ∧ (∀ y ∈ rest, y.isAlphanum = true) ∧ t = x :: rest

def IsSelector (t : List Char) : Prop := IsName t ∨ IsRun Char.isDigit t

def escapeSigns : List Char := ['a', 'b', 'f', 'n', 'r', 't', 'v', '"', '\'', '&', '\\', '#']

inductive Category
  | expression | item | commentBody | stringBody | entry | entries
  deriving DecidableEq, Repr

/-- The texts of each category. Every item of an expression has blanks behind it; entries have
commas between them, and there may be none. -/
inductive Form : Category → List Char → Prop
  | empty : Form .expression []
  | cons {i b e : List Char} :
      Form .item i → IsRun isBlank b → Form .expression e → Form .expression (i ++ b ++ e)
  | name {t : List Char} : IsName t → Form .item t
  | number {t : List Char} : IsRun Char.isDigit t → Form .item t
  | selection {t : List Char} : IsSelector t → Form .item ('.' :: t)
  | enclosed {b e : List Char} (k : Enclosure) :
      IsRun isBlank b → Form .expression e → Form .item (k.opener ++ b ++ e ++ [k.closer])
  | comment {t : List Char} : Form .commentBody t → Form .item (['{', '-'] ++ t ++ ['-', '}'])
  | string {t : List Char} : Form .stringBody t → Form .item (['"'] ++ t ++ ['"'])
  | multiline {t : List Char} :
      Form .stringBody t → Form .item (['"', '"', '"'] ++ t ++ ['"', '"', '"'])
  | group {t : List Char} : Form .entries t → Form .item (['.', '('] ++ t ++ [')'])
  | commentEnd : Form .commentBody []
  | commentChar {x : Char} {t : List Char} :
      Lexeme.isCommentMark x = false → Form .commentBody t → Form .commentBody (x :: t)
  | commentNested {t u : List Char} :
      Form .commentBody t → Form .commentBody u →
        Form .commentBody (['{', '-'] ++ t ++ ['-', '}'] ++ u)
  | stringEnd : Form .stringBody []
  | stringChar {x : Char} {t : List Char} :
      Lexeme.isStringMark x = false → Form .stringBody t → Form .stringBody (x :: t)
  | stringEscape {x : Char} {t : List Char} :
      x ∈ escapeSigns → Form .stringBody t → Form .stringBody (['\\', x] ++ t)
  | stringInterpolation {b e t : List Char} :
      IsRun isBlank b → Form .expression e → Form .stringBody t →
        Form .stringBody (['#', '{'] ++ b ++ e ++ ['}'] ++ t)
  | entry {b₀ sel b₁ b₂ e : List Char} :
      (∀ x ∈ b₀, isBlank x = true) → IsSelector sel → (∀ x ∈ b₁, isBlank x = true) →
        (∀ x ∈ b₂, isBlank x = true) → Form .expression e →
          Form .entry (b₀ ++ ['.'] ++ sel ++ b₁ ++ ['='] ++ b₂ ++ e)
  | noEntries {b : List Char} : (∀ x ∈ b, isBlank x = true) → Form .entries b
  | lastEntry {t : List Char} : Form .entry t → Form .entries t
  | moreEntries {t u : List Char} :
      Form .entry t → Form .entries u → Form .entries (t ++ [','] ++ u)

end ModalLexer
