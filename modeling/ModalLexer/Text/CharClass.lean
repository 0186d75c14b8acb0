import ModalLexer.Text.Alphabetic
import ModalLexer.Text.Numeric
import ModalLexer.Text.Blank

/-!
Character classes of the Morloc language.
-/

namespace ModalLexer

def isWord (c : Char) : Bool := c == '_' || isAlphabetic c || isNumeric c

/-- Names may carry primes. -/
def isIdent (c : Char) : Bool := c == '\'' || isWord c

def isOperatorChar (c : Char) : Bool := "!#$%&*+./<=>?@\\^|~:-".toList.contains c

def isPunctuation (c : Char) : Bool := "[](),;`\x7b\x7d".toList.contains c

def isAsciiLetter (c : Char) : Bool := c.isLower || c.isUpper

/-- A dot directly before such a character selects a field. -/
def startsSelector (c : Char) : Bool := isWord c || c == '('

/-- The value of an ASCII digit; letters of either case count on from ten. -/
def digitValue? (c : Char) : Option Nat :=
  if c.isDigit then some (c.toNat - '0'.toNat)
  else if c.isLower then some (c.toNat - 'a'.toNat + 10)
  else if c.isUpper then some (c.toNat - 'A'.toNat + 10)
  else none

def isDigitIn (base : Nat) (c : Char) : Bool := (digitValue? c).any (· < base)

theorem isIdent_of_isWord {c : Char} (h : isWord c) : isIdent c := by
  simp [isIdent, h]

theorem isWord_of_isLowercase {c : Char} (h : isLowercase c) : isWord c := by
  simp [isWord, isAlphabetic_of_isLowercase h]

theorem isWord_of_isUppercase {c : Char} (h : isUppercase c) : isWord c := by
  simp [isWord, isAlphabetic_of_isUppercase h]

end ModalLexer
