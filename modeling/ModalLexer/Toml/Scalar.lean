import ModalLexer.Text.CharClass
import ModalLexer.Toml.Value

/-!
Strings, numbers, dates and truth values in TOML notation. Each reader returns what it read and
the text that is left.
-/

namespace ModalLexer.Toml

def isSpace (c : Char) : Bool := c == ' ' || c == '\t'

/-- Characters that need no escape: all but the controls other than the tab. -/
def isPlain (c : Char) : Bool := c == '\t' || (0x20 ≤ c.toNat && c.toNat != 0x7f)

def scalarValue? (n : Nat) : Option Char :=
  if n.isValidChar then some (Char.ofNat n) else none

def digitsValue? (base : Nat) (ds : List Char) : Option Nat :=
  if ds.all (isDigitIn base) then
    some (ds.foldl (fun n d => n * base + (digitValue? d).getD 0) 0)
  else none

def namedEscape? : Char → Option Char
  | 'b' => some '\x08'
  | 't' => some '\t'
  | 'n' => some '\n'
  | 'f' => some '\x0c'
  | 'r' => some '\r'
  | '"' => some '"'
  | '\\' => some '\\'
  | _ => none

def push (c : Option Char) (r : Option (List Char × List Char)) :
    Option (List Char × List Char) := do
  let c ← c
  let (s, rest) ← r
  return (c :: s, rest)

def basicBody : List Char → Option (List Char × List Char)
  | '"' :: rest => some ([], rest)
  | '\\' :: 'u' :: a :: b :: c :: d :: rest =>
    push ((digitsValue? 16 [a, b, c, d]).bind scalarValue?) (basicBody rest)
  | '\\' :: 'U' :: a :: b :: c :: d :: e :: f :: g :: h :: rest =>
    push ((digitsValue? 16 [a, b, c, d, e, f, g, h]).bind scalarValue?) (basicBody rest)
  | '\\' :: c :: rest => push (namedEscape? c) (basicBody rest)
  | c :: rest => if isPlain c then push (some c) (basicBody rest) else none
  | [] => none

def atLineEnd (cs : List Char) : Bool :=
  match cs.dropWhile isSpace with
  | '\n' :: _ | '\r' :: '\n' :: _ => true
  | _ => false

/-- The text of a string in three quotes, up to the closing ones; one or two quotes may stand
directly before those. A backslash at the end of a line, here entered as `gap`, takes away the
blanks up to the next text. -/
def longBasicBody (gap : Bool) : List Char → Option (List Char × List Char)
  | '"' :: '"' :: '"' :: '"' :: '"' :: rest => some (['"', '"'], rest)
  | '"' :: '"' :: '"' :: '"' :: rest => some (['"'], rest)
  | '"' :: '"' :: '"' :: rest => some ([], rest)
  | '\\' :: 'u' :: a :: b :: c :: d :: rest =>
    push ((digitsValue? 16 [a, b, c, d]).bind scalarValue?) (longBasicBody false rest)
  | '\\' :: 'U' :: a :: b :: c :: d :: e :: f :: g :: h :: rest =>
    push ((digitsValue? 16 [a, b, c, d, e, f, g, h]).bind scalarValue?) (longBasicBody false rest)
  | '\\' :: c :: rest =>
    if atLineEnd (c :: rest) then longBasicBody true (c :: rest)
    else push (namedEscape? c) (longBasicBody false rest)
  | '\r' :: '\n' :: rest =>
    if gap then longBasicBody true rest else push (some '\n') (longBasicBody false rest)
  | '\n' :: rest =>
    if gap then longBasicBody true rest else push (some '\n') (longBasicBody false rest)
  | c :: rest =>
    if gap && isSpace c then longBasicBody true rest
    else if isPlain c then push (some c) (longBasicBody false rest)
    else none
  | [] => none

def literalBody : List Char → Option (List Char × List Char)
  | '\'' :: rest => some ([], rest)
  | c :: rest => if isPlain c then push (some c) (literalBody rest) else none
  | [] => none

def longLiteralBody : List Char → Option (List Char × List Char)
  | '\'' :: '\'' :: '\'' :: '\'' :: '\'' :: rest => some (['\'', '\''], rest)
  | '\'' :: '\'' :: '\'' :: '\'' :: rest => some (['\''], rest)
  | '\'' :: '\'' :: '\'' :: rest => some ([], rest)
  | '\r' :: '\n' :: rest => push (some '\n') (longLiteralBody rest)
  | '\n' :: rest => push (some '\n') (longLiteralBody rest)
  | c :: rest => if isPlain c then push (some c) (longLiteralBody rest) else none
  | [] => none

/-- A line ending directly after the opening quotes is not part of the string. -/
def dropFirstNewline : List Char → List Char
  | '\n' :: rest | '\r' :: '\n' :: rest => rest
  | cs => cs

def shortString? : List Char → Option (String × List Char)
  | '"' :: rest => (basicBody rest).map fun (s, r) => (String.ofList s, r)
  | '\'' :: rest => (literalBody rest).map fun (s, r) => (String.ofList s, r)
  | _ => none

def string? : List Char → Option (String × List Char)
  | '"' :: '"' :: '"' :: rest =>
    (longBasicBody false (dropFirstNewline rest)).map fun (s, r) => (String.ofList s, r)
  | '\'' :: '\'' :: '\'' :: rest =>
    (longLiteralBody (dropFirstNewline rest)).map fun (s, r) => (String.ofList s, r)
  | cs => shortString? cs

/-- Digits with single underscores between them. -/
def isDigitRow (base : Nat) : List Char → Bool
  | [] => false
  | [d] => isDigitIn base d
  | d :: '_' :: rest => isDigitIn base d && isDigitRow base rest
  | d :: rest => isDigitIn base d && isDigitRow base rest

def unsign : List Char → List Char
  | '+' :: rest | '-' :: rest => rest
  | cs => cs

def isDecimal (ds : List Char) : Bool :=
  isDigitRow 10 ds && (ds.head? != some '0' || ds == ['0'])

def rowValue (base : Nat) (ds : List Char) : Nat :=
  (digitsValue? base (ds.filter (· != '_'))).getD 0

/-- An integer in decimal, or without a sign in another base; it must fit into 64 bits. -/
def integer? (cs : List Char) : Option Int :=
  let inBase (base : Nat) (ds : List Char) : Option Nat :=
    if isDigitRow base ds then some (rowValue base ds) else none
  let n : Option Int :=
    match cs with
    | '0' :: 'x' :: ds => (inBase 16 ds).map Int.ofNat
    | '0' :: 'o' :: ds => (inBase 8 ds).map Int.ofNat
    | '0' :: 'b' :: ds => (inBase 2 ds).map Int.ofNat
    | '-' :: ds => if isDecimal ds then some (-(rowValue 10 ds : Int)) else none
    | cs => if isDecimal (unsign cs) then some (rowValue 10 (unsign cs)) else none
  n.filter fun n => -0x8000000000000000 ≤ n && n < 0x8000000000000000

def isExponent : List Char → Bool
  | [] => true
  | c :: rest => (c == 'e' || c == 'E') && isDigitRow 10 (unsign rest)

def isFloat (cs : List Char) : Bool :=
  let cs := unsign cs
  let isRowChar (c : Char) : Bool := c.isDigit || c == '_'
  cs == "inf".toList || cs == "nan".toList ||
    (isDecimal (cs.takeWhile isRowChar) &&
      match cs.dropWhile isRowChar with
      | [] => false
      | '.' :: rest =>
        isDigitRow 10 (rest.takeWhile isRowChar) && isExponent (rest.dropWhile isRowChar)
      | rest => isExponent rest)

def isWithin (low high : Nat) (ds : List Char) : Bool :=
  (digitsValue? 10 ds).any fun n => low ≤ n && n ≤ high

def daysIn (year month : Nat) : Nat :=
  if month = 2 then
    if year % 4 = 0 ∧ (year % 100 ≠ 0 ∨ year % 400 = 0) then 29 else 28
  else if month ∈ [4, 6, 9, 11] then 30 else 31

def isDate : List Char → Bool
  | [a, b, c, d, '-', m, n, '-', x, y] =>
    isWithin 0 9999 [a, b, c, d] && isWithin 1 12 [m, n] &&
      isWithin 1 (daysIn (rowValue 10 [a, b, c, d]) (rowValue 10 [m, n])) [x, y]
  | _ => false

def isOffset : List Char → Bool
  | [] | ['Z'] | ['z'] => true
  | [s, a, b, ':', c, d] =>
    (s == '+' || s == '-') && isWithin 0 23 [a, b] && isWithin 0 59 [c, d]
  | _ => false

def isTime (tail : List Char → Bool) : List Char → Bool
  | a :: b :: ':' :: c :: d :: ':' :: e :: f :: rest =>
    isWithin 0 23 [a, b] && isWithin 0 59 [c, d] && isWithin 0 60 [e, f] &&
      match rest with
      | '.' :: rest =>
        !(rest.takeWhile Char.isDigit).isEmpty && tail (rest.dropWhile Char.isDigit)
      | rest => tail rest
  | _ => false

/-- A date, a time, or both with a letter between them and perhaps an offset behind. -/
def isDatetime (cs : List Char) : Bool :=
  isDate cs || isTime List.isEmpty cs ||
    (isDate (cs.take 10) &&
      match cs.drop 10 with
      | 'T' :: rest | 't' :: rest => isTime isOffset rest
      | _ => false)

/-- The characters of which numbers, dates and truth values are made. -/
def isPlainScalarChar (c : Char) : Bool :=
  isDigitIn 36 c || c == '_' || c == '+' || c == '-' || c == '.' || c == ':'

def plainScalar? (cs : List Char) : Option Value :=
  if cs = "true".toList then some (.boolean true)
  else if cs = "false".toList then some (.boolean false)
  else if isDatetime cs then some (.datetime (String.ofList cs))
  else if isFloat cs then some (.float (String.ofList cs))
  else (integer? cs).map .integer

/-- The time that follows a date after one space, with what is left behind it. -/
def spacedTime? : List Char → Option (List Char × List Char)
  | ' ' :: rest =>
    let time := rest.takeWhile isPlainScalarChar
    if isTime isOffset time then some (time, rest.drop time.length) else none
  | _ => none

def scalar? (cs : List Char) : Option (Value × List Char) :=
  match cs with
  | '"' :: _ | '\'' :: _ => (string? cs).map fun (s, r) => (.string s, r)
  | _ =>
    let token := cs.takeWhile isPlainScalarChar
    let rest := cs.drop token.length
    if isDate token then
      match spacedTime? rest with
      | some (time, rest) => some (.datetime (String.ofList (token ++ ' ' :: time)), rest)
      | none => some (.datetime (String.ofList token), rest)
    else (plainScalar? token).map (·, rest)

end ModalLexer.Toml
