import ModalLexer.Toml.Scalar

/-!
Reading TOML documents. A document is first cut into headers and entries, which are then put
together.
-/

namespace ModalLexer.Toml

/-- Arrays and braces may nest, and keys may be dotted, less deep than this. -/
def depthLimit : Nat := 80

def skipSpaces (cs : List Char) : List Char := cs.dropWhile isSpace

def skipFiller (inComment : Bool) : List Char → Option (List Char)
  | [] => some []
  | '\n' :: rest => skipFiller false rest
  | '\r' :: '\n' :: rest => skipFiller false rest
  | c :: rest =>
    if inComment then if isPlain c then skipFiller true rest else none
    else if isSpace c then skipFiller false rest
    else if c == '#' then skipFiller true rest
    else some (c :: rest)

def skipLine (cs : List Char) : Option (List Char) :=
  let cs := skipSpaces cs
  let cs := if cs.head? == some '#' then cs.dropWhile isPlain else cs
  match cs with
  | [] => some []
  | '\n' :: rest | '\r' :: '\n' :: rest => some rest
  | _ => none

def isBareKeyChar (c : Char) : Bool := isDigitIn 36 c || c == '_' || c == '-'

def simpleKey? (cs : List Char) : Option (String × List Char) :=
  match cs with
  | '"' :: _ | '\'' :: _ => shortString? cs
  | _ =>
    let key := cs.takeWhile isBareKeyChar
    if key.isEmpty then none else some (String.ofList key, cs.drop key.length)

/-- A key of at most `n` parts, with blanks around each. -/
def keyPath? : Nat → List Char → Option (List String × List Char)
  | 0, _ => none
  | n + 1, cs => do
    let (key, cs) ← simpleKey? (skipSpaces cs)
    match skipSpaces cs with
    | '.' :: rest =>
      let (path, rest) ← keyPath? n rest
      return (key :: path, rest)
    | rest => return ([key], rest)

def key? (cs : List Char) : Option ((List String × String) × List Char) := do
  let (path, rest) ← keyPath? (depthLimit - 1) cs
  let last ← path.getLast?
  return ((path.dropLast, last), rest)

abbrev ValueReader := List Char → Option (Value × List Char)

/-- The items of an array, up to its closing bracket; there are fewer than `n`. -/
def items? (value? : ValueReader) : Nat → List Char → Option (List Value × List Char)
  | 0, _ => none
  | n + 1, cs => do
    match ← skipFiller false cs with
    | ']' :: rest => return ([], rest)
    | cs =>
      let (v, cs) ← value? cs
      match ← skipFiller false cs with
      | ',' :: rest =>
        let (vs, rest) ← items? value? n rest
        return (v :: vs, rest)
      | ']' :: rest => return ([v], rest)
      | _ => none

def pair? (value? : ValueReader) (cs : List Char) :
    Option ((List String × String) × Value × List Char) := do
  match ← key? cs with
  | (key, '=' :: rest) =>
    let (v, rest) ← value? (skipSpaces rest)
    return (key, v, rest)
  | _ => none

/-- The entries in braces, up to the closing one, added to those before them; there are fewer
than `n`. -/
def pairs? (value? : ValueReader) : Nat → Entries → List Char → Option (Entries × List Char)
  | 0, _, _ => none
  | n + 1, es, cs => do
    let ((path, key), v, cs) ← pair? value? cs
    let es ← es.insert path key v .header
    match skipSpaces cs with
    | ',' :: rest => pairs? value? n es rest
    | '}' :: rest => return (es, rest)
    | _ => none

/-- A value in which brackets and braces nest at most `depth` deep. -/
def value? : Nat → ValueReader
  | depth + 1, '[' :: rest =>
    (items? (value? depth) (rest.length + 1) rest).map fun (vs, r) => (.array vs, r)
  | depth + 1, '{' :: rest =>
    match skipSpaces rest with
    | '}' :: rest => some (.table .inline [], rest)
    | rest =>
      (pairs? (value? depth) (rest.length + 1) [] rest).map fun (es, r) => (.table .inline es, r)
  | _, cs => scalar? cs

inductive Statement
  | header (path : List String) (key : String)
  | seriesHeader (path : List String) (key : String)
  | entry (path : List String) (key : String) (value : Value)

def statement? : List Char → Option (Statement × List Char)
  | '[' :: '[' :: rest => do
    match ← key? rest with
    | ((path, key), ']' :: ']' :: rest) => return (.seriesHeader path key, ← skipLine rest)
    | _ => none
  | '[' :: rest => do
    match ← key? rest with
    | ((path, key), ']' :: rest) => return (.header path key, ← skipLine rest)
    | _ => none
  | cs => do
    let ((path, key), v, rest) ← pair? (value? (depthLimit - 1)) cs
    return (.entry path key v, ← skipLine rest)

def statements? : Nat → List Char → Option (List Statement)
  | 0, _ => none
  | n + 1, cs => do
    match ← skipFiller false cs with
    | [] => return []
    | cs =>
      let (s, rest) ← statement? cs
      return s :: (← statements? n rest)

/-- Adds a statement to a document, of which the table at `here` is open. -/
def Statement.apply : Statement → List String × Entries → Option (List String × Entries)
  | header path key, (_, es) => do return (path ++ [key], ← es.openTable path key)
  | seriesHeader path key, (_, es) => do return (path ++ [key], ← es.openSeries path key)
  | entry path key v, (here, es) => do
    return (here, ← Entries.atPath false (Entries.insert path key v) here .header es)

/-- The entries of a document, unless it is malformed. A byte order mark may stand in front. -/
def read? (s : String) : Option Entries := do
  let cs := match s.toList with
    | '\ufeff' :: rest => rest
    | cs => cs
  let ss ← statements? (cs.length + 1) cs
  let (_, es) ← ss.foldlM (fun doc s => s.apply doc) ([], [])
  return es

end ModalLexer.Toml
