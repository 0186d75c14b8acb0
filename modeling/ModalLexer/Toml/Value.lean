/-!
Values of TOML documents, and the order in which a document may build up its tables.
-/

namespace ModalLexer.Toml

/-- What brought a table about: a header of its own, a header of a table inside it, a dotted key,
or braces. -/
inductive Origin
  | header | implied | dotted | inline
  deriving DecidableEq, Repr

inductive Value
  | string (s : String)
  | integer (n : Int)
  | float (text : String)
  | boolean (b : Bool)
  | datetime (text : String)
  | array (items : List Value)
  | table (origin : Origin) (entries : List (String × Value))
  /-- The tables of repeated double-bracket headers, the latest first. -/
  | series (tables : List (List (String × Value)))

abbrev Entries := List (String × Value)

namespace Entries

def get? (es : Entries) (key : String) : Option Value := List.lookup key es

/-- Sets the value of a key to what `f` makes of the present one, or fails as `f` does. -/
def alter (es : Entries) (key : String) (f : Option Value → Option Value) : Option Entries :=
  match es with
  | [] => (f none).map fun v => [(key, v)]
  | (k, v) :: rest =>
    if k = key then (f (some v)).map fun w => (k, w) :: rest
    else (alter rest key f).map ((k, v) :: ·)

/-- Changes the table at the end of a path, making the tables on the way that are missing. Dotted
keys may not enter a table that has a header. -/
def atPath (dotted : Bool) (f : Origin → Entries → Option Entries) :
    List String → Origin → Entries → Option Entries
  | [], origin, es => f origin es
  | key :: path, _, es =>
    es.alter key fun
      | none =>
        let origin := if dotted then .dotted else .implied
        (atPath dotted f path origin []).map (.table origin)
      | some (.table .inline _) => none
      | some (.table origin inner) =>
        if dotted && origin == .header then none
        else (atPath dotted f path origin inner).map (.table origin)
      | some (.series (last :: earlier)) =>
        (atPath dotted f path .header last).map fun es => .series (es :: earlier)
      | some _ => none

/-- Adds a key that may be dotted. No key is set twice, and dotted keys extend only tables that
dotted keys have made. -/
def insert (path : List String) (key : String) (v : Value) (origin : Origin) (es : Entries) :
    Option Entries :=
  atPath true
    (fun o inner =>
      if (o == .dotted) == path.isEmpty then none
      else inner.alter key fun
        | none => some v
        | some _ => none)
    path origin es

/-- Begins the table of a header; only a table implied by earlier headers may be there. -/
def openTable (path : List String) (key : String) (es : Entries) : Option Entries :=
  atPath false
    (fun _ inner => inner.alter key fun
      | none => some (.table .header [])
      | some (.table .implied es) => some (.table .header es)
      | some _ => none)
    path .header es

def openSeries (path : List String) (key : String) (es : Entries) : Option Entries :=
  atPath false
    (fun _ inner => inner.alter key fun
      | none => some (.series [[]])
      | some (.series ts) => some (.series ([] :: ts))
      | some _ => none)
    path .header es

end Entries
end ModalLexer.Toml
