/-!
Text set into columns.
-/

namespace ModalLexer

def repeated (n : Nat) (c : Char) : String := String.ofList (List.replicate n c)

def alignLeft (width : Nat) (s : String) : String := s ++ repeated (width - s.toList.length) ' '

def alignRight (width : Nat) (s : String) : String := repeated (width - s.toList.length) ' ' ++ s

def zeroPadded (width n : Nat) : String :=
  repeated (width - (Nat.toDigits 10 n).length) '0' ++ String.ofList (Nat.toDigits 10 n)

def decimal (n : Nat) : String := String.ofList (Nat.toDigits 10 n)

end ModalLexer
