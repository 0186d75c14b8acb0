import ModalLexer.Dump
import ModalLexer.Proofs.Unquoting

/-!
Arrays of flat JSON objects read back. One reader cuts the text into marks, numbers and strings, a
character at a time; another takes these one at a time and puts the objects together. Between two
items the first reader is in the same state whatever it has read, so a text is read in pieces.
-/

namespace ModalLexer.Json

inductive Value
  | number (n : Nat)
  | string (s : String)
  deriving DecidableEq, Repr

/-- What a text is made of: brackets, separators, and values. -/
inductive Item
  | mark (c : Char)
  | value (v : Value)
  deriving DecidableEq, Repr

inductive Phase
  | between
  | number (n : Nat)
  | string (cs : List Char)
  | escape (cs : List Char)
  | code (cs : List Char) (digits n : Nat)

structure Reading where
  items : List Item
  phase : Phase

def marks : List Char := ['[', ']', '\x7b', '\x7d', ',', ':']

def spaces : List Char := [' ', '\n', '\t', '\r']

/-- The letters of short escapes, and what they stand for. -/
def shorts : List (Char × Char) :=
  [('"', '"'), ('\\', '\\'), ('/', '/'), ('b', '\x08'), ('f', '\x0c'), ('n', '\n'), ('r', '\r'),
    ('t', '\t')]

namespace Reading

def begin (items : List Item) (c : Char) : Option Reading :=
  if c = '"' then some ⟨items, .string []⟩
  else if c ∈ spaces then some ⟨items, .between⟩
  else if c ∈ marks then some ⟨items ++ [.mark c], .between⟩
  else (digit? 10 c).map fun d => ⟨items, .number d⟩

/-- A code point takes one escape: the pairs that stand for one of more than four digits are not
read. -/
def step (r : Reading) (c : Char) : Option Reading :=
  match r.phase with
  | .between => begin r.items c
  | .number n =>
    match digit? 10 c with
    | some d => some ⟨r.items, .number (10 * n + d)⟩
    | none => begin (r.items ++ [.value (.number n)]) c
  | .string cs =>
    if c = '"' then some ⟨r.items ++ [.value (.string (String.ofList cs))], .between⟩
    else if c = '\\' then some ⟨r.items, .escape cs⟩
    else if c.toNat < 0x20 then none
    else some ⟨r.items, .string (cs ++ [c])⟩
  | .escape cs =>
    if c = 'u' then some ⟨r.items, .code cs 0 0⟩
    else (shorts.lookup c).map fun x => ⟨r.items, .string (cs ++ [x])⟩
  | .code cs digits n =>
    (digit? 16 c).bind fun d =>
      if digits < 3 then some ⟨r.items, .code cs (digits + 1) (16 * n + d)⟩
      else if (16 * n + d).isValidChar then
        some ⟨r.items, .string (cs ++ [Char.ofNat (16 * n + d)])⟩
      else none

end Reading

def items? (cs : List Char) : Option (List Item) :=
  match cs.foldlM Reading.step ⟨[], .between⟩ with
  | some ⟨items, .between⟩ => some items
  | _ => none

/-- These characters are read as those items, whatever has been read before. -/
def Reads (cs : List Char) (items : List Item) : Prop :=
  ∀ before, cs.foldlM Reading.step ⟨before, .between⟩ = some ⟨before ++ items, .between⟩

theorem Reads.append {a b : List Char} {is js : List Item} (ha : Reads a is) (hb : Reads b js) :
    Reads (a ++ b) (is ++ js) := by
  intro before
  rw [List.foldlM_append, ha before, Option.bind_eq_bind, Option.bind_some, hb (before ++ is),
    List.append_assoc]

theorem Reads.items?_eq {cs : List Char} {is : List Item} (h : Reads cs is) :
    items? cs = some is := by
  rw [items?, h []]
  rfl

theorem hex4_eq : ∀ n < 0x20,
    JsonString.hex4 n = ['0', '0', (n / 16).digitChar, (n % 16).digitChar] := by decide

theorem read_control (items : List Item) (cs : List Char) {c : Char} (hc : c.toNat < 0x20) :
    (['\\', 'u'] ++ JsonString.hex4 c.toNat).foldlM Reading.step ⟨items, .string cs⟩ =
      some ⟨items, .string (cs ++ [c])⟩ := by
  have hzero : digit? 16 '0' = some 0 := rfl
  have hhigh := digit?_sixteen (c.toNat / 16) (by omega)
  have hlow := digit?_sixteen (c.toNat % 16) (by omega)
  have hopen : ['\\', 'u', '0', '0'].foldlM Reading.step ⟨items, .string cs⟩ =
      some ⟨items, .code cs 2 0⟩ := rfl
  have hthird : Reading.step ⟨items, .code cs 2 0⟩ (c.toNat / 16).digitChar =
      some ⟨items, .code cs 3 (c.toNat / 16)⟩ := by
    simp [Reading.step, hhigh]
  have hfourth : Reading.step ⟨items, .code cs 3 (c.toNat / 16)⟩ (c.toNat % 16).digitChar =
      some ⟨items, .string (cs ++ [c])⟩ := by
    have hvalid : c.toNat.isValidChar := c.valid
    simp [Reading.step, hlow, Nat.div_add_mod, hvalid]
  have hsplit : ['\\', 'u'] ++ JsonString.hex4 c.toNat =
      ['\\', 'u', '0', '0'] ++ [(c.toNat / 16).digitChar, (c.toNat % 16).digitChar] := by
    rw [hex4_eq _ hc]
    rfl
  rw [hsplit, List.foldlM_append, hopen]
  simp [hthird, hfourth]

theorem read_escape (items : List Item) (cs : List Char) (c : Char) :
    (JsonString.escape c).foldlM Reading.step ⟨items, .string cs⟩ =
      some ⟨items, .string (cs ++ [c])⟩ := by
  unfold JsonString.escape
  split
  case h_8 hquote hbackslash _ _ _ _ _ =>
    split
    case isTrue hcontrol => exact read_control items cs hcontrol
    case isFalse hplain =>
      have hstep : Reading.step ⟨items, .string cs⟩ c = some ⟨items, .string (cs ++ [c])⟩ := by
        rw [Reading.step]
        simp only [if_neg hquote, if_neg hbackslash, if_neg hplain]
      simpa using hstep
  all_goals rfl

theorem reads_string (s : String) :
    Reads (JsonString.encode s).toList [.value (.string s)] := by
  intro before
  have hopen : Reading.step ⟨before, .between⟩ '"' = some ⟨before, .string []⟩ := rfl
  have htext := foldlM_flatMap (read_escape before) [] s.toList
  rw [List.nil_append] at htext
  have hclose : Reading.step ⟨before, .string s.toList⟩ '"' =
      some ⟨before ++ [.value (.string s)], .between⟩ := by
    simp [Reading.step]
  rw [JsonString.encode, String.toList_ofList, List.cons_append, List.foldlM_cons, hopen,
    Option.bind_eq_bind, Option.bind_some, List.foldlM_append, htext]
  simp [hclose]

theorem foldlM_decimal (before : List Item) (n : Nat) :
    (decimal n).toList.foldlM Reading.step ⟨before, .between⟩ = some ⟨before, .number n⟩ := by
  have hstep : ∀ m, ∀ d < 10, Reading.step ⟨before, .number m⟩ d.digitChar =
      some ⟨before, .number (10 * m + d)⟩ := by
    intro m d hd
    simp [Reading.step, digit?_ten d hd]
  have hdigits := foldlM_toDigits (by decide) (fun m => Reading.mk before (.number m)) hstep n
  have hbegin : ∀ d < 10, Reading.step ⟨before, .between⟩ d.digitChar =
      Reading.step ⟨before, .number 0⟩ d.digitChar := by
    have hother : ∀ d < 10, Nat.digitChar d ≠ '"' ∧ Nat.digitChar d ∉ spaces ∧
        Nat.digitChar d ∉ marks := by decide
    intro d hd
    obtain ⟨hquote, hspace, hmark⟩ := hother d hd
    simp [Reading.step, Reading.begin, hquote, hspace, hmark, digit?_ten d hd]
  rw [decimal, String.toList_ofList]
  cases hcs : Nat.toDigits 10 n with
  | nil => exact absurd hcs Nat.toDigits_ne_nil
  | cons c cs =>
    have hmem : c ∈ Nat.toDigits 10 n := by simp [hcs]
    obtain ⟨d, hd, rfl⟩ := exists_digit_of_mem_toDigits (by decide) hmem
    rw [hcs] at hdigits
    rw [List.foldlM_cons, hbegin d hd, ← List.foldlM_cons, hdigits]

def Value.written : Value → String
  | number n => decimal n
  | string s => JsonString.encode s

theorem reads_value (v : Value) {c : Char} {cs : List Char} {is : List Item}
    (hc : digit? 10 c = none) (h : Reads (c :: cs) is) :
    Reads (v.written.toList ++ c :: cs) (.value v :: is) := by
  cases v with
  | string s => exact (reads_string s).append h
  | number n =>
    intro before
    have hend : Reading.step ⟨before, .number n⟩ c =
        Reading.step ⟨before ++ [.value (.number n)], .between⟩ c := by
      simp [Reading.step, hc]
    have hrest := h (before ++ [.value (.number n)])
    rw [Value.written, List.foldlM_append, foldlM_decimal, Option.bind_eq_bind, Option.bind_some,
      List.foldlM_cons, hend, ← List.foldlM_cons, hrest]
    simp

theorem reads_member (k : String) (v : Value) {c : Char} {cs : List Char} {is : List Item}
    (hc : digit? 10 c = none) (h : Reads (c :: cs) is) :
    Reads ((Dump.member k v.written).toList ++ c :: cs)
      (.value (.string k) :: .mark ':' :: .value v :: is) := by
  have hindent : Reads "    ".toList [] := fun before => by rw [List.append_nil]; rfl
  have hcolon : Reads ": ".toList [.mark ':'] := fun before => rfl
  have hall := (hindent.append (reads_string k)).append (hcolon.append (reads_value v hc h))
  simpa [Dump.member, List.append_assoc] using hall

abbrev Members := List (String × Value)

/-- What a reader of an array of objects waits for. -/
inductive Place
  | start
  | first
  | object
  | key (ms : Members)
  | colon (ms : Members) (k : String)
  | value (ms : Members) (k : String)
  | more (ms : Members)
  | next
  | stop

structure Array where
  objects : List Members
  place : Place

def Array.step (a : Array) (i : Item) : Option Array :=
  match a.place, i with
  | .start, .mark '[' => some ⟨a.objects, .first⟩
  | .first, .mark '\x7b' => some ⟨a.objects, .key []⟩
  | .first, .mark ']' => some ⟨a.objects, .stop⟩
  | .object, .mark '\x7b' => some ⟨a.objects, .key []⟩
  | .key ms, .value (.string k) => some ⟨a.objects, .colon ms k⟩
  | .colon ms k, .mark ':' => some ⟨a.objects, .value ms k⟩
  | .value ms k, .value v => some ⟨a.objects, .more (ms ++ [(k, v)])⟩
  | .more ms, .mark ',' => some ⟨a.objects, .key ms⟩
  | .more ms, .mark '\x7d' => some ⟨a.objects ++ [ms], .next⟩
  | .next, .mark ',' => some ⟨a.objects, .object⟩
  | .next, .mark ']' => some ⟨a.objects, .stop⟩
  | _, _ => none

def objects? (is : List Item) : Option (List Members) :=
  match is.foldlM Array.step ⟨[], .start⟩ with
  | some ⟨objects, .stop⟩ => some objects
  | _ => none

def read? (s : String) : Option (List Members) := (items? s.toList).bind objects?

def object (ms : Members) : String :=
  "  \x7b\n" ++ ",\n".intercalate (ms.map fun m => Dump.member m.1 m.2.written) ++ "\n  \x7d"

def memberItems : Members → List Item
  | [] => [.mark '\x7d']
  | [(k, v)] => [.value (.string k), .mark ':', .value v, .mark '\x7d']
  | (k, v) :: ms => .value (.string k) :: .mark ':' :: .value v :: .mark ',' :: memberItems ms

def objectItems (ms : Members) : List Item := .mark '\x7b' :: memberItems ms

def arrayItems : List Members → List Item
  | [] => [.mark ']']
  | [ms] => objectItems ms ++ [.mark ']']
  | ms :: mss => objectItems ms ++ .mark ',' :: arrayItems mss

theorem reads_members {ms : Members} (h : ms ≠ []) :
    Reads ((",\n".intercalate (ms.map fun m => Dump.member m.1 m.2.written)).toList ++
      ['\n', ' ', ' ', '\x7d']) (memberItems ms) := by
  have hclose : Reads ['\n', ' ', ' ', '\x7d'] [.mark '\x7d'] := fun before => rfl
  have hcomma : Reads [',', '\n'] [.mark ','] := fun before => rfl
  induction ms with
  | nil => contradiction
  | cons m ms ih =>
    obtain ⟨k, v⟩ := m
    cases ms with
    | nil => simpa [memberItems] using reads_member k v rfl hclose
    | cons m ms =>
      have hrest := hcomma.append (ih (by simp))
      have hall := reads_member k v rfl hrest
      simpa [memberItems, String.intercalate_cons_cons, List.append_assoc] using hall

theorem reads_object {ms : Members} (h : ms ≠ []) :
    Reads (object ms).toList (objectItems ms) := by
  have hopen : Reads "  \x7b\n".toList [.mark '\x7b'] := fun before => rfl
  simpa [object, objectItems, List.append_assoc] using hopen.append (reads_members h)

theorem reads_objects {mss : List Members} (hne : mss ≠ []) (h : ∀ ms ∈ mss, ms ≠ []) :
    Reads ((",\n".intercalate (mss.map object)).toList ++ "\n]\n".toList) (arrayItems mss) := by
  have hclose : Reads "\n]\n".toList [.mark ']'] := fun before => rfl
  have hcomma : Reads ",\n".toList [.mark ','] := fun before => rfl
  induction mss with
  | nil => contradiction
  | cons ms mss ih =>
    have hfirst := reads_object (h ms (by simp))
    cases mss with
    | nil => simpa [arrayItems] using hfirst.append hclose
    | cons next mss =>
      have hrest := ih (by simp) (fun m hm => h m (List.mem_cons_of_mem ms hm))
      have hall := hfirst.append (hcomma.append hrest)
      simpa [arrayItems, String.intercalate_cons_cons, List.append_assoc] using hall

theorem foldlM_memberItems {ms : Members} (h : ms ≠ []) (objects : List Members) (before : Members) :
    (memberItems ms).foldlM Array.step ⟨objects, .key before⟩ =
      some ⟨objects ++ [before ++ ms], .next⟩ := by
  induction ms generalizing before with
  | nil => contradiction
  | cons m ms ih =>
    obtain ⟨k, v⟩ := m
    cases ms with
    | nil => rfl
    | cons next ms =>
      have hrest := ih (by simp) (before ++ [(k, v)])
      simpa [memberItems, Array.step] using hrest

theorem foldlM_arrayItems {mss : List Members} (hne : mss ≠ []) (h : ∀ ms ∈ mss, ms ≠ [])
    (objects : List Members) {place : Place} (hplace : place = .first ∨ place = .object) :
    (arrayItems mss).foldlM Array.step ⟨objects, place⟩ = some ⟨objects ++ mss, .stop⟩ := by
  induction mss generalizing objects place with
  | nil => contradiction
  | cons ms mss ih =>
    have hopen : Array.step ⟨objects, place⟩ (.mark '\x7b') = some ⟨objects, .key []⟩ := by
      obtain rfl | rfl := hplace <;> rfl
    have hfirst : (objectItems ms).foldlM Array.step ⟨objects, place⟩ =
        some ⟨objects ++ [ms], .next⟩ := by
      rw [objectItems, List.foldlM_cons, hopen, Option.bind_eq_bind, Option.bind_some,
        foldlM_memberItems (h ms (by simp)), List.nil_append]
    cases mss with
    | nil => simp [arrayItems, hfirst, Array.step]
    | cons next mss =>
      have hrest := ih (by simp) (fun m hm => h m (List.mem_cons_of_mem ms hm)) (objects ++ [ms])
        (.inr rfl)
      simpa [arrayItems, hfirst, Array.step] using hrest

/-- An array of objects, written a line for each member, reads as these objects. -/
theorem read?_objects {mss : List Members} (hne : mss ≠ []) (h : ∀ ms ∈ mss, ms ≠ []) :
    read? ("[\n" ++ ",\n".intercalate (mss.map object) ++ "\n]\n") = some mss := by
  have hopen : Reads "[\n".toList [.mark '['] := fun before => rfl
  have hitems := hopen.append (reads_objects hne h)
  have harray := foldlM_arrayItems hne h [] (.inl rfl)
  rw [read?, String.toList_append, String.toList_append, List.append_assoc, hitems.items?_eq,
    Option.bind_some, objects?]
  simp [Array.step, harray]

theorem read?_nil : read? "[]\n" = some [] := rfl

end ModalLexer.Json
