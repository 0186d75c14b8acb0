import ModalLexer.Command.Check
import ModalLexer.Command.Info
import ModalLexer.Command.Tokens

/-!
Command lines. Options stand before or after the name of the command, alone or with a value; what
follows two hyphens is no option.
-/

namespace ModalLexer

inductive CommandName
  | tokens | check | info
  deriving DecidableEq, Repr

namespace CommandName

def name : CommandName → String
  | tokens => "tokens"
  | check => "check"
  | info => "info"

def named? (s : String) : Option CommandName := [tokens, check, info].find? (·.name == s)

def maxOperands? : CommandName → Option Nat
  | tokens => some 1
  | check | info => none

end CommandName

inductive UsageFault
  | unknownOption (arg : String)
  | repeated (option : String)
  | missingValue (option : String)
  | unneededValue (option : String)
  | invalidValue (option value : String)
  | unknownCommand (arg : String)
  | missingCommand
  | missingOperand
  | emptyOperand
  | surplusOperand (arg : String)
  deriving DecidableEq, Repr

inductive Halt
  | usage (fault : UsageFault)
  | version (command : Option CommandName)
  deriving DecidableEq, Repr

inductive Switch
  | verbose | config | noColor | version
  | format | skipWhitespace | stats | jobs | kinds
  deriving DecidableEq, Repr

structure OptionSpec where
  switch : Switch
  long : String
  short : Option Char
  takesValue : Bool

namespace OptionSpec

def verbose : OptionSpec := ⟨.verbose, "verbose", some 'v', false⟩
def config : OptionSpec := ⟨.config, "config", some 'c', true⟩
def noColor : OptionSpec := ⟨.noColor, "no-color", none, false⟩
def version : OptionSpec := ⟨.version, "version", some 'V', false⟩
def format : OptionSpec := ⟨.format, "format", some 'F', true⟩
def skipWhitespace : OptionSpec := ⟨.skipWhitespace, "skip-whitespace", some 's', false⟩
def stats : OptionSpec := ⟨.stats, "stats", none, false⟩
def jobs : OptionSpec := ⟨.jobs, "jobs", some 'j', true⟩
def kinds : OptionSpec := ⟨.kinds, "kinds", some 'k', false⟩

/-- The options that may follow the name of a command, or precede every name. -/
def allowed : Option CommandName → List OptionSpec
  | none => [verbose, config, noColor, version]
  | some .tokens => allowed none ++ [format, skipWhitespace, stats]
  | some .check => allowed none ++ [jobs]
  | some .info => allowed none ++ [kinds]

end OptionSpec

/-- A number of jobs, perhaps with a sign in front. -/
def jobsValue? (s : String) : Option Nat :=
  let value? (ds : List Char) : Option Nat :=
    if ds.isEmpty || !ds.all Char.isDigit then none
    else some (ds.foldl (fun n d => n * 10 + (digitValue? d).getD 0) 0)
  let n := match s.toList with
    | '+' :: ds => value? ds
    | '-' :: ds => (value? ds).filter (· = 0)
    | ds => value? ds
  n.filter (· < Settings.jobsBound)

structure Seen where
  options : List (Switch × String)
  operands : List String

namespace Seen

def nothing : Seen := ⟨[], []⟩

def has (s : Seen) (w : Switch) : Bool := s.options.any (·.1 == w)

def value? (s : Seen) (w : Switch) : Option String := s.options.lookup w

def accepts (o : OptionSpec) (value : String) : Bool :=
  match o.switch with
  | .config => value != ""
  | .jobs => (jobsValue? value).isSome
  | _ => true

/-- Options are not repeated. -/
def note (s : Seen) (o : OptionSpec) (value : String) : Except Halt Seen :=
  if s.has o.switch then .error (.usage (.repeated o.long))
  else if !accepts o value then .error (.usage (.invalidValue o.long value))
  else .ok { s with options := s.options ++ [(o.switch, value)] }

/-- Every operand is a path, so none may be empty. -/
def addOperand (s : Seen) (c : CommandName) (arg : String) : Except Halt Seen :=
  if c.maxOperands?.any (s.operands.length ≥ ·) then .error (.usage (.surplusOperand arg))
  else if arg = "" then .error (.usage .emptyOperand)
  else .ok { s with operands := s.operands ++ [arg] }

/-- A long option, given without its hyphens: what was seen with it, and the option that still
waits for a value. -/
def readLong (s : Seen) (level : Option CommandName) (arg : List Char) :
    Except Halt (Seen × Option OptionSpec) :=
  let name := arg.takeWhile (· != '=')
  let value := (arg.drop name.length).tail?.map String.ofList
  match (OptionSpec.allowed level).find? (·.long.toList == name) with
  | none => .error (.usage (.unknownOption (String.ofList arg)))
  | some o =>
    match o.takesValue, value with
    | true, some v => do return (← s.note o v, none)
    | true, none => .ok (s, some o)
    | false, some _ => .error (.usage (.unneededValue o.long))
    | false, none =>
      if o.switch = .version then .error (.version level)
      else do return (← s.note o "", none)

/-- Short options in one argument, the last of which may have its value attached. -/
def readShort (s : Seen) (level : Option CommandName) :
    List Char → Except Halt (Seen × Option OptionSpec)
  | [] => .ok (s, none)
  | c :: rest =>
    match (OptionSpec.allowed level).find? (·.short == some c) with
    | none => .error (.usage (.unknownOption (String.ofList [c])))
    | some o =>
      if o.switch = .version then .error (.version level)
      else if o.takesValue then
        match rest with
        | [] => .ok (s, some o)
        | '=' :: v => do return (← s.note o (String.ofList v), none)
        | v => do return (← s.note o (String.ofList v), none)
      else do (← s.note o "").readShort level rest

/-- Reads arguments, up to the name of a command if none was read before; what is left is
returned. `waiting` is the option whose value comes next. -/
def read (level : Option CommandName) (waiting : Option OptionSpec) (s : Seen) :
    List String → Except Halt (Seen × List String)
  | [] =>
    match waiting with
    | some o => .error (.usage (.missingValue o.long))
    | none => .ok (s, [])
  | arg :: rest => do
    match waiting, arg.toList with
    | some o, '-' :: _ :: _ => throw (.usage (.missingValue o.long))
    | some o, _ => read level none (← s.note o arg) rest
    | none, ['-', '-'] =>
      match level, rest with
      | some c, rest => return (← rest.foldlM (fun s arg => s.addOperand c arg) s, [])
      | none, [] => return (s, [])
      | none, arg :: _ => throw (.usage (.unknownCommand arg))
    | none, '-' :: '-' :: long =>
      let (s, waiting) ← s.readLong level long
      read level waiting s rest
    | none, '-' :: c :: more =>
      let (s, waiting) ← s.readShort level (c :: more)
      read level waiting s rest
    | none, _ =>
      match level with
      | none => return (s, arg :: rest)
      | some c => read level none (← s.addOperand c arg) rest

end Seen

inductive Command
  | tokens (c : TokensCommand)
  | check (c : CheckCommand)
  | info (c : InfoCommand)

/-- What is asked for, with the options that all commands have. -/
structure Request where
  verbose : Bool
  settingsPath : Option String
  command : Command

namespace Request

def paths (q : Request) : List String :=
  q.settingsPath.toList ++
    match q.command with
    | .tokens c => [c.file]
    | .check c => c.files
    | .info _ => []

abbrev Environment := List (String × String)

/-- The value of a variable that stands in for a flag. It must be a truth value, unless the flag
is given on both sides of the name of the command. -/
def flagVariable (env : Environment) (key : String) (o : OptionSpec) (outer inner : Seen) :
    Except Halt Bool :=
  if outer.has o.switch && inner.has o.switch then .ok true
  else
    match env.lookup key with
    | none | some "false" => .ok false
    | some "true" => .ok true
    | some v => .error (.usage (.invalidValue o.long v))

def pathVariable (env : Environment) (key : String) (o : OptionSpec) (outer inner : Seen) :
    Except Halt (Option String) :=
  if outer.has o.switch && inner.has o.switch then .ok none
  else
    match env.lookup key with
    | some "" => .error (.usage (.invalidValue o.long ""))
    | v => .ok v

def commandOf (name : CommandName) (s : Seen) : Except Halt Command :=
  match name, s.operands with
  | .tokens, [] | .check, [] => .error (.usage .missingOperand)
  | .tokens, file :: _ =>
    .ok (.tokens ⟨file, s.value? .format, s.has .skipWhitespace, s.has .stats⟩)
  | .check, files => .ok (.check ⟨files, (s.value? .jobs).bind jobsValue?⟩)
  | .info, paths => .ok (.info ⟨s.has .kinds, paths⟩)

/-- What a command line asks for. An option after the name of the command overrules the same
option before it, and either overrules a variable. -/
def ofArguments (env : Environment) (args : List String) : Except Halt Request := do
  let (outer, rest) ← Seen.nothing.read none none args
  match rest with
  | [] => throw (.usage .missingCommand)
  | word :: rest =>
    match CommandName.named? word with
    | none => throw (.usage (.unknownCommand word))
    | some name =>
      let (inner, _) ← Seen.nothing.read (some name) none rest
      let command ← commandOf name inner
      let verbose ← flagVariable env "MORLEX_VERBOSE" .verbose outer inner
      let _ ← flagVariable env "MORLEX_NO_COLOR" .noColor outer inner
      let path ← pathVariable env "MORLEX_CONFIG" .config outer inner
      return {
        verbose := outer.has .verbose || inner.has .verbose || verbose
        settingsPath := ((inner.value? .config).or (outer.value? .config)).or path
        command }

end Request
end ModalLexer
