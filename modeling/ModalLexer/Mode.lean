/-!
The contexts in which text is read. The innermost open one decides which rules apply.
-/

namespace ModalLexer

inductive Mode
  | root | comment | moduleName
  | string | multilineString | escape | interpolation
  | sourceList | importList
  | pattern | patternGroup | patternValue
  | parens | braces | brackets
  deriving DecidableEq, Repr

namespace Mode

def all : List Mode :=
  [root, comment, moduleName, string, multilineString, escape, interpolation, sourceList,
    importList, pattern, patternGroup, patternValue, parens, braces, brackets]

theorem mem_all (m : Mode) : m ∈ all := by cases m <;> decide

def name : Mode → String
  | root => "root"
  | comment => "comment"
  | moduleName => "module"
  | string => "string"
  | multilineString => "multiline_string"
  | escape => "escape"
  | interpolation => "interpolation"
  | sourceList => "sourcelist"
  | importList => "import_list"
  | pattern => "pattern"
  | patternGroup => "pattern_group"
  | patternValue => "pattern_value"
  | parens => "parens"
  | braces => "braces"
  | brackets => "brackets"

/-- The name in a listing of the whole stack. -/
def label : Mode → String
  | root => "Root"
  | comment => "Comment"
  | moduleName => "Module"
  | string => "String"
  | multilineString => "MultilineString"
  | escape => "Escape"
  | interpolation => "Interpolation"
  | sourceList => "SourceList"
  | importList => "ImportList"
  | pattern => "Pattern"
  | patternGroup => "PatternGroup"
  | patternValue => "PatternValue"
  | parens => "Parens"
  | braces => "Braces"
  | brackets => "Brackets"

def named? (s : String) : Option Mode := all.find? (·.name == s)

theorem named?_name (m : Mode) : named? m.name = some m := by cases m <;> rfl

end Mode
end ModalLexer
