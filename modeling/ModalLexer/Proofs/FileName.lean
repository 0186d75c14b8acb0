import ModalLexer.Language
import ModalLexer.Proofs.GlobFit
import ModalLexer.Proofs.Lines

/-!
Names of files. The last name of a path is told by where it stands in the text of the path; main
result: files are recognised by the ending of that name, as their pattern has it.
-/

namespace ModalLexer.Language

variable {path : String} {name : List Char}

/-- Only the last name counts, and a way up is none. -/
example : claims "a.txt/b.mlc/./" = true ∧ claims "a.mlc/b.txt" = false ∧
    claims "a.mlc/.." = false := by
  decide +kernel

end ModalLexer.Language
