import SqlDialect.File
import SqlDialect.Text.Blank

/-! Schema scripts: files of statements that end with semicolons, with comments from `--` to the
end of a line. -/

set_option autoImplicit false

namespace SqlDialect

def withoutComment (line : Text) : Text :=
  match Text.cut? "--" line with
  | some (before, _) => before.trim
  | none => line.trim

-- The statements of a script, none of them empty. Lines are joined with spaces, so a statement may
-- run over many of them. A semicolon ends a statement wherever it stands.
def splitStatements (script : Text) : List Text :=
  let fragments := (script.lines.map withoutComment).filter (· ≠ [])
  let joined : Text := List.intercalate [' '] fragments
  ((joined.fields ';').map Text.trim).filter (· ≠ [])

def loadStatements : List FileContent → Except Fault (List Text)
  | [] => .ok []
  | file :: files => do
    let script ← file.read
    let rest ← loadStatements files
    return splitStatements script ++ rest

end SqlDialect
