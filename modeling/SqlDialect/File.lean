import SqlDialect.Fault
import SqlDialect.Text.Utf8

/-! Files, seen from their reader. -/

set_option autoImplicit false

namespace SqlDialect

inductive FileContent where
  | missing
  | directory
  | bytes (b : List UInt8)
  deriving DecidableEq

def FileContent.read : FileContent → Except Fault Text
  | missing => .error (.inputOutput "No such file or directory (os error 2)")
  | directory => .error (.inputOutput "Is a directory (os error 21)")
  | bytes b =>
    match Text.ofUtf8? b with
    | some s => .ok s
    | none => .error (.inputOutput "stream did not contain valid UTF-8")

end SqlDialect
