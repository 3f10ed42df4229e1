import SqlDialect.Schema.Script
import SqlDialect.Schema.Statement

/-! Importing a schema into a database of the other dialect.

Every statement is tried. A failure does not stop the run, but withholds the one commit at its
end.
-/

set_option autoImplicit false

namespace SqlDialect

/-- A database that takes schema statements, seen through its state. -/
structure Target (σ : Type) where
  execute : Text → σ → Except Fault Unit × σ
  commit : σ → Except Fault Unit × σ

inductive FailureKind where
  | unrecognized
  | translation
  | execution
  deriving DecidableEq

structure StatementFailure where
  kind : FailureKind
  statement : Text
  /-- The text that was sent, if it differs. -/
  translated : Option Text
  message : Text
  deriving DecidableEq

structure ImportReport where
  executed : Nat
  skipped : Nat
  failures : List StatementFailure
  enums : EnumRegistry
  committed : Bool
  /-- A line for each statement sent. -/
  echo : List Text

namespace ImportReport

def empty : ImportReport := ⟨0, 0, [], .empty, false, []⟩

def succeeded (report : ImportReport) : Bool := report.failures.isEmpty

def fail (report : ImportReport) (failure : StatementFailure) : ImportReport :=
  { report with failures := report.failures ++ [failure] }

end ImportReport

variable {σ : Type}

def sendStatement (target : Target σ) (report : ImportReport) (state : σ)
    (statement command : Text) : ImportReport × σ :=
  let report := { report with echo := report.echo ++ [statementSummary command] }
  match target.execute command state with
  | (.ok (), state) => ({ report with executed := report.executed + 1 }, state)
  | (.error fault, state) =>
    let translated := if command = statement then none else some command
    (report.fail ⟨.execution, statement, translated, fault.message⟩, state)

def importStatement (target : Target σ) (report : ImportReport) (state : σ) (statement : Text) :
    ImportReport × σ :=
  match StatementKind.ofText statement with
  | .sessionSetting | .unsupportedIndex | .alterTable =>
    ({ report with skipped := report.skipped + 1 }, state)
  | .enumDeclaration =>
    match EnumType.parse statement with
    | .ok type => ({ report with enums := report.enums.register type }, state)
    | .error fault => (report.fail ⟨.translation, statement, none, fault.message⟩, state)
  | .translatable =>
    sendStatement target report state statement (translateSchema report.enums statement)
  | .unrecognized =>
    sendStatement target
      (report.fail ⟨.unrecognized, statement, none, "unrecognized statement"⟩)
      state statement statement

def importEach (target : Target σ) (report : ImportReport) (state : σ) :
    List Text → ImportReport × σ
  | [] => (report, state)
  | statement :: rest =>
    let (report, state) := importStatement target report state statement
    importEach target report state rest

def commitImport (target : Target σ) (report : ImportReport) (state : σ) : ImportReport × σ :=
  if report.succeeded then
    match target.commit state with
    | (.ok (), state) => ({ report with committed := true }, state)
    | (.error fault, state) => (report.fail ⟨.execution, "COMMIT", none, fault.message⟩, state)
  else (report, state)

def importStatements (target : Target σ) (statements : List Text) (state : σ) :
    ImportReport × σ :=
  let (report, state) := importEach target .empty state statements
  commitImport target report state

def importFiles (target : Target σ) (files : List FileContent) (state : σ) :
    Except Fault (ImportReport × σ) :=
  (loadStatements files).map fun statements => importStatements target statements state

end SqlDialect
