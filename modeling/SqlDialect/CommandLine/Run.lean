import SqlDialect.Cell.FromJson
import SqlDialect.CommandLine.Arguments
import SqlDialect.CommandLine.Table
import SqlDialect.FileTree
import SqlDialect.Session.Connect
import SqlDialect.Session.Cursor
import SqlDialect.Session.Embedded
import SqlDialect.Settings.Basic

/-! What the program does, as a function on all that it finds around it. -/

set_option autoImplicit false

namespace SqlDialect

structure Site (σ : Type) where
  directory : Text
  port : UInt16
  /-- Nothing, when it serves nobody any more. -/
  state : Option σ
  log : List Wire.Request

structure World (σ : Type) where
  files : FileTree
  settingsDirectory : Text
  /-- A password that is given outside of the settings. -/
  password : Option Text
  /-- The time that a statement takes, in milliseconds. -/
  elapsed : Text
  site : Option (Site σ)

structure Output where
  code : Nat
  stdout : Text
  stderr : Text
  deriving DecidableEq

namespace Output

def success (stdout : Text) : Output := ⟨0, stdout, []⟩

def error (message : Text) : Output := ⟨1, [], "Error: " ++ message ++ ['\n']⟩

def errorWithCause (message cause : Text) : Output :=
  error (message ++ "\n\nCaused by:\n    " ++ cause)

def ofFailure : Failure → Output
  | .fault fault => error fault.message
  | .crash => ⟨101, [], "the program ended at once\n"⟩

def after (printed : Text) (o : Output) : Output := { o with stdout := printed ++ o.stdout }

end Output

variable {σ τ : Type}

/-! Translating -/

def parseParams : Option Text → Except Output (List Param)
  | none => .ok []
  | some s =>
    (Param.parseList s).mapError fun _ =>
      .errorWithCause "--params must be a JSON array" "malformed JSON"

def labelled (label value : Text) : Text := label ++ ": " ++ value ++ ['\n']

def translationText (m : Massaged) : Text :=
  m.query ++ '\n' ::
    ((if m.cells.isEmpty then [] else labelled "params" (Cell.literals m.cells)) ++
    (match m.hints.nulls with
      | none => []
      | some .first => labelled "nulls" "First"
      | some .last => labelled "nulls" "Last") ++
    (if m.hints.returningId then labelled "returning" "id" else []))

def runTranslate (params : Option Text) (query : Text) : Output :=
  match parseParams params with
  | .error output => output
  | .ok params =>
    match massage query params with
    | .error mismatch => .error mismatch.toFault.message
    | .ok massaged => .success (translationText massaged)

/-! Importing -/

def FailureKind.name : FailureKind → Text
  | unrecognized => "Unrecognized"
  | translation => "Translation"
  | execution => "Execution"

def failureText (f : StatementFailure) : Text :=
  "  " ++ f.kind.name ++ ": " ++ f.message ++ "\n    " ++ f.translated.getD f.statement ++ ['\n']

def reportOutput (isQuiet : Bool) (report : ImportReport) : Output :=
  if report.succeeded then
    .success <|
      if isQuiet then []
      else
        Text.ofNat report.executed ++ " statements executed, " ++ Text.ofNat report.skipped ++
          " skipped, " ++ Text.ofNat report.enums.size ++ " enum types\n"
  else
    ⟨1, [], Text.ofNat report.failures.length ++ " statements failed; nothing committed\n" ++
      report.failures.flatMap failureText⟩

/-- A database file is there once it was opened, whatever comes of the import. -/
def runImport (world : World σ) (database : Text) (isQuiet : Bool) (scripts : List Text) :
    Output × World σ :=
  let failed (fault : Fault) : Output :=
    .errorWithCause ("failed to import into " ++ database) fault.message
  match world.files.openDatabase database with
  | .error fault => (failed fault, world)
  | .ok db =>
    let kept (db : Engine.Database) : World σ :=
      { world with files := world.files.keep database db }
    match Embedded.importSchema (scripts.map (kept db).files.read) db with
    | (.error fault, db) => (failed fault, kept db)
    | (.ok report, db) => (reportOutput isQuiet report, kept db)

/-! Querying -/

def cursorText (elapsed : Text) (c : Cursor) : Text :=
  match c.result with
  | some result =>
    if result.columns.isEmpty then rowsAffected else result.toTable Text.width elapsed
  | none => rowsAffected
where
  rowsAffected : Text := Text.ofNat (c.rowCount.getD 0) ++ " rows affected\n"

/-- One statement in a session of its own: its result is printed before it is committed. -/
def runStatement (backend : Backend τ) (elapsed query : Text) (params : List Param) (s : τ) :
    Output × τ :=
  match Cursor.execute backend query params s with
  | (.error failure, _, s) => (.ofFailure failure, s)
  | (.ok (), c, s) =>
    let printed := cursorText elapsed c
    match backend.commit.outcome s with
    | (.error failure, s) => ((Output.ofFailure failure).after printed, s)
    | (.ok (), s) =>
      match backend.close.outcome s with
      | (.error failure, s) => ((Output.ofFailure failure).after printed, s)
      | (.ok (), s) => (.success printed, s)

namespace World

def settingsPath (world : World σ) : Text := world.settingsDirectory ++ "/sqlshim/config.toml"

def reach? (world : World σ) (s : ConnectionSettings) : Option σ :=
  match world.site with
  | none => none
  | some site =>
    if world.files.isAbsolute s.host ∧ s.port = site.port ∧
        world.files.resolve s.host = world.files.resolve site.directory then site.state
    else none

-- The world after a session. A server serves one.
def afterSession (world : World σ) (log : List Wire.Request) : World σ :=
  if log.isEmpty then world
  else { world with site := world.site.map fun site => { site with state := none, log := log } }

end World

def resolvePassword (world : World σ) (s : Settings) : Except Output Settings :=
  if s.driver = .postgresql ∧ s.connection.password = [] then
    match world.password with
    | some password => .ok { s with connection := { s.connection with password := password } }
    | none => .error (.error "No such device or address (os error 6)")
  else .ok s

def runEmbedded (world : World σ) (path query : Text) (params : List Param) :
    Output × World σ :=
  match world.files.openDatabase path with
  | .error fault => (.error fault.message, world)
  | .ok db =>
    let (output, db) := runStatement Embedded.backend world.elapsed query params db
    (output, { world with files := world.files.keep path db })

def runNative (server : Wire.Server σ) (world : World σ) (s : ConnectionSettings) (query : Text)
    (params : List Param) : Output × World σ :=
  let caFile := (s.caCertPath.map world.files.read).getD .missing
  match s.connect caFile server (world.reach? s) with
  | (.error fault, sent) => (.error fault.message, world.afterSession sent)
  | (.ok session, _) =>
    let (output, session) :=
      runStatement (NativeSession.backend server) world.elapsed query params session
    (output, world.afterSession session.log)

def runQuery (server : Wire.Server σ) (world : World σ) (config params : Option Text)
    (query : Text) : Output × World σ :=
  let prepared : Except Output (Settings × List Param) := do
    let loaded := Settings.load (world.files.read (config.getD world.settingsPath))
    let settings ← loaded.mapError fun fault => Output.error fault.message
    let settings ← resolvePassword world settings
    return (settings, ← parseParams params)
  match prepared with
  | .error output => (output, world)
  | .ok (settings, params) =>
    match settings.driver with
    | .sqlite => runEmbedded world settings.sqlitePath query params
    | .postgresql => runNative server world settings.connection query params

/-! The program -/

namespace Invocation

def paths (settingsPath : Text) : Invocation → List Text
  | .importSchema database _ files => database :: files
  | .query config _ _ => [config.getD settingsPath]
  | .translate _ _ | .help _ | .version => []

def furtherPaths (settingsPath : Text) (files : FileTree) : Invocation → List Text
  | .query config _ _ =>
    match Settings.load (files.read (config.getD settingsPath)) with
    | .ok settings =>
      match settings.driver with
      | .sqlite => [settings.sqlitePath]
      | .postgresql => settings.connection.caCertPath.toList
    | .error _ => []
  | .importSchema _ _ _ | .translate _ _ | .help _ | .version => []

end Invocation

def runInvocation (server : Wire.Server σ) (world : World σ) : Invocation → Output × World σ
  | .importSchema database isQuiet files => runImport world database isQuiet files
  | .translate params query => (runTranslate params query, world)
  | .query config params query => runQuery server world config params query
  | .help command => (.success (command.elim programHelp Command.help), world)
  | .version => (.success (programName ++ ' ' :: programVersion ++ ['\n']), world)

def runProgram (server : Wire.Server σ) (arguments : List Text) (world : World σ) :
    Output × World σ :=
  match Invocation.ofArguments arguments with
  | .error (command, error) => (⟨2, [], error.text command⟩, world)
  | .ok invocation => runInvocation server world invocation

end SqlDialect
