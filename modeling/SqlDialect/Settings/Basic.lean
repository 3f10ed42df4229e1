import SqlDialect.File
import SqlDialect.Settings.Connection
import SqlDialect.Toml.Quoted
import SqlDialect.Toml.Reader

/-! The settings: which database is used and how it is reached. They are kept in a file, which
may leave out anything. -/

set_option autoImplicit false

namespace SqlDialect

inductive Driver where
  | sqlite
  | postgresql
  deriving DecidableEq

namespace Driver

def name : Driver → Text
  | sqlite => "sqlite"
  | postgresql => "postgresql"

def ofName? (s : Text) : Option Driver := [sqlite, postgresql].find? (·.name == s)

end Driver

structure Settings where
  driver : Driver
  sqlitePath : Text
  connection : ConnectionSettings
  deriving DecidableEq

namespace Settings

def default : Settings := ⟨.sqlite, "sqlshim.db", .default⟩

/-! Reading -/

def entriesOf? (keys : List Text) : Toml → Option Toml.Entries
  | .table _ entries => some entries
  | .inlineTable entries => some entries
  | .array items => some (keys.zip items)
  | .tables elements => some (keys.zip (elements.map (Toml.table .header)))
  | _ => none

def isEmptyContainer : Toml → Bool
  | .table _ [] | .inlineTable [] | .array [] | .tables [] => true
  | _ => false

def text? : Toml → Option Text
  | .string s => some s
  | _ => none

def bool? : Toml → Option Bool
  | .boolean b => some b
  | _ => none

def nat? (limit : Nat) : Toml → Option Nat
  | .integer i => if 0 ≤ i ∧ i ≤ limit then some i.toNat else none
  | _ => none

/-- One of several names: a string, or the only key of a table with nothing in it. -/
def choice? : Toml → Option Text
  | .string s => some s
  | .table _ [(key, value)] | .inlineTable [(key, value)] =>
    if isEmptyContainer value then some key else none
  | _ => none

def field? {α : Type} (entries : Toml.Entries) (key : Text) (default : α) (read? : Toml → Option α) :
    Option α :=
  match entries.lookup key with
  | none => some default
  | some value => read? value

def connectionKeys : List Text := ["host", "port", "database", "username", "password", "ssl_mode",
  "accept_invalid_certs", "ca_cert_path", "connect_timeout"]

def connection? (value : Toml) : Option ConnectionSettings := do
  let entries ← entriesOf? connectionKeys value
  let d := ConnectionSettings.default
  return {
    host := ← field? entries "host" d.host text?
    port := ← field? entries "port" d.port fun v => (nat? 65535 v).map UInt16.ofNat
    database := ← field? entries "database" d.database text?
    username := ← field? entries "username" d.username text?
    password := ← field? entries "password" d.password text?
    sslMode := ← field? entries "ssl_mode" d.sslMode fun v => (choice? v).bind SslMode.ofName?
    acceptInvalidCerts := ← field? entries "accept_invalid_certs" d.acceptInvalidCerts bool?
    caCertPath := ← field? entries "ca_cert_path" d.caCertPath fun v => (text? v).map some
    connectTimeout :=
      ← field? entries "connect_timeout" d.connectTimeout fun v =>
        (nat? (UInt64.size - 1) v).map UInt64.ofNat }

def sqlitePath? (value : Toml) : Option Text := do
  let entries ← entriesOf? ["path"] value
  field? entries "path" default.sqlitePath text?

-- The settings that a document gives. Keys without a meaning are passed over.
def parse? (s : Text) : Option Settings := do
  let entries ← Toml.parse s
  let driver ← field? entries "driver" default.driver fun v => (choice? v).bind Driver.ofName?
  let sqlitePath ← field? entries "sqlite" default.sqlitePath sqlitePath?
  let connection ← field? entries "postgresql" default.connection connection?
  return ⟨driver, sqlitePath, connection⟩

-- The settings of a file; without the file they are the defaults.
def load (file : FileContent) : Except Fault Settings :=
  match file with
  | .missing => .ok default
  | file => do
    let content ← file.read
    match parse? content with
    | some settings => return settings
    | none => throw (.configuration "malformed settings")

/-! Writing -/

def line (key value : Text) : Text := key ++ " = " ++ value ++ ['\n']

def ofBool (b : Bool) : Text := if b then "true" else "false"

-- The document of the settings, all but the password. A time limit beyond 63 bits cannot be
-- written.
def toText? (s : Settings) : Option Text :=
  let c := s.connection
  if UInt64.size ≤ 2 * c.connectTimeout.toNat then none
  else
    some <| List.flatten [
      line "driver" (Toml.quote s.driver.name),
      "\n[sqlite]\n",
      line "path" (Toml.quote s.sqlitePath),
      "\n[postgresql]\n",
      line "host" (Toml.quote c.host),
      line "port" (Text.ofNat c.port.toNat),
      line "database" (Toml.quote c.database),
      line "username" (Toml.quote c.username),
      line "ssl_mode" (Toml.quote c.sslMode.name),
      line "accept_invalid_certs" (ofBool c.acceptInvalidCerts),
      match c.caCertPath with
      | none => []
      | some path => line "ca_cert_path" (Toml.quote path),
      line "connect_timeout" (Text.ofNat c.connectTimeout.toNat)]

def save (s : Settings) : Except Fault Text :=
  match s.toText? with
  | some content => .ok content
  | none => .error (.configuration "number out of range")

end Settings

end SqlDialect
