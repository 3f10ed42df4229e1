import SqlDialect.Text.Basic

/-! The commands of the program: what each does, and the options and arguments it takes. -/

set_option autoImplicit false

namespace SqlDialect

inductive Command where
  | schemaImport
  | translate
  | query
  deriving DecidableEq

structure CommandOption where
  name : Text
  short : Option Char
  value : Option Text
  isRequired : Bool
  /-- The value is a path, and not empty. -/
  isPath : Bool
  about : Text

/-- The arguments of a command that are no options. -/
structure Positional where
  name : Text
  isMany : Bool
  isPath : Bool
  about : Text

def programName : Text := "sqlshim"

def programVersion : Text := "0.1.0"

def programAbout : Text := "Run PostgreSQL-dialect schemas and queries against SQLite"

namespace Command

def all : List Command := [schemaImport, translate, query]

def name : Command → Text
  | schemaImport => "import"
  | translate => "translate"
  | query => "query"

def ofName? (s : Text) : Option Command := all.find? (·.name == s)

def about : Command → Text
  | schemaImport => "Import PostgreSQL schema scripts into a SQLite database"
  | translate => "Show how a query would be rewritten for SQLite"
  | query => "Execute a query through the configured backend"

def params : CommandOption where
  name := "params"
  short := none
  value := some "PARAMS"
  isRequired := false
  isPath := false
  about := "Parameters as a JSON array; nested arrays are containers"

def options : Command → List CommandOption
  | schemaImport => [
      ⟨"database", none, some "DATABASE", true, true, "SQLite database file, created if missing"⟩,
      ⟨"quiet", some 'q', none, false, false, "Do not echo each statement"⟩]
  | translate => [params]
  | query => [
      ⟨"config", none, some "CONFIG", false, true,
        "Config file (defaults to the user config directory)"⟩,
      params]

def positional : Command → Positional
  | schemaImport => ⟨"SCHEMA", true, true, "Schema scripts, imported in order"⟩
  | translate | query => ⟨"QUERY", false, false, []⟩

end Command

def CommandOption.shown (o : CommandOption) : Text :=
  "--" ++ o.name ++ (match o.value with
    | some value => " <" ++ value ++ ['>']
    | none => [])

def Positional.shown (p : Positional) : Text :=
  '<' :: p.name ++ (if p.isMany then ">..." else ">")

/-! Help -/

def twoColumns (rows : List (Text × Text)) : Text :=
  let width := rows.foldl (fun width row => max width row.1.length) 0
  rows.flatMap fun (left, right) =>
    left ++ List.replicate (width - left.length) ' ' ++ "  " ++ right ++ ['\n']

namespace Command

def usage (c : Command) : Text :=
  let needed := c.options.filter (·.isRequired)
  "Usage: " ++ programName ++ ' ' :: c.name ++ " [OPTIONS] " ++
    needed.flatMap (fun o => o.shown ++ [' ']) ++ c.positional.shown

def optionRow (o : CommandOption) : Text × Text :=
  match o.short with
  | some c => ("  -" ++ c :: ", " ++ o.shown, o.about)
  | none => ("      " ++ o.shown, o.about)

def helpRow : Text × Text := ("  -h, --help", "Print help")

def help (c : Command) : Text :=
  c.about ++ "\n\n" ++ c.usage ++ "\n\nArguments:\n" ++
    twoColumns [("  " ++ c.positional.shown, c.positional.about)] ++ "\nOptions:\n" ++
    twoColumns (c.options.map optionRow ++ [helpRow])

end Command

def programUsage : Text := "Usage: " ++ programName ++ " <COMMAND>"

def commandRows : List (Text × Text) :=
  (Command.all.map fun c => (' ' :: ' ' :: c.name, c.about)).concat
    ("  help", "Print this message or the help of the given subcommand(s)")

def programHelp : Text :=
  programAbout ++ "\n\n" ++ programUsage ++ "\n\nCommands:\n" ++ twoColumns commandRows ++
    "\nOptions:\n" ++ twoColumns [Command.helpRow, ("  -V, --version", "Print version")]

end SqlDialect
