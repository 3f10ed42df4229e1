import SqlDialect.CommandLine.Run
import SqlDialect.Number.Decimal

/-! The program on a machine: it looks at the files that its arguments lead to, does its work on
what it has seen, and writes the files that have changed. It knows no network. -/

set_option autoImplicit false

namespace SqlDialect

def machinePath (place : List Text) : String :=
  String.ofList ('/' :: List.intercalate ['/'] place)

namespace FileTree

def lookAt (tree : FileTree) (place : List Text) : BaseIO FileTree := do
  match ← EIO.toBaseIO (IO.FS.readBinFile (machinePath place)) with
  | .ok content => return { tree with files := (place, content.toList) :: tree.files }
  | .error (.inappropriateType _ _ _) =>
    return { tree with directories := place :: tree.directories }
  | .error _ => return tree

def look (tree : FileTree) (paths : List Text) : BaseIO FileTree :=
  (paths.map tree.resolve).foldlM (fun tree place => do
    (← tree.lookAt place.dropLast).lookAt place) tree

def writeSince (tree old : FileTree) : IO Unit :=
  for (place, content) in tree.files do
    if old.files.lookup place ≠ some content then
      IO.FS.writeBinFile (machinePath place) ⟨content.toArray⟩

end FileTree

def Wire.Server.absent : Wire.Server Empty where
  asksPassword := nofun
  authorize := nofun
  command _ := nofun
  prepare _ := nofun
  execute _ _ := nofun

def environment? (name : String) : BaseIO (Option Text) := do
  return (← IO.getEnv name).map String.toList

def settingsDirectory : BaseIO Text := do
  match ← environment? "XDG_CONFIG_HOME" with
  | some directory => if directory.head? = some '/' then return directory else ofHome
  | none => ofHome
where
  ofHome : BaseIO Text := do
    match ← environment? "HOME" with
    | some home => return home ++ "/.config"
    | none => return ['.']

-- The world with the files that some arguments lead to; settings lead to others.
def findWorld (arguments : List Text) : IO (World Empty) := do
  let working := (← IO.currentDir).toString.toList
  let directory ← settingsDirectory
  let world : World Empty := ⟨{ working := working }, directory, ← environment? "PGPASSWORD", [], none⟩
  match Invocation.ofArguments arguments with
  | .error _ => return world
  | .ok invocation =>
    let files ← world.files.look (invocation.paths world.settingsPath)
    let files ← files.look (invocation.furtherPaths world.settingsPath files)
    return { world with files := files }

-- The work, with its time in the output. That is taken from doing the work once before.
def runTimed (arguments : List Text) (world : World Empty) : IO (Output × World Empty) := do
  let start ← IO.monoNanosNow
  let _ ← IO.lazyPure fun _ => runProgram .absent arguments world
  let tenths := ((← IO.monoNanosNow) - start) / 100000
  return runProgram .absent arguments { world with elapsed := Decimal.positional ⟨tenths, -1⟩ }

def runOnMachine (arguments : List Text) : IO UInt32 := do
  let world ← findWorld arguments
  let (output, after) ← runTimed arguments world
  after.files.writeSince world.files
  IO.print (String.ofList output.stdout)
  IO.eprint (String.ofList output.stderr)
  return output.code.toUInt32

end SqlDialect

def main (arguments : List String) : IO UInt32 :=
  SqlDialect.runOnMachine (arguments.map String.toList)
