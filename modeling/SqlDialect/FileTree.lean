import SqlDialect.Engine.Storage
import SqlDialect.File

/-! Files by their paths, as a program that runs in one of their directories finds them. -/

set_option autoImplicit false

namespace SqlDialect

structure FileTree where
  /-- The path of the directory in which the program runs. -/
  working : Text
  /-- The names on the way to each file, and its content. -/
  files : List (List Text × List UInt8) := []
  /-- Directories of which it is known that they are there, with or without files. -/
  directories : List (List Text) := []

namespace FileTree

-- The names in a path; `..` takes one back.
def names (path : Text) : List Text :=
  (Text.fields '/' path).foldl (fun above name =>
    if name = [] ∨ name = "." then above
    else if name = ".." then above.dropLast
    else above ++ [name]) []

def isAbsolute (tree : FileTree) (path : Text) : Bool :=
  path.head? == some '/' || path == tree.working || (tree.working ++ ['/']).isPrefixOf path

def resolve (tree : FileTree) (path : Text) : List Text :=
  if tree.isAbsolute path then names path else names (tree.working ++ '/' :: path)

/-- A directory is there if another one that is known is it or is below it, or if a file is
below it. -/
def isDirectory (tree : FileTree) (place : List Text) : Bool :=
  (names tree.working :: tree.directories).any place.isPrefixOf ||
    tree.files.any fun (file, _) => place.isPrefixOf file && place != file

def read (tree : FileTree) (path : Text) : FileContent :=
  let place := tree.resolve path
  match tree.files.lookup place with
  | some content => .bytes content
  | none => if tree.isDirectory place then .directory else .missing

def write (tree : FileTree) (path : Text) (content : List UInt8) : FileTree :=
  let place := tree.resolve path
  { tree with files := tree.files.filter (·.1 != place) ++ [(place, content)] }

/-! Databases in files -/

/-- The paths of databases that are kept in no file. -/
def isUnkept (path : Text) : Bool := path == [] || path == ":memory:"

-- The database in a file. A file that is missing from its directory is an empty database.
def database? (tree : FileTree) (path : Text) : Option Engine.Database :=
  if isUnkept path then some (.ofCatalog .empty)
  else
    match tree.read path with
    | .directory => none
    | .missing =>
      if tree.isDirectory (tree.resolve path).dropLast then some (.ofCatalog .empty) else none
    | .bytes content =>
      ((Text.ofUtf8? content).bind Engine.Catalog.ofText?).map Engine.Database.ofCatalog

def openDatabase (tree : FileTree) (path : Text) : Except Fault Engine.Database :=
  match tree.database? path with
  | some db => .ok db
  | none =>
    .error (.database ("failed to open " ++ path ++ ": unable to open database file: " ++ path))

def keep (tree : FileTree) (path : Text) (db : Engine.Database) : FileTree :=
  if isUnkept path then tree else tree.write path db.saved.toText.toUtf8

end FileTree

end SqlDialect
