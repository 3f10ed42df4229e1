import SqlDialect.Text.Basic

/-! TOML documents: values, and the tables that hold them under keys.

A table remembers what made it, since that decides what may still be added to it.
-/

set_option autoImplicit false

namespace SqlDialect

inductive TableOrigin where
  | header
  /-- The header of a table inside it. -/
  | implied
  | dotted
  deriving DecidableEq

inductive Toml where
  | string (s : Text)
  | integer (i : Int)
  | float (x : Float)
  | boolean (b : Bool)
  /-- A date, a time or both, as written. -/
  | datetime (s : Text)
  | array (items : List Toml)
  /-- A table in braces, to which nothing can be added. -/
  | inlineTable (entries : List (Text × Toml))
  | table (origin : TableOrigin) (entries : List (Text × Toml))
  /-- The tables under headers in doubled brackets. -/
  | tables (elements : List (List (Text × Toml)))

namespace Toml

abbrev Entries := List (Text × Toml)

def put (key : Text) (value : Toml) : Entries → Entries
  | [] => [(key, value)]
  | (k, v) :: rest => if k = key then (key, value) :: rest else (k, v) :: put key value rest

-- The origin and the entries of the table at a path changed by `change`. Tables on the path that
-- do not exist are made. Of tables under headers in doubled brackets the last is meant, and a
-- dotted path does not enter a table with a header of its own.
def changeAt (isDotted : Bool) (change : TableOrigin → Entries → Option Entries) :
    List Text → TableOrigin → Entries → Option Entries
  | [], origin, entries => change origin entries
  | key :: path, _, entries =>
    match entries.lookup key with
    | none =>
      let origin := if isDotted then .dotted else .implied
      (changeAt isDotted change path origin []).map fun inner => put key (table origin inner) entries
    | some (table origin inner) =>
      if isDotted ∧ origin = .header then none
      else
        (changeAt isDotted change path origin inner).map fun inner =>
          put key (table origin inner) entries
    | some (tables elements) =>
      match elements.getLast? with
      | none => none
      | some last =>
        (changeAt isDotted change path .header last).map fun last =>
          put key (tables (elements.dropLast ++ [last])) entries
    | some _ => none

-- A new entry at the end of a dotted path. Only tables made by dotted keys take entries from
-- dotted keys, and they take no others.
def insertDotted (path : List Text) (key : Text) (value : Toml) (origin : TableOrigin)
    (entries : Entries) : Option Entries :=
  changeAt true (fun origin entries =>
    if (origin == .dotted) == path.isEmpty then none
    else if (entries.lookup key).isSome then none
    else some (entries ++ [(key, value)])) path origin entries

/-- The table that a header begins, if nothing but the headers of tables inside it has made it
before. -/
def openTable (key : Text) (entries : Entries) : Option Entries :=
  match entries.lookup key with
  | none => some (put key (table .header []) entries)
  | some (table .implied inner) => some (put key (table .header inner) entries)
  | some _ => none

def openElement (key : Text) (entries : Entries) : Option Entries :=
  match entries.lookup key with
  | none => some (put key (tables [[]]) entries)
  | some (tables elements) => some (put key (tables (elements ++ [[]])) entries)
  | some _ => none

def ofPairs (pairs : List (List Text × Text × Toml)) : Option Toml :=
  (pairs.foldlM (fun entries (path, key, value) =>
    insertDotted path key value .header entries) []).map inlineTable

end Toml

end SqlDialect
