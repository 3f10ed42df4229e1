import SqlDialect.Engine.Expr

/-! Statements as they are written. -/

set_option autoImplicit false

namespace SqlDialect.Engine

structure Identifier where
  name : Text
  written : Text
  deriving DecidableEq

structure TableName where
  database : Option Text
  table : Identifier
  deriving DecidableEq

def TableName.toText (t : TableName) : Text :=
  match t.database with
  | some database => database ++ '.' :: t.table.name
  | none => t.table.name

def TableName.checkDatabase (t : TableName) : Except Refusal Unit :=
  match t.database with
  | none => .ok ()
  | some database =>
    if database.agrees "main" then .ok () else .error (.rejected ("unknown database " ++ database))

inductive Item where
  | all (table : Option Text)
  | expr (e : Expr Name) (label : Option Text) (source : Text)

structure SortKey (ν : Type) where
  key : Expr ν
  isDescending : Bool
  /-- Missing values come first, unless the order is descending, or as is said here. -/
  nullsFirst : Option Bool

structure Select where
  isDistinct : Bool
  items : List Item
  table : Option (TableName × Option Text)
  condition : Option (Expr Name)
  order : List (SortKey Name)
  limit : Option (Expr Name)
  offset : Option (Expr Name)

structure ColumnDefinition where
  name : Text
  type : Text
  isNotNull : Bool
  default : Option (Expr Name)

inductive TableRule where
  /-- The columns are the key; the flag says that a single one of them may be the row number. -/
  | primaryKey (columns : List Text) (mayBeRowid : Bool)
  | unique (columns : List Text)
  | check (label : Text) (condition : Expr Name)

inductive Insertion where
  | values (rows : List (List (Expr Name)))
  | defaults

inductive ObjectKind where
  | table
  | view
  | index
  deriving DecidableEq

inductive Statement where
  | beginTransaction
  | commitTransaction
  | rollbackTransaction
  | createTable (ifNotExists : Bool) (table : TableName) (columns : List ColumnDefinition)
      (rules : List TableRule)
  | createIndex (isUnique ifNotExists : Bool) (index : TableName) (table : Identifier)
      (columns : List Text)
  | createView (ifNotExists : Bool) (view : TableName) (query : Select)
  | drop (kind : ObjectKind) (ifExists : Bool) (object : TableName)
  | insert (table : TableName) (columns : Option (List Text)) (insertion : Insertion)
      (returning : List Item)
  | update (table : TableName) (assignments : List (Text × Expr Name))
      (condition : Option (Expr Name)) (returning : List Item)
  | delete (table : TableName) (condition : Option (Expr Name)) (returning : List Item)
  | select (query : Select)

end SqlDialect.Engine
