import SqlDialect.Engine.Scope

/-! Queries on one table or view, and their rows. -/

set_option autoImplicit false

namespace SqlDialect.Engine

structure Query where
  source : List Row
  results : List ResultColumn
  condition : Option (Expr Slot)
  order : List (SortKey Slot)
  isDistinct : Bool
  limit : Option (Expr Slot)
  offset : Option (Expr Slot)

def SortKey.compare {ν : Type} (k : SortKey ν) (a b : Datum) : Ordering :=
  let nullsFirst := k.nullsFirst.getD !k.isDescending
  match a.isNull, b.isNull with
  | true, true => .eq
  | true, false => if nullsFirst then .lt else .gt
  | false, true => if nullsFirst then .gt else .lt
  | false, false => if k.isDescending then b.compare a else a.compare b

def compareKeys {ν : Type} : List (SortKey ν) → List Datum → List Datum → Ordering
  | k :: keys, a :: as, b :: bs => (k.compare a b).then (compareKeys keys as bs)
  | _, _, _ => .eq

namespace Query

def isAggregate (q : Query) : Bool :=
  q.results.any (·.value.aggregate?.isSome)

def misused? (q : Query) : Option Text :=
  (q.condition.bind Expr.aggregate?).or
    (if q.isAggregate then none else q.order.findSome? (·.key.aggregate?))

def checked (q : Query) : Except Refusal Query :=
  match q.misused? with
  | some word => .error (.rejected ("misuse of aggregate: " ++ word ++ "()"))
  | none => .ok q

def project (q : Query) (bound : List Datum) (group : List Row) (row : Option Row) :
    List Datum × List Datum :=
  (q.order.map fun k => k.key.eval bound group row,
    q.results.map fun r => r.value.eval bound group row)

def rowLimit (bound : List Datum) : Option (Expr Slot) → Except Refusal (Option Int)
  | none => .ok none
  | some e =>
    match (e.eval bound [] none).store .integer with
    | .integer i => .ok (some i.toInt)
    | _ => .error (.rejected "datatype mismatch")

-- Rows of which no two are alike; of those that are, the first stays.
def distinct (rows : List (List Datum × List Datum)) : List (List Datum × List Datum) :=
  let alike (a b : List Datum) : Bool := (a.zip b).all fun (x, y) => x.compare y == .eq
  rows.eraseDupsBy fun a b => alike a.2 b.2

-- The rows of the result. Rows that no key tells apart stay in order.
def rows (q : Query) (bound : List Datum) : Except Refusal (List (List Datum)) := do
  let limit ← rowLimit bound q.limit
  let offset ← rowLimit bound q.offset
  let chosen := q.source.filter fun row => q.condition.all (·.accepts bound (some row))
  let projected :=
    if q.isAggregate then [q.project bound chosen chosen.getLast?]
    else chosen.map fun row => q.project bound [] (some row)
  let projected := if q.isDistinct then distinct projected else projected
  let sorted := projected.mergeSort fun a b => compareKeys q.order a.1 b.1 != .gt
  let rest := (sorted.map Prod.snd).drop (offset.getD 0).toNat
  match limit with
  | some n => return if n < 0 then rest else rest.take n.toNat
  | none => return rest

end Query

/-! Resolving the names of a query -/

def Scope.ofView (q : Query) (qualifier : Text) : Scope where
  qualifier := qualifier
  columns := q.results.zipIdx.map fun (r, i) =>
    ⟨r.name, r.type, ⟨.column i, r.value.affinity?.getD .blob⟩⟩
  rowid := none
  labels := []

def ordinal (n : Nat) : Text :=
  let ending : Text :=
    if n / 10 % 10 = 1 then "th"
    else match n % 10 with
      | 1 => "st"
      | 2 => "nd"
      | 3 => "rd"
      | _ => "th"
  Text.ofNat n ++ ending

def position? : Expr Name → Option Int
  | .literal (.integer i) => if i.toInt < 0x80000000 then some i.toInt else none
  | .negate e => (position? e).map (-·)
  | _ => none

def Scope.sortKey (scope : Scope) (results : List ResultColumn) (k : SortKey Name) (n : Nat) :
    Except Refusal (SortKey Slot) := do
  let key ←
    match position? k.key, k.key with
    | some i, _ =>
      match if 1 ≤ i then results[i.toNat - 1]? else none with
      | some r => pure r.value
      | none => throw (.rejected outOfRange)
    | none, .name name =>
      match scope.label? name with
      | some e => pure e
      | none => scope.resolve k.key
    | none, e => scope.resolve e
  return ⟨key, k.isDescending, k.nullsFirst⟩
where
  outOfRange : Text :=
    ordinal n ++ " ORDER BY term out of range - should be between 1 and " ++
      Text.ofNat results.length

def Scope.query (scope : Scope) (source : List Row) (select : Select) : Except Refusal Query := do
  let limit ← Scope.empty.condition? select.limit
  let offset ← Scope.empty.condition? select.offset
  let results ← scope.results select.items
  let labelled := scope.withLabels results
  let condition ← labelled.condition? select.condition
  let order ← select.order.zipIdx.mapM fun (k, i) => labelled.sortKey results k (i + 1)
  Query.checked ⟨source, results, condition, order, select.isDistinct, limit, offset⟩

def Item.isAll : Item → Bool
  | .all _ => true
  | .expr .. => false

/-- A query as it stands in a view, where tables are looked for in the main database only. -/
def Select.inMain (select : Select) : Select :=
  { select with
    table := select.table.map fun (t, label) => ({ t with database := some "main" }, label) }

def View.others (view : View) (views : List View) : List View :=
  views.filter (!·.name.agrees view.name)

theorem View.length_others_lt {view found : View} {views : List View}
    (h : views.find? (·.name.agrees view.name) = some found) :
    (view.others views).length < views.length := by
  rw [View.others, List.length_filter_lt_length_iff_exists]
  exact ⟨found, List.mem_of_find?_eq_some h, by simpa using List.find?_some h⟩

-- A query on a catalog. A view is read by its own query, in which it may not occur: the views that
-- may still be read bound the depth.
def Catalog.queryWith (catalog : Catalog) (views : List View) (select : Select) :
    Except Refusal Query :=
  match select.table with
  | none =>
    if select.items.any Item.isAll then .error (.rejected "no tables specified")
    else Scope.empty.query [⟨0, []⟩] select
  | some (t, label) =>
    match catalog.findTable? t with
    | some table => (Scope.ofTable table (label.getD table.name)).query table.rows select
    | none =>
      match catalog.findView? t with
      | none => .error (noSuchTable t)
      | some view =>
        match _h : views.find? (·.name.agrees view.name) with
        | none => .error (.rejected ("view " ++ view.name ++ " is circularly defined"))
        | some _ => do
          let q ← catalog.queryWith (view.others views) view.query.inMain
          let rows ← q.rows []
          (Scope.ofView q (label.getD view.name)).query (rows.map (⟨0, ·⟩)) select
termination_by views.length
decreasing_by exact View.length_others_lt _h

def Catalog.query (catalog : Catalog) (select : Select) : Except Refusal Query :=
  catalog.queryWith catalog.views select

end SqlDialect.Engine
