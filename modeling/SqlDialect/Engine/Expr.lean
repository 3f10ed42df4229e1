import SqlDialect.Engine.Datum

/-! Expressions, and their values in a row of a table.

The type of names is a parameter: what is written has names as text, and what is computed has
the places in a row that they stand for.
-/

set_option autoImplicit false

namespace SqlDialect.Engine

inductive BinaryOp where
  | or
  | and
  | equal
  | unequal
  | less
  | lessEqual
  | greater
  | greaterEqual
  /-- Equality under which missing values are equal. -/
  | is
  | isNot
  | like
  | add
  | subtract
  | multiply
  | divide
  | remainder
  | concat
  deriving DecidableEq

inductive Function where
  /-- The number of rows in which the argument is not missing; without one, of all rows. -/
  | count (word : Text)
  | length
  | ifNull
  /-- The present moment in any format. The engine has no clock: it is always the start of
  1970. -/
  | moment
  | unknown (word : Text)
  | misused (word : Text)
  /-- Several values in one pair of parentheses, which are no value. -/
  | row
  deriving DecidableEq

def Function.ofName (word : Text) (arguments : Nat) : Function :=
  let checked (fits : Bool) (f : Function) : Function := if fits then f else .misused word
  if word.agrees "count" then checked (arguments ≤ 1) (.count word)
  else if word.agrees "length" then checked (arguments == 1) .length
  else if word.agrees "ifnull" then checked (arguments == 2) .ifNull
  else if word.agrees "strftime" then checked (1 ≤ arguments) .moment
  else .unknown word

inductive Expr (ν : Type) where
  | literal (d : Datum)
  | name (n : ν)
  | placeholder (index : Nat)
  | not (e : Expr ν)
  | negate (e : Expr ν)
  /-- The same value, without the preferences of a column. -/
  | plain (e : Expr ν)
  | binary (op : BinaryOp) (a b : Expr ν)
  | within (e : Expr ν) (items : List (Expr ν))
  | cast (e : Expr ν) (affinity : Affinity)
  | call (f : Function) (arguments : List (Expr ν))

inductive Refusal where
  | rejected (reason : Text)
  | constraint (reason : Text)
  deriving DecidableEq

def misusedAggregate (word : Text) : Refusal :=
  .rejected ("misuse of aggregate function " ++ word ++ "()")

structure Name where
  table : Option Text
  column : Text
  /-- It stands in double quotation marks, and is a string if it names nothing. -/
  maybeString : Bool
  deriving DecidableEq

def Name.toText (n : Name) : Text :=
  match n.table with
  | some table => table ++ '.' :: n.column
  | none => n.column

structure Row where
  rowid : Int64
  values : List Datum

inductive Place where
  | rowid
  | column (index : Nat)
  deriving DecidableEq

structure Slot where
  place : Place
  affinity : Affinity
  deriving DecidableEq

namespace Expr

mutual

def aggregate? {ν : Type} : Expr ν → Option Text
  | .literal _ | .name _ | .placeholder _ => none
  | .not e | .negate e | .plain e | .cast e _ => aggregate? e
  | .binary _ a b => (aggregate? a).or (aggregate? b)
  | .within e items => (aggregate? e).or (aggregateList? items)
  | .call (.count word) _ => some word
  | .call _ arguments => aggregateList? arguments

def aggregateList? {ν : Type} : List (Expr ν) → Option Text
  | [] => none
  | e :: rest => (aggregate? e).or (aggregateList? rest)

end

mutual

def resolve {ν μ : Type} (lookUp : ν → Except Refusal (Expr μ)) :
    Expr ν → Except Refusal (Expr μ)
  | literal d => .ok (literal d)
  | name n => lookUp n
  | placeholder i => .ok (placeholder i)
  | not e => (resolve lookUp e).map not
  | negate e => (resolve lookUp e).map negate
  | plain e => (resolve lookUp e).map plain
  | binary op a b => do
    let a ← resolve lookUp a
    let b ← resolve lookUp b
    return binary op a b
  | within e items => do
    let e ← resolve lookUp e
    let items ← resolveList lookUp items
    return within e items
  | cast e affinity => (resolve lookUp e).map (cast · affinity)
  | call f arguments => do
    let arguments ← resolveList lookUp arguments
    match f with
    | .unknown word => throw (.rejected ("no such function: " ++ word))
    | .row => throw (.rejected "row value misused")
    | .misused word =>
      throw (.rejected ("wrong number of arguments to function " ++ word ++ "()"))
    | f =>
      match f, aggregateList? arguments with
      | .count _, some word => throw (misusedAggregate word)
      | _, _ => return call f arguments

def resolveList {ν μ : Type} (lookUp : ν → Except Refusal (Expr μ)) :
    List (Expr ν) → Except Refusal (List (Expr μ))
  | [] => .ok []
  | e :: rest => do
    let e ← resolve lookUp e
    let rest ← resolveList lookUp rest
    return e :: rest

end

def affinity? : Expr Slot → Option Affinity
  | name slot => some slot.affinity
  | cast _ affinity => some affinity
  | _ => none

end Expr

/-! Values -/

def comparisonAffinity : Option Affinity → Option Affinity → Affinity
  | some a, some b => if a.isNumeric || b.isNumeric then .numeric else .blob
  | some a, none => a
  | none, some b => b
  | none, none => .blob

def comparison (affinity : Affinity) (holds : Ordering → Bool) (a b : Datum) : Datum :=
  if a.isNull || b.isNull then .null
  else
    .ofTruth (some (holds ((a.forComparison affinity).compare (b.forComparison affinity))))

/-- Arithmetic on whole numbers as long as the result fits, and else on floating-point ones. -/
def arithmetic (whole : Int → Int → Option Int) (real : Float → Float → Option Float)
    (a b : Datum) : Datum :=
  let onReals (x y : Float) : Datum := ((real x y).map Datum.ofFloat).getD .null
  match a.toNumber, b.toNumber with
  | .integer i, .integer j =>
    match whole i.toInt j.toInt with
    | none => .null
    | some n =>
      if fitsInt64 n then .integer (Int64.ofInt n)
      else onReals (Float.ofInt i.toInt) (Float.ofInt j.toInt)
  | .integer i, .real y => onReals (Float.ofInt i.toInt) y
  | .real x, .integer j => onReals x (Float.ofInt j.toInt)
  | .real x, .real y => onReals x y
  | _, _ => .null

def truthOr : Option Bool → Option Bool → Option Bool
  | some true, _ | _, some true => some true
  | some false, some false => some false
  | _, _ => none

def truthAnd : Option Bool → Option Bool → Option Bool
  | some false, _ | _, some false => some false
  | some true, some true => some true
  | _, _ => none

/-- Whether a text has the form of a pattern, in which `%` stands for any text and `_` for any
character. -/
def isLike : Text → Text → Bool
  | [], s => s.isEmpty
  | '%' :: p, s => isLike p s || (match s with | [] => false | _ :: r => isLike ('%' :: p) r)
  | c :: p, s =>
    match s with
    | [] => false
    | d :: r => (c == '_' || c.toLower == d.toLower) && isLike p r
termination_by p s => p.length + s.length

def likeDatum (a b : Datum) : Datum :=
  match a.toText, b.toText with
  | .text s, .text pattern => .ofTruth (some (isLike pattern s))
  | _, _ => .null

def concatDatum (a b : Datum) : Datum :=
  match a.toText, b.toText with
  | .text s, .text t => .text (s ++ t)
  | _, _ => .null

def BinaryOp.value (op : BinaryOp) (affinity : Affinity) (a b : Datum) : Datum :=
  let same : Bool := (a.forComparison affinity).compare (b.forComparison affinity) == .eq
  match op with
  | .or => .ofTruth (truthOr a.truth? b.truth?)
  | .and => .ofTruth (truthAnd a.truth? b.truth?)
  | .equal => comparison affinity (· == .eq) a b
  | .unequal => comparison affinity (· != .eq) a b
  | .less => comparison affinity (· == .lt) a b
  | .lessEqual => comparison affinity (· != .gt) a b
  | .greater => comparison affinity (· == .gt) a b
  | .greaterEqual => comparison affinity (· != .lt) a b
  | .is => .ofTruth (some same)
  | .isNot => .ofTruth (some !same)
  | .like => likeDatum a b
  | .add => arithmetic (fun i j => some (i + j)) (fun x y => some (x + y)) a b
  | .subtract => arithmetic (fun i j => some (i - j)) (fun x y => some (x - y)) a b
  | .multiply => arithmetic (fun i j => some (i * j)) (fun x y => some (x * y)) a b
  | .divide =>
    arithmetic (fun i j => if j = 0 then none else some (i.tdiv j))
      (fun x y => if y == 0 then none else some (x / y)) a b
  | .remainder =>
    arithmetic (fun i j => if j = 0 then none else some (i.tmod j))
      (fun x y => if y.toInt64 = 0 then none else some (Float.ofInt (x.toInt64.toInt.tmod y.toInt64.toInt)))
      a b
  | .concat => concatDatum a b

def negateDatum (d : Datum) : Datum :=
  match d.toNumber with
  | .integer i =>
    if i = Int64.minValue then .real (-(Float.ofInt i.toInt)) else .integer (-i)
  | .real x => .real (-x)
  | d => d

def withinDatum (affinity : Affinity) (d : Datum) (items : List Datum) : Datum :=
  if items.isEmpty then .ofTruth (some false)
  else
    let found := items.map fun item => (comparison affinity (· == .eq) d item).truth?
    .ofTruth (found.foldl truthOr (some false))

def lengthDatum : Datum → Datum
  | .null => .null
  | .blob b => .integer (Int64.ofNat b.length)
  | d =>
    match d.toText with
    | .text s => .integer (Int64.ofNat (s.takeWhile (· ≠ '\x00')).length)
    | _ => .null

def Slot.value (slot : Slot) (row : Row) : Datum :=
  match slot.place with
  | .rowid => .integer row.rowid
  | .column i => row.values.getD i .null

namespace Expr

mutual

def eval (bound : List Datum) (rows : List Row) (row : Option Row) : Expr Slot → Datum
  | literal d => d
  | name slot => (row.map slot.value).getD .null
  | placeholder i => bound.getD i .null
  | not e => .ofTruth ((eval bound rows row e).truth?.map (!·))
  | negate e => negateDatum (eval bound rows row e)
  | plain e => eval bound rows row e
  | binary op a b =>
    op.value (comparisonAffinity a.affinity? b.affinity?) (eval bound rows row a)
      (eval bound rows row b)
  | within e items =>
    withinDatum (comparisonAffinity e.affinity? none) (eval bound rows row e)
      (evalList bound rows row items)
  | cast e affinity => (eval bound rows row e).cast affinity
  | call f arguments =>
    match f with
    | .count _ =>
      .integer (Int64.ofNat (rows.countP fun r =>
        !((evalList bound [] (some r) arguments).any Datum.isNull)))
    | .length => ((evalList bound rows row arguments).head?.map lengthDatum).getD .null
    | .ifNull =>
      ((evalList bound rows row arguments).find? (!·.isNull)).getD .null
    | .moment => .text "0"
    | .unknown _ | .misused _ | .row => .null

def evalList (bound : List Datum) (rows : List Row) (row : Option Row) :
    List (Expr Slot) → List Datum
  | [] => []
  | e :: rest => eval bound rows row e :: evalList bound rows row rest

end

def accepts (bound : List Datum) (row : Option Row) (condition : Expr Slot) : Bool :=
  (condition.eval bound [] row).truth? == some true

end Expr

end SqlDialect.Engine
