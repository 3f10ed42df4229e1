import SqlDialect.Engine.Datum

/-! The words of a statement as the engine reads it: keywords, names, literals, placeholders and
signs. White space and comments separate them. -/

set_option autoImplicit false

namespace SqlDialect.Engine

inductive LexemeKind where
  | word
  /-- A name in quotation marks of some kind; only in double ones it may turn out to be a
  string. -/
  | quotedName (name : Text) (maybeString : Bool)
  | string (s : Text)
  | blob (b : List UInt8)
  | number (d : Datum)
  | placeholder
  | sign
  | illegal

structure Lexeme where
  kind : LexemeKind
  text : Text
  source : Text

namespace Lexeme

def isNameChar (c : Char) : Bool := c.isAlphanum || c == '_' || c == '$' || 0x80 ≤ c.toNat

def startsName (c : Char) : Bool := c.isAlpha || c == '_' || 0x80 ≤ c.toNat

/-- What stands between two marks, a doubled mark for one inside, and the characters it takes up
to and with the closing mark. -/
def closed? (mark : Char) : Text → Option (Text × Nat)
  | [] => none
  | [c] => if c = mark then some ([], 1) else none
  | c :: d :: r =>
    if c = mark then
      if d = mark then (closed? mark r).map fun (body, n) => (mark :: body, n + 2) else some ([], 1)
    else (closed? mark (d :: r)).map fun (body, n) => (c :: body, n + 1)

def lineComment (s : Text) : Nat := (s.takeWhile (· ≠ '\n')).length

def blockComment : Text → Nat
  | [] => 0
  | '*' :: '/' :: _ => 2
  | _ :: r => blockComment r + 1

/-- The length of the white space and comments at the head of a text; a byte order mark counts as
white space. -/
def gap : Text → Nat
  | [] => 0
  | '-' :: '-' :: r => lineComment r + 2
  | '/' :: '*' :: c :: r => blockComment (c :: r) + 2
  | c :: _ => if isGap c ∨ c = '\uFEFF' then 1 else 0

/-- Digits with separators, the signs of a number and what shows that it is none: the length of
the longest run that looks like a number. -/
def numberLength (s : Text) : Nat :=
  let isDigit (c : Char) : Bool := c.isDigit || c == '_'
  match s with
  | '0' :: x :: d :: r =>
    if (x = 'x' ∨ x = 'X') ∧ (Text.hexDigitValue? d).isSome then
      3 + (r.takeWhile fun c => (Text.hexDigitValue? c).isSome || c == '_').length
    else decimalLength isDigit s
  | s => decimalLength isDigit s
where
  decimalLength (isDigit : Char → Bool) (s : Text) : Nat :=
    let whole := (s.takeWhile isDigit).length
    let r := s.drop whole
    let fraction :=
      match r with
      | '.' :: r => 1 + (r.takeWhile isDigit).length
      | _ => 0
    let r := r.drop fraction
    let power :=
      match r with
      | e :: sign :: d :: r =>
        if e = 'e' ∨ e = 'E' then
          if sign.isDigit then 2 + ((d :: r).takeWhile isDigit).length
          else if (sign = '+' ∨ sign = '-') ∧ d.isDigit then 3 + (r.takeWhile isDigit).length
          else 0
        else 0
      | [e, d] => if (e = 'e' ∨ e = 'E') ∧ d.isDigit then 2 else 0
      | _ => 0
    whole + fraction + power

def wellSeparated : Text → Bool
  | a :: '_' :: b :: r =>
    (Text.hexDigitValue? a).isSome && (Text.hexDigitValue? b).isSome && wellSeparated (b :: r)
  | [_, '_'] => false
  | _ :: r => wellSeparated r
  | [] => true

-- The number that a literal stands for. Hexadecimal digits give the bits of a whole number.
def numberValue? (s : Text) : Option Datum :=
  if wellSeparated s then
    let digits := s.filter (· ≠ '_')
    match digits with
    | '0' :: x :: r =>
      if x = 'x' ∨ x = 'X' then
        let n := r.foldl (fun n d => 16 * n + (Text.hexDigitValue? d).getD 0) 0
        if n < UInt64.size then some (.integer (Int64.ofInt n)) else none
      else number? digits
    | digits => number? digits
  else none

def longSigns : List Text :=
  ["->>", "->", "||", "<=", "<>", "<<", ">=", ">>", "==", "!="]

def signs : Text := "-()[;+*/%=<>|,&~."

def scan (c : Char) (r : Text) : LexemeKind × Nat :=
  let s : Text := c :: r
  let rest : LexemeKind × Nat := (.illegal, s.length)
  if c = '\'' then
    match closed? '\'' r with
    | some (body, n) => (.string body, n + 1)
    | none => rest
  else if c = '"' ∨ c = '`' then
    match closed? c r with
    | some (body, n) => (.quotedName body (c == '"'), n + 1)
    | none => rest
  else if c = '[' then
    let body := r.takeWhile (· ≠ ']')
    if body.length < r.length then (.quotedName body false, body.length + 2) else rest
  else if c.isDigit ∨ (c = '.' ∧ (r.take 1).any Char.isDigit) then
    let n := numberLength s
    let more := ((s.drop n).takeWhile isNameChar).length
    if more = 0 then
      match numberValue? (s.take n) with
      | some d => (.number d, n)
      | none => (.illegal, n)
    else (.illegal, n + more)
  else if (c = 'x' ∨ c = 'X') ∧ r.head? = some '\'' then
    let digits := (r.drop 1).takeWhile fun c => (Text.hexDigitValue? c).isSome
    let after := (r.drop 1).drop digits.length
    if after.head? = some '\'' ∧ digits.length % 2 = 0 then
      (.blob ((Text.bytesOfHex? digits).getD []), digits.length + 3)
    else
      let n := ((r.drop 1).takeWhile (· ≠ '\'')).length
      (.illegal, min s.length (n + 3))
  else if c = '?' then (.placeholder, 1 + (r.takeWhile Char.isDigit).length)
  else if c = '$' ∨ c = '@' ∨ c = ':' ∨ c = '#' then
    let name := r.takeWhile isNameChar
    if name = [] then (.illegal, 1) else (.placeholder, name.length + 1)
  else if startsName c then (.word, 1 + (r.takeWhile isNameChar).length)
  else
    match longSigns.find? (List.isPrefixOf · s) with
    | some sign => (.sign, sign.length)
    | none => if c ∈ signs then (.sign, 1) else (.illegal, 1)

-- The lexemes of a text; what follows an illegal one is not looked at.
def ofText (s : Text) : List Lexeme :=
  match s with
  | [] => []
  | c :: r =>
    if 0 < gap (c :: r) then ofText ((c :: r).drop (gap (c :: r)))
    else
      let (kind, n) := scan c r
      let lexeme : Lexeme := ⟨kind, (c :: r).take n, c :: r⟩
      match kind with
      | .illegal => [lexeme]
      | _ => lexeme :: ofText (r.drop (n - 1))
termination_by s.length
decreasing_by
  · simp only [List.length_drop, List.length_cons]
    omega
  · simp only [List.length_drop, List.length_cons]
    omega

def isKeyword (keyword : Text) (l : Lexeme) : Bool :=
  match l.kind with
  | .word => l.text.agrees keyword
  | _ => false

def isCommit (l : Lexeme) : Bool := l.isKeyword "commit" || l.isKeyword "end"

def isSign (sign : Text) (l : Lexeme) : Bool :=
  match l.kind with
  | .sign => l.text == sign
  | _ => false

def reserved : List Text :=
  Text.fields ' ' ("add all alter and as autoincrement between case check collate commit constraint" ++
   " create default deferrable delete distinct drop else escape except exists foreign" ++
   " from group having in index insert intersect into is isnull join limit not nothing" ++
   " notnull null on or order primary references returning select set table then to" ++
   " transaction union unique update using values when where")

/-- The keywords of joins, which are names everywhere but as labels. -/
def joinWords : List Text := ["cross", "full", "inner", "left", "natural", "outer", "right"]

def name? (l : Lexeme) : Option Text :=
  match l.kind with
  | .word => if reserved.any l.text.agrees then none else some l.text
  | .quotedName name _ => some name
  | _ => none

def nameOrString? (l : Lexeme) : Option Text :=
  match l.kind with
  | .string s => some s
  | _ => l.name?

def label? (l : Lexeme) : Option Text :=
  match l.kind with
  | .word => if joinWords.any l.text.agrees then none else l.name?
  | _ => l.nameOrString?

end Lexeme

end SqlDialect.Engine
