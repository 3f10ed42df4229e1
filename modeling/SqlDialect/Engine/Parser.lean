import SqlDialect.Engine.Catalog
import SqlDialect.Engine.Lexeme

/-! Reading expressions. A text is refused at the first lexeme with which no statement can go
on. -/

set_option autoImplicit false

namespace SqlDialect.Engine

structure Input where
  rest : List Lexeme
  placeholders : Nat
  named : List (Text × Nat)

/-- A reader of lexemes. What it leaves is an end of what it was given, so it can neither make up
lexemes nor pass them out of order. -/
structure Parser (α : Type) where
  run : Input → Except Refusal (α × Input)
  leaves : ∀ {input after : Input} {a : α},
    run input = .ok (a, after) → after.rest <:+ input.rest

namespace Parser

def lift {α : Type} (outcome : Except Refusal α) : Parser α where
  run input := outcome.map (·, input)
  leaves := by
    intro input after a ran
    cases outcome with
    | error refusal => cases ran
    | ok b =>
      cases ran
      exact List.suffix_rfl

def andThen {α β : Type} (p : Parser α) (next : α → Parser β) : Parser β where
  run input :=
    match p.run input with
    | .error refusal => .error refusal
    | .ok (a, after) => (next a).run after
  leaves := by
    intro input after b ran
    split at ran
    · cases ran
    · next a between first => exact ((next a).leaves ran).trans (p.leaves first)

instance : Monad Parser where
  pure a := lift (.ok a)
  bind := andThen

def reject {α : Type} (refusal : Refusal) : Parser α := lift (.error refusal)

def input : Parser Input where
  run input := .ok (input, input)
  leaves := by
    intro input after a ran
    cases ran
    exact List.suffix_rfl

def skip (n : Nat) : Parser Unit where
  run input := .ok ((), { input with rest := input.rest.drop n })
  leaves := by
    intro input after a ran
    cases ran
    exact List.drop_suffix _ _

def keepPlaceholders (placeholders : Nat) (named : List (Text × Nat)) : Parser Unit where
  run input := .ok ((), { input with placeholders := placeholders, named := named })
  leaves := by
    intro input after a ran
    cases ran
    exact List.suffix_rfl

def peek? : Parser (Option Lexeme) := return (← input).rest.head?

def advance : Parser Unit := skip 1

def refuse {α : Type} : Parser α := do
  match ← peek? with
  | none => reject (.rejected "incomplete input")
  | some l =>
    match l.kind with
    | .illegal => reject (.rejected ("unrecognized token: \"" ++ l.text ++ ['"']))
    | _ => reject (.rejected ("near \"" ++ l.text ++ "\": syntax error"))

def sees (p : Lexeme → Bool) : Parser Bool := return (← peek?).any p

def passed (p : Lexeme → Bool) : Parser Bool := do
  if ← sees p then
    advance
    return true
  else return false

def keyword? (word : Text) : Parser Bool := passed (Lexeme.isKeyword word)

def sign? (s : Text) : Parser Bool := passed (Lexeme.isSign s)

def keyword (word : Text) : Parser Unit := do if ← keyword? word then return () else refuse

def sign (s : Text) : Parser Unit := do if ← sign? s then return () else refuse

def take? {α : Type} (read? : Lexeme → Option α) : Parser (Option α) := do
  match (← peek?).bind read? with
  | none => return none
  | some a =>
    advance
    return some a

def take {α : Type} (read? : Lexeme → Option α) : Parser α := do
  match ← take? read? with
  | none => refuse
  | some a => return a

def identifier : Parser Identifier :=
  take fun l => l.nameOrString?.map fun name => ⟨name, l.text⟩

def name : Parser Text := return (← identifier).name

def commaListFrom {α : Type} (element : Parser α) : Nat → Parser (List α)
  | 0 => refuse
  | fuel + 1 => do
    let first ← element
    if ← sign? "," then
      let rest ← commaListFrom element fuel
      return first :: rest
    else return [first]

def commaList {α : Type} (element : Parser α) : Parser (List α) := do
  commaListFrom element ((← input).rest.length + 1)

def parenthesized {α : Type} (content : Parser α) : Parser α := do
  sign "("
  let a ← content
  sign ")"
  return a

def span (start stop : List Lexeme) : Text :=
  let source (lexemes : List Lexeme) : Text := (lexemes.head?.map Lexeme.source).getD []
  let text := (source start).take ((source start).length - (source stop).length)
  (text.reverse.dropWhile isGap).reverse

def withSource {α : Type} (p : Parser α) : Parser (α × Text) := do
  let start := (← input).rest
  let a ← p
  let stop := (← input).rest
  return (a, span start stop)

/-! Types -/

def signedNumber : Parser Unit := do
  let _ ← passed fun l => l.isSign "+" || l.isSign "-"
  take fun l =>
    match l.kind with
    | .number _ => some ()
    | _ => none

def typeWords : Nat → Parser Unit
  | 0 => return ()
  | fuel + 1 => do
    match ← take? Lexeme.nameOrString? with
    | some _ => typeWords fuel
    | none => return ()

def typeSize : Parser Unit := do
  if ← sign? "(" then
    signedNumber
    if ← sign? "," then signedNumber
    sign ")"

def plainTypes : List Text := ["ANY", "BLOB", "INT", "INTEGER", "REAL", "TEXT"]

def type : Parser Text := do
  let words : Parser Unit := do
    if ← sees fun l => l.nameOrString?.isSome then
      typeWords ((← input).rest.length)
      typeSize
  let (_, written) ← withSource words
  return (plainTypes.find? written.agrees).getD written

/-! Expressions -/

/-- The number of a placeholder, counted from 0: the next one, the one it gives, or that of its
name. -/
def placeholder (written : Text) : Parser (Expr Name) := do
  let input ← input
  match written with
  | ['?'] =>
    keepPlaceholders (input.placeholders + 1) input.named
    return .placeholder input.placeholders
  | '?' :: digits =>
    let n := Text.digitsValue digits
    if n = 0 ∨ 32766 < n then
      reject (.rejected "variable number must be between ?1 and ?32766")
    keepPlaceholders (max input.placeholders n) input.named
    return .placeholder (n - 1)
  | written =>
    match input.named.lookup written with
    | some n => return .placeholder n
    | none =>
      keepPlaceholders (input.placeholders + 1) ((written, input.placeholders) :: input.named)
      return .placeholder input.placeholders

def binaryOp? (l : Lexeme) : Option (BinaryOp × Nat) :=
  match l.kind with
  | .word =>
    if l.isKeyword "or" then some (.or, 1)
    else if l.isKeyword "and" then some (.and, 2)
    else if l.isKeyword "like" then some (.like, 4)
    else none
  | .sign =>
    ([("=", .equal, 4), ("==", .equal, 4), ("<>", .unequal, 4), ("!=", .unequal, 4),
      ("<", .less, 5), ("<=", .lessEqual, 5), (">", .greater, 5), (">=", .greaterEqual, 5),
      ("+", .add, 8), ("-", .subtract, 8), ("*", .multiply, 9), ("/", .divide, 9),
      ("%", .remainder, 9), ("||", .concat, 10)] : List (String × BinaryOp × Nat)).findSome?
        fun (s, op, level) => if l.text = s.toList then some (op, level) else none
  | _ => none

def notLevel : Nat := 3
def equalityLevel : Nat := 4
def signLevel : Nat := 12

def columnName (l : Lexeme) (first : Text) : Parser (Expr Name) := do
  if ← sign? "." then
    let column ← name
    return .name ⟨some first, column, false⟩
  else
    match l.kind with
    | .quotedName _ maybeString => return .name ⟨none, first, maybeString⟩
    | _ => return .name ⟨none, first, false⟩

/-- The literal of the lowest whole number, whose opposite does not fit. -/
def negated (operandText : Text) (operand : Expr Name) : Expr Name :=
  match operand with
  | .literal (.real _) =>
    if operandText = Text.ofInt (-Int64.minValue.toInt) then .literal (.integer Int64.minValue)
    else .negate operand
  | operand => .negate operand

-- An operation on two expressions. A conjunction with a literal zero is zero, and what stands
-- beside it need not mean anything.
def combined (op : BinaryOp) (left right : Expr Name) : Expr Name :=
  let isZero : Expr Name → Bool
    | .literal (.integer 0) => true
    | _ => false
  if op = .and ∧ (isZero left ∨ isZero right) then .literal (.integer 0)
  else .binary op left right

mutual

def exprAt : Nat → Nat → Parser (Expr Name)
  | 0, _ => refuse
  | fuel + 1, level => do
    let left ← term fuel
    exprTail fuel level left

def exprTail : Nat → Nat → Expr Name → Parser (Expr Name)
  | 0, _, left => return left
  | fuel + 1, level, left => do
    match (← peek?).bind binaryOp? with
    | some (op, tightness) =>
      if tightness < level then return left
      advance
      let right ← exprAt fuel (tightness + 1)
      exprTail fuel level (combined op left right)
    | none =>
      if equalityLevel < level then return left
      if ← keyword? "is" then
        let op := if ← keyword? "not" then BinaryOp.isNot else .is
        if ← keyword? "distinct" then
          keyword "from"
          let right ← exprAt fuel (equalityLevel + 1)
          exprTail fuel level (.binary (if op = .is then .isNot else .is) left right)
        else
          let right ← exprAt fuel (equalityLevel + 1)
          exprTail fuel level (.binary op left right)
      else if ← keyword? "isnull" then
        exprTail fuel level (.binary .is left (.literal .null))
      else if ← keyword? "notnull" then
        exprTail fuel level (.binary .isNot left (.literal .null))
      else if ← keyword? "not" then
        if ← keyword? "null" then exprTail fuel level (.binary .isNot left (.literal .null))
        else if ← keyword? "like" then
          let right ← exprAt fuel (equalityLevel + 1)
          exprTail fuel level (.not (.binary .like left right))
        else
          match ← membership fuel left with
          | some e => exprTail fuel level (.not e)
          | none => refuse
      else
        match ← membership fuel left with
        | some e => exprTail fuel level e
        | none => return left

def membership : Nat → Expr Name → Parser (Option (Expr Name))
  | 0, _ => return none
  | fuel + 1, left => do
    if ← keyword? "in" then
      let items ← parenthesized do
        if ← sees (Lexeme.isSign ")") then return [] else commaList (exprAt fuel 1)
      return some (if items.isEmpty then .literal (.integer 0) else .within left items)
    else if ← keyword? "between" then
      let low ← exprAt fuel (equalityLevel + 1)
      keyword "and"
      let high ← exprAt fuel (equalityLevel + 1)
      return some (.binary .and (.binary .greaterEqual left low) (.binary .lessEqual left high))
    else return none

def term : Nat → Parser (Expr Name)
  | 0 => refuse
  | fuel + 1 => do
    match ← peek? with
    | none => refuse
    | some l =>
      match l.kind with
      | .number d =>
        advance
        return .literal d
      | .string s =>
        advance
        return .literal (.text s)
      | .blob b =>
        advance
        return .literal (.blob b)
      | .placeholder =>
        advance
        placeholder l.text
      | .illegal => refuse
      | .sign =>
        if l.isSign "(" then
          parenthesized do
            let values ← commaList (exprAt fuel 1)
            match values with
            | [e] => return e
            | values => return .call .row values
        else if l.isSign "-" then
          advance
          let operandText := ((← peek?).map Lexeme.text).getD []
          return negated operandText (← exprAt fuel signLevel)
        else if l.isSign "+" then
          advance
          return .plain (← exprAt fuel signLevel)
        else refuse
      | .word | .quotedName .. =>
        if ← keyword? "null" then return .literal .null
        else if ← keyword? "not" then return .not (← exprAt fuel notLevel)
        else if ← keyword? "cast" then
          parenthesized do
            let e ← exprAt fuel 1
            keyword "as"
            let type ← type
            return .cast e (if type = [] then .numeric else .ofType type)
        else
          let first ← take Lexeme.name?
          if ← sees (Lexeme.isSign "(") then
            let arguments ← parenthesized do
              if ← sign? "*" then return []
              else if ← sees (Lexeme.isSign ")") then return []
              else commaList (exprAt fuel 1)
            return .call (.ofName first arguments.length) arguments
          else columnName l first

end

-- An expression. Between two lexemes that are passed there are at most two steps, so the number of
-- lexemes bounds their number.
def expr : Parser (Expr Name) := do exprAt (3 * (← input).rest.length + 3) 1

end Parser

end SqlDialect.Engine
