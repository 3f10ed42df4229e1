import SqlDialect.Rule.Table

/-! Enumerated types. The other dialect has none: a column of such a type becomes a text column
that is checked against the values. -/

set_option autoImplicit false

namespace SqlDialect

structure EnumType where
  name : Text
  /-- The literals as they were written, quotation marks included. -/
  values : List Text
  rule : Rule

namespace EnumType

def ofValues? (name : Text) (values : List Text) : Except Fault EnumType :=
  (Rule.ofText? ("$1 " ++ name)
    ("$1 text check ($1 in (" ++ List.intercalate [',', ' '] values ++ "))")).map
    fun rule => ⟨name, values, rule⟩

def parse (statement : Text) : Except Fault EnumType :=
  let tokens := tokenize statement
  match tokens[2]? with
  | none => .error (.translation ("enum declaration without a name: " ++ statement))
  | some name =>
    match tokens.findIdx? (· == ("(" : Token)), tokens.findIdx? (· == (")" : Token)) with
    | some opening, some closing =>
      if opening < closing then
        let values := (tokens.take closing).drop (opening + 1)
        ofValues? name.text ((values.filter Token.isLiteral).map Token.text)
      else .error (.translation ("enum declaration without a value list: " ++ statement))
    | _, _ => .error (.translation ("enum declaration without a value list: " ++ statement))

end EnumType

/-- The enumerated types declared so far, in the order of their declaration. -/
structure EnumRegistry where
  types : List EnumType

namespace EnumRegistry

def empty : EnumRegistry := ⟨[]⟩

/-- Types with a new one in the place of the one of the same name, or else at the end. -/
def put (type : EnumType) : List EnumType → List EnumType
  | [] => [type]
  | t :: rest => if t.name = type.name then type :: rest else t :: put type rest

def register (registry : EnumRegistry) (type : EnumType) : EnumRegistry :=
  ⟨put type registry.types⟩

def get? (registry : EnumRegistry) (name : Text) : Option EnumType :=
  registry.types.find? (·.name == name)

def size (registry : EnumRegistry) : Nat := registry.types.length

def apply (registry : EnumRegistry) (tokens : List Token) : List Token × Nat :=
  Rule.applyEach EnumType.rule registry.types (tokens, 0)

end EnumRegistry

end SqlDialect
