import SqlDialect.Text.Basic

/-! Tokens: the pieces of SQL text that rewriting works on, each in its original spelling. -/

set_option autoImplicit false

namespace SqlDialect

structure Token where
  text : Text
  deriving DecidableEq

namespace Token

instance : Coe String Token := ⟨fun s => ⟨s⟩⟩

def isWildcard (t : Token) : Bool :=
  match t.text with
  | '$' :: digits => !digits.isEmpty && digits.all Char.isDigit
  | _ => false

def isLiteral (t : Token) : Bool :=
  2 ≤ t.text.length && t.text.head? == some '\'' && t.text.getLast? == some '\''

def agrees (a b : Token) : Bool := a.text.agrees b.text

theorem agrees_comm (a b : Token) : a.agrees b = b.agrees a := Text.agrees_comm ..

def join (tokens : List Token) : Text := List.intercalate [' '] (tokens.map Token.text)

end Token

end SqlDialect
