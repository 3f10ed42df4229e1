import SqlDialect.Wire.Category
import SqlDialect.Wire.Decode

/-! A server of the queries' own dialect, as its clients see it. -/

set_option autoImplicit false

namespace SqlDialect.Wire

inductive Request where
  | encryption
  | startup (user database : Text)
  | password (password : Text)
  /-- A statement without parameters, which begins or ends a transaction. -/
  | command (text : Text)
  | prepare (query : Text)
  | execute (query : Text) (params : List (Option Bytes))
  deriving DecidableEq

structure Description where
  params : List ValueType
  columns : List (Text × ValueType)

structure Completion where
  rows : List (List (Option Bytes))
  tag : Text

/-- A server, seen through its state. -/
structure Server (σ : Type) where
  asksPassword : σ → Bool
  authorize : σ → Except ServerError Unit
  command : Text → σ → Except ServerError Unit × σ
  prepare : Text → σ → Except ServerError Description × σ
  execute : Text → List (Option Bytes) → σ → Except ServerError Completion × σ

/-- The number of rows by the tag of a statement: its last word, or else none. -/
def affectedOfTag (tag : Text) : UInt64 :=
  let word := ((Text.fields ' ' tag).getLast?).getD []
  match word.integer? with
  | none => 0
  | some n => if word.head? = some '-' ∨ UInt64.size ≤ n then 0 else UInt64.ofNat n.toNat

/-- Texts end at their first null character when they are sent, so they must not have any. -/
def isSendable (s : Text) : Bool := s.all (· ≠ '\x00')

end SqlDialect.Wire
