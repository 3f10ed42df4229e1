import SqlDialect.Rule.Basic

/-! Ordered tables of named rules. Each rule sees what the rules before it made. -/

set_option autoImplicit false

namespace SqlDialect

structure RuleTable where
  entries : List (Text × Rule)

namespace RuleTable

def empty : RuleTable := ⟨[]⟩

def add (table : RuleTable) (name : Text) (rule : Rule) : RuleTable :=
  ⟨table.entries ++ [(name, rule)]⟩

def ofRows? : List (Text × Text × Text) → Except Fault RuleTable
  | [] => .ok empty
  | (name, old, new) :: rows => do
    let rule ← Rule.ofText? old new
    let rest ← ofRows? rows
    return ⟨(name, rule) :: rest.entries⟩

def names (table : RuleTable) : List Text := table.entries.map Prod.fst

def size (table : RuleTable) : Nat := table.entries.length

def apply (table : RuleTable) (tokens : List Token) : List Token × Nat :=
  Rule.applyEach Prod.snd table.entries (tokens, 0)

end RuleTable

end SqlDialect
