import SqlDialect.Proofs.Rule.Vocabulary
import SqlDialect.Schema.Statement

/-! The statements that are translated, by the tokens they open with. -/

set_option autoImplicit false

namespace SqlDialect

namespace StatementKind

theorem ofIndex_eq_translatable_iff (tokens : List Token) :
    ofIndex tokens = .translatable ↔
      (∀ t ∈ tokens.head?, isSpecialIndex t.text = false) ∧
        ∀ t ∈ tokens, t.agrees "WHERE" = false := by
  unfold ofIndex
  cases tokens with
  | nil => simp
  | cons name tokens => simp

inductive Translatable : List Token → Prop where
  | object {create kind : Token} {rest : List Token} : create.agrees "CREATE" = true →
      kind.agrees "TABLE" = true ∨ kind.agrees "VIEW" = true →
      Translatable (create :: kind :: rest)
  | rows {insert into : Token} {rest : List Token} : insert.agrees "INSERT" = true →
      into.agrees "INTO" = true → Translatable (insert :: into :: rest)
  | index {create index : Token} {rest : List Token} : create.agrees "CREATE" = true →
      index.agrees "INDEX" = true → ofIndex rest = .translatable →
      Translatable (create :: index :: rest)
  | uniqueIndex {create unique index : Token} {rest : List Token} : create.agrees "CREATE" = true →
      unique.agrees "UNIQUE" = true → index.agrees "INDEX" = true → ofIndex rest = .translatable →
      Translatable (create :: unique :: index :: rest)

theorem ofTokens_eq_translatable_iff (tokens : List Token) :
    ofTokens tokens = .translatable ↔ Translatable tokens := by
  constructor
  · intro kind
    rcases tokens with _ | ⟨t, _ | ⟨u, rest⟩⟩
    · cases kind
    · simp only [ofTokens, List.getElem?_cons_zero, List.getElem?_cons_succ, List.getElem?_nil,
        Option.any_some, Option.any_none, Bool.and_false, Bool.or_false, Bool.false_eq_true,
        if_false] at kind
      split at kind <;> cases kind
    simp only [ofTokens, List.getElem?_cons_zero, List.getElem?_cons_succ, Option.any_some,
      List.drop_succ_cons, List.drop_zero, Bool.and_eq_true, Bool.or_eq_true] at kind
    split at kind
    next => cases kind
    split at kind
    next opening => exact .index opening.1 opening.2 kind
    split at kind
    next opening =>
      cases rest with
      | nil => cases opening.2
      | cons v rest => exact .uniqueIndex opening.1.1 opening.1.2 opening.2 kind
    split at kind
    next opening => exact .object opening.1 opening.2
    split at kind
    next => cases kind
    split at kind
    next opening => exact .rows opening.1 opening.2
    split at kind <;> cases kind
  · intro form
    have alike {t word : Token} (same : t.agrees word = true) := Token.agrees_congr_left same
    cases form with
    | object create kind =>
      rcases kind with kind | kind <;> simp +decide [ofTokens, alike create, alike kind]
    | rows insert into => simp +decide [ofTokens, alike insert, alike into]
    | index create index special => simp +decide [ofTokens, alike create, alike index, special]
    | uniqueIndex create unique index special =>
      simp +decide [ofTokens, alike create, alike unique, alike index, special]

end StatementKind

end SqlDialect
