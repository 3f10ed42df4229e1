import SqlDialect.Proofs.Query.Placeholder
import SqlDialect.Proofs.Rule.Settled
import SqlDialect.Proofs.Token.Seam
import SqlDialect.Query.Massage

/-! Queries that no rule rewrites, as the database reads them.

Such a query is its own tokens with single spaces between them. The tokens are cut by fewer kinds
of units than the database knows, so a fraction, an operator of several signs or a comment does not
come through in one piece.
-/

set_option autoImplicit false

namespace SqlDialect

/-- No rule of a table matches anywhere. -/
def RuleTable.Untouched (table : RuleTable) (tokens : List Token) : Prop :=
  ∀ entry ∈ table.entries, ∀ i < tokens.length,
    ¬Rule.Fits entry.2.old ((tokens.drop i).take entry.2.old.length)

instance (table : RuleTable) (tokens : List Token) : Decidable (table.Untouched tokens) :=
  inferInstanceAs (Decidable (∀ entry ∈ table.entries, ∀ i < tokens.length, ¬_))

theorem RuleTable.apply_of_untouched {table : RuleTable} {tokens : List Token}
    (untouched : table.Untouched tokens) : table.apply tokens = (tokens, 0) :=
  apply_eq_self fun entry listed =>
    Rule.free_of_forall_lt entry.2.old_ne_nil (untouched entry listed)

theorem translateQuery_of_untouched {query : Text} (unsigned : '%' ∉ query)
    (untouched : queryRules.Untouched (tokenize query)) :
    translateQuery query = Token.join (tokenize query) := by
  rw [translateQuery, convertPlaceholders_of_not_mem unsigned,
    RuleTable.apply_of_untouched untouched]

/-- A query without placeholders that no rule matches keeps its lexical units exactly if each of its
tokens is made of whole units, and so in particular if all its units are plain. -/
theorem units_translateQuery_eq_iff {query : Text} (unsigned : '%' ∉ query)
    (closed : ∀ t ∈ tokenize query, ¬t.IsLone)
    (untouched : queryRules.Untouched (tokenize query)) :
    (units (translateQuery query) = units query ↔
      pieces query = (tokenize query).flatMap fun t => pieces t.text) ∧
    ((∀ u ∈ pieces query, Plain u) → units (translateQuery query) = units query) := by
  rw [translateQuery_of_untouched unsigned untouched]
  have exact := units_join_tokenize_eq_iff closed
  exact ⟨exact, fun plain => exact.2 (pieces_of_plain closed plain)⟩

/-- Quotation marks, a comparison and a wildcard. -/
theorem units_translateQuery_eq_iff_plain :
    units (translateQuery "SELECT a,\"b -- c\" FROM t1 WHERE x<='it''s 1.5' AND y=$2+10") =
      units "SELECT a,\"b -- c\" FROM t1 WHERE x<='it''s 1.5' AND y=$2+10" := by
  obtain ⟨-, kept⟩ := @units_translateQuery_eq_iff
    "SELECT a,\"b -- c\" FROM t1 WHERE x<='it''s 1.5' AND y=$2+10" (by decide +kernel)
    (by decide +kernel) (by decide +kernel)
  exact kept (by decide +kernel)

/-- A number with a fraction is parted at its point. -/
theorem units_translateQuery_fraction :
    '%' ∉ ("SELECT 1.5" : Text) ∧ (∀ t ∈ tokenize "SELECT 1.5", ¬t.IsLone) ∧
      queryRules.Untouched (tokenize "SELECT 1.5") ∧
      translateQuery "SELECT 1.5" = "SELECT 1 . 5" ∧
      units (translateQuery "SELECT 1.5") ≠ units "SELECT 1.5" := by
  decide +kernel

end SqlDialect
