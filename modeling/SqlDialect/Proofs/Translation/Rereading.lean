import SqlDialect.Proofs.Rule.Vocabulary
import SqlDialect.Proofs.Schema.EnumRule
import SqlDialect.Query.Massage
import SqlDialect.Schema.Statement

/-! Translated statements as the next reader cuts them.

Whatever rules have run, their tokens come from the statement or from a new pattern. All of these
stand by themselves, so the text written for them has just these tokens.
-/

set_option autoImplicit false

namespace SqlDialect

theorem stands_queryRules : ∀ entry ∈ queryRules.entries, ∀ t ∈ entry.2.new, t.Stands := by
  decide +kernel

theorem stands_schemaRules : ∀ entry ∈ schemaRules.entries, ∀ t ∈ entry.2.new, t.Stands := by
  decide +kernel

theorem RuleTable.stands_apply {table : RuleTable} {tokens : List Token}
    (rules : ∀ entry ∈ table.entries, ∀ t ∈ entry.2.new, t.Stands)
    (stands : ∀ t ∈ tokens, t.Stands) : ∀ t ∈ (table.apply tokens).1, t.Stands := by
  intro t mem
  rcases RuleTable.mem_apply mem with before | ⟨entry, listed, made⟩
  · exact stands t before
  · exact rules entry listed t made

theorem EnumRegistry.stands_apply {registry : EnumRegistry} {tokens : List Token}
    (declared : ∀ type ∈ registry.types, ∃ declaration, EnumType.parse declaration = .ok type)
    (stands : ∀ t ∈ tokens, t.Stands) : ∀ t ∈ (registry.apply tokens).1, t.Stands := by
  intro t mem
  rcases Rule.mem_applyEach EnumType.rule registry.types tokens 0 mem with
    before | ⟨type, listed, made⟩
  · exact stands t before
  · obtain ⟨declaration, parsed⟩ := declared type listed
    exact (EnumType.parse_eq_ok parsed).stands_new t made

/-- Where no quotation mark is left open, the tokens of a translation are the ones that the rules
leave: writing them out merges none, parts none and quotes none anew. -/
theorem tokenize_translated :
    (∀ tokens : List Token, (∀ t ∈ tokens, t.Stands) → tokenize (Token.join tokens) = tokens) ∧
    (∀ query, (∀ t ∈ tokenize query, ¬t.IsLone) →
      tokenize (translateQuery query) =
        (queryRules.apply (tokenize (convertPlaceholders query .question))).1) ∧
    (∀ registry : EnumRegistry,
      (∀ type ∈ registry.types, ∃ declaration, EnumType.parse declaration = .ok type) →
      ∀ statement, (∀ t ∈ tokenize statement, ¬t.IsLone) →
        tokenize (translateSchema registry statement) =
          (registry.apply (schemaRules.apply (tokenize statement)).1).1) := by
  refine ⟨fun tokens stands => tokenize_join_of_stands stands, ?_, ?_⟩
  · intro query closed
    have closed' := (convertPlaceholders_closed_iff query).2 closed
    have stands := RuleTable.stands_apply stands_queryRules (stands_of_mem_tokenize closed')
    exact tokenize_join_of_stands stands
  · intro registry declared statement closed
    have stands := RuleTable.stands_apply stands_schemaRules (stands_of_mem_tokenize closed)
    exact tokenize_join_of_stands (EnumRegistry.stands_apply declared stands)

/-- A doubled mark, a literal that a rule brings in, and the values of a type. -/
theorem tokenize_translated_literals :
    tokenize (Token.join ["'it''s'", "$12", "<=", "\"a b\""]) =
      (["'it''s'", "$12", "<=", "\"a b\""] : List Token) ∧
    tokenize (translateQuery "SELECT 'it''s' FROM t WHERE a<=%s AND b>NOW()") =
      (["SELECT", "'it''s'", "FROM", "t", "WHERE", "a", "<=", "?", "AND", "b", ">", "cast", "(",
        "strftime", "(", "'%s'", ",", "'now'", ")", "as", "integer", ")"] : List Token) ∧
    tokenize (translateSchema
        ⟨(EnumType.parse "CREATE TYPE mood AS ENUM ('so so', 'it''s')").toOption.toList⟩
        "CREATE TABLE t (m mood, ok bool DEFAULT TRUE)") =
      (["CREATE", "TABLE", "t", "(", "m", "text", "check", "(", "m", "in", "(", "'so so'", ",",
        "'it''s'", ")", ")", ",", "ok", "bool", "DEFAULT", "1", ")"] : List Token) := by
  obtain ⟨written, queries, statements⟩ := tokenize_translated
  refine ⟨written _ (by decide +kernel), ?_, ?_⟩
  · exact (queries "SELECT 'it''s' FROM t WHERE a<=%s AND b>NOW()" (by decide +kernel)).trans
      (by decide +kernel)
  · exact (statements _ (fun _ mem => ⟨_, eq_ok_of_mem_toOption (Option.mem_toList.1 mem)⟩)
      "CREATE TABLE t (m mood, ok bool DEFAULT TRUE)" (by decide +kernel)).trans
      (by decide +kernel)

end SqlDialect
