import SqlDialect.Proofs.Translation.Literals

/-! Words that no translation leaves.

A rule that looks for one token takes out all that agree with it. What a wildcard of another rule
stands for was there before that rule, so a word that is gone comes back only if a new pattern
has it.
-/

set_option autoImplicit false

namespace SqlDialect

/-- No token is the word, in any case. -/
def Token.Absent (word : Token) (tokens : List Token) : Prop :=
  ∀ t ∈ tokens, t.agrees word = false

instance (word : Token) (tokens : List Token) : Decidable (word.Absent tokens) :=
  inferInstanceAs (Decidable (∀ t ∈ tokens, t.agrees word = false))

variable {word : Token}

theorem Token.absent_append {a b : List Token} :
    word.Absent (a ++ b) ↔ word.Absent a ∧ word.Absent b := List.forall_mem_append

namespace Rule

theorem fill_singleton (literal : word.isWildcard = false) (window : List Token) (t : Token) :
    fill [word] window t = t := by
  unfold fill
  rw [if_neg]
  rintro ⟨wild, listed⟩
  rw [List.mem_singleton.1 listed, literal] at wild
  cases wild

theorem absent_rewrite {new : List Token} (literal : word.isWildcard = false)
    (fresh : word.Absent new) (tokens : List Token) :
    word.Absent (rewrite [word] new tokens).1 := by
  induction tokens with
  | nil =>
    rw [rewrite]
    exact List.forall_mem_nil _
  | cons t rest ih =>
    by_cases fits : Fits [word] ((t :: rest).take [word].length)
    · rw [rewrite_cons_of_fits new (List.cons_ne_nil _ _) fits]
      have put : new.map (fill [word] ((t :: rest).take [word].length)) = new :=
        List.map_id'' (fill_singleton literal _) new
      rw [put]
      exact Token.absent_append.2 ⟨fresh, ih⟩
    · rw [rewrite_cons_of_not_fits new fits]
      have other : t.agrees word = false := by
        rw [Token.agrees_comm, ← Bool.not_eq_true]
        exact fun agrees => fits (.cons (.inr agrees) .nil)
      exact List.forall_mem_cons.2 ⟨other, ih⟩

/-- A rule for the word alone leaves it nowhere, unless it puts it back. -/
theorem absent_apply {r : Rule} (alone : r.old = [word]) (fresh : word.Absent r.new)
    (tokens : List Token) : word.Absent (r.apply tokens).1 := by
  have literal : word.isWildcard = false := by
    obtain ⟨t, listed, literal⟩ := r.anchored
    rw [alone, List.mem_singleton] at listed
    rwa [← listed]
  rw [apply_eq_rewrite, alone]
  exact absent_rewrite literal fresh tokens

theorem Absent.apply {r : Rule} {tokens : List Token} (absent : word.Absent tokens)
    (fresh : word.Absent r.new) : word.Absent (r.apply tokens).1 := fun t mem =>
  (mem_apply mem).elim (absent t) (fresh t)

end Rule

namespace RuleTable

/-- One rule of the table looks for the word alone, and none puts it in. -/
structure Removes (table : RuleTable) (word : Token) : Prop where
  alone : ∃ entry ∈ table.entries, entry.2.old = [word]
  fresh : ∀ entry ∈ table.entries, word.Absent entry.2.new

instance (table : RuleTable) (word : Token) : Decidable (table.Removes word) :=
  decidable_of_iff (_ ∧ _) ⟨fun ⟨a, f⟩ => ⟨a, f⟩, fun removes => ⟨removes.alone, removes.fresh⟩⟩

theorem Removes.absent_apply {table : RuleTable} (removes : table.Removes word)
    (tokens : List Token) : word.Absent (table.apply tokens).1 := by
  refine Rule.applyEach_establishes (P := word.Absent) ?_ ?_
  · exact fun entry listed now absent => Rule.Absent.apply absent (removes.fresh entry listed)
  · obtain ⟨entry, listed, alone⟩ := removes.alone
    exact ⟨entry, listed, Rule.absent_apply alone (removes.fresh entry listed)⟩

end RuleTable

/-! ## Enumerated types -/

namespace EnumType

variable {declaration : Text} {type : EnumType}

/-- The tokens of a check that are the same for every type. -/
def checkWords : List Token := ["$1", "text", "check", "(", "in", ",", ")"]

theorem Declares.mem_new (declares : Declares declaration type) {t : Token}
    (mem : t ∈ type.rule.new) : t ∈ checkWords ∨ t.isLiteral = true := by
  have parts : t ∈ checkWords ∨ t ∈ valueTokens type.values := by
    rw [declares.new_eq] at mem
    simp only [check, List.mem_cons, List.mem_append] at mem
    simp only [checkWords, List.mem_cons]
    tauto
  refine parts.elim .inl fun listed => ?_
  rcases mem_valueTokens listed with rfl | ⟨v, value, rfl⟩
  · exact .inl (by decide)
  · exact .inr (declares.values v value).2

/-- The rule of a type puts in no word but its own, whatever the values are. -/
theorem Declares.absent_new (declares : Declares declaration type)
    (apart : word.Absent checkWords) (bare : word.isLiteral = false) :
    word.Absent type.rule.new := by
  intro t mem
  rcases declares.mem_new mem with common | value
  · exact apart t common
  · rw [← Bool.not_eq_true]
    intro agrees
    rw [Token.isLiteral_congr agrees, bare] at value
    cases value

end EnumType

theorem EnumRegistry.absent_apply {registry : EnumRegistry} {tokens : List Token}
    (declared : ∀ type ∈ registry.types, ∃ declaration, EnumType.parse declaration = .ok type)
    (apart : word.Absent EnumType.checkWords) (bare : word.isLiteral = false)
    (absent : word.Absent tokens) : word.Absent (registry.apply tokens).1 := by
  refine Rule.applyEach_preserves (P := word.Absent) ?_ absent
  intro type listed now absent
  obtain ⟨declaration, parsed⟩ := declared type listed
  exact Rule.Absent.apply absent ((EnumType.parse_eq_ok parsed).absent_new apart bare)

/-! ## Translations -/

/-- What queries say that the other database does not know, or reads as a keyword. -/
def foreignQueryWords : List Token := ["TRUE", "FALSE", "commit", "transaction", "'1 day'"]

def foreignSchemaWords : List Token := ["TRUE", "FALSE", "commit", "transaction"]

theorem removes_queryRules : ∀ word ∈ foreignQueryWords, queryRules.Removes word := by
  decide +kernel

theorem removes_schemaRules : ∀ word ∈ foreignSchemaWords, schemaRules.Removes word := by
  decide +kernel

/-- Where no quotation mark is left open, a translation has none of the foreign words, in any
case, and neither have the checks on enumerated types. -/
theorem absent_tokenize_translated :
    (∀ query, (∀ t ∈ tokenize query, ¬t.IsLone) →
      ∀ word ∈ foreignQueryWords, word.Absent (tokenize (translateQuery query))) ∧
    (∀ registry : EnumRegistry,
      (∀ type ∈ registry.types, ∃ declaration, EnumType.parse declaration = .ok type) →
      ∀ statement, (∀ t ∈ tokenize statement, ¬t.IsLone) →
        ∀ word ∈ foreignSchemaWords,
          word.Absent (tokenize (translateSchema registry statement))) := by
  constructor
  · intro query closed word foreign
    have closed' := (convertPlaceholders_closed_iff query).2 closed
    have stands := RuleTable.stands_apply stands_queryRules (stands_of_mem_tokenize closed')
    rw [translateQuery, tokenize_join_of_stands stands]
    exact (removes_queryRules word foreign).absent_apply _
  · intro registry declared statement closed word foreign
    have stands := EnumRegistry.stands_apply declared <|
      RuleTable.stands_apply stands_schemaRules (stands_of_mem_tokenize closed)
    have apart : ∀ word ∈ foreignSchemaWords,
        word.Absent EnumType.checkWords ∧ word.isLiteral = false := by
      decide +kernel
    obtain ⟨apart, bare⟩ := apart word foreign
    rw [translateSchema, tokenize_join_of_stands stands]
    exact EnumRegistry.absent_apply declared apart bare
      ((removes_schemaRules word foreign).absent_apply _)

/-- The first rule takes a word for its wildcard before the rule for that word runs; a column and
the values of its type are such words too. -/
theorem absent_tokenize_translated_captured :
    (∀ word ∈ foreignQueryWords, word.Absent (tokenize (translateQuery
      "SELECT EXTRACT('epoch' FROM NOW() - Commit), MD5(false) FROM t WHERE a > '1 DAY' OR TRUE"))) ∧
    (∀ word ∈ foreignSchemaWords, word.Absent (tokenize (translateSchema
      ⟨(EnumType.parse "CREATE TYPE mood AS ENUM ('TRUE', 'commit')").toOption.toList⟩
      "CREATE TABLE transaction (commit mood, b bool DEFAULT False)"))) := by
  obtain ⟨queries, statements⟩ := absent_tokenize_translated
  constructor
  · exact queries
      "SELECT EXTRACT('epoch' FROM NOW() - Commit), MD5(false) FROM t WHERE a > '1 DAY' OR TRUE"
      (by decide +kernel)
  · exact statements _ (fun _ mem => ⟨_, eq_ok_of_mem_toOption (Option.mem_toList.1 mem)⟩)
      "CREATE TABLE transaction (commit mood, b bool DEFAULT False)" (by decide +kernel)

end SqlDialect
