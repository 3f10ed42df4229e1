import SqlDialect.Proofs.Schema.EnumColumn
import SqlDialect.Proofs.Token.Literal
import SqlDialect.Schema.Statement

/-! Declarations of enumerated types.

A declaration is read twice: its values are what stands between the first brackets among its tokens,
and the rule of the type is read again from a text made of them. Neither reading looks into a
literal, so a literal may contain brackets, commas, semicolons and wildcards.
-/

set_option autoImplicit false

namespace SqlDialect

namespace Token

variable {t : Token}

/-- A word, or what stands between double quotation marks. -/
inductive IsName : Token → Prop where
  | word {w : Text} : w ≠ [] → (∀ c ∈ w, isNameChar c = true) → IsName ⟨w⟩
  | quoted {body : Text} : '"' ∉ body → IsName ⟨'"' :: body ++ ['"']⟩

theorem IsName.tokenize (name : t.IsName) : tokenize t.text = [t] := by
  rw [tokenize_text_iff]
  cases name with
  | word nonempty named => exact .word nonempty named (by simp)
  | quoted unmarked => exact .name unmarked

theorem IsName.isWildcard (name : t.IsName) : t.isWildcard = false := by
  cases name with
  | @word w nonempty named =>
    cases w with
    | nil => rfl
    | cons c w =>
      have other : c ≠ '$' := by
        rintro rfl
        exact absurd (named '$' List.mem_cons_self) (by decide)
      simp [isWildcard, other]
  | quoted => rfl

theorem IsName.ne_sign (name : t.IsName) {c : Char} (unnamed : isNameChar c = false) :
    t ≠ ⟨[c]⟩ := by
  rintro rfl
  generalize written : (⟨[c]⟩ : Token) = t at name
  cases name with
  | word _ named =>
    cases written
    rw [named c (List.mem_singleton_self c)] at unnamed
    cases unnamed
  | quoted => simp at written

/-- What stands between single quotation marks. -/
inductive IsClosedLiteral : Token → Prop where
  | intro {body : Text} : Paired body → IsClosedLiteral ⟨'\'' :: body ++ ['\'']⟩

theorem IsClosedLiteral.isLiteral (literal : t.IsClosedLiteral) : t.isLiteral = true := by
  cases literal with
  | intro => exact Token.isLiteral_between_marks _

end Token

/-! ## Which declarations are read -/

namespace EnumType

theorem exists_ofValues?_iff {name : Token} (single : tokenize name.text = [name])
    (values : List Text) :
    (∃ type, ofValues? name.text values = .ok type) ↔ name.isWildcard = false := by
  have wild : ("$1" : Token).isWildcard = true := by decide
  have built : (∃ type, ofValues? name.text values = .ok type) ↔
      ∃ rule, Rule.ofTokens? ["$1", name] (tokenize (checkedColumn values)) = .ok rule := by
    have read : Rule.ofText? ("$1 " ++ name.text) (checkedColumn values) =
        (Rule.ofTokens? ["$1", name] (tokenize (checkedColumn values))).mapError
          (Rule.Defect.toFault ["$1", name]) := by
      rw [Rule.ofText?, tokenize_column_append single]
    have valued : ofValues? name.text values =
        (Rule.ofText? ("$1 " ++ name.text) (checkedColumn values)).map
          fun rule => ⟨name.text, values, rule⟩ := rfl
    rw [valued, read]
    cases Rule.ofTokens? ["$1", name] (tokenize (checkedColumn values)) <;>
      simp [Except.map, Except.mapError]
  rw [built, Rule.exists_ofTokens?_eq_ok_iff]
  generalize ("$1" : Token) = wildcard at wild
  have apart (plain : name.isWildcard = false) : wildcard ≠ name := by
    rintro rfl
    rw [wild] at plain
    cases plain
  simp +contextual [wild, apart]

/-- The tokens have a name in the third place and a pair of brackets. -/
def Declarable (tokens : List Token) : Prop :=
  (∃ name, tokens[2]? = some name ∧ name.isWildcard = false) ∧
  ∃ opening closing, tokens.findIdx? (· == ("(" : Token)) = some opening ∧
    tokens.findIdx? (· == (")" : Token)) = some closing ∧ opening < closing

theorem exists_parse_iff (statement : Text) :
    (∃ type, parse statement = .ok type) ↔ Declarable (tokenize statement) := by
  unfold parse Declarable
  cases third : (tokenize statement)[2]? with
  | none => simp only [third, reduceCtorEq, exists_false, false_and]
  | some name =>
    have single := tokenize_text_of_mem (List.mem_of_getElem? third)
    have named : (∃ n, some name = some n ∧ n.isWildcard = false) ↔ name.isWildcard = false := by
      simp
    rw [named]
    cases first : (tokenize statement).findIdx? (· == ("(" : Token)) with
    | none => simp only [third, first, reduceCtorEq, exists_false, false_and, and_false]
    | some opening =>
      cases last : (tokenize statement).findIdx? (· == (")" : Token)) with
      | none => simp only [third, first, last, reduceCtorEq, exists_false, false_and, and_false]
      | some closing =>
        have placed : (∃ i j, some opening = some i ∧ some closing = some j ∧ i < j) ↔
            opening < closing := by
          simp
        simp only [third, first, last, placed]
        by_cases order : opening < closing
        · simp only [order, if_true, and_true]
          exact exists_ofValues?_iff single _
        · simp only [order, if_false, reduceCtorEq, exists_false, and_false]

end EnumType

/-- The tokens `CREATE TYPE name AS ENUM ( v₁ , … , vₖ )`, with the keywords in any case. -/
structure EnumDeclaration where
  createWord : Token
  typeWord : Token
  name : Token
  asWord : Token
  enumWord : Token
  values : List Text
  create_agrees : createWord.agrees "CREATE" = true
  type_agrees : typeWord.agrees "TYPE" = true
  as_agrees : asWord.agrees "AS" = true
  enum_agrees : enumWord.agrees "ENUM" = true
  isName : name.IsName
  closed : ∀ v ∈ values, (⟨v⟩ : Token).IsClosedLiteral

namespace EnumDeclaration

open EnumType (valueTokens mem_valueTokens)

def opening (d : EnumDeclaration) : List Token :=
  [d.createWord, d.typeWord, d.name, d.asWord, d.enumWord]

def tokens (d : EnumDeclaration) : List Token :=
  d.opening ++ ("(" :: (valueTokens d.values ++ ([")"] : List Token)) : List Token)

variable {d : EnumDeclaration} {statement : Text}

theorem ofTokens (d : EnumDeclaration) : StatementKind.ofTokens d.tokens = .enumDeclaration := by
  have alike {t word : Token} (same : t.agrees word = true) := Token.agrees_congr_left same
  simp +decide [StatementKind.ofTokens, tokens, opening, alike d.create_agrees,
    alike d.type_agrees, alike d.as_agrees, alike d.enum_agrees]

theorem ne_sign_of_mem_opening {t : Token} (mem : t ∈ d.opening) {c : Char}
    (bracket : c = '(' ∨ c = ')') : t ≠ ⟨[c]⟩ := by
  have unlike {keyword : Token} (apart : Token.agrees "(" keyword = false ∧
      Token.agrees ")" keyword = false) (same : t.agrees keyword = true) : t ≠ ⟨[c]⟩ := by
    rintro rfl
    rcases bracket with rfl | rfl
    · exact absurd same (Bool.eq_false_iff.1 apart.1)
    · exact absurd same (Bool.eq_false_iff.1 apart.2)
  have unnamed : isNameChar c = false := by rcases bracket with rfl | rfl <;> decide
  simp only [opening, List.mem_cons, List.not_mem_nil, or_false] at mem
  rcases mem with rfl | rfl | rfl | rfl | rfl
  · exact unlike (by decide) d.create_agrees
  · exact unlike (by decide) d.type_agrees
  · exact d.isName.ne_sign unnamed
  · exact unlike (by decide) d.as_agrees
  · exact unlike (by decide) d.enum_agrees

-- A literal begins with a quotation mark, so no bracket inside it is a token.
theorem bracket_not_mem_values : (")" : Token) ∉ valueTokens d.values := by
  intro mem
  rcases mem_valueTokens mem with comma | ⟨v, listed, same⟩
  · exact absurd comma (by decide)
  · have literal := (d.closed v listed).isLiteral
    rw [← same] at literal
    exact absurd literal (by decide)

theorem findIdx?_append_cons {lead : List Token} {t : Token} (absent : t ∉ lead)
    (rest : List Token) : (lead ++ t :: rest).findIdx? (· == t) = some lead.length := by
  have before : lead.findIdx? (· == t) = none := by
    rw [List.findIdx?_eq_none_iff]
    intro u mem
    rw [beq_eq_false_iff_ne]
    rintro rfl
    exact absent mem
  simp [List.findIdx?_append, before, List.findIdx?_cons]

theorem findIdx?_opening (d : EnumDeclaration) :
    d.tokens.findIdx? (· == ("(" : Token)) = some d.opening.length :=
  findIdx?_append_cons (fun mem => ne_sign_of_mem_opening mem (.inl rfl) rfl) _

theorem findIdx?_closing (d : EnumDeclaration) :
    d.tokens.findIdx? (· == (")" : Token)) =
      some (d.opening.length + 1 + (valueTokens d.values).length) := by
  have absent : (")" : Token) ∉ d.opening ++ ("(" :: valueTokens d.values : List Token) := by
    rw [List.mem_append, List.mem_cons, not_or, not_or]
    exact ⟨fun mem => ne_sign_of_mem_opening mem (.inr rfl) rfl, by decide, bracket_not_mem_values⟩
  have found := findIdx?_append_cons absent []
  rw [List.append_assoc, List.cons_append] at found
  rw [tokens, found, List.length_append, List.length_cons, Nat.add_assoc, Nat.add_comm 1]

theorem between (d : EnumDeclaration) :
    (d.tokens.take (d.opening.length + 1 + (valueTokens d.values).length)).drop
      (d.opening.length + 1) = valueTokens d.values := by
  rw [tokens, Nat.add_assoc, List.take_length_add_append, List.drop_length_add_append,
    Nat.add_comm, List.take_succ_cons, List.take_left, List.drop_one, List.tail_cons]

theorem filter_valueTokens {values : List Text}
    (literals : ∀ v ∈ values, (⟨v⟩ : Token).isLiteral = true) :
    ((valueTokens values).filter Token.isLiteral).map Token.text = values := by
  induction values with
  | nil => rfl
  | cons v values ih =>
    obtain ⟨literal, literals⟩ := List.forall_mem_cons.1 literals
    cases values with
    | nil => simp [valueTokens, literal]
    | cons w values =>
      have comma : (⟨[',']⟩ : Token).isLiteral = false := by decide
      have parted : valueTokens (v :: w :: values) =
          (⟨v⟩ : Token) :: ⟨[',']⟩ :: valueTokens (w :: values) := by
        simp [valueTokens, List.intercalate_cons_cons]
      rw [parted, List.filter_cons_of_pos literal,
        List.filter_cons_of_neg (Bool.eq_false_iff.1 comma), List.map_cons, ih literals]

/-! ## The type of a declaration -/

theorem parse_eq (written : tokenize statement = d.tokens) :
    EnumType.parse statement = EnumType.ofValues? d.name.text d.values := by
  have third : d.tokens[2]? = some d.name := rfl
  have literals := filter_valueTokens fun v listed => (d.closed v listed).isLiteral
  have order : d.opening.length < d.opening.length + 1 + (valueTokens d.values).length := by omega
  unfold EnumType.parse
  simp only [written, third, d.findIdx?_opening, d.findIdx?_closing, if_pos order, d.between,
    literals]

theorem exists_ofValues? (d : EnumDeclaration) :
    ∃ type, EnumType.ofValues? d.name.text d.values = .ok type :=
  (EnumType.exists_ofValues?_iff d.isName.tokenize d.values).2 d.isName.isWildcard

/-- The type of a declaration has the name and the values that were written, and makes of a column
of it a text column that is checked against these values. -/
theorem declares_written (d : EnumDeclaration) (written : tokenize statement = d.tokens) :
    StatementKind.ofText statement = .enumDeclaration ∧
    ∃ type, EnumType.parse statement = .ok type ∧ type.name = d.name.text ∧
      type.values = d.values ∧
      ∀ column named : Token, named.agrees d.name = true →
        type.rule.apply [column, named] =
          (column :: "text" :: "check" :: "(" :: column :: "in" :: "(" ::
            (valueTokens d.values ++ ([")", ")"] : List Token)), 1) := by
  constructor
  · rw [StatementKind.ofText, written, d.ofTokens]
  obtain ⟨type, made⟩ := d.exists_ofValues?
  obtain ⟨name, values, -, -⟩ := EnumType.ofValues?_eq_ok made
  have parsed : EnumType.parse statement = .ok type := by rw [parse_eq written, made]
  refine ⟨type, parsed, name, values, fun column named same => ?_⟩
  have names : type.names named = true := by rw [EnumType.names, name]; exact same
  rw [(EnumType.parse_eq_ok parsed).apply_cons_cons names, type.apply_nil, EnumType.check, values,
    List.append_nil]

/-- A quoted name in other letters, and literals that look like the signs around them. -/
theorem declares_written_signs :
    StatementKind.ofText "create Type \"A b\"  As ENUM('it''s)','(' , ',;', '$1')" =
      .enumDeclaration ∧
    ∃ type, EnumType.parse "create Type \"A b\"  As ENUM('it''s)','(' , ',;', '$1')" = .ok type ∧
      type.name = "\"A b\"".toList ∧
      type.values = ["'it''s)'".toList, "'('".toList, "',;'".toList, "'$1'".toList] ∧
      type.rule.apply ["$1", "\"a B\""] =
        ((["$1", "text", "check", "(", "$1", "in", "(", "'it''s)'", ",", "'('", ",", "',;'", ",",
          "'$1'", ")", ")"] : List Token), 1) := by
  have name : Token.IsName "\"A b\"" := @Token.IsName.quoted "A b".toList (by decide)
  have values : ∀ v ∈ ["'it''s)'".toList, "'('".toList, "',;'".toList, "'$1'".toList],
      (⟨v⟩ : Token).IsClosedLiteral := by
    rw [List.forall_mem_cons]
    refine ⟨@Token.IsClosedLiteral.intro "it''s)".toList ?_, ?_⟩
    · exact .char (by decide) (.char (by decide) (.pair (.of_not_mem (by decide))))
    · rw [List.forall_mem_cons, List.forall_mem_cons, List.forall_mem_singleton]
      exact ⟨@Token.IsClosedLiteral.intro "(".toList (.of_not_mem (by decide)),
        @Token.IsClosedLiteral.intro ",;".toList (.of_not_mem (by decide)),
        @Token.IsClosedLiteral.intro "$1".toList (.of_not_mem (by decide))⟩
  have keywords : Token.agrees "create" "CREATE" = true ∧ Token.agrees "Type" "TYPE" = true ∧
      Token.agrees "As" "AS" = true ∧ Token.agrees "ENUM" "ENUM" = true := by
    decide
  obtain ⟨create, type, link, enum⟩ := keywords
  have written : tokenize "create Type \"A b\"  As ENUM('it''s)','(' , ',;', '$1')" =
      (["create", "Type", "\"A b\"", "As", "ENUM", "(", "'it''s)'", ",", "'('", ",", "',;'", ",",
        "'$1'", ")"] : List Token) := by
    decide +kernel
  have same : Token.agrees "\"a B\"" "\"A b\"" = true := by decide
  obtain ⟨kind, made, parsed, named, valued, applied⟩ := declares_written
    ⟨"create", "Type", "\"A b\"", "As", "ENUM", _, create, type, link, enum, name, values⟩ written
  exact ⟨kind, made, parsed, named, valued, applied "$1" "\"a B\"" same⟩

end EnumDeclaration

end SqlDialect
