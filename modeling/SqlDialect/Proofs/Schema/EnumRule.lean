import SqlDialect.Proofs.Except
import SqlDialect.Proofs.Rule.Vocabulary
import SqlDialect.Proofs.Token.Marks
import SqlDialect.Schema.EnumType

/-! The rule of an enumerated type by its name and its values.

The values are literals of the declaration, so the new pattern leaves no quotation mark open and
its tokens are those that it seems to have.
-/

set_option autoImplicit false

namespace SqlDialect

theorem Rule.ofText?_eq_ok {old new : Text} {r : Rule} (made : Rule.ofText? old new = .ok r) :
    r.old = tokenize old ∧ r.new = tokenize new := by
  unfold Rule.ofText? at made
  cases tokens : Rule.ofTokens? (tokenize old) (tokenize new) with
  | error defect => rw [tokens] at made; cases made
  | ok r' =>
    rw [tokens] at made
    cases made
    exact Rule.ofTokens?_eq_ok tokens

namespace EnumType

/-- What a column of the type becomes, where `$1` is its name. -/
def checkedColumn (values : List Text) : Text :=
  "$1 text check ($1 in (" ++ List.intercalate [',', ' '] values ++ "))"

structure Declares (declaration : Text) (type : EnumType) : Prop where
  name : (tokenize declaration)[2]? = some ⟨type.name⟩
  values : ∀ v ∈ type.values, ⟨v⟩ ∈ tokenize declaration ∧ (⟨v⟩ : Token).isLiteral = true
  old : type.rule.old = tokenize ("$1 " ++ type.name)
  new : type.rule.new = tokenize (checkedColumn type.values)

theorem ofValues?_eq_ok {name : Text} {values : List Text} {type : EnumType}
    (made : ofValues? name values = .ok type) :
    type.name = name ∧ type.values = values ∧ type.rule.old = tokenize ("$1 " ++ name) ∧
      type.rule.new = tokenize (checkedColumn values) := by
  obtain ⟨rule, built, rfl⟩ := exists_of_map_eq_ok made
  exact ⟨rfl, rfl, Rule.ofText?_eq_ok built⟩

theorem parse_eq_ok {declaration : Text} {type : EnumType}
    (parsed : parse declaration = .ok type) : Declares declaration type := by
  unfold parse at parsed
  cases third : (tokenize declaration)[2]? with
  | none => simp [third] at parsed
  | some name =>
    simp only [third] at parsed
    split at parsed
    next opening closing _ _ =>
      split at parsed
      · obtain ⟨named, valued, old, new⟩ := ofValues?_eq_ok parsed
        refine ⟨by rw [third, named], ?_, named ▸ old, valued ▸ new⟩
        intro v listed
        rw [valued] at listed
        obtain ⟨t, kept, rfl⟩ := List.mem_map.1 listed
        obtain ⟨between, literal⟩ := List.mem_filter.1 kept
        exact ⟨List.mem_of_mem_take (List.mem_of_mem_drop between), literal⟩
      · cases parsed
    next => cases parsed

/-! ## The new pattern -/

variable {declaration : Text} {type : EnumType}

theorem outside_after_checkedColumn (values : List Text)
    (closed : ∀ v ∈ values, Place.outside.after v = .outside) :
    Place.outside.after (checkedColumn values) = .outside := by
  have list : Place.outside.after (List.intercalate [',', ' '] values) = .outside := by
    induction values with
    | nil => rfl
    | cons v values ih =>
      obtain ⟨first, closed⟩ := List.forall_mem_cons.1 closed
      cases values with
      | nil =>
        rw [List.intercalate_singleton]
        exact first
      | cons w values =>
        rw [List.intercalate_cons_cons, List.append_assoc, Place.after_append, Place.after_append,
          first]
        exact ih closed
  unfold checkedColumn
  rw [Place.after_append, Place.after_append]
  have opening : Place.outside.after "$1 text check ($1 in (".toList = .outside := by decide
  rw [opening, list]
  decide

theorem Declares.outside_after {v : Text} (declares : Declares declaration type)
    (listed : v ∈ type.values) : Place.outside.after v = .outside := by
  obtain ⟨declared, literal⟩ := declares.values v listed
  rw [← tokenize_closed_iff, tokenize_text_of_mem declared, List.forall_mem_singleton]
  rintro (lone | lone) <;> simp_all [Token.isLiteral]

theorem Declares.stands_new (declares : Declares declaration type) :
    ∀ t ∈ type.rule.new, t.Stands := by
  rw [declares.new]
  apply stands_of_mem_tokenize
  rw [tokenize_closed_iff]
  exact outside_after_checkedColumn _ fun v listed => declares.outside_after listed

theorem Declares.begins_value {v : Text} (declares : Declares declaration type)
    (listed : v ∈ type.values) {r : Text} (single : r.head? ≠ some '\'') : Begins v r := by
  obtain ⟨declared, literal⟩ := declares.values v listed
  obtain ⟨_, begins⟩ := begins_of_mem_tokenize declared
  rcases begins.marks with ⟨body, inner, rfl, -⟩ | ⟨-, rfl⟩ | ⟨body, -, rfl⟩ | ⟨-, rfl⟩ |
    ⟨noMark, -⟩
  · exact .literal inner single
  · simp [Token.isLiteral] at literal
  · simp [Token.isLiteral] at literal
  · simp [Token.isLiteral] at literal
  · simp only [Token.isLiteral, Bool.and_eq_true, beq_iff_eq] at literal
    exact absurd (List.mem_of_mem_head? literal.1.2) noMark

def valueTokens (values : List Text) : List Token :=
  List.intercalate ([","] : List Token) (values.map fun v => [⟨v⟩])

theorem mem_valueTokens {values : List Text} {t : Token} (mem : t ∈ valueTokens values) :
    t = "," ∨ ∃ v ∈ values, t = ⟨v⟩ := by
  rcases mem_of_mem_intercalate mem with separator | ⟨part, listed, inside⟩
  · exact .inl (List.mem_singleton.1 separator)
  · obtain ⟨v, written, rfl⟩ := List.mem_map.1 listed
    exact .inr ⟨v, written, List.mem_singleton.1 inside⟩

def check (type : EnumType) (column : Token) : List Token :=
  "check" :: "(" :: column :: "in" :: "(" :: (valueTokens type.values ++ ([")", ")"] : List Token))

theorem tokenize_sign {c : Char} (sign : c ∈ ['(', ')', ',']) (r : Text) :
    tokenize (c :: r) = ⟨[c]⟩ :: tokenize r := by
  have begins : Begins [c] r := by
    simp only [List.mem_cons, List.not_mem_nil, or_false] at sign
    rcases sign with rfl | rfl | rfl <;>
      exact .single (by decide) (by decide) (by decide) (by decide) (by simp)
        (fun d _ => by simp [comparisons])
  exact tokenize_of_begins Text.blank_nil begins

theorem tokenize_values {values : List Text}
    (begins : ∀ v ∈ values, ∀ r : Text, r.head? ≠ some '\'' → Begins v r) :
    tokenize (List.intercalate [',', ' '] values ++ [')', ')']) =
      valueTokens values ++ ([")", ")"] : List Token) := by
  have closing : tokenize [')', ')'] = ([")", ")"] : List Token) := by
    rw [tokenize_sign (by decide), tokenize_sign (by decide), tokenize_of_blank Text.blank_nil]
    rfl
  induction values with
  | nil => exact closing
  | cons v values ih =>
    obtain ⟨here, begins⟩ := List.forall_mem_cons.1 begins
    cases values with
    | nil =>
      have read := tokenize_of_begins Text.blank_nil (here [')', ')'] (by decide))
      rw [closing] at read
      rw [List.intercalate_singleton, valueTokens, List.map_singleton, List.intercalate_singleton]
      exact read
    | cons w values =>
      have read := tokenize_of_begins Text.blank_nil
        (here (',' :: ([' '] ++ (List.intercalate [',', ' '] (w :: values) ++ [')', ')'])))
          (by simp))
      rw [tokenize_sign (by decide), tokenize_blank_append _ blank_space, ih begins] at read
      simpa [valueTokens, List.intercalate_cons_cons] using read

theorem tokenize_column_append {t : Token} (single : tokenize t.text = [t]) :
    tokenize ("$1 " ++ t.text) = (["$1", t] : List Token) := by
  have parted := tokenize_append_space (s := ['$', '1']) (by decide +kernel) t.text
  have wildcard : tokenize ['$', '1'] = (["$1"] : List Token) := by decide +kernel
  rw [single, wildcard] at parted
  exact parted

theorem Declares.old_eq (declares : Declares declaration type) :
    type.rule.old = (["$1", ⟨type.name⟩] : List Token) := by
  rw [declares.old]
  exact tokenize_column_append (tokenize_text_of_mem (List.mem_of_getElem? declares.name))

theorem Declares.new_eq (declares : Declares declaration type) :
    type.rule.new = ("$1" : Token) :: "text" :: type.check "$1" := by
  have opening : "$1 text check ($1 in (".toList = "$1 text check ($1 in".toList ++ [' ', '('] := by
    decide
  have closing : "))".toList = [')', ')'] := by decide
  have regroup {a b last : Text} (parts : a = b ++ [' ', '(']) (last? : last = [')', ')'])
      (list : Text) : a ++ list ++ last = b ++ ' ' :: '(' :: (list ++ [')', ')']) := by
    rw [parts, last?]
    simp
  have whole : checkedColumn type.values = "$1 text check ($1 in".toList ++
      ' ' :: '(' :: (List.intercalate [',', ' '] type.values ++ [')', ')']) :=
    regroup opening closing _
  have first : tokenize "$1 text check ($1 in".toList =
      (["$1", "text", "check", "(", "$1", "in"] : List Token) := by
    decide +kernel
  have closed : ∀ t ∈ tokenize "$1 text check ($1 in".toList, ¬t.IsLone := by decide +kernel
  rw [declares.new, whole, tokenize_append_space closed, first, tokenize_sign (by decide),
    tokenize_values fun v listed _ => declares.begins_value listed]
  rfl

theorem Declares.keepsFirst (declares : Declares declaration type) (t : Token) :
    type.rule.keepsFirst t = true := by
  have wild : ("$1" : Token).isWildcard = true := by decide
  unfold Rule.keepsFirst
  rw [declares.old_eq, declares.new_eq, List.head?_cons, List.head?_cons, Option.any_some,
    if_pos wild, beq_self_eq_true]

theorem Declares.semicolon_not_mem_new (declares : Declares declaration type)
    (plain : ';' ∉ declaration) : ∀ t ∈ type.rule.new, ';' ∉ t.text := by
  rw [declares.new]
  intro t mem inside
  have written := mem_of_mem_tokenize mem inside
  unfold checkedColumn at written
  rcases List.mem_append.1 written with start | closing
  · rcases List.mem_append.1 start with opening | list
    · revert opening
      decide
    · rcases mem_of_mem_intercalate list with separator | ⟨v, listed, here⟩
      · revert separator
        decide
      · exact plain (mem_of_mem_tokenize (declares.values v listed).1 here)
  · revert closing
    decide

end EnumType

end SqlDialect
