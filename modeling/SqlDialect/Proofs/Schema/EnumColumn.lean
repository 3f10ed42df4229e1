import SqlDialect.Proofs.Rule.Progress
import SqlDialect.Proofs.Schema.EnumRule

/-! Columns of enumerated types.

The rule of a type takes its name, wherever it stands but at the start, together with the token
before it. In the definition of a table that names the type for columns only, these pairs are the
columns of the type, and each becomes a text column with a check. Everywhere else the rule takes
what is no column.
-/

set_option autoImplicit false

namespace SqlDialect

structure ColumnTokens where
  name : Token
  type : Token
  rest : List Token

def ColumnTokens.tokens (c : ColumnTokens) : List Token := c.name :: c.type :: c.rest

/-- Columns parted by commas, up to the closing bracket, and what follows it. -/
def listTokens (columns : List ColumnTokens) (closing : List Token) : List Token :=
  List.intercalate ([","] : List Token) (columns.map ColumnTokens.tokens) ++
    (")" :: closing : List Token)

/-- A statement with a list of columns in brackets, such as `CREATE TABLE t ( c int , d text )`. -/
def tableTokens (opening : List Token) (columns : List ColumnTokens) (closing : List Token) :
    List Token :=
  opening ++ ("(" :: listTokens columns closing : List Token)

theorem listTokens_singleton (c : ColumnTokens) (closing : List Token) :
    listTokens [c] closing = c.tokens ++ (")" :: closing : List Token) := by
  simp [listTokens]

theorem listTokens_cons_cons (c d : ColumnTokens) (columns : List ColumnTokens)
    (closing : List Token) :
    listTokens (c :: d :: columns) closing =
      c.tokens ++ ("," :: listTokens (d :: columns) closing : List Token) := by
  simp [listTokens, List.intercalate_cons_cons]

theorem head?_listTokens (columns : List ColumnTokens) (closing : List Token) :
    ∀ t ∈ (listTokens columns closing).head?, t = ")" ∨ ∃ c ∈ columns, t = c.name := by
  rcases columns with _ | ⟨c, _ | ⟨d, columns⟩⟩
  · rintro _ ⟨⟩
    exact .inl rfl
  · rintro _ ⟨⟩
    exact .inr ⟨c, List.mem_cons_self, rfl⟩
  · rintro _ ⟨⟩
    exact .inr ⟨c, List.mem_cons_self, rfl⟩

namespace EnumType

/-- Whether a token is the name of the type, in any case. -/
def names (type : EnumType) (t : Token) : Bool := t.agrees ⟨type.name⟩

/-- A column as a text column with a check against the values. -/
def checked (type : EnumType) (c : ColumnTokens) : ColumnTokens :=
  ⟨c.name, "text", type.check c.name ++ c.rest⟩

def declare (type : EnumType) (c : ColumnTokens) : ColumnTokens :=
  if type.names c.type then type.checked c else c

/-- No token of a table's definition is the name of the type but the first and the types of its
columns. -/
structure Apart (type : EnumType) (opening : List Token) (columns : List ColumnTokens)
    (closing : List Token) : Prop where
  opening : ∀ t ∈ opening.tail, type.names t = false
  signs : ∀ t ∈ (["(", ",", ")"] : List Token), type.names t = false
  columns : ∀ c ∈ columns, type.names c.name = false ∧ ∀ t ∈ c.rest, type.names t = false
  closing : ∀ t ∈ closing, type.names t = false

instance (type : EnumType) (opening : List Token) (columns : List ColumnTokens)
    (closing : List Token) : Decidable (type.Apart opening columns closing) :=
  decidable_of_iff (_ ∧ _ ∧ _ ∧ _)
    ⟨fun ⟨o, s, c, l⟩ => ⟨o, s, c, l⟩, fun a => ⟨a.opening, a.signs, a.columns, a.closing⟩⟩

/-! ## The rule at a name and past other tokens -/

variable {declaration : Text} {type : EnumType} {lead rest tokens : List Token} {t u : Token}

theorem Declares.isWildcard_name (declares : Declares declaration type) :
    (⟨type.name⟩ : Token).isWildcard = false := by
  obtain ⟨t, mem, literal⟩ := type.rule.anchored
  rw [declares.old_eq, List.mem_cons, List.mem_singleton] at mem
  rcases mem with rfl | rfl
  · cases literal
  · exact literal

theorem Declares.isWildcard_value {v : Text} (declares : Declares declaration type)
    (listed : v ∈ type.values) : (⟨v⟩ : Token).isWildcard = false := by
  have literal := (declares.values v listed).2
  cases v with
  | nil => rfl
  | cons c v =>
    simp only [Token.isLiteral, List.head?_cons, Bool.and_eq_true, beq_iff_eq,
      Option.some.injEq] at literal
    rw [literal.1.2]
    rfl

theorem Declares.fits_iff (declares : Declares declaration type) :
    Rule.Fits type.rule.old [t, u] ↔ type.names u = true := by
  have wildcard : (⟨['$', '1']⟩ : Token).isWildcard = true := by decide
  rw [declares.old_eq, names, Token.agrees_comm]
  simp [Rule.Fits, wildcard, declares.isWildcard_name]

theorem Declares.map_fill_new (declares : Declares declaration type) :
    type.rule.new.map (Rule.fill type.rule.old [t, u]) = t :: "text" :: type.check t := by
  have literal {s : Token} (plain : s.isWildcard = false) : Rule.fill type.rule.old [t, u] s = s :=
    Rule.fill_of_literal _ _ (Bool.eq_false_iff.1 plain)
  have column : Rule.fill type.rule.old [t, u] "$1" = t := by
    have wildcard : (⟨['$', '1']⟩ : Token).isWildcard = true := by decide
    rw [declares.old_eq]
    simp [Rule.fill, wildcard]
  have values : (valueTokens type.values).map (Rule.fill type.rule.old [t, u]) =
      valueTokens type.values := by
    rw [List.map_congr_left (g := id), List.map_id]
    intro s mem
    rcases mem_valueTokens mem with rfl | ⟨v, written, rfl⟩
    · exact literal (by decide)
    · exact literal (declares.isWildcard_value written)
  rw [declares.new_eq, check, check]
  simp +decide only [List.map_cons, List.map_append, List.map_nil, column, values,
    Rule.fill_of_literal]

theorem Declares.take_old (declares : Declares declaration type) :
    (t :: u :: rest).take type.rule.old.length = [t, u] := by
  rw [declares.old_eq]
  rfl

theorem Declares.apply_cons_cons (declares : Declares declaration type)
    (named : type.names u = true) :
    type.rule.apply (t :: u :: rest) =
      (t :: "text" :: (type.check t ++ (type.rule.apply rest).1), (type.rule.apply rest).2 + 1) := by
  have after : (t :: u :: rest).drop type.rule.old.length = rest := by
    rw [declares.old_eq]
    rfl
  have fits : Rule.Fits type.rule.old ((t :: u :: rest).take type.rule.old.length) := by
    rw [declares.take_old, declares.fits_iff]
    exact named
  rw [Rule.apply_eq_rewrite, Rule.rewrite_cons_of_fits _ type.rule.old_ne_nil fits,
    declares.take_old, after, declares.map_fill_new, Rule.apply_eq_rewrite]
  rfl

theorem Declares.apply_cons (declares : Declares declaration type)
    (apart : ∀ u ∈ rest.head?, type.names u = false) :
    type.rule.apply (t :: rest) =
      (t :: (type.rule.apply rest).1, (type.rule.apply rest).2) := by
  have differs : ¬Rule.Fits type.rule.old ((t :: rest).take type.rule.old.length) := by
    cases rest with
    | nil =>
      intro fits
      have same := fits.length_eq
      rw [declares.old_eq] at same
      cases same
    | cons u rest =>
      rw [declares.take_old, declares.fits_iff, apart u rfl]
      exact Bool.false_ne_true
  rw [Rule.apply_eq_rewrite, Rule.rewrite_cons_of_not_fits _ differs, Rule.apply_eq_rewrite]

theorem apply_nil (type : EnumType) : type.rule.apply [] = ([], 0) := by
  rw [Rule.apply_eq_rewrite, Rule.rewrite]

theorem Declares.apply_append (declares : Declares declaration type)
    (free : ∀ t ∈ lead.tail, type.names t = false)
    (apart : ∀ t ∈ rest.head?, type.names t = false) :
    type.rule.apply (lead ++ rest) =
      (lead ++ (type.rule.apply rest).1, (type.rule.apply rest).2) := by
  induction lead with
  | nil => rfl
  | cons t lead ih =>
    have next : ∀ u ∈ (lead ++ rest).head?, type.names u = false := by
      cases lead with
      | nil => exact apart
      | cons u lead =>
        rintro _ ⟨⟩
        exact free u List.mem_cons_self
    rw [List.cons_append, declares.apply_cons next, ih fun u mem => free u (List.mem_of_mem_tail mem)]
    rfl

theorem Declares.apply_of_free (declares : Declares declaration type)
    (free : ∀ t ∈ tokens.tail, type.names t = false) : type.rule.apply tokens = (tokens, 0) := by
  have passed : type.rule.apply (tokens ++ []) = _ := declares.apply_append free (by simp)
  rwa [type.apply_nil, List.append_nil] at passed

theorem mem_check {column : Token} (mem : t ∈ type.check column) :
    t = column ∨ t ∈ type.check "$1" := by
  simp only [check, List.mem_cons] at mem ⊢
  tauto

/-! ## Columns -/

variable {opening closing : List Token} {columns : List ColumnTokens} {c : ColumnTokens}

theorem Declares.apply_column (declares : Declares declaration type)
    (free : ∀ t ∈ c.rest, type.names t = false) (apart : ∀ t ∈ rest.head?, type.names t = false) :
    type.rule.apply (c.tokens ++ rest) =
      ((type.declare c).tokens ++ (type.rule.apply rest).1,
        (type.rule.apply rest).2 + if type.names c.type then 1 else 0) := by
  have after : type.rule.apply (c.rest ++ rest) = _ :=
    declares.apply_append (fun t mem => free t (List.mem_of_mem_tail mem)) apart
  by_cases named : type.names c.type = true
  · rw [declare, if_pos named, if_pos named, ColumnTokens.tokens, List.cons_append, List.cons_append,
      declares.apply_cons_cons named, after]
    simp [checked, ColumnTokens.tokens]
  · have passed : ∀ t ∈ c.tokens.tail, type.names t = false :=
      List.forall_mem_cons.2 ⟨Bool.eq_false_iff.2 named, free⟩
    rw [declare, if_neg named, if_neg named, declares.apply_append passed apart]
    rfl

theorem Apart.head?_listTokens (apart : type.Apart opening columns closing) :
    ∀ t ∈ (listTokens columns closing).head?, type.names t = false := by
  intro t first
  rcases SqlDialect.head?_listTokens columns closing t first with rfl | ⟨c, mem, rfl⟩
  · exact apart.signs _ (by simp)
  · exact (apart.columns c mem).1

theorem Apart.tail (apart : type.Apart opening (c :: columns) closing) :
    type.Apart opening columns closing :=
  ⟨apart.opening, apart.signs, (List.forall_mem_cons.1 apart.columns).2, apart.closing⟩

theorem Declares.apply_listTokens (declares : Declares declaration type)
    (apart : type.Apart opening columns closing) :
    type.rule.apply (listTokens columns closing) =
      (listTokens (columns.map type.declare) closing, columns.countP (type.names ·.type)) := by
  have comma : type.names "," = false := apart.signs _ (by simp)
  have bracket : type.names ")" = false := apart.signs _ (by simp)
  have last : type.rule.apply (")" :: closing : List Token) =
      ((")" :: closing : List Token), 0) := declares.apply_of_free apart.closing
  induction columns with
  | nil => exact last
  | cons c columns ih =>
    have free := (apart.columns c List.mem_cons_self).2
    cases columns with
    | nil =>
      rw [List.map_singleton, listTokens_singleton, listTokens_singleton,
        declares.apply_column free (by rintro _ ⟨⟩; exact bracket), last, List.countP_singleton,
        Nat.zero_add]
    | cons d columns =>
      rw [listTokens_cons_cons, declares.apply_column free (by rintro _ ⟨⟩; exact comma),
        declares.apply_cons apart.tail.head?_listTokens, ih apart.tail]
      simp [listTokens_cons_cons, List.countP_cons]

/-- In a table whose definition names the type for columns only, these columns are checked, and all
else stays. -/
theorem Declares.apply_tableTokens (declares : Declares declaration type)
    (apart : type.Apart opening columns closing) :
    type.rule.apply (tableTokens opening columns closing) =
      (tableTokens opening (columns.map type.declare) closing,
        columns.countP (type.names ·.type)) := by
  have bracket : type.names "(" = false := apart.signs _ (by simp)
  rw [tableTokens, declares.apply_append apart.opening (by rintro _ ⟨⟩; exact bracket),
    declares.apply_cons apart.head?_listTokens, declares.apply_listTokens apart]
  rfl

/-! ## Names that stand for no column -/

theorem Declares.free_of_apply (declares : Declares declaration type)
    (none : (type.rule.apply tokens).2 = 0) : ∀ t ∈ tokens.tail, type.names t = false := by
  induction tokens with
  | nil => exact List.forall_mem_nil _
  | cons t rest ih =>
    cases rest with
    | nil => exact List.forall_mem_nil _
    | cons u rest =>
      by_cases named : type.names u = true
      · rw [declares.apply_cons_cons named] at none
        cases none
      · have other := Bool.eq_false_iff.2 named
        rw [declares.apply_cons (by rintro _ ⟨⟩; exact other)] at none
        exact List.forall_mem_cons.2 ⟨other, ih none⟩

theorem Declares.length_add_le (declares : Declares declaration type) (tokens : List Token) :
    tokens.length + (type.rule.apply tokens).2 ≤ (type.rule.apply tokens).1.length := by
  have longer : 3 ≤ type.rule.new.length := by
    rw [declares.new_eq]
    simp [check]
  have counted := (type.rule.counted_apply tokens).2
  have made := Nat.mul_le_mul_left (type.rule.apply tokens).2 longer
  have two : type.rule.old.length = 2 := by rw [declares.old_eq]; rfl
  rw [two] at counted
  omega

end EnumType

namespace EnumRegistry

open EnumType (Declares)

variable {registry : EnumRegistry} {types : List EnumType} {opening closing tokens : List Token}
  {columns : List ColumnTokens}

/-- A column as the first type that its type names makes of it, if one does. -/
def declare (registry : EnumRegistry) (c : ColumnTokens) : ColumnTokens :=
  match registry.types.find? (·.names c.type) with
  | some type => type.checked c
  | none => c

/-- No type is named like a token of the check on a column of an earlier type. -/
def Unmixed (types : List EnumType) (columns : List ColumnTokens) : Prop :=
  types.Pairwise fun earlier later => (∃ c ∈ columns, earlier.names c.type = true) →
    ∀ t ∈ earlier.rule.new, later.names t = false

instance (types : List EnumType) (columns : List ColumnTokens) :
    Decidable (Unmixed types columns) :=
  inferInstanceAs (Decidable (List.Pairwise _ _))

theorem declare_cons (type : EnumType) (types : List EnumType) (c : ColumnTokens) :
    (⟨type :: types⟩ : EnumRegistry).declare c =
      if type.names c.type then type.checked c else (⟨types⟩ : EnumRegistry).declare c := by
  unfold declare
  rw [List.find?_cons]
  cases type.names c.type <;> rfl

theorem declare_of_forall {c : ColumnTokens} (free : ∀ type ∈ types, type.names c.type = false) :
    (⟨types⟩ : EnumRegistry).declare c = c := by
  have none : types.find? (·.names c.type) = none :=
    List.find?_eq_none.2 fun type mem => Bool.eq_false_iff.1 (free type mem)
  rw [declare, none]

/-! ## One type after another -/

section

variable {declaration : Text} {type later : EnumType}

theorem apart_declare (declares : Declares declaration type)
    (apart : later.Apart opening columns closing)
    (unmixed : (∃ c ∈ columns, type.names c.type = true) →
      ∀ t ∈ type.rule.new, later.names t = false) :
    later.Apart opening (columns.map type.declare) closing := by
  refine ⟨apart.opening, apart.signs, List.forall_mem_map.2 fun c mem => ?_, apart.closing⟩
  obtain ⟨name, rest⟩ := apart.columns c mem
  rw [EnumType.declare]
  split
  next named =>
    refine ⟨name, List.forall_mem_append.2 ⟨fun t inside => ?_, rest⟩⟩
    have fresh := unmixed ⟨c, mem, named⟩
    rw [declares.new_eq] at fresh
    rcases EnumType.mem_check inside with rfl | inside
    · exact name
    · exact fresh t (List.mem_cons_of_mem _ (List.mem_cons_of_mem _ inside))
  next => exact ⟨name, rest⟩

theorem names_declare_type (declares : Declares declaration type)
    (unmixed : (∃ c ∈ columns, type.names c.type = true) →
      ∀ t ∈ type.rule.new, later.names t = false) {c : ColumnTokens} (mem : c ∈ columns) :
    later.names (type.declare c).type = (!type.names c.type && later.names c.type) := by
  rw [EnumType.declare]
  split
  next named =>
    have fresh := unmixed ⟨c, mem, named⟩
    rw [declares.new_eq] at fresh
    rw [named]
    exact fresh "text" (by simp)
  next other => rw [Bool.eq_false_iff.2 other, Bool.not_false, Bool.true_and]

theorem declare_declare {c : ColumnTokens}
    (names : ∀ later ∈ types,
      later.names (type.declare c).type = (!type.names c.type && later.names c.type)) :
    (⟨types⟩ : EnumRegistry).declare (type.declare c) =
      (⟨type :: types⟩ : EnumRegistry).declare c := by
  rw [declare_cons]
  split
  next named =>
    rw [declare_of_forall fun later listed => ?_, EnumType.declare, if_pos named]
    rw [names later listed, named, Bool.not_true, Bool.false_and]
  next other => rw [EnumType.declare, if_neg other]

theorem countP_declare
    (names : ∀ c ∈ columns, ∀ later ∈ types,
      later.names (type.declare c).type = (!type.names c.type && later.names c.type)) :
    columns.countP (type.names ·.type) +
        (columns.map type.declare).countP (fun c => types.any (·.names c.type)) =
      columns.countP fun c => (type :: types).any (·.names c.type) := by
  induction columns with
  | nil => rfl
  | cons c columns ih =>
    obtain ⟨here, names⟩ := List.forall_mem_cons.1 names
    have left : types.any (·.names (type.declare c).type) =
        (!type.names c.type && types.any (·.names c.type)) := by
      rw [Bool.eq_iff_iff, Bool.and_eq_true, List.any_eq_true, List.any_eq_true]
      constructor
      · rintro ⟨later, listed, named⟩
        rw [here later listed, Bool.and_eq_true] at named
        exact ⟨named.1, later, listed, named.2⟩
      · rintro ⟨other, later, listed, named⟩
        refine ⟨later, listed, ?_⟩
        rw [here later listed, Bool.and_eq_true]
        exact ⟨other, named⟩
    rw [List.map_cons, List.countP_cons, List.countP_cons, List.countP_cons, left, ← ih names,
      List.any_cons]
    cases type.names c.type
    · simp only [Bool.not_false, Bool.true_and, Bool.false_or, Bool.false_eq_true, if_false]
      omega
    · simp only [Bool.not_true, Bool.false_and, Bool.true_or, Bool.false_eq_true, if_false, if_true]
      omega

end

theorem applyEach_tableTokens {count : Nat}
    (declared : ∀ type ∈ types, ∃ declaration, EnumType.parse declaration = .ok type)
    (unmixed : Unmixed types columns) (apart : ∀ type ∈ types, type.Apart opening columns closing) :
    Rule.applyEach EnumType.rule types (tableTokens opening columns closing, count) =
      (tableTokens opening (columns.map (⟨types⟩ : EnumRegistry).declare) closing,
        count + columns.countP fun c => types.any (·.names c.type)) := by
  induction types generalizing columns count with
  | nil =>
    have same : columns.map (⟨[]⟩ : EnumRegistry).declare = columns := List.map_id _
    rw [same]
    simp
  | cons type types ih =>
    obtain ⟨⟨declaration, parsed⟩, declared⟩ := List.forall_mem_cons.1 declared
    obtain ⟨here, unmixed⟩ := List.pairwise_cons.1 unmixed
    obtain ⟨apart₁, apart⟩ := List.forall_mem_cons.1 apart
    have declares := EnumType.parse_eq_ok parsed
    have names (c : ColumnTokens) (mem : c ∈ columns) (later : EnumType) (listed : later ∈ types) :=
      names_declare_type declares (here later listed) mem
    have unmixed' : Unmixed types (columns.map type.declare) := by
      refine unmixed.imp_of_mem fun {earlier later} listed _ fresh => ?_
      rintro ⟨_, mapped, named⟩
      obtain ⟨c, mem, rfl⟩ := List.mem_map.1 mapped
      rw [names c mem earlier listed, Bool.and_eq_true] at named
      exact fresh ⟨c, mem, named.2⟩
    have apart' : ∀ later ∈ types, later.Apart opening (columns.map type.declare) closing :=
      fun later listed => apart_declare declares (apart later listed) (here later listed)
    have both : (columns.map type.declare).map (⟨types⟩ : EnumRegistry).declare =
        columns.map (⟨type :: types⟩ : EnumRegistry).declare := by
      rw [List.map_map]
      exact List.map_congr_left fun c mem => declare_declare (names c mem)
    rw [Rule.applyEach_cons, declares.apply_tableTokens apart₁,
      ih declared unmixed' apart', both, ← countP_declare names, Nat.add_assoc]

theorem applyEach_eq_self_iff {count : Nat}
    (declared : ∀ type ∈ types, ∃ declaration, EnumType.parse declaration = .ok type) :
    (Rule.applyEach EnumType.rule types (tokens, count)).1 = tokens ↔
      ∀ type ∈ types, ∀ t ∈ tokens.tail, type.names t = false := by
  induction types generalizing count with
  | nil => simp
  | cons type types ih =>
    obtain ⟨⟨declaration, parsed⟩, declared⟩ := List.forall_mem_cons.1 declared
    have declares := EnumType.parse_eq_ok parsed
    rw [List.forall_mem_cons, Rule.applyEach_cons]
    constructor
    · intro same
      have free : ∀ t ∈ tokens.tail, type.names t = false := by
        refine declares.free_of_apply ?_
        have here := declares.length_add_le tokens
        have later : (type.rule.apply tokens).1.length ≤ tokens.length := by
          conv_rhs => rw [← same]
          refine Rule.applyEach_preserves
            (P := fun now => (type.rule.apply tokens).1.length ≤ now.length) ?_ (Nat.le_refl _)
          intro other listed now le
          obtain ⟨_, parsed⟩ := declared other listed
          have := (EnumType.parse_eq_ok parsed).length_add_le now
          omega
        omega
      rw [declares.apply_of_free free] at same
      exact ⟨free, (ih declared).1 same⟩
    · rintro ⟨free, later⟩
      rw [declares.apply_of_free free]
      exact (ih declared).2 later

/-- Where its types are named for columns only, a table gets a check on each column of a type, and
no other token is touched. A statement stays as it is just if it names no type after its first
token. -/
theorem apply_checks_columns
    (declared : ∀ type ∈ registry.types, ∃ declaration, EnumType.parse declaration = .ok type) :
    (∀ opening columns closing, Unmixed registry.types columns →
      (∀ type ∈ registry.types, type.Apart opening columns closing) →
      registry.apply (tableTokens opening columns closing) =
        (tableTokens opening (columns.map registry.declare) closing,
          columns.countP fun c => registry.types.any (·.names c.type))) ∧
    ∀ tokens, (registry.apply tokens).1 = tokens ↔
      ∀ type ∈ registry.types, ∀ t ∈ tokens.tail, type.names t = false := by
  refine ⟨fun opening columns closing unmixed apart => ?_, fun tokens =>
    applyEach_eq_self_iff declared⟩
  have run : registry.apply (tableTokens opening columns closing) = (_, 0 + _) :=
    applyEach_tableTokens declared unmixed apart
  rwa [Nat.zero_add] at run

/-- Names in other letters, a doubled mark in a value, and a comma inside a column. -/
theorem apply_checks_columns_two_types :
    EnumRegistry.apply
        ⟨(EnumType.parse "CREATE TYPE status AS ENUM ('open', 'it''s')").toOption.toList ++
          (EnumType.parse "CREATE TYPE Mode AS ENUM ('r')").toOption.toList⟩
        (tableTokens ["CREATE", "TABLE", "t"]
          [⟨"s", "STATUS", ["NOT", "NULL"]⟩, ⟨"m", "mode", []⟩,
            ⟨"n", "numeric", ["(", "10", ",", "2", ")"]⟩] []) =
      (tokenize "CREATE TABLE t ( s text check ( s in ( 'open' , 'it''s' ) ) NOT NULL ,
        m text check ( m in ( 'r' ) ) , n numeric ( 10 , 2 ) )", 2) ∧
    (EnumRegistry.apply
        ⟨(EnumType.parse "CREATE TYPE status AS ENUM ('open', 'it''s')").toOption.toList ++
          (EnumType.parse "CREATE TYPE Mode AS ENUM ('r')").toOption.toList⟩
        (tokenize "INSERT INTO t (s) VALUES ('open')")).1 =
      tokenize "INSERT INTO t (s) VALUES ('open')" := by
  have declared : ∀ type ∈
      (EnumType.parse "CREATE TYPE status AS ENUM ('open', 'it''s')").toOption.toList ++
        (EnumType.parse "CREATE TYPE Mode AS ENUM ('r')").toOption.toList,
      ∃ declaration, EnumType.parse declaration = .ok type := by
    intro type mem
    rcases List.mem_append.1 mem with first | second
    · exact ⟨_, eq_ok_of_mem_toOption (Option.mem_toList.1 first)⟩
    · exact ⟨_, eq_ok_of_mem_toOption (Option.mem_toList.1 second)⟩
  obtain ⟨tables, others⟩ := @apply_checks_columns ⟨_⟩ declared
  refine ⟨(tables _ _ _ (by decide +kernel) (by decide +kernel)).trans (by decide +kernel), ?_⟩
  exact (others (tokenize "INSERT INTO t (s) VALUES ('open')")).2 (by decide +kernel)

/-- A column that has the name of its type, and an inserted column of that name, are taken for
types: the bracket before them is checked as if it were a column. -/
theorem apply_takes_column_name :
    (EnumRegistry.apply ⟨(EnumType.parse "CREATE TYPE status AS ENUM ('open')").toOption.toList⟩
        (tableTokens ["CREATE", "TABLE", "t"] [⟨"status", "status", []⟩] [])).1 =
      tokenize "CREATE TABLE t ( text check ( ( in ( 'open' ) ) status )" ∧
    tokenize "CREATE TABLE t ( text check ( ( in ( 'open' ) ) status )" ≠
      tableTokens ["CREATE", "TABLE", "t"]
        ([⟨"status", "status", []⟩].map (EnumRegistry.declare
          ⟨(EnumType.parse "CREATE TYPE status AS ENUM ('open')").toOption.toList⟩)) [] ∧
    (EnumRegistry.apply ⟨(EnumType.parse "CREATE TYPE status AS ENUM ('open')").toOption.toList⟩
        (tokenize "INSERT INTO t (status) VALUES ('open')")).1 =
      tokenize "INSERT INTO t ( text check ( ( in ( 'open' ) ) ) VALUES ('open')" ∧
    tokenize "INSERT INTO t ( text check ( ( in ( 'open' ) ) ) VALUES ('open')" ≠
      tokenize "INSERT INTO t (status) VALUES ('open')" := by
  decide +kernel

end EnumRegistry

end SqlDialect
