import SqlDialect.Proofs.Schema.EnumOrder

/-! Which declaration of an enumerated type a column follows.

A registry tells the types apart by their names as they are written, and their rules by the names in
any case, of which the first takes the column. Both mean the same type just if no name has been
written in two ways.
-/

set_option autoImplicit false

namespace SqlDialect.EnumRegistry

open EnumType (Declares)

variable {types : List EnumType} {type : EnumType} {tokens : List Token} {t : Token}

/-- No two names differ in the case of their letters alone. -/
def SpelledAlike (types : List EnumType) : Prop :=
  ∀ one ∈ types, ∀ other ∈ types, one.name.agrees other.name = true → one.name = other.name

instance (types : List EnumType) : Decidable (SpelledAlike types) :=
  inferInstanceAs (Decidable (∀ one ∈ types, ∀ other ∈ types, _ → _))

/-! ## The types in force -/

theorem ofTypes_eq_inForce (types : List EnumType) : ofTypes types = ⟨inForce types⟩ := by
  induction types using List.reverseRecOn with
  | nil => rfl
  | append_singleton types type ih =>
    rw [← register_inForce, ← ih, ofTypes, ofTypes, List.foldl_append]
    rfl

theorem map_name_inForce (types : List EnumType) :
    (inForce types).map EnumType.name = (types.map EnumType.name).eraseDups := by
  rw [inForce, List.map_filterMap]
  conv_rhs => rw [← List.filterMap_some (l := (types.map EnumType.name).eraseDups)]
  refine List.filterMap_congr fun name mem => ?_
  obtain ⟨type, last, rfl⟩ := exists_lastDeclared types name mem
  rw [last]
  rfl

theorem pairwise_inForce (types : List EnumType) :
    (inForce types).Pairwise fun one other => one.name ≠ other.name := by
  rw [← List.pairwise_map, map_name_inForce]
  exact nodup_eraseDups _

theorem name_of_lastDeclared {name : Text} (last : lastDeclared types name = some type) :
    type.name = name := by
  have named := List.find?_some last
  exact of_decide_eq_true named

theorem mem_of_lastDeclared {name : Text} (last : lastDeclared types name = some type) :
    type ∈ types := List.mem_reverse.1 (List.mem_of_find?_eq_some last)

theorem mem_inForce_iff : type ∈ inForce types ↔ lastDeclared types type.name = some type := by
  rw [inForce, List.mem_filterMap]
  constructor
  · rintro ⟨name, _, last⟩
    rw [name_of_lastDeclared last, last]
  · intro last
    have listed := mem_of_lastDeclared last
    exact ⟨type.name, List.mem_eraseDups.2 (List.mem_map_of_mem listed), last⟩

theorem mem_of_mem_inForce (mem : type ∈ inForce types) : type ∈ types :=
  mem_of_lastDeclared (mem_inForce_iff.1 mem)

theorem exists_mem_inForce (listed : type ∈ types) :
    ∃ last ∈ inForce types, last.name = type.name := by
  have name : type.name ∈ (inForce types).map EnumType.name := by
    rw [map_name_inForce]
    exact List.mem_eraseDups.2 (List.mem_map_of_mem listed)
  exact List.mem_map.1 name

theorem find?_eq_some_of_unique {p : EnumType → Bool} (mem : type ∈ types) (holds : p type = true)
    (unique : ∀ other ∈ types, p other = true → other = type) : types.find? p = some type := by
  obtain ⟨other, found⟩ := Option.isSome_iff_exists.1 (List.find?_isSome.2 ⟨type, mem, holds⟩)
  rw [found, unique other (List.mem_of_find?_eq_some found) (List.find?_some found)]

theorem get?_ofTypes (types : List EnumType) (name : Text) :
    (ofTypes types).get? name = lastDeclared types name := by
  rw [ofTypes_eq_inForce, get?]
  cases last : lastDeclared types name with
  | none =>
    refine List.find?_eq_none.2 fun other mem => ?_
    rw [beq_iff_eq]
    rintro rfl
    rw [mem_inForce_iff.1 mem] at last
    cases last
  | some type =>
    obtain rfl := name_of_lastDeclared last
    refine find?_eq_some_of_unique (mem_inForce_iff.2 last) (beq_self_eq_true _) ?_
    intro other mem same
    have found := mem_inForce_iff.1 mem
    rw [beq_iff_eq.1 same, last] at found
    exact (Option.some.inj found).symm

/-! ## One spelling for each name -/

theorem pairwise_inForce_iff :
    (inForce types).Pairwise (fun one other => one.name.agrees other.name = false) ↔
      SpelledAlike types := by
  constructor
  · intro unlike one listed other listed' agrees
    by_contra differ
    obtain ⟨first, mem, name⟩ := exists_mem_inForce listed
    obtain ⟨second, mem', name'⟩ := exists_mem_inForce listed'
    have apart : first ≠ second := by
      rintro rfl
      exact differ (name.symm.trans name')
    have : Std.Symm fun one other : EnumType => one.name.agrees other.name = false :=
      ⟨fun _ _ => unlike_symm⟩
    have unlike := unlike.forall mem mem' apart
    rw [name, name', agrees] at unlike
    cases unlike
  · intro alike
    refine (pairwise_inForce types).imp_of_mem fun {one other} mem mem' differ => ?_
    rw [Bool.eq_false_iff]
    exact fun agrees =>
      differ (alike one (mem_of_mem_inForce mem) other (mem_of_mem_inForce mem') agrees)

theorem find?_names_inForce (alike : SpelledAlike types) (t : Token) :
    (inForce types).find? (·.names t) = types.reverse.find? (·.names t) := by
  cases last : types.reverse.find? (·.names t) with
  | none =>
    rw [List.find?_eq_none] at last ⊢
    exact fun other mem => last other (List.mem_reverse.2 (mem_of_mem_inForce mem))
  | some type =>
    obtain ⟨named, later, earlier, order, others⟩ := List.find?_eq_some_iff_append.1 last
    have listed : type ∈ types := List.mem_reverse.1 (List.mem_of_find?_eq_some last)
    -- whoever has the same name is named by the word as well, so none of them is declared later
    have inForce : lastDeclared types type.name = some type := by
      rw [lastDeclared, List.find?_eq_some_iff_append]
      refine ⟨decide_eq_true rfl, later, earlier, order, fun other mem => ?_⟩
      rw [Bool.not_eq_true', decide_eq_false_iff_not]
      intro same
      have unnamed := others other mem
      rw [Bool.not_eq_true', EnumType.names, same] at unnamed
      exact Bool.eq_false_iff.1 unnamed named
    refine find?_eq_some_of_unique (mem_inForce_iff.2 inForce) named fun other mem named' => ?_
    have same := alike other (mem_of_mem_inForce mem) type listed (agrees_of_names named' named)
    have found := mem_inForce_iff.1 mem
    rw [same, inForce] at found
    exact (Option.some.inj found).symm

/-! ## The column -/

theorem applyEach_of_free {count : Nat}
    (declared : ∀ type ∈ types, ∃ declaration, EnumType.parse declaration = .ok type)
    (free : ∀ type ∈ types, ∀ t ∈ tokens.tail, type.names t = false) :
    Rule.applyEach EnumType.rule types (tokens, count) = (tokens, count) := by
  refine Rule.applyEach_eq_self fun type listed => ?_
  obtain ⟨_, parsed⟩ := declared type listed
  exact (EnumType.parse_eq_ok parsed).apply_of_free (free type listed)

/-- The types in force after the first that a token names. -/
def behind (registry : EnumRegistry) (name : Token) : List EnumType :=
  (registry.types.dropWhile fun type => !type.names name).tail

theorem behind_eq {before after : List EnumType} (others : ∀ type ∈ before, type.names t = false)
    (named : type.names t = true) : behind ⟨before ++ type :: after⟩ t = after := by
  have passed : ∀ type ∈ before, (!type.names t) = true := fun type mem => by
    rw [others type mem]
    rfl
  rw [behind, List.dropWhile_append_of_pos passed, List.dropWhile_cons_of_neg (by simp [named]),
    List.tail_cons]

/-- A column becomes one that is checked against the values of the first type in force that it
names, unless a later type takes a part of the check. -/
theorem apply_column_iff {types : List EnumType} {column name : Token}
    (declared : ∀ type ∈ types, ∃ declaration, EnumType.parse declaration = .ok type)
    (first : types.find? (·.names name) = some type) :
    (⟨types⟩ : EnumRegistry).apply [column, name] = (column :: "text" :: type.check column, 1) ↔
      ∀ later ∈ behind ⟨types⟩ name, ∀ t ∈ ("text" :: type.check column : List Token),
        later.names t = false := by
  obtain ⟨named, before, after, rfl, others⟩ := List.find?_eq_some_iff_append.1 first
  have others : ∀ type ∈ before, type.names name = false := fun type mem => by
    simpa using others type mem
  rw [List.forall_mem_append, List.forall_mem_cons] at declared
  obtain ⟨declaredBefore, ⟨declaration, parsed⟩, declaredAfter⟩ := declared
  have passed : Rule.applyEach EnumType.rule before ([column, name], 0) = ([column, name], 0) :=
    applyEach_of_free declaredBefore fun type mem =>
      List.forall_mem_singleton.2 (others type mem)
  have checked : type.rule.apply [column, name] = (column :: "text" :: type.check column, 1) := by
    rw [(EnumType.parse_eq_ok parsed).apply_cons_cons named, type.apply_nil, List.append_nil]
  have run : (⟨before ++ type :: after⟩ : EnumRegistry).apply [column, name] =
      Rule.applyEach EnumType.rule after (column :: "text" :: type.check column, 1) := by
    rw [EnumRegistry.apply, Rule.applyEach_append, passed, Rule.applyEach_cons, checked,
      Nat.zero_add]
  rw [run, behind_eq others named]
  constructor
  · intro same
    have tokens := congrArg Prod.fst same
    exact (applyEach_eq_self_iff declaredAfter).1 tokens
  · intro free
    exact applyEach_of_free declaredAfter free

/-- The registry holds one type for each name just if every name is always written alike. Then a
column follows the last declaration of its type, which is also the one that is found under its name,
but for types first declared later that are named like a token of the check. -/
theorem apply_follows_last_declaration
    (declared : ∀ type ∈ types, ∃ declaration, EnumType.parse declaration = .ok type) :
    ((ofTypes types).types.Pairwise (fun one other => one.name.agrees other.name = false) ↔
      SpelledAlike types) ∧
    (SpelledAlike types → ∀ column name : Token, (∃ type ∈ types, type.names name = true) →
      ∃ last, types.reverse.find? (·.names name) = some last ∧
        (ofTypes types).get? last.name = some last ∧
        ((ofTypes types).apply [column, name] = (column :: "text" :: last.check column, 1) ↔
          ∀ later ∈ (ofTypes types).behind name,
            ∀ t ∈ ("text" :: last.check column : List Token), later.names t = false)) := by
  refine ⟨by rw [ofTypes_eq_inForce, pairwise_inForce_iff], ?_⟩
  rintro alike column name ⟨type, listed, named⟩
  have found : (types.reverse.find? (·.names name)).isSome = true :=
    List.find?_isSome.2 ⟨type, List.mem_reverse.2 listed, named⟩
  obtain ⟨last, found⟩ := Option.isSome_iff_exists.1 found
  have first := (find?_names_inForce alike name).trans found
  have inForce := mem_inForce_iff.1 (List.mem_of_find?_eq_some first)
  refine ⟨last, found, by rw [get?_ofTypes, inForce], ?_⟩
  rw [ofTypes_eq_inForce]
  exact apply_column_iff (fun type mem => declared type (mem_of_mem_inForce mem)) first

/-- A type declared twice, asked for in other letters, after a type that is named like a token of
the check. -/
theorem apply_follows_last_declaration_redeclared :
    (ofTypes ((EnumType.parse "CREATE TYPE text AS ENUM ('t')").toOption.toList ++
        (EnumType.parse "CREATE TYPE Mode AS ENUM ('r')").toOption.toList ++
        (EnumType.parse "CREATE TYPE status AS ENUM ('on')").toOption.toList ++
        (EnumType.parse "CREATE TYPE Mode AS ENUM ('w', 'x')").toOption.toList)).apply
      ["c", "MODE"] = (tokenize "c text check (c in ('w', 'x'))", 1) := by
  have declared : ∀ type ∈ (EnumType.parse "CREATE TYPE text AS ENUM ('t')").toOption.toList ++
      (EnumType.parse "CREATE TYPE Mode AS ENUM ('r')").toOption.toList ++
      (EnumType.parse "CREATE TYPE status AS ENUM ('on')").toOption.toList ++
      (EnumType.parse "CREATE TYPE Mode AS ENUM ('w', 'x')").toOption.toList,
      ∃ declaration, EnumType.parse declaration = .ok type := by
    have made {declaration : Text} {type : EnumType}
        (mem : type ∈ (EnumType.parse declaration).toOption.toList) :
        ∃ declaration, EnumType.parse declaration = .ok type :=
      ⟨_, eq_ok_of_mem_toOption (Option.mem_toList.1 mem)⟩
    simp only [List.forall_mem_append]
    exact ⟨⟨⟨fun _ => made, fun _ => made⟩, fun _ => made⟩, fun _ => made⟩
  obtain ⟨-, follows⟩ := apply_follows_last_declaration declared
  obtain ⟨last, found, -, checked⟩ := follows (by decide +kernel) "c" "MODE" (by decide +kernel)
  have values : last.values = ["'w'", "'x'"] := by
    have read := congrArg (Option.map EnumType.values) found
    exact Option.some.inj (read.symm.trans (by decide +kernel))
  rw [EnumType.check, values] at checked
  exact (checked.2 (by decide +kernel)).trans (by decide +kernel)

/-- A name that is written in two ways leaves both declarations in force, and the column follows the
first. A later type named `text` puts a check of its own before the check of another. -/
theorem apply_follows_first_spelling :
    ¬(ofTypes ((EnumType.parse "CREATE TYPE Status AS ENUM ('old')").toOption.toList ++
        (EnumType.parse "CREATE TYPE status AS ENUM ('new')").toOption.toList)).types.Pairwise
      (fun one other => one.name.agrees other.name = false) ∧
    (ofTypes ((EnumType.parse "CREATE TYPE Status AS ENUM ('old')").toOption.toList ++
        (EnumType.parse "CREATE TYPE status AS ENUM ('new')").toOption.toList)).apply
      ["c", "status"] = (tokenize "c text check (c in ('old'))", 1) ∧
    (ofTypes ((EnumType.parse "CREATE TYPE status AS ENUM ('on')").toOption.toList ++
        (EnumType.parse "CREATE TYPE text AS ENUM ('t')").toOption.toList)).apply
      ["c", "status"] = (tokenize "c text check (c in ('t')) check (c in ('on'))", 2) := by
  decide +kernel

end SqlDialect.EnumRegistry
