import Mathlib.Data.List.Chain
import SqlDialect.Proofs.Schema.Declaration
import SqlDialect.Proofs.Schema.Registry

/-! The order in which enumerated types are registered.

Their rules run one after the other, and each copies the token before the name that it takes. If the
names of different types never stand side by side, no copy is a name, and together the rules do what
one pass does that looks up each name among all types. To such a pass the order of the types is
nothing.
-/

set_option autoImplicit false

namespace SqlDialect

namespace Token

variable {t : Token}

theorem IsName.stands (name : t.IsName) : t.Stands := by
  refine ⟨name.tokenize, ?_⟩
  cases name with
  | @word w nonempty named =>
    rintro (rfl | rfl)
    · exact absurd (named _ (List.mem_singleton_self _)) (by decide)
    · exact absurd (named _ (List.mem_singleton_self _)) (by decide)
  | quoted => rintro (lone | lone) <;> simp at lone

theorem IsClosedLiteral.stands (literal : t.IsClosedLiteral) : t.Stands := by
  cases literal with
  | intro paired =>
    refine ⟨tokenize_text_iff.2 (.literal paired (by simp)), ?_⟩
    rintro (lone | lone) <;> simp at lone

theorem IsName.agrees_sign (name : t.IsName) {c : Char} (r : Text) (sign : isNameChar c = false)
    (unmarked : c ≠ '"') : Token.agrees ⟨c :: r⟩ t = false := by
  rw [Bool.eq_false_iff]
  intro agrees
  have folded : c.toLower :: Text.fold r = t.text.fold := Text.agrees_iff.1 agrees
  have small : c.toLower = c := (toLower_eq_iff (isAlpha_eq_false_of_isNameChar sign)).2 rfl
  have first {d : Char} (same : c.toLower = d.toLower) : d = c :=
    (toLower_eq_iff (isAlpha_eq_false_of_isNameChar sign)).1 (same.symm.trans small)
  cases name with
  | @word w _ named =>
    cases w with
    | nil => cases folded
    | cons d w =>
      have same := first (List.cons.inj folded).1
      rw [← same, named d List.mem_cons_self] at sign
      cases sign
  | quoted => exact unmarked (first (List.cons.inj folded).1).symm

end Token

namespace EnumType

/-- A type that is named by a word or a quoted name, but by none that stands in a check, and has
literals for its values. -/
structure Regular (type : EnumType) : Prop where
  made : ofValues? type.name type.values = .ok type
  isName : (⟨type.name⟩ : Token).IsName
  unused : ∀ keyword ∈ (["text", "check", "in"] : List Token), type.names keyword = false
  closed : ∀ v ∈ type.values, (⟨v⟩ : Token).IsClosedLiteral

variable {declaration : Text} {type other : EnumType} {tokens : List Token} {t u : Token}

theorem exists_parse (made : ofValues? type.name type.values = .ok type)
    (isName : (⟨type.name⟩ : Token).IsName)
    (closed : ∀ v ∈ type.values, (⟨v⟩ : Token).IsClosedLiteral) :
    ∃ declaration, parse declaration = .ok type := by
  let d : EnumDeclaration := ⟨"CREATE", "TYPE", ⟨type.name⟩, "AS", "ENUM", type.values, by decide,
    by decide, by decide, by decide, isName, closed⟩
  have signs : ∀ t ∈ (["CREATE", "TYPE", "AS", "ENUM", "(", ",", ")"] : List Token), t.Stands := by
    decide +kernel
  have stands : ∀ t ∈ d.tokens, t.Stands := by
    intro t mem
    simp only [EnumDeclaration.tokens, EnumDeclaration.opening, List.mem_append, List.mem_cons,
      List.not_mem_nil, or_false, d] at mem
    rcases mem with (rfl | rfl | rfl | rfl | rfl) | rfl | value | rfl
    · exact signs _ (by simp)
    · exact signs _ (by simp)
    · exact isName.stands
    · exact signs _ (by simp)
    · exact signs _ (by simp)
    · exact signs _ (by simp)
    · rcases mem_valueTokens value with rfl | ⟨v, listed, rfl⟩
      · exact signs _ (by simp)
      · exact (closed v listed).stands
    · exact signs _ (by simp)
  exact ⟨Token.join d.tokens,
    (EnumDeclaration.parse_eq (tokenize_join_of_stands stands)).trans made⟩

theorem Regular.exists_declares (regular : type.Regular) :
    ∃ declaration, Declares declaration type := by
  obtain ⟨declaration, parsed⟩ := exists_parse regular.made regular.isName regular.closed
  exact ⟨declaration, parse_eq_ok parsed⟩

theorem regular_of_ofValues? {name : Text} {values : List Text}
    (made : ofValues? name values = .ok type) (isName : (⟨name⟩ : Token).IsName)
    (unused : ∀ keyword ∈ (["text", "check", "in"] : List Token), keyword.agrees ⟨name⟩ = false)
    (closed : ∀ v ∈ values, (⟨v⟩ : Token).IsClosedLiteral) : type.Regular := by
  obtain ⟨rfl, rfl, -, -⟩ := ofValues?_eq_ok made
  exact ⟨made, isName, unused, closed⟩

theorem Regular.names_new (regular : type.Regular) (made : other.Regular) :
    ∀ t ∈ other.rule.new, type.names t = false := by
  obtain ⟨_, declares⟩ := made.exists_declares
  have sign {c : Char} (r : Text) (sign : isNameChar c = false) (unmarked : c ≠ '"') :
      type.names ⟨c :: r⟩ = false := regular.isName.agrees_sign r sign unmarked
  intro t mem
  simp only [declares.new_eq, check, List.mem_cons, List.mem_append, List.not_mem_nil,
    or_false] at mem
  rcases mem with rfl | rfl | rfl | rfl | rfl | rfl | rfl | value | rfl | rfl
  · exact sign _ (by decide) (by decide)
  · exact regular.unused _ (by simp)
  · exact regular.unused _ (by simp)
  · exact sign _ (by decide) (by decide)
  · exact sign _ (by decide) (by decide)
  · exact regular.unused _ (by simp)
  · exact sign _ (by decide) (by decide)
  · rcases mem_valueTokens value with rfl | ⟨v, listed, rfl⟩
    · exact sign _ (by decide) (by decide)
    · cases made.closed v listed with
      | intro => exact sign _ (by decide) (by decide)
  · exact sign _ (by decide) (by decide)
  · exact sign _ (by decide) (by decide)

end EnumType

namespace EnumRegistry

open EnumType (Declares Regular)

variable {declaration : Text} {type : EnumType} {types : List EnumType}
  {lead rest tokens : List Token} {t u : Token}

/-- The registry of types that are registered one after the other. -/
def ofTypes (types : List EnumType) : EnumRegistry := types.foldl register empty

/-! ## One pass -/

/-- Each name of a type with the token before it, as a text column that is checked against the
values of the type, and the number of these names. -/
def onePass (types : List EnumType) : List Token → List Token × Nat
  | t :: u :: rest =>
    match types.find? (·.names u) with
    | some type =>
      let (after, count) := onePass types rest
      (t :: "text" :: (type.check t ++ after), count + 1)
    | none =>
      let (after, count) := onePass types (u :: rest)
      (t :: after, count)
  | tokens => (tokens, 0)

theorem onePass_cons_cons (named : types.find? (·.names u) = some type) :
    onePass types (t :: u :: rest) =
      (t :: "text" :: (type.check t ++ (onePass types rest).1), (onePass types rest).2 + 1) := by
  rw [onePass, named]

theorem onePass_cons (free : ∀ u ∈ rest.head?, types.find? (·.names u) = none) :
    onePass types (t :: rest) = (t :: (onePass types rest).1, (onePass types rest).2) := by
  cases rest with
  | nil => simp [onePass]
  | cons u rest => rw [onePass, free u rfl]

theorem onePass_nil (tokens : List Token) : onePass [] tokens = (tokens, 0) := by
  induction tokens with
  | nil => rw [onePass]; simp
  | cons t tokens ih => rw [onePass_cons (fun _ _ => rfl), ih]

theorem onePass_append (free : ∀ t ∈ lead.tail, types.find? (·.names t) = none)
    (apart : ∀ t ∈ rest.head?, types.find? (·.names t) = none) :
    onePass types (lead ++ rest) = (lead ++ (onePass types rest).1, (onePass types rest).2) := by
  induction lead with
  | nil => rfl
  | cons t lead ih =>
    have next : ∀ u ∈ (lead ++ rest).head?, types.find? (·.names u) = none := by
      cases lead with
      | nil => exact apart
      | cons u lead =>
        rintro _ ⟨⟩
        exact free u List.mem_cons_self
    rw [List.cons_append, onePass_cons next, ih fun u mem => free u (List.mem_of_mem_tail mem)]
    rfl

/-- No name of a type directly follows the name of another. -/
def NamesApart (types : List EnumType) (tokens : List Token) : Prop :=
  tokens.IsChain fun t u => ∀ one ∈ types, ∀ other ∈ types, one.names t = true →
    other.names u = true → one.name = other.name

instance (types : List EnumType) (tokens : List Token) : Decidable (NamesApart types tokens) :=
  inferInstanceAs (Decidable (List.IsChain _ _))

theorem NamesApart.tail (apart : NamesApart types (t :: tokens)) : NamesApart types tokens :=
  (List.isChain_cons.1 apart).2

theorem find?_names_eq_none (free : ∀ type ∈ types, type.names t = false) :
    types.find? (·.names t) = none :=
  List.find?_eq_none.2 fun type listed => Bool.eq_false_iff.1 (free type listed)

section

variable (distinct : ∀ other ∈ types, type.name.agrees other.name = false)
include distinct

theorem name_ne {other : EnumType} (listed : other ∈ types) : type.name ≠ other.name := by
  intro same
  have agrees := distinct other listed
  rw [same, Text.agrees_refl] at agrees
  cases agrees

theorem NamesApart.names_before (apart : NamesApart (type :: types) (t :: u :: rest))
    (named : type.names u = true) : ∀ other ∈ types, other.names t = false := by
  intro other listed
  rw [Bool.eq_false_iff]
  intro before
  exact name_ne distinct listed ((List.isChain_cons_cons.1 apart).1 other
    (List.mem_cons_of_mem _ listed) type List.mem_cons_self before named).symm

theorem NamesApart.names_after (apart : NamesApart (type :: types) (t :: rest))
    (named : type.names t = true) : ∀ u ∈ rest.head?, ∀ other ∈ types, other.names u = false := by
  intro u next other listed
  rw [Bool.eq_false_iff]
  intro after
  exact name_ne distinct listed ((List.isChain_cons.1 apart).1 u next type List.mem_cons_self other
    (List.mem_cons_of_mem _ listed) named after)

theorem NamesApart.not_names_after (apart : NamesApart (type :: types) (t :: rest))
    {other : EnumType} (listed : other ∈ types) (named : other.names t = true) :
    ∀ u ∈ rest.head?, type.names u = false := by
  intro u next
  rw [Bool.eq_false_iff]
  intro after
  exact name_ne distinct listed ((List.isChain_cons.1 apart).1 u next other
    (List.mem_cons_of_mem _ listed) type List.mem_cons_self named after).symm

end

theorem head?_apply (declares : Declares declaration type) (tokens : List Token) :
    (type.rule.apply tokens).1.head? = tokens.head? := by
  cases tokens with
  | nil => rw [type.apply_nil]
  | cons t tokens => exact Rule.head?_apply (declares.keepsFirst t) rfl

theorem names_checked (declares : Declares declaration type) {other : EnumType}
    (fresh : ∀ t ∈ type.rule.new, other.names t = false) (column : other.names t = false) :
    ∀ u ∈ ("text" :: type.check t : List Token), other.names u = false := by
  rw [declares.new_eq] at fresh
  intro u mem
  rcases List.mem_cons.1 mem with rfl | inside
  · exact fresh _ (by simp)
  · rcases EnumType.mem_check inside with rfl | inside
    · exact column
    · exact fresh u (List.mem_cons_of_mem _ (List.mem_cons_of_mem _ inside))

theorem onePass_cons_apply (declares : Declares declaration type)
    (fresh : ∀ other ∈ types, ∀ t ∈ type.rule.new, other.names t = false)
    (distinct : ∀ other ∈ types, type.name.agrees other.name = false)
    (apart : NamesApart (type :: types) tokens) :
    onePass (type :: types) tokens =
      ((onePass types (type.rule.apply tokens).1).1,
        (type.rule.apply tokens).2 + (onePass types (type.rule.apply tokens).1).2) := by
  fun_induction onePass (type :: types) tokens with
  | case1 t u rest found named after count read ih =>
    rw [read] at ih
    have next := apart.tail
    obtain ⟨rfl, rfl⟩ := Prod.mk.inj (ih next.tail)
    rw [List.find?_cons] at named
    split at named
    next first =>
      cases named
      have column := apart.names_before distinct first
      have free : ∀ v ∈ ("text" :: type.check t : List Token), types.find? (·.names v) = none :=
        fun v mem => find?_names_eq_none fun other listed =>
          names_checked declares (fresh other listed) (column other listed) v mem
      have past : ∀ v ∈ (type.rule.apply rest).1.head?, types.find? (·.names v) = none := by
        rw [head?_apply declares]
        exact fun v following => find?_names_eq_none (next.names_after distinct first v following)
      have passed : onePass types (t :: "text" :: type.check t ++ (type.rule.apply rest).1) = _ :=
        onePass_append free past
      rw [List.cons_append, List.cons_append] at passed
      rw [declares.apply_cons_cons first, passed]
      simp only [List.cons_append, Prod.mk.injEq, true_and]
      omega
    next first =>
      have listed := List.mem_of_find?_eq_some named
      have past := next.not_names_after distinct listed (by simpa using List.find?_some named)
      have before : ∀ v ∈ (u :: rest).head?, type.names v = false := by
        rintro _ ⟨⟩
        exact first
      rw [declares.apply_cons before, declares.apply_cons past, onePass_cons_cons named]
      simp only [Prod.mk.injEq, true_and]
      omega
  | case2 t u rest free after count read ih =>
    rw [read] at ih
    obtain ⟨rfl, rfl⟩ := Prod.mk.inj (ih apart.tail)
    rw [List.find?_cons] at free
    split at free
    · cases free
    next first =>
      have before : ∀ v ∈ (u :: rest).head?, type.names v = false := by
        rintro _ ⟨⟩
        exact first
      have past : ∀ v ∈ (type.rule.apply (u :: rest)).1.head?, types.find? (·.names v) = none := by
        rw [head?_apply declares]
        rintro _ ⟨⟩
        exact free
      rw [declares.apply_cons before, onePass_cons past]
  | case3 tokens short =>
    rcases tokens with _ | ⟨t, _ | ⟨u, rest⟩⟩
    · simp [type.apply_nil, onePass]
    · rw [declares.apply_of_free (List.forall_mem_nil _)]
      simp [onePass]
    · exact (short t u rest rfl).elim

/-! ## All types -/

theorem NamesApart.cons_unnamed (apart : NamesApart types rest)
    (unnamed : ∀ u ∈ rest.head?, ∀ type ∈ types, type.names u = false) :
    NamesApart types (t :: rest) := by
  refine List.isChain_cons.2 ⟨fun u next one _ other listed _ named => ?_, apart⟩
  rw [unnamed u next other listed] at named
  cases named

theorem NamesApart.unnamed_append (apart : NamesApart types rest)
    (unnamed : ∀ t ∈ lead, ∀ type ∈ types, type.names t = false) :
    NamesApart types (lead ++ rest) := by
  induction lead with
  | nil => exact apart
  | cons t lead ih =>
    obtain ⟨here, later⟩ := List.forall_mem_cons.1 unnamed
    refine List.isChain_cons.2 ⟨fun u _ one listed other _ named _ => ?_, ih later⟩
    rw [here one listed] at named
    cases named

theorem NamesApart.checked (declares : Declares declaration type)
    (fresh : ∀ other ∈ types, ∀ t ∈ type.rule.new, other.names t = false)
    (apart : NamesApart types rest) (t : Token) :
    NamesApart types (t :: "text" :: (type.check t ++ rest)) := by
  let opening : List Token := ["text", "check", "("]
  let list : List Token := "in" :: "(" :: (EnumType.valueTokens type.values ++ [⟨[')']⟩, ⟨[')']⟩])
  have whole : (t :: "text" :: (type.check t ++ rest) : List Token) =
      t :: (opening ++ t :: (list ++ rest)) := by
    simp [opening, list, EnumType.check]
  have unnamed : ∀ v ∈ opening ++ list, ∀ other ∈ types, other.names v = false := by
    intro v mem other listed
    refine fresh other listed v ?_
    rw [declares.new_eq, EnumType.check]
    simp only [opening, list, List.mem_append, List.mem_cons] at mem ⊢
    tauto
  obtain ⟨before, after⟩ := List.forall_mem_append.1 unnamed
  have second : NamesApart types (t :: (list ++ rest)) := by
    refine (apart.unnamed_append after).cons_unnamed ?_
    rintro _ ⟨⟩
    exact after "in" List.mem_cons_self
  rw [whole]
  refine (second.unnamed_append before).cons_unnamed ?_
  rintro _ ⟨⟩
  exact before "text" List.mem_cons_self

theorem NamesApart.apply (declares : Declares declaration type)
    (fresh : ∀ other ∈ types, ∀ t ∈ type.rule.new, other.names t = false) :
    ∀ {tokens : List Token}, NamesApart types tokens →
      NamesApart types (type.rule.apply tokens).1
  | [], apart => by rwa [type.apply_nil]
  | [t], apart => by rwa [declares.apply_of_free (List.forall_mem_nil _)]
  | t :: u :: rest, apart => by
    by_cases named : type.names u = true
    · rw [declares.apply_cons_cons named]
      exact (apart.tail.tail.apply declares fresh).checked declares fresh t
    · have before : ∀ v ∈ (u :: rest).head?, type.names v = false := by
        rintro _ ⟨⟩
        exact Bool.eq_false_iff.2 named
      rw [declares.apply_cons before]
      refine List.isChain_cons.2 ⟨?_, apart.tail.apply declares fresh⟩
      rw [head?_apply declares]
      exact (List.isChain_cons.1 apart).1

theorem NamesApart.of_cons (apart : NamesApart (type :: types) tokens) : NamesApart types tokens :=
  apart.imp fun _ _ related one listed other listed' =>
    related one (List.mem_cons_of_mem _ listed) other (List.mem_cons_of_mem _ listed')

/-- The rules of types run one after the other do what one pass does. -/
theorem applyEach_eq_onePass {count : Nat} (regular : ∀ type ∈ types, type.Regular)
    (distinct : types.Pairwise fun one other => one.name.agrees other.name = false)
    (apart : NamesApart types tokens) :
    Rule.applyEach EnumType.rule types (tokens, count) =
      ((onePass types tokens).1, count + (onePass types tokens).2) := by
  induction types generalizing tokens count with
  | nil => rw [onePass_nil, Rule.applyEach_nil, Nat.add_zero]
  | cons type types ih =>
    obtain ⟨here, regular⟩ := List.forall_mem_cons.1 regular
    obtain ⟨unlike, distinct⟩ := List.pairwise_cons.1 distinct
    obtain ⟨declaration, declares⟩ := here.exists_declares
    have fresh : ∀ other ∈ types, ∀ t ∈ type.rule.new, other.names t = false :=
      fun other listed => (regular other listed).names_new here
    rw [Rule.applyEach_cons, onePass_cons_apply declares fresh unlike apart,
      ← Nat.add_assoc]
    exact ih regular distinct (apart.of_cons.apply declares fresh)

/-! ## Any order -/

theorem agrees_of_names {one other : EnumType} (first : one.names t = true)
    (second : other.names t = true) : one.name.agrees other.name = true := by
  rw [EnumType.names, Token.agrees_comm] at first
  have same := Token.agrees_congr second ⟨one.name⟩
  rw [first] at same
  exact same.symm

theorem unlike_symm {one other : EnumType} (unlike : one.name.agrees other.name = false) :
    other.name.agrees one.name = false := by rwa [Text.agrees_comm]

theorem find?_names_perm {ordered : List EnumType} (order : ordered.Perm types)
    (distinct : types.Pairwise fun one other => one.name.agrees other.name = false) (t : Token) :
    ordered.find? (·.names t) = types.find? (·.names t) := by
  induction order with
  | nil => rfl
  | cons type _ ih =>
    rw [List.find?_cons, List.find?_cons, ih (List.pairwise_cons.1 distinct).2]
  | swap one other rest =>
    have unlike := (List.pairwise_cons.1 distinct).1 other List.mem_cons_self
    rw [List.find?_cons, List.find?_cons, List.find?_cons, List.find?_cons]
    cases first : one.names t <;> cases second : other.names t
    · rfl
    · rfl
    · rfl
    · rw [agrees_of_names first second] at unlike
      cases unlike
  | trans _ later ih₁ ih₂ =>
    exact (ih₁ (distinct.perm later.symm unlike_symm)).trans (ih₂ distinct)

theorem onePass_congr {ordered : List EnumType}
    (same : ∀ t, ordered.find? (·.names t) = types.find? (·.names t)) (tokens : List Token) :
    onePass ordered tokens = onePass types tokens := by
  fun_induction onePass types tokens with
  | case1 t u rest type named after count read ih =>
    rw [onePass_cons_cons ((same u).trans named), ih, read]
  | case2 t u rest free after count read ih =>
    rw [onePass_cons (by rintro _ ⟨⟩; exact (same u).trans free), ih, read]
  | case3 tokens short =>
    rcases tokens with _ | ⟨t, _ | ⟨u, rest⟩⟩
    · simp [onePass]
    · simp [onePass]
    · exact (short t u rest rfl).elim

theorem put_of_forall_ne (fresh : ∀ one ∈ types, one.name ≠ type.name) :
    put type types = types ++ [type] := by
  induction types with
  | nil => rfl
  | cons one types ih =>
    obtain ⟨here, fresh⟩ := List.forall_mem_cons.1 fresh
    rw [put, if_neg here, ih fresh]
    rfl

theorem foldl_register {start : List EnumType}
    (distinct : (start ++ types).Pairwise fun one other => one.name ≠ other.name) :
    types.foldl register ⟨start⟩ = ⟨start ++ types⟩ := by
  induction types generalizing start with
  | nil => rw [List.foldl_nil, List.append_nil]
  | cons type types ih =>
    have fresh : ∀ one ∈ start, one.name ≠ type.name := fun one listed =>
      (List.pairwise_append.1 distinct).2.2 one listed type List.mem_cons_self
    rw [List.append_cons] at distinct
    rw [List.foldl_cons, register, put_of_forall_ne fresh, ih distinct, ← List.append_cons]

theorem ofTypes_eq (distinct : types.Pairwise fun one other => one.name.agrees other.name = false) :
    ofTypes types = ⟨types⟩ := by
  have names : ([] ++ types).Pairwise fun one other : EnumType => one.name ≠ other.name := by
    refine distinct.imp fun {one other} unlike same => ?_
    rw [same, Text.agrees_refl] at unlike
    cases unlike
  exact foldl_register names

theorem apply_ofTypes (regular : ∀ type ∈ types, type.Regular)
    (distinct : types.Pairwise fun one other => one.name.agrees other.name = false)
    (apart : NamesApart types tokens) : (ofTypes types).apply tokens = onePass types tokens := by
  have run : (⟨types⟩ : EnumRegistry).apply tokens = (_, 0 + _) :=
    applyEach_eq_onePass regular distinct apart
  rw [Nat.zero_add] at run
  rw [ofTypes_eq distinct, run]

/-- Types of different names make the same of a statement, with the same number of replacements,
in whatever order they are registered: what one pass makes of it. -/
theorem apply_ofTypes_perm {ordered : List EnumType} (order : ordered.Perm types)
    (regular : ∀ type ∈ types, type.Regular)
    (distinct : types.Pairwise fun one other => one.name.agrees other.name = false)
    (apart : NamesApart types tokens) :
    (ofTypes ordered).apply tokens = (ofTypes types).apply tokens ∧
      (ofTypes types).apply tokens = onePass types tokens := by
  have apart' : NamesApart ordered tokens := apart.imp fun _ _ related one listed other listed' =>
    related one (order.mem_iff.1 listed) other (order.mem_iff.1 listed')
  have first : (ofTypes ordered).apply tokens = onePass ordered tokens :=
    apply_ofTypes (fun type listed => regular type (order.mem_iff.1 listed))
      (distinct.perm order.symm unlike_symm) apart'
  have second := apply_ofTypes regular distinct apart
  exact ⟨by rw [first, second, onePass_congr (find?_names_perm order distinct)], second⟩

/-- Names in other letters, and a name that is said twice. -/
theorem apply_ofTypes_perm_three_columns :
    (ofTypes ((EnumType.ofValues? "State" ["'it''s'"]).toOption.toList ++
        (EnumType.ofValues? "mode" ["'r'", "'w'"]).toOption.toList)).apply
        (tokenize "CREATE TABLE f (m mode, s STATE, n Mode mode)") =
      (ofTypes ((EnumType.ofValues? "mode" ["'r'", "'w'"]).toOption.toList ++
        (EnumType.ofValues? "State" ["'it''s'"]).toOption.toList)).apply
        (tokenize "CREATE TABLE f (m mode, s STATE, n Mode mode)") ∧
    (ofTypes ((EnumType.ofValues? "mode" ["'r'", "'w'"]).toOption.toList ++
        (EnumType.ofValues? "State" ["'it''s'"]).toOption.toList)).apply
        (tokenize "CREATE TABLE f (m mode, s STATE, n Mode mode)") =
      (tokenize "CREATE TABLE f (m text check (m in ('r', 'w')), s text check (s in ('it''s')),
        n text check (n in ('r', 'w')) mode)", 3) := by
  have regular : ∀ type ∈ (EnumType.ofValues? "mode" ["'r'", "'w'"]).toOption.toList ++
      (EnumType.ofValues? "State" ["'it''s'"]).toOption.toList, type.Regular := by
    intro type mem
    rcases List.mem_append.1 mem with first | second
    · refine EnumType.regular_of_ofValues? (eq_ok_of_mem_toOption (Option.mem_toList.1 first))
        (.word (by decide) (List.all_eq_true.1 (by decide))) (by decide) ?_
      rw [List.forall_mem_cons, List.forall_mem_singleton]
      exact ⟨@Token.IsClosedLiteral.intro "r".toList (.of_not_mem (by decide)),
        @Token.IsClosedLiteral.intro "w".toList (.of_not_mem (by decide))⟩
    · refine EnumType.regular_of_ofValues? (eq_ok_of_mem_toOption (Option.mem_toList.1 second))
        (.word (by decide) (List.all_eq_true.1 (by decide))) (by decide) ?_
      rw [List.forall_mem_singleton]
      exact @Token.IsClosedLiteral.intro "it''s".toList
        (.char (by decide) (.char (by decide) (.pair (.of_not_mem (by decide)))))
  have apart : NamesApart ((EnumType.ofValues? "mode" ["'r'", "'w'"]).toOption.toList ++
      (EnumType.ofValues? "State" ["'it''s'"]).toOption.toList)
      (tokenize "CREATE TABLE f (m mode, s STATE, n Mode mode)") := by decide +kernel
  obtain ⟨same, passed⟩ :=
    apply_ofTypes_perm List.perm_append_comm regular (by decide +kernel) apart
  exact ⟨same, passed.trans (by decide +kernel)⟩

end EnumRegistry

end SqlDialect
