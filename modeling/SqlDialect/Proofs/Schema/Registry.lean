import Mathlib.Data.List.Induction
import Mathlib.Data.List.Nodup
import Mathlib.Logic.Function.Basic
import SqlDialect.Schema.EnumType

/-! The registry of enumerated types by what has been declared: each name in the place of its
first declaration, with what its last declaration says.
-/

set_option autoImplicit false

namespace SqlDialect.EnumRegistry

def lastDeclared (declared : List EnumType) (name : Text) : Option EnumType :=
  declared.reverse.find? (·.name = name)

/-- The types in force after declarations. -/
def inForce (declared : List EnumType) : List EnumType :=
  (declared.map EnumType.name).eraseDups.filterMap (lastDeclared declared)

/-! ## Names in the order of their first occurrence -/

theorem eraseDups_concat (names : List Text) (name : Text) :
    (names ++ [name]).eraseDups =
      if name ∈ names then names.eraseDups else names.eraseDups ++ [name] := by
  rw [List.eraseDups_append]
  by_cases mem : name ∈ names
  · have removed : [name].removeAll names = [] := by simp [List.removeAll, mem]
    rw [removed, if_pos mem, List.eraseDups_nil, List.append_nil]
  · have kept : [name].removeAll names = [name] := by simp [List.removeAll, mem]
    rw [kept, if_neg mem]
    rfl

theorem nodup_eraseDups (names : List Text) : names.eraseDups.Nodup := by
  induction names using List.reverseRecOn with
  | nil => exact List.nodup_nil
  | append_singleton names name ih =>
    rw [eraseDups_concat]
    by_cases mem : name ∈ names
    · rw [if_pos mem]
      exact ih
    · rw [if_neg mem, List.nodup_append_comm]
      exact List.nodup_cons.2 ⟨fun old => mem (List.mem_eraseDups.1 old), ih⟩

/-! ## One more declaration -/

theorem mem_put {types : List EnumType} {type other : EnumType} (mem : other ∈ put type types) :
    other = type ∨ other ∈ types := by
  induction types with
  | nil => exact .inl (List.mem_singleton.1 mem)
  | cons t types ih =>
    unfold put at mem
    split at mem
    · exact (List.mem_cons.1 mem).imp_right (List.mem_cons_of_mem _)
    · rcases List.mem_cons.1 mem with rfl | later
      · exact .inr List.mem_cons_self
      · exact (ih later).imp_right (List.mem_cons_of_mem _)

theorem lastDeclared_concat (declared : List EnumType) (type : EnumType) :
    lastDeclared (declared ++ [type]) =
      Function.update (lastDeclared declared) type.name (some type) := by
  funext name
  unfold lastDeclared
  rw [List.reverse_append, List.reverse_singleton, List.singleton_append, List.find?_cons]
  by_cases same : name = type.name
  · rw [same, Function.update_self, decide_eq_true rfl]
  · rw [Function.update_of_ne same, decide_eq_false fun back => same back.symm]

theorem exists_lastDeclared (declared : List EnumType) (name : Text)
    (mem : name ∈ (declared.map EnumType.name).eraseDups) :
    ∃ type, lastDeclared declared name = some type ∧ type.name = name := by
  obtain ⟨type, declares, same⟩ := List.mem_map.1 (List.mem_eraseDups.1 mem)
  have found : (lastDeclared declared name).isSome = true :=
    List.find?_isSome.2 ⟨type, List.mem_reverse.2 declares, decide_eq_true same⟩
  obtain ⟨last, lasts⟩ := Option.isSome_iff_exists.1 found
  have named := List.find?_some lasts
  exact ⟨last, lasts, of_decide_eq_true named⟩

variable {latest : Text → Option EnumType} {names : List Text}

theorem filterMap_update_of_not_mem {name : Text} (type : EnumType) (fresh : name ∉ names) :
    names.filterMap (Function.update latest name (some type)) = names.filterMap latest := by
  apply List.filterMap_congr
  intro other mem
  rw [Function.update_of_ne]
  rintro rfl
  exact fresh mem

theorem put_of_not_mem (type : EnumType)
    (named : ∀ name ∈ names, ∃ t, latest name = some t ∧ t.name = name)
    (fresh : type.name ∉ names) :
    put type (names.filterMap latest) = names.filterMap latest ++ [type] := by
  induction names with
  | nil => rfl
  | cons name names ih =>
    obtain ⟨t, found, rfl⟩ := named name List.mem_cons_self
    have other : ¬t.name = type.name := fun same => fresh (same ▸ List.mem_cons_self)
    rw [List.filterMap_cons_some found, put, if_neg other,
      ih (fun name mem => named name (List.mem_cons_of_mem _ mem))
        (fun mem => fresh (List.mem_cons_of_mem _ mem))]
    rfl

theorem put_of_mem (type : EnumType) (nodup : names.Nodup)
    (named : ∀ name ∈ names, ∃ t, latest name = some t ∧ t.name = name)
    (known : type.name ∈ names) :
    put type (names.filterMap latest) =
      names.filterMap (Function.update latest type.name (some type)) := by
  induction names with
  | nil => exact absurd known List.not_mem_nil
  | cons name names ih =>
    obtain ⟨t, found, rfl⟩ := named name List.mem_cons_self
    obtain ⟨once, nodup⟩ := List.nodup_cons.1 nodup
    rw [List.filterMap_cons_some found, put]
    by_cases same : t.name = type.name
    · have replaced : Function.update latest type.name (some type) t.name = some type := by
        rw [same, Function.update_self]
      -- the name does not come again, so nothing behind it changes
      rw [if_pos same, List.filterMap_cons_some replaced,
        filterMap_update_of_not_mem type (same ▸ once)]
    · have kept : Function.update latest type.name (some type) t.name = some t := by
        rw [Function.update_of_ne same, found]
      have later : type.name ∈ names := by
        rcases List.mem_cons.1 known with first | later
        · exact absurd first.symm same
        · exact later
      rw [if_neg same, List.filterMap_cons_some kept,
        ih nodup (fun name mem => named name (List.mem_cons_of_mem _ mem)) later]

/-- A redeclaration takes the place of the declaration before it, and a new name goes last. -/
theorem register_inForce (declared : List EnumType) (type : EnumType) :
    register ⟨inForce declared⟩ type = ⟨inForce (declared ++ [type])⟩ := by
  have named := exists_lastDeclared declared
  unfold register inForce
  rw [lastDeclared_concat, List.map_append, List.map_singleton, eraseDups_concat]
  by_cases known : type.name ∈ declared.map EnumType.name
  · rw [if_pos known,
      put_of_mem type (nodup_eraseDups _) named (List.mem_eraseDups.2 known)]
  · have fresh : type.name ∉ (declared.map EnumType.name).eraseDups :=
      fun mem => known (List.mem_eraseDups.1 mem)
    have last : [type.name].filterMap
        (Function.update (lastDeclared declared) type.name (some type)) = [type] := by
      rw [List.filterMap_cons_some (Function.update_self _ _ _), List.filterMap_nil]
    rw [if_neg known, put_of_not_mem type named fresh, List.filterMap_append,
      filterMap_update_of_not_mem type fresh, last]

end SqlDialect.EnumRegistry
