import Mathlib.Data.List.Defs

/-! Computations that succeed or are refused, put together: what a whole that has succeeded says of
its parts. -/

set_option autoImplicit false

namespace SqlDialect

variable {ε δ α β : Type}

theorem exists_of_map_eq_ok {f : α → β} {x : Except ε α} {b : β} (made : x.map f = .ok b) :
    ∃ a, x = .ok a ∧ f a = b := by
  cases x with
  | error => cases made
  | ok a => exact ⟨a, rfl, Except.ok.inj made⟩

theorem exists_of_bind_eq_ok {x : Except ε α} {f : α → Except ε β} {b : β}
    (made : x >>= f = .ok b) : ∃ a, x = .ok a ∧ f a = .ok b := by
  cases x with
  | error => cases made
  | ok a => exact ⟨a, rfl, made⟩

theorem mapError_ok {f : ε → δ} {a : α} : (Except.ok a).mapError f = .ok a := rfl

theorem mapError_error {f : ε → δ} {e : ε} :
    (Except.error e : Except ε α).mapError f = .error (f e) := rfl

theorem mapError_eq_ok {f : ε → δ} {x : Except ε α} {a : α} :
    x.mapError f = .ok a ↔ x = .ok a := by
  cases x with
  | error => exact iff_of_false (fun same => by cases same) (fun same => by cases same)
  | ok b =>
    change (Except.ok b : Except δ α) = .ok a ↔ _
    rw [Except.ok.injEq, Except.ok.injEq]

theorem eq_ok_of_mem_toOption {x : Except ε α} {a : α} (mem : a ∈ x.toOption) : x = .ok a := by
  cases x with
  | error => cases mem
  | ok b =>
    cases mem
    rfl

section

variable {f : α → Except ε β} {as : List α} {bs : List β}

theorem mapM_eq_ok (each : List.Forall₂ (fun a b => f a = .ok b) as bs) :
    as.mapM f = .ok bs := by
  induction each with
  | nil => rfl
  | cons same _ ih =>
    rw [List.mapM_cons, same, ih]
    rfl

theorem exists_mapM_eq_error {a : α} {e : ε} (mem : a ∈ as) (refused : f a = .error e) :
    ∃ e, as.mapM f = .error e := by
  induction as with
  | nil => cases mem
  | cons b as ih =>
    rw [List.mapM_cons]
    cases first : f b with
    | error e => exact ⟨e, rfl⟩
    | ok =>
      rcases List.mem_cons.1 mem with rfl | mem
      · rw [first] at refused
        cases refused
      · obtain ⟨e, rest⟩ := ih mem
        exact ⟨e, by rw [rest]; rfl⟩

end

end SqlDialect
