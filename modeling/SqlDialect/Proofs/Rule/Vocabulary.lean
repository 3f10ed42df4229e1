import SqlDialect.Proofs.Rule.Rewriting
import SqlDialect.Rule.Table

/-! Where the tokens come from that a rule leaves: each was there before or stands in the new
pattern, however many rules have run. The first token stays under rules that put it back or do not
look for it. -/

set_option autoImplicit false

namespace SqlDialect

theorem Token.agrees_congr {a b : Token} (same : a.agrees b = true) (p : Token) :
    p.agrees a = p.agrees b := by
  unfold Token.agrees Text.agrees
  rw [Text.agrees_iff.1 same]

theorem Token.agrees_congr_left {a b : Token} (same : a.agrees b = true) (p : Token) :
    a.agrees p = b.agrees p := by
  rw [agrees_comm, agrees_congr same, agrees_comm]

namespace Rule

theorem fill_eq_or_mem (old window : List Token) (t : Token) :
    fill old window t = t ∨ fill old window t ∈ window := by
  unfold fill
  split
  · rw [List.getD_eq_getElem?_getD]
    cases found : window[old.idxOf t]? with
    | none => exact .inl rfl
    | some u => exact .inr (List.mem_of_getElem? found)
  · exact .inl rfl

theorem mem_rewrite {old new tokens : List Token} {u : Token}
    (mem : u ∈ (rewrite old new tokens).1) : u ∈ tokens ∨ u ∈ new := by
  fun_induction rewrite old new tokens with
  | case1 => cases mem
  | case2 t rest fits after count read ih =>
    rw [read] at ih
    rcases List.mem_append.1 mem with mem | mem
    · obtain ⟨p, listed, rfl⟩ := List.mem_map.1 mem
      rcases fill_eq_or_mem old ((t :: rest).take old.length) p with same | inside
      · rw [same]
        exact .inr listed
      · exact .inl (List.mem_of_mem_take inside)
    · exact (ih mem).imp_left fun later => List.mem_cons_of_mem _ (List.mem_of_mem_drop later)
  | case3 t rest differs after count read ih =>
    rw [read] at ih
    rcases List.mem_cons.1 mem with rfl | mem
    · exact .inl List.mem_cons_self
    · exact (ih mem).imp_left (List.mem_cons_of_mem _)

theorem mem_apply {r : Rule} {tokens : List Token} {u : Token} (mem : u ∈ (r.apply tokens).1) :
    u ∈ tokens ∨ u ∈ r.new := by
  rw [apply_eq_rewrite] at mem
  exact mem_rewrite mem

theorem applyEach_preserves {α : Type} {P : List Token → Prop} {rule : α → Rule}
    {items : List α} {tokens : List Token} {count : Nat}
    (each : ∀ item ∈ items, ∀ tokens, P tokens → P ((rule item).apply tokens).1)
    (start : P tokens) :
    P (applyEach rule items (tokens, count)).1 := by
  induction items generalizing tokens count with
  | nil => exact start
  | cons item items ih =>
    obtain ⟨here, later⟩ := List.forall_mem_cons.1 each
    exact ih later (here tokens start)

theorem applyEach_establishes {α : Type} {P : List Token → Prop} {rule : α → Rule}
    {items : List α} {tokens : List Token} {count : Nat}
    (each : ∀ item ∈ items, ∀ tokens, P tokens → P ((rule item).apply tokens).1)
    (one : ∃ item ∈ items, ∀ tokens, P ((rule item).apply tokens).1) :
    P (applyEach rule items (tokens, count)).1 := by
  induction items generalizing tokens count with
  | nil =>
    obtain ⟨_, listed, _⟩ := one
    cases listed
  | cons item items ih =>
    obtain ⟨_, later⟩ := List.forall_mem_cons.1 each
    obtain ⟨chosen, listed, makes⟩ := one
    rcases List.mem_cons.1 listed with rfl | listed
    · rw [applyEach_cons]
      exact applyEach_preserves later (makes tokens)
    · exact ih later ⟨chosen, listed, makes⟩

theorem applyEach_eq_self {α : Type} {rule : α → Rule} {items : List α} {tokens : List Token}
    {count : Nat} (each : ∀ item ∈ items, (rule item).apply tokens = (tokens, 0)) :
    applyEach rule items (tokens, count) =
      (tokens, count) := by
  induction items with
  | nil => rfl
  | cons item items ih =>
    obtain ⟨here, later⟩ := List.forall_mem_cons.1 each
    rw [applyEach_cons, here, Nat.add_zero]
    exact ih later

theorem mem_applyEach {α : Type} (rule : α → Rule) (items : List α) (tokens : List Token)
    (count : Nat) {u : Token}
    (mem : u ∈ (applyEach rule items (tokens, count)).1) :
    u ∈ tokens ∨ ∃ item ∈ items, u ∈ (rule item).new := by
  refine applyEach_preserves
    (P := fun now => ∀ v ∈ now, v ∈ tokens ∨ ∃ item ∈ items, v ∈ (rule item).new) ?_ ?_ u mem
  · intro item listed now known v left
    rcases mem_apply left with before | made
    · exact known v before
    · exact .inr ⟨item, listed, made⟩
  · exact fun v before => .inl before

/-! ## The first token -/

/-- A rule whose new pattern begins with the wildcard that its old pattern begins with, or that
looks for another token first. -/
def keepsFirst (r : Rule) (t : Token) : Bool :=
  r.old.head?.any fun p => if p.isWildcard then r.new.head? == some p else !p.agrees t

theorem keepsFirst_congr {t u : Token} (same : t.agrees u = true) (r : Rule) :
    r.keepsFirst t = r.keepsFirst u := by
  unfold keepsFirst
  simp only [Token.agrees_congr same]

theorem apply_cons_of_not_first {r : Rule} {t : Token}
    (other : ∀ p ∈ r.old.head?, p.isWildcard = false ∧ p.agrees t = false) (rest : List Token) :
    (r.apply (t :: rest)).1 = t :: (r.apply rest).1 := by
  have differs : ¬Fits r.old ((t :: rest).take r.old.length) := by
    intro fits
    cases begins : r.old with
    | nil => exact r.old_ne_nil begins
    | cons p old =>
      rw [begins] at fits
      obtain ⟨literal, unlike⟩ := other p (by rw [begins]; rfl)
      rcases (List.forall₂_cons.1 fits).1 with wildcard | agrees
      · rw [literal] at wildcard
        cases wildcard
      · rw [unlike] at agrees
        cases agrees
  rw [apply_eq_rewrite, apply_eq_rewrite, rewrite_cons_of_not_fits r.new differs]

theorem head?_apply {r : Rule} {tokens : List Token} {t : Token} (keeps : r.keepsFirst t = true)
    (first : tokens.head? = some t) : (r.apply tokens).1.head? = some t := by
  obtain ⟨rest, rfl⟩ := List.head?_eq_some_iff.1 first
  obtain ⟨p, begins, keeps⟩ := (Option.any_eq_true _ _).1 keeps
  by_cases wild : p.isWildcard = true
  · rw [if_pos wild, beq_iff_eq] at keeps
    rw [apply_eq_rewrite]
    by_cases fits : Fits r.old ((t :: rest).take r.old.length)
    · obtain ⟨old, patterned⟩ := List.head?_eq_some_iff.1 begins
      obtain ⟨new, made⟩ := List.head?_eq_some_iff.1 keeps
      rw [rewrite_cons_of_fits r.new r.old_ne_nil fits]
      simp [made, patterned, fill, wild]
    · rw [rewrite_cons_of_not_fits r.new fits]
      rfl
  · rw [if_neg wild, Bool.not_eq_true'] at keeps
    have other : ∀ q ∈ r.old.head?, q.isWildcard = false ∧ q.agrees t = false := by
      rw [begins]
      rintro _ ⟨⟩
      exact ⟨Bool.eq_false_iff.2 wild, keeps⟩
    rw [apply_cons_of_not_first other]
    rfl

end Rule

theorem RuleTable.mem_apply {table : RuleTable} {tokens : List Token} {u : Token}
    (mem : u ∈ (table.apply tokens).1) :
    u ∈ tokens ∨ ∃ entry ∈ table.entries, u ∈ entry.2.new :=
  Rule.mem_applyEach Prod.snd table.entries tokens 0 mem

end SqlDialect
