import SqlDialect.Proofs.Rule.Piecewise

/-! Measures of a token sequence that rules keep.

A rule that puts back every token its wildcards bound, each once, and whose other tokens weigh as
much in the new pattern as in the old, changes no sum of weights, wherever and however often it
applies.
-/

set_option autoImplicit false

namespace SqlDialect

namespace Token

/-- The weights of tokens added up. -/
def weigh (weight : Token → Nat) : List Token → Nat
  | [] => 0
  | t :: tokens => weight t + weigh weight tokens

variable (weight : Token → Nat)

theorem weigh_cons (t : Token) (tokens : List Token) :
    weigh weight (t :: tokens) = weight t + weigh weight tokens := rfl

theorem weigh_append (first second : List Token) :
    weigh weight (first ++ second) = weigh weight first + weigh weight second := by
  induction first with
  | nil => exact (Nat.zero_add _).symm
  | cons t first ih => rw [List.cons_append, weigh_cons, weigh_cons, ih, Nat.add_assoc]

theorem weigh_map (f : Token → Token) (tokens : List Token) :
    weigh weight (tokens.map f) = weigh (fun t => weight (f t)) tokens := by
  induction tokens with
  | nil => rfl
  | cons t tokens ih => rw [List.map_cons, weigh_cons, weigh_cons, ih]

theorem weigh_perm {first second : List Token} (same : first.Perm second) :
    weigh weight first = weigh weight second := by
  induction same with
  | nil => rfl
  | cons t _ ih => rw [weigh_cons, weigh_cons, ih]
  | swap t u tokens => exact Nat.add_left_comm _ _ _
  | trans _ _ ih₁ ih₂ => rw [ih₁, ih₂]

-- The tokens of either kind, apart.
theorem weigh_filter (p : Token → Bool) (tokens : List Token) :
    weigh weight tokens = weigh weight (tokens.filter p) + weigh weight (tokens.filter (!p ·)) := by
  rw [← weigh_append]
  exact weigh_perm weight (List.filter_append_perm p tokens).symm

theorem weigh_congr {weight weight' : Token → Nat} {tokens : List Token}
    (same : ∀ t ∈ tokens, weight t = weight' t) : weigh weight tokens = weigh weight' tokens := by
  induction tokens with
  | nil => rfl
  | cons t tokens ih =>
    obtain ⟨here, later⟩ := List.forall_mem_cons.1 same
    rw [weigh_cons, weigh_cons, here, ih later]

end Token

open Token (weigh weigh_cons weigh_append)

namespace Rule

structure Balanced (weight : Token → Nat) (r : Rule) : Prop where
  wildcards : (r.old.filter Token.isWildcard).Perm (r.new.filter Token.isWildcard)
  literals : weigh weight (r.old.filter (!·.isWildcard)) =
    weigh weight (r.new.filter (!·.isWildcard))

instance (weight : Token → Nat) (r : Rule) : Decidable (Balanced weight r) :=
  decidable_of_iff (_ ∧ _) ⟨fun ⟨w, l⟩ => ⟨w, l⟩, fun b => ⟨b.wildcards, b.literals⟩⟩

variable {weight : Token → Nat}

theorem piecewise_weigh (weight : Token → Nat) :
    Piecewise fun a b => weigh weight a = weigh weight b where
  same _ := rfl
  append first second := by rw [weigh_append, weigh_append, first, second]

-- A wildcard weighs what the token weighs that it stands for, and every other token of a pattern
-- what the token weighs that it agrees with.
theorem weigh_fill_old {pattern window : List Token}
    (alike : ∀ a b : Token, a.agrees b = true → weight a = weight b)
    (fits : Fits pattern window) (distinct : (pattern.filter Token.isWildcard).Nodup) :
    weigh (fun p => weight (fill pattern window p)) pattern = weigh weight window := by
  rw [← Token.weigh_map]
  refine (piecewise_weigh weight).fill_old (fun p _ _ t agrees => ?_) fits distinct
  rw [weigh_cons, weigh_cons, alike p t agrees]

theorem Balanced.weigh_window {r : Rule} {window : List Token} (balanced : Balanced weight r)
    (alike : ∀ a b : Token, a.agrees b = true → weight a = weight b) (fits : Fits r.old window) :
    weigh weight (r.new.map (fill r.old window)) = weigh weight window := by
  let filled (p : Token) : Nat := weight (fill r.old window p)
  have literal (pattern : List Token) : weigh filled (pattern.filter (!·.isWildcard)) =
      weigh weight (pattern.filter (!·.isWildcard)) := by
    refine Token.weigh_congr fun p mem => ?_
    have plain : ¬p.isWildcard = true := by simpa using (List.mem_filter.1 mem).2
    exact congrArg weight (fill_of_literal _ _ plain)
  calc weigh weight (r.new.map (fill r.old window))
      = weigh filled r.new := Token.weigh_map weight _ _
    _ = weigh filled (r.new.filter Token.isWildcard) +
          weigh weight (r.new.filter (!·.isWildcard)) := by
        rw [Token.weigh_filter filled Token.isWildcard, literal]
    _ = weigh filled (r.old.filter Token.isWildcard) +
          weigh weight (r.old.filter (!·.isWildcard)) := by
        rw [Token.weigh_perm filled balanced.wildcards, balanced.literals]
    _ = weigh filled r.old := by rw [← literal, ← Token.weigh_filter]
    _ = weigh weight window := weigh_fill_old alike fits r.distinct

theorem Balanced.weigh_apply {r : Rule} (balanced : Balanced weight r)
    (alike : ∀ a b : Token, a.agrees b = true → weight a = weight b) (tokens : List Token) :
    weigh weight (r.apply tokens).1 = weigh weight tokens :=
  (piecewise_weigh weight).apply (balanced.weigh_window alike) tokens

end Rule

theorem RuleTable.weigh_apply {weight : Token → Nat} {table : RuleTable}
    (balanced : ∀ entry ∈ table.entries, Rule.Balanced weight entry.2)
    (alike : ∀ a b : Token, a.agrees b = true → weight a = weight b) (tokens : List Token) :
    weigh weight (table.apply tokens).1 = weigh weight tokens := by
  refine Rule.applyEach_preserves (P := fun now => weigh weight now = weigh weight tokens) ?_ rfl
  intro entry listed now same
  rw [(balanced entry listed).weigh_apply alike, same]

end SqlDialect
