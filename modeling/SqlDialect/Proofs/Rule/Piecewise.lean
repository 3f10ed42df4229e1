import SqlDialect.Proofs.Rule.Vocabulary

/-! What a rule does to a token sequence, from what it does to one window.

A relation between token sequences that goes piece by piece holds between what a rule leaves and
what it was given, as soon as it holds between the replacement of a window and the window.
-/

set_option autoImplicit false

namespace SqlDialect

/-- A relation that holds of equal token sequences and of sequences put together from related
ones. -/
structure Piecewise (R : List Token → List Token → Prop) : Prop where
  same : ∀ tokens, R tokens tokens
  append : ∀ {a b c d : List Token}, R a b → R c d → R (a ++ c) (b ++ d)

namespace Rule

theorem Fits.fill {pattern window : List Token} (fits : Fits pattern window)
    (distinct : (pattern.filter Token.isWildcard).Nodup) :
    List.Forall₂ (fun p t => fill pattern window p = t ∨ p.isWildcard = false ∧ p.agrees t = true)
      pattern window := by
  induction fits with
  | nil => exact .nil
  | @cons p t pattern window matched fits ih =>
    have later (fresh : p.isWildcard = true → p ∉ pattern)
        (distinct : (pattern.filter Token.isWildcard).Nodup) :
        List.Forall₂ (fun q u => Rule.fill (p :: pattern) (t :: window) q = u ∨
          q.isWildcard = false ∧ q.agrees u = true) pattern window := by
      have inside := (List.forall₂_and_left _ _).2 ⟨fun q mem => mem, ih distinct⟩
      refine inside.imp fun q u => ?_
      rintro ⟨mem, filled | literal⟩
      · left
        by_cases wild : q.isWildcard = true
        · have apart : p ≠ q := by
            rintro rfl
            exact fresh wild mem
          rw [fill_cons_of_ne _ _ apart, filled]
        · rw [fill_of_literal _ _ wild] at filled ⊢
          exact filled
      · exact .inr literal
    by_cases wild : p.isWildcard = true
    · rw [List.filter_cons_of_pos wild, List.nodup_cons] at distinct
      obtain ⟨fresh, distinct⟩ := distinct
      refine .cons (.inl (by simp [Rule.fill, wild])) (later (fun _ mem => ?_) distinct)
      exact fresh (List.mem_filter.2 ⟨mem, wild⟩)
    · rw [List.filter_cons_of_neg wild] at distinct
      refine .cons (.inr ⟨Bool.eq_false_iff.2 wild, matched.resolve_left wild⟩) ?_
      exact later (fun wild' => absurd wild' wild) distinct

end Rule

namespace Piecewise

open Rule

variable {R : List Token → List Token → Prop}

theorem of_forall₂ (pieces : Piecewise R) {first second : List Token}
    (each : List.Forall₂ (fun t u => R [t] [u]) first second) : R first second := by
  induction each with
  | nil => exact pieces.same []
  | cons here _ ih => exact pieces.append here ih

theorem fill_old (pieces : Piecewise R) {pattern window : List Token}
    (alike : ∀ p ∈ pattern, p.isWildcard = false → ∀ t, p.agrees t = true → R [p] [t])
    (fits : Fits pattern window) (distinct : (pattern.filter Token.isWildcard).Nodup) :
    R (pattern.map (fill pattern window)) window := by
  have inside := (List.forall₂_and_left _ _).2 ⟨fun p mem => mem, fits.fill distinct⟩
  refine pieces.of_forall₂ (List.forall₂_map_left_iff.2 (inside.imp fun p t => ?_))
  rintro ⟨mem, rfl | ⟨literal, agrees⟩⟩
  · exact pieces.same _
  · rw [fill_of_literal _ _ (Bool.eq_false_iff.1 literal)]
    exact alike p mem literal t agrees

theorem rewrite (pieces : Piecewise R) {old new : List Token} (nonempty : old ≠ [])
    (window : ∀ {window}, Fits old window → R (new.map (fill old window)) window)
    (tokens : List Token) : R (Rule.rewrite old new tokens).1 tokens := by
  fun_induction Rule.rewrite old new tokens with
  | case1 => exact pieces.same []
  | case2 t rest fits after count read ih =>
    rw [read] at ih
    have pred : rest.drop (old.length - 1) = (t :: rest).drop old.length := by
      cases old with
      | nil => exact absurd rfl nonempty
      | cons p old => rfl
    rw [pred] at ih
    have whole := pieces.append (window fits) ih
    rwa [List.take_append_drop] at whole
  | case3 t rest differs after count read ih =>
    rw [read] at ih
    exact pieces.append (pieces.same [t]) ih

theorem apply (pieces : Piecewise R) {r : Rule}
    (window : ∀ {window}, Fits r.old window → R (r.new.map (fill r.old window)) window)
    (tokens : List Token) : R (r.apply tokens).1 tokens := by
  rw [apply_eq_rewrite]
  exact pieces.rewrite r.old_ne_nil window tokens

end Piecewise

end SqlDialect
