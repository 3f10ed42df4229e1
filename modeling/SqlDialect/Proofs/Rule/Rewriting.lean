import Mathlib.Data.List.Forall2
import SqlDialect.Rule.Basic

/-! What a rule does to a token sequence, told without the search for its anchor.

The plain rewriting walks from left to right and compares the old pattern with the window at
every token. Applying a rule jumps from one anchor to the next; both leave the same tokens and
count the same replacements, because a window that matches carries the anchor at its place.
-/

set_option autoImplicit false

namespace SqlDialect.Rule

/-- A window matches a pattern of its length: a wildcard stands for any token, another token for
itself in any case. -/
def Fits (pattern window : List Token) : Prop :=
  List.Forall₂ (fun p t => p.isWildcard = true ∨ p.agrees t = true) pattern window

instance (pattern window : List Token) : Decidable (Fits pattern window) :=
  inferInstanceAs (Decidable (List.Forall₂ _ pattern window))

/-- What a token of the new pattern becomes: a wildcard of the old pattern is the token at its
place in the window, and any other token is itself. -/
def fill (old window : List Token) (t : Token) : Token :=
  if t.isWildcard = true ∧ t ∈ old then window.getD (old.idxOf t) t else t

/-- The tokens rewritten and the number of replacements, found by looking at every position. -/
def rewrite (old new : List Token) : List Token → List Token × Nat
  | [] => ([], 0)
  | t :: rest =>
    if Fits old ((t :: rest).take old.length) then
      let (after, count) := rewrite old new (rest.drop (old.length - 1))
      (new.map (fill old ((t :: rest).take old.length)) ++ after, count + 1)
    else
      let (after, count) := rewrite old new rest
      (t :: after, count)
termination_by tokens => tokens.length
decreasing_by
  · simp only [List.length_drop, List.length_cons]
    omega
  · simp

/-! ## Windows -/

theorem Fits.length_eq {pattern window : List Token} (fits : Fits pattern window) :
    pattern.length = window.length := List.Forall₂.length_eq fits

theorem Fits.length_le {pattern tokens : List Token} {i : Nat}
    (fits : Fits pattern ((tokens.drop i).take pattern.length)) :
    i + pattern.length ≤ tokens.length ∨ pattern = [] := by
  have same := fits.length_eq
  simp only [List.length_take, List.length_drop] at same
  by_cases nonempty : pattern.length = 0
  · exact Or.inr (List.eq_nil_of_length_eq_zero nonempty)
  · left
    omega

theorem bind?_isSome_iff (pattern window : List Token) :
    (bind? pattern window).isSome = true ↔ Fits pattern window := by
  fun_induction bind? pattern window with
  | case1 => simp [Fits]
  | case2 p pattern t window wildcard ih =>
    rw [Option.isSome_map, ih]
    simp [Fits, wildcard]
  | case3 p pattern t window literal agrees ih =>
    rw [ih]
    simp [Fits, agrees]
  | case4 p pattern t window literal differs =>
    simp [Fits, literal, differs]
  | case5 pattern window h₁ h₂ =>
    cases pattern with
    | nil =>
      cases window with
      | nil => exact absurd rfl (h₁ rfl)
      | cons t window => simp [Fits]
    | cons p pattern =>
      cases window with
      | nil => simp [Fits]
      | cons t window => exact (h₂ p pattern t window rfl rfl).elim

theorem fill_cons_of_ne {p t q : Token} (old window : List Token) (apart : p ≠ t) :
    fill (p :: old) (q :: window) t = fill old window t := by
  unfold fill
  rw [List.idxOf_cons_ne old apart]
  simp [apart.symm]

theorem fill_of_literal {t : Token} (old window : List Token) (literal : ¬t.isWildcard = true) :
    fill old window t = t := by
  simp [fill, literal]

theorem lookup_bind?_of_literal {pattern window : List Token} {bindings : List (Token × Token)}
    {t : Token} (literal : ¬t.isWildcard = true) (bound : bind? pattern window = some bindings) :
    bindings.lookup t = none := by
  fun_induction bind? pattern window generalizing bindings with
  | case1 =>
    cases bound
    rfl
  | case2 p pattern q window wildcard ih =>
    obtain ⟨rest, found, rfl⟩ := Option.map_eq_some_iff.1 bound
    have apart : (t == p) = false := by
      rw [beq_eq_false_iff_ne]
      rintro rfl
      exact literal wildcard
    rw [List.lookup_cons, apart]
    exact ih found
  | case3 p pattern q window _ _ ih => exact ih bound
  | case4 => cases bound
  | case5 => cases bound

theorem lookup_bind? {pattern window : List Token} {bindings : List (Token × Token)}
    (bound : bind? pattern window = some bindings) (t : Token) :
    (bindings.lookup t).getD t = fill pattern window t := by
  by_cases literal : t.isWildcard = true
  swap
  · rw [lookup_bind?_of_literal literal bound, fill_of_literal _ _ literal]
    rfl
  fun_induction bind? pattern window generalizing bindings with
  | case1 =>
    cases bound
    simp [fill]
  | case2 p pattern q window wildcard ih =>
    obtain ⟨rest, found, rfl⟩ := Option.map_eq_some_iff.1 bound
    by_cases same : p = t
    · subst same
      simp [fill, wildcard]
    · rw [List.lookup_cons, beq_eq_false_iff_ne.2 (Ne.symm same), fill_cons_of_ne _ _ same]
      exact ih found
  | case3 p pattern q window noWildcard _ ih =>
    have same : p ≠ t := by
      rintro rfl
      exact noWildcard literal
    rw [fill_cons_of_ne _ _ same]
    exact ih bound
  | case4 => cases bound
  | case5 => cases bound

theorem substitute_bind? (r : Rule) {window : List Token} {bindings : List (Token × Token)}
    (bound : bind? r.old window = some bindings) :
    r.substitute bindings = r.new.map (fill r.old window) := by
  unfold substitute
  exact List.map_congr_left fun t _ => lookup_bind? bound t

/-! ## The anchor -/

theorem isWildcard_anchorToken (r : Rule) : r.anchorToken.isWildcard = false := by
  have literal : (!r.anchorToken.isWildcard) = true :=
    @List.findIdx_getElem Token (fun t => !t.isWildcard) r.old r.anchor_lt
  rw [Bool.not_eq_true'] at literal
  exact literal

theorem Fits.agrees_anchor {r : Rule} {tokens : List Token} {i : Nat}
    (fits : Fits r.old ((tokens.drop i).take r.old.length)) :
    ∃ t, (tokens.drop r.anchor)[i]? = some t ∧ t.agrees r.anchorToken = true := by
  have inside : r.anchor < ((tokens.drop i).take r.old.length).length :=
    fits.length_eq ▸ r.anchor_lt
  have matched := List.Forall₂.get fits r.anchor_lt inside
  refine ⟨((tokens.drop i).take r.old.length).get ⟨r.anchor, inside⟩, ?_, ?_⟩
  · rw [List.get_eq_getElem, List.getElem_take, List.getElem_drop, List.getElem?_drop,
      Nat.add_comm r.anchor i]
    exact List.getElem?_eq_getElem _
  · rw [Token.agrees_comm]
    exact matched.resolve_left (Bool.eq_false_iff.1 r.isWildcard_anchorToken)

-- No window that begins before the first place of the anchor matches.
theorem not_fits_of_lt {r : Rule} {tokens : List Token} {start i : Nat}
    (found : (tokens.drop r.anchor).findIdx? (·.agrees r.anchorToken) = some start)
    (before : i < start) : ¬Fits r.old ((tokens.drop i).take r.old.length) := by
  intro fits
  obtain ⟨t, atPlace, agrees⟩ := fits.agrees_anchor
  obtain ⟨_, _, differ⟩ := List.findIdx?_eq_some_iff_getElem.1 found
  obtain ⟨inside, rfl⟩ := List.getElem?_eq_some_iff.1 atPlace
  exact differ i before agrees

theorem not_fits_of_anchor_none {r : Rule} {tokens : List Token} (i : Nat)
    (missing : (tokens.drop r.anchor).findIdx? (·.agrees r.anchorToken) = none) :
    ¬Fits r.old ((tokens.drop i).take r.old.length) := by
  intro fits
  obtain ⟨t, atPlace, agrees⟩ := fits.agrees_anchor
  have differs := List.findIdx?_eq_none_iff.1 missing t (List.mem_of_getElem? atPlace)
  rw [agrees] at differs
  cases differs

/-! ## Passing over windows -/

theorem rewrite_cons_of_fits {old : List Token} (new : List Token) {t : Token} {rest : List Token}
    (nonempty : old ≠ []) (fits : Fits old ((t :: rest).take old.length)) :
    rewrite old new (t :: rest) =
      (new.map (fill old ((t :: rest).take old.length)) ++
          (rewrite old new ((t :: rest).drop old.length)).1,
        (rewrite old new ((t :: rest).drop old.length)).2 + 1) := by
  have pred : (t :: rest).drop old.length = rest.drop (old.length - 1) := by
    cases old with
    | nil => exact absurd rfl nonempty
    | cons p old => rfl
  rw [rewrite, if_pos fits, pred]

theorem rewrite_cons_of_not_fits {old : List Token} (new : List Token) {t : Token}
    {rest : List Token} (differs : ¬Fits old ((t :: rest).take old.length)) :
    rewrite old new (t :: rest) =
      (t :: (rewrite old new rest).1, (rewrite old new rest).2) := by
  rw [rewrite, if_neg differs]

theorem rewrite_skip {old : List Token} (new tokens : List Token) (k : Nat)
    (differ : ∀ i < k, ¬Fits old ((tokens.drop i).take old.length)) :
    rewrite old new tokens =
      (tokens.take k ++ (rewrite old new (tokens.drop k)).1, (rewrite old new (tokens.drop k)).2) := by
  induction k generalizing tokens with
  | zero => rfl
  | succ k ih =>
    cases tokens with
    | nil => simp [rewrite]
    | cons t rest =>
      have later : ∀ i < k, ¬Fits old ((rest.drop i).take old.length) :=
        fun i lt => differ (i + 1) (Nat.succ_lt_succ lt)
      rw [rewrite_cons_of_not_fits new (differ 0 (Nat.succ_pos k)), ih rest later]
      rfl

theorem rewrite_eq_self {old : List Token} (new : List Token) {tokens : List Token}
    (differ : ∀ i, ¬Fits old ((tokens.drop i).take old.length)) :
    rewrite old new tokens = (tokens, 0) := by
  rw [rewrite_skip new tokens tokens.length fun i _ => differ i]
  simp [rewrite]

/-! ## Looks and runs -/

/-- The tokens settled so far and what the plain rewriting makes of the others, with the number
of replacements: the end of the rewriting, whatever was looked at before. -/
def Scan.outcome (r : Rule) (s : Scan) : List Token × Nat :=
  (s.settled ++ (rewrite r.old r.new s.pending).1, s.replaced + (rewrite r.old r.new s.pending).2)

theorem old_ne_nil (r : Rule) : r.old ≠ [] := by
  obtain ⟨t, mem, _⟩ := r.anchored
  exact List.ne_nil_of_mem mem

theorem outcome_of_step_none {r : Rule} {s : Scan} (done : r.step s = none) :
    s.outcome r = (s.settled ++ s.pending, s.replaced) := by
  have differ : ∀ i, ¬Fits r.old ((s.pending.drop i).take r.old.length) := by
    intro i
    unfold step at done
    split at done
    next missing => exact not_fits_of_anchor_none i missing
    next start found =>
      split at done
      next overhang =>
        -- A window at or after the anchor's place would end after the last token.
        intro fits
        by_cases before : i < start
        · exact not_fits_of_lt found before fits
        · rcases fits.length_le with inside | empty
          · omega
          · exact r.old_ne_nil empty
      next => split at done <;> cases done
  simp [Scan.outcome, rewrite_eq_self r.new differ]

theorem outcome_step {r : Rule} {s t : Scan} (look : r.step s = some t) :
    t.outcome r = s.outcome r := by
  unfold step at look
  split at look
  next => cases look
  next start found =>
    have skipped := rewrite_skip r.new s.pending start fun i before => not_fits_of_lt found before
    split at look
    next => cases look
    next inside =>
      have length := r.anchor_lt
      have head : s.pending.drop start = s.pending[start] :: s.pending.drop (start + 1) :=
        List.drop_eq_getElem_cons (by omega)
      split at look
      next failed =>
        cases look
        have differs : ¬Fits r.old ((s.pending.drop start).take r.old.length) := by
          rw [← bind?_isSome_iff, failed]
          simp
        have passed := rewrite_skip r.new s.pending (start + 1) (by
          intro i le
          rcases Nat.lt_succ_iff_lt_or_eq.1 le with before | rfl
          · exact not_fits_of_lt found before
          · exact differs)
        simp only [Scan.outcome]
        rw [passed, List.append_assoc]
      next bindings bound =>
        cases look
        have fits : Fits r.old ((s.pending.drop start).take r.old.length) := by
          rw [← bind?_isSome_iff, bound]
          rfl
        simp only [Scan.outcome]
        rw [skipped, substitute_bind? r bound]
        rw [head] at fits ⊢
        rw [rewrite_cons_of_fits r.new r.old_ne_nil fits, ← head, List.drop_drop]
        simp only [List.append_assoc, Prod.mk.injEq, true_and]
        omega

theorem outcome_run (r : Rule) (s : Scan) :
    s.outcome r = ((r.run s).settled ++ (r.run s).pending, (r.run s).replaced) := by
  fun_induction run r s with
  | case1 s done => exact outcome_of_step_none done
  | case2 s t look ih => rw [← outcome_step look, ih]

/-- Jumping from anchor to anchor leaves what looking at every position leaves. -/
theorem apply_eq_rewrite (r : Rule) (tokens : List Token) :
    r.apply tokens = rewrite r.old r.new tokens := by
  have start := outcome_run r ⟨[], tokens, 0⟩
  simp only [Scan.outcome, List.nil_append, Nat.zero_add] at start
  exact start.symm

/-! ## Patterns that make a rule -/

theorem firstRepeat?_eq_none_iff (seen tokens : List Token) :
    firstRepeat? seen tokens = none ↔ tokens.Nodup ∧ ∀ t ∈ tokens, t ∉ seen := by
  constructor
  · exact nodup_of_firstRepeat?
  · induction tokens generalizing seen with
    | nil => exact fun _ => rfl
    | cons t tokens ih =>
      rintro ⟨distinct, fresh⟩
      obtain ⟨apart, distinct⟩ := List.nodup_cons.1 distinct
      rw [firstRepeat?, if_neg (fresh t List.mem_cons_self)]
      refine ih (t :: seen) ⟨distinct, fun u mem => ?_⟩
      rw [List.mem_cons, not_or]
      exact ⟨fun same => apart (same ▸ mem), fresh u (List.mem_cons_of_mem t mem)⟩

theorem exists_ofTokens?_eq_ok_iff (old new : List Token) :
    (∃ r, ofTokens? old new = .ok r) ↔
      (∃ t ∈ old, t.isWildcard = false) ∧ (old.filter Token.isWildcard).Nodup := by
  unfold ofTokens?
  split
  next anchored =>
    split
    next wildcard repeated =>
      have twice : ¬(old.filter Token.isWildcard).Nodup := by
        intro distinct
        have none := (firstRepeat?_eq_none_iff [] _).2 ⟨distinct, fun _ _ => List.not_mem_nil⟩
        rw [none] at repeated
        cases repeated
      simp [twice]
    next distinct =>
      simp only [anchored, true_and]
      exact ⟨fun _ => (nodup_of_firstRepeat? distinct).1, fun _ => ⟨_, rfl⟩⟩
  next wild =>
    split <;> simp [wild]

theorem ofTokens?_eq_ok {old new : List Token} {r : Rule} (made : ofTokens? old new = .ok r) :
    r.old = old ∧ r.new = new := by
  unfold ofTokens? at made
  split at made
  · split at made
    · cases made
    · cases made
      exact ⟨rfl, rfl⟩
  · split at made <;> cases made

/-- A rule is made exactly of an old pattern with a token that is no wildcard and without a
repeated wildcard, and it rewrites every token sequence as the walk over all positions does. -/
theorem ofTokens?_rewrites (old new : List Token) :
    ((∃ r, ofTokens? old new = .ok r) ↔
      old ≠ [] ∧ (∃ t ∈ old, t.isWildcard = false) ∧ (old.filter Token.isWildcard).Nodup) ∧
    ∀ r, ofTokens? old new = .ok r → ∀ tokens, r.apply tokens = rewrite old new tokens := by
  constructor
  · rw [exists_ofTokens?_eq_ok_iff]
    constructor
    · rintro ⟨⟨t, mem, literal⟩, distinct⟩
      exact ⟨List.ne_nil_of_mem mem, ⟨t, mem, literal⟩, distinct⟩
    · exact fun accepted => accepted.2
  · intro r made tokens
    obtain ⟨rfl, rfl⟩ := ofTokens?_eq_ok made
    exact r.apply_eq_rewrite tokens

/-- A leading wildcard, a candidate that overlaps a match, a window over the end, and a wildcard
of the new pattern that is not bound. -/
theorem ofTokens?_rewrites_leading_wildcard :
    ∃ r, ofTokens? ["$1", "status"] ["$1", "text", "$2"] = .ok r ∧
      r.apply ["x", "status", "STATUS", "$1", "Status"] =
        ((["x", "text", "$2", "STATUS", "$1", "text", "$2"] : List Token), 2) := by
  obtain ⟨r, made⟩ := (ofTokens?_rewrites ["$1", "status"] ["$1", "text", "$2"]).1.2 (by decide)
  refine ⟨r, made, ?_⟩
  rw [(ofTokens?_rewrites _ _).2 r made]
  decide +kernel

end SqlDialect.Rule
