import SqlDialect.Proofs.Rule.Piecewise
import SqlDialect.Proofs.Rule.Vocabulary
import SqlDialect.Proofs.Text.Blank
import SqlDialect.Query.Massage

/-! The tokens that rules leave alone.

A rule that takes out and puts back the same wildcards and the same signs, in one order, moves,
drops and respells none of the tokens that it does not name. What the wildcards stand for does not
matter, and neither does what the rules before it have made.
-/

set_option autoImplicit false

namespace SqlDialect

theorem Text.eq_of_agrees {a b : Text} (signs : a.all (!·.isAlpha) = true)
    (agrees : a.agrees b = true) : b = a := by
  have folded : a.fold = b.fold := Text.agrees_iff.1 agrees
  induction a generalizing b with
  | nil => exact List.map_eq_nil_iff.1 folded.symm
  | cons c a ih =>
    obtain ⟨sign, signs⟩ := Bool.and_eq_true_iff.1 signs
    have sign : c.isAlpha = false := by simpa using sign
    obtain ⟨d, b, rfl, small, folded⟩ := List.map_eq_cons_iff.1 folded.symm
    rw [(toLower_eq_iff sign).2 rfl, toLower_eq_iff sign] at small
    rw [small, ih signs (Text.agrees_iff.2 folded.symm) folded.symm]

namespace Rule

/-- A token of a pattern that can leave one to be kept in the place of the pattern. -/
def shows (keep : Token → Bool) (p : Token) : Bool := p.isWildcard || keep p

/-- The wildcards and the tokens to be kept stand in the new pattern as in the old, and none of
these tokens has a letter whose case could change. -/
structure Frames (keep : Token → Bool) (r : Rule) : Prop where
  sequence : r.old.filter (shows keep) = r.new.filter (shows keep)
  signs : ∀ p ∈ r.old, p.isWildcard = false → keep p = true → p.text.all (!·.isAlpha) = true

instance (keep : Token → Bool) (r : Rule) : Decidable (Frames keep r) :=
  decidable_of_iff (_ ∧ _) ⟨fun ⟨s, c⟩ => ⟨s, c⟩, fun f => ⟨f.sequence, f.signs⟩⟩

variable {keep : Token → Bool}

theorem piecewise_filter (keep : Token → Bool) :
    Piecewise fun a b => a.filter keep = b.filter keep where
  same _ := rfl
  append first second := by rw [List.filter_append, List.filter_append, first, second]

theorem filter_map_fill (keep : Token → Bool) (old window pattern : List Token) :
    ((pattern.filter (shows keep)).map (fill old window)).filter keep =
      (pattern.map (fill old window)).filter keep := by
  induction pattern with
  | nil => rfl
  | cons p pattern ih =>
    by_cases shown : shows keep p = true
    · rw [List.filter_cons_of_pos shown, List.map_cons, List.map_cons, List.filter_cons,
        List.filter_cons, ih]
    · obtain ⟨literal, dropped⟩ := not_or.1 (mt Bool.or_eq_true_iff.2 shown)
      rw [List.filter_cons_of_neg shown, List.map_cons, fill_of_literal _ _ literal,
        List.filter_cons_of_neg dropped, ih]

theorem Frames.filter_window {r : Rule} {window : List Token} (frames : Frames keep r)
    (alike : ∀ a b : Token, a.agrees b = true → keep a = keep b) (fits : Fits r.old window) :
    (r.new.map (fill r.old window)).filter keep = window.filter keep := by
  have spelled (p : Token) (mem : p ∈ r.old) (literal : p.isWildcard = false) (t : Token)
      (agrees : p.agrees t = true) : [p].filter keep = [t].filter keep := by
    by_cases kept : keep p = true
    · have same : t = p := congrArg Token.mk
        (Text.eq_of_agrees (frames.signs p mem literal kept) agrees)
      rw [same]
    · have other : ¬keep t = true := alike p t agrees ▸ kept
      rw [List.filter_cons_of_neg kept, List.filter_cons_of_neg other]
  calc (r.new.map (fill r.old window)).filter keep
      = ((r.new.filter (shows keep)).map (fill r.old window)).filter keep :=
        (filter_map_fill keep _ _ _).symm
    _ = (r.old.map (fill r.old window)).filter keep := by
        rw [← frames.sequence, filter_map_fill]
    _ = window.filter keep := (piecewise_filter keep).fill_old spelled fits r.distinct

end Rule

namespace RuleTable

def literals (table : RuleTable) : List Token :=
  table.entries.flatMap fun (_, rule) => (rule.old ++ rule.new).filter (!·.isWildcard)

def mentions (table : RuleTable) (t : Token) : Bool := table.literals.any (·.agrees t)

theorem mentions_congr (table : RuleTable) {a b : Token} (same : a.agrees b = true) :
    table.mentions a = table.mentions b := by
  unfold mentions
  simp only [Token.agrees_congr same]

theorem filter_apply {table : RuleTable} {keep : Token → Bool}
    (frames : ∀ entry ∈ table.entries, Rule.Frames keep entry.2)
    (alike : ∀ a b : Token, a.agrees b = true → keep a = keep b) (tokens : List Token) :
    (table.apply tokens).1.filter keep = tokens.filter keep := by
  refine Rule.applyEach_preserves
    (P := fun now => now.filter keep = tokens.filter keep) ?_ rfl
  intro entry listed now same
  have kept := (Rule.piecewise_filter keep).apply
    ((frames entry listed).filter_window alike) now
  rw [kept, same]

end RuleTable

/-- A word or a sign that a rule for queries names, the question mark apart. -/
def isQueryWord (t : Token) : Bool := t ≠ "?" && queryRules.mentions t

theorem isQueryWord_congr {a b : Token} (same : a.agrees b = true) :
    isQueryWord a = isQueryWord b := by
  have mark {a b : Token} (same : a.agrees b = true) (isMark : a = "?") : b = "?" := by
    subst isMark
    exact congrArg Token.mk (Text.eq_of_agrees (by decide) same)
  have marks : a = "?" ↔ b = "?" := ⟨mark same, mark (by rwa [Token.agrees_comm])⟩
  unfold isQueryWord
  rw [queryRules.mentions_congr same]
  simp only [ne_eq, marks]

theorem frames_queryRules : ∀ entry ∈ queryRules.entries,
    Rule.Frames (fun t => !isQueryWord t) entry.2 := by
  decide +kernel

/-- The rules for queries leave every token as it is and where it is among the others of its kind,
but for the words and signs that they name themselves. -/
theorem filter_apply_queryRules (tokens : List Token) :
    (queryRules.apply tokens).1.filter (!isQueryWord ·) = tokens.filter (!isQueryWord ·) :=
  queryRules.filter_apply frames_queryRules
    (fun _ _ same => congrArg (! ·) (isQueryWord_congr same)) tokens

example : (tokenize "SELECT Now(), \"Now\", 'Now', ? FROM t").filter (!isQueryWord ·) =
    (["SELECT", "\"Now\"", "?", "t"] : List Token) := by
  decide +kernel

end SqlDialect
