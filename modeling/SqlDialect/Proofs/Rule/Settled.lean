import SqlDialect.Proofs.Rule.Vocabulary

/-! Tokens in which rules find nothing more to replace.

What a rule puts in may begin in the middle of a pattern or end in it, and what it takes out brings
tokens next to each other. A window that was not there before holds a token that was put in, so it
is enough that the new patterns overlap no old one: then every rule that has run leaves nothing to
find, whatever runs after it.
-/

set_option autoImplicit false

namespace SqlDialect

namespace Rule

/-- No window of the tokens fits the pattern. -/
def Free (pattern tokens : List Token) : Prop :=
  ∀ i, ¬Fits pattern ((tokens.drop i).take pattern.length)

/-- The pattern and the tokens fit as far as both go. -/
def Meets (pattern tokens : List Token) : Prop :=
  Fits (pattern.take tokens.length) (tokens.take pattern.length)

instance (pattern tokens : List Token) : Decidable (Meets pattern tokens) :=
  inferInstanceAs (Decidable (Fits _ _))

/-- No overlap of the pattern with the tokens fits, whichever of them begins first. -/
def Apart (pattern new : List Token) : Prop :=
  (∀ k < pattern.length, ¬Meets (pattern.drop k) new) ∧
    ∀ j < new.length, ¬Meets pattern (new.drop j)

instance (pattern new : List Token) : Decidable (Apart pattern new) :=
  inferInstanceAs (Decidable (_ ∧ _))

variable {pattern old new tokens : List Token}

theorem Free.drop (free : Free pattern tokens) (k : Nat) : Free pattern (tokens.drop k) := by
  intro i
  rw [List.drop_drop]
  exact free (k + i)

theorem free_nil (nonempty : pattern ≠ []) : Free pattern [] := by
  intro i fits
  rw [List.drop_nil, List.take_nil] at fits
  exact nonempty (List.forall₂_nil_right_iff.1 fits)

theorem free_cons {t : Token} (here : ¬Fits pattern ((t :: tokens).take pattern.length))
    (later : Free pattern tokens) : Free pattern (t :: tokens) := by
  intro i
  cases i with
  | zero => exact here
  | succ i => exact later i

theorem free_of_forall_lt (nonempty : pattern ≠ [])
    (differ : ∀ i < tokens.length, ¬Fits pattern ((tokens.drop i).take pattern.length)) :
    Free pattern tokens := by
  intro i fits
  have positive := List.length_pos_iff.2 nonempty
  have inside := fits.length_le.resolve_right nonempty
  exact differ i (by omega) fits

theorem Fits.meets {rest : List Token}
    (fits : Fits pattern ((new ++ rest).take pattern.length)) : Meets pattern new := by
  have shorter := List.forall₂_take new.length fits
  rwa [List.take_take, Nat.min_comm, ← List.take_take, List.take_left] at shorter

/-! ## One rule -/

theorem map_fill_eq_self (window : List Token) (plain : ∀ t ∈ new, t.isWildcard = false) :
    new.map (fill old window) = new := by
  have same : ∀ t ∈ new, fill old window t = id t := fun t mem =>
    fill_of_literal old window (Bool.eq_false_iff.1 (plain t mem))
  rw [List.map_congr_left same, List.map_id]

-- The first tokens are those that were there, or a replacement begins among them.
theorem take_rewrite (old : List Token) (plain : ∀ t ∈ new, t.isWildcard = false)
    (tokens : List Token) (n : Nat) :
    (rewrite old new tokens).1.take n = tokens.take n ∨
      ∃ k < n, ∃ rest, (rewrite old new tokens).1.drop k = new ++ rest := by
  fun_induction rewrite old new tokens generalizing n with
  | case1 => exact .inl rfl
  | case2 t rest _ after =>
    rw [map_fill_eq_self _ plain]
    cases n with
    | zero => exact .inl rfl
    | succ n => exact .inr ⟨0, n.succ_pos, after, rfl⟩
  | case3 t rest _ after count read ih =>
    rw [read] at ih
    cases n with
    | zero => exact .inl rfl
    | succ n =>
      rcases ih n with kept | ⟨k, early, replaced⟩
      · exact .inl (congrArg (t :: ·) kept)
      · exact .inr ⟨k + 1, Nat.succ_lt_succ early, replaced⟩

theorem head?_rewrite (old : List Token) (plain : ∀ t ∈ new, t.isWildcard = false)
    (nonempty : new ≠ []) (tokens : List Token) :
    (rewrite old new tokens).1.head? = tokens.head? ∨
      (rewrite old new tokens).1.head? = new.head? := by
  rcases take_rewrite old plain tokens 1 with kept | ⟨k, first, rest, begins⟩
  · left
    have first := congrArg List.head? kept
    rwa [List.head?_take, List.head?_take, if_neg Nat.one_ne_zero, if_neg Nat.one_ne_zero] at first
  · right
    rw [Nat.lt_one_iff.1 first, List.drop_zero] at begins
    rw [begins, List.head?_append_of_ne_nil _ nonempty]

theorem Apart.not_fits_take_rewrite (apart : Apart pattern new) (old : List Token)
    (plain : ∀ t ∈ new, t.isWildcard = false)
    (differs : ¬Fits pattern (tokens.take pattern.length)) :
    ¬Fits pattern ((rewrite old new tokens).1.take pattern.length) := by
  rcases take_rewrite old plain tokens pattern.length with kept | ⟨k, inside, rest, begins⟩
  · rwa [kept]
  · intro fits
    have later := List.forall₂_drop k fits
    rw [List.drop_take, begins, ← List.length_drop] at later
    exact apart.1 k inside (Fits.meets later)

theorem Apart.free_append (apart : Apart pattern new) (later : Free pattern tokens) :
    Free pattern (new ++ tokens) := by
  intro i
  by_cases inside : i < new.length
  · rw [List.drop_append_of_le_length (Nat.le_of_lt inside)]
    exact fun fits => apart.2 i inside fits.meets
  · rw [List.drop_append, List.drop_of_length_le (Nat.le_of_not_lt inside), List.nil_append]
    exact later _

/-- After a rewriting its own pattern is nowhere, nor is another that was nowhere before. -/
theorem Apart.free_rewrite (apart : Apart pattern new) (plain : ∀ t ∈ new, t.isWildcard = false)
    (nonempty : pattern ≠ []) (before : old = pattern ∨ Free pattern tokens) :
    Free pattern (rewrite old new tokens).1 := by
  fun_induction rewrite old new tokens with
  | case1 => exact free_nil nonempty
  | case2 t rest fits after count read ih =>
    rw [read] at ih
    rw [map_fill_eq_self _ plain]
    exact apart.free_append (ih (before.imp_right fun free => (free.drop 1).drop _))
  | case3 t rest differs after count read ih =>
    have here : ¬Fits pattern ((t :: rest).take pattern.length) := by
      rcases before with rfl | free
      · exact differs
      · exact free 0
    have kept := apart.not_fits_take_rewrite old plain here
    rw [rewrite_cons_of_not_fits new differs, read] at kept
    rw [read] at ih
    exact free_cons kept (ih (before.imp_right fun free => free.drop 1))

theorem Apart.free_apply {r : Rule} (apart : Apart pattern r.new)
    (plain : ∀ t ∈ r.new, t.isWildcard = false) (nonempty : pattern ≠ [])
    (before : r.old = pattern ∨ Free pattern tokens) : Free pattern (r.apply tokens).1 := by
  rw [apply_eq_rewrite]
  exact apart.free_rewrite plain nonempty before

theorem Free.apply_eq_self {r : Rule} (free : Free r.old tokens) :
    r.apply tokens = (tokens, 0) := by
  rw [apply_eq_rewrite, rewrite_eq_self r.new free]

end Rule

/-! ## Tables -/

namespace RuleTable

open Rule (Free Apart)

/-- The new patterns hold no wildcards and overlap no old one. -/
def Settles (table : RuleTable) : Prop :=
  ∀ entry ∈ table.entries, (∀ t ∈ entry.2.new, t.isWildcard = false) ∧
    ∀ other ∈ table.entries, Apart other.2.old entry.2.new

instance (table : RuleTable) : Decidable table.Settles :=
  inferInstanceAs (Decidable (∀ entry ∈ table.entries, _))

variable {table : RuleTable} {tokens : List Token}

theorem Settles.free_apply (settles : table.Settles) (tokens : List Token) :
    ∀ entry ∈ table.entries, Free entry.2.old (table.apply tokens).1 := by
  intro entry listed
  have run {other : Text × Rule} (among : other ∈ table.entries) {tokens : List Token}
      (before : other.2.old = entry.2.old ∨ Free entry.2.old tokens) :
      Free entry.2.old (other.2.apply tokens).1 := by
    obtain ⟨plain, apart⟩ := settles other among
    exact (apart entry listed).free_apply plain entry.2.old_ne_nil before
  exact Rule.applyEach_establishes (P := Free entry.2.old)
    (fun _ among _ free => run among (.inr free))
    ⟨entry, listed, fun _ => run listed (.inl rfl)⟩

theorem apply_eq_self (free : ∀ entry ∈ table.entries, Free entry.2.old tokens) :
    table.apply tokens = (tokens, 0) :=
  Rule.applyEach_eq_self fun entry listed => (free entry listed).apply_eq_self

theorem Settles.apply_apply (settles : table.Settles) (tokens : List Token) :
    table.apply (table.apply tokens).1 = ((table.apply tokens).1, 0) :=
  apply_eq_self (settles.free_apply tokens)

end RuleTable

end SqlDialect
