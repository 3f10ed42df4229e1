import SqlDialect.Proofs.Token.Join

/-! Tokens and the case of letters.

What begins, goes on with and ends a token are signs, digits, white space and letters of either
case. So a text in lower case is cut where the text itself is, into the same tokens in lower case.
-/

set_option autoImplicit false

namespace SqlDialect

/-! ## Characters -/

theorem isDigit_eq_false_of_isAlpha {c : Char} (letter : c.isAlpha = true) : c.isDigit = false := by
  refine Bool.eq_false_iff.2 fun digit => ?_
  have letters := toNat_of_isAlpha letter
  have digits := toNat_of_isDigit digit
  omega

@[simp] theorem isNameChar_toLower (c : Char) : isNameChar c.toLower = isNameChar c := by
  rcases toLower_eq_self_or_isAlpha c with same | ⟨letter, small⟩
  · rw [same]
  · rw [isNameChar_of_isAlpha letter, isNameChar_of_isAlpha small]

@[simp] theorem isDigit_toLower (c : Char) : c.toLower.isDigit = c.isDigit := by
  rcases toLower_eq_self_or_isAlpha c with same | ⟨letter, small⟩
  · rw [same]
  · rw [isDigit_eq_false_of_isAlpha letter, isDigit_eq_false_of_isAlpha small]

@[simp] theorem isBlank_toLower (c : Char) : isBlank c.toLower = isBlank c := by
  rcases toLower_eq_self_or_isAlpha c with same | ⟨letter, small⟩
  · rw [same]
  · rw [isBlank_of_isNameChar (isNameChar_of_isAlpha letter),
      isBlank_of_isNameChar (isNameChar_of_isAlpha small)]

/-! ## Texts -/

namespace Text

variable {s t : Text} {c : Char}

theorem fold_cons (c : Char) (s : Text) : fold (c :: s) = c.toLower :: s.fold := rfl

theorem fold_append (s t : Text) : fold (s ++ t) = s.fold ++ t.fold := List.map_append

@[simp] theorem fold_fold (s : Text) : s.fold.fold = s.fold := by
  unfold fold
  rw [List.map_map]
  exact List.map_congr_left fun c _ => toLower_toLower c

theorem mem_fold_iff (sign : c.isAlpha = false) : c ∈ s.fold ↔ c ∈ s := by
  simp only [fold, List.mem_map, toLower_eq_iff sign, exists_eq_right]

theorem head?_fold_eq_some_iff (sign : c.isAlpha = false) :
    s.fold.head? = some c ↔ s.head? = some c := by
  simp only [fold, List.head?_map, Option.map_eq_some_iff, toLower_eq_iff sign, exists_eq_right]

theorem forall_mem_fold {p : Char → Bool} (alike : ∀ c : Char, p c.toLower = p c) {b : Bool}
    (all : ∀ c ∈ s, p c = b) : ∀ c ∈ s.fold, p c = b := by
  intro c mem
  obtain ⟨d, here, rfl⟩ := List.mem_map.1 mem
  rw [alike, all d here]

theorem forall_mem_head?_fold {p : Char → Bool} (alike : ∀ c : Char, p c.toLower = p c) {b : Bool}
    (stop : ∀ c ∈ s.head?, p c = b) : ∀ c ∈ s.fold.head?, p c = b := by
  intro c first
  obtain ⟨d, here, rfl⟩ := Option.map_eq_some_iff.1 (List.head?_map.symm.trans first)
  rw [alike, stop d here]

theorem Blank.fold (blank : s.Blank) : s.fold.Blank := forall_mem_fold isBlank_toLower blank

end Text

theorem Paired.fold {s : Text} (paired : Paired s) : Paired s.fold := by
  induction paired with
  | nil => exact .nil
  | pair _ ih => exact .pair ih
  | char other _ ih => exact .char (mt (toLower_eq_iff (by decide)).1 other) ih

/-! ## Tokens -/

namespace Token

def fold (t : Token) : Token := ⟨t.text.fold⟩

variable {a b t : Token}

theorem agrees_iff : a.agrees b = true ↔ a.fold = b.fold := by
  simp only [agrees, Text.agrees_iff, fold, Token.mk.injEq]

@[simp] theorem fold_fold (t : Token) : t.fold.fold = t.fold :=
  congrArg Token.mk t.text.fold_fold

theorem agrees_fold (t : Token) : t.agrees t.fold = true := agrees_iff.2 t.fold_fold.symm

theorem fold_join (tokens : List Token) : (join tokens).fold = join (tokens.map fold) := by
  have fold_spaced (tokens : List Token) : (spaced tokens).fold = spaced (tokens.map fold) := by
    induction tokens with
    | nil => rfl
    | cons t tokens ih =>
      rw [List.map_cons, spaced_cons, spaced_cons, Text.fold_append, Text.fold_append, ih]
      rfl
  cases tokens with
  | nil => rfl
  | cons t tokens =>
    rw [List.map_cons, join_cons, join_cons, Text.fold_append, fold_spaced]
    rfl

end Token

theorem Begins.fold {t r : Text} (begins : Begins t r) : Begins t.fold r.fold := by
  cases begins with
  | wildcard some all stop =>
    exact .wildcard (by simpa [Text.fold] using some) (Text.forall_mem_fold isDigit_toLower all)
      (Text.forall_mem_head?_fold isDigit_toLower stop)
  | comparison listed =>
    have signs : ∀ t ∈ comparisons, t.fold = t := by decide
    rw [signs t listed]
    exact .comparison listed
  | @literal body _ paired single =>
    rw [Text.fold_append, Text.fold_cons]
    exact .literal paired.fold (mt (Text.head?_fold_eq_some_iff (by decide)).1 single)
  | openLiteral endless => exact .openLiteral (endless_iff.2 (endless_iff.1 endless).fold)
  | @name body _ unmarked =>
    rw [Text.fold_append, Text.fold_cons]
    exact .name (mt (Text.mem_fold_iff (by decide)).1 unmarked)
  | openName unmarked => exact .openName (mt (Text.mem_fold_iff (by decide)).1 unmarked)
  | word nonempty named stop =>
    exact .word (by simpa [Text.fold] using nonempty)
      (Text.forall_mem_fold isNameChar_toLower named)
      (Text.forall_mem_head?_fold isNameChar_toLower stop)
  | @single c _ visible noMark noDoubleMark unnamed dollar unlisted =>
    have same : c.toLower = c :=
      (toLower_eq_iff (isAlpha_eq_false_of_isNameChar unnamed)).2 rfl
    rw [Text.fold_cons, same]
    refine .single visible noMark noDoubleMark unnamed
      (fun isDollar => Text.forall_mem_head?_fold isDigit_toLower (dollar isDollar)) ?_
    have signs : ∀ t ∈ comparisons, t.all (!·.isAlpha) = true := by decide
    intro d first listed
    have sign : d.isAlpha = false := by simpa using List.all_eq_true.1 (signs _ listed) d (by simp)
    exact unlisted d ((Text.head?_fold_eq_some_iff sign).1 first) listed

theorem tokenize_fold (s : Text) : tokenize s.fold = (tokenize s).map Token.fold := by
  obtain ⟨pieces, last, cut⟩ := exists_segmentation s
  induction cut with
  | last blank =>
    rw [tokenize_of_blank blank.fold, tokenize_of_blank blank]
    rfl
  | token whole blank begins _ ih =>
    rw [whole, Text.fold_append, Text.fold_append, tokenize_of_begins blank.fold begins.fold, ih,
      tokenize_of_begins blank begins]
    rfl

end SqlDialect
