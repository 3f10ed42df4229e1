import Mathlib.Data.List.ReduceOption
import SqlDialect.Proofs.Token.Marks

/-! The literals of a text, told without its tokens.

Each character stands in a literal or outside of all, and the literals are the longest runs of
those inside. So a part of a text in which no mark stands can be written in another way, or left
out, without a change to any literal, wherever it neither stands in one nor keeps two apart.
-/

set_option autoImplicit false

namespace SqlDialect

/-- The longest runs of characters without a gap between them. -/
def runs (trace : List (Option Char)) : List Text :=
  ((trace.splitOnP Option.isNone).map List.reduceOption).filter (· ≠ [])

@[simp] theorem runs_nil : runs [] = [] := by simp [runs, List.splitOnP_nil]

theorem runs_append_gap (first second : List (Option Char)) :
    runs (first ++ none :: second) = runs first ++ runs second := by
  unfold runs
  rw [List.splitOnP_append_cons first second rfl, List.map_append, List.filter_append]

@[simp] theorem runs_gap (trace : List (Option Char)) : runs (none :: trace) = runs trace := by
  have gap := runs_append_gap [] trace
  rwa [List.nil_append, runs_nil, List.nil_append] at gap

theorem runs_gaps (n : Nat) (trace : List (Option Char)) :
    runs (List.replicate n none ++ trace) = runs trace := by
  induction n with
  | zero => rfl
  | succ n ih => rw [List.replicate_succ, List.cons_append, runs_gap, ih]

theorem runs_map_some {s : Text} (nonempty : s ≠ []) : runs (s.map some) = [s] := by
  have solid : ∀ o ∈ s.map some, o.isNone = false := by simp
  have whole : (s.map some).reduceOption = s := by simp [List.reduceOption]
  unfold runs
  rw [List.splitOnP_eq_singleton solid, List.map_singleton, whole]
  simp [nonempty]

theorem runs_append {first second : List (Option Char)}
    (apart : ∀ c, first.getLast? = some (some c) → ∀ d, second.head? ≠ some (some d)) :
    runs (first ++ second) = runs first ++ runs second := by
  rcases List.eq_nil_or_concat' first with rfl | ⟨lead, last, rfl⟩
  · rw [List.nil_append, runs_nil, List.nil_append]
  cases last with
  | none =>
    rw [List.append_assoc, List.singleton_append, runs_append_gap, runs_append_gap, runs_nil,
      List.append_nil]
  | some c =>
    rcases second with _ | ⟨_ | d, second⟩
    · rw [List.append_nil, runs_nil, List.append_nil]
    · rw [runs_append_gap, runs_gap]
    · exact absurd rfl (apart c (by simp) d)

theorem flatten_runs (trace : List (Option Char)) : (runs trace).flatten = trace.reduceOption := by
  unfold runs
  rw [List.flatten_filter_ne_nil]
  induction trace with
  | nil => rfl
  | cons o trace ih =>
    obtain ⟨run, later, split⟩ := List.exists_cons_of_ne_nil
      (List.splitOnP_ne_nil Option.isNone trace)
    rw [split] at ih
    rw [List.splitOnP_cons_eq_if_modifyHead, split]
    cases o with
    | none => simpa using ih
    | some c => simpa using ih

/-! ## Characters in a literal -/

namespace Place

/-- What a character shows of a literal: itself if it stands in one or opens it. -/
def shows (place : Place) (c : Char) : Option Char :=
  if place = literal ∨ place = outside ∧ c = '\'' then some c else none

def trace : Place → Text → List (Option Char)
  | _, [] => []
  | place, c :: s => place.shows c :: trace (place.step c) s

variable {place : Place} {s : Text} {c : Char}

theorem trace_append (place : Place) (s t : Text) :
    place.trace (s ++ t) = place.trace s ++ (place.after s).trace t := by
  induction s generalizing place with
  | nil => rfl
  | cons c s ih => rw [List.cons_append, trace, ih, after_cons, trace, List.cons_append]

theorem trace_of_not_mem (free : place ≠ literal) (noMark : '\'' ∉ s) (noDoubleMark : '"' ∉ s) :
    place.trace s = List.replicate s.length none := by
  induction s with
  | nil => rfl
  | cons c s ih =>
    have noMark₁ := List.ne_of_not_mem_cons noMark
    have noDoubleMark₁ := List.ne_of_not_mem_cons noDoubleMark
    have hidden : place.shows c = none := if_neg (by simp [free, noMark₁.symm])
    rw [trace, hidden, step_of_ne noMark₁.symm noDoubleMark₁.symm,
      ih (List.not_mem_of_not_mem_cons noMark) (List.not_mem_of_not_mem_cons noDoubleMark)]
    rfl

theorem trace_name (unmarked : '"' ∉ s) : name.trace s = List.replicate s.length none := by
  induction s with
  | nil => rfl
  | cons c s ih =>
    have other := List.ne_of_not_mem_cons unmarked
    simp only [trace, step, if_neg other.symm, ih (List.not_mem_of_not_mem_cons unmarked)]
    rfl

theorem trace_paired (paired : Paired s) : literal.trace s = s.map some := by
  induction paired with
  | nil => rfl
  | pair _ ih => simpa [trace, step, shows] using ih
  | char other _ ih => simpa [trace, step, shows, other] using ih

-- A text shows at its head what it opens, and at its end what it has just closed.
theorem head?_trace (free : place ≠ literal) (shown : (place.trace s).head? = some (some c)) :
    place = outside ∧ s.head? = some '\'' := by
  cases s with
  | nil => cases shown
  | cons d s =>
    cases place with
    | outside =>
      by_cases mark : d = '\''
      · exact ⟨rfl, congrArg some mark⟩
      · simp [trace, shows, mark] at shown
    | literal => exact absurd rfl free
    | name => simp [trace, shows] at shown

theorem getLast?_trace (free : place.after s ≠ literal)
    (shown : (place.trace s).getLast? = some (some c)) :
    place.after s = outside ∧ s.getLast? = some '\'' := by
  rcases List.eq_nil_or_concat' s with rfl | ⟨lead, d, rfl⟩
  · cases shown
  rw [after_append, after_cons, after_nil] at free ⊢
  rw [trace_append, trace, trace, List.getLast?_concat, Option.some.injEq] at shown
  cases before : place.after lead with
  | outside =>
    rw [before] at free shown
    by_cases mark : d = '\''
    · simp [step, mark] at free
    · simp [shows, mark] at shown
  | literal =>
    rw [before] at free
    by_cases mark : d = '\''
    · simp [step, mark]
    · simp [step, mark] at free
  | name =>
    rw [before] at shown
    simp [shows] at shown

end Place

open Place

/-- The literals of a text. A literal that nothing closes goes to the end of the text. -/
def literals (s : Text) : List Text := runs (outside.trace s)

theorem mem_literals_of_literal {s t : Text} {c : Char} (inside : outside.after s = literal) :
    ∃ l ∈ literals (s ++ c :: t), c ∈ l := by
  have shown : some c ∈ outside.trace (s ++ c :: t) := by
    rw [trace_append, inside, trace]
    exact List.mem_append_right _ (by simp [shows])
  have mem : c ∈ (literals (s ++ c :: t)).flatten := by
    unfold literals
    rw [flatten_runs]
    exact List.reduceOption_mem_iff.2 shown
  exact List.mem_flatten.1 mem

/-! ## Literals and tokens -/

theorem literals_gap {gap : Text} (blank : gap.Blank) (s : Text) :
    literals (gap ++ s) = literals s := by
  unfold literals
  rw [trace_append, blank.after, trace_of_not_mem (by decide) (blank.not_mem (by decide))
    (blank.not_mem (by decide)), runs_gaps]

theorem Token.isLiteral_between_marks (body : Text) :
    (⟨'\'' :: body ++ ['\'']⟩ : Token).isLiteral = true := by
  have last : ('\'' :: body ++ ['\'']).getLast? = some '\'' := List.getLast?_concat
  simp only [Token.isLiteral, last]
  simp

theorem Token.isLiteral_eq_false {t : Token} (first : t.text.head? ≠ some '\'') :
    t.isLiteral = false := by
  simp [Token.isLiteral, first]

/-- A token that closes what it opens is a literal of the text that begins with it, or is none
and has no part in one. -/
theorem Begins.literals {t r : Text} (begins : Begins t r) (closed : ¬(⟨t⟩ : Token).IsLone) :
    literals (t ++ r) =
      (([⟨t⟩] : List Token).filter Token.isLiteral).map Token.text ++ literals r := by
  have hidden (free : (outside.trace t) = List.replicate t.length none)
      (shut : outside.after t = outside) (other : (⟨t⟩ : Token).isLiteral = false) :
      SqlDialect.literals (t ++ r) =
        (([⟨t⟩] : List Token).filter Token.isLiteral).map Token.text ++ SqlDialect.literals r := by
    unfold SqlDialect.literals
    rw [trace_append, free, shut, runs_gaps, List.filter_cons_of_neg (by simp [other])]
    rfl
  rcases begins.marks with ⟨body, inner, rfl, single⟩ | ⟨-, rfl⟩ | ⟨body, inner, rfl⟩ | ⟨-, rfl⟩ |
    ⟨noMark, noDoubleMark⟩
  · have shown : outside.trace ('\'' :: body ++ ['\'']) = ('\'' :: body ++ ['\'']).map some := by
      simp [trace, trace_append, shows, step, trace_paired inner, literal_after inner]
    have shut : outside.after ('\'' :: body ++ ['\'']) = outside := by
      simp [step, literal_after inner]
    have apart (d : Char) : (outside.trace r).head? ≠ some (some d) :=
      fun next => single (head?_trace (by decide) next).2
    rw [List.filter_cons_of_pos (Token.isLiteral_between_marks body)]
    unfold SqlDialect.literals
    rw [trace_append, shown, shut, runs_append fun _ _ => apart, runs_map_some (by simp)]
    rfl
  · exact absurd (Or.inl rfl) closed
  · refine hidden ?_ ?_ (Token.isLiteral_eq_false (by simp))
    · have ends := List.replicate_succ' (n := body.length) (a := (none : Option Char))
      simpa [trace, trace_append, shows, step, trace_name inner, name_after inner,
        List.replicate_succ] using ends.symm
    · simp [step, name_after inner]
  · exact absurd (Or.inr rfl) closed
  · refine hidden (trace_of_not_mem (by decide) noMark noDoubleMark)
      (after_of_not_mem noMark noDoubleMark) (Token.isLiteral_eq_false fun first => ?_)
    exact noMark (List.mem_of_mem_head? first)

theorem Segmentation.literals {s last : Text} {pieces : List (Text × Token)}
    (cut : Segmentation s pieces last) (closed : ∀ t ∈ pieces.map Prod.snd, ¬t.IsLone) :
    ((pieces.map Prod.snd).filter Token.isLiteral).map Token.text = literals s := by
  induction cut with
  | last blank =>
    have none := literals_gap blank []
    rw [List.append_nil] at none
    rw [none]
    exact runs_nil.symm
  | @token _ gap t r _ pieces whole blank begins _ ih =>
    obtain ⟨here, later⟩ := List.forall_mem_cons.1 closed
    rw [whole, literals_gap blank, begins.literals here, ← ih later, List.map_cons,
      ← List.map_append, ← List.filter_append]
    rfl

theorem map_text_literals {s : Text} (closed : ∀ t ∈ tokenize s, ¬t.IsLone) :
    ((tokenize s).filter Token.isLiteral).map Token.text = literals s := by
  obtain ⟨pieces, last, cut⟩ := exists_segmentation s
  rw [← cut.tokens] at closed ⊢
  exact cut.literals closed

/-! ## Parts without marks -/

def Text.Unmarked (s : Text) : Prop := '\'' ∉ s ∧ '"' ∉ s

instance (s : Text) : Decidable s.Unmarked := inferInstanceAs (Decidable (_ ∧ _))

namespace Text.Unmarked

variable {s t : Text}

theorem of_subset (unmarked : t.Unmarked) (inside : s ⊆ t) : s.Unmarked :=
  ⟨fun mem => unmarked.1 (inside mem), fun mem => unmarked.2 (inside mem)⟩

theorem append (first : s.Unmarked) (second : t.Unmarked) : (s ++ t).Unmarked :=
  ⟨by simp [first.1, second.1], by simp [first.2, second.2]⟩

theorem of_blank (blank : s.Blank) : s.Unmarked :=
  ⟨blank.not_mem (by decide), blank.not_mem (by decide)⟩

theorem after (unmarked : s.Unmarked) (place : Place) : place.after s = place :=
  after_of_not_mem unmarked.1 unmarked.2

end Text.Unmarked

/-- Two texts can be put together without a change to a literal: the first ends in none, and none
that it has just closed goes on in the second. -/
structure Seam (first second : Text) : Prop where
  free : outside.after first ≠ literal
  single : outside.after first = outside → first.getLast? = some '\'' → second.head? ≠ some '\''

instance (first second : Text) : Decidable (Seam first second) :=
  decidable_of_iff (_ ∧ _) ⟨fun ⟨free, single⟩ => ⟨free, single⟩, fun s => ⟨s.free, s.single⟩⟩

theorem Seam.nil {first : Text} (free : outside.after first ≠ literal) : Seam first [] :=
  ⟨free, fun _ _ => nofun⟩

structure SameLiterals (s t : Text) : Prop where
  place : outside.after s = outside.after t
  literals : literals s = literals t

namespace SameLiterals

variable {s t u lead rest part part' : Text}

theorem refl (s : Text) : SameLiterals s s := ⟨rfl, rfl⟩

theorem trans (first : SameLiterals s t) (second : SameLiterals t u) : SameLiterals s u :=
  ⟨first.place.trans second.place, first.literals.trans second.literals⟩

theorem literals_around (free : outside.after lead ≠ literal) (some : part ≠ [])
    (unmarked : part.Unmarked) : SqlDialect.literals (lead ++ (part ++ rest)) =
      SqlDialect.literals lead ++ runs ((outside.after lead).trace rest) := by
  obtain ⟨n, long⟩ := Nat.exists_eq_succ_of_ne_zero (mt List.length_eq_zero_iff.1 some)
  unfold SqlDialect.literals
  rw [trace_append, trace_append, trace_of_not_mem free unmarked.1 unmarked.2, unmarked.after,
    long, List.replicate_succ, List.cons_append, runs_append_gap, runs_gaps]

theorem replace (free : outside.after lead ≠ literal) (some : part ≠ []) (some' : part' ≠ [])
    (unmarked : part.Unmarked) (unmarked' : part'.Unmarked) :
    SameLiterals (lead ++ (part ++ rest)) (lead ++ (part' ++ rest)) where
  place := by simp [unmarked.after, unmarked'.after]
  literals := by rw [literals_around free some unmarked, literals_around free some' unmarked']

theorem takeOut (seam : Seam lead rest) (unmarked : part.Unmarked) :
    SameLiterals (lead ++ (part ++ rest)) (lead ++ rest) where
  place := by simp [unmarked.after]
  literals := by
    by_cases empty : part = []
    · rw [empty, List.nil_append]
    rw [literals_around seam.free empty unmarked]
    unfold SqlDialect.literals
    rw [trace_append, runs_append]
    intro c shown d next
    obtain ⟨closed, last⟩ := getLast?_trace seam.free shown
    exact seam.single closed last (head?_trace seam.free next).2

theorem closed (same : SameLiterals s t) (closed : ∀ t ∈ tokenize s, ¬t.IsLone) :
    ∀ u ∈ tokenize t, ¬u.IsLone := by
  rwa [tokenize_closed_iff, ← same.place, ← tokenize_closed_iff]

theorem filter_isLiteral (same : SameLiterals s t) (closed : ∀ t ∈ tokenize s, ¬t.IsLone) :
    (tokenize s).filter Token.isLiteral = (tokenize t).filter Token.isLiteral := by
  have texts := same.literals
  rw [← map_text_literals closed, ← map_text_literals (same.closed closed)] at texts
  exact List.map_injective_iff.2 (fun _ _ spelled => congrArg Token.mk spelled) texts

end SameLiterals

end SqlDialect
