import SqlDialect.Proofs.Query.Outcome
import SqlDialect.Proofs.Query.Phrase
import SqlDialect.Proofs.Token.Literal
import SqlDialect.Proofs.Translation.Frame
import SqlDialect.Proofs.Translation.Rereading

/-! Literals of a query on its way to the database.

The stages that work on the text know nothing of quotation marks. What they look for has none,
though, so they change a literal only by taking something out from within it, or from between two
literals that only it keeps apart. Membership tests and placeholders have a percent sign; a hint on
missing values has no sign at all.
-/

set_option autoImplicit false

namespace SqlDialect

open Place

def Seamless (parts : List Text) : Prop :=
  ∀ i < parts.length, Seam (parts.take i).flatten (parts.drop i).flatten

instance (parts : List Text) : Decidable (Seamless parts) :=
  inferInstanceAs (Decidable (∀ i < parts.length, _))

/-- The parts of a query between its hints on missing values, as far as these are taken out. -/
def hintParts (query : Text) : List Text :=
  if NullsOrder.first.phrase.occurs query then NullsOrder.first.phrase.parts query
  else if NullsOrder.last.phrase.occurs query then NullsOrder.last.phrase.parts query
  else [query]

theorem fst_stripNullsOrder (query : Text) :
    (stripNullsOrder query).1 = (hintParts query).flatten := by
  unfold stripNullsOrder hintParts
  split
  next => exact (Phrase.flatten_parts _ query).symm
  next =>
    split
    next => exact (Phrase.flatten_parts _ query).symm
    next => exact (List.append_nil query).symm

/-! ## Hints -/

theorem unmarked_of_forall {s : Text} (plain : ∀ c ∈ ['\'', '"'], c ∉ s) : s.Unmarked :=
  ⟨plain '\'' (by decide), plain '"' (by decide)⟩

theorem NullsOrder.exists_unmarked {order : NullsOrder} {s r : Text}
    (read : order.after? s = some r) : ∃ lead, s = lead ++ r ∧ lead.Unmarked := by
  obtain ⟨lead, whole, plain⟩ := (Phrase.passes_nullsOrder read).exists_append
    ['\'', '"'] (by decide) (by decide)
  exact ⟨lead, whole, unmarked_of_forall plain⟩

theorem NullsOrder.head?_flatten_parts {order : NullsOrder} {s : Text}
    (mark : s.head? = some '\'') : (order.phrase.parts s).flatten.head? = some '\'' := by
  obtain ⟨s, rfl⟩ := List.head?_eq_some_iff.1 mark
  have missing : order.phrase.after? ('\'' :: s) = none := by
    rw [Option.eq_none_iff_forall_ne_some]
    intro r read
    have shorter := order.phrase.shorter read
    obtain ⟨lead, whole, unmarked⟩ := exists_unmarked read
    cases lead with
    | nil => exact absurd (congrArg List.length whole) (Nat.ne_of_gt shorter)
    | cons c lead =>
      obtain ⟨rfl, -⟩ := List.cons.inj whole
      exact unmarked.1 List.mem_cons_self
  rw [Phrase.flatten_parts, Phrase.erase_cons_of_none missing]
  rfl

/-- Hints are taken out after some text one by one, each where the rest can be put to what is
left of the text before it. -/
theorem NullsOrder.sameLiterals_parts {order : NullsOrder} (lead s : Text)
    (seams : ∀ i, i + 1 < (order.phrase.parts s).length →
      Seam (lead ++ ((order.phrase.parts s).take (i + 1)).flatten)
        ((order.phrase.parts s).drop (i + 1)).flatten) :
    SameLiterals (lead ++ s) (lead ++ (order.phrase.parts s).flatten) := by
  fun_induction Phrase.parts order.phrase s generalizing lead with
  | case1 => exact .refl _
  | case2 c s r read ih =>
    obtain ⟨hint, whole, unmarked⟩ := exists_unmarked read
    obtain ⟨first, rest, split⟩ := order.phrase.exists_parts_eq_cons r
    have here : Seam lead (order.phrase.parts r).flatten := by
      have seam := seams 0 (by rw [split]; simp)
      simpa using seam
    have seam : Seam lead r :=
      ⟨here.free, fun closed last mark => here.single closed last (head?_flatten_parts mark)⟩
    rw [whole, List.flatten_cons, List.nil_append]
    exact (SameLiterals.takeOut seam unmarked).trans
      (ih lead fun i inside => seams (i + 1) (Nat.succ_lt_succ inside))
  | case3 c s missing ih =>
    obtain ⟨first, rest, split⟩ := order.phrase.exists_parts_eq_cons s
    rw [split] at seams ih ⊢
    have later := ih (lead ++ [c]) fun i inside => by simpa using seams i inside
    simpa using later

theorem sameLiterals_stripNullsOrder {query : Text} (seamless : Seamless (hintParts query)) :
    SameLiterals query (stripNullsOrder query).1 := by
  have each (order : NullsOrder) (seamless : Seamless (order.phrase.parts query)) :
      SameLiterals query (order.phrase.parts query).flatten :=
    NullsOrder.sameLiterals_parts [] query fun i inside => seamless (i + 1) inside
  rw [fst_stripNullsOrder]
  unfold hintParts at seamless ⊢
  split at seamless
  next found =>
    rw [if_pos found]
    exact each .first seamless
  next missing =>
    rw [if_neg missing]
    split at seamless
    next found =>
      rw [if_pos found]
      exact each .last seamless
    next missing =>
      rw [if_neg missing, List.flatten_singleton]
      exact .refl query

theorem sameLiterals_stripReturningId {query : Text} (closed : outside.after query = outside) :
    SameLiterals query (stripReturningId query).1 := by
  unfold stripReturningId
  split
  next before r found =>
    obtain ⟨rest, rfl, read⟩ := Phrase.find?_eq_some found
    obtain ⟨hint, rfl, plain⟩ := (Phrase.passes_returningId read).exists_append
      ['\'', '"'] (by decide) (by decide)
    have unmarked := unmarked_of_forall plain
    have free : outside.after before ≠ literal := by
      rw [after_append, List.append_nil, unmarked.after] at closed
      rw [closed]
      decide
    have same := SameLiterals.takeOut (Seam.nil free) unmarked
    rwa [List.append_nil before] at same
  next => exact .refl query

/-! ## Membership tests and placeholders -/

def Unsigned (s : Text) : Prop := ∀ l ∈ literals s, '%' ∉ l

theorem SameLiterals.unsigned {s t : Text} (same : SameLiterals s t) (unsigned : Unsigned s) :
    Unsigned t := by
  unfold Unsigned
  rwa [← same.literals]

theorem Unsigned.free {lead part rest : Text} (unsigned : Unsigned (lead ++ (part ++ rest)))
    (signed : '%' ∈ part) (unmarked : part.Unmarked) : outside.after lead ≠ literal := by
  intro inside
  obtain ⟨opening, closing, rfl⟩ := List.append_of_mem signed
  have place : outside.after (lead ++ opening) = literal := by
    rw [after_append, (unmarked.of_subset (List.subset_append_left ..)).after, inside]
  obtain ⟨l, listed, mem⟩ := mem_literals_of_literal (t := closing ++ rest) (c := '%') place
  exact unsigned l (by simpa using listed) mem

theorem SameLiterals.replace_signed {lead part part' rest rest' : Text} (signed : '%' ∈ part)
    (unmarked : part.Unmarked) (some' : part' ≠ []) (unmarked' : part'.Unmarked)
    (unsigned : Unsigned (lead ++ (part ++ rest)))
    (later : ∀ lead, Unsigned (lead ++ rest) → SameLiterals (lead ++ rest) (lead ++ rest')) :
    SameLiterals (lead ++ (part ++ rest)) (lead ++ (part' ++ rest')) := by
  have same : SameLiterals (lead ++ (part ++ rest)) (lead ++ (part' ++ rest)) :=
    .replace (unsigned.free signed unmarked) (List.ne_nil_of_mem signed) some' unmarked unmarked'
  rw [← List.append_assoc lead part'] at same ⊢
  exact same.trans (later _ (same.unsigned unsigned))

theorem MembershipTest.unmarked {test : Text} (membership : MembershipTest test) :
    test.Unmarked := by
  cases membership with
  | @intro w list blank placeholder =>
    have foreign {c : Char} (visible : isBlank c = false) (sign : c ≠ '=')
        (other : c ∉ ['a', 'A', 'n', 'N', 'y', 'Y', 's', 'S', '\u017f', '(', '%', ')']) :
        c ∉ '=' :: (w ++ list) := by
      have := blank.not_mem visible
      have := placeholder.not_mem_of_visible visible other
      simp_all
    exact ⟨foreign (by decide) (by decide) (by decide), foreign (by decide) (by decide) (by decide)⟩

theorem MembershipTest.percent_mem {test : Text} (membership : MembershipTest test) :
    '%' ∈ test := by
  cases membership with
  | intro _ placeholder =>
    cases placeholder with
    | intro => simp

theorem inPlaceholders_ne_nil (n : Nat) : inPlaceholders n ≠ [] := by
  obtain ⟨inside, whole, -⟩ := exists_inPlaceholders_eq n
  rw [whole]
  exact List.cons_ne_nil _ _

theorem unmarked_inPlaceholders (n : Nat) : (inPlaceholders n).Unmarked := by
  obtain ⟨inside, whole, own⟩ := exists_inPlaceholders_eq n
  refine unmarked_of_forall fun c mark mem => ?_
  rw [whole] at mem
  simp only [List.mem_cons, List.mem_append, List.not_mem_nil, or_false] at *
  grind

/-- Spreading tests after some text changes no literal: a test in a literal would bring a percent
sign with it. -/
theorem sameLiterals_spreadTests (lead first : Text) {tail : List (Text × Text)}
    (lists : List (List Cell)) (tests : ∀ p ∈ tail, MembershipTest p.1)
    (unsigned : Unsigned (lead ++ (first ++ joinTests tail))) :
    SameLiterals (lead ++ (first ++ joinTests tail)) (lead ++ spreadTests first tail lists) := by
  induction tail generalizing lead first lists with
  | nil => exact .refl _
  | cons p tail ih =>
    obtain ⟨test, gap⟩ := p
    cases lists with
    | nil => exact .refl _
    | cons items lists =>
      obtain ⟨membership, tests⟩ := List.forall_mem_cons.1 tests
      obtain ⟨w, blank, split⟩ := first.exists_trimEnd_append
      have unmarked : (w ++ test).Unmarked :=
        (Text.Unmarked.of_blank blank).append membership.unmarked
      have whole : lead ++ (first ++ joinTests ((test, gap) :: tail)) =
          (lead ++ first.trimEnd) ++ ((w ++ test) ++ (gap ++ joinTests tail)) := by
        conv_lhs => rw [split]
        simp
      rw [whole] at unsigned ⊢
      rw [spreadTests, ← List.append_assoc lead]
      exact .replace_signed (List.mem_append_right w membership.percent_mem) unmarked
        (inPlaceholders_ne_nil items.length) (unmarked_inPlaceholders items.length) unsigned
        fun lead unsigned => ih lead gap lists tests unsigned

theorem sameLiterals_convertFrom (lead : Text) (n : Nat) (s : Text)
    (unsigned : Unsigned (lead ++ s)) :
    SameLiterals (lead ++ s) (lead ++ convertFrom .question n s) := by
  fun_induction convertFrom .question n s generalizing lead with
  | case1 => exact .refl _
  | case2 n r ih =>
    have percent : '%' ∈ (['%', 's'] : Text) := by decide
    have mark : Text.Unmarked ['?'] := by decide
    have some' : PlaceholderStyle.question.mark n ≠ [] := List.cons_ne_nil '?' []
    exact .replace_signed percent (by decide) some' mark unsigned ih
  | case3 n r ih =>
    have percents : '%' ∈ (['%', '%'] : Text) := by decide
    have one : Text.Unmarked ['%'] := by decide
    exact .replace_signed percents (by decide) (by simp) one unsigned ih
  | case4 n c r _ _ ih =>
    have later := ih (lead ++ [c]) (by simpa using unsigned)
    simpa using later

theorem sameLiterals_convertPlaceholders {query : Text} (unsigned : Unsigned query) :
    SameLiterals query (convertPlaceholders query .question) :=
  sameLiterals_convertFrom [] 1 query unsigned

/-! ## The whole way -/

def isFreeLiteral (t : Token) : Bool := t.isLiteral && !queryRules.mentions t

theorem filter_isFreeLiteral (tokens : List Token) :
    tokens.filter isFreeLiteral =
      (tokens.filter Token.isLiteral).filter (!queryRules.mentions ·) :=
  List.filter_filter.symm.trans (List.filter_comm ..)

theorem Token.isLiteral_congr {a b : Token} (same : a.agrees b = true) :
    a.isLiteral = b.isLiteral := by
  have folded (t : Token) : (⟨t.text.fold⟩ : Token).isLiteral = t.isLiteral := by
    have mark (o : Option Char) : (o.map Char.toLower == some '\'') = (o == some '\'') := by
      cases o with
      | none => rfl
      | some c => simp [toLower_eq_iff]
    unfold isLiteral Text.fold
    rw [List.length_map, List.head?_map, List.getLast?_map, mark, mark]
  rw [← folded a, Text.agrees_iff.1 same, folded b]

theorem isFreeLiteral_congr {a b : Token} (same : a.agrees b = true) :
    isFreeLiteral a = isFreeLiteral b := by
  unfold isFreeLiteral
  rw [Token.isLiteral_congr same, queryRules.mentions_congr same]

theorem frames_free : ∀ entry ∈ queryRules.entries, Rule.Frames isFreeLiteral entry.2 := by
  decide +kernel

/-- Every literal that no rule names comes through massaging as it is, in its place among the
others, if the hints that are taken out stand in no literal and keep no two apart. -/
theorem massage_keeps_literals {query : Text} {params : List Param} {massaged : Massaged}
    (through : massage query params = .ok massaged)
    (closed : ∀ t ∈ tokenize query, ¬t.IsLone)
    (unsigned : ∀ t ∈ tokenize query, t.isLiteral = true → '%' ∉ t.text)
    (seamless : Seamless (hintParts query)) :
    (tokenize massaged.query).filter isFreeLiteral =
      (tokenize query).filter isFreeLiteral := by
  obtain ⟨_, _, expanded, -, rfl⟩ := massage_eq_ok_iff.1 through
  obtain ⟨first, tail, cut, -, -, rfl, -⟩ := expandAny_eq_ok expanded
  have clean : Unsigned query := by
    intro l listed
    rw [← map_text_literals closed] at listed
    obtain ⟨t, kept, rfl⟩ := List.mem_map.1 listed
    obtain ⟨mem, literal⟩ := List.mem_filter.1 kept
    exact unsigned t mem literal
  have stripped := sameLiterals_stripNullsOrder seamless
  have spread := sameLiterals_spreadTests [] first (listItems params) cut.tests
    (by rw [List.nil_append, ← cut.whole]; exact stripped.unsigned clean)
  rw [List.nil_append, List.nil_append, ← cut.whole] at spread
  have expanded := stripped.trans spread
  have requested := expanded.trans <| sameLiterals_stripReturningId <|
    (tokenize_closed_iff _).1 (expanded.closed closed)
  have same := requested.trans (sameLiterals_convertPlaceholders (requested.unsigned clean))
  have stands := RuleTable.stands_apply stands_queryRules
    (stands_of_mem_tokenize (same.closed closed))
  rw [translateQuery, tokenize_join_of_stands stands,
    queryRules.filter_apply frames_free (fun _ _ => isFreeLiteral_congr), filter_isFreeLiteral,
    filter_isFreeLiteral, same.filter_isLiteral closed]

/-- A hint between literals, a doubled mark, and a literal that a rule names. -/
theorem massage_keeps_literals_between :
    ∃ massaged, massage "SELECT 'a' NULLS FIRST, 'it''s','1 day' = ANY (%s)"
        [.list [.null, .int 1]] = .ok massaged ∧
      massaged.query = "SELECT 'a' , 'it''s' , 86400 IN ( ? , ? )" ∧
      (tokenize massaged.query).filter isFreeLiteral = (["'a'", "'it''s'"] : List Token) := by
  have text : (massage "SELECT 'a' NULLS FIRST, 'it''s','1 day' = ANY (%s)"
      [.list [.null, .int 1]]).toOption.map Massaged.query =
        some ("SELECT 'a' , 'it''s' , 86400 IN ( ? , ? )" : Text) := by
    decide +kernel
  generalize through : massage _ _ = outcome at text ⊢
  cases outcome with
  | error mismatch => cases text
  | ok massaged =>
    have kept := massage_keeps_literals through (by decide +kernel) (by decide +kernel)
      (by decide +kernel)
    exact ⟨massaged, rfl, Option.some.inj text, kept.trans (by decide +kernel)⟩

/-- A hint in a literal is no hint of the query, but it is taken out. -/
theorem massage_alters_literal :
    (∀ t ∈ tokenize "SELECT 'a NULLS FIRST b'", ¬t.IsLone) ∧
    '%' ∉ ("SELECT 'a NULLS FIRST b'" : Text) ∧
    ∃ massaged, massage "SELECT 'a NULLS FIRST b'" [] = .ok massaged ∧
      massaged.query = "SELECT 'a b'" ∧
      (tokenize massaged.query).filter isFreeLiteral ≠
        (tokenize "SELECT 'a NULLS FIRST b'").filter isFreeLiteral := by
  refine ⟨by decide +kernel, by decide, ?_⟩
  have text : (massage "SELECT 'a NULLS FIRST b'" []).toOption.map Massaged.query =
      some ("SELECT 'a b'" : Text) := by
    decide +kernel
  generalize through : massage _ _ = outcome at text ⊢
  cases outcome with
  | error mismatch => cases text
  | ok massaged =>
    have query : massaged.query = "SELECT 'a b'" := Option.some.inj text
    refine ⟨massaged, rfl, query, ?_⟩
    rw [query]
    decide +kernel

end SqlDialect
