import SqlDialect.Proofs.Query.Hint
import SqlDialect.Proofs.Token.Marks

/-! Hints at the end of a query.

A hint that a query does not have yet can be put at its end: it is told as a hint, and shows neither
in the text of the query nor in its values. It goes with the white space before it, and the white
space after it separates nothing, wherever the query ends.
-/

set_option autoImplicit false

namespace SqlDialect

open Text (Blank)

namespace Phrase

variable {p : Phrase} {lead s t r : Text}

/-! ## Phrases at the end of a text -/

theorem find?_of_after? (read : p.after? s = some r) : p.find? s = some ([], r) := by
  cases s with
  | nil =>
    rw [p.after?_nil] at read
    cases read
  | cons c s => rw [find?, read]

theorem erase_of_after? (read : p.after? s = some r) : p.erase s = p.erase r := by
  cases s with
  | nil =>
    rw [p.after?_nil] at read
    cases read
  | cons c s =>
    rw [erase]
    split
    next found => rw [Option.some.inj (read.symm.trans found)]
    next missing =>
      rw [missing] at read
      cases read

theorem erase_append (missing : ∀ u, u ≠ [] → u <:+ lead → p.after? (u ++ t) = none) :
    p.erase (lead ++ t) = lead ++ p.erase t := by
  induction lead with
  | nil => rfl
  | cons c lead ih =>
    have here := missing (c :: lead) (List.cons_ne_nil c lead) (List.suffix_refl _)
    have later := ih fun u some inside => missing u some (inside.trans (List.suffix_cons c lead))
    rw [List.cons_append] at here ⊢
    rw [erase_cons_of_none here, later, List.cons_append]

theorem erase_eq_self (missing : p.find? s = none) : p.erase s = s := by
  have nothing : p.erase [] = [] := by rw [erase]
  have kept : p.erase (s ++ []) = s ++ p.erase [] := erase_append fun u _ inside => by
    rw [List.append_nil]
    exact find?_eq_none_iff.1 missing u inside
  rwa [nothing, List.append_nil] at kept

-- What stands before the white space at the end of a text ends in another character, so none of
-- its ends is white space alone.
theorem missing_before_gap (missing : ∀ u, ¬Blank u → u <:+ s → p.after? (u ++ t) = none) :
    ∃ gap, Blank gap ∧ s = s.trimEnd ++ gap ∧
      ∀ u, u ≠ [] → u <:+ s.trimEnd → p.after? (u ++ (gap ++ t)) = none := by
  obtain ⟨gap, blank, whole⟩ := s.exists_trimEnd_append
  refine ⟨gap, blank, whole, fun u nonempty inside => ?_⟩
  obtain ⟨before, split⟩ := inside
  rw [← List.append_assoc]
  refine missing (u ++ gap) (fun white => ?_) ⟨before, by rw [← List.append_assoc, split, ← whole]⟩
  rcases s.trimEnd_eq_nil_or_concat with empty | ⟨lead, c, ends, visible⟩
  · rw [empty] at split
    exact nonempty (List.append_eq_nil_iff.1 split).2
  · have last : u.getLast? = some c := by
      rw [← List.getLast?_append_of_ne_nil before nonempty, split, ends, List.getLast?_concat]
    have blank' := white c (List.mem_append_left gap (List.mem_of_getLast? last))
    rw [visible] at blank'
    cases blank'

section

variable (missing : ∀ u, ¬Blank u → u <:+ s → p.after? (u ++ t) = none)
  (read : ∀ gap, Blank gap → p.after? (gap ++ t) = some r)

include missing read

theorem find?_at_end : p.find? (s ++ t) = some (s.trimEnd, r) := by
  obtain ⟨gap, blank, whole, missing⟩ := missing_before_gap missing
  conv_lhs => rw [whole]
  rw [List.append_assoc, find?_append missing, find?_of_after? (read gap blank)]
  simp

theorem erase_at_end : p.erase (s ++ t) = s.trimEnd ++ p.erase r := by
  obtain ⟨gap, blank, whole, missing⟩ := missing_before_gap missing
  conv_lhs => rw [whole]
  rw [List.append_assoc, erase_append missing, erase_of_after? (read gap blank)]

end

/-- A text at the end of others that neither holds the phrase nor changes where they hold it. -/
structure Ignores (p : Phrase) (t : Text) : Prop where
  before : ∀ u, p.after? (u ++ t) = (p.after? u).map (· ++ t)
  absent : p.find? t = none

namespace Ignores

theorem find?_append (ignores : p.Ignores t) (s : Text) :
    p.find? (s ++ t) = (p.find? s).map fun (lead, r) => (lead, r ++ t) := by
  induction s with
  | nil => exact ignores.absent
  | cons c s ih =>
    have here := ignores.before (c :: s)
    cases read : p.after? (c :: s) with
    | some r =>
      rw [read] at here
      rw [find?_of_after? here, find?_of_after? read]
      rfl
    | none =>
      have missing : p.after? (c :: (s ++ t)) = none := by rwa [read] at here
      rw [find?_cons_of_none read, List.cons_append, find?_cons_of_none missing, ih, Option.map_map,
        Option.map_map]
      rfl

theorem occurs_append (ignores : p.Ignores t) (s : Text) : p.occurs (s ++ t) = p.occurs s := by
  rw [occurs, occurs, ignores.find?_append, Option.isSome_map]

theorem erase_append (ignores : p.Ignores t) (s : Text) : p.erase (s ++ t) = p.erase s ++ t := by
  fun_induction erase p s with
  | case1 => exact erase_eq_self ignores.absent
  | case2 c s r read ih =>
    have here := ignores.before (c :: s)
    rw [read] at here
    rw [erase_of_after? here, ih]
  | case3 c s missing ih =>
    have here := ignores.before (c :: s)
    have missing' : p.after? (c :: (s ++ t)) = none := by rwa [missing] at here
    rw [List.cons_append, erase_cons_of_none missing', ih, List.cons_append]

end Ignores

end Phrase

open Phrase

/-! ## Hints on missing values -/

variable {query hint s t u w : Text} {order : NullsOrder} {small : Char}

def blankRanges : List (Nat × Nat) := [
  (0x9, 0xD), (0x20, 0x20), (0x85, 0x85), (0xA0, 0xA0), (0x1680, 0x1680), (0x2000, 0x200A),
  (0x2028, 0x2029), (0x202F, 0x202F), (0x205F, 0x205F), (0x3000, 0x3000)]

theorem isWordChar_of_isBlank {c : Char} (blank : isBlank c = true) : isWordChar c = false := by
  have apart : ∀ gap ∈ blankRanges, ∀ range ∈ wordRanges, range.2 < gap.1 ∨ gap.2 < range.1 := by
    decide +kernel
  obtain ⟨gap, listed, low, high⟩ :
      ∃ gap ∈ blankRanges, gap.1 ≤ c.toNat ∧ c.toNat ≤ gap.2 := by
    simp only [isBlank, Bool.or_eq_true, Bool.and_eq_true, decide_eq_true_eq, beq_iff_eq] at blank
    simp only [blankRanges, List.exists_mem_cons_iff]
    omega
  unfold isWordChar
  rw [List.any_eq_false]
  intro range mem inside
  have outside := apart gap listed range mem
  simp only [Bool.and_eq_true, decide_eq_true_eq] at inside
  omega

theorem wordEnds_append (blank : ∀ c ∈ t.head?, isBlank c = true) (s : Text) :
    wordEnds (s ++ t) = wordEnds s := by
  cases s with
  | cons c s => rfl
  | nil =>
    cases t with
    | nil => rfl
    | cons c t => simp [wordEnds, isWordChar_of_isBlank (blank c rfl)]

theorem isWord_nulls : IsWord "nulls" := by decide

namespace NullsOrder

theorem isWord_word (order : NullsOrder) : IsWord order.word := by
  cases order <;> decide

theorem after?_eq (order : NullsOrder) (s : Text) :
    order.after? s = (twoWords? "nulls" order.word s).bind fun r =>
      if wordEnds r then some r else none := by
  simp only [after?, twoWords?, spacedWord?, Option.bind_eq_bind, Option.bind_assoc]

theorem after?_append_of_visible (inert : Inert order.word t) (visible : ¬Blank u) :
    order.after? (u ++ t) = (order.after? u).map (· ++ t) := by
  rw [after?_eq, after?_eq,
    twoWords?_append_of_visible isWord_nulls order.isWord_word inert visible]
  cases twoWords? "nulls" order.word u with
  | none => rfl
  | some r =>
    simp only [Option.map_some, Option.bind_some, wordEnds_append inert.blank]
    split <;> rfl

theorem after?_of_letter (letter : small ∈ "nulls".toList ++ order.word)
    (absent : ∀ c ∈ s, c ∉ spellings small) : order.after? s = none := by
  rw [after?_eq, twoWords?_eq_none letter absent]
  rfl

theorem ignores {first second : Text} (two : TwoWords first second hint) (isWord : IsWord first)
    (blank : Blank w) (apart : Unread ((order.word.take 1).flatMap spellings) (first.take 1))
    (letter : small ∈ "nulls".toList ++ order.word)
    (foreign : Unread (spellings small) (first ++ second)) :
    order.phrase.Ignores (hint ++ w) := by
  have visible : ∀ c ∈ spellings small, isBlank c = false := by
    rcases List.mem_append.1 letter with nulls | own
    · exact isWord_nulls.2 small nulls
    · exact order.isWord_word.2 small own
  have absent := two.absent blank visible foreign
  constructor
  · intro u
    by_cases white : Blank u
    · have outside : ∀ c ∈ u, c ∉ spellings small := fun c mem own =>
        white.not_mem (visible c own) mem
      have none : order.phrase.after? u = none := after?_of_letter letter outside
      rw [none]
      exact after?_of_letter letter (List.forall_mem_append.2 ⟨outside, absent⟩)
    · exact after?_append_of_visible (two.inert isWord apart order.isWord_word.1 w) white
  · exact find?_eq_none_iff.2 fun u inside =>
      after?_of_letter letter fun c mem => absent c (inside.subset mem)

theorem find?_of_blank (order : NullsOrder) (blank : Blank w) : order.phrase.find? w = none := by
  refine find?_eq_none_iff.2 fun u inside => ?_
  have white : Blank u := fun c mem => blank c (inside.subset mem)
  have none : order.after? u = none := by
    rw [after?_eq, twoWords?_of_blank isWord_nulls white]
    rfl
  exact none

section

variable (two : TwoWords "nulls" order.word hint) (blank : Blank w)
  (missing : order.phrase.find? query = none)

include two blank missing

theorem at_end :
    order.phrase.find? (query ++ (hint ++ w)) = some (query.trimEnd, w) ∧
      order.phrase.erase (query ++ (hint ++ w)) = query.trimEnd ++ w := by
  have inert : Inert order.word (hint ++ w) :=
    two.inert isWord_nulls (by cases order <;> decide) order.isWord_word.1 w
  have before : ∀ u, ¬Blank u → u <:+ query → order.phrase.after? (u ++ (hint ++ w)) = none := by
    intro u visible inside
    have here : order.after? u = none := find?_eq_none_iff.1 missing u inside
    have read := after?_append_of_visible inert visible
    rwa [here] at read
  have read : ∀ gap, Blank gap → order.phrase.after? (gap ++ (hint ++ w)) = some w := by
    intro gap white
    have ends : wordEnds w = true := by
      have same := wordEnds_append (fun c first => blank c (List.mem_of_mem_head? first)) []
      rwa [List.nil_append] at same
    have read : order.after? (gap ++ (hint ++ w)) = some w := by
      rw [after?_eq, ← List.append_assoc, twoWords?_of_twoWords isWord_nulls order.isWord_word
        (two.blank_append white), Option.bind_some, if_pos ends]
    exact read
  refine ⟨find?_at_end before read, ?_⟩
  rw [erase_at_end before read, erase_eq_self (order.find?_of_blank blank)]

end

end NullsOrder

theorem stripNullsOrder_append (ignores : ∀ order : NullsOrder, order.phrase.Ignores t)
    (query : Text) :
    stripNullsOrder (query ++ t) = ((stripNullsOrder query).1 ++ t, (stripNullsOrder query).2) := by
  unfold stripNullsOrder
  simp only [(ignores _).occurs_append, (ignores _).erase_append]
  split
  next => rfl
  next => split <;> rfl

theorem stripNullsOrder_of_none (none : (stripNullsOrder query).2 = none) :
    (stripNullsOrder query).1 = query ∧ ∀ order : NullsOrder, order.phrase.find? query = .none := by
  unfold stripNullsOrder at *
  split at none
  next => cases none
  next noFirst =>
    split at none
    next => cases none
    next noLast =>
      rw [if_neg noFirst, if_neg noLast]
      refine ⟨rfl, fun order => ?_⟩
      cases order with
      | first => exact Option.not_isSome_iff_eq_none.1 noFirst
      | last => exact Option.not_isSome_iff_eq_none.1 noLast

theorem stripNullsOrder_at_end (none : (stripNullsOrder query).2 = none)
    (two : TwoWords "nulls" order.word hint) (blank : Blank w) :
    stripNullsOrder (query ++ (hint ++ w)) = (query.trimEnd ++ w, some order) := by
  obtain ⟨found, erased⟩ := order.at_end two blank ((stripNullsOrder_of_none none).2 order)
  have here : order.phrase.occurs (query ++ (hint ++ w)) = true := by rw [occurs, found]; rfl
  cases order with
  | first => rw [stripNullsOrder, if_pos here, erased]
  | last =>
    have ignored : NullsOrder.first.phrase.Ignores (hint ++ w) :=
      NullsOrder.ignores two isWord_nulls blank (by decide)
        (show 'f' ∈ "nulls".toList ++ NullsOrder.first.word by decide) (by decide)
    have other : ¬NullsOrder.first.phrase.occurs (query ++ (hint ++ w)) = true := by
      rw [ignored.occurs_append, occurs, (stripNullsOrder_of_none none).2 .first]
      exact Bool.false_ne_true
    rw [stripNullsOrder, if_neg other, if_pos here, erased]

/-! ## The request for the new row's number -/

theorem isWord_returning : IsWord "returning" := by decide

theorem isWord_id : IsWord "id" := by decide

theorem afterReturningId?_eq (s : Text) :
    afterReturningId? s = (twoWords? "returning" "id" s).bind fun r =>
      if r.dropBlank = [] then some [] else none := by
  simp only [afterReturningId?, twoWords?, spacedWord?, Option.bind_eq_bind, Option.bind_assoc]

theorem stripReturningId_at_end (two : TwoWords "returning" "id" hint) (blank : Blank w)
    (s : Text) : stripReturningId (s ++ (hint ++ w)) = (s.trimEnd, true) := by
  have inert : Inert "id" (hint ++ w) := two.inert isWord_returning (by decide) isWord_id.1 w
  have before : ∀ u, ¬Blank u → u <:+ s → returningId.after? (u ++ (hint ++ w)) = none := by
    intro u visible _
    have missing : afterReturningId? (u ++ (hint ++ w)) = none := by
      rw [afterReturningId?_eq,
        twoWords?_append_of_visible isWord_returning isWord_id inert visible]
      cases twoWords? "returning" "id" u with
      | none => rfl
      | some r =>
        -- what follows is not the end, for it has the hint in it
        have more : ¬Text.dropBlank (r ++ (hint ++ w)) = [] := by
          rw [Text.dropBlank_eq_nil_iff]
          intro white
          refine two.not_blank isWord_returning fun c mem => white c ?_
          exact List.mem_append_right r (List.mem_append_left w mem)
        exact if_neg more
    exact missing
  have read : ∀ gap, Blank gap → returningId.after? (gap ++ (hint ++ w)) = some [] := by
    intro gap white
    have found : afterReturningId? (gap ++ (hint ++ w)) = some [] := by
      rw [afterReturningId?_eq, ← List.append_assoc,
        twoWords?_of_twoWords isWord_returning isWord_id (two.blank_append white), Option.bind_some,
        if_pos (Text.dropBlank_eq_nil_iff.2 blank)]
    exact found
  rw [stripReturningId, find?_at_end before read]

theorem stripReturningId_of_false (none : (stripReturningId s).2 = false) :
    (stripReturningId s).1 = s := by
  unfold stripReturningId at *
  split at none
  next => cases none
  next => rfl

theorem afterReturningId?_of_blank (blank : Blank w) : afterReturningId? w = none := by
  rw [afterReturningId?_eq, twoWords?_of_blank isWord_returning blank]
  rfl

theorem afterReturningId?_append_blank (s : Text) (blank : Blank w) :
    afterReturningId? (s ++ w) = afterReturningId? s := by
  by_cases white : Blank s
  · rw [afterReturningId?_of_blank white,
      afterReturningId?_of_blank (List.forall_mem_append.2 ⟨white, blank⟩)]
  · rw [afterReturningId?_eq, afterReturningId?_eq, twoWords?_append_of_visible isWord_returning
      isWord_id (inert_of_blank isWord_id blank) white]
    cases twoWords? "returning" "id" s with
    | none => rfl
    | some r =>
      have same : Text.dropBlank (r ++ w) = [] ↔ r.dropBlank = [] := by
        rw [Text.dropBlank_eq_nil_iff, Text.dropBlank_eq_nil_iff]
        exact ⟨fun white c mem => white c (List.mem_append_left w mem),
          fun white => List.forall_mem_append.2 ⟨white, blank⟩⟩
      simp only [Option.map_some, Option.bind_some, same]

theorem find?_returningId_append_blank (s : Text) (blank : Blank w) :
    returningId.find? (s ++ w) = returningId.find? s := by
  induction s with
  | nil =>
    exact find?_eq_none_iff.2 fun u inside =>
      afterReturningId?_of_blank fun c mem => blank c (inside.subset mem)
  | cons c s ih =>
    have same : returningId.after? (c :: (s ++ w)) = returningId.after? (c :: s) :=
      afterReturningId?_append_blank (c :: s) blank
    rw [List.cons_append, find?, find?, same, ih]

/-! ## White space at the end -/

theorem translateQuery_append_blank (s : Text) (blank : Blank w) :
    translateQuery (s ++ w) = translateQuery s := by
  have apart : s.getLast? = some '%' → ∀ c ∈ w.head?, c ≠ 's' ∧ c ≠ '%' := by
    intro _ c first
    have white := blank c (List.mem_of_mem_head? first)
    constructor <;> rintro rfl <;> cases white
  have kept : convertPlaceholders (s ++ w) .question =
      convertPlaceholders s .question ++ convertPlaceholders w .question :=
    convertFrom_append 1 apart
  rw [translateQuery, kept, convertPlaceholders_of_not_mem (blank.not_mem (by decide)),
    tokenize_append_blank _ blank, translateQuery]

theorem stripReturningId_append_blank (s : Text) (blank : Blank w) :
    translateQuery (stripReturningId (s ++ w)).1 = translateQuery (stripReturningId s).1 ∧
      (stripReturningId (s ++ w)).2 = (stripReturningId s).2 := by
  unfold stripReturningId
  rw [find?_returningId_append_blank s blank]
  split
  next => exact ⟨rfl, rfl⟩
  next => exact ⟨translateQuery_append_blank s blank, rfl⟩

/-! ## The stages -/

variable {params : List Param} {m : Massaged}

theorem massage_append_nulls (through : massage query params = .ok m)
    (none : m.hints.nulls = none) (two : TwoWords "nulls" order.word hint) (blank : Blank w) :
    massage (query ++ (hint ++ w)) params =
      .ok { m with hints := { m.hints with nulls := some order } } := by
  obtain ⟨spread, params', expanded, scalars, rfl⟩ := massage_eq_ok_iff.1 through
  have noBracket {w : Text} (blank : Blank w) : ')' ∉ w := blank.not_mem (by decide)
  obtain ⟨gap, white, whole⟩ := query.exists_trimEnd_append
  rw [(stripNullsOrder_of_none none).1] at expanded
  rw [whole, expandAny_append (noBracket white)] at expanded
  obtain ⟨s, rfl, expanded⟩ := expanded
  obtain ⟨text, flag⟩ := stripReturningId_append_blank s blank
  obtain ⟨text', flag'⟩ := stripReturningId_append_blank s white
  refine massage_eq_ok_iff.2 ⟨s ++ w, params', ?_, scalars, ?_⟩
  · rw [stripNullsOrder_at_end none two blank]
    exact (expandAny_append (noBracket blank)).2 ⟨s, rfl, expanded⟩
  · rw [stripNullsOrder_at_end none two blank, text, flag, text', flag']

section

variable (two : TwoWords "returning" "id" hint) (blank : Blank w)

include two blank

theorem ignores_returningId (order : NullsOrder) : order.phrase.Ignores (hint ++ w) :=
  NullsOrder.ignores two isWord_returning blank (by cases order <;> decide)
    (show 'l' ∈ "nulls".toList ++ order.word by cases order <;> decide) (by decide)

theorem noBracket_returningId : ')' ∉ hint ++ w := by
  rw [List.mem_append, not_or]
  have foreign : Unread [')'] ("returning".toList ++ "id".toList) := by decide
  exact ⟨two.not_mem foreign (by decide) List.mem_cons_self, blank.not_mem (by decide)⟩

end

theorem massage_append_returningId (through : massage query params = .ok m)
    (none : m.hints.returningId = false) (two : TwoWords "returning" "id" hint) (blank : Blank w) :
    massage (query ++ (hint ++ w)) params =
      .ok { m with hints := { m.hints with returningId := true } } := by
  obtain ⟨spread, params', expanded, scalars, rfl⟩ := massage_eq_ok_iff.1 through
  obtain ⟨gap, white, whole⟩ := spread.exists_trimEnd_append
  have text : translateQuery spread.trimEnd = translateQuery spread := by
    conv_rhs => rw [whole]
    exact (translateQuery_append_blank _ white).symm
  refine massage_eq_ok_iff.2 ⟨spread ++ (hint ++ w), params', ?_, scalars, ?_⟩
  · rw [stripNullsOrder_append (ignores_returningId two blank)]
    exact (expandAny_append (noBracket_returningId two blank)).2 ⟨spread, rfl, expanded⟩
  · rw [stripNullsOrder_append (ignores_returningId two blank), stripReturningId_at_end two blank,
      text, stripReturningId_of_false none]

/-- A hint that a query does not have can be put at its end, in any case and with any white space,
and nothing shows it but the hints. -/
theorem massage_hint_at_end (through : massage query params = .ok m) :
    (m.hints.nulls = none → ∀ (order : NullsOrder) (hint w : Text),
      TwoWords "nulls" order.word hint → Blank w →
        massage (query ++ (hint ++ w)) params =
          .ok { m with hints := { m.hints with nulls := some order } }) ∧
    (m.hints.returningId = false → ∀ hint w : Text, TwoWords "returning" "id" hint → Blank w →
        massage (query ++ (hint ++ w)) params =
          .ok { m with hints := { m.hints with returningId := true } }) :=
  ⟨fun none _ _ _ two blank => massage_append_nulls through none two blank,
    fun none _ _ two blank => massage_append_returningId through none two blank⟩

/-- Half a hint, an open quotation mark and a sign at the end of a query, and hints with a long s
and with line feeds. -/
theorem massage_hint_at_end_half_hint :
    ∃ m, massage "SELECT %s WHERE a = ANY (%s) RETURNING 'NULLS %\t"
        [.scalar .null, .list [.null]] = .ok m ∧
      m.query = "SELECT ? WHERE a IN ( ? ) RETURNING ' NULLS %" ∧
      massage ("SELECT %s WHERE a = ANY (%s) RETURNING 'NULLS %\t" ++ (" nulls\n LA\u017fT" ++ " "))
          [.scalar .null, .list [.null]] =
        .ok { m with hints := { m.hints with nulls := some .last } } ∧
      massage ("SELECT %s WHERE a = ANY (%s) RETURNING 'NULLS %\t" ++ ("\nRETURNING  Id" ++ "\n"))
          [.scalar .null, .list [.null]] =
        .ok { m with hints := { m.hints with returningId := true } } := by
  obtain ⟨m, through, text⟩ : ∃ m,
      massage "SELECT %s WHERE a = ANY (%s) RETURNING 'NULLS %\t" [.scalar .null, .list [.null]] =
        .ok m ∧
      m.query = "SELECT ? WHERE a IN ( ? ) RETURNING ' NULLS %" :=
    exists_massage_eq_ok (by decide +kernel)
  have hints : (massage "SELECT %s WHERE a = ANY (%s) RETURNING 'NULLS %\t"
      [.scalar .null, .list [.null]]).toOption.map Massaged.hints = some ⟨none, false⟩ := by
    decide +kernel
  rw [through] at hints
  have plain : m.hints = ⟨none, false⟩ := Option.some.inj hints
  have last : TwoWords "nulls" NullsOrder.last.word " nulls\n LA\u017fT" :=
    @TwoWords.intro _ _ [' '] "nulls".toList "\n ".toList "LA\u017fT".toList
      (by decide) (by decide) (by decide) (by decide) (by decide) (by decide)
  have request : TwoWords "returning" "id" "\nRETURNING  Id" :=
    @TwoWords.intro _ _ "\n".toList "RETURNING".toList "  ".toList "Id".toList
      (by decide) (by decide) (by decide) (by decide) (by decide) (by decide)
  obtain ⟨nulls, returning⟩ := massage_hint_at_end through
  exact ⟨m, through, text, nulls (by rw [plain]) .last _ _ last (by decide),
    returning (by rw [plain]) _ _ request (by decide)⟩

end SqlDialect
