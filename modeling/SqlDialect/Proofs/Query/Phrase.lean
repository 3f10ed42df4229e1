import SqlDialect.Proofs.Query.Comparison
import SqlDialect.Query.Hint

/-! What phrases take off a text, and what they leave of it.

A hint is read as white space and words in any case. So no sign goes with it, and the text without
its hints is made of the parts between them.
-/

set_option autoImplicit false

namespace SqlDialect.Phrase

/-- Nothing but white space and letters from among those given, in any case, stands before what is
left of a text. -/
def Passes (letters s r : Text) : Prop :=
  ∃ lead, s = lead ++ r ∧
    ∀ c ∈ lead, isBlank c = true ∨ ∃ small ∈ letters, agreesWith small c = true

variable {letters s r t : Text}

theorem Passes.trans (first : Passes letters s r) (second : Passes letters r t) :
    Passes letters s t := by
  obtain ⟨lead, rfl, own⟩ := first
  obtain ⟨lead', rfl, own'⟩ := second
  exact ⟨lead ++ lead', (List.append_assoc ..).symm, List.forall_mem_append.2 ⟨own, own'⟩⟩

theorem Passes.dropBlank (s : Text) : Passes letters s s.dropBlank :=
  ⟨s.takeBlank, s.takeBlank_append_dropBlank.symm, fun c mem => .inl (Text.blank_takeBlank s c mem)⟩

theorem Passes.exists_append (passes : Passes letters s r) (signs : Text)
    (visible : signs.all (!isBlank ·) = true)
    (foreign : letters.all (fun small => signs.all (!agreesWith small ·)) = true) :
    ∃ lead, s = lead ++ r ∧ ∀ c ∈ signs, c ∉ lead := by
  obtain ⟨lead, whole, own⟩ := passes
  refine ⟨lead, whole, fun c sign mem => ?_⟩
  rcases own c mem with blank | ⟨small, listed, agrees⟩
  · have shown := List.all_eq_true.1 visible c sign
    rw [blank] at shown
    cases shown
  · have other := List.all_eq_true.1 (List.all_eq_true.1 foreign small listed) c sign
    rw [agrees] at other
    cases other

theorem exists_of_blanks? (read : blanks? s = some r) :
    ∃ c t, isBlank c = true ∧ s = c :: t ∧ r = Text.dropBlank t := by
  cases s with
  | nil => cases read
  | cons c s =>
    rw [blanks?] at read
    split at read
    next white => exact ⟨c, s, white, rfl, (Option.some.inj read).symm⟩
    next => cases read

theorem passes_blanks? (read : blanks? s = some r) : Passes letters s r := by
  obtain ⟨c, t, white, rfl, rfl⟩ := exists_of_blanks? read
  exact .trans ⟨[c], rfl, List.forall_mem_singleton.2 (.inl white)⟩ (.dropBlank t)

theorem passes_word? {word : Text} (own : word ⊆ letters) (read : word? word s = some r) :
    Passes letters s r := by
  induction word generalizing s with
  | nil =>
    cases read
    exact ⟨[], rfl, nofun⟩
  | cons small word ih =>
    obtain ⟨own, later⟩ := List.cons_subset.1 own
    obtain ⟨c, t, agrees, next, rfl⟩ := word?_cons_eq_some_iff.1 read
    exact .trans ⟨[c], rfl, List.forall_mem_singleton.2 (.inr ⟨small, own, agrees⟩)⟩
      (ih later next)

def hintLetters : Text := "nullsfirstlastreturningid"

theorem passes_nullsOrder {order : NullsOrder} (read : order.after? s = some r) :
    Passes hintLetters s r := by
  simp only [NullsOrder.after?, Option.bind_eq_bind, Option.bind_eq_some_iff] at read
  obtain ⟨s₁, gap, s₂, nulls, s₃, gap', s₄, word, ends⟩ := read
  have own : order.word ⊆ hintLetters := by cases order <;> decide
  split at ends
  next =>
    cases ends
    exact (passes_blanks? gap).trans <| (passes_word? (by decide) nulls).trans <|
      (passes_blanks? gap').trans (passes_word? own word)
  next => cases ends

theorem passes_returningId (read : afterReturningId? s = some r) : Passes hintLetters s [] := by
  simp only [afterReturningId?, Option.bind_eq_bind, Option.bind_eq_some_iff] at read
  obtain ⟨s₁, gap, s₂, returning, s₃, gap', s₄, id, ends⟩ := read
  split at ends
  next last =>
    refine (passes_blanks? gap).trans <| (passes_word? (by decide) returning).trans <|
      (passes_blanks? gap').trans <| (passes_word? (by decide) id).trans ?_
    exact last ▸ Passes.dropBlank s₄
  next => cases ends

theorem find?_eq_some {p : Phrase} {before : Text} (found : p.find? s = some (before, r)) :
    ∃ rest, s = before ++ rest ∧ p.after? rest = some r := by
  induction s generalizing before with
  | nil => cases found
  | cons c s ih =>
    rw [find?] at found
    split at found
    next read =>
      cases found
      exact ⟨c :: s, rfl, read⟩
    next =>
      obtain ⟨⟨before, r⟩, later, same⟩ := Option.map_eq_some_iff.1 found
      cases same
      obtain ⟨rest, rfl, read⟩ := ih later
      exact ⟨rest, rfl, read⟩

/-! ## What is left -/

theorem erase_cons_of_none {p : Phrase} {c : Char} (missing : p.after? (c :: s) = none) :
    p.erase (c :: s) = c :: p.erase s := by
  rw [erase]
  split
  next found => rw [missing] at found; cases found
  next => rfl

/-- The parts of a text between the occurrences of a phrase, found from left to right. -/
def parts (p : Phrase) (s : Text) : List Text :=
  match s with
  | [] => [[]]
  | c :: s =>
    match _h : p.after? (c :: s) with
    | some r => [] :: p.parts r
    | none => (p.parts s).modifyHead (c :: ·)
termination_by s.length
decreasing_by
  · exact p.shorter _h
  · simp

theorem exists_parts_eq_cons (p : Phrase) (s : Text) :
    ∃ first rest, p.parts s = first :: rest := by
  fun_induction parts p s with
  | case1 => exact ⟨[], [], rfl⟩
  | case2 c s r _ _ => exact ⟨[], p.parts r, rfl⟩
  | case3 c s _ ih =>
    obtain ⟨first, rest, split⟩ := ih
    exact ⟨c :: first, rest, by rw [split, List.modifyHead_cons]⟩

theorem flatten_parts (p : Phrase) (s : Text) : (p.parts s).flatten = p.erase s := by
  fun_induction parts p s with
  | case1 =>
    rw [erase]
    rfl
  | case2 c s r read ih =>
    rw [List.flatten_cons, ih, List.nil_append, erase]
    split
    next read' => rw [Option.some.inj (read.symm.trans read')]
    next missing => rw [missing] at read; cases read
  | case3 c s missing ih =>
    obtain ⟨first, rest, split⟩ := p.exists_parts_eq_cons s
    rw [erase_cons_of_none missing, ← ih, split]
    rfl

end SqlDialect.Phrase
