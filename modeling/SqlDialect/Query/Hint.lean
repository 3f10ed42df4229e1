import SqlDialect.Query.Phrase

/-! Hints that a query carries for the database and that are taken out of its text: where
missing values are sorted, and that the number of the new row is wanted. -/

set_option autoImplicit false

namespace SqlDialect

inductive NullsOrder where
  | first
  | last
  deriving DecidableEq

namespace NullsOrder

def word : NullsOrder → Text
  | first => "first"
  | last => "last"

def after? (order : NullsOrder) (s : Text) : Option Text := do
  let s ← Phrase.blanks? s
  let s ← Phrase.word? "nulls" s
  let s ← Phrase.blanks? s
  let s ← Phrase.word? order.word s
  if Phrase.wordEnds s then some s else none

theorem length_after?_lt {order : NullsOrder} {s r : Text} (h : order.after? s = some r) :
    r.length < s.length := by
  simp only [after?, Option.bind_eq_bind, Option.bind_eq_some_iff] at h
  obtain ⟨s₁, h₁, s₂, h₂, s₃, h₃, s₄, h₄, h₅⟩ := h
  split at h₅
  · cases h₅
    have := Phrase.length_blanks?_lt h₁
    have := Phrase.length_word?_le h₂
    have := Phrase.length_blanks?_lt h₃
    have := Phrase.length_word?_le h₄
    omega
  · cases h₅

def phrase (order : NullsOrder) : Phrase := ⟨order.after?, length_after?_lt⟩

end NullsOrder

-- A query without its hints on missing values, and which it gave. Where it gives both, those that
-- ask for the end stay.
def stripNullsOrder (query : Text) : Text × Option NullsOrder :=
  if NullsOrder.first.phrase.occurs query then (NullsOrder.first.phrase.erase query, some .first)
  else if NullsOrder.last.phrase.occurs query then (NullsOrder.last.phrase.erase query, some .last)
  else (query, none)

def afterReturningId? (s : Text) : Option Text := do
  let s ← Phrase.blanks? s
  let s ← Phrase.word? "returning" s
  let s ← Phrase.blanks? s
  let s ← Phrase.word? "id" s
  if s.dropBlank = [] then some [] else none

theorem length_afterReturningId?_lt {s r : Text} (h : afterReturningId? s = some r) :
    r.length < s.length := by
  simp only [afterReturningId?, Option.bind_eq_bind, Option.bind_eq_some_iff] at h
  obtain ⟨s₁, h₁, s₂, _, s₃, _, s₄, _, h₅⟩ := h
  split at h₅
  · cases h₅
    have := Phrase.length_blanks?_lt h₁
    simp only [List.length_nil]
    omega
  · cases h₅

def returningId : Phrase := ⟨afterReturningId?, length_afterReturningId?_lt⟩

def stripReturningId (query : Text) : Text × Bool :=
  match returningId.find? query with
  | some (before, _) => (before, true)
  | none => (query, false)

end SqlDialect
