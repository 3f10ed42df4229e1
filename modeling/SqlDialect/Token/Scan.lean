import SqlDialect.Text.Blank
import SqlDialect.Token.Basic

/-! Cutting SQL text into tokens.

This is lexical only: a parenthesis is a token like any other. White space separates tokens
and is no part of them.
-/

set_option autoImplicit false

namespace SqlDialect

def isNameChar (c : Char) : Bool := c.isAlphanum || c == '_'

def isComparison (first second : Char) : Bool :=
  (first == '!' && second == '=') || (first == '<' && second == '>') ||
    (first == '<' && second == '=') || (first == '>' && second == '=')

-- What follows an opening single quotation mark, up to and with the mark that closes it, and the
-- text after that. A doubled mark stands for one inside and closes nothing.
def closeLiteral? : Text → Option (Text × Text)
  | [] => none
  | '\'' :: '\'' :: r => (closeLiteral? r).map fun (body, rest) => ('\'' :: '\'' :: body, rest)
  | c :: r =>
    if c = '\'' then some (['\''], r)
    else (closeLiteral? r).map fun (body, rest) => (c :: body, rest)

def closeName? : Text → Option (Text × Text)
  | [] => none
  | c :: r =>
    if c = '"' then some (['"'], r)
    else (closeName? r).map fun (body, rest) => (c :: body, rest)

-- The token that begins with the character `c`, and the text after it. A quotation mark that
-- nothing closes is a token of its own.
def lexeme (c : Char) (r : Text) : Text × Text :=
  if c = '$' then (c :: r.takeWhile Char.isDigit, r.dropWhile Char.isDigit)
  else if c = '\'' then
    match closeLiteral? r with
    | some (body, rest) => (c :: body, rest)
    | none => ([c], r)
  else if c = '"' then
    match closeName? r with
    | some (body, rest) => (c :: body, rest)
    | none => ([c], r)
  else if isNameChar c then (c :: r.takeWhile isNameChar, r.dropWhile isNameChar)
  else
    match r with
    | [] => ([c], [])
    | d :: rest => if isComparison c d then ([c, d], rest) else ([c], r)

theorem closeLiteral?_append {s body rest : Text} (h : closeLiteral? s = some (body, rest)) :
    body ++ rest = s := by
  fun_induction closeLiteral? s generalizing body rest with
  | case1 => simp at h
  | case2 r ih =>
    obtain ⟨⟨b, t⟩, hr, he⟩ := Option.map_eq_some_iff.1 h
    simp only [Prod.mk.injEq] at he
    obtain ⟨rfl, rfl⟩ := he
    simp [ih hr]
  | case3 r =>
    simp only [Option.some.injEq, Prod.mk.injEq] at h
    obtain ⟨rfl, rfl⟩ := h
    rfl
  | case4 c r _ _ ih =>
    obtain ⟨⟨b, t⟩, hr, he⟩ := Option.map_eq_some_iff.1 h
    simp only [Prod.mk.injEq] at he
    obtain ⟨rfl, rfl⟩ := he
    simp [ih hr]

theorem closeName?_append {s body rest : Text} (h : closeName? s = some (body, rest)) :
    body ++ rest = s := by
  fun_induction closeName? s generalizing body rest with
  | case1 => simp at h
  | case2 r =>
    simp only [Option.some.injEq, Prod.mk.injEq] at h
    obtain ⟨rfl, rfl⟩ := h
    rfl
  | case3 c r _ ih =>
    obtain ⟨⟨b, t⟩, hr, he⟩ := Option.map_eq_some_iff.1 h
    simp only [Prod.mk.injEq] at he
    obtain ⟨rfl, rfl⟩ := he
    simp [ih hr]

theorem lexeme_append (c : Char) (r : Text) : (lexeme c r).1 ++ (lexeme c r).2 = c :: r := by
  unfold lexeme
  split
  · simp
  split
  · split
    · rename_i h
      simp [closeLiteral?_append h]
    · simp
  split
  · split
    · rename_i h
      simp [closeName?_append h]
    · simp
  split
  · simp
  split
  · simp
  · split <;> simp

theorem length_lexeme_lt (c : Char) (r : Text) : (lexeme c r).2.length < (c :: r).length := by
  have h := congrArg List.length (lexeme_append c r)
  have h₁ : (lexeme c r).1 ≠ [] := by
    unfold lexeme
    split
    · simp
    split
    · split <;> simp
    split
    · split <;> simp
    split
    · simp
    split
    · simp
    · split <;> simp
  have h₂ := List.length_pos_iff.2 h₁
  simp only [List.length_append] at h
  omega

def tokenize (s : Text) : List Token :=
  match _h : s.dropBlank with
  | [] => []
  | c :: r => ⟨(lexeme c r).1⟩ :: tokenize (lexeme c r).2
termination_by s.length
decreasing_by
  have h₁ := s.length_dropBlank_le
  have h₂ := length_lexeme_lt c r
  rw [_h] at h₁
  omega

end SqlDialect
