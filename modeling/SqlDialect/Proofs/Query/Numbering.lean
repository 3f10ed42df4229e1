import Mathlib.Algebra.GroupWithZero.Nat
import SqlDialect.Proofs.Text.Part
import SqlDialect.Proofs.Query.Placeholder

/-! The placeholders of a query in the two styles.

A query is read as the parts between its placeholders. Both styles write the same parts and put a
mark before each but the first; the numbered marks count from one on.
-/

set_option autoImplicit false

namespace SqlDialect

/-- A query read as the part before its first placeholder and the parts that each follow one. -/
inductive Parted : Text → Text → List Text → Prop where
  | nil : Parted [] [] []
  | placeholder {r part : Text} {rest : List Text} :
      Parted r part rest → Parted ('%' :: 's' :: r) [] (part :: rest)
  | sign {r part : Text} {rest : List Text} :
      Parted r part rest → Parted ('%' :: '%' :: r) ('%' :: part) rest
  /-- A percent sign stands for itself if neither of its two companions follows. -/
  | char {c : Char} {r part : Text} {rest : List Text} :
      (c = '%' → ∀ d ∈ r.head?, d ≠ 's' ∧ d ≠ '%') → Parted r part rest →
      Parted (c :: r) (c :: part) rest

/-- Parts with a question mark before each but the first. -/
def questioned (first : Text) (rest : List Text) : Text :=
  first ++ rest.flatMap fun part => '?' :: part

/-- Parts with `$1`, `$2`, … before each but the first. -/
def numbered (first : Text) (rest : List Text) : Text :=
  first ++ (rest.zipIdx 1).flatMap fun (part, i) => '$' :: (Text.ofNat i ++ part)

/-- Parts with a placeholder before each but the first, and each percent sign doubled. -/
def placeheld (first : Text) (rest : List Text) : Text :=
  Text.replaceChar '%' "%%" first ++
    rest.flatMap fun part => '%' :: 's' :: Text.replaceChar '%' "%%" part

/-! ## Reading parts -/

variable {query first : Text} {rest : List Text}

theorem convertFrom_of_parted (style : PlaceholderStyle) (parted : Parted query first rest)
    (n : Nat) :
    convertFrom style n query =
      first ++ (rest.zipIdx n).flatMap fun (part, i) => style.mark i ++ part := by
  induction parted generalizing n with
  | nil => rfl
  | placeholder _ ih => rw [convertFrom, ih, List.zipIdx_cons, List.flatMap_cons]; simp
  | sign _ ih => rw [convertFrom, ih]; rfl
  | char apart _ ih =>
    rw [convertFrom, ih]
    · rfl
    · rintro r rfl rfl
      exact (apart rfl 's' rfl).1 rfl
    · rintro r rfl rfl
      exact (apart rfl '%' rfl).2 rfl

theorem convertPlaceholders_of_parted (parted : Parted query first rest) :
    convertPlaceholders query .question = questioned first rest ∧
      convertPlaceholders query .numbered = numbered first rest := by
  constructor
  · have marks := convertFrom_of_parted .question parted 1
    have parts : rest = (rest.zipIdx 1).map Prod.fst := (List.zipIdx_map_fst 1 rest).symm
    rw [convertPlaceholders, marks, questioned]
    conv_rhs => rw [parts, List.flatMap_map]
    rfl
  · exact convertFrom_of_parted .numbered parted 1

theorem exists_parted (query : Text) : ∃ first rest, Parted query first rest := by
  fun_induction convertFrom .question 1 query with
  | case1 => exact ⟨[], [], .nil⟩
  | case2 n r ih =>
    obtain ⟨part, rest, parted⟩ := ih
    exact ⟨[], part :: rest, .placeholder parted⟩
  | case3 n r ih =>
    obtain ⟨part, rest, parted⟩ := ih
    exact ⟨'%' :: part, rest, .sign parted⟩
  | case4 n c r noPlaceholder noSign ih =>
    obtain ⟨part, rest, parted⟩ := ih
    refine ⟨c :: part, rest, .char ?_ parted⟩
    rintro rfl d first
    obtain ⟨r, rfl⟩ := List.head?_eq_some_iff.1 first
    constructor
    · rintro rfl
      exact noPlaceholder r rfl rfl
    · rintro rfl
      exact noSign r rfl rfl

theorem Parted.length_le (parted : Parted query first rest) : 2 * rest.length ≤ query.length := by
  induction parted with
  | nil => exact Nat.le_refl 0
  | placeholder _ ih | sign _ ih | char _ _ ih =>
    simp only [List.length_cons]
    omega

/-- In a query of fewer than 2 ^ 32 characters, every number fits into 32 bits with a sign. -/
theorem Parted.length_lt (parted : Parted query first rest) (short : query.length < 2 ^ 32) :
    rest.length < 2 ^ 31 := by
  have := parted.length_le
  omega

/-! ## Parts written with placeholders -/

theorem Parted.doubled (parted : Parted query first rest) (lead : Text) :
    Parted (Text.replaceChar '%' "%%" lead ++ query) (lead ++ first) rest := by
  induction lead with
  | nil => exact parted
  | cons c lead ih =>
    rw [Text.replaceChar_cons]
    by_cases sign : c = '%'
    · rw [if_pos sign, sign]
      exact ih.sign
    · rw [if_neg sign]
      exact ih.char fun same => absurd same sign

theorem parted_placeheld (first : Text) (rest : List Text) :
    Parted (placeheld first rest) first rest := by
  induction rest generalizing first with
  | nil => simpa [placeheld] using Parted.nil.doubled first
  | cons part rest ih => simpa [placeheld] using (ih part).placeholder.doubled first

/-- Parts written with placeholders come back in either style, and every query has parts that both
styles write: the same placeholders in the same order, numbered from one on. -/
theorem convertPlaceholders_parts :
    (∀ (first : Text) (rest : List Text),
      convertPlaceholders (placeheld first rest) .question = questioned first rest ∧
      convertPlaceholders (placeheld first rest) .numbered = numbered first rest) ∧
    ∀ query, ∃ first rest, Parted query first rest ∧
      convertPlaceholders query .question = questioned first rest ∧
      convertPlaceholders query .numbered = numbered first rest := by
  refine ⟨fun first rest => convertPlaceholders_of_parted (parted_placeheld first rest), ?_⟩
  intro query
  obtain ⟨first, rest, parted⟩ := exists_parted query
  exact ⟨first, rest, parted, convertPlaceholders_of_parted parted⟩

-- Signs in pairs before a letter, and one that is left over at the end.
example : convertPlaceholders "%%s%%%s=%s%" .numbered = ("%s%$1=$2%" : Text) := by decide

end SqlDialect
