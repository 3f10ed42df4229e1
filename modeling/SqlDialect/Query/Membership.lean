import SqlDialect.Cell.Basic
import SqlDialect.Fault
import SqlDialect.Query.Phrase

/-! Membership in a list that is given as one parameter.

One dialect writes `= ANY (%s)` for it, the other `IN (?, …)` with a placeholder for each
element. Elements and placeholders are spread out together, so the two stay in step.
-/

set_option autoImplicit false

namespace SqlDialect

/-- Why a query and its parameters do not go together. -/
inductive Mismatch where
  /-- Lists can be searched for equal elements only. -/
  | unsupportedComparison (found query : Text)
  /-- A membership test has no list. -/
  | noListLeft (query : Text)
  /-- A list has no membership test. -/
  | listLeft (params : List Param) (query : Text)
  /-- Rows of parameters that should share one query do not. -/
  | differentQueries (first other : Text)

def Mismatch.toFault : Mismatch → Fault
  | unsupportedComparison found query =>
    .translation ("unsupported comparison " ++ found.quoted ++ " in " ++ query.quoted)
  | noListLeft query =>
    .translation ("no container parameter left for '= ANY (%s)' in " ++ query.quoted)
  | listLeft params query =>
    .invalidParameters "container parameter without a matching '= ANY (%s)'"
      (Param.literals params) query
  | differentQueries first other =>
    .translation ("parameter rows produce different queries: " ++ first.quoted ++ " vs " ++
      other.quoted)

def afterAny? (s : Text) : Option Text := do
  let s ← Phrase.word? "any" s.dropBlank
  let s ← Phrase.mark? '(' s.dropBlank
  let s ← Phrase.word? "%s" s.dropBlank
  Phrase.mark? ')' s.dropBlank

def afterEqualsAny? (s : Text) : Option Text := do
  let s ← Phrase.mark? '=' s.dropBlank
  afterAny? s

def isOtherSign (c : Char) : Bool := c == '!' || c == '<' || c == '>'

/-- The text up to the first membership test that follows a character, without the white space
between the two, and the text after the test. -/
def findMembershipFrom? : Text → Option (Text × Text)
  | [] => none
  | c :: r =>
    let found? := if isOtherSign c || isBlank c then none else afterEqualsAny? r
    match found? with
    | some after => some ([c], after)
    | none => (findMembershipFrom? r).map fun (before, after) => (c :: before, after)

def findMembership? (query : Text) : Option (Text × Text) :=
  match afterEqualsAny? query with
  | some after => some ([], after)
  | none => findMembershipFrom? query

def afterOtherAny? : Text → Option Text
  | [] => none
  | c :: r =>
    if isOtherSign c then
      match Text.dropBlank r with
      | '=' :: r => afterAny? r
      | r => afterAny? r
    else none

def findOtherAny? : Text → Option Text
  | [] => none
  | c :: r =>
    match afterOtherAny? (c :: r) with
    | some after => some ((c :: r).take ((c :: r).length - after.length))
    | none => findOtherAny? r

def inPlaceholders (count : Nat) : Text :=
  " IN (" ++ List.intercalate [',', ' '] (List.replicate count ['?']) ++ [')']

/-- The parameters before the first list, its elements, and the parameters after it. -/
def splitList? : List Param → Option (List Param × List Cell × List Param)
  | [] => none
  | .list items :: rest => some ([], items, rest)
  | .scalar c :: rest =>
    (splitList? rest).map fun (before, items, after) => (.scalar c :: before, items, after)

theorem countP_splitList? {params before after : List Param} {items : List Cell}
    (h : splitList? params = some (before, items, after)) :
    (before ++ items.map Param.scalar ++ after).countP Param.isList + 1 =
      params.countP Param.isList := by
  have scalars (cells : List Cell) : (cells.map Param.scalar).countP Param.isList = 0 := by
    rw [List.countP_eq_zero]
    simp [Param.isList]
  induction params generalizing before with
  | nil => simp [splitList?] at h
  | cons p rest ih =>
    cases p with
    | list items =>
      simp only [splitList?, Option.some.injEq, Prod.mk.injEq] at h
      obtain ⟨rfl, rfl, rfl⟩ := h
      rw [List.countP_cons_of_pos rfl]
      simp [scalars]
    | scalar c =>
      obtain ⟨⟨b, i, a⟩, hr, he⟩ := Option.map_eq_some_iff.1 h
      simp only [Prod.mk.injEq] at he
      obtain ⟨rfl, rfl, rfl⟩ := he
      have := ih hr
      simpa [Param.isList] using this

/-- Every membership test spread out, each with the first list that is left. -/
def spreadLists (query : Text) (params : List Param) : Except Mismatch (Text × List Param) :=
  match findMembership? query with
  | none => .ok (query, params)
  | some (before, after) =>
    match _h : splitList? params with
    | none => .error (.noListLeft query)
    | some (left, items, right) =>
      spreadLists (before ++ inPlaceholders items.length ++ after)
        (left ++ items.map .scalar ++ right)
termination_by params.countP Param.isList
decreasing_by
  have := countP_splitList? _h
  omega

def expandAny (query : Text) (params : List Param) : Except Mismatch (Text × List Param) :=
  match findOtherAny? query with
  | some found => .error (.unsupportedComparison found query)
  | none => spreadLists query params

end SqlDialect
