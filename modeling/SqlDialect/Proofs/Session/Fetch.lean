import SqlDialect.Session.Cursor
import SqlDialect.Session.Embedded

/-! Reading rows through a cursor.

A fetch only ever takes rows off the front of those that are unread, and a statement puts its own
rows in the place of whatever was unread. So what is handed out after a statement is what it was
answered with, from the first row on.
-/

set_option autoImplicit false

namespace SqlDialect.Cursor

def unread (c : Cursor) : List (List Cell) := c.rows.drop c.position

inductive Fetch where
  | one
  | all
  deriving DecidableEq

def fetch (c : Cursor) : Fetch → List (List Cell) × Cursor
  | .one => (c.fetchOne.1.toList, c.fetchOne.2)
  | .all => c.fetchAll

inductive Request where
  | execute (query : Text) (params : List Param)
  | executeMany (query : Text) (rows : List (List Param))
  | fetch (f : Fetch)

variable {σ : Type}

/-- The rows that are handed out for a request, and the cursor and the database after it. -/
def serve (backend : Backend σ) (c : Cursor) (s : σ) :
    Request → List (List Cell) × Cursor × σ
  | .execute query params => ([], (Cursor.execute backend query params s).2)
  | .executeMany query rows => ([], (Cursor.executeMany backend query rows s).2)
  | .fetch f => ((c.fetch f).1, (c.fetch f).2, s)

/-- All rows that are handed out for requests one after another. -/
def serveEach (backend : Backend σ) (c : Cursor) (s : σ) :
    List Request → List (List Cell) × Cursor × σ
  | [] => ([], c, s)
  | request :: requests =>
    let (rows, c, s) := serve backend c s request
    let (later, c, s) := serveEach backend c s requests
    (rows ++ later, c, s)

theorem serveEach_append (backend : Backend σ) (c : Cursor) (s : σ) (earlier later : List Request) :
    serveEach backend c s (earlier ++ later) =
      let (rows, c, s) := serveEach backend c s earlier
      let (more, c, s) := serveEach backend c s later
      (rows ++ more, c, s) := by
  induction earlier generalizing c s with
  | nil => rfl
  | cons request earlier ih =>
    simp only [List.cons_append, serveEach, ih, List.append_assoc]

/-! ## Fetches -/

/-- What a fetch takes off rows, and what it leaves. -/
def Fetch.split : Fetch → List (List Cell) → List (List Cell) × List (List Cell)
  | .one, rows => (rows.take 1, rows.drop 1)
  | .all, rows => (rows, [])

structure Takes (f : Fetch) (c : Cursor) : Prop where
  handed : (c.fetch f).1 = (f.split c.unread).1
  left : (c.fetch f).2.unread = (f.split c.unread).2
  result : (c.fetch f).2.result = c.result
  rowCount : (c.fetch f).2.rowCount = c.rowCount

theorem takes_fetch (f : Fetch) (c : Cursor) : Takes f c := by
  cases f with
  | one =>
    cases next : c.rows[c.position]? with
    | none =>
      -- behind the last row there is nothing to take, and the cursor stays where it is
      have done : c.fetch .one = ([], c) := by simp only [fetch, fetchOne, next, Option.toList_none]
      have none : c.unread = [] := List.drop_eq_nil_of_le (List.getElem?_eq_none_iff.1 next)
      constructor <;> simp [done, none, Fetch.split]
    | some row =>
      have taken : c.fetch .one = ([row], ⟨c.result, c.position + 1, c.rowCount⟩) := by
        simp only [fetch, fetchOne, next, Option.toList_some]
      obtain ⟨within, rfl⟩ := List.getElem?_eq_some_iff.1 next
      have first : c.unread = c.rows[c.position] :: c.rows.drop (c.position + 1) :=
        List.drop_eq_getElem_cons within
      refine ⟨?_, ?_, ?_, ?_⟩ <;> rw [taken]
      · rw [first]
        rfl
      · rw [first]
        rfl
  | all => exact ⟨rfl, List.drop_eq_nil_of_le (Nat.le_max_right _ _), rfl, rfl⟩

/-- Fetches take rows off the front, all of them if one of the fetches asks for all. -/
theorem serveEach_fetches (backend : Backend σ) (c : Cursor) (s : σ) (fetches : List Fetch) :
    let served := serveEach backend c s (fetches.map .fetch)
    served.1 = (if .all ∈ fetches then c.unread else c.unread.take fetches.length) ∧
      served.2.1.unread = (if .all ∈ fetches then [] else c.unread.drop fetches.length) ∧
      served.2.1.result = c.result ∧ served.2.1.rowCount = c.rowCount := by
  induction fetches generalizing c with
  | nil => exact ⟨rfl, rfl, rfl, rfl⟩
  | cons f fetches ih =>
    obtain ⟨handed, left, result, rowCount⟩ := takes_fetch f c
    obtain ⟨later, rest, sameResult, sameCount⟩ := ih (c.fetch f).2
    simp only [List.map_cons, serveEach, serve]
    refine ⟨?_, ?_, sameResult.trans result, sameCount.trans rowCount⟩
    · rw [later, left, handed]
      cases f with
      | one =>
        by_cases all : .all ∈ fetches
        · rw [if_pos all, if_pos (List.mem_cons_of_mem _ all)]
          exact List.take_append_drop 1 _
        · simp [all, Fetch.split, Nat.add_comm fetches.length 1, List.take_add]
      | all => simp [Fetch.split]
    · rw [rest, left]
      cases f with
      | one => simp [Fetch.split, Nat.add_comm fetches.length 1]
      | all => simp [Fetch.split]

/-! ## Statements -/

inductive Leaves (backend : Backend σ) (s : σ) :
    Request → List (List Cell) → List Column → Option Nat → Prop where
  | answered {query : Text} {params : List Param} {result : ResultSet} {after : σ} :
      (backend.run query params).outcome s = (.ok result, after) →
      Leaves backend s (.execute query params) result.rows result.columns
        (some (result.affected.getD result.rowCount))
  | refused {query : Text} {params : List Param} {failure : Failure} {after : σ} :
      (backend.run query params).outcome s = (.error failure, after) →
      Leaves backend s (.execute query params) [] [] none
  | counted {query : Text} {rows : List (List Param)} {count : Nat} {after : σ} :
      (backend.runMany query rows).outcome s = (.ok count, after) →
      Leaves backend s (.executeMany query rows) [] [] (some count)
  | refusedMany {query : Text} {rows : List (List Param)} {failure : Failure} {after : σ} :
      (backend.runMany query rows).outcome s = (.error failure, after) →
      Leaves backend s (.executeMany query rows) [] [] none

theorem Leaves.serve {backend : Backend σ} {s : σ} {statement : Request}
    {rows : List (List Cell)} {columns : List Column} {count : Option Nat}
    (leaves : Leaves backend s statement rows columns count) (c : Cursor) :
    let served := Cursor.serve backend c s statement
    served.1 = [] ∧ served.2.1.unread = rows ∧ served.2.1.columns = columns ∧
      served.2.1.rowCount = count := by
  cases leaves with
  | @answered query params result after ran =>
    have served : Cursor.serve backend c s (.execute query params) =
        ([], ofResult result, after) := by
      simp only [Cursor.serve, Cursor.execute, ran]
    rw [served]
    exact ⟨rfl, rfl, rfl, rfl⟩
  | @refused query params failure after ran =>
    have served : Cursor.serve backend c s (.execute query params) = ([], empty, after) := by
      simp only [Cursor.serve, Cursor.execute, ran]
    rw [served]
    exact ⟨rfl, rfl, rfl, rfl⟩
  | @counted query rows count after ran =>
    have served : Cursor.serve backend c s (.executeMany query rows) =
        ([], { empty with rowCount := some count }, after) := by
      simp only [Cursor.serve, Cursor.executeMany, ran]
    rw [served]
    exact ⟨rfl, rfl, rfl, rfl⟩
  | @refusedMany query rows failure after ran =>
    have served : Cursor.serve backend c s (.executeMany query rows) = ([], empty, after) := by
      simp only [Cursor.serve, Cursor.executeMany, ran]
    rw [served]
    exact ⟨rfl, rfl, rfl, rfl⟩

theorem columns_congr {c d : Cursor} (same : c.result = d.result) : c.columns = d.columns := by
  unfold Cursor.columns
  rw [same]

theorem Leaves.serveEach {backend : Backend σ} {s : σ} {statement : Request}
    {rows : List (List Cell)} {columns : List Column} {count : Option Nat}
    (leaves : Leaves backend s statement rows columns count) (c : Cursor) (fetches : List Fetch) :
    let served := Cursor.serveEach backend c s (statement :: fetches.map .fetch)
    served.1 = (if .all ∈ fetches then rows else rows.take fetches.length) ∧
      served.2.1.unread = (if .all ∈ fetches then [] else rows.drop fetches.length) ∧
      served.2.1.columns = columns ∧ served.2.1.rowCount = count := by
  have fresh := leaves.serve c
  rcases served : Cursor.serve backend c s statement with ⟨none, next, after⟩
  rw [served] at fresh
  obtain ⟨rfl, rfl, rfl, rfl⟩ := fresh
  obtain ⟨handed, left, result, rowCount⟩ := serveEach_fetches backend next after fetches
  simp only [Cursor.serveEach, served, List.nil_append]
  exact ⟨handed, left, columns_congr result, rowCount⟩

/-- Whatever was asked of a cursor before, the fetches after a statement hand out the rows that it
left, each once and in order: as many as there are fetches, or all of them. -/
theorem serveEach_statement {backend : Backend σ} {c : Cursor} {s : σ} {before : List Request}
    {statement : Request} {rows : List (List Cell)} {columns : List Column} {count : Option Nat}
    (leaves : Leaves backend (serveEach backend c s before).2.2 statement rows columns count)
    (fetches : List Fetch) :
    let earlier := serveEach backend c s before
    let served := serveEach backend c s (before ++ statement :: fetches.map .fetch)
    (∃ since, served.1 = earlier.1 ++ since ∧ since <+: rows ∧
        since = if .all ∈ fetches then rows else rows.take fetches.length) ∧
      served.2.1.columns = columns ∧ served.2.1.rowCount = count ∧
      (.all ∈ fetches → ∀ later : List Fetch,
        (serveEach backend served.2.1 served.2.2 (later.map .fetch)).1 = []) := by
  obtain ⟨handed, left, sameColumns, sameCount⟩ :=
    leaves.serveEach (serveEach backend c s before).2.1 fetches
  simp only [serveEach_append]
  refine ⟨⟨_, rfl, ?_, handed⟩, sameColumns, sameCount, fun all later => ?_⟩
  · rw [handed]
    split
    · exact List.prefix_rfl
    · exact List.take_prefix _ _
  · rw [if_pos all] at left
    obtain ⟨nothing, -⟩ := serveEach_fetches backend _ _ later
    rw [nothing, left, List.take_nil, ite_self]

/-- A row that has been read is read anew when the statement is run again, and a statement that
fails for a row of parameters leaves nothing to read. -/
theorem serveEach_statement_one :
    let serveEach := serveEach Embedded.backend empty (.ofCatalog .empty)
    let before : List Request := [.execute "SELECT 1" [], .fetch .all]
    let again := serveEach (before ++ .execute "SELECT 1" [] :: [Fetch.one, .all].map .fetch)
    let failed := serveEach (before ++ .executeMany "SELECT 1" [[]] ::
      [Fetch.one, .all].map .fetch)
    (serveEach before).1.length = 1 ∧
      (∃ rows, rows.length = 1 ∧ again.1 = (serveEach before).1 ++ rows) ∧
      failed.1 = (serveEach before).1 ∧ failed.2.1.columns = [] ∧
      failed.2.1.rowCount = none := by
  intro serveEach before again failed
  obtain ⟨read, selected, refused⟩ : (serveEach before).1.length = 1 ∧
      ((Embedded.backend.run "SELECT 1" []).outcome
        (serveEach before).2.2).1.toOption.map (·.rows.length) = some 1 ∧
      ((Embedded.backend.runMany "SELECT 1" [[]]).outcome
        (serveEach before).2.2).1.isOk = false := by
    decide +kernel
  refine ⟨read, ?_, ?_⟩
  · rcases ran : (Embedded.backend.run "SELECT 1" []).outcome
        (serveEach before).2.2 with ⟨failure | result, after⟩ <;> rw [ran] at selected
    · cases selected
    · obtain ⟨⟨since, handed, -, all⟩, -⟩ := serveEach_statement (.answered ran) [.one, .all]
      exact ⟨result.rows, Option.some.inj selected, handed.trans (by rw [all]; rfl)⟩
  · rcases ran : (Embedded.backend.runMany "SELECT 1" [[]]).outcome
        (serveEach before).2.2 with ⟨failure | count, after⟩ <;> rw [ran] at refused
    · obtain ⟨⟨since, handed, -, all⟩, columns, count, -⟩ :=
        serveEach_statement (.refusedMany ran) [.one, .all]
      refine ⟨handed.trans ?_, columns, count⟩
      rw [all]
      exact List.append_nil _
    · cases refused

end SqlDialect.Cursor
