import SqlDialect.Proofs.Query.Discretion
import SqlDialect.Proofs.Query.Ending

/-! A query massaged with many rows of parameters.

Every row is massaged by itself. The batch ends at the first row that is refused or gives another
text than the first row; if none does, one text and one set of hints stand for all rows.
-/

set_option autoImplicit false

namespace SqlDialect

/-- The fault with which a row ends a batch, by what the first row of the batch and the row itself
give. -/
inductive EndsBatch (first outcome : Except Mismatch Massaged) : Fault → Prop where
  | refused {mismatch : Mismatch} : outcome = .error mismatch →
      EndsBatch first outcome mismatch.toFault
  | differs {a b : Massaged} : first = .ok a → outcome = .ok b → b.query ≠ a.query →
      EndsBatch first outcome (.translation
        ("parameter rows produce different queries: " ++ a.query.quoted ++ " vs " ++
          b.query.quoted))

variable {query : Text} {a b : Massaged} {row : List Param} {rows : List (List Param)}

theorem forall_not_endsBatch_iff {outcome : Except Mismatch Massaged} :
    (∀ fault, ¬EndsBatch (.ok a) outcome fault) ↔ ∃ b, outcome = .ok b ∧ b.query = a.query := by
  constructor
  · intro goesOn
    cases outcome with
    | error mismatch => exact absurd (.refused rfl) (goesOn mismatch.toFault)
    | ok b =>
      refine ⟨b, rfl, ?_⟩
      by_contra other
      exact goesOn _ (.differs rfl rfl other)
  · rintro ⟨b, rfl, same⟩ fault ends
    cases ends with
    | refused error => cases error
    | differs first here other =>
      cases first
      cases here
      exact other same

theorem massageRows_cons_of_ok (through : massage query row = .ok b) (same : b.query = a.query) :
    massageRows query a (row :: rows) = (massageRows query a rows).map (b.cells :: ·) := by
  rw [massageRows, through]
  simp only [bind, Except.bind, if_pos same]
  cases massageRows query a rows <;> rfl

theorem massageRows_cons_of_ends {fault : Fault}
    (ends : EndsBatch (.ok a) (massage query row) fault) :
    (massageRows query a (row :: rows)).mapError Mismatch.toFault = .error fault := by
  rw [massageRows]
  cases ends with
  | refused error => rw [error]; rfl
  | differs first here other =>
    cases first
    rw [here]
    simp only [bind, Except.bind, if_neg other]
    rfl

theorem massageRows_append_of_ends {before after : List (List Param)} {fault : Fault}
    (goesOn : ∀ r ∈ before, ∀ fault, ¬EndsBatch (.ok a) (massage query r) fault)
    (ends : EndsBatch (.ok a) (massage query row) fault) :
    (massageRows query a (before ++ row :: after)).mapError Mismatch.toFault = .error fault := by
  induction before with
  | nil => exact massageRows_cons_of_ends ends
  | cons r before ih =>
    obtain ⟨here, goesOn⟩ := List.forall_mem_cons.1 goesOn
    obtain ⟨b, through, same⟩ := forall_not_endsBatch_iff.1 here
    have later := ih goesOn
    rw [List.cons_append, massageRows_cons_of_ok through same]
    cases rest : massageRows query a (before ++ row :: after) with
    | error mismatch =>
      rw [rest] at later
      exact later
    | ok cells =>
      rw [rest] at later
      cases later

theorem massageRows_of_goesOn {first : List Param} (begun : massage query first = .ok a)
    (goesOn : ∀ r ∈ rows, ∀ fault, ¬EndsBatch (.ok a) (massage query r) fault) :
    ∃ cells, massageRows query a rows = .ok cells ∧
      List.Forall₂ (fun r values => massage query r = .ok ⟨a.query, values, a.hints⟩)
        rows cells := by
  induction rows with
  | nil => exact ⟨[], rfl, .nil⟩
  | cons row rows ih =>
    obtain ⟨here, goesOn⟩ := List.forall_mem_cons.1 goesOn
    obtain ⟨b, through, same⟩ := forall_not_endsBatch_iff.1 here
    obtain ⟨cells, rest, each⟩ := ih goesOn
    refine ⟨b.cells :: cells, ?_, .cons ?_ each⟩
    · rw [massageRows_cons_of_ok through same, rest]
      rfl
    · rw [through, hints_massage begun through, ← same]

theorem massage_of_massageRows {cells : List (List Cell)}
    (made : massageRows query a rows = .ok cells) :
    ∀ r ∈ rows, ∃ b, massage query r = .ok b ∧ b.query = a.query := by
  induction rows generalizing cells with
  | nil => nofun
  | cons row rows ih =>
    by_cases goesOn : ∀ fault, ¬EndsBatch (.ok a) (massage query row) fault
    · obtain ⟨b, through, same⟩ := forall_not_endsBatch_iff.1 goesOn
      rw [massageRows_cons_of_ok through same] at made
      cases rest : massageRows query a rows with
      | error mismatch =>
        rw [rest] at made
        cases made
      | ok later => exact List.forall_mem_cons.2 ⟨⟨b, through, same⟩, ih rest⟩
    · obtain ⟨fault, ends⟩ := not_forall_not.1 goesOn
      have ended : (massageRows query a (row :: rows)).mapError Mismatch.toFault = .error fault :=
        massageRows_cons_of_ends ends
      rw [made] at ended
      cases ended

theorem massageMany_cons_of_ok (begun : massage query row = .ok a) :
    massageMany query (row :: rows) =
      (massageRows query a (row :: rows)).map fun cells => ⟨a.query, cells, a.hints⟩ := by
  rw [massageRows_cons_of_ok begun rfl, massageMany, begun]
  simp only [bind, Except.bind]
  cases massageRows query a rows <;> rfl

theorem massageMany_cons_of_error {mismatch : Mismatch}
    (refused : massage query row = .error mismatch) :
    massageMany query (row :: rows) = .error mismatch := by
  rw [massageMany, refused]
  rfl

theorem massage_of_massageMany {m : MassagedRows} (made : massageMany query rows = .ok m) :
    ∀ r ∈ rows, ∃ b, massage query r = .ok b ∧ b.query = m.query := by
  cases rows with
  | nil => nofun
  | cons row rows =>
    cases begun : massage query row with
    | error mismatch =>
      rw [massageMany_cons_of_error begun] at made
      cases made
    | ok a =>
      rw [massageMany_cons_of_ok begun] at made
      cases cells : massageRows query a (row :: rows) with
      | error mismatch =>
        rw [cells] at made
        cases made
      | ok values =>
        rw [cells] at made
        cases made
        exact massage_of_massageRows cells

theorem massageMany_of_ends {before after : List (List Param)} {other : List Param} {fault : Fault}
    (split : row :: rows = before ++ other :: after)
    (goesOn : ∀ r ∈ before, ∀ fault, ¬EndsBatch (massage query row) (massage query r) fault)
    (ends : EndsBatch (massage query row) (massage query other) fault) :
    (massageMany query (row :: rows)).mapError Mismatch.toFault = .error fault := by
  cases begun : massage query row with
  | error mismatch =>
    rw [massageMany_cons_of_error begun]
    cases before with
    | nil =>
      obtain ⟨rfl, -⟩ := List.cons.inj split
      cases ends with
      | refused error =>
        rw [begun] at error
        cases error
        rfl
      | differs first =>
        rw [begun] at first
        cases first
    | cons r before =>
      obtain ⟨rfl, -⟩ := List.cons.inj split
      exact absurd (.refused begun) (goesOn row List.mem_cons_self mismatch.toFault)
  | ok a =>
    rw [begun] at goesOn ends
    have ended : (massageRows query a (before ++ other :: after)).mapError Mismatch.toFault =
        .error fault := massageRows_append_of_ends goesOn ends
    rw [← split] at ended
    rw [massageMany_cons_of_ok begun]
    cases made : massageRows query a (row :: rows) with
    | error mismatch =>
      rw [made] at ended
      cases ended
      rfl
    | ok cells =>
      rw [made] at ended
      cases ended

theorem massageMany_of_goesOn
    (goesOn : ∀ r ∈ row :: rows, ∀ fault, ¬EndsBatch (massage query row) (massage query r) fault) :
    ∃ text cells hints, massageMany query (row :: rows) = .ok ⟨text, cells, hints⟩ ∧
      List.Forall₂ (fun r values => massage query r = .ok ⟨text, values, hints⟩)
        (row :: rows) cells := by
  cases begun : massage query row with
  | error mismatch =>
    exact absurd (.refused begun) (goesOn row List.mem_cons_self mismatch.toFault)
  | ok a =>
    rw [begun] at goesOn
    obtain ⟨cells, made, each⟩ := massageRows_of_goesOn begun goesOn
    refine ⟨a.query, cells, a.hints, ?_, each⟩
    rw [massageMany_cons_of_ok begun, made]
    rfl

/-! ## Rows alike, and no rows -/

theorem massage_ne_differentQueries (params : List Param) (first other : Text) :
    massage query params ≠ .error (.differentQueries first other) := by
  cases read : findOtherAny? (stripNullsOrder query).1 with
  | some found =>
    rw [massage_of_findOtherAny? params read]
    nofun
  | none =>
    rw [massage_of_onlyEqualities params (cut_cutTests _) (findOtherAny?_eq_none_iff.1 read)]
    split
    · nofun
    · dsimp only
      split <;> nofun

theorem massageMany_ne_differentQueries
    (sizes : ∀ r ∈ rows, listSizes r = listSizes row) (first other : Text) :
    massageMany query (row :: rows) ≠ .error (.differentQueries first other) := by
  cases begun : massage query row with
  | error mismatch =>
    rw [massageMany_cons_of_error begun]
    rintro ⟨⟩
    exact massage_ne_differentQueries row first other begun
  | ok a =>
    have goesOn : ∀ r ∈ row :: rows, ∀ fault,
        ¬EndsBatch (massage query row) (massage query r) fault := by
      intro r mem
      have alike : SameButValues (massage query row) (massage query r) := by
        rcases List.mem_cons.1 mem with rfl | later
        · exact massage_sameButValues query rfl
        · exact massage_sameButValues query (sizes r later).symm
      rw [begun] at alike ⊢
      cases outcome : massage query r with
      | error mismatch => rw [outcome] at alike; cases alike
      | ok b =>
        rw [outcome] at alike
        cases alike with
        | massaged text hints => exact forall_not_endsBatch_iff.2 ⟨b, rfl, text.symm⟩
    obtain ⟨text, cells, hints, made, -⟩ := massageMany_of_goesOn goesOn
    rw [made]
    nofun

/-- Without rows no test is spread, which is right where there is none. -/
theorem massageMany_nil
    (absent : ∀ test, MembershipTest test → ¬test <:+: (stripNullsOrder query).1)
    (equalities : OnlyEqualities (stripNullsOrder query).1) :
    ∃ massaged, massage query [] = .ok massaged ∧
      massageMany query [] = .ok ⟨massaged.query, [], massaged.hints⟩ := by
  have cut : Cut (stripNullsOrder query).1 (stripNullsOrder query).1 [] :=
    Cut.nil_iff.2 ⟨rfl, fun before test after membership whole =>
      absent test membership ⟨before, after, by rw [whole, List.append_assoc]⟩⟩
  refine ⟨_, massage_of_onlyEqualities [] cut equalities, ?_⟩
  simp [massageMany, spreadTests]

/-- A batch ends with the fault of its first row that is refused or gives another text than the
row at its head, and otherwise has one text, one set of hints and the values of every row in their
order. No two texts differ if the lists of all rows have the same sizes. Without rows, a query
without tests gives the text and the hints that it gives without parameters. -/
theorem massageMany_row_by_row (query : Text) :
    (∀ row rows before other after fault, row :: rows = before ++ other :: after →
      (∀ r ∈ before, ∀ fault, ¬EndsBatch (massage query row) (massage query r) fault) →
      EndsBatch (massage query row) (massage query other) fault →
      (massageMany query (row :: rows)).mapError Mismatch.toFault = .error fault) ∧
    (∀ row rows,
      (∀ r ∈ row :: rows, ∀ fault, ¬EndsBatch (massage query row) (massage query r) fault) →
      ∃ text cells hints, massageMany query (row :: rows) = .ok ⟨text, cells, hints⟩ ∧
        List.Forall₂ (fun r values => massage query r = .ok ⟨text, values, hints⟩)
          (row :: rows) cells) ∧
    (∀ row rows, (∀ r ∈ rows, listSizes r = listSizes row) → ∀ first other,
      massageMany query (row :: rows) ≠ .error (.differentQueries first other)) ∧
    ((∀ test, MembershipTest test → ¬test <:+: (stripNullsOrder query).1) →
      OnlyEqualities (stripNullsOrder query).1 →
      ∃ massaged, massage query [] = .ok massaged ∧
        massageMany query [] = .ok ⟨massaged.query, [], massaged.hints⟩) :=
  ⟨fun _ _ _ _ _ _ split goesOn ends => massageMany_of_ends split goesOn ends,
    fun _ _ goesOn => massageMany_of_goesOn goesOn,
    fun _ _ sizes => massageMany_ne_differentQueries sizes, massageMany_nil⟩

/-- The third row has a longer list than the rows before it, and the fourth none at all; the first
two go together; and a query with a hint has no rows. -/
theorem massageMany_row_by_row_longer_list :
    (massageMany "DELETE FROM t WHERE a = ANY (%s) RETURNING id"
        [[.list [.null]], [.list [.bool true]], [.list [.null, .null]], []]).mapError
          Mismatch.toFault =
      .error (.translation ("parameter rows produce different queries: " ++
        Text.quoted "DELETE FROM t WHERE a IN ( ? )" ++ " vs " ++
        Text.quoted "DELETE FROM t WHERE a IN ( ? , ? )")) ∧
    (∃ text cells hints, massageMany "DELETE FROM t WHERE a = ANY (%s) RETURNING id"
        [[.list [.null]], [.list [.bool true]]] = .ok ⟨text, cells, hints⟩ ∧
      List.Forall₂ (fun r values => massage "DELETE FROM t WHERE a = ANY (%s) RETURNING id" r =
        .ok ⟨text, values, hints⟩) [[.list [.null]], [.list [.bool true]]] cells) ∧
    (∀ first other, massageMany "DELETE FROM t WHERE a = ANY (%s) RETURNING id"
      [[.list [.null]], [.list [.bool true]]] ≠ .error (.differentQueries first other)) ∧
    ∃ massaged, massage "SELECT a FROM t ORDER BY a NULLS LAST" [] = .ok massaged ∧
      massageMany "SELECT a FROM t ORDER BY a NULLS LAST" [] =
        .ok ⟨massaged.query, [], massaged.hints⟩ := by
  obtain ⟨ends, goesOn, alike, -⟩ :=
    massageMany_row_by_row "DELETE FROM t WHERE a = ANY (%s) RETURNING id"
  obtain ⟨a, first, text⟩ : ∃ a, massage "DELETE FROM t WHERE a = ANY (%s) RETURNING id"
      [.list [.null]] = .ok a ∧ a.query = "DELETE FROM t WHERE a IN ( ? )" :=
    exists_massage_eq_ok (by decide +kernel)
  obtain ⟨b, second, text'⟩ : ∃ b, massage "DELETE FROM t WHERE a = ANY (%s) RETURNING id"
      [.list [.bool true]] = .ok b ∧ b.query = "DELETE FROM t WHERE a IN ( ? )" :=
    exists_massage_eq_ok (by decide +kernel)
  obtain ⟨c, third, text''⟩ : ∃ c, massage "DELETE FROM t WHERE a = ANY (%s) RETURNING id"
      [.list [.null, .null]] = .ok c ∧ c.query = "DELETE FROM t WHERE a IN ( ? , ? )" :=
    exists_massage_eq_ok (by decide +kernel)
  have both : ∀ r ∈ [[Param.list [.null]], [.list [.bool true]]], ∀ fault,
      ¬EndsBatch (massage "DELETE FROM t WHERE a = ANY (%s) RETURNING id" [.list [.null]])
        (massage "DELETE FROM t WHERE a = ANY (%s) RETURNING id" r) fault := by
    rw [first]
    refine List.forall_mem_cons.2 ⟨forall_not_endsBatch_iff.2 ⟨a, first, rfl⟩,
      List.forall_mem_singleton.2 (forall_not_endsBatch_iff.2 ⟨b, second, ?_⟩)⟩
    rw [text, text']
  refine ⟨?_, goesOn _ _ both, alike _ _ (List.forall_mem_singleton.2 rfl), ?_⟩
  · refine ends _ _ [[.list [.null]], [.list [.bool true]]] [.list [.null, .null]] [[]] _ rfl both
      ?_
    rw [← text, ← text'']
    refine .differs first third ?_
    rw [text, text'']
    decide
  · have plain :
        findOtherAny? (stripNullsOrder "SELECT a FROM t ORDER BY a NULLS LAST").1 = none := by
      decide +kernel
    refine (massageMany_row_by_row _).2.2.2 ?_ (findOtherAny?_eq_none_iff.1 plain)
    intro test membership inside
    obtain ⟨rest, rfl, -⟩ := membership.exists_cons
    have unsigned : '=' ∉ (stripNullsOrder "SELECT a FROM t ORDER BY a NULLS LAST").1 := by
      decide +kernel
    exact unsigned (inside.subset List.mem_cons_self)

end SqlDialect
