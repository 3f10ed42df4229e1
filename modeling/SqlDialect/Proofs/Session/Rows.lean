import SqlDialect.Proofs.Query.Batch
import SqlDialect.Proofs.Session.Ledger

/-! One statement run for many rows of parameters.

All rows are massaged before anything is asked of the database. After that the rows are run one
after another up to the first that fails, and what has been done stays done in the transaction.
-/

set_option autoImplicit false

namespace SqlDialect.Translating

open Engine (Datum)

variable {σ π γ : Type} {conn : Connection σ π} {v : Contents σ γ} {statement : π} {text : Text}
  {cells : List Cell} {rows : List (List Cell)} {s t : σ}

/-! ## Rows of cells -/

/-- The values of a row are bound, and the statement is executed once for them and counts its
changes. -/
def Executes (conn : Connection σ π) (statement : π) (text : Text) (cells : List Cell) (s : σ)
    (count : Nat) (t : σ) : Prop :=
  ∃ bound, bind text cells = .ok bound ∧ conn.execute statement bound s = (.ok count, t)

/-- A row cannot be bound, or the engine refuses to execute the statement for it. -/
inductive Refuses (conn : Connection σ π) (statement : π) (text : Text) (cells : List Cell)
    (s : σ) : Fault → σ → Prop where
  | unbound {fault : Fault} : bind text cells = .error fault →
      Refuses conn statement text cells s fault s
  | rejected {bound : List Datum} {error : ConnectionError} {t : σ} :
      bind text cells = .ok bound → conn.execute statement bound s = (.error error, t) →
      error.isAfterwards = false →
      Refuses conn statement text cells s (error.toFault text cells) t

/-- A row is refused, or it is executed and answered with rows, which nobody has asked for. -/
inductive Fails (conn : Connection σ π) (statement : π) (text : Text) (cells : List Cell) (s : σ) :
    Fault → σ → Prop where
  | refused {fault : Fault} {t : σ} : Refuses conn statement text cells s fault t →
      Fails conn statement text cells s fault t
  | answered {bound : List Datum} {error : ConnectionError} {t : σ} :
      bind text cells = .ok bound → conn.execute statement bound s = (.error error, t) →
      error.isAfterwards = true →
      Fails conn statement text cells s (error.toFault text cells) t

/-- The statement is executed once for each row, in the order of the rows. -/
inductive Runs (conn : Connection σ π) (statement : π) (text : Text) :
    σ → List (List Cell) → List Nat → σ → Prop where
  | nil (s : σ) : Runs conn statement text s [] [] s
  | cons {s between t : σ} {cells : List Cell} {rows : List (List Cell)} {count : Nat}
      {counts : List Nat} : Executes conn statement text cells s count between →
      Runs conn statement text between rows counts t →
      Runs conn statement text s (cells :: rows) (count :: counts) t

/-- What comes of a text and its rows in an open transaction: it is not even prepared, or all rows
are run, or those before the first that fails. -/
inductive Ran (conn : Connection σ π) (text : Text) (rows : List (List Cell)) (s : σ) :
    Except Failure Nat → σ → Prop where
  | unprepared {error : ConnectionError} {t : σ} : conn.prepare text s = (.error error, t) →
      Ran conn text rows s (.error (.fault (error.toFault text []))) t
  | all {statement : π} {counts : List Nat} {u t : σ} :
      conn.prepare text s = (.ok statement, u) → Runs conn statement text u rows counts t →
      Ran conn text rows s (.ok (counts.foldl (· + ·) 0)) t
  | failed {statement : π} {done left : List (List Cell)} {cells : List Cell} {counts : List Nat}
      {u between t : σ} {fault : Fault} :
      conn.prepare text s = (.ok statement, u) → rows = done ++ cells :: left →
      Runs conn statement text u done counts between →
      Fails conn statement text cells between fault t →
      Ran conn text rows s (.error (.fault fault)) t

/-- What comes of one row. -/
theorem outcome_runRow (conn : Connection σ π) (statement : π) (text : Text) (cells : List Cell)
    (s : σ) :
    (∃ count t, Executes conn statement text cells s count t ∧
      (runRow conn text statement cells).outcome s = (.ok count, t)) ∨
    ∃ fault t, Fails conn statement text cells s fault t ∧
      (runRow conn text statement cells).outcome s = (.error (.fault fault), t) := by
  unfold runRow
  simp only [Step.outcome_bind, Step.outcome_ofExcept, Step.outcome_ofAnswer]
  cases fitted : bind text cells with
  | error fault => exact .inr ⟨fault, s, .refused (.unbound fitted), rfl⟩
  | ok bound =>
    rcases ran : conn.execute statement bound s with ⟨error | count, t⟩ <;>
      simp only [Except.mapError, ask, ran]
    · refine .inr ⟨_, t, ?_, rfl⟩
      cases late : error.isAfterwards with
      | false => exact .refused (.rejected fitted ran late)
      | true => exact .answered fitted ran late
    · exact .inl ⟨count, t, ⟨bound, fitted, ran⟩, rfl⟩

/-- What comes of row after row: all are run, or those before the first that fails. -/
theorem outcome_rows (conn : Connection σ π) (statement : π) (text : Text) (rows : List (List Cell))
    (s : σ) :
    (∃ counts t, Runs conn statement text s rows counts t ∧
      (rows.mapM (runRow conn text statement)).outcome s = (.ok counts, t)) ∨
    ∃ done cells left counts between fault t, rows = done ++ cells :: left ∧
      Runs conn statement text s done counts between ∧
      Fails conn statement text cells between fault t ∧
      (rows.mapM (runRow conn text statement)).outcome s = (.error (.fault fault), t) := by
  -- from any state, since the later rows start from what the first has left
  induction rows generalizing s with
  | nil => exact .inl ⟨[], s, .nil s, rfl⟩
  | cons cells rows ih =>
    simp only [List.mapM_cons, Step.outcome_bind]
    rcases outcome_runRow conn statement text cells s with
      ⟨count, between, here, ran⟩ | ⟨fault, t, here, ran⟩
    · simp only [ran]
      rcases ih between with ⟨counts, t, later, ran⟩ |
        ⟨done, cells', left, counts, last, fault, t, split, later, fails, ran⟩
      · exact .inl ⟨_, t, .cons here later, by rw [ran]; rfl⟩
      · refine .inr ⟨cells :: done, cells', left, _, last, fault, t, ?_, .cons here later,
          fails, by rw [ran]⟩
        rw [split, List.cons_append]
    · exact .inr ⟨[], cells, rows, [], s, fault, t, rfl, .nil s, here, by rw [ran]⟩

theorem ran_runMassagedRows (m : MassagedRows) (s : σ) :
    Ran conn m.query m.rows s ((runMassagedRows conn m).outcome s).1
      ((runMassagedRows conn m).outcome s).2 := by
  unfold runMassagedRows
  simp only [Step.outcome_bind, Step.outcome_ofAnswer, ask]
  rcases read : conn.prepare m.query s with ⟨error | statement, u⟩
  · exact .unprepared read
  · simp only [Prod.map, Except.mapError]
    rcases outcome_rows conn statement m.query m.rows u with
      ⟨counts, t, runs, ran⟩ |
      ⟨done, cells, left, counts, between, fault, t, split, runs, fails, ran⟩
    · simp only [id, ran]
      exact .all read runs
    · simp only [id, ran]
      exact .failed read split runs fails

/-! ## Rows of parameters -/

section

variable {query : Text} {paramRows : List (List Param)}

/-- Rows of parameters that cannot be run together: one is refused in massaging, or two give
different texts. -/
inductive Disagree (query : Text) (paramRows : List (List Param)) : Prop where
  | refused {row : List Param} {mismatch : Mismatch} : row ∈ paramRows →
      massage query row = .error mismatch → Disagree query paramRows
  | differs {row other : List Param} {a b : Massaged} : row ∈ paramRows → other ∈ paramRows →
      massage query row = .ok a → massage query other = .ok b → b.query ≠ a.query →
      Disagree query paramRows

theorem not_disagree_of_text {text : Text}
    (each : ∀ row ∈ paramRows, ∃ m, massage query row = .ok m ∧ m.query = text) :
    ¬Disagree query paramRows := by
  rintro (⟨mem, error⟩ | ⟨mem, mem', here, there, apart⟩)
  · obtain ⟨m, through, -⟩ := each _ mem
    rw [through] at error
    cases error
  · obtain ⟨m, through, same⟩ := each _ mem
    obtain ⟨m', through', same'⟩ := each _ mem'
    rw [through] at here
    rw [through'] at there
    cases here
    cases there
    exact apart (same'.trans same.symm)

theorem massageMany_of_disagree (disagree : Disagree query paramRows) :
    ∃ mismatch, massageMany query paramRows = .error mismatch := by
  cases made : massageMany query paramRows with
  | error mismatch => exact ⟨mismatch, rfl⟩
  | ok m => exact absurd disagree (not_disagree_of_text (massage_of_massageMany made))

theorem massageMany_of_not_disagree (agree : ¬Disagree query paramRows) :
    ∃ m, massageMany query paramRows = .ok m ∧
      List.Forall₂ (fun row values => massage query row = .ok ⟨m.query, values, m.hints⟩)
        paramRows m.rows := by
  cases paramRows with
  | nil => exact ⟨_, rfl, .nil⟩
  | cons row rest =>
    have goesOn : ∀ other ∈ row :: rest, ∀ fault,
        ¬EndsBatch (massage query row) (massage query other) fault := by
      intro other mem fault ends
      cases ends with
      | refused error => exact agree (.refused mem error)
      | differs here there apart =>
        exact agree (.differs List.mem_cons_self mem here there apart)
    obtain ⟨text, values, hints, made, each⟩ := massageMany_of_goesOn goesOn
    exact ⟨_, made, each⟩

theorem open_after_rows (laws : conn.Transactional v) {m : MassagedRows} {u : σ}
    (made : massageMany query paramRows = .ok m) (begins : beginIfNeeded conn s = (.ok (), u))
    (plain : (Call.runMany query paramRows).Uncontrolled conn v s) :
    conn.isAutocommit ((runMany conn query paramRows).outcome s).2 = false := by
  -- whether a request was control over the transaction is read off the notes
  have noted := (Call.runMany query paramRows).state_perform_traced conn s
  change ((runMany conn.traced query paramRows).outcome (s, [])).2 =
    (((runMany conn query paramRows).outcome s).2, _) at noted
  rw [outcome_runMany_of_ok made, Step.outcome_bind, Step.outcome_ofAnswer] at noted
  have keeps := keeps_tallies laws (.ofState v s) m.query
  have started := ensures_begin keeps (s, []) fun _ => ⟨.nil, rfl⟩
  rw [Step.outcome_ofAnswer] at started
  have same := beginIfNeeded_traced conn (s, [])
  rcases ran : beginIfNeeded conn.traced (s, []) with ⟨fault | _, x⟩ <;>
    rw [ran] at started noted same <;> rw [begins] at same <;> cases same
  have reached := (ensures_runMassagedRows keeps).reaches (fun _ => id) started
  simp only [Except.mapError] at noted
  rw [noted] at reached
  exact (reached (plain.resolve_left (by simp))).1

/-- Rows that cannot be run together are refused, and nothing is asked of the connection for them.
Other rows are run in a transaction, each by the same text, up to the first that fails, and if none
does the changes of all rows are counted together. The transaction stays open, however the rows
fare, unless the statement is control over it. A row that the engine refuses has no effect, if the
engine takes back what it has done for a row that it refuses. -/
theorem outcome_runMany (laws : conn.Transactional v) (query : Text)
    (paramRows : List (List Param)) (s : σ) :
    (Disagree query paramRows → ∃ mismatch, massageMany query paramRows = .error mismatch ∧
      (runMany conn query paramRows).outcome s = (.error (.fault mismatch.toFault), s) ∧
      (Call.runMany query paramRows).events conn s = []) ∧
    (¬Disagree query paramRows → ∃ m, massageMany query paramRows = .ok m ∧
      List.Forall₂ (fun row values => massage query row = .ok ⟨m.query, values, m.hints⟩)
        paramRows m.rows ∧
      ((∃ fault t, beginIfNeeded conn s = (.error fault, t) ∧ conn.Unmoved v s t ∧
        (runMany conn query paramRows).outcome s = (.error (.fault fault), t)) ∨
      ∃ u, beginIfNeeded conn s = (.ok (), u) ∧ v.content u = v.content s ∧
        Ran conn m.query m.rows u ((runMany conn query paramRows).outcome s).1
          ((runMany conn query paramRows).outcome s).2 ∧
        ((Call.runMany query paramRows).Uncontrolled conn v s →
          conn.isAutocommit ((runMany conn query paramRows).outcome s).2 = false))) ∧
    ∀ statement text cells u fault w, Refuses conn statement text cells u fault w →
      conn.Atomic v statement u → v.content w = v.content u := by
  refine ⟨fun disagree => ?_, fun agree => ?_, ?_⟩
  · obtain ⟨mismatch, made⟩ := massageMany_of_disagree disagree
    refine ⟨mismatch, made, outcome_runMany_of_error made conn s, ?_⟩
    rw [Call.events, Call.perform, outcome_runMany_of_error made]
    rfl
  · obtain ⟨m, made, each⟩ := massageMany_of_not_disagree agree
    refine ⟨m, made, each, ?_⟩
    rcases begins : beginIfNeeded conn s with ⟨fault | _, u⟩
    · refine .inl ⟨fault, u, rfl, unmoved_of_not_begun laws begins, ?_⟩
      rw [outcome_runMany_of_ok made, Step.outcome_bind, Step.outcome_ofAnswer, begins]
      rfl
    · refine .inr ⟨u, rfl, (begun laws begins).2.2, ?_, open_after_rows laws made begins⟩
      rw [outcome_runMany_of_ok made, Step.outcome_bind, Step.outcome_ofAnswer, begins]
      exact ran_runMassagedRows m u
  · rintro statement text cells u fault w (unbound | ⟨fitted, ran, refused⟩) atomic
    · rfl
    · exact atomic _ _ _ ran refused

end

/-! ## Rows of names -/

section

open Engine (Database)

def named : Database :=
  (execute Database.connection "CREATE TABLE t (name TEXT UNIQUE)" (.ofCatalog .empty)).2

/-- A list is missing for the second row; the second row has the name of the first; and a value is
missing for a placeholder. -/
theorem outcome_runMany_repeated_name :
    (Call.runMany "DELETE FROM t WHERE name = ANY (%s)" [[.list []], []]).events
        Database.connection named = [] ∧
      Database.connection.isAutocommit
        ((runMany Database.connection "INSERT INTO t VALUES (%s)"
          [[.scalar (.text "a")], [.scalar (.text "a")]]).outcome named).2 = false ∧
      ∃ fault w, Refuses Database.connection ⟨"INSERT INTO t VALUES ( ? )", [], 1⟩
          "INSERT INTO t VALUES ( ? )" [] named fault w ∧
        Database.contents.content w = Database.contents.content named := by
  have laws := Database.transactional
  refine ⟨?_, ?_, ?_⟩
  · have missing : (massage "DELETE FROM t WHERE name = ANY (%s)" []).isOk = false := by
      decide +kernel
    have disagree : Disagree "DELETE FROM t WHERE name = ANY (%s)" [[.list []], []] := by
      cases refused : massage "DELETE FROM t WHERE name = ANY (%s)" [] with
      | error mismatch => exact .refused (List.mem_cons_of_mem _ List.mem_cons_self) refused
      | ok m =>
        rw [refused] at missing
        cases missing
    obtain ⟨-, -, -, silent⟩ := (outcome_runMany laws _ _ named).1 disagree
    exact silent
  · have one : ∃ m, massage "INSERT INTO t VALUES (%s)" [.scalar (.text "a")] = .ok m ∧
        m.query = "INSERT INTO t VALUES ( ? )" :=
      exists_massage_eq_ok (by decide +kernel)
    have each : ∀ row ∈ [[Param.scalar (.text "a")], [.scalar (.text "a")]],
        ∃ m, massage "INSERT INTO t VALUES (%s)" row = .ok m ∧
          m.query = "INSERT INTO t VALUES ( ? )" := by
      rw [List.forall_mem_cons, List.forall_mem_singleton]
      exact ⟨one, one⟩
    have texts : ∀ text ∈ (Call.runMany "INSERT INTO t VALUES (%s)"
        [[.scalar (.text "a")], [.scalar (.text "a")]]).texts,
        ';' ∉ text ∧ Engine.endsTransaction text = false := by
      decide +kernel
    have plain := Call.uncontrolled_of_texts laws named fun text mem =>
      Database.uncontrolled (texts text mem).1 (texts text mem).2
    obtain ⟨m, -, -, ⟨fault, t, begins, -⟩ | ⟨u, -, -, -, stays⟩⟩ :=
      (outcome_runMany laws _ _ named).2.1 (not_disagree_of_text each)
    · rw [beginIfNeeded_of_within (by decide +kernel)] at begins
      cases begins
    · exact stays plain
  · have refused : Refuses Database.connection ⟨"INSERT INTO t VALUES ( ? )", [], 1⟩
        "INSERT INTO t VALUES ( ? )" [] named _ named :=
      .rejected rfl rfl rfl
    refine ⟨_, _, refused, ?_⟩
    exact (outcome_runMany laws [] [] named).2.2 _ _ _ _ _ _ refused (Database.atomic _ _)

/-- The second run of a statement that ends the transaction fails, and none is open; without rows
a statement that cannot be prepared still fails; and a row that is answered fails, but it has been
inserted. -/
theorem outcome_runMany_done_and_failed :
    ((massageMany "END" [[], []]).isOk = true ∧
      ((runMany Database.connection "END" [[], []]).outcome named).1 =
        .error (.fault (.invalidQuery "cannot commit - no transaction is active" "END")) ∧
      ((runMany Database.connection "END" [[], []]).outcome named).2.inTransaction = false) ∧
    ((massageMany "INSERT INTO missing VALUES (%s)" []).isOk = true ∧
      ((runMany Database.connection "INSERT INTO missing VALUES (%s)" []).outcome named).1 =
        .error (.fault (.invalidQuery "no such table: missing"
          "INSERT INTO missing VALUES ( ? )"))) ∧
    (massageMany "INSERT INTO t VALUES (%s) RETURNING name" [[.scalar (.text "a")]]).isOk = true ∧
      ((runMany Database.connection "INSERT INTO t VALUES (%s) RETURNING name"
          [[.scalar (.text "a")]]).outcome named).1 =
        .error (.fault (.database
          "Execute returned results - did you mean to call query?")) ∧
      named.catalog.tables.map (·.rows.length) = [0] ∧
      ((runMany Database.connection "INSERT INTO t VALUES (%s) RETURNING name"
          [[.scalar (.text "a")]]).outcome named).2.catalog.tables.map (·.rows.length) = [1] := by
  decide +kernel

end

end SqlDialect.Translating
