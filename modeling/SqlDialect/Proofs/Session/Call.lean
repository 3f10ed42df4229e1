import SqlDialect.Proofs.Session.Connection

/-! What a session is asked to do, and properties that all of it keeps.

A transaction is begun before anything is prepared, so there are two properties: one of the states
between calls, and one of the states within a transaction, that what is sent for a text keeps.
-/

set_option autoImplicit false

namespace SqlDialect

open Step (Ensures)

variable {σ π α : Type}

namespace Connection

/-- Two properties, the second one for transactions, and what is asked for a text keeps them. -/
structure Keeps (conn : Connection σ π) (steady within : σ → Prop) (text : Text) : Prop where
  weaker {s : σ} : within s → steady s
  enters {s : σ} : steady s → conn.isAutocommit s = false → within s
  begins {s t : σ} : steady s → conn.isAutocommit s = true → conn.batch "BEGIN" s = (.ok (), t) →
    within t
  refuses {s t : σ} {error : ConnectionError} : steady s → conn.isAutocommit s = true →
    conn.batch "BEGIN" s = (.error error, t) → steady t
  prepares {s : σ} : within s → within (conn.prepare text s).2
  does {s t : σ} : within s → conn.Does text s t → within t
  tells {s : σ} : within s → within (conn.lastInsertRowid s).2

end Connection

namespace Translating

variable {conn : Connection σ π} {steady within : σ → Prop} {text : Text}

/-! ## Statements -/

theorem ensures_ask {before after : σ → Prop} {query : Text} {cells : List Cell}
    {answer : σ → Except ConnectionError α × σ} (leads : ∀ s, before s → after (answer s).2) :
    Ensures before (.ofAnswer (ask query cells answer)) after after := by
  intro s start
  have reached := leads s start
  rw [Step.outcome_ofAnswer, snd_ask]
  cases (ask query cells answer s).1 <;> exact reached

theorem exists_of_asked {query : Text} {cells : List Cell} {a : α}
    {answer : σ → Except ConnectionError α × σ}
    (ran : ∃ s t, (Step.ofAnswer (ask query cells answer)).outcome s = (.ok a, t)) :
    ∃ s t, answer s = (.ok a, t) := by
  obtain ⟨s, t, ran⟩ := ran
  exact ⟨s, t, ask_eq_ok.1 (Step.outcome_ofAnswer_eq_ok.1 ran)⟩

theorem ensures_begin (keeps : conn.Keeps steady within text) :
    Ensures steady (.ofAnswer (beginIfNeeded conn)) within steady := by
  intro s start
  rw [Step.outcome_ofAnswer]
  cases open' : conn.isAutocommit s with
  | false =>
    rw [beginIfNeeded_of_within open']
    exact keeps.enters start open'
  | true =>
    rw [beginIfNeeded, if_pos open', ask]
    rcases ran : conn.batch "BEGIN" s with ⟨error | _, t⟩
    · exact keeps.refuses start open' ran
    · exact keeps.begins start open' ran

theorem ensures_runMassaged {m : Massaged} (keeps : conn.Keeps steady within m.query) :
    Ensures within (runMassaged conn m) within within := by
  refine (Step.ensures_ofExcept _ fun _ => id).bind fun bound => ?_
  refine (ensures_ask fun _ => keeps.prepares).bind_of_outcome fun statement prepared => ?_
  replace prepared := exists_of_asked prepared
  dsimp only
  split
  · refine (ensures_ask fun s start => keeps.does start (.execute prepared bound)).bind fun _ => ?_
    split
    · exact (ensures_ask fun _ => keeps.tells).bind fun _ => Step.ensures_pure _
    · exact Step.ensures_pure _
  · refine (ensures_ask fun s start => keeps.does start (.query prepared bound)).bind fun _ => ?_
    exact (Step.ensures_ofOption _ fun _ => id).bind fun _ => Step.ensures_pure _

theorem ensures_runMassagedRows {m : MassagedRows} (keeps : conn.Keeps steady within m.query) :
    Ensures within (runMassagedRows conn m) within within := by
  refine (ensures_ask fun _ => keeps.prepares).bind_of_outcome fun statement prepared => ?_
  replace prepared := exists_of_asked prepared
  refine (Step.ensures_mapM (fun cells => ?_) m.rows).bind fun _ => Step.ensures_pure _
  refine (Step.ensures_ofExcept _ fun _ => id).bind fun bound => ?_
  exact ensures_ask fun s start => keeps.does start (.execute prepared bound)

theorem steady_begin {s : σ} {next : Step σ α} (keeps : conn.Keeps steady within text)
    (start : steady s) (goesOn : Ensures within next within within) :
    steady ((Step.ofAnswer (beginIfNeeded conn) >>= fun _ => next).outcome s).2 := by
  have weaker : Ensures within next steady steady :=
    goesOn.weaken (fun _ => keeps.weaker) fun _ => keeps.weaker
  exact ((ensures_begin keeps).bind fun _ => weaker).reaches (fun _ => id) start

/-! ## Massaging -/

section

variable {query : Text} {params : List Param} {rows : List (List Param)} {mismatch : Mismatch}

theorem outcome_run_of_error (made : massage query params = .error mismatch)
    (conn : Connection σ π) (s : σ) :
    (run conn query params).outcome s = (.error (.fault mismatch.toFault), s) := by
  simp only [run, made, Step.outcome_bind, Step.outcome_ofExcept, mapError_error]

theorem outcome_run_of_ok {m : Massaged} (made : massage query params = .ok m)
    (conn : Connection σ π) (s : σ) :
    (run conn query params).outcome s =
      (Step.ofAnswer (beginIfNeeded conn) >>= fun _ => runMassaged conn m).outcome s := by
  simp only [run, made, Step.outcome_bind, Step.outcome_ofExcept, mapError_ok]

theorem outcome_runMany_of_error (made : massageMany query rows = .error mismatch)
    (conn : Connection σ π) (s : σ) :
    (runMany conn query rows).outcome s = (.error (.fault mismatch.toFault), s) := by
  simp only [runMany, made, Step.outcome_bind, Step.outcome_ofExcept, mapError_error]

theorem outcome_runMany_of_ok {m : MassagedRows} (made : massageMany query rows = .ok m)
    (conn : Connection σ π) (s : σ) :
    (runMany conn query rows).outcome s =
      (Step.ofAnswer (beginIfNeeded conn) >>= fun _ => runMassagedRows conn m).outcome s := by
  simp only [runMany, made, Step.outcome_bind, Step.outcome_ofExcept, mapError_ok]

end

/-! ## Calls -/

/-- What a session is asked to do. -/
inductive Call where
  | run (query : Text) (params : List Param)
  | runMany (query : Text) (rows : List (List Param))
  | execute (statement : Text)
  | commit
  | rollback

namespace Call

def perform (conn : Connection σ π) (s : σ) : Call → Except Failure Unit × σ
  | run query params => ((Translating.run conn query params).outcome s).map (·.map fun _ => ()) id
  | runMany query rows =>
    ((Translating.runMany conn query rows).outcome s).map (·.map fun _ => ()) id
  | execute statement => ((target conn).execute statement s).map (·.mapError .fault) id
  | commit => (backend conn).commit.outcome s
  | rollback => (backend conn).rollback.outcome s

/-- The texts that statements are prepared from or that are run as they stand. -/
def texts : Call → List Text
  | run query params =>
    match massage query params with
    | .ok m => [m.query]
    | .error _ => []
  | runMany query rows =>
    match massageMany query rows with
    | .ok m => [m.query]
    | .error _ => []
  | execute statement => [statement]
  | commit | rollback => []

def mismatch? : Call → Option Mismatch
  | run query params =>
    match massage query params with
    | .ok _ => none
    | .error mismatch => some mismatch
  | runMany query rows =>
    match massageMany query rows with
    | .ok _ => none
    | .error mismatch => some mismatch
  | _ => none

theorem perform_of_mismatch {call : Call} {mismatch : Mismatch}
    (differs : call.mismatch? = some mismatch) (conn : Connection σ π) (s : σ) :
    call.perform conn s = (.error (.fault mismatch.toFault), s) := by
  cases call with
  | run query params =>
    cases made : massage query params with
    | error other =>
      rw [mismatch?, made] at differs
      cases differs
      rw [perform, outcome_run_of_error made]
      rfl
    | ok m => simp [mismatch?, made] at differs
  | runMany query rows =>
    cases made : massageMany query rows with
    | error other =>
      rw [mismatch?, made] at differs
      cases differs
      rw [perform, outcome_runMany_of_error made]
      rfl
    | ok m => simp [mismatch?, made] at differs
  | execute | commit | rollback => cases differs

section

variable {s : σ}

theorem perform_commit :
    commit.perform conn s = (endTransaction conn "COMMIT" s).map (·.mapError .fault) id :=
  Step.outcome_ofAnswer _ s

theorem perform_rollback :
    rollback.perform conn s = (endTransaction conn "ROLLBACK" s).map (·.mapError .fault) id :=
  Step.outcome_ofAnswer _ s

/-- Without a transaction there is nothing to commit or to take back. -/
theorem perform_of_outside {call : Call} (ends : call ∈ [commit, rollback])
    (outside : conn.isAutocommit s = true) : call.perform conn s = (.ok (), s) := by
  obtain rfl | rfl : call = commit ∨ call = rollback := by simpa using ends
  · rw [perform_commit, endTransaction_of_outside _ outside]
    rfl
  · rw [perform_rollback, endTransaction_of_outside _ outside]
    rfl

/-- What all that is asked for the texts of a call keeps, the call keeps too. Calls that end a
transaction have no texts. -/
theorem steady_perform (call : Call) (start : steady s)
    (keeps : ∀ text ∈ call.texts, conn.Keeps steady within text)
    (ends : call ∈ [commit, rollback] → steady (call.perform conn s).2) :
    steady (call.perform conn s).2 := by
  cases call with
  | run query params =>
    change steady ((Translating.run conn query params).outcome s).2
    cases made : massage query params with
    | error mismatch => rwa [outcome_run_of_error made]
    | ok m =>
      have here : conn.Keeps steady within m.query := keeps _ (by simp [texts, made])
      rw [outcome_run_of_ok made]
      exact steady_begin here start (ensures_runMassaged here)
  | runMany query rows =>
    change steady ((Translating.runMany conn query rows).outcome s).2
    cases made : massageMany query rows with
    | error mismatch => rwa [outcome_runMany_of_error made]
    | ok m =>
      have here : conn.Keeps steady within m.query := keeps _ (by simp [texts, made])
      rw [outcome_runMany_of_ok made]
      exact steady_begin here start (ensures_runMassagedRows here)
  | execute statement =>
    have here : conn.Keeps steady within statement := keeps _ List.mem_cons_self
    have begins := ensures_begin here s start
    change steady (Translating.execute conn statement s).2
    unfold Translating.execute
    rw [Step.outcome_ofAnswer] at begins
    rcases ran : beginIfNeeded conn s with ⟨fault | _, t⟩ <;> rw [ran] at begins
    · exact begins
    · exact here.weaker (here.does begins .batch)
  | commit | rollback => exact ends (by simp)

end

end Call

/-- The state after calls, whether they succeed or fail. -/
def after (conn : Connection σ π) (s : σ) : List Call → σ
  | [] => s
  | call :: calls => after conn (call.perform conn s).2 calls

end Translating

end SqlDialect
