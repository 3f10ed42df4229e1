import SqlDialect.Proofs.Session.Call

/-! What a session asks of its connection. The connection notes every request, with the state that
it finds, and else does what it does without notes. -/

set_option autoImplicit false

namespace SqlDialect

open Engine (Datum)

variable {σ π α β γ ε : Type}

/-! ## Notes -/

/-- What a connection can be asked for. -/
inductive ConnectionRequest (π : Type) where
  | batch (text : Text)
  | prepare (text : Text)
  | execute (statement : π) (bound : List Datum)
  | query (statement : π) (bound : List Datum)
  | lastInsertRowid
  | close

/-- A request, and the state that it finds. -/
structure Event (σ π : Type) where
  state : σ
  request : ConnectionRequest π

namespace Connection

/-- Whether a request is answered by anything but an error, and the state after it. -/
def serve (conn : Connection σ π) (s : σ) : ConnectionRequest π → Bool × σ
  | .batch text => (conn.batch text s).map Except.isOk id
  | .prepare text => (conn.prepare text s).map Except.isOk id
  | .execute statement bound => (conn.execute statement bound s).map Except.isOk id
  | .query statement bound => (conn.query statement bound s).map Except.isOk id
  | .lastInsertRowid => (conn.lastInsertRowid s).map Except.isOk id
  | .close => (conn.close s).map Except.isOk id

def note (request : ConnectionRequest π) (answer : σ → Except ε α × σ)
    (s : σ × List (Event σ π)) : Except ε α × σ × List (Event σ π) :=
  ((answer s.1).1, (answer s.1).2, s.2 ++ [⟨s.1, request⟩])

/-- The same connection, which notes what it is asked for in the order of the requests. -/
def traced (conn : Connection σ π) : Connection (σ × List (Event σ π)) π where
  isAutocommit s := conn.isAutocommit s.1
  batch text := note (.batch text) (conn.batch text)
  prepare text := note (.prepare text) (conn.prepare text)
  columns := conn.columns
  execute statement bound := note (.execute statement bound) (conn.execute statement bound)
  query statement bound := note (.query statement bound) (conn.query statement bound)
  lastInsertRowid := note .lastInsertRowid conn.lastInsertRowid
  close := note .close conn.close

theorem of_note_eq {request : ConnectionRequest π} {answer : σ → Except ε α × σ}
    {s t : σ × List (Event σ π)} {outcome : Except ε α}
    (noted : note request answer s = (outcome, t)) :
    answer s.1 = (outcome, t.1) ∧ t = (t.1, s.2 ++ [⟨s.1, request⟩]) := by
  cases noted
  exact ⟨rfl, rfl⟩

theorem exists_of_does_traced {conn : Connection σ π} {text : Text}
    {s t : σ × List (Event σ π)} (does : conn.traced.Does text s t) :
    conn.Does text s.1 t.1 ∧
      ∃ request, t = ((conn.serve s.1 request).2, s.2 ++ [⟨s.1, request⟩]) := by
  have earlier {statement : π} (prepared : ∃ u w, conn.traced.prepare text u = (.ok statement, w)) :
      ∃ u w, conn.prepare text u = (.ok statement, w) := by
    obtain ⟨u, w, prepared⟩ := prepared
    exact ⟨u.1, w.1, (of_note_eq prepared).1⟩
  cases does with
  | batch => exact ⟨.batch, .batch text, rfl⟩
  | execute prepared bound => exact ⟨.execute (earlier prepared) bound, .execute _ bound, rfl⟩
  | query prepared bound => exact ⟨.query (earlier prepared) bound, .query _ bound, rfl⟩

end Connection

/-! ## What is done all the same -/

/-- A step on states with notes does what another does on the states alone. -/
def Step.Covers (noting : Step (σ × List (Event σ π)) α) (step : Step σ α) : Prop :=
  ∀ s, (noting.outcome s).map id Prod.fst = step.outcome s.1

namespace Step

theorem covers_pure (a : α) : Covers (π := π) (pure a) (pure a : Step σ α) := fun _ => rfl

theorem covers_ofExcept (e : Except Fault α) :
    Covers (π := π) (ofExcept e) (ofExcept e : Step σ α) := by
  intro s
  rw [outcome_ofExcept, outcome_ofExcept]
  rfl

theorem covers_ofOption (o : Option α) :
    Covers (π := π) (ofOption o) (ofOption o : Step σ α) := by
  intro s
  cases o <;> rfl

theorem Covers.bind {noting : Step (σ × List (Event σ π)) α} {step : Step σ α}
    {later : α → Step (σ × List (Event σ π)) β} {next : α → Step σ β} (first : Covers noting step)
    (second : ∀ a, Covers (later a) (next a)) : Covers (noting >>= later) (step >>= next) := by
  intro s
  have here := first s
  rw [outcome_bind, outcome_bind, ← here]
  rcases noting.outcome s with ⟨failure | a, t⟩
  · rfl
  · exact second a t

theorem covers_ofAnswer {noting : σ × List (Event σ π) → Except Fault α × σ × List (Event σ π)}
    {answer : σ → Except Fault α × σ} (same : ∀ s, (noting s).map id Prod.fst = answer s.1) :
    Covers (ofAnswer noting) (ofAnswer answer) := by
  intro s
  rw [outcome_ofAnswer, outcome_ofAnswer, ← same s]
  rfl

theorem covers_mapM {noting : α → Step (σ × List (Event σ π)) β} {step : α → Step σ β}
    (each : ∀ a, Covers (noting a) (step a)) (items : List α) :
    Covers (items.mapM noting) (items.mapM step) := by
  induction items with
  | nil => exact covers_pure []
  | cons a items ih =>
    rw [List.mapM_cons, List.mapM_cons]
    exact (each a).bind fun _ => ih.bind fun _ => covers_pure _

end Step

namespace Translating

open Step (Covers)

variable {conn : Connection σ π} {query : Text} {cells : List Cell} {request : ConnectionRequest π}

theorem covers_note {answer : σ → Except ConnectionError α × σ} :
    Covers (.ofAnswer (ask query cells (Connection.note request answer)))
      (.ofAnswer (ask query cells answer)) :=
  Step.covers_ofAnswer fun _ => rfl

theorem beginIfNeeded_traced (conn : Connection σ π) (s : σ × List (Event σ π)) :
    (beginIfNeeded conn.traced s).map id Prod.fst = beginIfNeeded conn s.1 := by
  change (if conn.isAutocommit s.1 then _ else _ : Except Fault Unit × _).map id Prod.fst =
    if conn.isAutocommit s.1 then _ else _
  split <;> rfl

theorem endTransaction_traced (command : Text) (s : σ × List (Event σ π)) :
    (endTransaction conn.traced command s).map id Prod.fst = endTransaction conn command s.1 := by
  change (if conn.isAutocommit s.1 then _ else _ : Except Fault Unit × _).map id Prod.fst =
    if conn.isAutocommit s.1 then _ else _
  split <;> rfl

theorem execute_traced (statement : Text) (s : σ × List (Event σ π)) :
    (execute conn.traced statement s).map id Prod.fst = execute conn statement s.1 := by
  unfold execute
  rw [← beginIfNeeded_traced conn s]
  rcases beginIfNeeded conn.traced s with ⟨fault | _, t⟩ <;> rfl

theorem covers_runMassaged (m : Massaged) :
    Covers (runMassaged conn.traced m) (runMassaged conn m) := by
  refine (Step.covers_ofExcept _).bind fun bound => covers_note.bind fun statement => ?_
  change Covers (if conn.columns statement = [] then _ else _)
    (if conn.columns statement = [] then _ else _)
  split
  · refine covers_note.bind fun changed => ?_
    split
    · exact covers_note.bind fun _ => Step.covers_pure _
    · exact Step.covers_pure _
  · exact covers_note.bind fun _ => (Step.covers_ofOption _).bind fun _ => Step.covers_pure _

theorem covers_runMassagedRows (m : MassagedRows) :
    Covers (runMassagedRows conn.traced m) (runMassagedRows conn m) := by
  refine covers_note.bind fun statement => ?_
  refine (Step.covers_mapM (fun cells => ?_) m.rows).bind fun _ => Step.covers_pure _
  exact (Step.covers_ofExcept _).bind fun _ => covers_note

theorem Call.perform_traced (call : Call) (s : σ × List (Event σ π)) :
    (call.perform conn.traced s).map id Prod.fst = call.perform conn s.1 := by
  have begins : Covers (.ofAnswer (beginIfNeeded conn.traced)) (.ofAnswer (beginIfNeeded conn)) :=
    Step.covers_ofAnswer (beginIfNeeded_traced conn)
  cases call with
  | run query params =>
    have covers : Covers (Translating.run conn.traced query params)
        (Translating.run conn query params) :=
      (Step.covers_ofExcept _).bind fun m => begins.bind fun _ => covers_runMassaged m
    rw [perform, perform, ← covers s]
    rfl
  | runMany query rows =>
    have covers : Covers (Translating.runMany conn.traced query rows)
        (Translating.runMany conn query rows) :=
      (Step.covers_ofExcept _).bind fun m => begins.bind fun _ => covers_runMassagedRows m
    rw [perform, perform, ← covers s]
    rfl
  | execute statement =>
    change ((Translating.execute conn.traced statement s).map (·.mapError Failure.fault) id).map id
      Prod.fst = (Translating.execute conn statement s.1).map (·.mapError Failure.fault) id
    rw [← execute_traced statement s]
    rfl
  | commit =>
    rw [perform_commit, perform_commit, ← endTransaction_traced]
    rfl
  | rollback =>
    rw [perform_rollback, perform_rollback, ← endTransaction_traced]
    rfl

def Call.events (conn : Connection σ π) (s : σ) (call : Call) : List (Event σ π) :=
  (call.perform conn.traced (s, [])).2.2

theorem Call.state_perform_traced (call : Call) (conn : Connection σ π) (s : σ) :
    (call.perform conn.traced (s, [])).2 = ((call.perform conn s).2, call.events conn s) := by
  rw [← call.perform_traced (s, [])]
  rfl

def events (conn : Connection σ π) (s : σ) : List Call → List (Event σ π)
  | [] => []
  | call :: calls => call.events conn s ++ events conn (call.perform conn s).2 calls

end Translating

end SqlDialect
