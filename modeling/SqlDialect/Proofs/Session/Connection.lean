import SqlDialect.Proofs.Session.Step
import SqlDialect.Session.Translating

/-! What is known of a connection to a database, whatever the engine behind it.

`BEGIN`, `COMMIT` and `ROLLBACK` do what they say or nothing. Of a statement it is only known what
is asked of its text: most texts neither begin nor end a transaction, and have no effect if they are
refused, but which texts these are is the engine's affair.
-/

set_option autoImplicit false

namespace SqlDialect

/-- The content of a database as it is saved, and as a connection has it. -/
structure Contents (σ γ : Type) where
  saved : σ → γ
  content : σ → γ

/-- An error of a statement that has been run all the same. -/
def ConnectionError.isAfterwards : ConnectionError → Bool
  | returnedRows => true
  | _ => false

namespace Connection

variable {σ π α γ : Type}

section

variable (conn : Connection σ π)

/-- What the engine can be made to do by a text: to run it as it stands, or a statement that has
been prepared from it. -/
inductive Does (text : Text) (s : σ) : σ → Prop where
  | batch : Does text s (conn.batch text s).2
  | execute {statement : π} (prepared : ∃ u t, conn.prepare text u = (.ok statement, t))
      (bound : List Engine.Datum) : Does text s (conn.execute statement bound s).2
  | query {statement : π} (prepared : ∃ u t, conn.prepare text u = (.ok statement, t))
      (bound : List Engine.Datum) : Does text s (conn.query statement bound s).2

variable (v : Contents σ γ)

/-- Nothing that can be seen has changed. -/
structure Unmoved (s t : σ) : Prop where
  isAutocommit : conn.isAutocommit t = conn.isAutocommit s
  saved : v.saved t = v.saved s
  content : v.content t = v.content s

/-- The three commands of transactions as usual, and `isAutocommit` tells whether one is open. -/
structure Transactional : Prop where
  outside {s : σ} : conn.isAutocommit s = true → v.content s = v.saved s
  /-- There is no transaction within a transaction. -/
  begins {s t : σ} : conn.batch "BEGIN" s = (.ok (), t) → conn.isAutocommit s = true ∧
    conn.isAutocommit t = false ∧ v.saved t = v.saved s ∧ v.content t = v.content s
  commits {s t : σ} : conn.isAutocommit s = false → conn.batch "COMMIT" s = (.ok (), t) →
    conn.isAutocommit t = true ∧ v.saved t = v.content s
  rollsBack {s t : σ} : conn.isAutocommit s = false → conn.batch "ROLLBACK" s = (.ok (), t) →
    conn.isAutocommit t = true ∧ v.saved t = v.saved s
  refuses {command : Text} {s t : σ} {error : ConnectionError} :
    command ∈ (["BEGIN", "COMMIT", "ROLLBACK"] : List Text) →
    conn.batch command s = (.error error, t) → conn.Unmoved v s t
  prepares (text : Text) (s : σ) : conn.Unmoved v s (conn.prepare text s).2
  tells (s : σ) : conn.Unmoved v s (conn.lastInsertRowid s).2

/-- A text that neither ends a transaction nor touches what is saved beside it. -/
def Uncontrolled (text : Text) : Prop :=
  ∀ s t, conn.isAutocommit s = false → conn.Does text s t →
    conn.isAutocommit t = false ∧ v.saved t = v.saved s

/-- A statement that has no effect if it is refused. -/
def Atomic (statement : π) (s : σ) : Prop :=
  ∀ bound error t, conn.execute statement bound s = (.error error, t) →
    error.isAfterwards = false → v.content t = v.content s

/-- A text that commits nothing in a transaction. -/
def Uncommitting (text : Text) : Prop :=
  ∀ s, conn.isAutocommit s = false → v.saved (conn.batch text s).2 = v.saved s

/-- A text that begins with the word of a definition or of an insertion commits nothing, if it is
one statement. -/
def ReadsFirstWord : Prop :=
  ∀ word stop : Text, word.agrees "CREATE" = true ∨ word.agrees "INSERT" = true →
    (∀ c ∈ stop.head?, c = ' ') → ';' ∉ word ++ stop → conn.Uncommitting v (word ++ stop)

end

variable {conn : Connection σ π} {v : Contents σ γ}

theorem Unmoved.refl (s : σ) : conn.Unmoved v s s := ⟨rfl, rfl, rfl⟩

theorem uncommitting_rollback (laws : conn.Transactional v) : conn.Uncommitting v "ROLLBACK" := by
  intro s within
  rcases ran : conn.batch "ROLLBACK" s with ⟨error | _, t⟩
  · exact (laws.refuses (by simp) ran).saved
  · exact (laws.rollsBack within ran).2

end Connection

namespace Translating

open Connection (Transactional)

variable {σ π α γ : Type} {conn : Connection σ π} {v : Contents σ γ} {s t : σ}
  {query : Text} {cells : List Cell} {answer : σ → Except ConnectionError α × σ}

theorem ask_eq_ok {a : α} : ask query cells answer s = (.ok a, t) ↔ answer s = (.ok a, t) := by
  rw [ask, Prod.map, Prod.mk.injEq, mapError_eq_ok, Prod.ext_iff]
  rfl

theorem ask_eq_error {fault : Fault} :
    ask query cells answer s = (.error fault, t) ↔
      ∃ error, answer s = (.error error, t) ∧ fault = error.toFault query cells := by
  rcases ran : answer s with ⟨error | a, u⟩ <;> rw [ask, ran]
  · constructor
    · rintro ⟨⟩
      exact ⟨error, rfl, rfl⟩
    · rintro ⟨_, ⟨⟩, rfl⟩
      rfl
  · exact iff_of_false nofun (by rintro ⟨_, ⟨⟩, -⟩)

@[simp] theorem snd_ask : (ask query cells answer s).2 = (answer s).2 := rfl

theorem beginIfNeeded_of_within (within : conn.isAutocommit s = false) :
    beginIfNeeded conn s = (.ok (), s) := by
  rw [beginIfNeeded, within]
  rfl

theorem endTransaction_of_outside (command : Text) (outside : conn.isAutocommit s = true) :
    endTransaction conn command s = (.ok (), s) := by
  rw [endTransaction, if_pos outside]

/-- After the beginning of a transaction one is open, and nothing else has changed. -/
theorem begun (laws : conn.Transactional v) (ran : beginIfNeeded conn s = (.ok (), t)) :
    conn.isAutocommit t = false ∧ v.saved t = v.saved s ∧ v.content t = v.content s := by
  unfold beginIfNeeded at ran
  split at ran
  next => exact (laws.begins (ask_eq_ok.1 ran)).2
  next within =>
    cases ran
    exact ⟨Bool.eq_false_iff.2 within, rfl, rfl⟩

theorem unmoved_of_not_begun (laws : conn.Transactional v) {fault : Fault}
    (ran : beginIfNeeded conn s = (.error fault, t)) : conn.Unmoved v s t := by
  unfold beginIfNeeded at ran
  split at ran
  next =>
    obtain ⟨error, refused, -⟩ := ask_eq_error.1 ran
    exact laws.refuses List.mem_cons_self refused
  next => cases ran

theorem committed (laws : conn.Transactional v)
    (ran : endTransaction conn "COMMIT" s = (.ok (), t)) :
    conn.isAutocommit t = true ∧ v.saved t = v.content s := by
  unfold endTransaction at ran
  split at ran
  next outside =>
    cases ran
    exact ⟨outside, (laws.outside outside).symm⟩
  next within => exact laws.commits (Bool.eq_false_iff.2 within) (ask_eq_ok.1 ran)

theorem rolledBack (laws : conn.Transactional v)
    (ran : endTransaction conn "ROLLBACK" s = (.ok (), t)) :
    conn.isAutocommit t = true ∧ v.saved t = v.saved s := by
  unfold endTransaction at ran
  split at ran
  next outside =>
    cases ran
    exact ⟨outside, rfl⟩
  next within => exact laws.rollsBack (Bool.eq_false_iff.2 within) (ask_eq_ok.1 ran)

theorem unmoved_of_not_ended (laws : conn.Transactional v) {command : Text} {fault : Fault}
    (ends : command ∈ (["COMMIT", "ROLLBACK"] : List Text))
    (ran : endTransaction conn command s = (.error fault, t)) : conn.Unmoved v s t := by
  unfold endTransaction at ran
  split at ran
  next => cases ran
  next =>
    obtain ⟨error, refused, -⟩ := ask_eq_error.1 ran
    exact laws.refuses (List.mem_cons_of_mem _ ends) refused

end Translating

end SqlDialect
