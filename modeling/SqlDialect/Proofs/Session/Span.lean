import SqlDialect.Proofs.Session.Step
import SqlDialect.Session.Native

/-! What a session with a server sends, and when.

The session keeps a flag of its own. It is set after the server has accepted a transaction, and
cleared before the end of the transaction is sent, so it can only be told by the requests and their
answers whether the flag is right and each request in its place.
-/

set_option autoImplicit false

namespace SqlDialect

open Wire (Bytes Request Server ServerError)

variable {σ α : Type}

/-! ## Conversations -/

namespace Wire

/-- A request, and whether the server has accepted it. -/
structure Exchange where
  request : Request
  accepted : Bool
  deriving DecidableEq

namespace Exchange

/-- Whether a transaction is open after an exchange: it is from a begin that is accepted to the
next commit or rollback, accepted or not. -/
def openAfter (isOpen : Bool) (x : Exchange) : Bool :=
  if x.request = .command "BEGIN" ∧ x.accepted = true then true
  else if x.request = .command "COMMIT" ∨ x.request = .command "ROLLBACK" then false
  else isOpen

/-- The requests that have their place within a transaction, and the one that has it outside. -/
inductive Placed : Bool → Request → Prop where
  | begin : Placed false (.command "BEGIN")
  | commit : Placed true (.command "COMMIT")
  | rollback : Placed true (.command "ROLLBACK")
  | prepare (query : Text) : Placed true (.prepare query)
  | execute (query : Text) (params : List (Option Bytes)) : Placed true (.execute query params)

/-- Each request has its place, whether a transaction is open or not when it is sent. -/
def Orderly (isOpen : Bool) : List Exchange → Prop
  | [] => True
  | x :: rest => Placed isOpen x.request ∧ Orderly (x.openAfter isOpen) rest

theorem orderly_append {isOpen : Bool} {first second : List Exchange} :
    Orderly isOpen (first ++ second) ↔
      Orderly isOpen first ∧ Orderly (first.foldl openAfter isOpen) second := by
  induction first generalizing isOpen with
  | nil => simp [Orderly]
  | cons x first ih => simp only [List.cons_append, Orderly, ih, List.foldl_cons, and_assoc]

end Exchange

namespace Server

def respond (server : Server σ) (state : σ) : Request → Bool × σ
  | .command text => (server.command text state).map Except.isOk id
  | .prepare query => (server.prepare query state).map Except.isOk id
  | .execute query params => (server.execute query params state).map Except.isOk id
  | .encryption | .startup .. | .password _ => (true, state)

def converse (server : Server σ) (state : σ) : List Request → List Exchange × σ
  | [] => ([], state)
  | request :: rest =>
    let (accepted, state) := server.respond state request
    let (exchanges, state) := converse server state rest
    (⟨request, accepted⟩ :: exchanges, state)

theorem converse_concat (server : Server σ) (state : σ) (sent : List Request) (request : Request) :
    server.converse state (sent ++ [request]) =
      let (exchanges, state) := server.converse state sent
      let (accepted, state) := server.respond state request
      (exchanges ++ [⟨request, accepted⟩], state) := by
  induction sent generalizing state with
  | nil => rfl
  | cons first sent ih => simp only [List.cons_append, converse, ih]

end Server

end Wire

namespace NativeSession

open Wire.Exchange (Orderly Placed openAfter)

section

variable (server : Server σ) (state : σ) (greeting : List Request)

/-- A session that has sent requests after its greeting, each in its place, and whether these have
left a transaction open. -/
def Converses (isOpen : Bool) (s : NativeSession σ) : Prop :=
  ∃ sent, s.log = greeting ++ sent ∧ s.server = (server.converse state sent).2 ∧
    Orderly false (server.converse state sent).1 ∧
    (server.converse state sent).1.foldl openAfter false = isOpen

/-- The flag of the session says whether a transaction is open. -/
def Sound (s : NativeSession σ) : Prop := Converses server state greeting s.inTransaction s

/-- A transaction is open, and the flag says so. -/
def Open (s : NativeSession σ) : Prop :=
  Sound server state greeting s ∧ s.inTransaction = true

end

variable {server : Server σ} {state : σ} {greeting : List Request}

theorem outcome_exchange (query : Text) (request : Request)
    (answer : σ → Except ServerError α × σ) (s : NativeSession σ) :
    (exchange query request answer).outcome s =
      ((answer s.server).1.mapError fun error => (error.toFault? query).elim .crash .fault,
        { s with server := (answer s.server).2, log := s.log ++ [request] }) := by
  unfold exchange
  simp only [Step.outcome_bind, Step.outcome_get, Step.outcome_set]
  cases (answer s.server).1 <;> rfl

theorem Converses.exchange {isOpen : Bool} {s : NativeSession σ} {request : Request}
    {accepted : Bool} {after : σ} (told : Converses server state greeting isOpen s)
    (placed : Placed isOpen request)
    (answered : server.respond s.server request = (accepted, after)) (flag : Bool) :
    Converses server state greeting (openAfter isOpen ⟨request, accepted⟩)
      ⟨after, s.log ++ [request], flag⟩ := by
  obtain ⟨sent, log, same, orderly, rfl⟩ := told
  rw [same] at answered
  have more := server.converse_concat state sent request
  simp only [answered] at more
  refine ⟨sent ++ [request], ?_, ?_, ?_, ?_⟩
  · rw [log, List.append_assoc]
  · rw [more]
  · rw [more]
    exact Wire.Exchange.orderly_append.2 ⟨orderly, placed, trivial⟩
  · rw [more, List.foldl_append]
    rfl

theorem ensures_exchange {query : Text} {request : Request} {answer : σ → Except ServerError α × σ}
    (asks : ∀ state, server.respond state request = (answer state).map Except.isOk id)
    (placed : Placed true request)
    (stays : ∀ accepted, openAfter true ⟨request, accepted⟩ = true) :
    Step.Ensures (Open server state greeting) (exchange query request answer)
      (Open server state greeting) (Sound server state greeting) := by
  rintro s ⟨sound, within⟩
  have told : Converses server state greeting true s := within ▸ sound
  have next := told.exchange placed (asks s.server) s.inTransaction
  rw [stays] at next
  rw [outcome_exchange]
  have sound : Sound server state greeting
      { s with server := (answer s.server).2, log := s.log ++ [request] } := within ▸ next
  cases (answer s.server).1 with
  | ok a => exact ⟨sound, within⟩
  | error error => exact sound

theorem ensures_beginIfNeeded (query : Text) :
    Step.Ensures (Sound server state greeting) (beginIfNeeded server query)
      (Open server state greeting) (Sound server state greeting) := by
  intro s sound
  cases flag : s.inTransaction with
  | true =>
    have idle : (beginIfNeeded server query).outcome s = (.ok (), s) := by
      rw [beginIfNeeded, Step.outcome_get_bind, flag]
      rfl
    rw [idle]
    exact ⟨sound, flag⟩
  | false =>
    have told : Converses server state greeting false s := flag ▸ sound
    have asked : (beginIfNeeded server query).outcome s =
        (exchange query (.command "BEGIN") (server.command "BEGIN") >>= fun _ =>
          modify fun s => { s with inTransaction := true }).outcome s := by
      rw [beginIfNeeded, Step.outcome_get_bind, flag]
      rfl
    have next (flag : Bool) : Converses server state greeting
        (openAfter false ⟨.command "BEGIN", (server.command "BEGIN" s.server).1.isOk⟩)
        ⟨(server.command "BEGIN" s.server).2, s.log ++ [.command "BEGIN"], flag⟩ :=
      told.exchange .begin rfl flag
    rw [asked, Step.outcome_bind, outcome_exchange]
    cases answered : (server.command "BEGIN" s.server).1 with
    | error refusal =>
      rw [answered] at next
      exact flag ▸ next s.inTransaction
    | ok =>
      rw [answered] at next
      exact ⟨next true, rfl⟩

theorem ensures_prepare (query : Text) :
    Step.Ensures (Open server state greeting) (prepare server query)
      (Open server state greeting) (Sound server state greeting) := by
  unfold prepare
  split
  next => exact ensures_exchange (fun _ => rfl) (.prepare query) (fun _ => by simp [openAfter])
  next => exact fun s opened => opened.1

theorem ensures_execute (query : Text) (description : Wire.Description) (params : List Param) :
    Step.Ensures (Open server state greeting) (execute server query description params)
      (Open server state greeting) (Sound server state greeting) :=
  (Step.ensures_ofExcept _ fun _ opened => opened.1).bind fun bytes =>
    ensures_exchange (fun _ => rfl) (.execute query bytes) (fun _ => by simp [openAfter])

theorem ensures_run (query : Text) (params : List Param) :
    Step.Ensures (Sound server state greeting) (run server query params)
      (Open server state greeting) (Sound server state greeting) :=
  (ensures_beginIfNeeded _).bind fun _ => (ensures_prepare _).bind fun description =>
    (ensures_execute _ description params).bind fun _ => Step.ensures_pure _

theorem ensures_runMany (query : Text) (rows : List (List Param)) :
    Step.Ensures (Sound server state greeting) (runMany server query rows)
      (Open server state greeting) (Sound server state greeting) :=
  (ensures_beginIfNeeded _).bind fun _ => (ensures_prepare _).bind fun description =>
    (Step.ensures_mapM (fun params => (ensures_execute _ description params).bind fun _ =>
      Step.ensures_pure _) rows).bind fun _ => Step.ensures_pure _

theorem endTransaction_of_outside {s : NativeSession σ} (outside : s.inTransaction = false)
    (command : Text) : (endTransaction server command).outcome s = (.ok (), s) := by
  rw [endTransaction, Step.outcome_get_bind, outside]
  rfl

theorem ensures_endTransaction {command : Text}
    (ends : command = "COMMIT" ∨ command = "ROLLBACK") :
    Step.Ensures (Sound server state greeting) (endTransaction server command)
      (fun s => Sound server state greeting s ∧ s.inTransaction = false)
      (fun s => Sound server state greeting s ∧ s.inTransaction = false) := by
  intro s sound
  cases flag : s.inTransaction with
  | false =>
    rw [endTransaction_of_outside flag]
    exact ⟨sound, flag⟩
  | true =>
    have told : Converses server state greeting true s := flag ▸ sound
    -- The flag is cleared first, so until the request is sent it does not say what is open.
    have asked : (endTransaction server command).outcome s =
        (exchange command (.command command) (server.command command)).outcome
          { s with inTransaction := false } := by
      rw [endTransaction, Step.outcome_get_bind, flag]
      rfl
    have placed : Placed true (.command command) := by
      rcases ends with rfl | rfl
      · exact .commit
      · exact .rollback
    have closes (accepted : Bool) : openAfter true ⟨.command command, accepted⟩ = false := by
      rcases ends with rfl | rfl <;> cases accepted <;> decide
    have next : Converses server state greeting
        (openAfter true ⟨.command command, (server.command command s.server).1.isOk⟩)
        ⟨(server.command command s.server).2, s.log ++ [.command command], false⟩ :=
      told.exchange placed rfl false
    rw [closes] at next
    rw [asked, outcome_exchange]
    cases (server.command command s.server).1 with
    | ok => exact ⟨next, rfl⟩
    | error => exact ⟨next, rfl⟩

/-! ## Calls -/

inductive Call where
  | run (query : Text) (params : List Param)
  | runMany (query : Text) (rows : List (List Param))
  | commit
  | rollback

def Call.perform (server : Server σ) (s : NativeSession σ) :
    Call → Except Failure Unit × NativeSession σ
  | run query params => (((backend server).run query params).outcome s).map (·.map fun _ => ()) id
  | runMany query rows =>
    (((backend server).runMany query rows).outcome s).map (·.map fun _ => ()) id
  | commit => (backend server).commit.outcome s
  | rollback => (backend server).rollback.outcome s

def after (server : Server σ) (s : NativeSession σ) (calls : List Call) : NativeSession σ :=
  calls.foldl (fun s call => (call.perform server s).2) s

theorem sound_perform {s : NativeSession σ} (sound : Sound server state greeting s) (call : Call) :
    Sound server state greeting (call.perform server s).2 := by
  have within (s : NativeSession σ) (opened : Open server state greeting s) :
      Sound server state greeting s := opened.1
  cases call with
  | run query params => exact (ensures_run query params).reaches within sound
  | runMany query rows => exact (ensures_runMany query rows).reaches within sound
  | commit => exact ((ensures_endTransaction (.inl rfl)).reaches (fun _ closed => closed) sound).1
  | rollback => exact ((ensures_endTransaction (.inr rfl)).reaches (fun _ closed => closed) sound).1

theorem sound_after {s : NativeSession σ} (sound : Sound server state greeting s)
    (calls : List Call) : Sound server state greeting (after server s calls) := by
  induction calls generalizing s with
  | nil => exact sound
  | cons call calls ih => exact ih (sound_perform sound call)

/-- Whatever the server answers to whatever calls, every request has its place and the flag of the
session says after every call whether a transaction is open. A commit or a rollback without a
transaction sends nothing, and once the session is closed no transaction is open. -/
theorem sound_after_calls (server : Server σ) (state : σ) (greeting : List Request)
    (calls : List Call) :
    Sound server state greeting (after server ⟨state, greeting, false⟩ calls) ∧
    (∀ call ∈ [Call.commit, .rollback],
      (after server ⟨state, greeting, false⟩ calls).inTransaction = false →
      call.perform server (after server ⟨state, greeting, false⟩ calls) =
        (.ok (), after server ⟨state, greeting, false⟩ calls)) ∧
    Converses server state greeting false
      ((backend server).close.outcome (after server ⟨state, greeting, false⟩ calls)).2 := by
  have start : Sound server state greeting ⟨state, greeting, false⟩ :=
    ⟨[], (List.append_nil _).symm, rfl, trivial, rfl⟩
  have sound := sound_after start calls
  refine ⟨sound, fun call ends outside => ?_, ?_⟩
  · simp only [List.mem_cons, List.not_mem_nil, or_false] at ends
    rcases ends with rfl | rfl <;> exact endTransaction_of_outside outside _
  · obtain ⟨ended, closed⟩ :=
      (ensures_endTransaction (.inr rfl)).reaches (fun _ closed => closed) sound
    rw [Sound, closed] at ended
    exact ended

end NativeSession

end SqlDialect
