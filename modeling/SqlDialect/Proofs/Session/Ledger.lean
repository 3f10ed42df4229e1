import SqlDialect.Proofs.Engine.Connection
import SqlDialect.Proofs.Session.Trace

/-! What a session commits and what it takes back.

From the requests that a session makes of its connection a ledger is kept: the content at the last
commit, beside the content that all statements since have made of it. What is saved in the database
is the one, and what the session sees is the other, whether its calls succeed or fail.
-/

set_option autoImplicit false

namespace SqlDialect

variable {σ π γ : Type} {conn : Connection σ π} {v : Contents σ γ} {s t : σ}

namespace Event

def next (conn : Connection σ π) (event : Event σ π) : σ := (conn.serve event.state event.request).2

def accepted (conn : Connection σ π) (event : Event σ π) : Bool :=
  (conn.serve event.state event.request).1

/-- A request that is no control over a transaction: one that is open stays open, and what is saved
beside it is not touched. -/
def LeavesOpen (conn : Connection σ π) (v : Contents σ γ) (event : Event σ π) : Prop :=
  conn.isAutocommit event.state = false →
    conn.isAutocommit (event.next conn) = false ∧ v.saved (event.next conn) = v.saved event.state

end Event

/-! ## The ledger -/

structure Ledger (γ : Type) where
  /-- The content at the last commit. -/
  committed : γ
  /-- What the statements since then have made of it, as far as they have not been taken back. -/
  current : γ

def ConnectionRequest.isEnd : ConnectionRequest π → Bool
  | batch text => text == "COMMIT" || text == "ROLLBACK"
  | _ => false

/-- A request that touches no content: something is prepared or told, or a transaction is begun, or
its end is refused. -/
def Event.isIdle (conn : Connection σ π) (event : Event σ π) : Bool :=
  match event.request with
  | .batch text =>
    text == "BEGIN" || (ConnectionRequest.batch (π := π) text).isEnd && !event.accepted conn
  | .prepare _ | .lastInsertRowid => true
  | _ => false

namespace Ledger

def ofState (v : Contents σ γ) (s : σ) : Ledger γ := ⟨v.saved s, v.content s⟩

/-- What is entered for one request. A statement finds the current content, and what the engine
makes of it is the next. -/
inductive Posts (conn : Connection σ π) (v : Contents σ γ) (l : Ledger γ) (event : Event σ π) :
    Ledger γ → Prop where
  | idle : event.isIdle conn = true → Posts conn v l event l
  | commit : event.request = .batch "COMMIT" → event.accepted conn = true →
      Posts conn v l event ⟨l.current, l.current⟩
  | rollback : event.request = .batch "ROLLBACK" → event.accepted conn = true →
      Posts conn v l event ⟨l.committed, l.committed⟩
  | statement : event.isIdle conn = false → event.request.isEnd = false →
      v.content event.state = l.current →
      Posts conn v l event ⟨l.committed, v.content (event.next conn)⟩

/-- The entries for requests, one after another. -/
inductive Posted (conn : Connection σ π) (v : Contents σ γ) (start : Ledger γ) :
    List (Event σ π) → Ledger γ → Prop where
  | nil : Posted conn v start [] start
  | snoc {events : List (Event σ π)} {event : Event σ π} {l l' : Ledger γ} :
      Posted conn v start events l → l.Posts conn v event l' →
      Posted conn v start (events ++ [event]) l'

variable {start l l' : Ledger γ} {events later : List (Event σ π)}

theorem Posted.append (first : Posted conn v start events l) (second : Posted conn v l later l') :
    Posted conn v start (events ++ later) l' := by
  induction second with
  | nil => rwa [List.append_nil]
  | snoc _ posts ih =>
    rw [← List.append_assoc]
    exact .snoc ih posts

end Ledger

theorem Connection.Unmoved.ofState_eq (same : conn.Unmoved v s t) :
    Ledger.ofState v t = .ofState v s := by
  rw [Ledger.ofState, Ledger.ofState, same.saved, same.content]

section

variable {start : Ledger γ} {events : List (Event σ π)} {event : Event σ π}
  (laws : conn.Transactional v)

include laws

theorem Ledger.ofState_of_outside (outside : conn.isAutocommit s = true) :
    ofState v s = ⟨v.saved s, v.saved s⟩ := by
  rw [ofState, laws.outside outside]

theorem Event.ofState_next_of_isIdle (idle : event.isIdle conn = true) :
    Ledger.ofState v (event.next conn) = .ofState v event.state := by
  obtain ⟨s, request⟩ := event
  cases request with
  | prepare text => exact (laws.prepares text s).ofState_eq
  | lastInsertRowid => exact (laws.tells s).ofState_eq
  | batch text =>
    change Ledger.ofState v (conn.batch text s).2 = _
    rcases ran : conn.batch text s with ⟨error | _, t⟩
    · simp only [isIdle, ConnectionRequest.isEnd, Bool.or_eq_true, beq_iff_eq,
        Bool.and_eq_true] at idle
      have listed : text ∈ (["BEGIN", "COMMIT", "ROLLBACK"] : List Text) := by
        simp only [List.mem_cons, List.not_mem_nil, or_false]
        exact idle.imp_right And.left
      exact (laws.refuses listed ran).ofState_eq
    · -- the other commands are only idle where they are refused
      simp only [isIdle, accepted, Connection.serve, ran] at idle
      obtain rfl : text = "BEGIN" := by simpa [Except.isOk, Except.toBool] using idle
      obtain ⟨-, -, saved, content⟩ := laws.begins ran
      rw [Ledger.ofState, Ledger.ofState, saved, content]
  | _ => cases idle

theorem Ledger.Posted.idle (posted : Posted conn v start events (.ofState v event.state))
    (idle : event.isIdle conn = true) :
    Posted conn v start (events ++ [event]) (.ofState v (event.next conn)) := by
  rw [Event.ofState_next_of_isIdle laws idle]
  exact .snoc posted (.idle idle)

theorem Event.LeavesOpen.isIdle (leaves : event.LeavesOpen conn v)
    (within : conn.isAutocommit event.state = false) (ends : event.request.isEnd = true) :
    event.isIdle conn = true := by
  obtain ⟨s, request⟩ := event
  obtain ⟨stays, -⟩ := leaves within
  cases request with
  | batch text =>
    -- an end that is accepted leaves no transaction open
    change conn.isAutocommit (conn.batch text s).2 = false at stays
    rcases ran : conn.batch text s with ⟨error | _, t⟩ <;> rw [ran] at stays
    · have refused : Event.accepted conn ⟨s, .batch text⟩ = false := by
        rw [Event.accepted, Connection.serve, ran]
        rfl
      simp [Event.isIdle, ends, refused]
    · have closed : conn.isAutocommit t = true := by
        obtain rfl | rfl : text = "COMMIT" ∨ text = "ROLLBACK" := by
          simpa [ConnectionRequest.isEnd] using ends
        · exact (laws.commits within ran).1
        · exact (laws.rollsBack within ran).1
      rw [stays] at closed
      cases closed
  | _ => cases ends

theorem Ledger.Posted.serve (posted : Posted conn v start events (.ofState v event.state))
    (leaves : event.LeavesOpen conn v) (within : conn.isAutocommit event.state = false) :
    Posted conn v start (events ++ [event]) (.ofState v (event.next conn)) := by
  cases idle : event.isIdle conn with
  | true => exact posted.idle laws idle
  | false =>
    cases ends : event.request.isEnd with
    | true =>
      rw [leaves.isIdle laws within ends] at idle
      cases idle
    | false =>
      rw [ofState, (leaves within).2]
      exact .snoc posted (.statement idle ends rfl)

end

namespace Translating

/-- No statement of the call is control over a transaction. -/
def Call.Uncontrolled (conn : Connection σ π) (v : Contents σ γ) (s : σ) (call : Call) : Prop :=
  call ∈ [commit, rollback] ∨ ∀ event ∈ call.events conn s, event.LeavesOpen conn v

/-- No request that has been noted was control over a transaction. -/
def AllLeaveOpen (conn : Connection σ π) (v : Contents σ γ) (s : σ × List (Event σ π)) : Prop :=
  ∀ event ∈ s.2, event.LeavesOpen conn v

theorem allLeaveOpen_snoc_iff {s : σ × List (Event σ π)} {t : σ} {event : Event σ π} :
    AllLeaveOpen conn v (t, s.2 ++ [event]) ↔
      AllLeaveOpen conn v s ∧ event.LeavesOpen conn v := by
  unfold AllLeaveOpen
  rw [List.forall_mem_append, List.forall_mem_singleton]

/-- Unless a request was control over a transaction, the ledger of what has been noted is that of
the state, and the same is saved. -/
def Tallies (conn : Connection σ π) (v : Contents σ γ) (start : Ledger γ)
    (s : σ × List (Event σ π)) : Prop :=
  AllLeaveOpen conn v s →
    Ledger.Posted conn v start s.2 (.ofState v s.1) ∧ v.saved s.1 = start.committed

/-- A transaction is open besides. -/
def TalliesWithin (conn : Connection σ π) (v : Contents σ γ) (start : Ledger γ)
    (s : σ × List (Event σ π)) : Prop :=
  AllLeaveOpen conn v s → conn.isAutocommit s.1 = false ∧
    Ledger.Posted conn v start s.2 (.ofState v s.1) ∧ v.saved s.1 = start.committed

section

variable {start : Ledger γ} (laws : conn.Transactional v)

include laws

theorem TalliesWithin.next {s : σ × List (Event σ π)} (tallies : TalliesWithin conn v start s)
    (request : ConnectionRequest π) :
    TalliesWithin conn v start ((conn.serve s.1 request).2, s.2 ++ [⟨s.1, request⟩]) := by
  intro all
  obtain ⟨before, leaves⟩ := allLeaveOpen_snoc_iff.1 all
  obtain ⟨within, posted, saved⟩ := tallies before
  obtain ⟨stays, kept⟩ := leaves within
  exact ⟨stays, posted.serve laws leaves within, kept.trans saved⟩

theorem Tallies.begin {s : σ × List (Event σ π)} (tallies : Tallies conn v start s) :
    Tallies conn v start (conn.traced.batch "BEGIN" s).2 := by
  intro all
  obtain ⟨posted, saved⟩ := tallies (allLeaveOpen_snoc_iff.1 all).1
  have idle : Event.isIdle conn ⟨s.1, .batch "BEGIN"⟩ = true := by simp [Event.isIdle]
  have same := congrArg Ledger.committed (Event.ofState_next_of_isIdle laws idle)
  exact ⟨posted.idle laws idle, same.trans saved⟩

theorem keeps_tallies (start : Ledger γ) (text : Text) :
    conn.traced.Keeps (Tallies conn v start) (TalliesWithin conn v start) text where
  weaker within leaves := (within leaves).2
  enters tallies within leaves := ⟨within, tallies leaves⟩
  begins := by
    intro s t tallies outside ran
    have next := tallies.begin laws
    rw [ran] at next
    obtain ⟨ran, -⟩ := Connection.of_note_eq ran
    exact fun leaves => ⟨(laws.begins ran).2.1, next leaves⟩
  refuses := by
    intro s t error tallies outside ran
    have next := tallies.begin laws
    rwa [ran] at next
  prepares tallies := tallies.next laws (.prepare text)
  does := by
    intro s t tallies does
    obtain ⟨-, request, noted⟩ := Connection.exists_of_does_traced does
    rw [noted]
    exact tallies.next laws request
  tells tallies := tallies.next laws .lastInsertRowid

theorem posts_end {command : Text} (listed : command ∈ (["COMMIT", "ROLLBACK"] : List Text))
    (within : conn.isAutocommit s = false) :
    Ledger.Posts conn v (.ofState v s) ⟨s, .batch command⟩
      (.ofState v (conn.batch command s).2) := by
  have ends : (ConnectionRequest.batch (π := π) command).isEnd = true := by
    simpa [ConnectionRequest.isEnd] using listed
  rcases ran : conn.batch command s with ⟨error | _, t⟩
  · have refused : Event.accepted conn ⟨s, .batch command⟩ = false := by
      rw [Event.accepted, Connection.serve, ran]
      rfl
    rw [(laws.refuses (List.mem_cons_of_mem _ listed) ran).ofState_eq]
    exact .idle (by simp [Event.isIdle, ends, refused])
  · have accepted : Event.accepted conn ⟨s, .batch command⟩ = true := by
      rw [Event.accepted, Connection.serve, ran]
      rfl
    obtain rfl | rfl : command = "COMMIT" ∨ command = "ROLLBACK" := by simpa using listed
    · obtain ⟨outside, saved⟩ := laws.commits within ran
      rw [Ledger.ofState_of_outside laws outside, saved]
      exact .commit rfl accepted
    · obtain ⟨outside, saved⟩ := laws.rollsBack within ran
      rw [Ledger.ofState_of_outside laws outside, saved]
      exact .rollback rfl accepted

theorem posted_end {command : Text} (listed : command ∈ (["COMMIT", "ROLLBACK"] : List Text)) :
    Ledger.Posted conn v (.ofState v s) (endTransaction conn.traced command (s, [])).2.2
      (.ofState v (endTransaction conn command s).2) := by
  cases outside : conn.isAutocommit s with
  | true =>
    have silent : endTransaction conn.traced command (s, []) = (.ok (), s, []) :=
      endTransaction_of_outside command outside
    rw [endTransaction_of_outside command outside, silent]
    exact .nil
  | false =>
    have noted : (endTransaction conn.traced command (s, [])).2.2 = [⟨s, .batch command⟩] := by
      rw [endTransaction, if_neg (by simp [Connection.traced, outside])]
      rfl
    rw [noted, endTransaction, if_neg (by simp [outside])]
    exact .snoc .nil (posts_end laws listed outside)

theorem Call.tallies_events {call : Call} (goesOn : call ∉ [commit, rollback])
    (plain : call.Uncontrolled conn v s) :
    Ledger.Posted conn v (.ofState v s) (call.events conn s) (.ofState v (call.perform conn s).2) ∧
      v.saved (call.perform conn s).2 = v.saved s := by
  have start : Tallies conn v (.ofState v s) (s, []) := fun _ => ⟨.nil, rfl⟩
  have tallies := call.steady_perform start (fun text _ => keeps_tallies laws _ text)
    fun ends => absurd ends goesOn
  rw [call.state_perform_traced] at tallies
  exact tallies (plain.resolve_left goesOn)

theorem Call.posted_events {call : Call} (plain : call.Uncontrolled conn v s) :
    Ledger.Posted conn v (.ofState v s) (call.events conn s)
      (.ofState v (call.perform conn s).2) := by
  by_cases ends : call ∈ [commit, rollback]
  · obtain rfl | rfl : call = commit ∨ call = rollback := by simpa using ends
    · rw [events, perform_commit, perform_commit]
      exact posted_end laws (by simp)
    · rw [events, perform_rollback, perform_rollback]
      exact posted_end laws (by simp)
  · exact (tallies_events laws ends plain).1

end

/-! ## Calls one after another -/

def Uncontrolled (conn : Connection σ π) (v : Contents σ γ) (s : σ) : List Call → Prop
  | [] => True
  | call :: calls =>
    call.Uncontrolled conn v s ∧ Uncontrolled conn v (call.perform conn s).2 calls

/-- A commit that succeeds. -/
def Call.commits (conn : Connection σ π) (s : σ) : Call → Bool
  | commit => (commit.perform conn s).1.isOk
  | _ => false

/-- The content at the last commit that succeeds; if there is none, what was saved at first. -/
def lastCommitted (conn : Connection σ π) (v : Contents σ γ) (saved : γ) (s : σ) :
    List Call → γ
  | [] => saved
  | call :: calls =>
    let t := (call.perform conn s).2
    lastCommitted conn v (if call.commits conn s then v.content t else saved) t calls

section

variable {calls : List Call} (laws : conn.Transactional v)

include laws

theorem posted_events (plain : Uncontrolled conn v s calls) :
    Ledger.Posted conn v (.ofState v s) (events conn s calls)
      (.ofState v (after conn s calls)) := by
  induction calls generalizing s with
  | nil => exact .nil
  | cons call calls ih => exact (Call.posted_events laws plain.1).append (ih plain.2)

theorem of_perform_commit (done : Call.commit.perform conn s = (.ok (), t)) :
    v.saved t = v.content s ∧ v.content t = v.content s := by
  obtain ⟨closed, saved⟩ := committed laws (Step.outcome_ofAnswer_eq_ok.1 done)
  exact ⟨saved, (laws.outside closed).trans saved⟩

theorem of_perform_rollback (done : Call.rollback.perform conn s = (.ok (), t)) :
    v.saved t = v.saved s ∧ v.content t = v.saved s := by
  obtain ⟨closed, saved⟩ := rolledBack laws (Step.outcome_ofAnswer_eq_ok.1 done)
  exact ⟨saved, (laws.outside closed).trans saved⟩

theorem unmoved_of_perform_end {call : Call} (ends : call ∈ [.commit, .rollback])
    {failure : Failure} (failed : call.perform conn s = (.error failure, t)) :
    conn.Unmoved v s t := by
  obtain rfl | rfl : call = .commit ∨ call = .rollback := by simpa using ends
  · obtain ⟨fault, refused⟩ := Step.exists_of_outcome_ofAnswer_eq_error failed
    exact unmoved_of_not_ended laws (by simp) refused
  · obtain ⟨fault, refused⟩ := Step.exists_of_outcome_ofAnswer_eq_error failed
    exact unmoved_of_not_ended laws (by simp) refused

theorem Call.saved_perform_of_ne {call : Call} (plain : call.Uncontrolled conn v s)
    (other : call ≠ commit) : v.saved (call.perform conn s).2 = v.saved s := by
  by_cases back : call = rollback
  · subst back
    rcases ran : rollback.perform conn s with ⟨failure | _, t⟩
    · exact (unmoved_of_perform_end laws (by simp) ran).saved
    · exact (of_perform_rollback laws ran).1
  · exact (tallies_events laws (by simp [other, back]) plain).2

theorem Call.saved_perform {call : Call} (plain : call.Uncontrolled conn v s) :
    v.saved (call.perform conn s).2 =
      if call.commits conn s then v.content (call.perform conn s).2 else v.saved s := by
  by_cases commits : call = commit
  · subst commits
    rw [Call.commits]
    rcases ran : commit.perform conn s with ⟨failure | _, t⟩
    · exact (unmoved_of_perform_end laws (by simp) ran).saved
    · obtain ⟨saved, content⟩ := of_perform_commit laws ran
      exact saved.trans content.symm
  · have goesOn : call.commits conn s = false := by
      cases call with
      | commit => exact absurd rfl commits
      | _ => rfl
    rw [goesOn, saved_perform_of_ne laws plain commits]
    rfl

theorem saved_after (plain : Uncontrolled conn v s calls) :
    v.saved (after conn s calls) = lastCommitted conn v (v.saved s) s calls := by
  induction calls generalizing s with
  | nil => rfl
  | cons call calls ih =>
    rw [after, lastCommitted, ih plain.2, Call.saved_perform laws plain.1]

/-- However calls succeed or fail, a session keeps its ledger: what is saved is the content at the
last commit, and the content is what the statements since then have made of that. So a commit saves
just their effects, and to roll back leaves the content as the last commit or the opening left it.
An end of the transaction that fails changes nothing, a call that fails in massaging does nothing,
and neither does a commit or a rollback without a transaction. -/
theorem after_keeps_ledger (plain : Uncontrolled conn v s calls) :
    Ledger.Posted conn v (.ofState v s) (events conn s calls) (.ofState v (after conn s calls)) ∧
    (∀ t, Call.commit.perform conn (after conn s calls) = (.ok (), t) →
      v.saved t = v.content (after conn s calls) ∧ v.content t = v.content (after conn s calls)) ∧
    (∀ t, Call.rollback.perform conn (after conn s calls) = (.ok (), t) →
      v.saved t = lastCommitted conn v (v.saved s) s calls ∧
      v.content t = lastCommitted conn v (v.saved s) s calls) ∧
    (∀ call ∈ [Call.commit, .rollback], ∀ failure t,
      call.perform conn (after conn s calls) = (.error failure, t) →
      conn.Unmoved v (after conn s calls) t) ∧
    (∀ (call : Call) (mismatch : Mismatch), call.mismatch? = some mismatch →
      call.perform conn (after conn s calls) =
        (.error (.fault mismatch.toFault), after conn s calls)) ∧
    (conn.isAutocommit (after conn s calls) = true → ∀ call ∈ [Call.commit, .rollback],
      call.perform conn (after conn s calls) = (.ok (), after conn s calls)) := by
  refine ⟨posted_events laws plain, fun t done => of_perform_commit laws done, ?_,
    fun call ends failure t failed => unmoved_of_perform_end laws ends failed,
    fun call mismatch differs => Call.perform_of_mismatch differs conn _,
    fun outside call ends => Call.perform_of_outside ends outside⟩
  intro t done
  rw [← saved_after laws plain]
  exact of_perform_rollback laws done

end

/-! ## A call that is half done -/

theorem AllLeaveOpen.unmoved {s : σ × List (Event σ π)} (all : AllLeaveOpen conn v s)
    (request : ConnectionRequest π) (same : conn.Unmoved v s.1 (conn.serve s.1 request).2) :
    AllLeaveOpen conn v ((conn.serve s.1 request).2, s.2 ++ [⟨s.1, request⟩]) :=
  allLeaveOpen_snoc_iff.2 ⟨all, fun within => ⟨same.isAutocommit.trans within, same.saved⟩⟩

theorem AllLeaveOpen.begin {s : σ × List (Event σ π)} (all : AllLeaveOpen conn v s)
    (outside : conn.isAutocommit s.1 = true) :
    AllLeaveOpen conn v (conn.traced.batch "BEGIN" s).2 := by
  refine allLeaveOpen_snoc_iff.2 ⟨all, fun within => ?_⟩
  rw [outside] at within
  cases within

theorem keeps_allLeaveOpen (laws : conn.Transactional v) {text : Text}
    (plain : conn.Uncontrolled v text) :
    conn.traced.Keeps (AllLeaveOpen conn v)
      (fun s => AllLeaveOpen conn v s ∧ conn.isAutocommit s.1 = false) text where
  weaker := And.left
  enters := And.intro
  begins := by
    intro s t all outside ran
    have next := all.begin outside
    rw [ran] at next
    exact ⟨next, (laws.begins (Connection.of_note_eq ran).1).2.1⟩
  refuses := by
    intro s t error all outside ran
    have next := all.begin outside
    rwa [ran] at next
  prepares := by
    rintro s ⟨all, within⟩
    have same := laws.prepares text s.1
    exact ⟨all.unmoved (.prepare text) same, same.isAutocommit.trans within⟩
  does := by
    rintro s t ⟨all, within⟩ does
    obtain ⟨does, request, rfl⟩ := Connection.exists_of_does_traced does
    obtain ⟨stays, saved⟩ := plain _ _ within does
    exact ⟨allLeaveOpen_snoc_iff.2 ⟨all, fun _ => ⟨stays, saved⟩⟩, stays⟩
  tells := by
    rintro s ⟨all, within⟩
    have same := laws.tells s.1
    exact ⟨all.unmoved .lastInsertRowid same, same.isAutocommit.trans within⟩

theorem Call.uncontrolled_of_texts (laws : conn.Transactional v) {call : Call} (s : σ)
    (texts : ∀ text ∈ call.texts, conn.Uncontrolled v text) : call.Uncontrolled conn v s := by
  by_cases ends : call ∈ [commit, rollback]
  · exact .inl ends
  · have start : AllLeaveOpen conn v (s, []) := fun _ none => absurd none List.not_mem_nil
    exact .inr (call.steady_perform start
      (fun text mem => keeps_allLeaveOpen laws (texts text mem)) fun listed => absurd listed ends)

theorem uncontrolled_of_texts (laws : conn.Transactional v) {calls : List Call} (s : σ)
    (texts : ∀ call ∈ calls, ∀ text ∈ call.texts, conn.Uncontrolled v text) :
    Uncontrolled conn v s calls := by
  induction calls generalizing s with
  | nil => trivial
  | cons call calls ih =>
    obtain ⟨here, texts⟩ := List.forall_mem_cons.1 texts
    exact ⟨Call.uncontrolled_of_texts laws s here, ih _ texts⟩

section

open Engine (Database)

def halfDone : List Call :=
  [.execute "CREATE TABLE t (a UNIQUE)", .commit, .run "a = ANY (%s)" [],
    .runMany "INSERT INTO t VALUES (%s)" [[.scalar (.int 1)], [.scalar (.int 1)]]]

theorem after_keeps_ledger_half_done :
    let s := after Database.connection (.ofCatalog .empty) halfDone
    s.catalog.tables.map (·.rows.length) = [1] ∧
      ∃ t, Call.rollback.perform Database.connection s = (.ok (), t) ∧
        t.catalog.tables.map (·.rows.length) = [0] := by
  intro s
  have laws := Database.transactional
  have plain : ∀ call ∈ halfDone, ∀ text ∈ call.texts,
      ';' ∉ text ∧ Engine.endsTransaction text = false := by
    decide +kernel
  have uncontrolled : Uncontrolled Database.connection Database.contents (.ofCatalog .empty)
      halfDone :=
    uncontrolled_of_texts laws _ fun call mem text written =>
      Database.uncontrolled (plain call mem text written).1 (plain call mem text written).2
  have kept : (lastCommitted Database.connection Database.contents .empty (.ofCatalog .empty)
      halfDone).tables.map (·.rows.length) = [0] := by
    decide +kernel
  refine ⟨by decide +kernel, ?_⟩
  have accepted : (Call.rollback.perform Database.connection s).1.isOk = true := by
    decide +kernel
  rcases back : Call.rollback.perform Database.connection s with ⟨failure | _, t⟩
  · rw [back] at accepted
    cases accepted
  · obtain ⟨-, -, backs, -⟩ := after_keeps_ledger laws uncontrolled
    refine ⟨t, rfl, ?_⟩
    change (Database.contents.content t).tables.map _ = _
    rw [(backs t back).2]
    exact kept

end

end Translating

end SqlDialect
