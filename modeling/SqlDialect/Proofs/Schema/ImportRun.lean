import SqlDialect.Proofs.Schema.Registry
import SqlDialect.Schema.Import

/-! A schema import as its target sees it: the calls it gets and what the report makes of the
answers.

What is sent is settled by the statements alone. The answers decide what is counted, and whether
there is a commit.
-/

set_option autoImplicit false

namespace SqlDialect

variable {σ : Type}

/-! ## Calls and answers -/

inductive Call where
  | execute (command : Text)
  | commit

structure Exchange where
  call : Call
  answer : Except Fault Unit

namespace Exchange

def accepted : Exchange → Bool
  | ⟨.execute _, .ok ()⟩ => true
  | _ => false

def refused : Exchange → Bool
  | ⟨.execute _, .error _⟩ => true
  | _ => false

end Exchange

/-- A target that keeps every exchange with it beside its state. -/
def Target.recorded (target : Target σ) : Target (σ × List Exchange) where
  execute command state :=
    let answered := target.execute command state.1
    (answered.1, answered.2, state.2 ++ [⟨.execute command, answered.1⟩])
  commit state :=
    let answered := target.commit state.1
    (answered.1, answered.2, state.2 ++ [⟨.commit, answered.1⟩])

/-! ## What the statements say -/

def declaredType? (statement : Text) : Option EnumType :=
  if StatementKind.ofText statement = .enumDeclaration then (EnumType.parse statement).toOption
  else none

/-- The types that can be read from the declarations among statements. -/
def declaredTypes (statements : List Text) : List EnumType := statements.filterMap declaredType?

/-- A declaration that no type can be read from. -/
def misdeclares (statement : Text) : Bool :=
  StatementKind.ofText statement = .enumDeclaration && (declaredType? statement).isNone

/-- What is sent for a statement if some types are in force. -/
def command? (enums : EnumRegistry) (statement : Text) : Option Text :=
  match StatementKind.ofText statement with
  | .translatable => some (translateSchema enums statement)
  | .unrecognized => some statement
  | _ => none

def commandAfter? (earlier : List Text) (statement : Text) : Option Text :=
  command? ⟨EnumRegistry.inForce (declaredTypes earlier)⟩ statement

/-- What is sent for statements, each after those before it. -/
def commands (statements : List Text) : List Text :=
  statements.zipIdx.filterMap fun seen => commandAfter? (statements.take seen.2) seen.1

theorem filterMap_singleton {α β : Type} (f : α → Option β) (a : α) :
    [a].filterMap f = (f a).toList := by
  cases found : f a with
  | none => exact List.filterMap_cons_none found
  | some b => exact List.filterMap_cons_some found

theorem declaredTypes_concat (statements : List Text) (statement : Text) :
    declaredTypes (statements ++ [statement]) =
      declaredTypes statements ++ (declaredType? statement).toList := by
  unfold declaredTypes
  rw [List.filterMap_append, filterMap_singleton]

theorem commands_concat (statements : List Text) (statement : Text) :
    commands (statements ++ [statement]) =
      commands statements ++ (commandAfter? statements statement).toList := by
  have earlier : (statements.zipIdx.filterMap fun seen =>
      commandAfter? ((statements ++ [statement]).take seen.2) seen.1) = commands statements := by
    apply List.filterMap_congr
    intro seen mem
    have bound : seen.2 < statements.length := (List.mem_zipIdx' mem).1
    rw [List.take_append_of_le_length (Nat.le_of_lt bound)]
  rw [commands, List.zipIdx_append, List.filterMap_append, earlier, List.zipIdx_singleton,
    filterMap_singleton, Nat.zero_add, List.take_left]

theorem commands_prefix (statements later : List Text) :
    commands statements <+: commands (statements ++ later) := by
  induction later generalizing statements with
  | nil => simp only [List.append_nil, List.prefix_rfl]
  | cons statement later ih =>
    have extended := ih (statements ++ [statement])
    rw [commands_concat, List.append_assoc] at extended
    exact (List.prefix_append _ _).trans extended

example : commands ["CREATE TYPE k AS ENUM ('a')", "CREATE TABLE t (c k)",
      "CREATE TYPE k AS ENUM ('b')", "SET x = 1", "CREATE TABLE u (c k)", "VACUUM"] =
    ["CREATE TABLE t ( c text check ( c in ( 'a' ) ) )",
      "CREATE TABLE u ( c text check ( c in ( 'b' ) ) )", "VACUUM"] := by
  decide +kernel

/-! ## One command -/

namespace ImportReport

def failed (report : ImportReport) (kind : FailureKind) : Nat :=
  report.failures.countP (·.kind = kind)

variable (report : ImportReport) (failure : StatementFailure)

@[simp]
theorem failed_fail (kind : FailureKind) :
    (report.fail failure).failed kind =
      report.failed kind + if failure.kind = kind then 1 else 0 := by
  unfold failed fail
  rw [List.countP_append, List.countP_singleton]
  simp only [decide_eq_true_eq]

@[simp]
theorem executed_fail : (report.fail failure).executed = report.executed := rfl

@[simp]
theorem skipped_fail : (report.fail failure).skipped = report.skipped := rfl

@[simp]
theorem enums_fail : (report.fail failure).enums = report.enums := rfl

@[simp]
theorem committed_fail : (report.fail failure).committed = report.committed := rfl

end ImportReport

def Target.exchange (target : Target σ) (command : Text) (state : σ) : Exchange :=
  ⟨.execute command, (target.execute command state).1⟩

@[simp]
theorem Target.call_exchange (target : Target σ) (command : Text) (state : σ) :
    (target.exchange command state).call = .execute command := rfl

section

variable (target : Target σ) (report : ImportReport) (state : σ) (statement command : Text)

theorem sendStatement_recorded (log : List Exchange) :
    sendStatement target.recorded report (state, log) statement command =
      let sent := sendStatement target report state statement command
      (sent.1, sent.2, log ++ [target.exchange command state]) := by
  simp only [sendStatement, Target.recorded, Target.exchange]
  rcases target.execute command state with ⟨_ | _, _⟩ <;> rfl

@[simp]
theorem sendStatement_skipped :
    (sendStatement target report state statement command).1.skipped = report.skipped := by
  unfold sendStatement
  rcases target.execute command state with ⟨_ | _, _⟩ <;> rfl

@[simp]
theorem sendStatement_enums :
    (sendStatement target report state statement command).1.enums = report.enums := by
  unfold sendStatement
  rcases target.execute command state with ⟨_ | _, _⟩ <;> rfl

@[simp]
theorem sendStatement_committed :
    (sendStatement target report state statement command).1.committed = report.committed := by
  unfold sendStatement
  rcases target.execute command state with ⟨_ | _, _⟩ <;> rfl

@[simp]
theorem sendStatement_executed :
    (sendStatement target report state statement command).1.executed =
      report.executed + if (target.exchange command state).accepted then 1 else 0 := by
  unfold sendStatement Target.exchange
  rcases target.execute command state with ⟨_ | _, _⟩ <;> rfl

@[simp]
theorem sendStatement_failed (kind : FailureKind) :
    (sendStatement target report state statement command).1.failed kind =
      report.failed kind +
        if kind = .execution ∧ (target.exchange command state).refused then 1 else 0 := by
  unfold sendStatement Target.exchange
  rcases target.execute command state with ⟨_ | _, _⟩
  · rw [ImportReport.failed_fail]
    cases kind <;> rfl
  · cases kind <;> rfl

theorem state_sendStatement :
    (sendStatement target report state statement command).2 =
      (target.execute command state).2 := by
  unfold sendStatement
  rcases target.execute command state with ⟨_ | _, _⟩ <;> rfl

end

/-! ## One statement -/

theorem state_importStatement (target : Target σ) (report : ImportReport) (state : σ)
    (statement : Text) :
    (importStatement target report state statement).2 =
      (command? report.enums statement).elim state fun command =>
        (target.execute command state).2 := by
  unfold importStatement command?
  cases StatementKind.ofText statement with
  | sessionSetting | unsupportedIndex | alterTable => rfl
  | enumDeclaration => cases EnumType.parse statement <;> rfl
  | translatable | unrecognized => exact state_sendStatement ..

-- What trying a statement adds to a report, with what passes meanwhile. The kinds of statements
-- are told apart here and nowhere else; a run only adds up.
structure Adds (statement : Text) (report after : ImportReport) (passed : List Exchange) :
    Prop where
  calls : passed.map Exchange.call = (command? report.enums statement).toList.map Call.execute
  enums : after.enums = (declaredType? statement).elim report.enums report.enums.register
  committed : after.committed = report.committed
  executed : after.executed = report.executed + passed.countP Exchange.accepted
  unrecognized : after.failed .unrecognized = report.failed .unrecognized +
    [statement].countP (StatementKind.ofText · = .unrecognized)
  translation : after.failed .translation =
    report.failed .translation + [statement].countP misdeclares
  execution : after.failed .execution = report.failed .execution + passed.countP Exchange.refused
  -- a statement is skipped, sent, or read as a declaration, successfully or not
  skipped : after.skipped + passed.length + (declaredType? statement).toList.length +
    [statement].countP misdeclares = report.skipped + 1

theorem importStatement_adds (target : Target σ) (report : ImportReport) (state : σ)
    (statement : Text) :
    ∃ passed,
      (∀ log, importStatement target.recorded report (state, log) statement =
        let tried := importStatement target report state statement
        (tried.1, tried.2, log ++ passed)) ∧
      Adds statement report (importStatement target report state statement).1 passed := by
  unfold importStatement
  cases kind : StatementKind.ofText statement with
  | sessionSetting | unsupportedIndex | alterTable =>
    refine ⟨[], fun log => by rw [List.append_nil], ?_⟩
    constructor <;> simp [command?, declaredType?, misdeclares, kind, ImportReport.failed]
  | enumDeclaration =>
    refine ⟨[], fun log => by cases EnumType.parse statement <;> rw [List.append_nil], ?_⟩
    cases parsed : EnumType.parse statement with
    | ok type =>
      constructor <;> simp [command?, declaredType?, misdeclares, kind, parsed, Except.toOption,
        ImportReport.failed]
    | error fault =>
      constructor <;> simp [command?, declaredType?, misdeclares, kind, parsed, Except.toOption]
  | translatable =>
    let command := translateSchema report.enums statement
    refine ⟨[target.exchange command state], fun log => sendStatement_recorded .., ?_⟩
    constructor <;>
      simp [command?, declaredType?, misdeclares, kind, command]
  | unrecognized =>
    refine ⟨[target.exchange statement state], fun log => sendStatement_recorded .., ?_⟩
    constructor <;>
      simp [command?, declaredType?, misdeclares, kind]

/-! ## All statements -/

-- The invariant of a run: what a report and the exchanges so far say of the statements that have
-- been tried, whatever the answers were.
structure Tried (statements : List Text) (report : ImportReport) (log : List Exchange) :
    Prop where
  calls : log.map Exchange.call = (commands statements).map Call.execute
  enums : report.enums = ⟨EnumRegistry.inForce (declaredTypes statements)⟩
  committed : report.committed = false
  executed : report.executed = log.countP Exchange.accepted
  unrecognized : report.failed .unrecognized =
    statements.countP (StatementKind.ofText · = .unrecognized)
  translation : report.failed .translation = statements.countP misdeclares
  execution : report.failed .execution = log.countP Exchange.refused
  skipped : report.skipped + log.length + (declaredTypes statements).length +
    statements.countP misdeclares = statements.length

theorem Tried.nil : Tried [] .empty [] := ⟨rfl, rfl, rfl, rfl, rfl, rfl, rfl, rfl⟩

section

variable {statements : List Text} {statement : Text} {report after : ImportReport}
  {log passed : List Exchange}

theorem Tried.concat (tried : Tried statements report log)
    (adds : Adds statement report after passed) :
    Tried (statements ++ [statement]) after (log ++ passed) where
  calls := by
    rw [List.map_append, tried.calls, adds.calls, tried.enums, commands_concat, commandAfter?,
      List.map_append]
  enums := by
    rw [adds.enums, declaredTypes_concat, tried.enums]
    cases declaredType? statement with
    | none => rw [Option.toList_none, List.append_nil]; rfl
    | some type => exact EnumRegistry.register_inForce _ type
  committed := by rw [adds.committed, tried.committed]
  executed := by rw [adds.executed, tried.executed, List.countP_append]
  unrecognized := by rw [adds.unrecognized, tried.unrecognized, List.countP_append]
  translation := by rw [adds.translation, tried.translation, List.countP_append]
  execution := by rw [adds.execution, tried.execution, List.countP_append]
  skipped := by
    have before := tried.skipped
    have here := adds.skipped
    rw [declaredTypes_concat, List.countP_append]
    simp only [List.length_append, List.length_singleton]
    omega

theorem Tried.run (target : Target σ) (rest : List Text) (state : σ)
    (tried : Tried statements report log) :
    ∃ passed,
      importEach target.recorded report (state, log) rest =
        ((importEach target report state rest).1, (importEach target report state rest).2,
          log ++ passed) ∧
      Tried (statements ++ rest) (importEach target report state rest).1 (log ++ passed) := by
  induction rest generalizing statements report state log with
  | nil =>
    refine ⟨[], ?_, ?_⟩
    · rw [List.append_nil]
      rfl
    · rw [List.append_nil, List.append_nil]
      exact tried
  | cons statement rest ih =>
    obtain ⟨first, passing, adds⟩ := importStatement_adds target report state statement
    obtain ⟨others, run, all⟩ := ih (importStatement target report state statement).2
      (tried.concat adds)
    refine ⟨first ++ others, ?_, ?_⟩
    · rw [importEach, passing, ← List.append_assoc]
      exact run
    · rw [List.append_assoc, List.append_assoc] at all
      exact all

theorem ImportReport.succeeded_iff (report : ImportReport) :
    report.succeeded = true ↔ ∀ kind, report.failed kind = 0 := by
  unfold succeeded failed
  constructor
  · intro empty kind
    rw [List.isEmpty_iff.1 empty]
    rfl
  · intro none
    rw [List.isEmpty_iff, List.eq_nil_iff_forall_not_mem]
    intro failure mem
    have counted := List.countP_eq_zero.1 (none failure.kind) failure mem
    exact counted (decide_eq_true rfl)

theorem Tried.succeeded_iff (tried : Tried statements report log) :
    report.succeeded = true ↔
      (∀ s ∈ statements, StatementKind.ofText s ≠ .unrecognized ∧ misdeclares s = false) ∧
        ∀ x ∈ log, x.refused = false := by
  have kinds : (∀ kind, report.failed kind = 0) ↔ report.failed .unrecognized = 0 ∧
      report.failed .translation = 0 ∧ report.failed .execution = 0 := by
    constructor
    · intro none
      exact ⟨none _, none _, none _⟩
    · rintro ⟨unrecognized, translation, execution⟩ kind
      cases kind <;> assumption
  rw [report.succeeded_iff, kinds, tried.unrecognized, tried.translation, tried.execution]
  simp only [List.countP_eq_zero, decide_eq_true_eq, Bool.not_eq_true]
  constructor
  · rintro ⟨recognized, read, accepted⟩
    exact ⟨fun s mem => ⟨recognized s mem, read s mem⟩, accepted⟩
  · rintro ⟨fine, accepted⟩
    exact ⟨fun s mem => (fine s mem).1, fun s mem => (fine s mem).2, accepted⟩

end

/-! ## The commit -/

section

variable (target : Target σ) (report : ImportReport) (state : σ)

def commitExchanges : List Exchange :=
  if report.succeeded then [⟨.commit, (target.commit state).1⟩] else []

theorem call_commitExchanges :
    (commitExchanges target report state).map Exchange.call =
      if report.succeeded then [.commit] else [] := by
  unfold commitExchanges
  split <;> rfl

theorem accepted_commitExchanges :
    (commitExchanges target report state).countP Exchange.accepted = 0 := by
  unfold commitExchanges
  split <;> rfl

theorem refused_commitExchanges :
    (commitExchanges target report state).countP Exchange.refused = 0 := by
  unfold commitExchanges
  split <;> rfl

theorem commitImport_recorded (log : List Exchange) :
    commitImport target.recorded report (state, log) =
      ((commitImport target report state).1, (commitImport target report state).2,
        log ++ commitExchanges target report state) := by
  simp only [commitImport, commitExchanges, Target.recorded]
  by_cases succeeded : report.succeeded = true
  · rw [if_pos succeeded, if_pos succeeded, if_pos succeeded]
    rcases target.commit state with ⟨_ | _, _⟩ <;> rfl
  · rw [if_neg succeeded, if_neg succeeded, if_neg succeeded, List.append_nil]

theorem commitImport_frame :
    let done := (commitImport target report state).1
    done.enums = report.enums ∧ done.executed = report.executed ∧
      done.skipped = report.skipped ∧ done.failed .translation = report.failed .translation := by
  unfold commitImport
  split
  · rcases target.commit state with ⟨_ | _, _⟩
    · exact ⟨rfl, rfl, rfl, ImportReport.failed_fail ..⟩
    · exact ⟨rfl, rfl, rfl, rfl⟩
  · exact ⟨rfl, rfl, rfl, rfl⟩

theorem commitImport_committed (uncommitted : report.committed = false) :
    (commitImport target report state).1.committed =
      (commitImport target report state).1.succeeded := by
  unfold commitImport
  by_cases succeeded : report.succeeded = true
  · rw [if_pos succeeded]
    rcases target.commit state with ⟨_ | _, _⟩
    · -- the refused commit is itself a failure
      simp [uncommitted, ImportReport.fail, ImportReport.succeeded]
    · exact succeeded.symm
  · rw [if_neg succeeded, uncommitted, Bool.eq_false_iff.2 succeeded]

end

theorem length_eq_accepted_add_refused {log : List Exchange} {sent : List Text}
    (calls : log.map Exchange.call = sent.map Call.execute) :
    log.length = log.countP Exchange.accepted + log.countP Exchange.refused := by
  induction log generalizing sent with
  | nil => rfl
  | cons x log ih =>
    cases sent with
    | nil => cases calls
    | cons command sent =>
      obtain ⟨call, calls⟩ := List.cons.inj calls
      have counted := ih calls
      rcases x with ⟨_, answer⟩
      subst call
      rcases answer with _ | _
      · rw [List.length_cons, counted, List.countP_cons_of_neg (by simp [Exchange.accepted]),
          List.countP_cons_of_pos rfl]
        omega
      · rw [List.length_cons, counted, List.countP_cons_of_pos rfl,
          List.countP_cons_of_neg (by simp [Exchange.refused])]
        omega

/-- A run sends what its statements say, whatever the answers, and commits at the end if nothing
has failed. -/
theorem importStatements_calls (target : Target σ) (statements : List Text) (state : σ) :
    ∃ exchanges,
      let tried := (importEach target .empty state statements).1
      let report := (importStatements target statements state).1
      importStatements target.recorded statements (state, []) =
        (report, (importStatements target statements state).2, exchanges) ∧
      exchanges.map Exchange.call = (commands statements).map Call.execute ++
        (if tried.succeeded then [.commit] else []) ∧
      (tried.succeeded = true ↔
        (∀ s ∈ statements, StatementKind.ofText s ≠ .unrecognized ∧ misdeclares s = false) ∧
          ∀ x ∈ exchanges, x.refused = false) ∧
      (∀ later, commands statements <+: commands (statements ++ later)) ∧
      report.enums = ⟨EnumRegistry.inForce (declaredTypes statements)⟩ ∧
      report.committed = report.succeeded ∧
      report.executed = exchanges.countP Exchange.accepted ∧
      statements.length = report.executed + report.skipped + (declaredTypes statements).length +
        report.failed .translation + exchanges.countP Exchange.refused := by
  obtain ⟨log, run, tried⟩ := Tried.nil.run target statements state
  rw [List.nil_append, List.nil_append] at tried
  set report := (importEach target .empty state statements).1
  set final := (importEach target .empty state statements).2
  let commits := commitExchanges target report final
  have untouched : ∀ x ∈ commits, x.refused = false := by
    intro x mem
    have none := List.countP_eq_zero.1 (refused_commitExchanges target report final) x mem
    exact Bool.eq_false_iff.2 none
  obtain ⟨enums, executed, skipped, translation⟩ := commitImport_frame target report final
  refine ⟨log ++ commits, ?_, ?_, ?_, commands_prefix statements, ?_, ?_, ?_, ?_⟩
  · rw [importStatements, run]
    exact commitImport_recorded target report final log
  · rw [List.map_append, tried.calls, call_commitExchanges]
  · rw [tried.succeeded_iff, List.forall_mem_append]
    constructor
    · rintro ⟨fine, accepted⟩
      exact ⟨fine, accepted, untouched⟩
    · rintro ⟨fine, accepted, _⟩
      exact ⟨fine, accepted⟩
  · exact enums.trans tried.enums
  · exact commitImport_committed target report final tried.committed
  · rw [List.countP_append, accepted_commitExchanges]
    exact executed.trans tried.executed
  · have answers := length_eq_accepted_add_refused tried.calls
    have total := tried.skipped
    rw [← tried.translation, answers, ← tried.executed] at total
    rw [importStatements, executed, skipped, translation, List.countP_append,
      refused_commitExchanges]
    omega

end SqlDialect
