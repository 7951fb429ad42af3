import PortableTpcc.PgAdapter

namespace PortableTpcc.Pg

/-!
# What a failed PostgreSQL commit reports

libpqxx raises `in_doubt_error` when it cannot tell whether a `COMMIT` took
effect.  The exception is neither a `broken_connection` nor an `sql_error`, so
the commit classifier falls through to the message search.  This module
embeds the commit of libpqxx, says which outcomes of the server each of its
exceptions leaves open, and determines when the adapter's report agrees.
-/

section

variable {σ : Type} {answers : Answers driverFace σ}

variable {before after : Session × σ}

/-- The shutdown flag is read once and raises when it is set. -/
theorem checkShutdown_cases {result : Except StdException Unit}
    (acts : Acts answers checkShutdown before result after) :
    ∃ flag : Bool, answers before.2 Command.shutdownFlag flag after.2 ∧ after.1 = before.1 ∧
      result = if flag then .error (.other "session shutdown") else .ok () := by
  obtain ⟨flag, middle, answered, rest⟩ := acts_ask_bind.mp acts
  refine ⟨flag, ?_⟩
  cases flag with
  | false =>
    obtain ⟨rfl, rfl⟩ := acts_pure.mp rest
    exact ⟨answered, rfl, rfl⟩
  | true =>
    obtain ⟨rfl, rfl⟩ := acts_throw.mp rest
    exact ⟨answered, rfl, rfl⟩

/-- The handler of the session rethrows and talks to nobody. -/
theorem resetOnException_cases {computation : SessionM α} {result : Except StdException α}
    (acts : Acts answers (resetOnException computation) before result after) :
    ∃ session, Acts answers computation before result (session, after.2) := by
  rcases acts_tryCatch.mp acts with ⟨value, ran, rfl⟩ | ⟨ex, middle, ran, handled⟩
  · exact ⟨after.1, ran⟩
  · rcases acts_bind.mp handled with ⟨_, reset, changed, rest⟩ | ⟨_, changed, _⟩
    · obtain ⟨_, rfl⟩ := acts_modify.mp changed
      split at rest
      · rcases acts_bind.mp rest with ⟨_, marked, marking, thrown⟩ | ⟨_, marking, _⟩
        · obtain ⟨_, rfl⟩ := acts_modify.mp marking
          obtain ⟨rfl, rfl⟩ := acts_throw.mp thrown
          exact ⟨_, ran⟩
        · obtain ⟨⟨⟩, _⟩ := acts_modify.mp marking
      · obtain ⟨rfl, rfl⟩ := acts_throw.mp rest
        exact ⟨_, ran⟩
    · obtain ⟨⟨⟩, _⟩ := acts_modify.mp changed

theorem sessionCommit_cases {result : Except StdException Unit}
    (acts : Acts answers sessionCommit before result after) :
    ∃ (flag : Bool) (checked : σ), answers before.2 Command.shutdownFlag flag checked ∧
      ((flag = true ∧ after.2 = checked ∧ result = .error (.other "session shutdown")) ∨
      (flag = false ∧ before.1.txn = false ∧ after.2 = checked ∧ result = .ok ()) ∨
      (flag = false ∧ before.1.txn = true ∧ answers checked Command.commit result after.2)) := by
  obtain ⟨session, ran⟩ := resetOnException_cases acts
  rcases acts_bind.mp ran with ⟨_, middle, shutdown, rest⟩ | ⟨ex, shutdown, rfl⟩
  · obtain ⟨flag, answered, same, unset⟩ := checkShutdown_cases shutdown
    cases flag with
    | true =>
      cases unset
    | false =>
      refine ⟨false, middle.2, answered, .inr ?_⟩
      rw [acts_get_bind, same] at rest
      split at rest
      · rename_i open_
        obtain ⟨reply, replied, committed, later⟩ := acts_ask_bind.mp rest
        refine .inr ⟨rfl, open_, ?_⟩
        rcases acts_bind.mp later with ⟨_, _, thrown, reset⟩ | ⟨ex, thrown, rfl⟩
        · obtain ⟨rfl, rfl⟩ := acts_orThrow.mp thrown
          obtain ⟨rfl, finalState⟩ := acts_modify.mp reset
          obtain ⟨_, rfl⟩ := Prod.mk.inj finalState
          exact committed
        · obtain ⟨rfl, finalState⟩ := acts_orThrow.mp thrown
          obtain ⟨_, rfl⟩ := Prod.mk.inj finalState
          exact committed
      · rename_i closed
        obtain ⟨rfl, rfl⟩ := acts_pure.mp rest
        exact .inl ⟨rfl, by simpa using closed, rfl, rfl⟩
  · obtain ⟨flag, answered, _, raised⟩ := checkShutdown_cases shutdown
    cases flag with
    | true =>
      cases raised
      exact ⟨true, after.2, answered, .inl ⟨rfl, rfl, rfl⟩⟩
    | false =>
      cases raised

theorem commit_cases {transaction : Transaction} (usable : transaction.terminal = false)
    {before : σ} {after : Transaction × σ} {result : Except StdException TCommitResult}
    (acts : Acts answers commit (transaction, before) result after) :
    ∃ answer session, Acts answers sessionCommit (transaction.session, before) answer
      (session, after.2) ∧ result = .ok (commitResultOf answer) := by
  rw [commit, acts_get_bind] at acts
  simp only [usable, Bool.false_eq_true, ↓reduceIte] at acts
  rcases acts_bind.mp acts with ⟨answer, middle, zoomed, rest⟩ | ⟨ex, zoomed, _⟩
  · obtain ⟨session, attempted, _⟩ := acts_zoom.mp zoomed
    obtain ⟨_, ran, ⟨⟩⟩ := acts_attempt.mp attempted
    rcases acts_bind.mp rest with ⟨_, _, changed, returned⟩ | ⟨_, changed, _⟩
    · obtain ⟨_, rfl⟩ := acts_modify.mp changed
      obtain ⟨rfl, rfl⟩ := acts_pure.mp returned
      exact ⟨answer, session, ran, rfl⟩
    · obtain ⟨⟨⟩, _⟩ := acts_modify.mp changed
  · obtain ⟨session, attempted, _⟩ := acts_zoom.mp zoomed
    obtain ⟨_, _, ⟨⟩⟩ := acts_attempt.mp attempted

end

/-! ## Operations never commit -/

/-- A command of the driver that neither commits nor aborts. -/
def IsStatement : Command → Prop
  | .commit => False
  | .abort => False
  | _ => True

open PortableTpcc.Action (OnlyIssues)

theorem ensureTxn_onlyIssues : OnlyIssues IsStatement ensureTxn := by
  refine .bind .get fun session => ?_
  split
  · exact .bind (.ask trivial) fun reply => .bind (.orThrow reply) fun _ => .modify _
  · exact .pure _

theorem checkShutdown_onlyIssues : OnlyIssues IsStatement checkShutdown := by
  refine .bind (.ask trivial) fun flag => ?_
  split
  · exact .throw _
  · exact .pure _

theorem markException_onlyIssues {computation : SessionM α}
    (body : OnlyIssues IsStatement computation) :
    OnlyIssues IsStatement (markException computation) := by
  refine .tryCatch body fun ex => ?_
  split
  · exact .bind (.modify _) fun _ => .throw _
  · exact .throw _

theorem executeStatement_onlyIssues (statement : Statement) :
    OnlyIssues IsStatement (executeStatement statement) :=
  markException_onlyIssues <|
    .bind checkShutdown_onlyIssues fun _ =>
      .bind ensureTxn_onlyIssues fun _ => .bind (.ask trivial) fun reply => .orThrow reply

/-- No semantic operation commits or rolls back. -/
theorem execute_onlyIssues (op : TSemanticOp) : OnlyIssues IsStatement (execute op) := by
  refine .bind .get fun transaction => ?_
  split
  · exact .pure _
  · exact .bind (.zoom (.attempt (.perform executeStatement_onlyIssues _))) fun _ => .pure _

/-! ## The commit of libpqxx -/

/--
The facts that decide `transaction_base::commit`: the connection before the
`COMMIT` is sent, what executing it raises, and the connection afterwards.
-/
structure CommitCall where
  openBefore : Bool
  execution : Except StdException Unit
  openAfter : Bool
  name : String

/-- `statement_completion_unknown`. -/
def isCompletionUnknown : StdException → Bool
  | .pqxxSqlError .statementCompletionUnknown _ _ => true
  | _ => false

/-- The text of the `in_doubt_error` for an unknown completion. -/
def completionUnknownText (name : String) : String :=
  "WARNING: Commit of transaction '" ++ name ++
    "' is unknown. There is no way to tell whether the transaction " ++
    "succeeded or was aborted except to check manually."

/-- The text of the `in_doubt_error` for a lost connection. -/
def connectionLostText (name : String) : String :=
  "WARNING: Connection lost while committing transaction '" ++ name ++
    "'. There is no way to tell whether the transaction " ++
    "succeeded or was aborted except to check manually."

/-- `basic_transaction::do_commit`. -/
def CommitCall.doCommit (call : CommitCall) : Except StdException Unit :=
  match call.execution with
  | .ok () => .ok ()
  | .error ex =>
    if isCompletionUnknown ex then
      .error (.pqxxInDoubt (completionUnknownText call.name))
    else if !call.openAfter then
      .error (.pqxxInDoubt (connectionLostText call.name))
    else
      .error ex

/-- `transaction_base::commit` of an active transaction. -/
def CommitCall.raised (call : CommitCall) : Except StdException Unit :=
  if !call.openBefore then
    .error (.pqxxBrokenConnection "Broken connection to backend; cannot complete transaction.")
  else
    call.doCommit

/-- An exception after which the connection must be presumed lost. -/
def suggestsLostConnection (ex : StdException) : Bool :=
  isCompletionUnknown ex || isBrokenConnectionException ex

/--
Whether the server may have applied the transaction, or may not have.  A
`COMMIT` that was never sent is not applied, an acknowledged one is, and one
that the server refused over a live connection is not.
-/
def CommitCall.Possible (call : CommitCall) (applied : Bool) : Prop :=
  if !call.openBefore then
    applied = false
  else
    match call.execution with
    | .ok () => applied = true
    | .error ex =>
      if !call.openAfter || suggestsLostConnection ex then
        True
      else
        applied = false

/-- libpqxx raises `in_doubt_error` from this commit. -/
def CommitCall.InDoubt (call : CommitCall) : Prop :=
  call.openBefore = true ∧ ∃ ex, call.execution = .error ex ∧
    (isCompletionUnknown ex = true ∨ call.openAfter = false)

/-- The surroundings in which every `commit` of libpqxx is this one call. -/
def answersWith (call : CommitCall) : Answers driverFace (Option CommitCall) :=
  fun before command reply after =>
    match command, reply with
    | .commit, reply => reply = call.raised ∧ after = some call
    | _, _ => after = before

/-- The server may have applied the transaction. -/
def MayBeApplied (sent : Option CommitCall) : Prop :=
  ∃ call, sent = some call ∧ call.Possible true

/-- The server may have applied the transaction and may not have. -/
def OutcomeOpen (sent : Option CommitCall) : Prop :=
  ∃ call, sent = some call ∧ call.Possible true ∧ call.Possible false

/-- A commit report that agrees with what can be known of the server. -/
def ReportAgrees (report : TCommitResult) (sent : Option CommitCall) : Prop :=
  (report.outcome = .rolledBack → ¬ MayBeApplied sent) ∧ (OutcomeOpen sent →
    report.outcome = .outcomeUnknown ∧ report.errorClass = .ambiguousCommit)

/-- `Commit` and `ExecuteFinalAndCommit` report this commit truthfully. -/
def ReportsTruthfully (call : CommitCall) : Prop :=
  (∀ session report after, Acts (answersWith call) commit
    ({ session, terminal := false }, none) (.ok report) after → ReportAgrees report after.2) ∧
    ∀ op session report after, Acts (answersWith call) (executeFinalAndCommit op)
    ({ session, terminal := false }, none) (.ok report) after → ReportAgrees report.commit after.2

/-- An unknown outcome is never classified as an ambiguous commit. -/
theorem commitResultOf_inDoubt (text : String) :
    (commitResultOf (.error (.pqxxInDoubt text))).outcome = .rolledBack := by
  have notAmbiguous : classifyCommitException (.pqxxInDoubt text) ≠ .ambiguousCommit := by
    rw [ne_eq, classifyCommitException_eq_ambiguousCommit_iff]
    simp [sqlStateOf, isConnectionState]
  simp [commitResultOf, notAmbiguous]

variable {call : CommitCall}

/-- What libpqxx raises from a commit whose outcome it cannot tell. -/
theorem CommitCall.raised_of_inDoubt (inDoubt : call.InDoubt) :
    ∃ text, call.raised = .error (.pqxxInDoubt text) := by
  obtain ⟨openBefore, ex, raised, unknown⟩ := inDoubt
  simp only [CommitCall.raised, openBefore, Bool.not_true,
    Bool.false_eq_true, ↓reduceIte, CommitCall.doCommit, raised]
  split
  · exact ⟨_, rfl⟩
  · rename_i known
    simp only [known, Bool.false_eq_true, false_or] at unknown
    simp only [unknown, Bool.not_false, ↓reduceIte]
    exact ⟨_, rfl⟩

theorem CommitCall.possible_of_inDoubt (inDoubt : call.InDoubt) (applied : Bool) :
    call.Possible applied := by
  obtain ⟨openBefore, ex, raised, unknown⟩ := inDoubt
  simp only [CommitCall.Possible, openBefore, Bool.not_true, Bool.false_eq_true, ↓reduceIte, raised]
  rcases unknown with completion | closed
  · simp [suggestsLostConnection, completion]
  · simp [closed]

/-- Outside doubt, the report of a commit that was sent agrees. -/
theorem reportAgrees_of_not_inDoubt (certain : ¬ call.InDoubt) :
    ReportAgrees (commitResultOf call.raised) (some call) := by
  by_cases openBefore : call.openBefore = true
  · cases raised : call.execution with
    | ok value =>
      have returned : call.raised = .ok () := by
        simp [CommitCall.raised, openBefore, CommitCall.doCommit, raised]
      simp [ReportAgrees, returned, commitResultOf, OutcomeOpen,
        CommitCall.Possible, openBefore, raised]
    | error ex =>
      have known : isCompletionUnknown ex = false := by
        by_contra unknown
        exact certain ⟨openBefore, ex, raised, .inl (by simpa using unknown)⟩
      have openAfter : call.openAfter = true := by
        by_contra closed
        exact certain ⟨openBefore, ex, raised, .inr (by simpa using closed)⟩
      have rethrown : call.raised = .error ex := by
        simp [CommitCall.raised, openBefore, CommitCall.doCommit, raised, known, openAfter]
      rw [rethrown]
      by_cases lost : isBrokenConnectionException ex = true
      · have ambiguous : classifyCommitException ex = .ambiguousCommit := by
          rw [classifyCommitException_eq_ambiguousCommit_iff]
          cases ex <;> simp_all [isBrokenConnectionException, sqlStateOf]
        simp [ReportAgrees, commitResultOf, ambiguous]
      · have refused : ¬ call.Possible true := by
          simp [CommitCall.Possible, openBefore, raised, openAfter,
            suggestsLostConnection, known, lost]
        constructor
        · rintro _ ⟨_, ⟨⟩, applied⟩
          exact refused applied
        · rintro ⟨_, ⟨⟩, applied, _⟩
          exact absurd applied refused
  · have unsent : call.raised = .error (.pqxxBrokenConnection
        "Broken connection to backend; cannot complete transaction.") := by
      simp [CommitCall.raised, openBefore]
    have notApplied : ¬ call.Possible true := by
      simp [CommitCall.Possible, openBefore]
    constructor
    · rintro _ ⟨_, ⟨⟩, applied⟩
      exact notApplied applied
    · rintro ⟨_, ⟨⟩, applied, _⟩
      exact absurd applied notApplied

/-- A report about a transaction whose `COMMIT` was never sent agrees. -/
theorem reportAgrees_none (report : TCommitResult) : ReportAgrees report none := by
  simp [ReportAgrees, MayBeApplied, OutcomeOpen]

/-- Outside doubt, every commit of a usable transaction reports truly. -/
theorem commit_reportAgrees (certain : ¬ call.InDoubt) {transaction : Transaction}
    (usable : transaction.terminal = false) {report : TCommitResult}
    {after : Transaction × Option CommitCall}
    (acts : Acts (answersWith call) commit (transaction, none) (.ok report) after) :
    ReportAgrees report after.2 := by
  obtain ⟨answer, session, ran, ⟨⟩⟩ := commit_cases usable acts
  obtain ⟨flag, checked, rfl, outcome⟩ := sessionCommit_cases ran
  rcases outcome with ⟨_, unsent, _⟩ | ⟨_, _, unsent, _⟩ | ⟨_, _, rfl, sent⟩
  · rw [show after.2 = none from unsent]
    exact reportAgrees_none _
  · rw [show after.2 = none from unsent]
    exact reportAgrees_none _
  · rw [show after.2 = some call from sent]
    exact reportAgrees_of_not_inDoubt certain

theorem execute_terminal {σ : Type} {answers : Answers driverFace σ} {op : TSemanticOp}
    {before after : Transaction × σ} {result : Except StdException TOperationResult}
    (acts : Acts answers (execute op) before result after) :
    after.1.terminal = before.1.terminal := by
  rw [execute, acts_get_bind] at acts
  split at acts
  · obtain ⟨_, rfl⟩ := acts_pure.mp acts
    rfl
  · rcases acts_bind.mp acts with ⟨_, _, zoomed, returned⟩ | ⟨_, zoomed, _⟩
    · obtain ⟨_, rfl⟩ := acts_pure.mp returned
      obtain ⟨session, _, same⟩ := acts_zoom.mp zoomed
      rw [same]
    · obtain ⟨session, _, same⟩ := acts_zoom.mp zoomed
      rw [same]

/-- A command that does not commit. -/
def NotCommit (command : Command) : Prop :=
  command ≠ .commit

theorem rollback_onlyIssues : OnlyIssues NotCommit rollback := by
  have session : OnlyIssues NotCommit sessionRollback := by
    refine .tryCatch (.bind .get fun session => ?_) fun ex => .bind (.modify _) fun _ => ?_
    · split
      · exact .bind (.ask (by simp [NotCommit])) fun reply =>
          .bind (.orThrow reply) fun _ => .modify _
      · exact .pure _
    · split
      · exact .bind (.modify _) fun _ => .throw _
      · exact .throw _
  refine .bind .get fun transaction => ?_
  split
  · exact .pure _
  · exact .bind (.zoom (.attempt session)) fun _ => .bind (.modify _) fun _ => .pure _

theorem answersWith_unsent {before after : Option CommitCall} {command : Command}
    {reply : Reply command} (other : NotCommit command) (unsent : before = none)
    (answered : answersWith call before command reply after) : after = none := by
  cases command with
  | commit =>
    exact absurd rfl other
  | _ =>
    exact Eq.trans answered unsent

/-- Outside doubt, the fused operation and commit reports truly. -/
theorem executeFinalAndCommit_reportAgrees (certain : ¬ call.InDoubt) {op : TSemanticOp}
    {transaction : Transaction} (usable : transaction.terminal = false)
    {report : TFinalCommitResult} {after : Transaction × Option CommitCall}
    (acts : Acts (answersWith call) (executeFinalAndCommit op)
      (transaction, none) (.ok report) after) : ReportAgrees report.commit after.2 := by
  rcases acts_bind.mp acts with ⟨operation, middle, executed, rest⟩ | ⟨_, _, ⟨⟩⟩
  have unsent : middle.2 = none := by
    refine (execute_onlyIssues op).invariant (· = none) ?_ rfl executed
    intro _ _ command _ statement
    refine answersWith_unsent ?_
    rintro rfl
    exact statement
  have stillUsable : middle.1.terminal = false := (execute_terminal executed).trans usable
  obtain ⟨state, sent⟩ := middle
  obtain rfl : sent = none := unsent
  split at rest
  · rcases acts_bind.mp rest with ⟨_, _, committed, returned⟩ | ⟨_, _, ⟨⟩⟩
    obtain ⟨⟨⟩, rfl⟩ := acts_pure.mp returned
    exact commit_reportAgrees certain stillUsable committed
  · rcases acts_bind.mp rest with ⟨_, ended, rolledBack, returned⟩ | ⟨_, _, ⟨⟩⟩
    obtain ⟨⟨⟩, rfl⟩ := acts_pure.mp returned
    have stillUnsent : after.2 = none :=
      rollback_onlyIssues.invariant (· = none) answersWith_unsent rfl rolledBack
    rw [stillUnsent]
    exact reportAgrees_none _

/--
The adapter reports a commit truthfully exactly when libpqxx does not raise
`in_doubt_error` from it: when the connection is already closed before the
`COMMIT`, when the `COMMIT` is acknowledged, or when it fails over a
connection that stays open and with a known completion.
-/
theorem reportsTruthfully_iff_not_inDoubt (call : CommitCall) :
    ReportsTruthfully call ↔ ¬ call.InDoubt := by
  constructor
  · intro truthful inDoubt
    obtain ⟨text, raised⟩ := call.raised_of_inDoubt inDoubt
    have acts : Acts (answersWith call) commit
          ({ session := { txn := true, broken := false },
             terminal := false }, none)
          (.ok (commitResultOf (.error (.pqxxInDoubt text))))
          ({ session := { txn := false, broken := false },
             terminal := true }, some call) := by
      refine Runs.call_iff.mpr ⟨false, none, rfl, ?_⟩
      refine Runs.call_iff.mpr ⟨.error (.pqxxInDoubt text), some call, ⟨raised.symm, rfl⟩, ?_⟩
      exact .done _ _
    have agrees := truthful.1 _ _ _ acts
    exact agrees.1 (commitResultOf_inDoubt text) ⟨call, rfl, call.possible_of_inDoubt inDoubt true⟩
  · intro certain
    exact ⟨fun _ _ _ acts => commit_reportAgrees certain rfl acts,
      fun _ _ _ _ acts => executeFinalAndCommit_reportAgrees certain rfl acts⟩

/-- The connection breaks while the server processes the `COMMIT`. -/
def connectionLostDuringCommit : CommitCall where
  openBefore := true
  execution := .error (.pqxxBrokenConnection "Lost connection to the database server.")
  openAfter := false
  name := ""

/-- A connection lost inside `COMMIT` is reported as rolled back. -/
theorem connectionLostDuringCommit_not_reportsTruthfully :
    ¬ ReportsTruthfully connectionLostDuringCommit := by
  intro truthful
  have agrees :=
    truthful.1 { txn := true, broken := false } (commitResultOf
      (.error (.pqxxInDoubt (connectionLostText ""))))
      ({ session := { txn := false, broken := false },
         terminal := true }, some connectionLostDuringCommit)
      (Runs.call_iff.mpr ⟨false, none, rfl, Runs.call_iff.mpr
        ⟨.error (.pqxxInDoubt (connectionLostText "")),
        some connectionLostDuringCommit, ⟨rfl, rfl⟩, .done _ _⟩⟩)
  exact agrees.1 (commitResultOf_inDoubt _) ⟨connectionLostDuringCommit, rfl, by
      simp [CommitCall.Possible, connectionLostDuringCommit]⟩

end PortableTpcc.Pg
