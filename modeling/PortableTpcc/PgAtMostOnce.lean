import PortableTpcc.PgCommitOutcome

namespace PortableTpcc.Pg

/-!
# At most one committed attempt on PostgreSQL

The server is observed through two counters: the transactions it has applied
and the commits it has confirmed.  Only `COMMIT` moves them, because
PostgreSQL never applies a transaction in which a statement failed, and it
aborts one whose connection is closed.  A workflow opens its transaction with
its first operation, so the commit it reports as successful was confirmed.
-/

/-! ## The transaction of a session -/

section

variable {σ : Type} {answers : Answers driverFace σ}

theorem checkShutdown_keeps (Kept : Session × σ → Prop)
    (answered : ∀ {session : Session} {before after : σ} {flag : Bool}, Kept (session, before) →
        answers before Command.shutdownFlag flag after →
        Kept (session, after)) : Ensures answers Kept checkShutdown fun _ => Kept := by
  intro before result after kept acts
  obtain ⟨flag, replied, same, _⟩ := checkShutdown_cases acts
  obtain ⟨session, state⟩ := after
  obtain rfl : session = before.1 := same
  exact answered kept replied

/-- A statement that succeeds has a transaction, and none is ever closed. -/
theorem executeStatement_txn (session : Session) (statement : Statement) :
    Ensures answers (fun state => state.1 = session) (executeStatement statement)
      fun result state =>
        session.txn = true ∨ (∃ reply, result = .ok reply) → state.1.txn = true := by
  refine .tryCatch (fun _ state => session.txn = true → state.1.txn = true) ?_ ?_
  · refine .bind (fun _ state => state.1 = session) ?_ fun _ =>
      .bind (fun _ state => state.1.txn = true) ?_ fun _ =>
        .ask_bind (fun _ state => state.1.txn = true) (fun _ _ _ opened _ => opened) fun reply =>
            .orThrow fun state opened => ?_
    · intro before result after same acts
      have kept := checkShutdown_keeps (fun state => state.1 = session)
        (fun kept _ => kept) same acts
      cases result with
      | ok value =>
        exact kept
      | error ex =>
        exact fun opened => kept ▸ opened
    · refine .get_bind fun own => ?_
      split
      · refine .ask_bind (fun _ state => state.1 = session)
          (fun _ _ _ same _ => same.1) fun reply =>
            .bind (fun _ state => state.1 = session) ?_ fun _ => .modify fun _ _ => rfl
        refine .orThrow fun state same => ?_
        cases reply with
        | ok value =>
          exact same
        | error ex =>
          exact fun opened => same ▸ opened
      · rename_i closed
        refine .pure fun state same => ?_
        simpa [same.2] using closed
    · cases reply with
      | ok value =>
        exact fun _ => opened
      | error ex =>
        exact fun _ => opened
  · intro ex
    have rethrown : ∀ state : Session × σ, (session.txn = true → state.1.txn = true) →
        session.txn = true ∨ (∃ reply, (.error ex : Except StdException
        (Statement.Reply statement)) = .ok reply) → state.1.txn = true := by
      rintro state kept (opened | ⟨_, ⟨⟩⟩)
      exact kept opened
    dsimp only
    split
    · exact .bind (fun _ state => session.txn = true → state.1.txn = true)
        (.modify fun _ kept => kept) fun _ => .throw rethrown
    · exact .throw rethrown

/-- A script never closes the transaction it runs in. -/
theorem perform_keepsTxn (script : Script α) :
    Ensures answers (fun state => state.1.txn = true) (script.perform executeStatement)
      fun _ state => state.1.txn = true := by
  refine .perform (fun statement => ?_) script
  intro before result after opened acts
  exact executeStatement_txn before.1 statement rfl acts (.inl opened)

/-- A script that issues a statement and returns has a transaction. -/
theorem perform_opensTxn {statement : Statement} {next : statement.Reply → Script α} :
    Ensures answers (fun _ => True)
      (Prog.perform executeStatement (.call statement next : Script α))
      fun result state => (∃ value, result = .ok value) → state.1.txn = true := by
  refine .bind (fun _ state => state.1.txn = true) ?_ fun reply => ?_
  · intro before result after _ acts
    have opened := executeStatement_txn before.1 statement rfl acts
    cases result with
    | ok reply =>
      exact opened (.inr ⟨reply, rfl⟩)
    | error ex =>
      rintro ⟨_, ⟨⟩⟩
  · intro before result after opened acts _
    exact perform_keepsTxn (next reply) opened acts

variable {op : TSemanticOp}

/-- An operation that may open a workflow begins with a statement. -/
theorem operation_eq_call (opens : op.Opens) :
    ∃ (statement : Statement) (next : statement.Reply → Script TOperationResult),
      operation op = .call statement next := by
  cases op with
  | getItems itemIds => exact opens.elim
  | getStocksForUpdate districtId stocks => exact opens.elim
  | _ => exact ⟨_, _, rfl⟩

theorem execute_txn {before after : Transaction × σ} {result : TOperationResult}
    (usable : before.1.terminal = false) (ready : before.1.session.txn = true ∨ op.Opens)
    (acts : Acts answers (execute op) before (.ok result) after) (succeeded : result.ok = true) :
    after.1.session.txn = true := by
  rw [execute, acts_get_bind] at acts
  simp only [usable, Bool.false_eq_true, ↓reduceIte] at acts
  rcases acts_bind.mp acts with ⟨answer, middle, zoomed, returned⟩ | ⟨_, _, ⟨⟩⟩
  obtain ⟨⟨⟩, rfl⟩ := acts_pure.mp returned
  obtain ⟨session, attempted, same⟩ := acts_zoom.mp zoomed
  obtain ⟨_, performed, ⟨⟩⟩ := acts_attempt.mp attempted
  rw [same]
  cases answer with
  | error ex =>
    cases succeeded
  | ok value =>
    rcases ready with opened | opens
    · exact perform_keepsTxn (operation op) opened performed
    · obtain ⟨statement, next, isCall⟩ := operation_eq_call opens
      rw [isCall] at performed
      exact perform_opensTxn trivial performed ⟨value, rfl⟩

theorem execute_returns {before after : Transaction × σ}
    {result : Except StdException TOperationResult}
    (acts : Acts answers (execute op) before result after) :
    ∃ operation, result = .ok operation := by
  rw [execute, acts_get_bind] at acts
  split at acts
  · obtain ⟨rfl, _⟩ := acts_pure.mp acts
    exact ⟨_, rfl⟩
  · rcases acts_bind.mp acts with ⟨answer, middle, zoomed, returned⟩ | ⟨_, zoomed, _⟩
    · obtain ⟨rfl, _⟩ := acts_pure.mp returned
      exact ⟨_, rfl⟩
    · obtain ⟨session, attempted, _⟩ := acts_zoom.mp zoomed
      obtain ⟨_, _, ⟨⟩⟩ := acts_attempt.mp attempted

end

/-! ## The server -/

/-- The transactions a server has applied and the commits it confirmed. -/
structure Server where
  applied : Nat
  confirmed : Nat
deriving Repr, DecidableEq

/--
The exceptions of a `COMMIT` behind which the server may have applied the
transaction: the connection was lost, and the text of any exception that is
neither a `broken_connection` nor an `sql_error` has no retry keyword.
-/
def MayHideCommit : StdException → Prop
  | .pqxxBrokenConnection _ => True
  | .pqxxSqlError _ sqlState _ => isConnectionState sqlState = true
  | ex => hasRetryKeyword ex.what = false

/-- What a `COMMIT` with this answer did to the server. -/
def Committed (before : Server) (answer : Except StdException Unit) (after : Server) : Prop :=
  match answer with
  | .ok () =>
    after = ⟨before.applied + 1, before.confirmed + 1⟩
  | .error ex =>
    after = before ∨ MayHideCommit ex ∧ after = { before with applied := before.applied + 1 }

/-- Every command may succeed or fail; only `COMMIT` moves the counters. -/
def serverAnswers : Answers driverFace Server :=
  fun before command reply after =>
    match command, reply with
    | .commit, answer => Committed before answer after
    | _, _ => after = before

variable {base : Server}

theorem serverAnswers_unchanged {before after : Server} {command : Command}
    {reply : Reply command} (other : NotCommit command) (unchanged : before = base)
    (answered : serverAnswers before command reply after) : after = base := by
  cases command with
  | commit =>
    exact absurd rfl other
  | _ =>
    exact Eq.trans answered unchanged

theorem IsStatement.notCommit {command : Command} (statement : IsStatement command) :
    NotCommit command := by
  rintro rfl
  exact statement

variable {before after : Transaction × Server} {op : TSemanticOp}

theorem execute_server {result : Except StdException TOperationResult}
    (acts : Acts serverAnswers (execute op) before result after) : after.2 = before.2 :=
  (execute_onlyIssues op).invariant (· = before.2)
    (fun statement => serverAnswers_unchanged statement.notCommit) rfl acts

variable {result : Except StdException TCommitResult}

theorem rollback_server (acts : Acts serverAnswers rollback before result after) :
    after.2 = before.2 :=
  rollback_onlyIssues.invariant (· = before.2) serverAnswers_unchanged rfl acts

theorem rollback_returns (acts : Acts serverAnswers rollback before result after) :
    ∃ report, result = .ok report := by
  rw [rollback, acts_get_bind] at acts
  split at acts
  · obtain ⟨rfl, _⟩ := acts_pure.mp acts
    exact ⟨_, rfl⟩
  · rcases acts_bind.mp acts with ⟨answer, middle, _, rest⟩ | ⟨_, zoomed, _⟩
    · rcases acts_bind.mp rest with ⟨_, _, _, returned⟩ | ⟨_, changed, _⟩
      · obtain ⟨rfl, _⟩ := acts_pure.mp returned
        exact ⟨_, rfl⟩
      · obtain ⟨⟨⟩, _⟩ := acts_modify.mp changed
    · obtain ⟨session, attempted, _⟩ := acts_zoom.mp zoomed
      obtain ⟨_, _, ⟨⟩⟩ := acts_attempt.mp attempted

/-- A commit in an open transaction reports what the server did. -/
theorem commit_committed (usable : before.1.terminal = false)
    (opened : before.1.session.txn = true) (acts : Acts serverAnswers commit before result after) :
    ∃ answer, result = .ok (commitResultOf answer) ∧ Committed before.2 answer after.2 := by
  obtain ⟨answer, session, ran, rfl⟩ := commit_cases usable acts
  refine ⟨answer, rfl, ?_⟩
  obtain ⟨flag, checked, same, outcome⟩ := sessionCommit_cases ran
  obtain rfl : checked = before.2 := same
  rcases outcome with ⟨_, unsent, rfl⟩ | ⟨_, closed, _⟩ | ⟨_, _, committed⟩
  · exact .inl unsent
  · rw [opened] at closed
    cases closed
  · exact committed

/-! ## One attempt -/

/--
The sessions of the pool.  A session starts without a transaction, `Begin`
only makes a transaction object, and a transaction that is still open when
the session is released is aborted.
-/
def surroundings : Surroundings (Transaction × Server) where
  generates _ := True
  waitCreateSession before reply after :=
    after.2 = before.2 ∧ (reply = .ok true → after.1.session = { txn := false, broken := false })
  begin before reply after :=
    reply = .ok () ∧ after = ({ before.1 with terminal := false }, before.2)
  releaseSession before after := after.2 = before.2
  workflow := implementedAnswers implementation serverAnswers

/-- The transaction object is usable and nothing was committed yet. -/
def Starting (base : Server) (state : Transaction × Server) : Prop :=
  state.1.terminal = false ∧ state.2 = base

/-- The attempt also holds an open transaction. -/
def Working (base : Server) (state : Transaction × Server) : Prop :=
  Starting base state ∧ state.1.session.txn = true

/-- The attempt has given up and nothing was committed. -/
def Failed (base : Server) (state : Transaction × Server) : Prop :=
  state.2 = base

/-- What an attempt with this result did to the server. -/
def Ended (base : Server) (result : Except Thrown Bool) (state : Transaction × Server) : Prop :=
  (state.2.applied = base.applied ∨ state.2.applied = base.applied + 1 ∧
    NotRetried classifyException result) ∧ base.confirmed + (if result = .ok true then 1 else 0) ≤
    state.2.confirmed

variable {state : Transaction × Server}

theorem ended_of_failed {result : Except Thrown Bool} (failed : Failed base state)
    (unsuccessful : result ≠ .ok true) : Ended base result state := by
  rw [Failed] at failed
  simp [Ended, failed, unsuccessful]

/-- A commit that may be hidden is never classified as retryable. -/
theorem mayBlindRetry_of_mayHideCommit {ex : StdException} (hidden : MayHideCommit ex) :
    mayBlindRetry (classifyCommitException ex) = false := by
  have other (text : String) (unmarked : hasRetryKeyword text = false) :
      mayBlindRetry (classify "" text) = false := by
    simp [classify, unmarked, mayBlindRetry, isRetryable]
  cases ex with
  | pqxxBrokenConnection what =>
    rfl
  | pqxxSqlError kind sqlState what =>
    have connectionState : isConnectionState sqlState = true := hidden
    simp [classifyCommitException, sqlStateOf, connectionState, mayBlindRetry, isRetryable]
  | other what =>
    exact other what hidden
  | pqxxInDoubt what =>
    exact other what hidden
  | obDbError code what =>
    exact other what hidden
  | ydbError status issues =>
    exact other "" hidden

/-- What the workflow makes of a commit agrees with what the server did. -/
theorem ended_of_committed {answer : Except StdException Unit}
    (committed : Committed base answer state.2) :
    Ended base (commitVerdict (commitResultOf answer)) state := by
  cases answer with
  | ok value =>
    have counted : state.2 = ⟨base.applied + 1, base.confirmed + 1⟩ := committed
    have succeeded : commitVerdict (commitResultOf (.ok ())) = .ok true := rfl
    rw [succeeded]
    refine ⟨.inr ⟨by rw [counted], ?_⟩, by simp [counted]⟩
    rintro errorClass ⟨⟩
  | error ex =>
    have notCommitted : (commitResultOf (.error ex)).outcome ≠ .committed := by
      simp only [commitResultOf]
      split <;> decide
    rw [commitVerdict, if_neg notCommitted]
    rcases committed with unchanged | ⟨hidden, counted⟩
    · exact ended_of_failed unchanged (by simp)
    · refine ⟨.inr ⟨by rw [counted], ?_⟩, by simp [counted]⟩
      rintro errorClass ⟨⟩
      exact mayBlindRetry_of_mayHideCommit hidden

theorem ready_cases (ready : Working base state ∨ Starting base state ∧ op.Opens) :
    Starting base state ∧ (state.1.session.txn = true ∨ op.Opens) := by
  rcases ready with ⟨starting, opened⟩ | ⟨starting, opens⟩
  · exact ⟨starting, .inl opened⟩
  · exact ⟨starting, .inr opens⟩

/-- One operation: it changes nothing, and after a success work goes on. -/
theorem execute_working {result : Except StdException TOperationResult}
    (ready : Working base before ∨ Starting base before ∧ op.Opens)
    (acts : Acts serverAnswers (execute op) before result after) :
    ∃ operation, result = .ok operation ∧ Starting base after ∧
      (operation.ok = true → Working base after) := by
  obtain ⟨⟨usable, unchanged⟩, hasTxn⟩ := ready_cases ready
  obtain ⟨operation, rfl⟩ := execute_returns acts
  have starting : Starting base after :=
    ⟨(execute_terminal acts).trans usable, (execute_server acts).trans unchanged⟩
  exact ⟨operation, rfl, starting, fun succeeded =>
    ⟨starting, execute_txn usable hasTxn acts succeeded⟩⟩

/-- A batch stops at its first failure, so it too keeps the attempt. -/
theorem executeBatch_working (ops : List TSemanticOp) {result : Except StdException TBatchResult}
    (working : Working base before)
    (acts : Acts serverAnswers (executeBatch ops) before result after) :
    ∃ final, result = .ok final ∧ if final.ok then Working base after else Failed base after := by
  refine executeInOrder_ensures (fun _ => Working base) (Failed base) ?_ rfl [] working acts
  intro _ op _ before result after working acts
  obtain ⟨operation, rfl, starting, goesOn⟩ := execute_working (.inl working) acts
  refine ⟨operation, rfl, ?_⟩
  cases succeeded : operation.ok with
  | false => simpa [succeeded, Failed] using starting.2
  | true => simpa [succeeded] using goesOn succeeded

theorem executeFinalAndCommit_ended {result : Except StdException TFinalCommitResult}
    (ready : Working base before ∨ Starting base before ∧ op.Opens)
    (acts : Acts serverAnswers (executeFinalAndCommit op) before result after) :
    ∃ final, result = .ok final ∧ if final.operation.ok then
          Ended base (commitVerdict final.commit) after else Failed base after := by
  rcases acts_bind.mp acts with ⟨operation, middle, executed, ending⟩ | ⟨ex, executed, _⟩
  · obtain ⟨_, ⟨⟩, starting, goesOn⟩ := execute_working ready executed
    split at ending
    · rename_i succeeded
      obtain ⟨⟨usable, unchanged⟩, opened⟩ := goesOn succeeded
      rcases acts_bind.mp ending with ⟨report, _, committing, returned⟩ | ⟨ex, committing, _⟩
      · obtain ⟨rfl, rfl⟩ := acts_pure.mp returned
        obtain ⟨answer, ⟨⟩, committed⟩ := commit_committed usable opened committing
        rw [unchanged] at committed
        exact ⟨_, rfl, by
          simpa [succeeded] using ended_of_committed committed⟩
      · obtain ⟨_, ⟨⟩, _⟩ := commit_committed usable opened committing
    · rename_i failed
      rcases acts_bind.mp ending with ⟨report, _, rolling, returned⟩ | ⟨ex, rolling, _⟩
      · obtain ⟨rfl, rfl⟩ := acts_pure.mp returned
        exact ⟨_, rfl, by
          simpa [failed, Failed] using (rollback_server rolling).trans starting.2⟩
      · obtain ⟨_, ⟨⟩⟩ := rollback_returns rolling
  · obtain ⟨_, ⟨⟩, _⟩ := execute_working ready executed

theorem attemptRule (base : Server) : AttemptRule surroundings.workflow (Starting base)
      (fun _ => Working base) (Failed base) (Ended base) where
  execute := by
    intro before after op reply ready answered
    obtain ⟨operation, rfl, starting, goesOn⟩ := execute_working ready answered
    cases succeeded : operation.ok with
    | false => simpa [succeeded, Failed] using starting.2
    | true => simpa [succeeded] using goesOn succeeded
  executeBatch := by
    intro before after ops reply working _ answered
    obtain ⟨batch, rfl, outcome⟩ := executeBatch_working ops working answered
    exact outcome
  rollback := by
    intro before after reply failed answered
    exact (rollback_server answered).trans failed
  requestStop := by
    intro before after reply failed answered
    obtain ⟨_, same⟩ := Runs.done_iff.mp answered
    exact same.trans failed
  giveUp := fun working => working.1.2
  unsuccessful := ended_of_failed
  commit := by
    intro before after reply working answered
    obtain ⟨⟨usable, unchanged⟩, opened⟩ := working
    obtain ⟨answer, rfl, committed⟩ := commit_committed usable opened answered
    exact ended_of_committed (unchanged ▸ committed)
  executeFinalAndCommit := by
    intro pending before after op reply ready answered
    obtain ⟨final, rfl, ended⟩ := executeFinalAndCommit_ended (ready.imp_left And.left) answered
    cases succeeded : final.operation.ok with
    | false =>
      have stopped : Failed base after := by simpa [succeeded] using ended
      simp [succeeded, stopped]
    | true =>
      simpa [succeeded] using ended

theorem atMostOnceRule : AtMostOnceRule surroundings classifyException
      (fun state => state.2.applied) (fun state => state.2.confirmed)
      (fun _ => True) (fun state => state.1.terminal = false) where
  wait := by
    rintro before reply after _ ⟨unchanged, _⟩
    exact ⟨trivial, by rw [unchanged], by rw [unchanged]⟩
  begin := by
    rintro before reply after _ ⟨_, rfl⟩
    exact ⟨rfl, rfl, rfl⟩
  release := by
    intro before after released
    have unchanged : after.2 = before.2 := released
    exact ⟨trivial, by rw [unchanged], by rw [unchanged]⟩
  requestStop := by
    intro before reply after answered
    obtain ⟨_, same⟩ := Runs.done_iff.mp answered
    exact ⟨by rw [same], by rw [same]⟩
  attempt := by
    intro inputs before result after _ usable run
    exact (attemptRule before.2).ended_of_task ⟨usable, rfl⟩ run

/--
With ambiguous retries off, the writes of a business transaction are applied
at most once whatever fails on the way, all its attempts use the same inputs,
and it is recorded as successful only if the server confirmed a commit.
-/
theorem businessTransaction_committed_atMostOnce {config : RetryConfig}
    (classifier : config.classifyException = classifyException)
    (ambiguousOff : config.retryAmbiguousCommit = false) {polls : Nat}
    {before after : TerminalState (Transaction × Server)} {result : BusinessResult}
    (run : Runs surroundings.answers (businessTransaction config polls) before result after) :
    after.inner.2.applied ≤ before.inner.2.applied + 1 ∧
      (∃ inputs, ∀ started ∈ result.started, started = inputs) ∧
      (before.recorded.count .ok < after.recorded.count .ok →
      before.inner.2.confirmed < after.inner.2.confirmed) := by
  have spec := (classifier ▸ atMostOnceRule).businessTransaction_spec ambiguousOff trivial run
  obtain ⟨inputs, _, same⟩ := spec.inputs
  have counted := spec.confirmed
  exact ⟨spec.applied, ⟨inputs, same⟩, fun recorded => by omega⟩

/-- The loop's settings with two attempts. -/
def twoAttempts : RetryConfig where
  retryMaxAttempts := 2
  retryAmbiguousCommit := false
  classifyException := classifyException

/-- The adapter with a sound connection. -/
def adapterAt (txn terminal : Bool) (server : Server) : Transaction × Server :=
  ({ session := { txn, broken := false }, terminal }, server)

/-- A terminal with such an adapter. -/
def terminalAt (txn terminal : Bool) (server : Server) (recorded : List Recorded) :
    TerminalState (Transaction × Server) where
  inner := adapterAt txn terminal server
  recorded

/-- A payment up to its last operation. -/
theorem examplePayment_runs {result : Except Thrown Bool} {after : Transaction × Server}
    (rest : Runs surroundings.workflow
      (executeFinalAndFinish (.insertPaymentHistory exampleHistory))
      (adapterAt true false base) result after) :
    Runs surroundings.workflow (paymentTask examplePayment)
      (adapterAt false false base) result after := by
  refine Runs.call_iff.mpr ⟨.ok (okOp 2 2 (.location
      (addDistrictInfo (warehouseInfo [exampleAddress]) [exampleAddress]))),
    adapterAt true false base, ?_, ?_⟩
  · exact Runs.call_iff.mpr ⟨false, _, rfl, Runs.call_iff.mpr ⟨.ok (), _, rfl,
      Runs.call_iff.mpr ⟨.ok 1, _, rfl, Runs.call_iff.mpr ⟨false, _, rfl,
      Runs.call_iff.mpr ⟨.ok 1, _, rfl, Runs.call_iff.mpr ⟨false, _, rfl,
      Runs.call_iff.mpr ⟨.ok [exampleAddress], _, rfl, Runs.call_iff.mpr ⟨false, _, rfl,
      Runs.call_iff.mpr ⟨.ok [exampleAddress], _, rfl, .done _ _⟩⟩⟩⟩⟩⟩⟩⟩⟩
  refine Runs.call_iff.mpr ⟨.ok (okOp 1 1 (.customer exampleCustomer)),
    adapterAt true false base, ?_, ?_⟩
  · exact Runs.call_iff.mpr ⟨false, _, rfl, Runs.call_iff.mpr
      ⟨.ok [exampleCustomer], _, rfl, .done _ _⟩⟩
  refine Runs.call_iff.mpr ⟨.ok (okOp 1 1), adapterAt true false base, ?_, rest⟩
  exact Runs.call_iff.mpr ⟨false, _, rfl, Runs.call_iff.mpr ⟨.ok 1, _, rfl, .done _ _⟩⟩

/-- What the server says of two transactions that cannot be serialized. -/
def serializationFailure : StdException :=
  .pqxxSqlError .transactionRollback "40001" "could not serialize access due to concurrent update"

/-- The last operation of the payment and its commit, as the server answers it. -/
theorem examplePayment_commits {answer : Except StdException Unit} {after : Server}
    (known : answer = .ok () ∨ answer = .error serializationFailure)
    (committed : Committed base answer after) :
    surroundings.workflow (adapterAt true false base)
      (WorkflowCommand.executeFinalAndCommit (.insertPaymentHistory exampleHistory))
      (.ok { operation := okOp 1 1, commit := commitResultOf answer })
      (adapterAt false true after) := by
  refine Runs.call_iff.mpr ⟨false, _, rfl, Runs.call_iff.mpr ⟨.ok 1, _, rfl,
    Runs.call_iff.mpr ⟨false, _, rfl, Runs.call_iff.mpr ⟨answer, after, committed, ?_⟩⟩⟩⟩
  rcases known with rfl | rfl <;> exact .done _ _

/-- What the workflow raises then. -/
def serializationThrown : Except Thrown Bool :=
  commitVerdict (commitResultOf (.error serializationFailure))

/-- The attempt with these inputs goes from one state of the server to another. -/
theorem attempt_runs {fixedInputs : Option TxInputs} {answer : Except StdException Unit}
    {after : Server} {records : List Recorded}
    (fixed : ∀ inputs ∈ fixedInputs, inputs = .payment examplePayment)
    (known : answer = .ok () ∨ answer = .error serializationFailure)
    (committed : Committed base answer after)
    (recorded : Runs surroundings.answers
      (recordResult (commitVerdict (commitResultOf answer)))
      (terminalAt false true after []) () (terminalAt false true after records)) :
    Runs surroundings.answers (tryAttempt 1 fixedInputs) (terminalAt false true base [])
      ⟨some (commitVerdict (commitResultOf answer)), some (.payment examplePayment),
        some (.payment examplePayment)⟩
      (terminalAt false true after records) := by
  have chosen : Runs surroundings.answers (fixedTransactionInputs fixedInputs)
      (terminalAt false false base []) (.payment examplePayment)
      (terminalAt false false base []) := by
    cases fixedInputs with
    | none => exact Runs.call_iff.mpr ⟨_, _, ⟨trivial, rfl⟩, .done _ _⟩
    | some inputs =>
      obtain rfl := fixed inputs rfl
      exact .done _ _
  have attempt : Runs surroundings.workflow (paymentTask examplePayment)
      (adapterAt false false base) (commitVerdict (commitResultOf answer))
      (adapterAt false true after) := by
    refine examplePayment_runs
      (Runs.call_iff.mpr ⟨_, _, examplePayment_commits known committed, ?_⟩)
    rcases known with rfl | rfl <;> exact .done _ _
  refine tryAttempt_runs ⟨rfl, fun _ => rfl⟩ ⟨rfl, rfl⟩ (Runs.bind_iff.mpr ⟨_, _, chosen,
    Runs.bind_iff.mpr ⟨_, terminalAt false true after [], runs_runWorkflow.mpr ⟨attempt, rfl⟩,
    Runs.bind_iff.mpr ⟨_, _, recorded, ?_⟩⟩⟩)
  exact Runs.call_iff.mpr ⟨(), terminalAt false true after records, ⟨rfl, rfl⟩, .done _ _⟩

/-- A payment whose first commit fails with `40001` and whose second attempt commits. -/
theorem payment_committed_once_retried :
    ∃ result after,
      Runs surroundings.answers (businessTransaction twoAttempts 1)
        (terminalAt false true ⟨0, 0⟩ []) result after ∧
      result.started = [.payment examplePayment, .payment examplePayment] ∧
      after.recorded = [.ok] ∧ after.inner.2 = ⟨1, 1⟩ ∧
      after.inner.2.applied ≤ 0 + 1 ∧ (∃ inputs, ∀ started ∈ result.started, started = inputs) ∧
      (0 < after.recorded.count .ok → 0 < after.inner.2.confirmed) := by
  have failed : Runs surroundings.answers (tryAttempt 1 none) (terminalAt false true ⟨0, 0⟩ [])
      ⟨some serializationThrown, some (.payment examplePayment), some (.payment examplePayment)⟩
      (terminalAt false true ⟨0, 0⟩ []) :=
    attempt_runs (by simp) (.inr rfl) (.inl rfl) (.done _ _)
  have retried : Runs surroundings.answers (decideNext twoAttempts true (some serializationThrown))
      (terminalAt false true ⟨0, 0⟩ []) .retry (terminalAt false true ⟨0, 0⟩ []) :=
    Runs.call_iff.mpr ⟨false, terminalAt false true ⟨0, 0⟩ [], rfl,
      Runs.call_iff.mpr ⟨false, terminalAt false true ⟨0, 0⟩ [], rfl, .done _ _⟩⟩
  have confirmed : Runs surroundings.answers (tryAttempt 1 (some (.payment examplePayment)))
      (terminalAt false true ⟨0, 0⟩ [])
      ⟨some (.ok true), some (.payment examplePayment), some (.payment examplePayment)⟩
      (terminalAt false true ⟨1, 1⟩ [.ok]) :=
    attempt_runs (by simp) (.inl rfl) rfl
      (Runs.call_iff.mpr ⟨(), terminalAt false true ⟨1, 1⟩ [.ok], rfl,
        Runs.call_iff.mpr ⟨false, _, rfl, .done _ _⟩⟩)
  have run := businessTransaction_runs_retried rfl failed retried confirmed
  exact ⟨_, _, run, rfl, rfl, rfl, businessTransaction_committed_atMostOnce rfl rfl run⟩

end PortableTpcc.Pg
