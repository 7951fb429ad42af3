import PortableTpcc.ObAdapter
import PortableTpcc.WorkflowAborts

namespace PortableTpcc.Ob.Rollback

/-!
# Rollbacks that the server refuses

`TObConnection::Rollback` sends a `ROLLBACK` and drops what the server answers.
The session, the transaction and the workflow above it take every rollback for
done.  Here the answers are kept in a log that none of them sees, so that what
is reported can be compared with what the server said.
-/

/-- The answers of the server to the `ROLLBACK`s it was sent. -/
abbrev RollbackLog := List (Except StdException Unit)

/-- Any replies, from a server that answers a `ROLLBACK` in this way. -/
def rollbackAnswers (answer : Except StdException Unit) : Answers driverFace RollbackLog :=
  fun before command _ after =>
    match command with
    | .rollback => after = before ++ [answer]
    | _ => after = before

section

variable {answer : Except StdException Unit} {log : RollbackLog}

/-! ### One statement -/

/-- The session has a transaction, and no `ROLLBACK` was sent. -/
structure SessionWorks (log : RollbackLog) (state : Session × RollbackLog) :
    Prop where
  inTxn : state.1.inTxn = true
  log_eq : state.2 = log

/-- The session has rolled its transaction back. -/
structure SessionReset (answer : Except StdException Unit) (log : RollbackLog)
    (state : Session × RollbackLog) : Prop where
  inTxn : state.1.inTxn = false
  log_eq : state.2 = log ++ [answer]

theorem checkShutdown_logs {Before : Session × RollbackLog → Prop} :
    Ensures (rollbackAnswers answer) Before checkShutdown fun _ state => Before state := by
  intro before result after initially acts
  obtain ⟨session, connection⟩ := before
  obtain ⟨flag, answered, same, _⟩ := acts_checkShutdown.mp acts
  obtain rfl : after = (session, connection) := Prod.ext same answered
  exact initially

theorem ensureTxn_works : Ensures (rollbackAnswers answer) (SessionWorks log) ensureTxn
      fun _ state => SessionWorks log state := by
  intro before result after works acts
  obtain ⟨session, connection⟩ := before
  have entered := acts_ensureTxn.mp acts
  rw [if_pos works.inTxn] at entered
  obtain ⟨_, rfl⟩ := entered
  exact works

theorem exec_works (statement : Statement) :
    Ensures (rollbackAnswers answer) (SessionWorks log)
      (do Action.orThrow (← ask (.exec statement)))
      fun _ state => SessionWorks log state := by
  intro before result after works acts
  obtain ⟨reply, middle, answered, later⟩ := acts_ask_bind.mp acts
  obtain ⟨_, rfl⟩ := acts_orThrow.mp later
  obtain rfl : middle = before.2 := answered
  exact works

/-- A statement in a transaction joins it, or rolls it back. -/
theorem executeStatement_works (statement : Statement) :
    Ensures (rollbackAnswers answer) (SessionWorks log) (executeStatement statement)
      fun result state =>
        match result with
        | .ok _ => SessionWorks log state
        | .error _ => SessionReset answer log state := by
  have body : Ensures (rollbackAnswers answer) (SessionWorks log) (do
          checkShutdown
          ensureTxn
          Action.orThrow (← ask (.exec statement)))
        fun _ state => SessionWorks log state :=
    .bind_of checkShutdown_logs (fun _ => .bind_of ensureTxn_works (fun _ => exec_works statement)
        fun _ _ works => works)
      fun _ _ works => works
  intro before result after works acts
  obtain ⟨session, connection⟩ := before
  have caught := acts_resetTxnOnError.mp acts
  cases result with
  | ok value =>
    exact body works caught
  | error ex =>
    obtain ⟨middle, ran, resetting⟩ := caught
    have stillWorks : SessionWorks log middle := body works ran
    obtain ⟨_, reset⟩ := acts_resetTxn.mp resetting
    have inside : (middle.1.markException ex).inTxn = true := stillWorks.inTxn
    rw [if_pos inside] at reset
    obtain ⟨rolled, outside⟩ := reset
    constructor
    · rw [outside]
      rfl
    · rw [← stillWorks.log_eq]
      exact rolled

theorem executeStatement_opens {statement : Statement} {session : Session}
    {reply : statement.Reply} {after : Session × RollbackLog}
    (acts : Acts (rollbackAnswers answer) (executeStatement statement) (session, log)
        (.ok reply) after) : SessionWorks log after := by
  have caught := acts_resetTxnOnError.mp acts
  obtain ⟨_, ⟨checkedSession, checked⟩, checking, opening⟩ |
    ⟨_, _, failed⟩ := acts_bind.mp caught
  · obtain ⟨flag, answered, same, _⟩ := acts_checkShutdown.mp checking
    obtain rfl : checked = log := answered
    obtain ⟨_, opened, entering, executing⟩ | ⟨_, _, failed⟩ := acts_bind.mp opening
    · have works : SessionWorks checked opened := by
        have entered := acts_ensureTxn.mp entering
        split at entered
        · rename_i inside
          obtain ⟨_, rfl⟩ := entered
          exact ⟨inside, rfl⟩
        · obtain ⟨started, changed⟩ := entered
          exact ⟨by rw [changed], started⟩
      exact exec_works statement works executing
    · cases failed
  · cases failed

/-! ### Operations -/

/-- The transaction goes on, and no `ROLLBACK` was sent. -/
structure Works (log : RollbackLog) (state : Transaction × RollbackLog) : Prop where
  usable : state.1.terminal = false
  session : SessionWorks log (state.1.session, state.2)

/-- The session has rolled back what the transaction did. -/
structure Reset (answer : Except StdException Unit) (log : RollbackLog)
    (state : Transaction × RollbackLog) : Prop where
  usable : state.1.terminal = false
  session : SessionReset answer log (state.1.session, state.2)

/-- An action goes on in its transaction, or throws after a rollback. -/
def Tracks (answer : Except StdException Unit) (log : RollbackLog)
    (action : TransactionM α) : Prop :=
  Ensures (rollbackAnswers answer) (Works log) action fun result state =>
    match result with
    | .ok _ => Works log state
    | .error _ => Reset answer log state

namespace Tracks

variable {α β : Type}

theorem pure (value : α) : Tracks answer log (Pure.pure value : TransactionM α) :=
  Ensures.pure fun _ works => works

theorem bind {first : TransactionM α} {rest : α → TransactionM β} (head : Tracks answer log first)
    (tail : ∀ value, Tracks answer log (rest value)) : Tracks answer log (first >>= rest) :=
  Ensures.bind_of head tail fun _ _ reset => reset

theorem get_bind {rest : Transaction → TransactionM β}
    (tail : ∀ own, Tracks answer log (rest own)) : Tracks answer log (get >>= rest) :=
  Ensures.get_bind fun own => (tail own).mono (fun _ works => works.1) fun _ _ outcome => outcome

theorem modify_bind {change : Transaction → Transaction} {rest : PUnit → TransactionM β}
    (usable : ∀ own, (change own).terminal = own.terminal)
    (session : ∀ own, (change own).session = own.session) (tail : Tracks answer log (rest ⟨⟩)) :
    Tracks answer log (modify change >>= rest) := by
  refine Ensures.modify_bind (Works log) ?_ tail
  intro state works
  refine ⟨(usable state.1).trans works.usable, ?_⟩
  have kept := works.session
  dsimp only
  rw [session]
  exact kept

theorem send (statement : Statement) : Tracks answer log (send statement) := by
  intro before result after works acts
  rw [Ob.send, onSession, acts_zoom] at acts
  obtain ⟨session, executed, changed⟩ := acts
  have outcome := executeStatement_works statement works.session executed
  cases result with
  | ok reply =>
    refine ⟨?_, ?_⟩
    · rw [changed]
      exact works.usable
    · rw [changed]
      exact outcome
  | error ex =>
    refine ⟨?_, ?_⟩
    · rw [changed]
      exact works.usable
    · rw [changed]
      exact outcome

theorem queryOp (text : Query) (read : List text.Row → TOperationResult) :
    Tracks answer log (queryOp text read) :=
  .bind (.send _) fun _ => .pure _

theorem mapAffected (text : Modify) (what : String) : Tracks answer log (mapAffected text what) :=
  .bind (.send _) fun _ => .pure _

theorem modifyThen {text : Modify} {expected : Nat} {what : String}
    {next : TransactionM TOperationResult} (tail : Tracks answer log next) :
    Tracks answer log (modifyThen text expected what next) := by
  refine .bind (.send _) fun actual => ?_
  split
  · exact tail
  · exact .pure _

theorem reserveDistrictOrderId (w d : Int) : Tracks answer log (reserveDistrictOrderId w d) := by
  refine .bind (.send _) fun rows => ?_
  match rows with
  | [] => exact .pure _
  | (_, _) :: _ => exact .modifyThen (.pure _)

theorem getItems (itemIds : List Int) : Tracks answer log (getItems itemIds) := by
  unfold Ob.getItems
  dsimp only
  split
  · exact .pure _
  · split
    · exact .pure _
    · exact .queryOp _ _

theorem getStocksForUpdate (districtId : Int) (stocks : List TStockKey) :
    Tracks answer log (getStocksForUpdate districtId stocks) := by
  unfold Ob.getStocksForUpdate
  dsimp only
  split
  · exact .pure _
  · split
    · exact .pure _
    · exact .queryOp _ _

theorem countRecentLowStock (w d threshold recentOrderCount : Int) :
    Tracks answer log (countRecentLowStock w d threshold recentOrderCount) := by
  refine .bind (.send _) fun districts => ?_
  match districts with
  | [] => exact .pure _
  | _ :: _ => exact .queryOp _ _

theorem applyPaymentToLocation (request : TApplyPaymentToLocation) :
    Tracks answer log (applyPaymentToLocation request) := by
  refine .bind (.send _) fun reply => ?_
  split
  · exact .pure _
  · split
    · exact .pure _
    · exact .modify_bind (fun _ => rfl) (fun _ => rfl) (.pure _)

theorem completeOrderDelivery (request : TCompleteOrderDelivery) :
    Tracks answer log (completeOrderDelivery request) := by
  refine .bind (.send _) fun deleted => ?_
  split
  · exact .pure _
  · split
    · exact .pure _
    · exact .modifyThen (.modifyThen (.pure _))

theorem loadDeliveryPrefetch (w : Int) : Tracks answer log (loadDeliveryPrefetch w) := by
  refine .bind (.send _) fun sets => ?_
  split
  · exact .pure _
  refine .modify_bind (fun _ => rfl) (fun _ => rfl) ?_
  split
  · exact .modify_bind (fun _ => rfl) (fun _ => rfl) (.pure _)
  refine .bind (.send _) fun infos => ?_
  match infos with
  | none =>
    exact .pure _
  | some (_, _) =>
    refine .modify_bind (fun _ => rfl) (fun _ => rfl) ?_
    split
    · exact .pure _
    · exact .modify_bind (fun _ => rfl) (fun _ => rfl) (.pure _)

theorem getOldestNewOrder (w d : Int) : Tracks answer log (getOldestNewOrder w d) := by
  have prefetch : Tracks answer log (ensureDeliveryPrefetch w) := by
    refine .get_bind fun own => ?_
    split
    · exact .pure _
    · exact .modify_bind (fun _ => rfl) (fun _ => rfl) (.loadDeliveryPrefetch w)
  refine .bind prefetch fun prefetched => ?_
  split
  · exact .pure _
  · exact .get_bind fun _ => .pure _

theorem getDeliveryOrderInfo (w d o : Int) : Tracks answer log (getDeliveryOrderInfo w d o) := by
  refine .get_bind fun own => ?_
  split
  · exact .pure _
  refine .bind (.send _) fun customers => ?_
  match customers with
  | [] => exact .pure _
  | _ :: _ => exact .queryOp _ _

theorem operation (op : TSemanticOp) : Tracks answer log (operation op) := by
  cases op with
  | getWarehouseTax => exact .queryOp _ _
  | reserveDistrictOrderId => exact .reserveDistrictOrderId _ _
  | getCustomerById => exact .get_bind fun _ => .queryOp _ _
  | getCustomersByLastName => exact .get_bind fun _ => .queryOp _ _
  | getItems => exact .getItems _
  | createOrder => exact .modifyThen (.modifyThen (.pure _))
  | getStocksForUpdate => exact .getStocksForUpdate _ _
  | updateStock => exact .mapAffected _ _
  | insertOrderLine => exact .mapAffected _ _
  | applyPaymentToLocation => exact .applyPaymentToLocation _
  | getCustomerData => exact .queryOp _ _
  | updateCustomerPayment =>
    exact .modify_bind (fun _ => rfl) (fun _ => rfl) (.pure _)
  | insertPaymentHistory => exact .mapAffected _ _
  | getLatestCustomerOrder => exact .queryOp _ _
  | getOrderStatusLines => exact .queryOp _ _
  | getOldestNewOrder => exact .getOldestNewOrder _ _
  | getDeliveryOrderInfo => exact .getDeliveryOrderInfo _ _ _
  | completeOrderDelivery => exact .completeOrderDelivery _
  | applyDeliveryToCustomer => exact .mapAffected _ _
  | countRecentLowStock => exact .countRecentLowStock _ _ _ _

end Tracks

/-- The transaction has failed; a rollback is due, or was sent already. -/
def Failed (answer : Except StdException Unit) (log : RollbackLog)
    (state : Transaction × RollbackLog) : Prop :=
  Works log state ∨ Reset answer log state

theorem execute_works (op : TSemanticOp) : Ensures (rollbackAnswers answer) (Works log) (execute op)
      (Returns (Works log) (Failed answer log)) := by
  intro before result after works acts
  rw [execute, acts_get_bind, if_neg (by simp [works.usable])] at acts
  obtain ⟨value, middle, ran, later⟩ := acts_attempt_bind.mp acts
  have outcome := Tracks.operation op works ran
  cases value with
  | ok operation =>
    obtain ⟨rfl, rfl⟩ := acts_pure.mp later
    refine ⟨operation, rfl, ?_⟩
    split
    · exact outcome
    · exact .inl outcome
  | error ex =>
    obtain ⟨rfl, rfl⟩ := acts_pure.mp later
    exact ⟨_, rfl, .inr outcome⟩

/-- A batch that succeeds leaves its transaction open. -/
def BatchWorks (log : RollbackLog) (result : Except StdException TBatchResult)
    (state : Transaction × RollbackLog) : Prop :=
  ∀ batch, result = .ok batch → batch.ok = true → Works log state

theorem catchBatch_works {computation : TransactionM TBatchResult}
    (tracks : Tracks answer log computation) :
    Ensures (rollbackAnswers answer) (Works log) (catchBatch computation) (BatchWorks log) := by
  intro before result after works acts
  obtain ⟨value, middle, ran, later⟩ := acts_attempt_bind.mp acts
  have outcome := tracks works ran
  cases value with
  | ok batch =>
    obtain ⟨_, rfl⟩ := acts_pure.mp later
    intro _ _ _
    exact outcome
  | error ex =>
    obtain ⟨rfl, _⟩ := acts_pure.mp later
    rintro _ ⟨⟩ ⟨⟩

theorem executeBatchSequentially_works (ops : List TSemanticOp) :
    Ensures (rollbackAnswers answer) (Works log) (executeBatchSequentially ops)
      (BatchWorks log) := by
  refine (executeInOrder_ensures (fun _ => Works log) (Failed answer log)
    (fun _ op _ => execute_works op) rfl []).mono (fun _ works => works) ?_
  rintro result state ⟨final, rfl, outcome⟩ batch ⟨⟩ succeeded
  rw [if_pos succeeded] at outcome
  exact outcome

theorem executeBatch_works (ops : List TSemanticOp) :
    Ensures (rollbackAnswers answer) (Works log) (executeBatch ops) (BatchWorks log) := by
  have sends (statement : Statement) (read : statement.Reply → TBatchResult) :
      Tracks answer log (do return read (← send statement)) :=
    .bind (.send _) fun _ => .pure _
  intro before result after works acts
  rw [executeBatch, acts_get_bind, if_neg (by simp [works.usable])] at acts
  revert acts
  split
  · intro acts
    obtain ⟨_, rfl⟩ := acts_pure.mp acts
    intro _ _ _
    exact works
  split
  · intro acts
    unfold executeStockBatch at acts
    dsimp only at acts
    split at acts
    · exact executeBatchSequentially_works _ works acts
    · exact catchBatch_works (sends (.modify _) _) works acts
  · intro acts
    unfold executeOrderLineBatch at acts
    split at acts
    · exact executeBatchSequentially_works _ works acts
    · exact catchBatch_works (sends (.modify _) _) works acts
  · intro acts
    unfold executeCompleteDeliveryBatch at acts
    split at acts
    · obtain ⟨rfl, _⟩ := acts_throw.mp acts
      rintro _ ⟨⟩
    · exact catchBatch_works (sends (.multi _) _) works acts
  · intro acts
    unfold executeApplyDeliveryBatch at acts
    split at acts
    · exact executeBatchSequentially_works _ works acts
    · exact catchBatch_works (sends (.modify _) _) works acts
  · intro acts
    exact executeBatchSequentially_works _ works acts

/-! ### The rollback -/

/-- The session forgets its transaction, whatever the server answers. -/
theorem acts_sessionRollback {session : Session} {result : Except StdException Unit}
    {after : Session × RollbackLog} :
    Acts (rollbackAnswers answer) sessionRollback (session, log) result after ↔ result = .ok () ∧
      after = (session.outsideTxn, if session.inTxn then log ++ [answer] else log) := by
  rw [sessionRollback, acts_resetTxn]
  cases inTxn : session.inTxn with
  | true =>
    have split : (after.2 = log ++ [answer] ∧ after.1 = session.outsideTxn) ↔
        after = (session.outsideTxn, log ++ [answer]) := by
      rw [and_comm, Prod.ext_iff]
    simpa [rollbackAnswers] using fun _ => split
  | false =>
    have same : session.outsideTxn = session := by
      cases session
      cases inTxn
      rfl
    simp [same]

variable {after : Transaction × RollbackLog}

theorem acts_rollback {transaction : Transaction} {result : Except StdException TCommitResult} :
    Acts (rollbackAnswers answer) rollback (transaction, log) result after ↔
      if transaction.terminal then
        result = .ok (inTerminalState "Rollback called in terminal state") ∧
          after = (transaction, log)
      else
        result = .ok (rollbackResultOf (.ok ())) ∧ after = (endTxn
                { transaction with session := transaction.session.outsideTxn },
              if transaction.session.inTxn then log ++ [answer] else log) := by
  rw [rollback, acts_get_bind]
  cases transaction.terminal with
  | true =>
    exact acts_pure
  | false =>
    simp only [Bool.false_eq_true, ↓reduceIte, acts_attempt_bind, onSession,
      acts_zoom, acts_sessionRollback, acts_modify_bind, acts_pure]
    constructor
    · rintro ⟨_, ⟨_, _⟩, ⟨_, ⟨rfl, ⟨⟩⟩, rfl⟩, rfl, rfl⟩
      exact ⟨rfl, rfl⟩
    · rintro ⟨rfl, rfl⟩
      exact ⟨.ok (), (_, _), ⟨_, ⟨rfl, rfl⟩, rfl⟩, rfl, rfl⟩

variable {before : Transaction × RollbackLog}

theorem rollback_logs {report : TCommitResult} (failed : Failed answer log before)
    (acts : Acts (rollbackAnswers answer) rollback before (.ok report) after) :
    after.1.session.inTxn = false ∧ after.2 = log ++ [answer] := by
  obtain ⟨transaction, current⟩ := before
  have rolled := acts_rollback.mp acts
  rcases failed with works | reset
  · obtain ⟨usable, inTxn, rfl⟩ := works
    dsimp only at usable inTxn
    rw [if_neg (by simp [usable]), if_pos inTxn] at rolled
    obtain ⟨_, rfl⟩ := rolled
    exact ⟨rfl, rfl⟩
  · obtain ⟨usable, inTxn, rfl⟩ := reset
    dsimp only at usable inTxn
    rw [if_neg (by simp [usable]), if_neg (by simp [inTxn])] at rolled
    obtain ⟨_, rfl⟩ := rolled
    exact ⟨rfl, rfl⟩

/-! ### Attempts of a terminal -/

/-- A terminal on this adapter. -/
def surroundings (answer : Except StdException Unit) :
    Surroundings (Transaction × RollbackLog) where
  generates _ := True
  waitCreateSession before _ after := after = before
  begin before _ after :=
    ∃ session : Session, session.inTxn = false ∧ after = ({ session }, before.2)
  releaseSession before after :=
    ∃ reusable, Acts (rollbackAnswers answer) (onSession releaseConnection) before
      (.ok reusable) after
  workflow := implementedAnswers implementation (rollbackAnswers answer)

/-- A transaction that may send statements. -/
structure Begun (log : RollbackLog) (state : Transaction × RollbackLog) : Prop where
  usable : state.1.terminal = false
  log_eq : state.2 = log

theorem getCustomerById_works {w d c : Int} {result : TOperationResult} (begun : Begun log before)
    (acts : Acts (rollbackAnswers answer) (execute (.getCustomerById w d c)) before
        (.ok result) after) (succeeded : result.ok = true) : Works log after := by
  obtain ⟨transaction, current⟩ := before
  obtain ⟨usable, rfl⟩ := begun
  dsimp only at usable
  rw [execute, acts_get_bind, if_neg (by simp [usable])] at acts
  obtain ⟨value, middle, ran, later⟩ := acts_attempt_bind.mp acts
  cases value with
  | error ex =>
    obtain ⟨failed, _⟩ := acts_pure.mp later
    cases failed
    cases succeeded
  | ok operation =>
    obtain ⟨_, rfl⟩ := acts_pure.mp later
    have asked := acts_get_bind.mp ran
    rcases acts_bind.mp asked with ⟨_, _, sent, read⟩ | ⟨_, _, failed⟩
    · obtain ⟨_, rfl⟩ := acts_pure.mp read
      rw [send, onSession, acts_zoom] at sent
      obtain ⟨session, executed, changed⟩ := sent
      refine ⟨?_, ?_⟩
      · rw [changed]
        exact usable
      · rw [changed]
        exact executeStatement_opens executed
    · cases failed

theorem abortRule :
    AbortRule (surroundings answer).workflow (Begun log) (Works log) (Failed answer log)
      fun state => state.1.session.inTxn = false ∧ state.2 = log ++ [answer] where
  opens begun answered succeeded := getCustomerById_works begun answered succeeded
  execute working answered := by
    obtain ⟨operation, same, outcome⟩ := execute_works _ working answered
    cases same
    exact outcome
  executeBatch working answered succeeded := executeBatch_works _ working answered _ rfl succeeded
  rollback failed answered _ := rollback_logs failed answered

/-- A session without a transaction is released as it is. -/
theorem releaseConnection_logs {reusable : Bool} (outside : before.1.session.inTxn = false)
    (acts : Acts (rollbackAnswers answer) (onSession releaseConnection) before
        (.ok reusable) after) : after.2 = before.2 := by
  obtain ⟨session, released, _⟩ := acts_zoom.mp acts
  rcases acts_bind.mp released with ⟨_, middle, resetting, last⟩ | ⟨_, _, failed⟩
  · obtain ⟨_, reset⟩ := acts_resetTxn.mp resetting
    rw [if_neg (by simp [outside])] at reset
    rw [acts_get_bind] at last
    obtain ⟨_, same⟩ := acts_pure.mp last
    rw [reset] at same
    exact (Prod.mk.inj same).2
  · cases failed

/-- What a rollback reports was confirmed if a `ROLLBACK` was sent and answered so. -/
theorem rollback_confirmed_iff {transaction : Transaction} :
    (∀ report after, Acts (rollbackAnswers answer) rollback (transaction, log) (.ok report) after →
      report.outcome = .rolledBack → after.2 = log ++ [.ok ()]) ↔ transaction.terminal = true ∨
      transaction.session.inTxn = true ∧ answer = .ok () := by
  by_cases terminal : transaction.terminal = true
  · simp only [acts_rollback, terminal, ↓reduceIte, true_or, iff_true]
    rintro _ _ ⟨⟨⟩, _⟩ ⟨⟩
  · rw [or_iff_right terminal]
    simp only [acts_rollback, if_neg terminal]
    by_cases inTxn : transaction.session.inTxn = true
    · rw [if_pos inTxn]
      constructor
      · intro confirmed
        have logged := confirmed _ _ ⟨rfl, rfl⟩ rfl
        exact ⟨inTxn, List.singleton_inj.mp (List.append_cancel_left logged)⟩
      · rintro ⟨_, rfl⟩ _ _ ⟨_, rfl⟩ _
        rfl
    · rw [if_neg inTxn]
      constructor
      · intro confirmed
        have logged := confirmed _ _ ⟨rfl, rfl⟩ rfl
        exact absurd (congrArg List.length logged) (by simp)
      · rintro ⟨inside, _⟩
        exact absurd inside inTxn

end

/--
`Rollback` reports `RolledBack` only after a confirmed `ROLLBACK` just when the
session sends one and the server confirms it.  If it does, an attempt that is
counted as `UserAborted` has sent one `ROLLBACK`, and it was confirmed.
-/
theorem rolledBack_confirmed_iff (answer : Except StdException Unit) (transaction : Transaction)
    (log : RollbackLog) :
    ((∀ report after, Acts (rollbackAnswers answer) rollback (transaction, log) (.ok report) after →
      report.outcome = .rolledBack → after.2 = log ++ [.ok ()]) ↔ transaction.terminal = true ∨
      transaction.session.inTxn = true ∧ answer = .ok ()) ∧
      (answer = .ok () → transaction.terminal = false →
      ∀ (config : RetryConfig) (attemptsRemain : Bool) (inputs : NewOrderInputs)
      (start final : TerminalState (Transaction × RollbackLog)) (decision : Decision),
      start.inner = (transaction, log) → Runs (surroundings answer).answers (do
              let attempt ← attemptWorkflow (some (.newOrder inputs))
              decideNext config attemptsRemain attempt.outcome)
            start decision final →
          final.recorded.count .userAborted ≠ start.recorded.count .userAborted →
          final.inner.2 = log ++ [.ok ()]) := by
  constructor
  · exact rollback_confirmed_iff
  · rintro rfl usable config attemptsRemain inputs start final decision begins run counted
    have begun : Begun log start.inner := by
      rw [begins]
      exact ⟨usable, rfl⟩
    obtain ⟨ended, ⟨outside, logged⟩, _, released⟩ := abortRule.ended_of_counted begun run counted
    rw [releaseConnection_logs outside released]
    exact logged

/-! ### An order with an unused item -/

section

variable {answer : Except StdException Unit} {log : RollbackLog}
  {transaction : Transaction}

/-- Any reply that is no exception keeps the transaction open. -/
theorem send_replies (statement : Statement) (reply : statement.Reply) :
    Acts (rollbackAnswers answer) (send statement) (transaction, log) (.ok reply)
      ({ transaction with session := { transaction.session with inTxn := true } },
        log) := by
  rw [send, onSession, acts_zoom]
  refine ⟨{ transaction.session with inTxn := true }, ?_, rfl⟩
  rw [executeStatement, acts_resetTxnOnError]
  refine acts_bind.mpr (.inl ⟨(), (transaction.session, log), ?_, ?_⟩)
  · exact acts_checkShutdown.mpr ⟨false, rfl, rfl, rfl⟩
  refine acts_bind.mpr (.inl ⟨(), ({ transaction.session with inTxn := true }, log), ?_, ?_⟩)
  · refine acts_ensureTxn.mpr ?_
    split
    · rename_i inside
      rw [← inside]
      exact ⟨rfl, rfl⟩
    · exact ⟨rfl, rfl⟩
  · exact acts_ask_bind.mpr ⟨.ok reply, _, rfl, acts_orThrow.mpr ⟨rfl, rfl⟩⟩

theorem query_replies (text : Query) (read : List text.Row → TOperationResult)
    (rows : List text.Row) :
    Acts (rollbackAnswers answer) (queryOp text read) (transaction, log) (.ok (read rows))
      ({ transaction with session := { transaction.session with inTxn := true } },
        log) :=
  acts_bind.mpr (.inl ⟨rows, _, send_replies (.query text) rows, acts_pure.mpr ⟨rfl, rfl⟩⟩)

/-- A modification whose count is right goes on. -/
theorem modifyThen_replies {text : Modify} {expected : Nat} {what : String}
    {next : TransactionM TOperationResult} {result : Except StdException TOperationResult}
    {after : Transaction × RollbackLog}
    (later :
      Acts (rollbackAnswers answer) next
        ({ transaction with session := { transaction.session with inTxn := true } },
          log) result after) :
    Acts (rollbackAnswers answer) (modifyThen text expected what next)
      (transaction, log) result after := by
  refine acts_bind.mpr (.inl ⟨expected, _, send_replies (.modify text) expected, ?_⟩)
  rw [if_pos (by simp [checkAffected, okOp])]
  exact later

theorem execute_replies {op : TSemanticOp} {operation : TOperationResult}
    {after : Transaction × RollbackLog} (usable : transaction.terminal = false)
    (acts : Acts (rollbackAnswers answer) (Ob.operation op) (transaction, log)
      (.ok operation) after) :
    Acts (rollbackAnswers answer) (execute op) (transaction, log) (.ok operation) after := by
  rw [execute, acts_get_bind, if_neg (by simp [usable])]
  exact acts_attempt_bind.mpr ⟨.ok operation, after, acts, acts_pure.mpr ⟨rfl, rfl⟩⟩

end

/-- Four lines of one item, and one of the unused item. -/
def unusedItemOrder : NewOrderInputs where
  warehouseId := 1
  districtId := 1
  customerId := 1
  lines := [⟨1, 1, 5⟩, ⟨1, 1, 5⟩, ⟨1, 1, 5⟩, ⟨1, 1, 5⟩, ⟨invalidItemId, 1, 5⟩]
  allLocal := 1

/-- The item on stock. -/
def stockedItem : TItemRow :=
  { itemId := 1, price := 100, name := "", data := "" }

/-- The stock of the item. -/
def stockOfItem : TStockRow :=
  { warehouseId := 1, itemId := 1, quantity := 91, ytd := 0, orderCount := 0
    remoteCount := 0, data := "", distInfo := "" }

/-- A transaction that has sent a statement. -/
def openedTransaction : Transaction :=
  { session := { inTxn := true, broken := false } }

/-- The attempt goes to its end, however the server answers the `ROLLBACK`. -/
theorem unusedItemOrder_aborts (answer : Except StdException Unit) :
    Aborts (surroundings answer).workflow (newOrderTask unusedItemOrder)
      ({ session := Session.fresh }, [])
      ({ session := Session.fresh, terminal := true }, [answer]) := by
  have batch {text : Modify} {read : Nat → TBatchResult} (count : Nat) :
      Acts (rollbackAnswers answer) (catchBatch do
          let affected : Nat ← send (.modify text)
          return read affected)
        (openedTransaction, []) (.ok (read count)) (openedTransaction, []) :=
    acts_attempt_bind.mpr ⟨.ok (read count), (openedTransaction, []), acts_bind.mpr
      (.inl ⟨count, _, send_replies (.modify text) count, acts_pure.mpr ⟨rfl, rfl⟩⟩),
      acts_pure.mpr ⟨rfl, rfl⟩⟩
  have findsCustomer : Acts (rollbackAnswers answer) (execute (.getCustomerById 1 1 1))
      ({ session := Session.fresh }, [])
      (.ok (okOp 1 1 (.customer exampleCustomer))) (openedTransaction, []) :=
    execute_replies rfl (acts_get_bind.mpr
      (query_replies (.customerById false 1 1 1) _ [exampleCustomer]))
  have readsTax : Acts (rollbackAnswers answer) (execute (.getWarehouseTax 1))
      (openedTransaction, []) (.ok (okOp 1 1 (.rate 0))) (openedTransaction, []) :=
    execute_replies rfl (query_replies (.warehouseTax 1) _ [(0 : TRate)])
  have reserves : Acts (rollbackAnswers answer) (execute (.reserveDistrictOrderId 1 1))
      (openedTransaction, [])
      (.ok (okOp 1 1 (.reservation { nextOrderId := 3001, districtTax := 0 })))
      (openedTransaction, []) := by
    refine execute_replies rfl (acts_bind.mpr (.inl ⟨[((3001 : Int), (0 : TRate))], _,
      send_replies (.query (.districtNextOrderForUpdate 1 1)) _, ?_⟩))
    exact modifyThen_replies (acts_pure.mpr ⟨rfl, rfl⟩)
  have creates : Acts (rollbackAnswers answer) (execute (.createOrder
            { warehouseId := 1, districtId := 1, orderId := 3001
              customerId := 1, lineCount := 5, allLocal := 1 }))
        (openedTransaction, []) (.ok (okOp 2 2)) (openedTransaction, []) :=
    execute_replies rfl (modifyThen_replies (modifyThen_replies (acts_pure.mpr ⟨rfl, rfl⟩)))
  refine aborts_executeThen.mpr ⟨_, _, findsCustomer, rfl, ?_⟩
  refine aborts_executeThen.mpr ⟨_, _, readsTax, rfl, ?_⟩
  refine aborts_executeThen.mpr ⟨_, _, reserves, rfl, ?_⟩
  refine aborts_executeThen.mpr ⟨_, _, creates, rfl, ?_⟩
  have readsItems : Acts (rollbackAnswers answer) (execute (.getItems [1, 1, 1, 1]))
      (openedTransaction, []) (.ok (okOp 1 1 (.items [stockedItem]))) (openedTransaction, []) :=
    execute_replies rfl (query_replies (.items [1]) _ [stockedItem])
  have readsStocks : Acts (rollbackAnswers answer) (execute (.getStocksForUpdate 1 [⟨1, 1⟩]))
      (openedTransaction, []) (.ok (okOp 1 1 (.stocks [stockOfItem]))) (openedTransaction, []) :=
    execute_replies rfl (query_replies (.stocksForUpdate 1 [⟨1, 1⟩]) _ [stockOfItem])
  refine aborts_executeThen.mpr ⟨_, _, readsItems, rfl, ?_⟩
  refine aborts_executeThen.mpr ⟨_, _, readsStocks, rfl, ?_⟩
  refine aborts_executeBatchThen.mpr ⟨_, (openedTransaction, []), batch 1, rfl, ?_⟩
  refine aborts_executeBatchThen.mpr ⟨_, (openedTransaction, []), batch 4, rfl, ?_⟩
  have misses : Acts (rollbackAnswers answer) (execute (.getItems [invalidItemId]))
      (openedTransaction, []) (.ok (failOp .integrity "item not found")) (openedTransaction, []) :=
    execute_replies rfl (query_replies (.items [invalidItemId]) _ [])
  have rolls : Acts (rollbackAnswers answer) rollback (openedTransaction, [])
      (.ok (rollbackResultOf (.ok ())))
      ({ session := Session.fresh, terminal := true }, [answer]) :=
    acts_rollback.mpr ⟨rfl, rfl⟩
  refine Runs.call_iff.mpr ⟨.ok _, _, misses, ?_⟩
  refine Runs.call_iff.mpr ⟨.ok _, _, rolls, ?_⟩
  exact Runs.done_iff.mpr ⟨rfl, rfl⟩

theorem unusedItemOrder_counted (answer : Except StdException Unit) (config : RetryConfig)
    (attemptsRemain : Bool) :
    Runs (surroundings answer).answers (do
        let attempt ← attemptWorkflow (some (.newOrder unusedItemOrder))
        decideNext config attemptsRemain attempt.outcome)
      ⟨({ session := Session.fresh }, []), []⟩ .leave
      ⟨({ session := Session.fresh, terminal := true }, [answer]), [.userAborted]⟩ := by
  let ended : Transaction × RollbackLog :=
    ({ session := Session.fresh, terminal := true }, [answer])
  have releases : Acts (rollbackAnswers answer) (onSession releaseConnection) ended (.ok true)
        ended := by
    refine acts_zoom.mpr ⟨Session.fresh, ?_, rfl⟩
    refine acts_bind.mpr (.inl ⟨(), (Session.fresh, [answer]), ?_, ?_⟩)
    · exact acts_resetTxn.mpr ⟨rfl, rfl⟩
    · rw [acts_get_bind]
      exact acts_pure.mpr ⟨rfl, rfl⟩
  refine Runs.bind_iff.mpr ⟨⟨some (.error .userAborted), some (.newOrder unusedItemOrder),
    some (.newOrder unusedItemOrder)⟩, ⟨ended, []⟩, ?_, ?_⟩
  · refine Runs.bind_iff.mpr ⟨_, _, .done _ _, ?_⟩
    refine Runs.bind_iff.mpr ⟨.error .userAborted, ⟨ended, []⟩, ?_, ?_⟩
    · exact runs_runWorkflow.mpr ⟨unusedItemOrder_aborts answer, rfl⟩
    refine Runs.bind_iff.mpr ⟨_, _, .done _ _, ?_⟩
    refine Runs.call_iff.mpr ⟨(), ⟨ended, []⟩, ⟨⟨true, releases⟩, rfl⟩, ?_⟩
    exact Runs.done_iff.mpr ⟨rfl, rfl⟩
  · refine Runs.bind_iff.mpr ⟨(), ⟨ended, [.userAborted]⟩, ?_, .done _ _⟩
    refine Runs.call_iff.mpr ⟨(), ⟨ended, [.userAborted]⟩, rfl, ?_⟩
    exact Runs.call_iff.mpr ⟨false, _, rfl, .done _ _⟩

/-- The settings of a terminal, with its defaults. -/
def defaultRetries : RetryConfig where
  retryMaxAttempts := 4
  retryAmbiguousCommit := false
  classifyException := classifyException

/-- An order with an unused item, whose rollback the server confirms. -/
theorem confirmedRollback_counted :
    ∃ final, Runs (surroundings (.ok ())).answers (do
            let attempt ← attemptWorkflow (some (.newOrder unusedItemOrder))
            decideNext defaultRetries true attempt.outcome)
          ⟨({ session := Session.fresh }, []), []⟩ .leave final ∧
        final.recorded = [.userAborted] ∧ final.inner.2 = [.ok ()] := by
  have run := unusedItemOrder_counted (.ok ()) defaultRetries true
  have confirmed :=
    (rolledBack_confirmed_iff (.ok ()) { session := Session.fresh } []).2 rfl
      rfl defaultRetries true unusedItemOrder _ _ _ rfl run (by decide)
  exact ⟨_, run, rfl, confirmed⟩

/-- The server is gone when the `ROLLBACK` is sent. -/
def serverGone : Except StdException Unit :=
  .error (.obDbError 2006 "MySQL server has gone away")

/-- A `ROLLBACK` that failed is reported as done, and the attempt counted. -/
theorem refusedRollback_counted :
    (∃ report after, Acts (rollbackAnswers serverGone) rollback (openedTransaction, [])
      (.ok report) after ∧ report.outcome = .rolledBack ∧ after.2 = [serverGone]) ∧ ∃ final,
      Runs (surroundings serverGone).answers (do
              let attempt ← attemptWorkflow (some (.newOrder unusedItemOrder))
              decideNext defaultRetries true attempt.outcome)
            ⟨({ session := Session.fresh }, []), []⟩ .leave final ∧
          final.recorded = [.userAborted] ∧ final.inner.2 = [serverGone] :=
  ⟨⟨_, _, acts_rollback.mpr ⟨rfl, rfl⟩, rfl, rfl⟩,
    _, unusedItemOrder_counted serverGone defaultRetries true, rfl, rfl⟩

end PortableTpcc.Ob.Rollback
