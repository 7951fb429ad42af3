import PortableTpcc.ObServer

namespace PortableTpcc.Ob

/-!
# The OceanBase connection pool

`TObConnectionPool` hands its connections to sessions one after the other.
A session that is released gives its connection back unless it is broken,
and the connection goes to a waiter or into the queue.  The next session then
begins with a `START TRANSACTION`, which would commit whatever the last one
left open.

The invariant ties `InTxn_` to the server: as long as a session is not
broken, a transaction can only be open on its connection while `InTxn_` says
so, and it is the session's own.  Three faults break it: a `ROLLBACK` that
fails, a commit that the shutdown flag cuts off, and a `COMMIT` that fails
and leaves its transaction open.
-/

/-- A call on a session that is checked out. -/
inductive Call where
  | execute (statement : Statement)
  | executeBulk (flushes : List Statement)
  | executeNonTx (sql : String)
  | commit
  | rollback
deriving Repr, DecidableEq

/-- A complete run of a call on a session and its connection. -/
def Performs (answers : Answers driverFace Server) (call : Call)
    (before after : Session × Server) : Prop :=
  match call with
  | .execute statement =>
    ∃ result, Acts answers (executeStatement statement) before result after
  | .executeBulk flushes =>
    ∃ result, Acts answers (executeBulk flushes) before result after
  | .executeNonTx sql =>
    ∃ result, Acts answers (executeNonTx sql) before result after
  | .commit => ∃ result, Acts answers sessionCommit before result after
  | .rollback => ∃ result, Acts answers sessionRollback before result after

/-- A session that is checked out, with its connection. -/
structure Slot where
  id : Nat
  session : Session
  server : Server
deriving Repr, DecidableEq

/--
`TObConnectionPool`: the queue, the sessions that are checked out, the
parked callers, and the connections still to be replaced.
-/
structure Pool where
  connections : List Server
  checkedOut : List Slot
  waiters : Nat
  pendingReplacements : Nat
  shutdown : Bool
  nextId : Nat
deriving Repr, DecidableEq

namespace Pool

/-- The pool after its constructor. -/
def initial (poolSize : Nat) : Pool :=
  { connections := List.replicate poolSize Server.fresh
    checkedOut := []
    waiters := 0
    pendingReplacements := 0
    shutdown := false
    nextId := 0 }

/-- A new `TObSession` around a connection. -/
def checkOut (pool : Pool) (server : Server) : Pool :=
  { pool with
    checkedOut := { id := pool.nextId, session := Session.fresh, server } :: pool.checkedOut
    nextId := pool.nextId + 1 }

/-- A usable connection goes to the first waiter or into the queue. -/
def handOver (pool : Pool) (server : Server) : Pool :=
  if pool.waiters = 0 then
    { pool with connections := pool.connections ++ [server] }
  else
    { pool with waiters := pool.waiters - 1 }.checkOut server

/-- The end of `ReleaseSession`, once the session gave up its connection. -/
def takeBack (pool : Pool) (reusable : Bool) (server : Server) : Pool :=
  if pool.shutdown then
    pool
  else if reusable then
    pool.handOver server
  else
    { pool with pendingReplacements := pool.pendingReplacements + 1 }

end Pool

/-- What a history may let go wrong in a call, or in a release. -/
structure FaultRule where
  call : Session → Call → Faults → Prop
  release : Session → Faults → Prop

/-- One event in the life of a pool. -/
inductive PoolStep (allowed : FaultRule) : Pool → Pool → Prop where
  | acquire {pool : Pool} {server : Server} {rest : List Server} (running : pool.shutdown = false)
      (available : pool.connections = server :: rest) :
      PoolStep allowed pool ({ pool with connections := rest }.checkOut server)
  | park {pool : Pool} (running : pool.shutdown = false) (exhausted : pool.connections = []) :
      PoolStep allowed pool { pool with waiters := pool.waiters + 1 }
  | call {pool : Pool} {earlier later : List Slot} {slot : Slot}
      (held : pool.checkedOut = earlier ++ slot :: later) (call : Call) (faults : Faults)
      (permitted : allowed.call slot.session call faults) {session : Session} {server : Server}
      (performs : Performs (serverAnswers slot.id faults) call
        (slot.session, slot.server) (session, server)) :
      PoolStep allowed pool
        { pool with checkedOut := earlier ++ { slot with session, server } :: later }
  | release {pool : Pool} {earlier later : List Slot} {slot : Slot}
      (held : pool.checkedOut = earlier ++ slot :: later) (faults : Faults)
      (permitted : allowed.release slot.session faults) {reusable : Bool} {session : Session}
      {server : Server}
      (released : Acts (serverAnswers slot.id faults) releaseConnection
        (slot.session, slot.server) (.ok reusable) (session, server)) :
      PoolStep allowed pool
        ({ pool with checkedOut := earlier ++ later }.takeBack reusable server)
  | replace {pool : Pool} (running : pool.shutdown = false)
      (pending : 0 < pool.pendingReplacements) :
      PoolStep allowed pool
        ({ pool with pendingReplacements := pool.pendingReplacements - 1 }.handOver Server.fresh)
  | cancelAll {pool : Pool} : PoolStep allowed pool { pool with waiters := 0 }
  | shutDown {pool : Pool} : PoolStep allowed pool { pool with shutdown := true, waiters := 0 }

/-- A history of the pool from its construction. -/
def PoolRun (allowed : FaultRule) (poolSize : Nat) (pool : Pool) : Prop :=
  Relation.ReflTransGen (PoolStep allowed) (Pool.initial poolSize) pool

/-- Anything may go wrong at any time. -/
def FaultRule.any : FaultRule :=
  { call := fun _ _ _ => True, release := fun _ _ => True }

/--
No fault leaves a transaction behind: a `ROLLBACK` fails only when the
connection is lost, no commit of an open transaction finds the shutdown flag
set, and a `COMMIT` that fails with the connection intact ends its
transaction.
-/
def FaultRule.harmless : FaultRule where
  call session call faults :=
    match call with
    | .execute _ =>
      faults.rollbackFails = true → session.broken = true ∨ faults.LosesConnection
    | .executeBulk _ =>
      faults.rollbackFails = true → session.broken = true ∨ faults.LosesConnection
    | .executeNonTx _ =>
      faults.rollbackFails = true → session.broken = true
    | .commit =>
      session.inTxn = true → faults.shutdown = false ∧
        (faults.commitKeepsOpen = true → faults.LosesConnection)
    | .rollback =>
      faults.rollbackFails = true → session.broken = true
  release session faults := faults.rollbackFails = true → session.broken = true

/--
No connection in the queue has an open transaction, nor has one that was just
handed to a session; later an open transaction is the session's own.  No
transaction was ever committed by the `START TRANSACTION` of another session.
-/
def Pool.Safe (pool : Pool) : Prop :=
  (∀ server ∈ pool.connections, server.current = none ∧ server.leaked = []) ∧
    ∀ slot ∈ pool.checkedOut, (slot.session = Session.fresh → slot.server.current = none) ∧
    (∀ txn, slot.server.current = some txn → txn.session = slot.id) ∧ slot.server.leaked = []

/-! ## One call of a session -/

/-- Nothing is open on the connection that the session does not know of. -/
def Owned (id : Nat) (state : Session × Server) : Prop :=
  state.2.leaked = [] ∧ ∀ txn, state.2.current = some txn → txn.session = id ∧
    (state.1.inTxn = true ∨ state.1.broken = true)

namespace Owned

variable {id : Nat} {session : Session} {server : Server}

/-- Without an open transaction the session's flags do not matter. -/
theorem of_none (clean : server.leaked = []) (closed : server.current = none) :
    Owned id (session, server) :=
  ⟨clean, fun txn opened => by simp [closed] at opened⟩

variable {other : Session}

theorem abort (owned : Owned id (session, server)) : Owned id (other, server.abort) :=
  of_none owned.1 rfl

theorem commit (owned : Owned id (session, server)) : Owned id (other, server.commit) :=
  of_none owned.1 rfl

/-- The session's own transaction may be committed by its next one. -/
theorem start (owned : Owned id (session, server)) :
    Owned id ({ session with inTxn := true }, server.start id) := by
  refine ⟨?_, ?_⟩
  · have own : ∀ txn ∈ server.current.toList, txn.session = id := by
      intro txn opened
      exact (owned.2 txn (Option.mem_toList.mp opened)).1
    have clean : server.leaked = [] := owned.1
    simp only [Server.start, clean, List.nil_append, List.filter_eq_nil_iff]
    intro txn opened
    simp [own txn opened]
  · intro txn opened
    obtain rfl : { session := id, writes := [] } = txn := Option.some.inj opened
    exact ⟨rfl, .inl rfl⟩

theorem write (writes : List Write) (owned : Owned id (session, server)) :
    Owned id (session, server.write writes) := by
  refine ⟨owned.1, fun txn opened => ?_⟩
  obtain ⟨earlier, openedBefore, rfl⟩ := Option.map_eq_some_iff.mp opened
  exact owned.2 earlier openedBefore

/-- More exceptions can only break the session further. -/
theorem markException (ex : StdException) (owned : Owned id (session, server)) :
    Owned id (session.markException ex, server) := by
  refine ⟨owned.1, fun txn opened => ?_⟩
  obtain ⟨own, known⟩ := owned.2 txn opened
  refine ⟨own, known.imp_right fun broken => ?_⟩
  simp only at broken
  simp [Session.markException, broken]

/-- A broken session may lose track of its transaction. -/
theorem of_broken (owned : Owned id (session, server)) (broken : other.broken = true) :
    Owned id (other, server) :=
  ⟨owned.1, fun txn opened => ⟨(owned.2 txn opened).1, .inr broken⟩⟩

end Owned

section

variable {id : Nat} {faults : Faults} {broken : Bool}

/-- The session holds its connection and has seen these exceptions. -/
def Known (id : Nat) (broken : Bool) (state : Session × Server) : Prop :=
  Owned id state ∧ state.1.broken = broken

/--
Sending a `ROLLBACK` leaves nothing open, unless it fails; then the session
has to be broken already.
-/
theorem resetTxn_known (harmless : faults.rollbackFails = true → broken = true) :
    Ensures (serverAnswers id faults) (Known id broken) resetTxn
      fun result state => result = .ok () ∧ Known id broken state := by
  rintro ⟨session, server⟩ result ⟨other, later⟩ ⟨owned, same⟩ acts
  obtain ⟨rfl, reset⟩ := acts_resetTxn.mp acts
  refine ⟨rfl, ?_⟩
  split at reset
  · obtain ⟨rolledBack, rfl⟩ := reset
    refine ⟨?_, same⟩
    obtain rfl : later = if faults.rollbackFails then server else server.abort := rolledBack
    cases fails : faults.rollbackFails with
    | false => exact owned.abort
    | true => exact owned.of_broken (same.trans (harmless fails))
  · obtain ⟨rfl, rfl⟩ := Prod.mk.inj reset
    exact ⟨owned, same⟩

/-- An exception comes from the shutdown check or from the connection. -/
def Entered (id : Nat) (faults : Faults) (broken : Bool) (result : Except StdException α)
    (state : Session × Server) : Prop :=
  match result with
  | .ok _ => Known id broken state
  | .error ex =>
    Known id broken state ∧ (faults.shutdown = false → faults.failure = some ex)

theorem checkShutdown_entered : Ensures (serverAnswers id faults) (Known id broken) checkShutdown
      (Entered id faults broken) := by
  rintro ⟨session, server⟩ result ⟨other, later⟩ known acts
  obtain ⟨flag, ⟨set, rfl⟩, rfl, rfl⟩ := acts_checkShutdown.mp acts
  cases flag with
  | false => exact known
  | true => exact ⟨known, fun unset => by simp [unset] at set⟩

theorem ensureTxn_entered :
    Ensures (serverAnswers id faults) (Known id broken) ensureTxn (Entered id faults broken) := by
  rintro ⟨session, server⟩ result ⟨other, later⟩ known acts
  have entered := acts_ensureTxn.mp acts
  split at entered
  · obtain ⟨rfl, same⟩ := entered
    obtain ⟨rfl, rfl⟩ := Prod.mk.inj same
    exact known
  · obtain ⟨answered, rfl⟩ := entered
    cases result with
    | ok _ =>
      obtain rfl : later = server.start id := answered
      exact ⟨known.1.start, known.2⟩
    | error ex =>
      obtain ⟨failure, rfl⟩ := answered
      exact ⟨known, fun _ => failure⟩

/-- A statement runs in the session's transaction or ends it. -/
theorem exec_entered (statement : Statement) :
    Ensures (serverAnswers id faults) (Known id broken)
      (do Action.orThrow (← ask (.exec statement))) (Entered id faults broken) := by
  rintro ⟨session, server⟩ result after known acts
  obtain ⟨reply, middle, answered, later⟩ := acts_ask_bind.mp acts
  obtain ⟨rfl, rfl⟩ := acts_orThrow.mp later
  cases result with
  | ok value =>
    obtain rfl : middle = server.write statement.writes := answered
    exact ⟨known.1.write _, known.2⟩
  | error ex =>
    obtain ⟨failure, rfl | ⟨part, _, rfl⟩⟩ := answered
    · exact ⟨⟨known.1.abort, known.2⟩, fun _ => failure⟩
    · exact ⟨⟨known.1.write _, known.2⟩, fun _ => failure⟩

theorem entered_bind {first : SessionM α} {rest : α → SessionM β}
    (head : Ensures (serverAnswers id faults) (Known id broken) first (Entered id faults broken))
    (tail : ∀ value, Ensures (serverAnswers id faults) (Known id broken) (rest value)
      (Entered id faults broken)) :
    Ensures (serverAnswers id faults) (Known id broken) (first >>= rest)
      (Entered id faults broken) := by
  refine .bind (fun _ => Known id broken) ?_ tail
  intro before result after known acts
  have entered := head known acts
  cases result <;> exact entered

theorem flushAll_entered (flushes : List Statement) :
    Ensures (serverAnswers id faults) (Known id broken) (flushAll flushes)
      (Entered id faults broken) := by
  induction flushes with
  | nil =>
    exact .pure fun _ known => known
  | cons statement rest ih =>
    refine .ask_bind (fun reply => Entered id faults broken reply) ?_ fun reply => ?_
    · rintro ⟨session, server⟩ reply middle known answered
      exact exec_entered statement known (acts_ask_bind.mpr
        ⟨reply, middle, answered, acts_orThrow.mpr ⟨rfl, rfl⟩⟩)
    · cases reply with
      | ok value =>
        exact ih
      | error ex =>
        intro before result after entered acts
        rcases acts_bind.mp acts with ⟨_, _, replied, _⟩ | ⟨_, replied, rfl⟩
        · obtain ⟨⟨⟩, _⟩ := acts_orThrow.mp replied
        · obtain ⟨⟨⟩, rfl⟩ := acts_orThrow.mp replied
          exact entered

/-- The `catch` blocks leave nothing behind when the faults are harmless. -/
theorem resetTxnOnError_owned {computation : SessionM α}
    (body : Ensures (serverAnswers id faults) (Known id broken) computation
      (Entered id faults broken))
    (harmless : faults.rollbackFails = true → broken = true ∨ faults.LosesConnection) :
    Ensures (serverAnswers id faults) (Known id broken)
      (resetTxnOnError computation) fun _ state => Owned id state := by
  rintro ⟨session, server⟩ result after known acts
  have caught := acts_resetTxnOnError.mp acts
  cases result with
  | ok value =>
    exact (body known caught).1
  | error ex =>
    obtain ⟨middle, ran, resetting⟩ := caught
    obtain ⟨⟨owned, same⟩, raised⟩ := body known ran
    have brokenNow : faults.rollbackFails = true → (broken || isConnectionLost ex) = true := by
      intro fails
      rcases harmless fails with already | ⟨running, lost, failure, isLost⟩
      · simp [already]
      · obtain rfl : ex = lost := Option.some.inj ((raised running).symm.trans failure)
        simp [isLost]
    have marked : Known id (broken || isConnectionLost ex)
        (middle.1.markException ex, middle.2) :=
      ⟨owned.markException ex, by simp [Session.markException, same]⟩
    exact (resetTxn_known brokenNow marked resetting).2.1

theorem executeNonTx_owned (sql : String) (harmless : faults.rollbackFails = true → broken = true) :
    Ensures (serverAnswers id faults) (Known id broken) (executeNonTx sql)
      fun _ state => Owned id state := by
  have body : Ensures (serverAnswers id faults) (Known id broken) (do
          resetTxn
          Action.orThrow (← ask (.querySimple sql)))
        fun _ state => Owned id state := by
    refine .bind (fun _ => Known id broken) ?_ fun _ => ?_
    · intro before result after known acts
      obtain ⟨rfl, stillKnown⟩ := resetTxn_known harmless known acts
      exact stillKnown
    · intro before result after known acts
      obtain ⟨reply, middle, answered, later⟩ := acts_ask_bind.mp acts
      obtain ⟨rfl, rfl⟩ := acts_orThrow.mp later
      cases result with
      | ok _ =>
        obtain rfl : middle = before.2 := answered
        exact known.1
      | error ex =>
        obtain ⟨_, rfl⟩ := answered
        exact known.1
  refine .tryCatch (fun _ => Owned id) ?_ fun ex => ?_
  · intro before result after known acts
    have owned := body known acts
    cases result <;> exact owned
  · exact .modify_bind (Owned id) (fun _ owned => owned.markException ex)
      (.throw fun _ owned => owned)

/-- A session outside a transaction forgets nothing by saying so. -/
theorem Owned.outsideTxn {session : Session} {server : Server}
    (owned : Owned id (session, server)) (outside : session.inTxn = false) :
    Owned id (session.outsideTxn, server) := by
  refine ⟨owned.1, fun txn opened => ?_⟩
  obtain ⟨own, known⟩ := owned.2 txn opened
  simp only [outside, Bool.false_eq_true, false_or] at known
  exact ⟨own, .inr known⟩

variable {before after : Session × Server}

/-- A commit that is not cut off ends the transaction it knows of. -/
theorem sessionCommit_owned {result : Except StdException Unit}
    (harmless : before.1.inTxn = true → faults.shutdown = false ∧
      (faults.commitKeepsOpen = true → faults.LosesConnection)) (owned : Owned id before)
    (acts : Acts (serverAnswers id faults) sessionCommit before result after) : Owned id after := by
  obtain ⟨session, server⟩ := before
  obtain ⟨other, later⟩ := after
  obtain ⟨flag, _, ⟨set, rfl⟩, outcome⟩ := sessionCommit_cases acts
  split at outcome
  · rename_i cutOff
    have outside : session.inTxn = false := by
      cases inside : session.inTxn with
      | false => rfl
      | true => simp [(harmless inside).1, cutOff] at set
    obtain ⟨_, same⟩ := outcome
    obtain ⟨rfl, rfl⟩ := Prod.mk.inj same
    exact (owned.outsideTxn outside).markException _
  · split at outcome
    · rename_i inside
      obtain ⟨answered, rfl⟩ := outcome
      cases result with
      | ok _ =>
        obtain rfl : later = Server.commit _ := answered
        exact owned.commit
      | error ex =>
        obtain ⟨failure, ended⟩ := answered
        cases keeps : faults.commitKeepsOpen with
        | false =>
          rw [keeps] at ended
          rcases ended with rfl | rfl
          · exact owned.commit
          · exact owned.abort
        | true =>
          rw [keeps] at ended
          obtain ⟨_, lost, lostFailure, isLost⟩ := (harmless inside).2 keeps
          obtain rfl : ex = lost := Option.some.inj (failure.symm.trans lostFailure)
          obtain rfl : later = _ := ended
          exact owned.of_broken (by simp [Session.afterCommit, Session.markException, isLost])
    · obtain ⟨_, same⟩ := outcome
      obtain ⟨rfl, rfl⟩ := Prod.mk.inj same
      exact owned

/-- No call whose faults are harmless leaves a transaction behind. -/
theorem performs_owned {call : Call} (harmless : FaultRule.harmless.call before.1 call faults)
    (owned : Owned id before) (performs : Performs (serverAnswers id faults) call before after) :
    Owned id after := by
  have known : Known id before.1.broken before := ⟨owned, rfl⟩
  cases call with
  | execute statement =>
    obtain ⟨result, acts⟩ := performs
    exact resetTxnOnError_owned (entered_bind checkShutdown_entered fun _ =>
        entered_bind ensureTxn_entered fun _ => exec_entered statement)
      harmless known acts
  | executeBulk flushes =>
    obtain ⟨result, acts⟩ := performs
    exact resetTxnOnError_owned (entered_bind checkShutdown_entered fun _ =>
        entered_bind ensureTxn_entered fun _ => flushAll_entered flushes)
      harmless known acts
  | executeNonTx sql =>
    obtain ⟨result, acts⟩ := performs
    exact executeNonTx_owned sql harmless known acts
  | commit =>
    obtain ⟨result, acts⟩ := performs
    exact sessionCommit_owned harmless owned acts
  | rollback =>
    obtain ⟨result, acts⟩ := performs
    exact (resetTxn_known harmless known acts).2.1

/-- A session that is still reusable gives back a connection at rest. -/
theorem releaseConnection_closed {reusable : Bool}
    (harmless : FaultRule.harmless.release before.1 faults) (owned : Owned id before)
    (acts : Acts (serverAnswers id faults) releaseConnection before (.ok reusable) after) :
    after.2.leaked = [] ∧ (reusable = true → after.2.current = none) := by
  obtain ⟨session, server⟩ := before
  rcases acts_bind.mp acts with ⟨_, middle, resetting, finishing⟩ | ⟨_, _, ⟨⟩⟩
  obtain ⟨_, reset⟩ := acts_resetTxn.mp resetting
  obtain ⟨_, stillOwned, same⟩ := resetTxn_known harmless ⟨owned, rfl⟩ resetting
  rw [acts_get_bind] at finishing
  obtain ⟨⟨⟩, rfl⟩ := acts_pure.mp finishing
  refine ⟨stillOwned.1, fun usable => ?_⟩
  have outside : after.1.inTxn = false := by
    split at reset
    · rw [reset.2, Session.outsideTxn]
    · rename_i outside
      rw [reset]
      simpa using outside
  have intact : after.1.broken = false := by
    simpa [Session.isReusable] using usable
  cases opened : after.2.current with
  | none => rfl
  | some txn =>
    have known := (stillOwned.2 txn opened).2
    simp [outside, intact] at known

end

/-! ## Histories of the pool -/

/-- The invariant of a pool whose history met only harmless faults. -/
def Pool.Closed (pool : Pool) : Prop :=
  (∀ server ∈ pool.connections, server.current = none ∧ server.leaked = []) ∧
    ∀ slot ∈ pool.checkedOut, Owned slot.id (slot.session, slot.server)

namespace Pool

variable {pool : Pool} {server : Server}

theorem Closed.safe (closed : pool.Closed) : pool.Safe := by
  refine ⟨closed.1, fun slot held => ?_⟩
  have owned := closed.2 slot held
  refine ⟨fun fresh => ?_, fun txn opened => (owned.2 txn opened).1, owned.1⟩
  cases opened : slot.server.current with
  | none => rfl
  | some txn =>
    have known := (owned.2 txn opened).2
    simp [fresh, Session.fresh] at known

theorem initial_closed (poolSize : Nat) : (initial poolSize).Closed := by
  refine ⟨fun server queued => ?_, fun slot held => by cases held⟩
  obtain rfl := List.eq_of_mem_replicate queued
  exact ⟨rfl, rfl⟩

theorem Closed.checkOut (closed : pool.Closed) (clean : server.leaked = [])
    (atRest : server.current = none) : (pool.checkOut server).Closed := by
  refine ⟨closed.1, fun slot held => ?_⟩
  rcases List.mem_cons.mp held with rfl | held
  · exact .of_none clean atRest
  · exact closed.2 slot held

theorem Closed.handOver (closed : pool.Closed) (clean : server.leaked = [])
    (atRest : server.current = none) : (pool.handOver server).Closed := by
  unfold Pool.handOver
  split
  · refine ⟨fun other queued => ?_, closed.2⟩
    rcases List.mem_append.mp queued with queued | new
    · exact closed.1 other queued
    · obtain rfl := List.mem_singleton.mp new
      exact ⟨atRest, clean⟩
  · exact Closed.checkOut closed clean atRest

theorem Closed.takeBack {reusable : Bool} (closed : pool.Closed) (clean : server.leaked = [])
    (atRest : reusable = true → server.current = none) :
    (pool.takeBack reusable server).Closed := by
  unfold Pool.takeBack
  split
  · exact closed
  · split
    · rename_i usable
      exact closed.handOver clean (atRest usable)
    · exact closed

end Pool

theorem PoolStep.closed {before after : Pool} (step : PoolStep FaultRule.harmless before after)
    (closed : before.Closed) : after.Closed := by
  cases step with
  | acquire running available =>
    have first := closed.1 _ (by rw [available]; exact .head _)
    refine Pool.Closed.checkOut ⟨fun other queued => ?_, closed.2⟩ first.2 first.1
    exact closed.1 other (by rw [available]; exact .tail _ queued)
  | park running exhausted =>
    exact closed
  | call held call faults permitted performs =>
    have slots := closed.2
    simp only [held, List.forall_mem_append, List.forall_mem_cons] at slots
    obtain ⟨earlierOwned, owned, laterOwned⟩ := slots
    refine ⟨closed.1, ?_⟩
    simp only [List.forall_mem_append, List.forall_mem_cons]
    exact ⟨earlierOwned, performs_owned permitted owned performs, laterOwned⟩
  | release held faults permitted released =>
    have slots := closed.2
    simp only [held, List.forall_mem_append, List.forall_mem_cons] at slots
    obtain ⟨earlierOwned, owned, laterOwned⟩ := slots
    obtain ⟨clean, atRest⟩ := releaseConnection_closed permitted owned released
    refine Pool.Closed.takeBack ⟨closed.1, ?_⟩ clean atRest
    exact List.forall_mem_append.mpr ⟨earlierOwned, laterOwned⟩
  | replace running pending =>
    exact Pool.Closed.handOver closed rfl rfl
  | cancelAll =>
    exact closed
  | shutDown =>
    exact closed

/--
In every history whose faults are harmless, a connection that is queued or
handed to a waiter has no transaction open, and no session ever commits the
writes of an earlier one.
-/
theorem safe_of_harmless_run {poolSize : Nat} {pool : Pool}
    (run : PoolRun FaultRule.harmless poolSize pool) : pool.Safe := by
  have closed : pool.Closed := by
    induction run with
    | refl => exact Pool.initial_closed poolSize
    | tail _ step ih =>
      exact step.closed ih
  exact closed.safe

/-! ## Two histories -/

section

variable {id : Nat} {session : Session} {server : Server}

theorem executeStatement_fails (statement : Statement) (ex : StdException)
    (inside : session.inTxn = true) :
    Acts (serverAnswers id { failure := some ex, rollbackFails := true })
      (executeStatement statement) (session, server) (.error ex)
      ((session.markException ex).outsideTxn, server.write []) := by
  refine acts_tryCatch.mpr (.inr ⟨ex, (session, server.write []), ?_, ?_⟩)
  · refine acts_bind.mpr (.inl ⟨(), (session, server), ?_, ?_⟩)
    · exact acts_checkShutdown.mpr ⟨false, ⟨rfl, rfl⟩, rfl, rfl⟩
    refine acts_bind.mpr (.inl ⟨(), (session, server), ?_, ?_⟩)
    · exact acts_ensureTxn.mpr (by simp [inside])
    · exact acts_ask_bind.mpr ⟨.error ex, _, ⟨rfl, .inr ⟨[], List.nil_sublist _, rfl⟩⟩,
        acts_orThrow.mpr ⟨rfl, rfl⟩⟩
  · refine acts_modify_bind.mpr (acts_bind.mpr (.inl ⟨(),
      ((session.markException ex).outsideTxn, server.write []), ?_, ?_⟩))
    · refine acts_resetTxn.mpr ⟨rfl, ?_⟩
      rw [if_pos (by simpa [Session.markException] using inside)]
      exact ⟨rfl, rfl⟩
    · exact acts_throw.mpr ⟨rfl, rfl⟩

/-- A release of a session that knows of no transaction sends nothing. -/
theorem releaseConnection_outside {faults : Faults} (outside : session.inTxn = false) :
    Acts (serverAnswers id faults) releaseConnection (session, server)
      (.ok session.isReusable) (session, server) := by
  refine acts_bind.mpr (.inl ⟨(), (session, server), ?_, ?_⟩)
  · exact acts_resetTxn.mpr ⟨rfl, by simp [outside]⟩
  · rw [acts_get_bind]
    exact acts_pure.mpr ⟨rfl, rfl⟩

end

/-- The statement of both histories: the last write of a Delivery. -/
def exampleStatement : Statement :=
  .multi (.finishDelivery
    { warehouseId := 1, districtId := 1, customerId := 1, amount := 100 })

/-- The pool after its only connection went out and a statement ran on it. -/
def exampleWorking : Pool :=
  { Pool.initial 0 with
    checkedOut :=
      [{ id := 0
         session := { inTxn := true, broken := false }
         server := (Server.fresh.start 0).write exampleStatement.writes }]
    nextId := 1 }

theorem exampleWorking_run {allowed : FaultRule}
    (permitted : allowed.call Session.fresh (.execute exampleStatement) {}) :
    PoolRun allowed 1 exampleWorking := by
  have acquired : PoolStep allowed (Pool.initial 1) ((Pool.initial 0).checkOut Server.fresh) :=
    .acquire rfl rfl
  have executed : PoolStep allowed ((Pool.initial 0).checkOut Server.fresh) exampleWorking :=
    @PoolStep.call allowed _ [] []
      { id := 0, session := Session.fresh, server := Server.fresh } rfl
      (.execute exampleStatement) {} permitted _ _
      ⟨_, executeStatement_succeeds exampleStatement [1]⟩
  exact (Relation.ReflTransGen.single acquired).tail executed

/--
A lock wait timeout is followed by a `ROLLBACK` that fails.  The session is
reusable, and the next one commits the write of the failed attempt.
-/
theorem failed_rollback_leaks_writes :
    ∃ pool, PoolRun FaultRule.any 1 pool ∧ ¬ pool.Safe ∧ ∃ slot ∈ pool.checkedOut, slot.id = 1 ∧
      slot.server.leaked = [{ session := 0, writes := exampleStatement.writes }] := by
  let held : Server := ((Server.fresh.start 0).write exampleStatement.writes).write []
  let failed : Pool :=
    { exampleWorking with checkedOut := [{ id := 0, session := Session.fresh, server := held }] }
  let returned : Pool := { exampleWorking with connections := [held], checkedOut := [] }
  let reused : Pool :=
    { exampleWorking with
      checkedOut :=
        [{ id := 1
           session := { inTxn := true, broken := false }
           server := (held.start 1).write exampleStatement.writes }]
      nextId := 2 }
  let timeout : StdException := .obDbError 1205 "Lock wait timeout exceeded"
  have stays : (Session.markException timeout
        { inTxn := true, broken := false }).outsideTxn = Session.fresh := by
    decide
  have fails : PoolStep FaultRule.any exampleWorking failed :=
    @PoolStep.call FaultRule.any exampleWorking [] []
      { id := 0
        session := { inTxn := true, broken := false }
        server := (Server.fresh.start 0).write exampleStatement.writes } rfl
      (.execute exampleStatement)
      { failure := some timeout, rollbackFails := true } trivial
      Session.fresh held
      ⟨_, stays ▸ executeStatement_fails exampleStatement timeout rfl⟩
  have comesBack : PoolStep FaultRule.any failed returned :=
    @PoolStep.release FaultRule.any failed [] []
      { id := 0, session := Session.fresh, server := held } rfl {} trivial
      true Session.fresh held (releaseConnection_outside rfl)
  have goesOut : PoolStep FaultRule.any returned
      ({ returned with connections := [] }.checkOut held) :=
    .acquire rfl rfl
  have commits : PoolStep FaultRule.any
      ({ returned with connections := [] }.checkOut held) reused :=
    @PoolStep.call FaultRule.any _ [] []
      { id := 1, session := Session.fresh, server := held } rfl
      (.execute exampleStatement) {} trivial _ _
      ⟨_, executeStatement_succeeds exampleStatement [1]⟩
  have leaks : ((held.start 1).write exampleStatement.writes).leaked =
      [{ session := 0, writes := exampleStatement.writes }] := by
    decide
  refine ⟨reused, ?_, fun safe => ?_, _, List.mem_singleton_self _, rfl, leaks⟩
  · exact (((exampleWorking_run trivial).tail fails).tail comesBack).tail goesOut |>.tail commits
  · have clean := (safe.2 _ (List.mem_singleton_self _)).2.2
    rw [leaks] at clean
    cases clean

/-- The first half of that history meets no fault and is safe. -/
theorem working_session_run_safe : ∃ pool, PoolRun FaultRule.harmless 1 pool ∧ pool.Safe := by
  have run : PoolRun FaultRule.harmless 1 exampleWorking :=
    exampleWorking_run (fun fails => by cases fails)
  exact ⟨exampleWorking, run, safe_of_harmless_run run⟩

end PortableTpcc.Ob
