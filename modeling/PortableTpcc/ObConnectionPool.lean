import Mathlib.Algebra.BigOperators.Group.Multiset.Basic

namespace PortableTpcc

namespace Ob.ConnectionPool

/-!
# The interleavings of the OceanBase connection pool

`TObConnectionPool` (`ob_connection_pool.cpp`) with everything that is under way
in it.  What is done under `Mutex_` is one step.  Between the steps other
threads run: a release lets the lock go between taking the connection off
`CheckedOut_` and finding its next place, and the worker that replaces broken
connections connects without the lock.  The threads have no names here; what is
under way is a bag of operations, and any of them may take the next step.

A connection is known by its address, which another connection may have later.
Backoff times and the pressure flag change only how long a worker waits, and are
left out.
-/

variable (Connection : Type)

/-- The members of the pool. -/
structure Pool where
  connections : List Connection
  checkedOut : List Connection
  /-- The promises of callers that are parked. -/
  waiters : List Nat
  pendingReplacements : Nat
  shutdown : Bool
  /-- A worker holds `ReconnectMutex_`. -/
  reconnectMutex : Bool
  deriving Repr, DecidableEq

/-- Where an operation of the pool stands while it does not hold `Mutex_`. -/
inductive Operation where
  /-- `AcquireSessionAsync` sets a value, or an exception after shutdown. -/
  | resolving (promise : Nat) (connection : Option Connection)
  /-- The session to be released gave its connection away. -/
  | releasing (connection : Connection) (reusable : Bool)
  /-- The connection is off `CheckedOut_`. -/
  | returning (connection : Connection) (reusable : Bool)
  /-- A waiter was picked for a released connection. -/
  | handing (promise : Nat) (connection : Connection)
  /-- The broken connection is gone. -/
  | dropped
  /-- The replacement is counted. -/
  | submitting
  /-- `ReplaceBrokenConnections` waits for `ReconnectMutex_`. -/
  | replacing
  | checking
  | connecting
  | connected (connection : Connection)
  /-- A waiter was picked for a replacement. -/
  | handingReplacement (promise : Nat) (connection : Connection)
  /-- Connecting has failed; the worker waits. -/
  | backingOff
  /-- `CancelAll`, or the destructor, sets the exceptions. -/
  | cancelling (promises : List Nat)
  deriving Repr, DecidableEq

/-- The pool, the sessions of its callers and the operations under way. -/
structure State where
  pool : Pool Connection
  /-- The connections of the sessions that callers have. -/
  sessions : Multiset Connection
  operations : Multiset (Operation Connection)
  nextPromise : Nat
  /-- The promises in the order they were parked, picked and set. -/
  parked : List Nat
  picked : List Nat
  fulfilled : List Nat

variable {Connection}

namespace Pool

variable (pool : Pool Connection)

/--
`AcquireSession` once its wait is over, and `TryAcquireSession`: the first free
connection, none if there is none or after shutdown.
-/
def acquireSession : Option (Connection × Pool Connection) :=
  match pool.connections with
  | [] => none
  | connection :: connections =>
    if pool.shutdown then
      none
    else
      some (connection,
          { pool with
            connections
            checkedOut := pool.checkedOut ++ [connection] })

/-- A usable connection goes to the first waiter or into the queue. -/
def giveBack (connection : Connection) : Pool Connection × Option Nat :=
  match pool.waiters with
  | waiter :: waiters =>
    ({ pool with
        waiters
        checkedOut := pool.checkedOut ++ [connection] },
      some waiter)
  | [] => ({ pool with connections := pool.connections ++ [connection] }, none)

end Pool

namespace State

variable (s : State Connection)

/-- One more operation is under way. -/
def start (operation : Operation Connection) : State Connection :=
  { s with operations := operation ::ₘ s.operations }

/-- An operation goes on, or has ended. -/
def resume (operation : Option (Operation Connection)) : State Connection :=
  match operation with
  | some operation => s.start operation
  | none => s

/-- The caller of a promise has its session. -/
def fulfil (promise : Nat) (connection : Connection) : State Connection :=
  { s with
    sessions := connection ::ₘ s.sessions
    fulfilled := s.fulfilled ++ [promise] }

def reject (promise : Nat) : State Connection :=
  { s with fulfilled := s.fulfilled ++ [promise] }

/-- `AcquireSessionAsync` under the lock, with a new promise. -/
def acquireSessionAsync : State Connection :=
  let promise := s.nextPromise
  let issued := { s with nextPromise := s.nextPromise + 1 }
  if s.pool.shutdown then
    issued.start (.resolving promise none)
  else
    match s.pool.acquireSession with
    | some (connection, pool) =>
      { issued with pool }.start (.resolving promise (some connection))
    | none =>
      { issued with
        pool := { s.pool with waiters := s.pool.waiters ++ [promise] }
        parked := s.parked ++ [promise] }

/-- `CancelAll` and the destructor take all waiters. -/
def cancelAll : State Connection :=
  { s with
      pool := { s.pool with waiters := [] }
      picked := s.picked ++ s.pool.waiters }.start (.cancelling s.pool.waiters)

/-- A connection finds its next place, and a waiter may have been picked. -/
def giveBack (connection : Connection) (handing : Nat → Operation Connection)
    (placed : Option (Operation Connection)) : State Connection × Option (Operation Connection) :=
  match s.pool.giveBack connection with
  | (pool, some waiter) =>
    ({ s with pool, picked := s.picked ++ [waiter] }, some (handing waiter))
  | (pool, none) => ({ s with pool }, placed)

def unlockReconnect : State Connection :=
  { s with pool := { s.pool with reconnectMutex := false } }

/--
The next step of an operation, in the state without it, and where it stands
then.  The attempt is what `CreateConnection` gives.
-/
def advance [DecidableEq Connection] (attempt : Option Connection) :
    Operation Connection → Option (State Connection × Option (Operation Connection))
  | .resolving promise (some connection) =>
    some (s.fulfil promise connection, none)
  | .resolving promise none => some (s.reject promise, none)
  | .releasing connection reusable =>
    let erased :=
      { s with pool := { s.pool with checkedOut := s.pool.checkedOut.filter (· ≠ connection) } }
    if s.pool.shutdown then
      some (erased, none)
    else
      some (erased, some (.returning connection reusable))
  | .returning connection true =>
    if s.pool.shutdown then
      some (s, none)
    else
      some (s.giveBack connection (.handing · connection) none)
  | .returning _ false => some (s, some .dropped)
  | .handing promise connection => some (s.fulfil promise connection, none)
  | .dropped =>
    if s.pool.shutdown then
      some (s, none)
    else
      some
        ({ s with pool := { s.pool with pendingReplacements := s.pool.pendingReplacements + 1 } },
          some .submitting)
  | .submitting => some (s, some .replacing)
  | .replacing =>
    if s.pool.reconnectMutex then
      none
    else
      some ({ s with pool := { s.pool with reconnectMutex := true } }, some .checking)
  | .checking =>
    if s.pool.shutdown ∨ s.pool.pendingReplacements = 0 then
      some (s.unlockReconnect, none)
    else
      some (s, some .connecting)
  | .connecting =>
    match attempt with
    | some connection => some (s, some (.connected connection))
    | none => some (s, some .backingOff)
  | .connected connection =>
    if s.pool.shutdown ∨ s.pool.pendingReplacements = 0 then
      some (s.unlockReconnect, none)
    else
      let counted :=
        { s with pool := { s.pool with pendingReplacements := s.pool.pendingReplacements - 1 } }
      some (counted.giveBack connection (.handingReplacement · connection) (some .checking))
  | .handingReplacement promise connection =>
    some (s.fulfil promise connection, some .checking)
  | .backingOff =>
    if s.pool.shutdown then
      some (s.unlockReconnect, none)
    else
      some (s, some .checking)
  | .cancelling [] => some (s, none)
  | .cancelling (promise :: promises) =>
    some (s.reject promise, some (.cancelling promises))

end State

/-- The connection that an operation holds. -/
def Operation.hand : Operation Connection → Multiset Connection
  | .resolving _ (some connection) => {connection}
  | .releasing connection _ => {connection}
  | .returning connection _ => {connection}
  | .handing _ connection => {connection}
  | .connected connection => {connection}
  | .handingReplacement _ connection => {connection}
  | _ => 0

/-- The connections that exist. -/
def State.live (s : State Connection) : Multiset Connection :=
  (s.pool.connections : Multiset Connection) + s.sessions + (s.operations.map Operation.hand).sum

/-- A step of the callers or of an operation under way. -/
inductive Step [DecidableEq Connection] :
    State Connection → State Connection → Prop where
  | acquires {s : State Connection} {connection : Connection} {pool : Pool Connection}
      (taken : s.pool.acquireSession = some (connection, pool)) :
      Step s { s with pool, sessions := connection ::ₘ s.sessions }
  | acquiresAsync {s : State Connection} : Step s s.acquireSessionAsync
  /-- `ReleaseSession` takes the connection of a session. -/
  | releases {s : State Connection} {connection : Connection} {sessions : Multiset Connection}
      (held : s.sessions = connection ::ₘ sessions) (reusable : Bool) :
      Step s ({ s with sessions }.start (.releasing connection reusable))
  | advances {s next : State Connection} {operation : Operation Connection}
      {others : Multiset (Operation Connection)} {after : Option (Operation Connection)}
      (attempt : Option Connection)
      -- A new connection has the address of none that exists.
      (new : ∀ connection ∈ attempt, connection ∉ s.live)
      (running : s.operations = operation ::ₘ others)
      (advanced :
        { s with operations := others }.advance attempt operation = some (next, after)) :
      Step s (next.resume after)
  | cancelsAll {s : State Connection} : Step s s.cancelAll
  | shutsDown {s : State Connection} :
      Step s
        { s with pool := { s.pool with shutdown := true } }.cancelAll

/-- The pool that the constructor has filled. -/
def initial (connections : List Connection) : State Connection where
  pool := ⟨connections, [], [], 0, false, false⟩
  sessions := 0
  operations := 0
  nextPromise := 0
  parked := []
  picked := []
  fulfilled := []

/-- The states that a pool of this size can reach. -/
inductive Reached [DecidableEq Connection] (poolSize : Nat) :
    State Connection → Prop where
  | initial {connections : List Connection} (different : connections.Nodup)
      (size : connections.length = poolSize) : Reached poolSize (initial connections)
  | step {s next : State Connection} (reached : Reached poolSize s) (stepped : Step s next) :
      Reached poolSize next

end Ob.ConnectionPool

end PortableTpcc
