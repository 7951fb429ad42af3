import PortableTpcc.CoroutineLedger
import PortableTpcc.TaskQueue
import Mathlib.Data.Nat.Log

namespace PortableTpcc

namespace Scheduler

open CoroutineLedger (Status)

/-!
# Scheduler threads and terminals

All scheduler threads of a `TTaskQueue` with the terminals whose coroutines they
resume.  A terminal is the coroutine of `TTerminal::Run`, which calls the
coroutine of a workflow and waits for its future.  Each atomic operation, and
what is done under one lock, is one step; the steps of the scheduler threads, of
the threads that keep promises and of the main thread interleave.

What a terminal decides by its clock, by its random numbers or by the answers of
the database is left open: an action says which way it goes.  Time is left to
the actions too: they say whether the first sleeper is due and what a relaxed
load of the slot counter, which may be old, has shown.
-/

/-- The sizes that the runner configures. -/
structure Config where
  threadCount : Nat
  /-- A queue of no threads is not constructed. -/
  hasThreads : 0 < threadCount
  terminalCount : Nat
  maxRunningInternal : Nat
  maxReadyInternal : Nat
  maxReadyExternal : Nat

/-- `std::bit_ceil`, and nothing for nothing. -/
def ringCapacity (capacity : Nat) : Nat :=
  if capacity = 0 then 0 else 2 ^ Nat.clog 2 capacity

/-- The coroutine of a terminal, or the one of the workflow it has called. -/
inductive Part where
  | terminal
  | workflow
  deriving Repr, DecidableEq

structure Handle (config : Config) where
  terminalID : Fin config.terminalCount
  part : Part
  deriving Repr, DecidableEq

/-- Where `TTerminal::Run` stands. -/
inductive Stage where
  | notStarted
  /-- The head of the loop, the keying and the think time. -/
  | loop
  /-- `MayAdmit` was true; `IncInflight` comes next. -/
  | cleared
  /-- `IncInflight` has incremented the counter beyond the limit. -/
  | undoing
  /-- The increment is undone; the handle is parked next. -/
  | parking
  /-- The handle waits for a slot. -/
  | parked
  /-- The slot is there; stop and `MayAdmit` are looked at next. -/
  | granted
  /-- Waiting for a session, for `Begin` or for the next attempt. -/
  | business
  /-- The workflow was called; its future is awaited. -/
  | workflow
  /-- The loop is left. -/
  | leaving
  | ended
  deriving Repr, DecidableEq

/-- A terminal with its two coroutines. -/
structure Terminal where
  stage : Stage
  coroutine : Status
  workflow : Status
  /-- The workflow's `TTransactionInflightGuard` exists. -/
  guard : Bool
  /-- The workflow's future is ready. -/
  promiseSet : Bool
  deriving Repr, DecidableEq

def Terminal.status (terminal : Terminal) : Part → Status
  | .terminal => terminal.coroutine
  | .workflow => terminal.workflow

def Terminal.setStatus (terminal : Terminal) (status : Status) :
    Part → Terminal
  | .terminal => { terminal with coroutine := status }
  | .workflow => { terminal with workflow := status }

variable (config : Config)

/-- Where a scheduler thread stands in `RunThread`. -/
inductive Position where
  | loopHead
  /-- The external tasks that were taken and are resumed in turn. -/
  | external (tasks : List (Handle config))
  /-- The condition of the loop in `ProcessInflightQueue`. -/
  | inflightCheck
  /-- The condition was true; the counter is incremented next. -/
  | inflightTake
  /-- The counter was at the limit; the increment is undone next. -/
  | inflightUndo
  /-- The slot is taken; the first waiter is promoted next. -/
  | inflightPromote
  | sleeping
  | internal (resumed : Nat)
  /-- In `MaybeIdleWait`. -/
  | idle
  | left
  deriving Repr, DecidableEq

/-- `TPerThreadContext`, with what the thread is executing. -/
structure Context where
  position : Position config
  /-- The frames of the coroutine that runs and of the one that called it. -/
  frames : List (Handle config)
  sleepingTasks : List (Nat × Handle config)
  readyTasksInternal : List (Handle config)
  inflightWaitingTasks : List (Handle config)
  readyTasksExternal : List (Handle config)
  deriving Repr, DecidableEq

structure State where
  runningInternalCount : Int
  transactionsInflight : Int
  terminals : Fin config.terminalCount → Terminal
  contexts : Fin config.threadCount → Context config
  /-- `ThreadsStopSource` was asked to stop. -/
  stopRequested : Bool
  /-- `HandleQueueFull` has thrown; the model ends there. -/
  queueFull : Bool
  /-- A promoted waiter was dropped by the push that is not checked. -/
  dropped : Bool
  /-- How often each terminal was parked and promoted.  No step reads them. -/
  parkings : Fin config.terminalCount → Nat
  promotions : Fin config.terminalCount → Nat

variable {config}

namespace State

variable (s : State config)

/-- The thread that a terminal hints at. -/
def home (terminalID : Fin config.terminalCount) : Fin config.threadCount :=
  ⟨terminalID % config.threadCount, Nat.mod_lt _ config.hasThreads⟩

def setTerminal (terminalID : Fin config.terminalCount) (terminal : Terminal) : State config :=
  { s with terminals := Function.update s.terminals terminalID terminal }

def setContext (thread : Fin config.threadCount) (context : Context config) : State config :=
  { s with contexts := Function.update s.contexts thread context }

def setStage (terminalID : Fin config.terminalCount) (stage : Stage) : State config :=
  s.setTerminal terminalID { s.terminals terminalID with stage }

def setStatus (handle : Handle config) (status : Status) : State config :=
  s.setTerminal handle.terminalID ((s.terminals handle.terminalID).setStatus status handle.part)

def status (handle : Handle config) : Status :=
  (s.terminals handle.terminalID).status handle.part

/-- The frames on a thread's stack are now these. -/
def setFrames (thread : Fin config.threadCount) (frames : List (Handle config)) : State config :=
  s.setContext thread { s.contexts thread with frames }

def setPosition (thread : Fin config.threadCount) (position : Position config) : State config :=
  s.setContext thread { s.contexts thread with position }

/-- `HandleQueueFull`. -/
def handleQueueFull : State config :=
  { s with queueFull := true }

/--
`TaskReadyThreadSafe` up to the release of the lock, for a coroutine that is
suspended; none if there is no room.
-/
def taskReadyThreadSafe (handle : Handle config) : Option (State config) :=
  let thread := home handle.terminalID
  let context := s.contexts thread
  (TaskQueue.tryPush (ringCapacity config.maxReadyExternal)
    context.readyTasksExternal handle).map fun queue =>
      (s.setStatus handle .enqueued).setContext thread
        { context with readyTasksExternal := queue }

/-- `AsyncSleep` with the deadline that the delay gives. -/
def asyncSleep (handle : Handle config) (deadline : Nat) : State config :=
  let thread := home handle.terminalID
  let context := s.contexts thread
  s.setContext thread
    { context with
      sleepingTasks :=
        context.sleepingTasks.orderedInsert
          (fun left right => left.1 ≤ right.1) (deadline, handle) }

end State

/-- How a `co_await` of a future that others keep goes on. -/
inductive Await where
  /-- `await_ready` is true. -/
  | ready
  /-- The promise is kept before the callback is added, which then runs. -/
  | calledBack
  | subscribed
  deriving Repr, DecidableEq

/-- What the coroutine of a terminal may do next. -/
inductive TerminalAction where
  | sleep (deadline : Nat)
  /-- `MayAdmit` is true and the terminal goes on to admission. -/
  | clear
  /-- `fetch_add` of `IncInflight`. -/
  | incInflight
  /-- `fetch_sub` of `IncInflight`. -/
  | undoIncrement
  | park
  /-- `MayAdmit` is true after admission. -/
  | enter
  /-- Stop, or `MayAdmit` is false: `DecInflight` and out of the loop. -/
  | refuse
  | await (outcome : Await)
  | callWorkflow
  /-- The future may become ready between `await_ready` and the callback. -/
  | awaitWorkflow (becomesReady : Bool)
  /-- The transaction is over: `DecInflight`. -/
  | decInflight
  | leaveLoop
  | finish
  deriving Repr, DecidableEq

/-- What the coroutine of a workflow may do next. -/
inductive WorkflowAction where
  | await (outcome : Await)
  /-- The result or an exception is set, before or after the guard is destroyed. -/
  | setPromise
  | destroyGuard
  /-- The frame is destroyed. -/
  | finish
  deriving Repr, DecidableEq

section

variable
    (s : State config)
    (thread : Fin config.threadCount)
    (terminalID : Fin config.terminalCount)
    (callers : List (Handle config))

/-- The coroutine is suspended, or ends, and its frame is left. -/
def suspend (handle : Handle config) (status : Status) : State config :=
  (s.setStatus handle status).setFrames thread callers

/-- `TSuspendWithFuture` with a future that is kept elsewhere. -/
def awaitFuture (handle : Handle config) : Await → State config
  | .ready => s
  | .calledBack =>
    ((s.setFrames thread callers).taskReadyThreadSafe handle).getD s.handleQueueFull
  | .subscribed => suspend s thread callers handle .subscribed

/-- `IncInflight` up to the comparison. -/
def incInflight : State config :=
  let taken := { s with runningInternalCount := s.runningInternalCount + 1 }
  if config.maxRunningInternal = 0 ∨ s.runningInternalCount < config.maxRunningInternal then
    taken.setStage terminalID .granted
  else
    taken.setStage terminalID .undoing

/-- The push at the end of `IncInflight`. -/
def park : State config :=
  let handle : Handle config := ⟨terminalID, .terminal⟩
  let suspended := suspend (s.setStage terminalID .parked) thread callers handle .enqueued
  let waits := State.home terminalID
  let context := suspended.contexts waits
  match TaskQueue.tryPush (ringCapacity config.maxReadyInternal)
      context.inflightWaitingTasks handle with
  | some queue =>
    { suspended.setContext waits
        { context with inflightWaitingTasks := queue } with
      parkings := Function.update s.parkings terminalID (s.parkings terminalID + 1) }
  | none => s.handleQueueFull

/-- The fetch_sub of `DecInflight`. -/
def decInflight : State config :=
  { s with runningInternalCount := s.runningInternalCount - 1 }

/-- The workflow starts on the stack of its caller. -/
def callWorkflow : State config :=
  let terminal := s.terminals terminalID
  let called :=
    { s with transactionsInflight := s.transactionsInflight + 1 }.setTerminal terminalID
      { terminal with
        stage := .workflow
        workflow := .running
        guard := true
        promiseSet := false }
  called.setFrames thread (⟨terminalID, .workflow⟩ :: ⟨terminalID, .terminal⟩ :: callers)

/-- A step of the coroutine of a terminal. -/
def terminalStep : TerminalAction → Option (State config) :=
  let terminal := s.terminals terminalID
  let handle : Handle config := ⟨terminalID, .terminal⟩
  fun
  | .sleep deadline =>
    if terminal.stage = .loop ∨ terminal.stage = .business then
      some ((suspend s thread callers handle .enqueued).asyncSleep handle deadline)
    else
      none
  | .clear =>
    if terminal.stage = .loop then
      some (s.setStage terminalID .cleared)
    else
      none
  | .incInflight =>
    if terminal.stage = .cleared then
      some (incInflight s terminalID)
    else
      none
  | .undoIncrement =>
    if terminal.stage = .undoing then
      some ((decInflight s).setStage terminalID .parking)
    else
      none
  | .park =>
    if terminal.stage = .parking then
      some (park s thread terminalID callers)
    else
      none
  | .enter =>
    if terminal.stage = .granted then
      some (s.setStage terminalID .business)
    else
      none
  | .refuse =>
    if terminal.stage = .granted then
      some ((decInflight s).setStage terminalID .leaving)
    else
      none
  | .await outcome =>
    if terminal.stage = .business then
      some (awaitFuture s thread callers handle outcome)
    else
      none
  | .callWorkflow =>
    if terminal.stage = .business then
      some (callWorkflow s thread terminalID callers)
    else
      none
  | .awaitWorkflow becomesReady =>
    if terminal.stage = .workflow then
      if terminal.promiseSet then
        if becomesReady then
          some (awaitFuture s thread callers handle .calledBack)
        else
          some (s.setStage terminalID .business)
      else
        some (awaitFuture s thread callers handle .subscribed)
    else
      none
  | .decInflight =>
    if terminal.stage = .business then
      some ((decInflight s).setStage terminalID .loop)
    else
      none
  | .leaveLoop =>
    if terminal.stage = .loop then
      some (s.setStage terminalID .leaving)
    else
      none
  | .finish =>
    if terminal.stage = .leaving then
      some (suspend (s.setStage terminalID .ended) thread callers handle .absent)
    else
      none

/-- The promise of the workflow is set and its callback is run. -/
def setPromise : State config :=
  let terminal := s.terminals terminalID
  let set := s.setTerminal terminalID { terminal with promiseSet := true }
  if terminal.coroutine = .subscribed then
    (set.taskReadyThreadSafe ⟨terminalID, .terminal⟩).getD s.handleQueueFull
  else
    set

/-- The guard of the workflow is destroyed. -/
def destroyGuard : State config :=
  let terminal := s.terminals terminalID
  { s with transactionsInflight := s.transactionsInflight - 1 }.setTerminal
    terminalID { terminal with guard := false }

/-- A step of the coroutine of a workflow. -/
def workflowStep : WorkflowAction → Option (State config) :=
  let terminal := s.terminals terminalID
  let handle : Handle config := ⟨terminalID, .workflow⟩
  fun
  | .await outcome =>
    if terminal.guard ∧ ¬terminal.promiseSet then
      some (awaitFuture s thread callers handle outcome)
    else
      none
  | .setPromise =>
    if ¬terminal.promiseSet then
      some (setPromise s terminalID)
    else
      none
  | .destroyGuard =>
    if terminal.guard then
      some (destroyGuard s terminalID)
    else
      none
  | .finish =>
    if ¬terminal.guard ∧ terminal.promiseSet then
      some (suspend s thread callers handle .absent)
    else
      none

end

section

variable (s : State config) (thread : Fin config.threadCount)

/-- `Handle.resume()`, unless the coroutine is done. -/
def resume (handle : Handle config) : State config :=
  if s.status handle = .absent then
    s
  else
    (s.setStatus handle .running).setFrames thread [handle]

/-- The end of an iteration of `ProcessInflightQueue`. -/
def promote : State config :=
  let context := s.contexts thread
  match context.inflightWaitingTasks with
  | [] => s.setPosition thread .inflightCheck
  | handle :: waiting =>
    let popped := { context with inflightWaitingTasks := waiting, position := .inflightCheck }
    if s.status handle = .absent then
      s.setContext thread popped
    else
      let granted := s.setStage handle.terminalID .granted
      let promoted :=
        { granted with
          promotions :=
            Function.update s.promotions handle.terminalID (s.promotions handle.terminalID + 1) }
      -- The result of this push is not looked at.
      match TaskQueue.tryPush (ringCapacity config.maxReadyInternal)
          context.readyTasksInternal handle with
      | some queue =>
        promoted.setContext thread { popped with readyTasksInternal := queue }
      | none =>
        { promoted.setContext thread popped with dropped := true }

/-- One iteration of `ProcessSleepingTasks`. -/
def wakeFirst (due : Bool) : State config :=
  let context := s.contexts thread
  match context.sleepingTasks with
  | [] => s.setPosition thread (.internal 0)
  | (_, handle) :: sleeping =>
    if due then
      let popped := { context with sleepingTasks := sleeping }
      match TaskQueue.tryPush (ringCapacity config.maxReadyInternal)
          context.readyTasksInternal handle with
      | some queue =>
        s.setContext thread { popped with readyTasksInternal := queue }
      | none => s.handleQueueFull
    else
      s.setPosition thread (.internal 0)

/-- One iteration of the loop that resumes internal tasks. -/
def resumeInternal (resumed : Nat) : State config :=
  let context := s.contexts thread
  match context.readyTasksInternal with
  | [] => s.setPosition thread .idle
  | handle :: ready =>
    if resumed < TaskQueue.maxInternalResumesPerIteration then
      let popped := { context with readyTasksInternal := ready }
      if s.stopRequested then
        s.setContext thread { popped with position := .idle }
      else
        let count := if s.status handle = .absent then resumed else resumed + 1
        resume (s.setContext thread { popped with position := .internal count }) thread handle
    else
      s.setPosition thread .idle

/--
The next step of a scheduler thread between coroutines.  The choice says what a
relaxed load shows, and whether the first sleeper is due.
-/
def advance (choice : Bool) : Option (State config) :=
  let context := s.contexts thread
  match context.position with
  | .loopHead =>
    if s.stopRequested then
      some (s.setPosition thread .left)
    else
      some (s.setContext thread
        { context with
          readyTasksExternal := []
          position := .external context.readyTasksExternal })
  | .external [] => some (s.setPosition thread .inflightCheck)
  | .external (handle :: tasks) =>
    if s.stopRequested then
      some (s.setPosition thread .inflightCheck)
    else
      some (resume (s.setPosition thread (.external tasks)) thread handle)
  | .inflightCheck =>
    if config.maxRunningInternal = 0 ∨ context.inflightWaitingTasks.isEmpty ∨ choice = false then
      some (s.setPosition thread .sleeping)
    else
      some (s.setPosition thread .inflightTake)
  | .inflightTake =>
    let taken := { s with runningInternalCount := s.runningInternalCount + 1 }
    if s.runningInternalCount ≥ config.maxRunningInternal then
      some (taken.setPosition thread .inflightUndo)
    else
      some (taken.setPosition thread .inflightPromote)
  | .inflightUndo => some ((decInflight s).setPosition thread .sleeping)
  | .inflightPromote => some (promote s thread)
  | .sleeping => some (wakeFirst s thread choice)
  | .internal resumed => some (resumeInternal s thread resumed)
  | .idle => some (s.setPosition thread .loopHead)
  | .left => none

end

/-- A step of the system. -/
inductive Action (config : Config) where
  /-- `TTerminal::Start` on the main thread. -/
  | start (terminalID : Fin config.terminalCount)
  | advance (thread : Fin config.threadCount) (choice : Bool)
  | terminal (thread : Fin config.threadCount) (action : TerminalAction)
  | workflow (thread : Fin config.threadCount) (action : WorkflowAction)
  /-- A promise that a coroutine waits for is kept by another thread. -/
  | fulfil (handle : Handle config)
  | requestStop
  deriving Repr, DecidableEq

/-- The state after a step, if the step can be taken. -/
def step (s : State config) (action : Action config) : Option (State config) :=
  if s.queueFull then
    none
  else
    match action with
    | .start terminalID =>
      if (s.terminals terminalID).stage = .notStarted then
        some (((s.setStage terminalID .loop).taskReadyThreadSafe
          ⟨terminalID, .terminal⟩).getD s.handleQueueFull)
      else
        none
    | .advance thread choice =>
      match (s.contexts thread).frames with
      | [] => advance s thread choice
      | _ :: _ => none
    | .terminal thread action =>
      match (s.contexts thread).frames with
      | ⟨terminalID, .terminal⟩ :: callers =>
        terminalStep s thread terminalID callers action
      | _ => none
    | .workflow thread action =>
      match (s.contexts thread).frames with
      | ⟨terminalID, .workflow⟩ :: callers =>
        workflowStep s thread terminalID callers action
      | _ => none
    | .fulfil handle =>
      -- The future of the workflow is kept by the workflow.
      if s.status handle = .subscribed ∧ ¬(handle.part = .terminal ∧
          (s.terminals handle.terminalID).stage = .workflow) then
        some ((s.taskReadyThreadSafe handle).getD s.handleQueueFull)
      else
        none
    | .requestStop => some { s with stopRequested := true }

/-- Before the terminals are started. -/
def initial : State config where
  runningInternalCount := 0
  transactionsInflight := 0
  terminals := fun _ => ⟨.notStarted, .absent, .absent, false, false⟩
  contexts := fun _ => ⟨.loopHead, [], [], [], [], []⟩
  stopRequested := false
  queueFull := false
  dropped := false
  parkings := fun _ => 0
  promotions := fun _ => 0

/-- The states that the system can reach. -/
inductive Reached : State config → Prop where
  | initial : Reached initial
  | step {s next : State config} {action : Action config} (reached : Reached s)
      (stepped : Scheduler.step s action = some next) : Reached next

/-- Two terminals on one thread, with one slot and queues for both. -/
def twoTerminals : Config where
  threadCount := 1
  hasThreads := Nat.one_pos
  terminalCount := 2
  maxRunningInternal := 1
  maxReadyInternal := 2
  maxReadyExternal := 2

/-- The system takes these steps one after another. -/
def steps (s : State config) : List (Action config) → Option (State config)
  | [] => some s
  | action :: rest => (step s action).bind fun next => steps next rest

theorem reached_steps {s next : State config} {actions : List (Action config)}
    (reached : Reached s) (taken : steps s actions = some next) : Reached next := by
  induction actions generalizing s with
  | nil =>
    cases taken
    exact reached
  | cons action rest ih =>
    obtain ⟨between, stepped, taken⟩ := Option.bind_eq_some_iff.mp taken
    exact ih (.step reached stepped) taken

end Scheduler

end PortableTpcc
