import Mathlib.Data.List.Sort

namespace PortableTpcc.TaskQueue

/-!
# A scheduler thread of the task queue

`TTaskQueue` (`task_queue.cpp`) resumes coroutines on a few scheduler threads.
The model is one of these threads, with its `TPerThreadContext`, and the other
threads that hand it work: each of their calls changes what the thread reads
and then notifies the thread.  What is done under one lock, or by one atomic
operation, is one step, and the steps of all threads interleave.
-/

/-- The limits of the queues and of the inflight slots. -/
structure Limits where
  maxRunningInternal : Nat
  maxReadyInternal : Nat
  maxReadyExternal : Nat
  deriving Repr, DecidableEq

/-- `MaxInternalResumesPerIteration`. -/
def maxInternalResumesPerIteration : Nat :=
  64

/-- A call of another thread, told apart from all others. -/
abbrev CallId :=
  Nat

/-- How far a call has come. -/
inductive CallStage where
  | notCalled
  /-- The change is made; `NotifyThread` has not taken `IdleMutex` yet. -/
  | changed
  /-- `IdleWake` is set; `notify_one` is not yet called. -/
  | idleWakeSet
  | completed
  deriving Repr, DecidableEq

/-- A task in the external queue, with the call that pushed it. -/
structure ExternalTask (Handle : Type) where
  handle : Handle
  call : CallId
  deriving Repr, DecidableEq

/-- Where the scheduler thread stands in `RunThread` and `MaybeIdleWait`. -/
inductive Position (Handle : Type) where
  | loopHead
  | resumeExternal (now : Nat) (tasks : List Handle)
  /-- A coroutine from the external queue runs; these are the next ones. -/
  | inExternalTask (now : Nat) (tasks : List Handle)
  | processInflight (now : Nat)
  | processSleeping (now : Nat)
  | resumeInternal (resumed : Nat)
  /-- A coroutine from the internal queue runs. -/
  | inInternalTask (resumed : Nat)
  | checkFlags
  | checkInternal
  | checkInflight
  | checkExternal
  | checkDeadline
  | resetIdleWake (nextDeadline : Option Nat)
  | idleWait (nextDeadline : Option Nat)
  | left
  deriving Repr, DecidableEq

/-- The thread's context with the state it shares with the other threads. -/
structure State (Handle : Type) where
  position : Position Handle
  clock : Nat
  stopRequested : Bool
  wakeupAll : Bool
  runningInternalCount : Nat
  sleepingTasks : List (Nat × Handle)
  readyTasksInternal : List Handle
  inflightWaitingTasks : List Handle
  readyTasksExternal : List (ExternalTask Handle)
  idleWake : Bool
  calls : CallId → CallStage
  /--
  The `DecInflight` calls since the thread last compared its inflight queue
  with the free slots.  No step reads it.
  -/
  freedSinceCheck : List CallId

variable {Handle : Type}

/-- `SleepingTasks.GetNextDeadline`; none is the greatest time point. -/
def State.nextDeadline (s : State Handle) : Option Nat :=
  s.sleepingTasks.head?.map Prod.fst

/-- Some inflight waiter could be promoted. -/
def State.promotable (limits : Limits) (s : State Handle) : Bool :=
  !s.inflightWaitingTasks.isEmpty && s.runningInternalCount < limits.maxRunningInternal

/-- The condition under which `MaybeIdleWait` returns for the inflight queue. -/
def State.inflightReady (limits : Limits) (s : State Handle) : Bool :=
  !s.inflightWaitingTasks.isEmpty && (limits.maxRunningInternal = 0 ||
    s.runningInternalCount < limits.maxRunningInternal)

/-- `shouldWake`. -/
def State.shouldWake (s : State Handle) : Bool :=
  s.idleWake || s.stopRequested || s.wakeupAll

/-- The deadline is reached; the greatest time point never is. -/
def reached (deadline : Option Nat) (clock : Nat) : Bool :=
  deadline.any (· ≤ clock)

/-- `TryPush`; `HandleQueueFull` throws when there is no room. -/
def tryPush {α : Type} (capacity : Nat) (queue : List α) (item : α) : Option (List α) :=
  if queue.length < capacity then some (queue ++ [item]) else none

/-- One iteration of `ProcessInflightQueue`, or its end. -/
def processInflight (limits : Limits) (now : Nat) (s : State Handle) : State Handle :=
  if limits.maxRunningInternal = 0 then
    { s with position := .processSleeping now }
  else
    match s.inflightWaitingTasks with
    | [] => { s with position := .processSleeping now }
    | task :: waiting =>
      if s.runningInternalCount < limits.maxRunningInternal then
        { s with
          runningInternalCount := s.runningInternalCount + 1
          inflightWaitingTasks := waiting
          -- The result of this `TryPush` is not looked at.
          readyTasksInternal :=
            (tryPush limits.maxReadyInternal s.readyTasksInternal task).getD
              s.readyTasksInternal }
      else
        { s with position := .processSleeping now }

/-- One iteration of `ProcessSleepingTasks`, or its end. -/
def processSleeping (limits : Limits) (now : Nat) (s : State Handle) : Option (State Handle) :=
  match s.sleepingTasks with
  | [] => some { s with position := .resumeInternal 0 }
  | (deadline, task) :: sleeping =>
    if deadline ≤ now || s.wakeupAll then do
      let ready ← tryPush limits.maxReadyInternal s.readyTasksInternal task
      return { s with sleepingTasks := sleeping, readyTasksInternal := ready }
    else
      some { s with position := .resumeInternal 0 }

/-- The next pass through the loop that resumes internal tasks. -/
def resumeInternal (resumed : Nat) (s : State Handle) : State Handle :=
  if resumed < maxInternalResumesPerIteration then
    match s.readyTasksInternal with
    | [] => { s with position := .checkFlags }
    | _ :: ready =>
      if s.stopRequested then
        { s with readyTasksInternal := ready, position := .checkFlags }
      else
        { s with
          readyTasksInternal := ready
          position := .inInternalTask (resumed + 1) }
  else
    { s with position := .checkFlags }

/-- The next pass through the loop that resumes external tasks. -/
def resumeExternal (now : Nat) (tasks : List Handle) (s : State Handle) : State Handle :=
  match tasks with
  | [] => { s with position := .processInflight now }
  | _ :: rest =>
    if s.stopRequested then
      { s with position := .processInflight now }
    else
      { s with position := .inExternalTask now rest }

/-- The next step of the scheduler thread, if it has one. -/
def advance (limits : Limits) (s : State Handle) : Option (State Handle) :=
  match s.position with
  | .loopHead =>
    if s.stopRequested then
      some { s with position := .left }
    else
      some { s with
        readyTasksExternal := []
        position := .resumeExternal s.clock (s.readyTasksExternal.map (·.handle)) }
  | .resumeExternal now tasks => some (resumeExternal now tasks s)
  | .inExternalTask now tasks =>
    some { s with position := .resumeExternal now tasks }
  | .processInflight now => some (processInflight limits now s)
  | .processSleeping now => processSleeping limits now s
  | .resumeInternal resumed => some (resumeInternal resumed s)
  | .inInternalTask resumed =>
    some { s with position := .resumeInternal resumed }
  | .checkFlags =>
    if s.stopRequested || s.wakeupAll then
      some { s with position := .loopHead }
    else
      some { s with position := .checkInternal }
  | .checkInternal =>
    if s.readyTasksInternal.isEmpty then
      some { s with position := .checkInflight }
    else
      some { s with position := .loopHead }
  | .checkInflight =>
    if s.inflightReady limits then
      some { s with position := .loopHead, freedSinceCheck := [] }
    else
      some { s with position := .checkExternal, freedSinceCheck := [] }
  | .checkExternal =>
    if s.readyTasksExternal.isEmpty then
      some { s with position := .checkDeadline }
    else
      some { s with position := .loopHead }
  | .checkDeadline =>
    if reached s.nextDeadline s.clock then
      some { s with position := .loopHead }
    else
      some { s with position := .resetIdleWake s.nextDeadline }
  | .resetIdleWake nextDeadline =>
    some { s with idleWake := false, position := .idleWait nextDeadline }
  | .idleWait nextDeadline =>
    if s.shouldWake || reached nextDeadline s.clock then
      some { s with position := .loopHead }
    else
      none
  | .left => none

/-- A call that a coroutine makes on its own scheduler thread. -/
inductive TaskAction (Handle : Type) where
  | taskReady (handle : Handle)
  | asyncSleep (handle : Handle) (delay : Nat)
  | incInflight (handle : Handle)
  | decInflight
  | taskReadyThreadSafe (call : CallId) (handle : Handle)
  deriving Repr, DecidableEq

/-- `IncInflight`: take a slot, or wait for one. -/
def incInflight (limits : Limits) (handle : Handle) (s : State Handle) : Option (State Handle) :=
  if limits.maxRunningInternal = 0 || s.runningInternalCount < limits.maxRunningInternal then
    some { s with runningInternalCount := s.runningInternalCount + 1 }
  else do
    let waiting ←
      tryPush limits.maxReadyInternal s.inflightWaitingTasks handle
    return { s with inflightWaitingTasks := waiting }

/-- A call makes its change and has still to notify. -/
def State.changedBy (call : CallId) (s : State Handle) : State Handle :=
  { s with calls := Function.update s.calls call .changed }

/-- `DecInflight` gives back a slot that is taken. -/
def decInflight (call : CallId) (s : State Handle) : Option (State Handle) :=
  if s.calls call = .notCalled ∧ 0 < s.runningInternalCount then
    some
      ({ s with
        runningInternalCount := s.runningInternalCount - 1
        freedSinceCheck := s.freedSinceCheck ++ [call] }.changedBy call)
  else
    none

/-- `TaskReadyThreadSafe` up to the release of `ReadyTasksLock`. -/
def taskReadyThreadSafe (limits : Limits) (call : CallId) (handle : Handle)
    (s : State Handle) : Option (State Handle) :=
  if s.calls call = .notCalled then do
    let external ←
      tryPush limits.maxReadyExternal s.readyTasksExternal ⟨handle, call⟩
    return { s with readyTasksExternal := external }.changedBy call
  else
    none

/-- The locked part of `NotifyThread`. -/
def setIdleWake (call : CallId) (s : State Handle) : Option (State Handle) :=
  if s.calls call = .changed then
    some
      { s with
        idleWake := true
        calls := Function.update s.calls call .idleWakeSet }
  else
    none

/-- `notify_one` at the end of `NotifyThread`. -/
def notifyOne (call : CallId) (s : State Handle) : Option (State Handle) :=
  if s.calls call = .idleWakeSet then
    some { s with calls := Function.update s.calls call .completed }
  else
    none

/--
What a running coroutine does to its own thread.  Its notification is made
before the thread goes on.
-/
def taskStep (limits : Limits) (s : State Handle) :
    TaskAction Handle → Option (State Handle)
  | .taskReady handle => do
      let ready ← tryPush limits.maxReadyInternal s.readyTasksInternal handle
      return { s with readyTasksInternal := ready, idleWake := true }
  | .asyncSleep handle delay =>
    some { s with
      sleepingTasks :=
        s.sleepingTasks.orderedInsert (fun left right => left.1 ≤ right.1)
          (s.clock + delay, handle) }
  | .incInflight handle => incInflight limits handle s
  | .decInflight =>
    if 0 < s.runningInternalCount then
      some { s with
        runningInternalCount := s.runningInternalCount - 1
        idleWake := true }
    else
      none
  | .taskReadyThreadSafe call handle =>
    taskReadyThreadSafe limits call handle s >>= setIdleWake call >>= notifyOne call

/-- A step of the scheduler thread, of another thread or of the clock. -/
inductive Action (Handle : Type) where
  | tick
  | advance
  | inTask (action : TaskAction Handle)
  | requestStop (call : CallId)
  | wakeupAndNeverSleep (call : CallId)
  | taskReadyThreadSafe (call : CallId) (handle : Handle)
  | decInflight (call : CallId)
  | setIdleWake (call : CallId)
  | notifyOne (call : CallId)
  deriving Repr, DecidableEq

/-- The state after a step, if the step can be taken. -/
def step (limits : Limits) (s : State Handle) :
    Action Handle → Option (State Handle)
  | .tick => some { s with clock := s.clock + 1 }
  | .advance => advance limits s
  | .inTask action =>
    match s.position with
    | .inExternalTask _ _ => taskStep limits s action
    | .inInternalTask _ => taskStep limits s action
    | _ => none
  | .requestStop call =>
    if s.calls call = .notCalled then
      some ({ s with stopRequested := true }.changedBy call)
    else
      none
  | .wakeupAndNeverSleep call =>
    if s.calls call = .notCalled then
      some ({ s with wakeupAll := true }.changedBy call)
    else
      none
  | .taskReadyThreadSafe call handle =>
    taskReadyThreadSafe limits call handle s
  | .decInflight call => decInflight call s
  | .setIdleWake call => setIdleWake call s
  | .notifyOne call => notifyOne call s

/-- The state after all these steps, if they can be taken one after the other. -/
def run (limits : Limits) (s : State Handle) (actions : List (Action Handle)) :
    Option (State Handle) :=
  actions.foldlM (step limits) s

/-- The thread before its first pass, with slots that others may hold. -/
def initial (runningInternalCount : Nat) : State Handle where
  position := .loopHead
  clock := 0
  stopRequested := false
  wakeupAll := false
  runningInternalCount
  sleepingTasks := []
  readyTasksInternal := []
  inflightWaitingTasks := []
  readyTasksExternal := []
  idleWake := false
  calls := fun _ => .notCalled
  freedSinceCheck := []

end PortableTpcc.TaskQueue
