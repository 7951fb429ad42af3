import PortableTpcc.Scheduler
import Mathlib.Tactic.Abel

namespace PortableTpcc

namespace Scheduler

open CoroutineLedger (Status)

/-!
# What a step of the scheduler does

The coroutines of a terminal run on one thread only, the one the terminal hints
at.  A step therefore changes one terminal and the context of its thread, or the
context of one thread.  The effects below list these changes; they know no
limits of queues, and a step that finds a queue full is an effect that would
have made the queue too long.
-/

variable {config : Config}

/-- The tasks that the thread has taken and not yet resumed. -/
def Position.tasks : Position config → List (Handle config)
  | .external tasks => tasks
  | _ => []

/-- The thread is not between the two ends of a change of the slot counter. -/
def Position.inert : Position config → Bool
  | .inflightTake => false
  | .inflightUndo => false
  | .inflightPromote => false
  | _ => true

/-- The handles in the queues of a thread and in its hand. -/
def Context.queued (context : Context config) : Multiset (Handle config) :=
  (context.position.tasks : Multiset (Handle config)) +
    (context.sleepingTasks.map Prod.snd : List (Handle config)) +
    context.readyTasksInternal + context.inflightWaitingTasks + context.readyTasksExternal

/-- A thread has only the terminals that hint at it. -/
structure Context.Affine (context : Context config) (thread : Fin config.threadCount) : Prop where
  queued : ∀ handle ∈ context.queued, State.home handle.terminalID = thread
  framed : ∀ handle ∈ context.frames, State.home handle.terminalID = thread
  shaped : context.frames = [] ∨ (∃ handle, context.frames = [handle]) ∨
    ∃ terminalID, context.frames = [⟨terminalID, .workflow⟩, ⟨terminalID, .terminal⟩]

def State.Affine (s : State config) : Prop :=
  ∀ thread, (s.contexts thread).Affine thread

/-- A terminal, the thread it hints at and the counters. -/
structure Cell (config : Config) where
  context : Context config
  terminal : Terminal
  running : Int
  transactions : Int
  parkings : Nat
  promotions : Nat
  dropped : Bool

def State.cell (s : State config) (terminalID : Fin config.terminalCount) : Cell config where
  context := s.contexts (State.home terminalID)
  terminal := s.terminals terminalID
  running := s.runningInternalCount
  transactions := s.transactionsInflight
  parkings := s.parkings terminalID
  promotions := s.promotions terminalID
  dropped := s.dropped

def State.put (s : State config) (terminalID : Fin config.terminalCount)
    (cell : Cell config) : State config :=
  { s with
    runningInternalCount := cell.running
    transactionsInflight := cell.transactions
    terminals := Function.update s.terminals terminalID cell.terminal
    contexts := Function.update s.contexts (State.home terminalID) cell.context
    parkings := Function.update s.parkings terminalID cell.parkings
    promotions := Function.update s.promotions terminalID cell.promotions
    dropped := cell.dropped }

/-- Changes of a terminal's stage while it runs, with the slot counter. -/
inductive StageChange (config : Config) (promiseSet : Bool) (running : Int) :
    Stage → Int → Stage → Prop where
  | clears : StageChange config promiseSet running .loop running .cleared
  | takes
      (room : config.maxRunningInternal = 0 ∨ running < config.maxRunningInternal) :
      StageChange config promiseSet running .cleared (running + 1) .granted
  | overruns : StageChange config promiseSet running .cleared (running + 1) .undoing
  | undoes : StageChange config promiseSet running .undoing (running - 1) .parking
  | enters : StageChange config promiseSet running .granted running .business
  | refused : StageChange config promiseSet running .granted (running - 1) .leaving
  | returns (set : promiseSet = true) :
      StageChange config promiseSet running .workflow running .business
  | finishes : StageChange config promiseSet running .business (running - 1) .loop
  | leaves : StageChange config promiseSet running .loop running .leaving

/-- When a running coroutine of a terminal may await a future. -/
def Terminal.MayAwait (terminal : Terminal) (answered : Bool) : Part → Prop
  | .terminal =>
    terminal.stage = .business ∨ terminal.stage = .workflow ∧ terminal.promiseSet = answered
  | .workflow => terminal.guard = true ∧ terminal.promiseSet = false

/-- What a step does to a terminal and its thread. -/
inductive CellEffect (terminalID : Fin config.terminalCount) :
    Cell config → Cell config → Prop where
  | changesStage {cell : Cell config} {running : Int} {stage : Stage}
      (top : cell.context.frames = [⟨terminalID, .terminal⟩])
      (change : StageChange config cell.terminal.promiseSet cell.running
        cell.terminal.stage running stage) :
      CellEffect terminalID cell
        { cell with running, terminal := { cell.terminal with stage } }
  | sleeps {cell : Cell config} (deadline : Nat)
      (top : cell.context.frames = [⟨terminalID, .terminal⟩])
      (may : cell.terminal.stage = .loop ∨ cell.terminal.stage = .business) :
      CellEffect terminalID cell
        { cell with
          terminal := { cell.terminal with coroutine := .enqueued }
          context :=
            { cell.context with
              frames := []
              sleepingTasks :=
                cell.context.sleepingTasks.orderedInsert
                  (fun left right => left.1 ≤ right.1)
                  (deadline, ⟨terminalID, .terminal⟩) } }
  /-- The future that a coroutine awaits is ready when it subscribes. -/
  | calledBack {cell : Cell config} {part : Part} {callers : List (Handle config)}
      (top : cell.context.frames = ⟨terminalID, part⟩ :: callers)
      (may : cell.terminal.MayAwait true part) :
      CellEffect terminalID cell
        { cell with
          terminal := cell.terminal.setStatus .enqueued part
          context :=
            { cell.context with
              frames := callers
              readyTasksExternal := cell.context.readyTasksExternal ++ [⟨terminalID, part⟩] } }
  | subscribes {cell : Cell config} {part : Part} {callers : List (Handle config)}
      (top : cell.context.frames = ⟨terminalID, part⟩ :: callers)
      (may : cell.terminal.MayAwait false part) :
      CellEffect terminalID cell
        { cell with
          terminal := cell.terminal.setStatus .subscribed part
          context := { cell.context with frames := callers } }
  | parks {cell : Cell config} (top : cell.context.frames = [⟨terminalID, .terminal⟩])
      (may : cell.terminal.stage = .parking) :
      CellEffect terminalID cell
        { cell with
          terminal := { cell.terminal with stage := .parked, coroutine := .enqueued }
          context :=
            { cell.context with
              frames := []
              inflightWaitingTasks :=
                cell.context.inflightWaitingTasks ++
                  [⟨terminalID, .terminal⟩] }
          parkings := cell.parkings + 1 }
  | calls {cell : Cell config} (top : cell.context.frames = [⟨terminalID, .terminal⟩])
      (may : cell.terminal.stage = .business) :
      CellEffect terminalID cell
        { cell with
          terminal :=
            { cell.terminal with
              stage := .workflow
              workflow := .running
              guard := true
              promiseSet := false }
          context :=
            { cell.context with frames := [⟨terminalID, .workflow⟩, ⟨terminalID, .terminal⟩] }
          transactions := cell.transactions + 1 }
  | ends {cell : Cell config} (top : cell.context.frames = [⟨terminalID, .terminal⟩])
      (may : cell.terminal.stage = .leaving) :
      CellEffect terminalID cell
        { cell with
          terminal := { cell.terminal with stage := .ended, coroutine := .absent }
          context := { cell.context with frames := [] } }
  /-- The promise of the workflow is set before it is awaited. -/
  | setsPromise {cell : Cell config} {callers : List (Handle config)}
      (top : cell.context.frames = ⟨terminalID, .workflow⟩ :: callers)
      (unset : cell.terminal.promiseSet = false) (early : cell.terminal.coroutine ≠ .subscribed) :
      CellEffect terminalID cell
        { cell with terminal := { cell.terminal with promiseSet := true } }
  /-- The promise of the workflow is set and wakes the terminal. -/
  | answers {cell : Cell config} {callers : List (Handle config)}
      (top : cell.context.frames = ⟨terminalID, .workflow⟩ :: callers)
      (unset : cell.terminal.promiseSet = false) (waits : cell.terminal.coroutine = .subscribed) :
      CellEffect terminalID cell
        { cell with
          terminal := { cell.terminal with promiseSet := true, coroutine := .enqueued }
          context :=
            { cell.context with
              readyTasksExternal :=
                cell.context.readyTasksExternal ++
                  [⟨terminalID, .terminal⟩] } }
  | destroysGuard {cell : Cell config} {callers : List (Handle config)}
      (top : cell.context.frames = ⟨terminalID, .workflow⟩ :: callers)
      (guarded : cell.terminal.guard = true) :
      CellEffect terminalID cell
        { cell with
          terminal := { cell.terminal with guard := false }
          transactions := cell.transactions - 1 }
  | endsWorkflow {cell : Cell config} {callers : List (Handle config)}
      (top : cell.context.frames = ⟨terminalID, .workflow⟩ :: callers)
      (unguarded : cell.terminal.guard = false) (set : cell.terminal.promiseSet = true) :
      CellEffect terminalID cell
        { cell with
          terminal := { cell.terminal with workflow := .absent }
          context := { cell.context with frames := callers } }
  | starts {cell : Cell config} (may : cell.terminal.stage = .notStarted) :
      CellEffect terminalID cell
        { cell with
          terminal := { cell.terminal with stage := .loop, coroutine := .enqueued }
          context :=
            { cell.context with
              readyTasksExternal :=
                cell.context.readyTasksExternal ++
                  [⟨terminalID, .terminal⟩] } }
  /-- A promise that is kept elsewhere wakes a coroutine. -/
  | fulfils {cell : Cell config} {part : Part} (waits : cell.terminal.status part = .subscribed)
      (elsewhere : ¬(part = .terminal ∧ cell.terminal.stage = .workflow)) :
      CellEffect terminalID cell
        { cell with
          terminal := cell.terminal.setStatus .enqueued part
          context :=
            { cell.context with
              readyTasksExternal := cell.context.readyTasksExternal ++ [⟨terminalID, part⟩] } }
  /-- A handle is popped and resumed. -/
  | resumes {cell : Cell config} {part : Part} {context : Context config}
      (free : cell.context.frames = [])
      (popped : ⟨terminalID, part⟩ ::ₘ context.queued = cell.context.queued)
      (sameWaiting : context.inflightWaitingTasks = cell.context.inflightWaitingTasks)
      (wasInert : cell.context.position.inert = true)
      (isInert : context.position.inert = true)
      (alive : cell.terminal.status part ≠ .absent) :
      CellEffect terminalID cell
        { cell with
          terminal := cell.terminal.setStatus .running part
          context := { context with frames := [⟨terminalID, part⟩] } }
  | promotes {cell : Cell config} {part : Part} {waiting : List (Handle config)} (kept : Bool)
      (free : cell.context.frames = []) (position : cell.context.position = .inflightPromote)
      (first : cell.context.inflightWaitingTasks = ⟨terminalID, part⟩ :: waiting)
      (full : kept = false → ringCapacity config.maxReadyInternal ≤
        cell.context.readyTasksInternal.length) :
      CellEffect terminalID cell
        { cell with
          terminal := { cell.terminal with stage := .granted }
          context :=
            { cell.context with
              position := .inflightCheck
              inflightWaitingTasks := waiting
              readyTasksInternal :=
                if kept then
                  cell.context.readyTasksInternal ++ [⟨terminalID, part⟩]
                else
                  cell.context.readyTasksInternal }
          promotions := cell.promotions + 1
          dropped := cell.dropped || !kept }

/-- What a step does to the context of a thread alone. -/
inductive ThreadEffect (config : Config) :
    Context config → Int → Context config → Int → Prop where
  /-- Handles change their queue, or are dropped when the thread stops. -/
  | shuffles {context after : Context config} {running : Int} (free : context.frames = [])
      (stillFree : after.frames = []) (fewer : after.queued ≤ context.queued)
      (sameWaiting : after.inflightWaitingTasks = context.inflightWaitingTasks)
      (wasInert : context.position.inert = true)
      (isInert : after.position.inert = true) :
      ThreadEffect config context running after running
  | checks {context : Context config} {running : Int} (free : context.frames = [])
      (position : context.position = .inflightCheck) (limited : config.maxRunningInternal ≠ 0)
      (waits : context.inflightWaitingTasks ≠ []) :
      ThreadEffect config context running
        { context with position := .inflightTake } running
  | overruns {context : Context config} {running : Int} (free : context.frames = [])
      (position : context.position = .inflightTake) :
      ThreadEffect config context running
        { context with position := .inflightUndo } (running + 1)
  | takes {context : Context config} {running : Int} (free : context.frames = [])
      (position : context.position = .inflightTake) (room : running < config.maxRunningInternal) :
      ThreadEffect config context running
        { context with position := .inflightPromote } (running + 1)
  | undoes {context : Context config} {running : Int} (free : context.frames = [])
      (position : context.position = .inflightUndo) :
      ThreadEffect config context running
        { context with position := .sleeping } (running - 1)

/-- What a step does. -/
inductive Effect (s : State config) : State config → Prop where
  | cell (terminalID : Fin config.terminalCount) {cell : Cell config}
      (effect : CellEffect terminalID (s.cell terminalID) cell) : Effect s (s.put terminalID cell)
  | thread (thread : Fin config.threadCount) {context : Context config} {running : Int}
      (effect : ThreadEffect config (s.contexts thread) s.runningInternalCount context running) :
      Effect s
        { s.setContext thread context with runningInternalCount := running }
  | stops : Effect s { s with stopRequested := true }
  | stutters : Effect s s

/-- A queue is longer than its capacity. -/
def State.Overfull (s : State config) : Prop :=
  ∃ thread, ringCapacity config.maxReadyInternal < (s.contexts thread).readyTasksInternal.length ∨
    ringCapacity config.maxReadyInternal < (s.contexts thread).inflightWaitingTasks.length ∨
    ringCapacity config.maxReadyExternal < (s.contexts thread).readyTasksExternal.length

/-- A step has an effect, or one that a full queue prevents. -/
def HasEffect (s next : State config) : Prop :=
  Effect s next ∨ next = s.handleQueueFull ∧ ∃ would, Effect s would ∧ would.Overfull

/-- A slot is taken only for a waiter that can be promoted. -/
def State.Promotable (s : State config) : Prop :=
  ∀ thread, (s.contexts thread).position = .inflightPromote → ∃ handle waiting,
    (s.contexts thread).inflightWaitingTasks = handle :: waiting ∧ s.status handle ≠ .absent

section

variable {s : State config} {thread : Fin config.threadCount}
variable {terminalID : Fin config.terminalCount}

variable {callers : List (Handle config)} {context : Context config}

/-- The thread on which a coroutine runs is the one its terminal hints at. -/
theorem Context.Affine.home_of_top (affine : context.Affine thread) {part : Part}
    (top : context.frames = ⟨terminalID, part⟩ :: callers) : State.home terminalID = thread := by
  apply affine.framed ⟨terminalID, part⟩
  rw [top]
  exact List.mem_cons_self

/-- Nothing lies below the frame of a terminal. -/
theorem Context.Affine.callers_eq_nil (affine : context.Affine thread)
    (top : context.frames = ⟨terminalID, .terminal⟩ :: callers) : callers = [] := by
  rcases affine.shaped with empty | ⟨handle, single⟩ | ⟨other, nested⟩
  · simp [empty] at top
  · simp_all
  · simp [nested] at top

theorem tryPush_eq_some {α : Type} {capacity : Nat} {queue pushed : List α} {item : α}
    (room : TaskQueue.tryPush capacity queue item = some pushed) : pushed = queue ++ [item] := by
  unfold TaskQueue.tryPush at room
  split at room
  · exact (Option.some.inj room).symm
  · cases room

theorem tryPush_eq_none {α : Type} {capacity : Nat} {queue : List α} {item : α}
    (full : TaskQueue.tryPush capacity queue item = none) :
    capacity < (queue ++ [item]).length := by
  unfold TaskQueue.tryPush at full
  split at full
  · cases full
  · rename_i noRoom
    simp only [List.length_append, List.length_singleton]
    omega

/-- A push to the external queue is made or finds the queue full. -/
theorem hasEffect_taskReady {before would : State config} {handle : Handle config}
    (effect : Effect s would)
    (pushed :
      (before.setStatus handle .enqueued).setContext
          (State.home handle.terminalID)
          { before.contexts (State.home handle.terminalID) with
            readyTasksExternal :=
              (before.contexts
                (State.home handle.terminalID)).readyTasksExternal ++
                  [handle] } =
        would) : HasEffect s ((before.taskReadyThreadSafe handle).getD s.handleQueueFull) := by
  unfold State.taskReadyThreadSafe
  dsimp only
  cases push : TaskQueue.tryPush (ringCapacity config.maxReadyExternal)
      (before.contexts (State.home handle.terminalID)).readyTasksExternal handle with
  | some queue =>
    left
    rw [tryPush_eq_some push, Option.map_some, Option.getD_some, pushed]
    exact effect
  | none =>
    right
    refine ⟨rfl, would, effect, State.home handle.terminalID, .inr (.inr ?_)⟩
    rw [← pushed]
    simpa [State.setContext] using tryPush_eq_none push

theorem hasEffect_setStage
    (top : (s.contexts (State.home terminalID)).frames = [⟨terminalID, .terminal⟩])
    {running : Int} {stage : Stage}
    (change : StageChange config (s.terminals terminalID).promiseSet
      s.runningInternalCount (s.terminals terminalID).stage running stage) :
    HasEffect s ({ s with runningInternalCount := running }.setStage terminalID stage) := by
  left
  have effect : Effect s _ := .cell terminalID (.changesStage top change)
  simpa [State.put, State.cell, State.setStage, State.setTerminal] using effect

theorem hasEffect_awaitFuture {part : Part}
    (top : (s.contexts (State.home terminalID)).frames = ⟨terminalID, part⟩ :: callers)
    {outcome : Await} (may : (s.terminals terminalID).MayAwait (outcome = .calledBack) part) :
    HasEffect s (awaitFuture s (State.home terminalID) callers ⟨terminalID, part⟩ outcome) := by
  cases outcome with
  | ready =>
    exact .inl .stutters
  | calledBack =>
    have effect : Effect s _ := .cell terminalID (.calledBack top may)
    apply hasEffect_taskReady effect
    simp [State.put, State.cell, State.setStatus, State.setTerminal,
      State.setContext, State.setFrames]
  | subscribed =>
    left
    have effect : Effect s _ := .cell terminalID (.subscribes top may)
    simpa [awaitFuture, suspend, State.put, State.cell, State.setStatus,
      State.setTerminal, State.setContext, State.setFrames] using effect

theorem hasEffect_park
    (top : (s.contexts (State.home terminalID)).frames = [⟨terminalID, .terminal⟩])
    (may : (s.terminals terminalID).stage = .parking) :
    HasEffect s (park s (State.home terminalID) terminalID []) := by
  have effect : Effect s _ := .cell terminalID (.parks top may)
  unfold park
  dsimp only
  cases push : TaskQueue.tryPush (ringCapacity config.maxReadyInternal)
      ((suspend (s.setStage terminalID .parked) (State.home terminalID) []
      ⟨terminalID, .terminal⟩ .enqueued).contexts (State.home terminalID)).inflightWaitingTasks
      ⟨terminalID, .terminal⟩ with
  | some queue =>
    left
    rw [tryPush_eq_some push]
    simpa [suspend, State.put, State.cell, State.setStatus, State.setStage,
      State.setTerminal, State.setContext, State.setFrames, Terminal.setStatus] using effect
  | none =>
    right
    refine ⟨rfl, _, effect, State.home terminalID, .inr (.inl ?_)⟩
    have full := tryPush_eq_none push
    simpa [suspend, State.put, State.cell, State.setStatus, State.setStage,
      State.setTerminal, State.setContext, State.setFrames] using full

variable {next : State config}

theorem guarded_eq_some {α : Type} {guard : Prop} [Decidable guard] {taken next : α}
    (stepped : (if guard then some taken else none) = some next) : guard ∧ taken = next := by
  simpa only [Option.ite_none_right_eq_some, Option.some.injEq] using stepped

theorem hasEffect_terminalStep (affine : s.Affine)
    (top : (s.contexts thread).frames = ⟨terminalID, .terminal⟩ :: callers)
    {action : TerminalAction}
    (stepped : terminalStep s thread terminalID callers action = some next) : HasEffect s next := by
  obtain rfl := (affine thread).home_of_top top
  obtain rfl := (affine _).callers_eq_nil top
  cases action with
  | sleep deadline =>
    obtain ⟨may, rfl⟩ := guarded_eq_some stepped
    left
    have effect : Effect s _ := .cell terminalID (.sleeps deadline top may)
    simpa [suspend, State.asyncSleep, State.put, State.cell, State.setStatus,
      State.setTerminal, State.setContext, State.setFrames, Terminal.setStatus] using effect
  | clear =>
    obtain ⟨stage, rfl⟩ := guarded_eq_some stepped
    exact hasEffect_setStage top (stage ▸ .clears)
  | incInflight =>
    obtain ⟨stage, rfl⟩ := guarded_eq_some stepped
    unfold incInflight
    dsimp only
    split
    · rename_i room
      exact hasEffect_setStage top (stage ▸ .takes room)
    · exact hasEffect_setStage top (stage ▸ .overruns)
  | undoIncrement =>
    obtain ⟨stage, rfl⟩ := guarded_eq_some stepped
    exact hasEffect_setStage top (stage ▸ .undoes)
  | park =>
    obtain ⟨stage, rfl⟩ := guarded_eq_some stepped
    exact hasEffect_park top stage
  | enter =>
    obtain ⟨stage, rfl⟩ := guarded_eq_some stepped
    exact hasEffect_setStage top (stage ▸ .enters)
  | refuse =>
    obtain ⟨stage, rfl⟩ := guarded_eq_some stepped
    exact hasEffect_setStage top (stage ▸ .refused)
  | await outcome =>
    obtain ⟨stage, rfl⟩ := guarded_eq_some stepped
    exact hasEffect_awaitFuture top (.inl stage)
  | callWorkflow =>
    obtain ⟨stage, rfl⟩ := guarded_eq_some stepped
    left
    have effect : Effect s _ := .cell terminalID (.calls top stage)
    simpa [callWorkflow, State.put, State.cell, State.setTerminal,
      State.setContext, State.setFrames] using effect
  | awaitWorkflow becomesReady =>
    simp only [terminalStep, Option.ite_none_right_eq_some] at stepped
    obtain ⟨stage, stepped⟩ := stepped
    split at stepped
    · rename_i set
      split at stepped
      · cases stepped
        exact hasEffect_awaitFuture top (.inr ⟨stage, by simp [set]⟩)
      · cases stepped
        exact hasEffect_setStage top (stage ▸ .returns set)
    · rename_i unset
      cases stepped
      exact hasEffect_awaitFuture top (.inr ⟨stage, by simpa using unset⟩)
  | decInflight =>
    obtain ⟨stage, rfl⟩ := guarded_eq_some stepped
    exact hasEffect_setStage top (stage ▸ .finishes)
  | leaveLoop =>
    obtain ⟨stage, rfl⟩ := guarded_eq_some stepped
    exact hasEffect_setStage top (stage ▸ .leaves)
  | finish =>
    obtain ⟨stage, rfl⟩ := guarded_eq_some stepped
    left
    have effect : Effect s _ := .cell terminalID (.ends top stage)
    simpa [suspend, State.put, State.cell, State.setStatus, State.setStage,
      State.setTerminal, State.setContext, State.setFrames, Terminal.setStatus] using effect

theorem hasEffect_setPromise
    (top : (s.contexts (State.home terminalID)).frames = ⟨terminalID, .workflow⟩ :: callers)
    (unset : (s.terminals terminalID).promiseSet = false) :
    HasEffect s (setPromise s terminalID) := by
  unfold setPromise
  dsimp only
  split
  · rename_i waits
    have effect : Effect s _ := .cell terminalID (.answers top unset waits)
    apply hasEffect_taskReady effect
    simp [State.put, State.cell, State.setStatus, State.setTerminal,
      State.setContext, Terminal.setStatus]
  · rename_i early
    left
    have effect : Effect s _ := .cell terminalID (.setsPromise top unset early)
    simpa [State.put, State.cell, State.setTerminal] using effect

theorem hasEffect_workflowStep (affine : s.Affine)
    (top : (s.contexts thread).frames = ⟨terminalID, .workflow⟩ :: callers)
    {action : WorkflowAction}
    (stepped : workflowStep s thread terminalID callers action = some next) : HasEffect s next := by
  obtain rfl := (affine thread).home_of_top top
  cases action with
  | await outcome =>
    obtain ⟨⟨guarded, unset⟩, rfl⟩ := guarded_eq_some stepped
    exact hasEffect_awaitFuture top ⟨guarded, by simpa using unset⟩
  | setPromise =>
    obtain ⟨unset, rfl⟩ := guarded_eq_some stepped
    exact hasEffect_setPromise top (by simpa using unset)
  | destroyGuard =>
    obtain ⟨guarded, rfl⟩ := guarded_eq_some stepped
    left
    have effect : Effect s _ := .cell terminalID (.destroysGuard top guarded)
    simpa [destroyGuard, State.put, State.cell, State.setTerminal] using effect
  | finish =>
    obtain ⟨⟨unguarded, set⟩, rfl⟩ := guarded_eq_some stepped
    left
    have effect : Effect s _ :=
      .cell terminalID (.endsWorkflow top (Bool.eq_false_iff.mpr unguarded) set)
    simpa [suspend, State.put, State.cell, State.setStatus,
      State.setTerminal, State.setContext, State.setFrames, Terminal.setStatus] using effect

/-- A thread goes on to another position and keeps its queues. -/
theorem hasEffect_setPosition (free : (s.contexts thread).frames = [])
    (wasInert : (s.contexts thread).position.inert = true) {position : Position config}
    (isInert : position.inert = true)
    (tasks : (position.tasks : Multiset (Handle config)) ≤ (s.contexts thread).position.tasks) :
    HasEffect s (s.setPosition thread position) := by
  let after : Context config := { s.contexts thread with position }
  have fewer : after.queued ≤ (s.contexts thread).queued := by
    unfold Context.queued
    gcongr
  exact .inl (.thread thread (.shuffles free free fewer rfl wasInert isInert))

/-- A handle that was popped is resumed, unless its coroutine is done. -/
theorem hasEffect_resume (affine : s.Affine) (free : (s.contexts thread).frames = [])
    {handle : Handle config} (popped : handle ::ₘ context.queued = (s.contexts thread).queued)
    (sameWaiting : context.inflightWaitingTasks = (s.contexts thread).inflightWaitingTasks)
    (stillFree : context.frames = []) (wasInert : (s.contexts thread).position.inert = true)
    (isInert : context.position.inert = true) :
    HasEffect s (resume (s.setContext thread context) thread handle) := by
  have isHome : State.home handle.terminalID = thread := by
    apply (affine thread).queued
    rw [← popped]
    exact Multiset.mem_cons_self _ _
  subst isHome
  left
  unfold resume
  split
  · have effect : Effect s _ :=
      .thread (State.home handle.terminalID)
        (.shuffles free stillFree (popped ▸ Multiset.le_cons_self _ _) sameWaiting wasInert isInert)
    exact effect
  · rename_i alive
    have effect : Effect s _ :=
      .cell handle.terminalID (.resumes free popped sameWaiting wasInert isInert alive)
    simpa [State.put, State.cell, State.setStatus, State.setTerminal,
      State.setContext, State.setFrames] using effect

theorem hasEffect_promote (affine : s.Affine) (promotable : s.Promotable)
    (free : (s.contexts thread).frames = [])
    (position : (s.contexts thread).position = .inflightPromote) :
    HasEffect s (promote s thread) := by
  obtain ⟨handle, waiting, first, alive⟩ := promotable thread position
  have isHome : State.home handle.terminalID = thread := by
    apply (affine thread).queued
    simp [Context.queued, first]
  subst isHome
  left
  simp only [promote, first, if_neg alive]
  cases push : TaskQueue.tryPush (ringCapacity config.maxReadyInternal)
      (s.contexts (State.home handle.terminalID)).readyTasksInternal handle with
  | some queue =>
    have effect : Effect s _ := .cell handle.terminalID (.promotes true free position first nofun)
    rw [tryPush_eq_some push]
    simpa [State.put, State.cell, State.setStage, State.setTerminal,
      State.setContext] using effect
  | none =>
    have full := tryPush_eq_none push
    rw [List.length_append, List.length_singleton] at full
    have effect : Effect s _ :=
      .cell handle.terminalID
        (.promotes false free position first fun _ => Nat.lt_succ_iff.mp full)
    simpa [State.put, State.cell, State.setStage, State.setTerminal,
      State.setContext] using effect

theorem hasEffect_wakeFirst (free : (s.contexts thread).frames = [])
    (position : (s.contexts thread).position = .sleeping) (due : Bool) :
    HasEffect s (wakeFirst s thread due) := by
  have wasInert : (s.contexts thread).position.inert = true := by
    rw [position]
    rfl
  have goesOn : HasEffect s (s.setPosition thread (.internal 0)) :=
    hasEffect_setPosition free wasInert rfl (Multiset.zero_le _)
  unfold wakeFirst
  dsimp only
  split
  · exact goesOn
  · rename_i deadline handle sleeping first
    split
    · let after : Context config :=
        { s.contexts thread with
          sleepingTasks := sleeping
          readyTasksInternal := (s.contexts thread).readyTasksInternal ++ [handle] }
      have same : after.queued = (s.contexts thread).queued := by
        simp only [Context.queued, after, first, List.map_cons,
          ← Multiset.cons_coe, ← Multiset.coe_add, ← Multiset.singleton_add,
          Multiset.coe_nil, add_zero]
        abel
      have effect : Effect s
            { s.setContext thread after with runningInternalCount := s.runningInternalCount } :=
        .thread thread (.shuffles free free same.le rfl wasInert wasInert)
      cases push : TaskQueue.tryPush (ringCapacity config.maxReadyInternal)
          (s.contexts thread).readyTasksInternal handle with
      | some queue =>
        rw [tryPush_eq_some push]
        exact .inl effect
      | none =>
        refine .inr ⟨rfl, _, effect, thread, .inl ?_⟩
        simpa [State.setContext, after] using tryPush_eq_none push
    · exact goesOn

theorem hasEffect_resumeInternal (affine : s.Affine) (free : (s.contexts thread).frames = [])
    {resumed : Nat} (position : (s.contexts thread).position = .internal resumed) :
    HasEffect s (resumeInternal s thread resumed) := by
  have wasInert : (s.contexts thread).position.inert = true := by
    rw [position]
    rfl
  have goesOn : HasEffect s (s.setPosition thread .idle) :=
    hasEffect_setPosition free wasInert rfl (Multiset.zero_le _)
  unfold resumeInternal
  dsimp only
  split
  · exact goesOn
  · rename_i handle ready first
    have popped (after : Position config) (tasks : after.tasks = []) : handle ::ₘ Context.queued
              { s.contexts thread with
                readyTasksInternal := ready
                position := after } =
          (s.contexts thread).queued := by
      have noTasks : (s.contexts thread).position.tasks = [] := by
        rw [position]
        rfl
      simp only [Context.queued, tasks, noTasks, first, ← Multiset.cons_coe,
        ← Multiset.singleton_add]
      abel
    split
    · split
      · left
        exact .thread thread (.shuffles free free (popped .idle rfl ▸ Multiset.le_cons_self _ _) rfl
          wasInert rfl)
      · exact hasEffect_resume affine free (popped (.internal _) rfl) rfl free wasInert rfl
    · exact goesOn

theorem hasEffect_advance (affine : s.Affine) (promotable : s.Promotable)
    (free : (s.contexts thread).frames = []) {choice : Bool}
    (stepped : advance s thread choice = some next) : HasEffect s next := by
  unfold advance at stepped
  have inertAt {here : Position config} (position : (s.contexts thread).position = here)
      (inert : here.inert = true) : (s.contexts thread).position.inert = true :=
    position ▸ inert
  dsimp only at stepped
  split at stepped
  case h_1 position =>
    have wasInert := inertAt position rfl
    split at stepped
    · cases stepped
      exact hasEffect_setPosition free wasInert rfl (Multiset.zero_le _)
    · cases stepped
      let after : Context config :=
        { s.contexts thread with
          readyTasksExternal := []
          position := .external (s.contexts thread).readyTasksExternal }
      have same : after.queued = (s.contexts thread).queued := by
        simp only [Context.queued, after, position, Position.tasks, Multiset.coe_nil]
        abel
      left
      have effect : Effect s
            { s.setContext thread after with runningInternalCount := s.runningInternalCount } :=
        .thread thread (.shuffles free free same.le rfl wasInert rfl)
      exact effect
  case h_2 position =>
    cases stepped
    exact hasEffect_setPosition free (inertAt position rfl) rfl (Multiset.zero_le _)
  case h_3 handle tasks position =>
    have wasInert := inertAt position rfl
    split at stepped
    · cases stepped
      exact hasEffect_setPosition free wasInert rfl (Multiset.zero_le _)
    · cases stepped
      apply hasEffect_resume affine free
      · simp only [Context.queued, position, Position.tasks,
          ← Multiset.cons_coe, ← Multiset.singleton_add]
        abel
      · rfl
      · exact free
      · exact wasInert
      · rfl
  case h_4 position =>
    have wasInert := inertAt position rfl
    split at stepped
    · cases stepped
      exact hasEffect_setPosition free wasInert rfl (Multiset.zero_le _)
    · rename_i waits
      cases stepped
      simp only [not_or, List.isEmpty_iff] at waits
      exact .inl (.thread thread (.checks free position waits.1 waits.2.1))
  case h_5 position =>
    split at stepped
    · cases stepped
      exact .inl (.thread thread (.overruns free position))
    · rename_i room
      cases stepped
      exact .inl (.thread thread (.takes free position (not_le.mp room)))
  case h_6 position =>
    cases stepped
    exact .inl (.thread thread (.undoes free position))
  case h_7 position =>
    cases stepped
    exact hasEffect_promote affine promotable free position
  case h_8 position =>
    cases stepped
    exact hasEffect_wakeFirst free position choice
  case h_9 position =>
    cases stepped
    exact hasEffect_resumeInternal affine free position
  case h_10 position =>
    cases stepped
    exact hasEffect_setPosition free (inertAt position rfl) rfl (Multiset.zero_le _)
  case h_11 =>
    cases stepped

/-- Every step has an effect, or one that a full queue prevents. -/
theorem hasEffect_step (affine : s.Affine) (promotable : s.Promotable) {action : Action config}
    (stepped : step s action = some next) : HasEffect s next := by
  unfold step at stepped
  split at stepped
  · cases stepped
  cases action with
  | start terminalID =>
    obtain ⟨stage, rfl⟩ := guarded_eq_some stepped
    have effect : Effect s _ := .cell terminalID (.starts stage)
    apply hasEffect_taskReady effect
    simp [State.put, State.cell, State.setStatus, State.setStage,
      State.setTerminal, State.setContext, Terminal.setStatus]
  | advance thread choice =>
    dsimp only at stepped
    split at stepped
    · rename_i free
      exact hasEffect_advance affine promotable free stepped
    · cases stepped
  | terminal thread action =>
    dsimp only at stepped
    split at stepped
    · rename_i top
      exact hasEffect_terminalStep affine top stepped
    · cases stepped
  | workflow thread action =>
    dsimp only at stepped
    split at stepped
    · rename_i top
      exact hasEffect_workflowStep affine top stepped
    · cases stepped
  | fulfil handle =>
    obtain ⟨⟨waits, elsewhere⟩, rfl⟩ := guarded_eq_some stepped
    have effect : Effect s _ := .cell handle.terminalID (.fulfils waits elsewhere)
    apply hasEffect_taskReady effect
    simp [State.put, State.cell, State.setStatus, State.setTerminal, State.setContext]
  | requestStop =>
    cases stepped
    exact .inl .stops

end

end Scheduler

end PortableTpcc
