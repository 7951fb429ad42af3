import PortableTpcc.SchedulerSlots

namespace PortableTpcc

namespace Scheduler

/-!
# The drain of a run

`RunMeasurementDrainLoop` moves the phases on by the wall clock and, after the
measurement, waits until `TransactionsInflight` is zero or the drain deadline is
reached.  The counter is kept by the `TTransactionInflightGuard` of each
workflow.  A terminal holds its slot longer than that: it waits for a session
and for `Begin` before the workflow and may wait for another attempt after it.
The milestones of a run say in which of these windows a terminal stands.
-/

/-- `ERunPhase`. -/
inductive ERunPhase where
  | prepare
  | ramp
  | measure
  | drain
  | stop
  deriving Repr, DecidableEq

/-- What is used of `TPhaseSchedule`. -/
structure TPhaseSchedule where
  measurementStart : Int
  measurementEnd : Int
  drainDeadline : Int
  deriving Repr, DecidableEq

/-- `Tick`. -/
def tick (schedule : TPhaseSchedule) (phase : ERunPhase) (now : Int) : ERunPhase :=
  if phase = .stop ∨ phase = .prepare then
    phase
  else if now ≥ schedule.measurementEnd then
    .drain
  else if now ≥ schedule.measurementStart then
    if phase = .ramp then .measure else phase
  else
    phase

/-- How the loop was left. -/
inductive LoopExit where
  | stopRequested
  | drainComplete
  | deadlineReached
  deriving Repr, DecidableEq

/-- Where the main thread stands. -/
inductive LoopPosition where
  /-- The terminals are being started; the phase is `Prepare`. -/
  | preparing
  | head
  /-- The phase is `Drain` or `Stop`; the counter is read next. -/
  | draining (wallNow : Int)
  | left (exit : LoopExit)
  deriving Repr, DecidableEq

/-- The scheduler with the main thread, the phase and the wall clock. -/
structure System (config : Config) where
  scheduler : State config
  now : Int
  phase : ERunPhase
  /-- The global interrupt source was asked to stop. -/
  interrupted : Bool
  loop : LoopPosition

variable {config : Config}

namespace System

variable (schedule : TPhaseSchedule) (system : System config)

/-- `MayAdmit`. -/
def mayAdmit : Bool :=
  (system.phase = .ramp ∨ system.phase = .measure) ∧ system.now < schedule.measurementEnd

/-- What the phase and the interrupt source say about a step of the scheduler. -/
def admits : Action config → Bool
  | .terminal _ .clear => system.mayAdmit schedule
  | .terminal _ .enter => system.mayAdmit schedule
  | .terminal _ .refuse => system.interrupted || !system.mayAdmit schedule
  -- The threads are stopped by the main thread after the loop.
  | .requestStop => (system.loop matches .left _)
  | _ => true

/-- The end of the loop, after which the phase is `Stop`. -/
def leave (exit : LoopExit) : System config :=
  { system with loop := .left exit, phase := .stop }

/-- The stop token, `Tick` and `Phase`. -/
def loopHead : System config :=
  if system.interrupted then
    system.leave .stopRequested
  else
    let phase := tick schedule system.phase system.now
    if phase = .drain ∨ phase = .stop then
      { system with phase, loop := .draining system.now }
    else
      { system with phase }

/-- The load of `TransactionsInflight` and what follows it. -/
def readInflight (wallNow : Int) : System config :=
  if system.scheduler.transactionsInflight = 0 then
    system.leave .drainComplete
  else if wallNow ≥ schedule.drainDeadline then
    system.leave .deadlineReached
  else
    { system with loop := .head }

end System

inductive SystemAction (config : Config) where
  | scheduler (action : Action config)
  /-- Time passes. -/
  | clock (later : Int)
  /-- A signal, or an error that stops the run. -/
  | interrupt
  /-- The phase is set to `Ramp`, or to `Measure` when there is no ramp. -/
  | startRamp (rampUp : Bool)
  /-- The next step of the loop. -/
  | loop
  deriving Repr, DecidableEq

/-- The state after a step, if the step can be taken. -/
def System.step (schedule : TPhaseSchedule) (system : System config) :
    SystemAction config → Option (System config)
  | .scheduler action =>
    if system.admits schedule action then
      (Scheduler.step system.scheduler action).map fun scheduler => { system with scheduler }
    else
      none
  | .clock later =>
    if system.now ≤ later then some { system with now := later } else none
  | .interrupt => some { system with interrupted := true }
  | .startRamp rampUp =>
    if system.loop = .preparing then
      some
        { system with
          phase := if rampUp then .ramp else .measure
          loop := .head }
    else
      none
  | .loop =>
    match system.loop with
    | .preparing => none
    | .head => some (system.loopHead schedule)
    | .draining wallNow => some (system.readInflight schedule wallNow)
    | .left _ => none

/-- Before the terminals are started, at some time. -/
def System.initial (now : Int) : System config where
  scheduler := Scheduler.initial
  now
  phase := .prepare
  interrupted := false
  loop := .preparing

/-! ### Milestones -/

/-- What happens to a business transaction, as far as slot and workflow are concerned. -/
inductive Milestone where
  /-- The terminal has got an inflight slot. -/
  | admitted
  /-- A workflow was called. -/
  | called
  /-- The `TTransactionInflightGuard` of the workflow was destroyed. -/
  | unguarded
  /-- The slot was given back. -/
  | finished
  deriving Repr, DecidableEq

/-- The milestone that a terminal passes in a step. -/
def Terminal.milestone? (before after : Terminal) : Option Milestone :=
  if before.stage.holds = false ∧ after.stage.holds = true then
    some .admitted
  else if before.stage.holds = true ∧ after.stage.holds = false then
    some .finished
  else if before.stage ≠ .workflow ∧ after.stage = .workflow then
    some .called
  else if before.guard = true ∧ after.guard = false then
    some .unguarded
  else
    none

/-- The milestones of each terminal, the latest first. -/
abbrev Chronicle (config : Config) := Fin config.terminalCount → List Milestone

def Chronicle.note (chronicle : Chronicle config) (before after : System config) :
    Chronicle config :=
  fun terminalID =>
    ((before.scheduler.terminals terminalID).milestone?
      (after.scheduler.terminals terminalID)).toList ++ chronicle terminalID

/-- The runs of the system with their milestones. -/
inductive System.Recorded (schedule : TPhaseSchedule) :
    System config → Chronicle config → Prop where
  | initial (now : Int) : Recorded schedule (System.initial now) fun _ => []
  | step {system next : System config} {chronicle : Chronicle config}
      {action : SystemAction config} (recorded : Recorded schedule system chronicle)
      (stepped : system.step schedule action = some next) :
      Recorded schedule next (chronicle.note system next)

/-- The system takes these steps one after another. -/
def System.record (schedule : TPhaseSchedule) (system : System config)
    (chronicle : Chronicle config) :
    List (SystemAction config) → Option (System config × Chronicle config)
  | [] => some (system, chronicle)
  | action :: rest =>
    (system.step schedule action).bind fun next =>
      next.record schedule (chronicle.note system next) rest

theorem System.recorded_record {schedule : TPhaseSchedule} {system next : System config}
    {chronicle later : Chronicle config} {actions : List (SystemAction config)}
    (recorded : system.Recorded schedule chronicle)
    (taken : system.record schedule chronicle actions = some (next, later)) :
    next.Recorded schedule later := by
  induction actions generalizing system chronicle with
  | nil =>
    cases taken
    exact recorded
  | cons action rest ih =>
    obtain ⟨between, stepped, taken⟩ := Option.bind_eq_some_iff.mp taken
    exact ih (.step recorded stepped) taken

/-! ### The counter of transactions -/

/-- The guards that exist. -/
def State.guards (s : State config) : Nat :=
  ∑ terminalID, (s.terminals terminalID).guard.toNat

theorem CellEffect.guards {terminalID : Fin config.terminalCount} {before after : Cell config}
    (effect : CellEffect terminalID before after) (coherent : before.Coherent terminalID) :
    after.transactions + before.terminal.guard.toNat =
      before.transactions + after.terminal.guard.toNat := by
  cases effect with
  | calls top may =>
    have absent := coherent.workflow_absent (by simp [may])
    have unguarded : before.terminal.guard = false := by
      by_contra guarded
      exact coherent.guarded (by simpa using guarded) absent
    simp [unguarded]
  | destroysGuard top guarded =>
    simp [guarded]
  | @calledBack part callers top may =>
    cases part <;> rfl
  | @subscribes part callers top may =>
    cases part <;> rfl
  | @fulfils part waits elsewhere =>
    cases part <;> rfl
  | @resumes part context free popped sameWaiting wasInert isInert alive =>
    cases part <;> rfl
  | _ =>
    rfl

variable {s : State config}

theorem transactionsInflight_effect {next : State config} (orderly : Orderly s)
    (effect : Effect s next) (counted : s.transactionsInflight = s.guards) :
    next.transactionsInflight = next.guards := by
  cases effect with
  | @cell terminalID cell effect =>
    have changes := effect.guards (orderly.coherent terminalID)
    have guards :=
      sum_update (fun terminal : Terminal => terminal.guard.toNat)
        s.terminals terminalID cell.terminal
    simp only [State.guards, State.cell, State.put] at *
    omega
  | thread thread effect =>
    exact counted
  | stops =>
    exact counted
  | stutters =>
    exact counted

theorem transactionsInflight_eq_guards (reached : Scheduler.Reached s) :
    s.transactionsInflight = s.guards := by
  induction reached with
  | initial =>
    simp [Scheduler.initial, State.guards]
  | step reached stepped ih =>
    have orderly := orderly_of_reached reached
    rcases hasEffect_step orderly.affine orderly.promotable stepped with effect | ⟨rfl, _⟩
    · exact transactionsInflight_effect orderly effect ih
    · exact ih

section

variable {schedule : TPhaseSchedule} {system next : System config}

theorem System.scheduler_loop (stepped : system.step schedule .loop = some next) :
    next.scheduler = system.scheduler := by
  simp only [System.step] at stepped
  split at stepped
  · cases stepped
  · cases stepped
    unfold System.loopHead
    dsimp only
    split_ifs <;> rfl
  · cases stepped
    unfold System.readInflight
    split_ifs <;> rfl
  · cases stepped

theorem System.transactionsInflight_of_drainComplete
    (stepped : system.step schedule .loop = some next) (leaves : next.loop = .left .drainComplete) :
    system.scheduler.transactionsInflight = 0 := by
  simp only [System.step] at stepped
  split at stepped
  · cases stepped
  · rename_i atHead
    cases stepped
    unfold System.loopHead at leaves
    dsimp only at leaves
    split_ifs at leaves
    · cases leaves
    · simp [atHead] at leaves
  · cases stepped
    unfold System.readInflight at leaves
    split_ifs at leaves with zero
    · exact zero
    · cases leaves
  · cases stepped

end

/-- A step is one of the scheduler or leaves the scheduler alone. -/
theorem System.scheduler_step {schedule : TPhaseSchedule} {system next : System config}
    {action : SystemAction config} (stepped : system.step schedule action = some next) :
    next.scheduler = system.scheduler ∨
      ∃ action, Scheduler.step system.scheduler action = some next.scheduler := by
  cases action with
  | scheduler action =>
    simp only [System.step, Option.ite_none_right_eq_some, Option.map_eq_some_iff] at stepped
    obtain ⟨_, scheduler, stepped, rfl⟩ := stepped
    exact .inr ⟨action, stepped⟩
  | clock later =>
    obtain ⟨_, rfl⟩ := guarded_eq_some stepped
    exact .inl rfl
  | interrupt =>
    cases stepped
    exact .inl rfl
  | startRamp rampUp =>
    obtain ⟨_, rfl⟩ := guarded_eq_some stepped
    exact .inl rfl
  | loop => exact .inl (System.scheduler_loop stepped)

theorem System.Recorded.scheduler_reached {schedule : TPhaseSchedule} {system : System config}
    {chronicle : Chronicle config} (recorded : system.Recorded schedule chronicle) :
    Scheduler.Reached system.scheduler := by
  induction recorded with
  | initial now => exact .initial
  | step recorded stepped ih =>
    rcases System.scheduler_step stepped with same | ⟨action, stepped⟩
    · rw [same]
      exact ih
    · exact .step ih stepped

theorem holders_eq_zero_iff :
    s.holders = 0 ↔ (∀ terminalID, (s.terminals terminalID).stage.holds = false) ∧
      ∀ thread, (s.contexts thread).position.holds = false := by
  simp [State.holders]

theorem guard_eq_false_of_transactionsInflight (reached : Scheduler.Reached s)
    (none : s.transactionsInflight = 0) (terminalID : Fin config.terminalCount) :
    (s.terminals terminalID).guard = false := by
  have counted := transactionsInflight_eq_guards reached
  have noGuards : s.guards = 0 := by omega
  simp only [State.guards, Finset.sum_eq_zero_iff] at noGuards
  simpa using noGuards terminalID (Finset.mem_univ _)

/-! ### The lifetime of a guard -/

/-- How a step changes what the milestones are about. -/
inductive Terminal.Changes (before after : Terminal) : Prop where
  | moves (same : after.guard = before.guard)
      (stays : after.stage = .workflow → before.stage = .workflow)
  | calls (was : before.stage = .business) (isCalled : after.stage = .workflow)
      (guarded : after.guard = true)
  | unguards (same : after.stage = before.stage) (guarded : before.guard = true)
      (unguarded : after.guard = false)

theorem StageChange.ne_workflow {promiseSet : Bool} {running running' : Int}
    {stage stage' : Stage} (change : StageChange config promiseSet running stage running' stage') :
    stage' ≠ .workflow := by
  cases change <;> nofun

theorem CellEffect.changes {terminalID : Fin config.terminalCount} {before after : Cell config}
    (effect : CellEffect terminalID before after) : before.terminal.Changes after.terminal := by
  cases effect with
  | changesStage top change => exact .moves rfl fun isCalled => absurd isCalled change.ne_workflow
  | calls top may => exact .calls may rfl rfl
  | destroysGuard top guarded => exact .unguards rfl guarded rfl
  | parks | ends | starts | promotes => exact .moves rfl nofun
  | @calledBack part => cases part <;> exact .moves rfl id
  | @subscribes part => cases part <;> exact .moves rfl id
  | @fulfils part => cases part <;> exact .moves rfl id
  | @resumes part => cases part <;> exact .moves rfl id
  | _ => exact .moves rfl id

theorem Effect.changes {next : State config} (effect : Effect s next)
    (terminalID : Fin config.terminalCount) :
    (s.terminals terminalID).Changes (next.terminals terminalID) := by
  cases effect with
  | @cell changed cell effect =>
    by_cases same : terminalID = changed
    · subst same
      simpa [State.put, State.cell] using effect.changes
    · simp [State.put, same, Terminal.Changes.moves rfl id]
  | thread thread effect => exact .moves rfl id
  | stops => exact .moves rfl id
  | stutters => exact .moves rfl id

/-- Whether a terminal holds a slot and a guard, by its latest milestone. -/
def standing : Option Milestone → Bool × Bool
  | none | some .finished => (false, false)
  | some .admitted | some .unguarded => (true, false)
  | some .called => (true, true)

/-- The milestones that may come next. -/
def Milestone.next : Option Milestone → List Milestone
  | none | some .finished => [.admitted]
  | some .admitted | some .unguarded => [.called, .finished]
  | some .called => [.unguarded]

/-- Each milestone is one that may come after those before it. -/
def Lawful : List Milestone → Prop
  | [] => True
  | milestone :: earlier => milestone ∈ Milestone.next earlier.head? ∧ Lawful earlier

theorem Milestone.mem_next (latest : Option Milestone) :
    (standing latest = (false, false) → .admitted ∈ next latest) ∧
      (standing latest = (true, false) → .called ∈ next latest ∧ .finished ∈ next latest) ∧
      (standing latest = (true, true) → .unguarded ∈ next latest) := by
  cases latest with
  | none => decide
  | some milestone => cases milestone <;> decide

/-- A guard exists only while its terminal is in the workflow. -/
def Terminal.Guarded (terminal : Terminal) : Prop :=
  terminal.guard = true → terminal.stage = .workflow

theorem guarded_of_reached (reached : Scheduler.Reached s) (terminalID : Fin config.terminalCount) :
    (s.terminals terminalID).Guarded := by
  intro guarded
  have coherent := (orderly_of_reached reached).coherent terminalID
  exact coherent.called (coherent.guarded guarded)

/-- What the latest milestone says stays true, and the order of the milestones is kept. -/
theorem Terminal.Changes.note {before after : Terminal} (changes : before.Changes after)
    (wasGuarded : before.Guarded) (isGuarded : after.Guarded) {milestones : List Milestone}
    (stands : standing milestones.head? = (before.stage.holds, before.guard))
    (lawful : Lawful milestones) :
    standing ((before.milestone? after).toList ++ milestones).head? =
        (after.stage.holds, after.guard) ∧
      Lawful ((before.milestone? after).toList ++ milestones) := by
  obtain ⟨admits, goesOn, unguards⟩ := Milestone.mem_next milestones.head?
  rw [stands] at admits goesOn unguards
  have idle {terminal : Terminal} (guarded : terminal.Guarded)
      (free : terminal.stage.holds = false) : terminal.guard = false := by
    by_contra held
    rw [guarded (by simpa using held)] at free
    cases free
  cases changes with
  | moves same stays =>
    by_cases kept : after.stage.holds = before.stage.holds
    · have none : before.milestone? after = none := by
        simp [Terminal.milestone?, kept, same]
        exact fun notCalled called => notCalled (stays called)
      rw [none, same, kept]
      exact ⟨stands, lawful⟩
    cases held : before.stage.holds <;> rw [held] at kept
    · have holds : after.stage.holds = true := by simpa using kept
      have passed : before.milestone? after = some .admitted := by
        simp [Terminal.milestone?, held, holds]
      have free := idle wasGuarded held
      rw [passed, same, free, holds]
      exact ⟨rfl, admits (by rw [held, free]), lawful⟩
    · have holds : after.stage.holds = false := by simpa using kept
      have passed : before.milestone? after = some .finished := by
        simp [Terminal.milestone?, held, holds]
      have free := idle isGuarded holds
      rw [passed, free, holds]
      exact ⟨rfl, (goesOn (by rw [held, ← same, free])).2, lawful⟩
  | calls was isCalled guarded =>
    have passed : before.milestone? after = some .called := by
      simp [Terminal.milestone?, was, isCalled, Stage.holds]
    have free : before.guard = false := by
      by_contra held
      have inWorkflow := wasGuarded (by simpa using held)
      rw [was] at inWorkflow
      cases inWorkflow
    rw [passed, isCalled, guarded]
    exact ⟨rfl, (goesOn (by rw [was, free]; rfl)).1, lawful⟩
  | unguards same guarded unguarded =>
    have inWorkflow := wasGuarded guarded
    have passed : before.milestone? after = some .unguarded := by
      simp [Terminal.milestone?, same, guarded, unguarded]
    rw [passed, same, inWorkflow, unguarded]
    exact ⟨rfl, unguards (by rw [inWorkflow, guarded]; rfl), lawful⟩

section

variable {schedule : TPhaseSchedule} {system next : System config} {chronicle : Chronicle config}

/-- Slot and guard are as the latest milestone of the terminal says. -/
theorem System.Recorded.standing (recorded : system.Recorded schedule chronicle)
    (terminalID : Fin config.terminalCount) :
    Scheduler.standing (chronicle terminalID).head? =
        ((system.scheduler.terminals terminalID).stage.holds,
          (system.scheduler.terminals terminalID).guard) ∧
      Lawful (chronicle terminalID) := by
  induction recorded with
  | initial now => exact ⟨rfl, trivial⟩
  | @step system next chronicle action recorded stepped ih =>
    have reached := recorded.scheduler_reached
    have reachedNext := (System.Recorded.step recorded stepped).scheduler_reached
    refine Terminal.Changes.note ?_ (guarded_of_reached reached terminalID)
      (guarded_of_reached reachedNext terminalID) ih.1 ih.2
    rcases System.scheduler_step stepped with same | ⟨action, stepped⟩
    · rw [same]
      exact .moves rfl id
    · have orderly := orderly_of_reached reached
      rcases hasEffect_step orderly.affine orderly.promotable stepped with effect | ⟨full, _⟩
      · exact effect.changes terminalID
      · rw [full]
        exact .moves rfl id

/-- The terminal has a slot and no guard: between its admission and the call of a workflow, or
between the end of a workflow's guard and the next call or the return of the slot. -/
def InWindow (milestones : List Milestone) : Prop :=
  milestones.head? = some .admitted ∨ milestones.head? = some .unguarded

instance (milestones : List Milestone) : Decidable (InWindow milestones) :=
  inferInstanceAs (Decidable (_ ∨ _))

theorem guard_iff_called {latest : Option Milestone} {holds guard : Bool}
    (stands : Scheduler.standing latest = (holds, guard)) :
    guard = true ↔ latest = some .called := by
  cases latest with
  | none => cases stands; decide
  | some milestone => cases milestone <;> cases stands <;> decide

theorem holds_iff_inWindow {latest : Option Milestone} {holds guard : Bool}
    (stands : Scheduler.standing latest = (holds, guard)) (free : guard = false) :
    holds = true ↔ latest = some .admitted ∨ latest = some .unguarded := by
  subst free
  cases latest with
  | none => cases stands; decide
  | some milestone => cases milestone <;> cases stands <;> decide

/--
Each terminal passes its milestones in order: it is admitted, calls workflows one after another,
each with a guard that exists from the call until it is destroyed, and gives its slot back.  When
the loop finds the drain complete, all slots were given back if and only if the load of the counter
fell into none of the windows in which a terminal has a slot but no guard, nor between the taking of
a slot for a waiter and the promotion of that waiter.
-/
theorem drainComplete_iff (schedule : TPhaseSchedule) :
    (∀ (system : System config) (chronicle : Chronicle config),
      system.Recorded schedule chronicle → ∀ terminalID, Lawful (chronicle terminalID) ∧
        ((system.scheduler.terminals terminalID).guard = true ↔
          (chronicle terminalID).head? = some .called)) ∧
    ∀ (system next : System config) (chronicle : Chronicle config),
      system.Recorded schedule chronicle → system.step schedule .loop = some next →
      next.loop = .left .drainComplete →
      (next.scheduler.holders = 0 ↔
        (∀ terminalID, ¬ InWindow (chronicle terminalID)) ∧
          ∀ thread, (system.scheduler.contexts thread).position ≠ .inflightPromote) := by
  constructor
  · intro system chronicle recorded terminalID
    obtain ⟨stands, lawful⟩ := recorded.standing terminalID
    exact ⟨lawful, guard_iff_called stands⟩
  · intro system next chronicle recorded stepped leaves
    have none := System.transactionsInflight_of_drainComplete stepped leaves
    have unguarded := guard_eq_false_of_transactionsInflight recorded.scheduler_reached none
    rw [System.scheduler_loop stepped, holders_eq_zero_iff]
    refine and_congr (forall_congr' fun terminalID => ?_) (forall_congr' fun thread => ?_)
    · have window := holds_iff_inWindow (recorded.standing terminalID).1 (unguarded terminalID)
      rw [← Bool.not_eq_true, window]
      rfl
    · cases (system.scheduler.contexts thread).position <;> simp [Position.holds]

end

/-- Ten units of measurement and ten for the drain. -/
def tenAndTen : TPhaseSchedule where
  measurementStart := 0
  measurementEnd := 10
  drainDeadline := 20

/-- The terminal that is started in the examples. -/
def firstTerminal : Fin twoTerminals.terminalCount :=
  ⟨0, Nat.two_pos⟩

/-- It is admitted at time 9 by the only thread. -/
def admission : List (SystemAction twoTerminals) :=
  let thread : Fin 1 := ⟨0, Nat.one_pos⟩
  [.scheduler (.start firstTerminal), .startRamp false, .clock 9,
    .scheduler (.advance thread true), .scheduler (.advance thread true),
    .scheduler (.terminal thread .clear), .scheduler (.terminal thread .incInflight),
    .scheduler (.terminal thread .enter)]

/-- It calls a workflow that runs to its end. -/
def attempt : List (SystemAction twoTerminals) :=
  let thread : Fin 1 := ⟨0, Nat.one_pos⟩
  [.scheduler (.terminal thread (.await .ready)), .scheduler (.terminal thread .callWorkflow),
    .scheduler (.workflow thread .setPromise), .scheduler (.workflow thread .destroyGuard),
    .scheduler (.workflow thread .finish),
    .scheduler (.terminal thread (.awaitWorkflow false))]

/-- Two attempts, and the slot is given back before the measurement ends. -/
def finishesInTime : List (SystemAction twoTerminals) :=
  let thread : Fin 1 := ⟨0, Nat.one_pos⟩
  admission ++ attempt ++ attempt ++
    [.scheduler (.terminal thread .decInflight), .clock 10, .loop]

/-- The drain is complete after a transaction that was admitted and has finished. -/
theorem finishedDrain_complete :
    ∃ (system next : System twoTerminals) (chronicle : Chronicle twoTerminals),
      (System.initial 0).record tenAndTen (fun _ => []) finishesInTime = some (system, chronicle) ∧
      chronicle firstTerminal = [.finished, .unguarded, .called, .unguarded, .called, .admitted] ∧
      Lawful (chronicle firstTerminal) ∧ system.step tenAndTen .loop = some next ∧
      next.loop = .left .drainComplete ∧ next.scheduler.holders = 0 := by
  have ends : ((System.initial 0).record tenAndTen (fun _ => []) finishesInTime).bind
      (fun reached => (reached.1.step tenAndTen .loop).map fun next =>
        (reached.2 firstTerminal, next.loop,
          decide (∀ terminalID, ¬ InWindow (reached.2 terminalID)),
          decide (∀ thread, (reached.1.scheduler.contexts thread).position ≠ .inflightPromote))) =
      some ([.finished, .unguarded, .called, .unguarded, .called, .admitted],
        .left .drainComplete, true, true) := by
    decide +kernel
  obtain ⟨⟨system, chronicle⟩, taken, ends⟩ := Option.bind_eq_some_iff.mp ends
  obtain ⟨next, stepped, ends⟩ := Option.map_eq_some_iff.mp ends
  simp only [Prod.mk.injEq, decide_eq_true_eq] at ends
  obtain ⟨milestones, leaves, outside, promoted⟩ := ends
  have recorded := System.recorded_record (.initial 0) taken
  refine ⟨system, next, chronicle, taken, milestones, ?_, stepped, leaves, ?_⟩
  · exact ((drainComplete_iff tenAndTen).1 system chronicle recorded firstTerminal).1
  · exact ((drainComplete_iff tenAndTen).2 system next chronicle recorded stepped leaves).mpr
      ⟨outside, promoted⟩

/-- The terminal waits for a session when the measurement ends. -/
def waitsForSession : List (SystemAction twoTerminals) :=
  let thread : Fin 1 := ⟨0, Nat.one_pos⟩
  admission ++ [.scheduler (.terminal thread (.await .subscribed)), .clock 10, .loop, .loop]

/-- The drain is complete although a terminal was admitted and holds a slot. -/
theorem drain_leaves_admitted :
    ∃ (system : System twoTerminals) (chronicle : Chronicle twoTerminals),
      (System.initial 0).record tenAndTen (fun _ => []) waitsForSession =
        some (system, chronicle) ∧
      system.loop = .left .drainComplete ∧ system.interrupted = false ∧
      system.now < tenAndTen.drainDeadline ∧ system.scheduler.holders = 1 ∧
      chronicle firstTerminal = [.admitted] := by
  have ends : ((System.initial 0).record tenAndTen (fun _ => []) waitsForSession).map
      (fun reached : System twoTerminals × Chronicle twoTerminals =>
        (reached.1.loop, reached.1.interrupted, reached.1.now, reached.1.scheduler.holders,
          reached.2 firstTerminal)) =
        some (.left .drainComplete, false, 10, 1, [.admitted]) := by
    decide +kernel
  obtain ⟨⟨system, chronicle⟩, taken, ends⟩ := Option.map_eq_some_iff.mp ends
  simp only [Prod.mk.injEq] at ends
  obtain ⟨leaves, notInterrupted, now, holders, milestones⟩ := ends
  refine ⟨system, chronicle, taken, leaves, notInterrupted, ?_, holders, milestones⟩
  rw [now]
  decide

end Scheduler

end PortableTpcc
