import PortableTpcc.TaskQueue

namespace PortableTpcc.TaskQueue

/-!
# Wake-ups of an idle scheduler thread

`MaybeIdleWait` looks at the queues first and resets `IdleWake` afterwards.  A
call that changes a queue after it was looked at, and sets `IdleWake` before it
is reset, is forgotten: the thread goes to sleep with work in its queue.  When
no `IdleWake` is set between the two, every call that could have made work for
the sleeping thread has still to notify it.
-/

variable {Handle : Type} {limits : Limits}

/-- Between the checks of the shared queues and the reset of `IdleWake`. -/
def Position.BeforeReset : Position Handle → Prop
  | .checkExternal => True
  | .checkDeadline => True
  | .resetIdleWake _ => True
  | _ => False

/--
The thread sleeps with `IdleWake` unset while its external queue holds a task,
or an inflight waiter could be promoted, and every call that made it so has
completed its notification.
-/
def LostWakeup (limits : Limits) (s : State Handle) : Prop :=
  (∃ nextDeadline, s.position = .idleWait nextDeadline) ∧ s.idleWake = false ∧
    ((s.readyTasksExternal ≠ [] ∧ ∀ task ∈ s.readyTasksExternal, s.calls task.call = .completed) ∨
    (s.promotable limits = true ∧ ∀ call ∈ s.freedSinceCheck, s.calls call = .completed))

/-- A call sets `IdleWake` between the checks and the reset. -/
def Disturbs : Position Handle → Action Handle → Prop
  | position, .setIdleWake _ => position.BeforeReset
  | _, _ => False

/-- No step of the run disturbs the thread. -/
def Undisturbed (limits : Limits) :
    State Handle → List (Action Handle) → Prop
  | _, [] => True
  | s, action :: later =>
    ¬ Disturbs s.position action ∧
      match step limits s action with
      | none => True
      | some next => Undisturbed limits next later

/-- The thread relies on what it has read of its inflight queue. -/
def State.ReliesOnInflight (s : State Handle) : Prop :=
  s.position.BeforeReset ∨
    (∃ nextDeadline, s.position = .idleWait nextDeadline) ∧ s.idleWake = false

/-- The thread relies on what it has read of its external queue. -/
def State.ReliesOnExternal (s : State Handle) : Prop :=
  s.ReliesOnInflight ∧ s.position ≠ .checkExternal

/-- What the thread relies on was changed only by calls that still notify. -/
structure Watched (limits : Limits) (s : State Handle) : Prop where
  slots : s.ReliesOnInflight → s.inflightWaitingTasks ≠ [] → limits.maxRunningInternal ≤
    s.runningInternalCount + s.freedSinceCheck.length
  freed : s.ReliesOnInflight → ∀ call ∈ s.freedSinceCheck, s.calls call = .changed
  external : s.ReliesOnExternal → ∀ task ∈ s.readyTasksExternal, s.calls task.call = .changed

variable {s : State Handle}

/-- A thread that relies on nothing is watched. -/
theorem Watched.of_not_relies (not : ¬ s.ReliesOnInflight) : Watched limits s where
  slots relies := absurd relies not
  freed relies := absurd relies not
  external relies := absurd relies.1 not

theorem Watched.not_lostWakeup (watched : Watched limits s) : ¬ LostWakeup limits s := by
  rintro ⟨sleeps, idle, lost⟩
  have relies : s.ReliesOnInflight := .inr ⟨sleeps, idle⟩
  obtain ⟨nextDeadline, isIdle⟩ := sleeps
  rcases lost with ⟨some, completed⟩ | ⟨promotable, completed⟩
  · obtain ⟨task, isIn⟩ := List.exists_mem_of_ne_nil _ some
    have changed := watched.external ⟨relies, by simp [isIdle]⟩ task isIn
    rw [completed task isIn] at changed
    cases changed
  · simp only [State.promotable, Bool.and_eq_true, Bool.not_eq_true',
      List.isEmpty_eq_false_iff, decide_eq_true_eq] at promotable
    have slots := watched.slots relies promotable.1
    have some : s.freedSinceCheck ≠ [] := by
      intro none
      rw [none, List.length_nil] at slots
      exact absurd promotable.2 (Nat.not_lt.mpr slots)
    obtain ⟨call, isIn⟩ := List.exists_mem_of_ne_nil _ some
    have changed := watched.freed relies call isIn
    rw [completed call isIn] at changed
    cases changed

theorem tryPush_eq_some {α : Type} {capacity : Nat} {queue pushed : List α} {item : α}
    (room : tryPush capacity queue item = some pushed) : pushed = queue ++ [item] := by
  unfold tryPush at room
  split at room
  · exact (Option.some.inj room).symm
  · cases room

variable {call : CallId}

theorem calls_changedBy {other : CallId} (changed : s.calls other = .changed) :
    (s.changedBy call).calls other = .changed := by
  by_cases same : other = call
  · simp [State.changedBy, same]
  · simp [State.changedBy, same, changed]

theorem Watched.changedBy (watched : Watched limits s) (call : CallId) :
    Watched limits (s.changedBy call) where
  slots := watched.slots
  freed relies other isIn := calls_changedBy (watched.freed relies other isIn)
  external relies task isIn := calls_changedBy (watched.external relies task isIn)

variable {handle : Handle} {next : State Handle}

/-- A pushed task has a call that still notifies. -/
theorem Watched.taskReadyThreadSafe (watched : Watched limits s)
    (stepped : taskReadyThreadSafe limits call handle s = some next) : Watched limits next := by
  unfold PortableTpcc.TaskQueue.taskReadyThreadSafe at stepped
  split at stepped
  · obtain ⟨pushed, room, same⟩ := Option.bind_eq_some_iff.mp stepped
    cases same
    rw [tryPush_eq_some room]
    refine ⟨watched.slots, (watched.changedBy call).freed, ?_⟩
    intro relies task isIn
    rcases List.mem_append.mp isIn with before | pushedNow
    · exact calls_changedBy (watched.external relies task before)
    · rw [List.mem_singleton.mp pushedNow]
      exact Function.update_self ..
  · cases stepped

/-- A freed slot is counted with a call that still notifies. -/
theorem Watched.decInflight (watched : Watched limits s)
    (stepped : decInflight call s = some next) : Watched limits next := by
  unfold PortableTpcc.TaskQueue.decInflight at stepped
  split at stepped
  · rename_i enabled
    cases stepped
    refine ⟨?_, ?_, (watched.changedBy call).external⟩
    · intro relies waits
      have slots := watched.slots relies waits
      simp only [State.changedBy, List.length_append, List.length_singleton]
      omega
    · intro relies other isIn
      rcases List.mem_append.mp isIn with before | freedNow
      · exact calls_changedBy (watched.freed relies other before)
      · rw [List.mem_singleton.mp freedNow]
        exact Function.update_self ..
  · cases stepped

/-- After `IdleWake` is set outside the window nothing is relied on. -/
theorem Watched.setIdleWake (outside : ¬ s.position.BeforeReset)
    (stepped : setIdleWake call s = some next) : Watched limits next := by
  unfold PortableTpcc.TaskQueue.setIdleWake at stepped
  split at stepped
  · cases stepped
    apply Watched.of_not_relies
    rintro (before | ⟨-, unset⟩)
    · exact outside before
    · cases unset
  · cases stepped

/-- A completed notification is not one that is relied on. -/
theorem Watched.notifyOne (watched : Watched limits s) (stepped : notifyOne call s = some next) :
    Watched limits next := by
  unfold PortableTpcc.TaskQueue.notifyOne at stepped
  split at stepped
  · rename_i isSet
    cases stepped
    have kept : ∀ other, s.calls other = .changed →
        Function.update s.calls call .completed other = .changed := by
      intro other changed
      have different : other ≠ call := by
        intro same
        rw [same, isSet] at changed
        cases changed
      rw [Function.update_of_ne different]
      exact changed
    exact ⟨watched.slots,
      fun relies other isIn => kept other (watched.freed relies other isIn),
      fun relies task isIn => kept _ (watched.external relies task isIn)⟩
  · cases stepped

theorem position_incInflight (stepped : incInflight limits handle s = some next) :
    next.position = s.position := by
  unfold incInflight at stepped
  split at stepped
  · cases stepped
    rfl
  · obtain ⟨waiting, -, same⟩ := Option.bind_eq_some_iff.mp stepped
    cases same
    rfl

theorem position_taskReadyThreadSafe
    (stepped : taskReadyThreadSafe limits call handle s = some next) :
    next.position = s.position := by
  unfold taskReadyThreadSafe at stepped
  split at stepped
  · obtain ⟨external, -, same⟩ := Option.bind_eq_some_iff.mp stepped
    cases same
    rfl
  · cases stepped

theorem position_setIdleWake (stepped : setIdleWake call s = some next) :
    next.position = s.position := by
  unfold setIdleWake at stepped
  split at stepped
  · cases stepped
    rfl
  · cases stepped

theorem position_notifyOne (stepped : notifyOne call s = some next) :
    next.position = s.position := by
  unfold notifyOne at stepped
  split at stepped
  · cases stepped
    rfl
  · cases stepped

theorem position_taskStep {action : TaskAction Handle}
    (stepped : taskStep limits s action = some next) : next.position = s.position := by
  cases action with
  | taskReady handle =>
    obtain ⟨ready, -, same⟩ := Option.bind_eq_some_iff.mp stepped
    cases same
    rfl
  | asyncSleep handle delay =>
    cases stepped
    rfl
  | incInflight handle =>
    exact position_incInflight stepped
  | decInflight =>
    simp only [taskStep] at stepped
    split at stepped
    · cases stepped
      rfl
    · cases stepped
  | taskReadyThreadSafe call handle =>
    obtain ⟨marked, first, last⟩ := Option.bind_eq_some_iff.mp stepped
    obtain ⟨pushed, isPushed, isMarked⟩ := Option.bind_eq_some_iff.mp first
    rw [position_notifyOne last, position_setIdleWake isMarked,
      position_taskReadyThreadSafe isPushed]

/-- The thread relies on nothing at a position outside the idle wait. -/
theorem not_relies_of_position (outside : ¬ s.position.BeforeReset)
    (awake : ∀ nextDeadline, s.position ≠ .idleWait nextDeadline) : ¬ s.ReliesOnInflight := by
  rintro (before | ⟨⟨nextDeadline, isIdle⟩, -⟩)
  · exact outside before
  · exact awake nextDeadline isIdle

/-- The loop outside `MaybeIdleWait` relies on nothing. -/
theorem not_relies_resumeExternal (now : Nat) (tasks : List Handle) (s : State Handle) :
    ¬ (resumeExternal now tasks s).ReliesOnInflight := by
  unfold resumeExternal
  split
  · exact not_relies_of_position nofun nofun
  · split
    · exact not_relies_of_position nofun nofun
    · exact not_relies_of_position nofun nofun

theorem not_relies_resumeInternal (resumed : Nat) (s : State Handle) :
    ¬ (resumeInternal resumed s).ReliesOnInflight := by
  unfold resumeInternal
  split
  · split
    · exact not_relies_of_position nofun nofun
    · split
      · exact not_relies_of_position nofun nofun
      · exact not_relies_of_position nofun nofun
  · exact not_relies_of_position nofun nofun

theorem not_relies_processInflight {now : Nat} (before : ¬ s.ReliesOnInflight) :
    ¬ (processInflight limits now s).ReliesOnInflight := by
  unfold processInflight
  split
  · exact not_relies_of_position nofun nofun
  · split
    · exact not_relies_of_position nofun nofun
    · split
      · exact before
      · exact not_relies_of_position nofun nofun

theorem not_relies_processSleeping {now : Nat} (before : ¬ s.ReliesOnInflight)
    (stepped : processSleeping limits now s = some next) : ¬ next.ReliesOnInflight := by
  unfold processSleeping at stepped
  split at stepped
  · cases stepped
    exact not_relies_of_position nofun nofun
  · split at stepped
    · obtain ⟨ready, -, same⟩ := Option.bind_eq_some_iff.mp stepped
      cases same
      exact before
    · cases stepped
      exact not_relies_of_position nofun nofun

/-- The steps of `MaybeIdleWait`, and that the others rely on nothing. -/
theorem Watched.advance (watched : Watched limits s) (stepped : advance limits s = some next) :
    Watched limits next := by
  unfold PortableTpcc.TaskQueue.advance at stepped
  cases position : s.position with
  | loopHead =>
    simp only [position] at stepped
    apply Watched.of_not_relies
    split at stepped
    · cases stepped
      exact not_relies_of_position nofun nofun
    · cases stepped
      exact not_relies_of_position nofun nofun
  | resumeExternal now tasks =>
    simp only [position, Option.some.injEq] at stepped
    subst stepped
    exact .of_not_relies (not_relies_resumeExternal now tasks s)
  | inExternalTask now tasks =>
    simp only [position, Option.some.injEq] at stepped
    subst stepped
    exact .of_not_relies (not_relies_of_position nofun nofun)
  | processInflight now =>
    simp only [position, Option.some.injEq] at stepped
    subst stepped
    apply Watched.of_not_relies
    apply not_relies_processInflight
    apply not_relies_of_position
    · simp [position, Position.BeforeReset]
    · simp [position]
  | processSleeping now =>
    simp only [position] at stepped
    apply Watched.of_not_relies
    refine not_relies_processSleeping (not_relies_of_position ?_ ?_) stepped
    · simp [position, Position.BeforeReset]
    · simp [position]
  | resumeInternal resumed =>
    simp only [position, Option.some.injEq] at stepped
    subst stepped
    exact .of_not_relies (not_relies_resumeInternal resumed s)
  | inInternalTask resumed =>
    simp only [position, Option.some.injEq] at stepped
    subst stepped
    exact .of_not_relies (not_relies_of_position nofun nofun)
  | checkFlags =>
    simp only [position] at stepped
    apply Watched.of_not_relies
    split at stepped
    · cases stepped
      exact not_relies_of_position nofun nofun
    · cases stepped
      exact not_relies_of_position nofun nofun
  | checkInternal =>
    simp only [position] at stepped
    apply Watched.of_not_relies
    split at stepped
    · cases stepped
      exact not_relies_of_position nofun nofun
    · cases stepped
      exact not_relies_of_position nofun nofun
  | checkInflight =>
    simp only [position] at stepped
    split at stepped
    · cases stepped
      exact .of_not_relies (not_relies_of_position nofun nofun)
    · rename_i notReady
      cases stepped
      refine ⟨fun _ waits => ?_, fun _ => nofun, fun relies => ?_⟩
      · simp only [State.inflightReady, Bool.and_eq_true, Bool.not_eq_true',
          List.isEmpty_eq_false_iff, Bool.or_eq_true, decide_eq_true_eq,
          not_and, not_or, Nat.not_lt] at notReady
        exact (notReady waits).2
      · exact absurd rfl relies.2
  | checkExternal =>
    simp only [position] at stepped
    split at stepped
    · rename_i isEmpty
      cases stepped
      have relied : s.ReliesOnInflight := .inl (by simp [position, Position.BeforeReset])
      refine ⟨fun _ => watched.slots relied, fun _ => watched.freed relied,
        fun _ task isIn => ?_⟩
      rw [List.isEmpty_iff.mp isEmpty] at isIn
      exact absurd isIn List.not_mem_nil
    · cases stepped
      exact .of_not_relies (not_relies_of_position nofun nofun)
  | checkDeadline =>
    simp only [position] at stepped
    split at stepped
    · cases stepped
      exact .of_not_relies (not_relies_of_position nofun nofun)
    · cases stepped
      have relied : s.ReliesOnInflight := .inl (by simp [position, Position.BeforeReset])
      exact ⟨fun _ => watched.slots relied, fun _ => watched.freed relied,
        fun _ => watched.external ⟨relied, by simp [position]⟩⟩
  | resetIdleWake nextDeadline =>
    simp only [position, Option.some.injEq] at stepped
    subst stepped
    have relied : s.ReliesOnInflight := .inl (by simp [position, Position.BeforeReset])
    exact ⟨fun _ => watched.slots relied, fun _ => watched.freed relied,
      fun _ => watched.external ⟨relied, by simp [position]⟩⟩
  | idleWait nextDeadline =>
    simp only [position] at stepped
    split at stepped
    · cases stepped
      exact .of_not_relies (not_relies_of_position nofun nofun)
    · cases stepped
  | left =>
    simp only [position] at stepped
    cases stepped

theorem Watched.step {action : Action Handle} (watched : Watched limits s)
    (undisturbed : ¬ Disturbs s.position action) (stepped : step limits s action = some next) :
    Watched limits next := by
  cases action with
  | tick =>
    cases stepped
    exact ⟨watched.slots, watched.freed, watched.external⟩
  | advance =>
    exact watched.advance stepped
  | inTask action =>
    simp only [TaskQueue.step] at stepped
    apply Watched.of_not_relies
    split at stepped
    · rename_i position
      apply not_relies_of_position
      · simp [position_taskStep stepped, position, Position.BeforeReset]
      · simp [position_taskStep stepped, position]
    · rename_i position
      apply not_relies_of_position
      · simp [position_taskStep stepped, position, Position.BeforeReset]
      · simp [position_taskStep stepped, position]
    · cases stepped
  | requestStop call =>
    simp only [TaskQueue.step] at stepped
    split at stepped
    · cases stepped
      have same := watched.changedBy call
      exact ⟨same.slots, same.freed, same.external⟩
    · cases stepped
  | wakeupAndNeverSleep call =>
    simp only [TaskQueue.step] at stepped
    split at stepped
    · cases stepped
      have same := watched.changedBy call
      exact ⟨same.slots, same.freed, same.external⟩
    · cases stepped
  | taskReadyThreadSafe call handle =>
    exact watched.taskReadyThreadSafe stepped
  | decInflight call =>
    exact watched.decInflight stepped
  | setIdleWake call =>
    exact .setIdleWake undisturbed stepped
  | notifyOne call =>
    exact watched.notifyOne stepped

theorem Watched.run {final : State Handle} {actions : List (Action Handle)}
    (watched : Watched limits s) (undisturbed : Undisturbed limits s actions)
    (ran : run limits s actions = some final) : Watched limits final := by
  induction actions generalizing s with
  | nil =>
    cases ran
    exact watched
  | cons action later ih =>
    obtain ⟨next, stepped, rest⟩ := Option.bind_eq_some_iff.mp ran
    obtain ⟨here, later⟩ := undisturbed
    rw [stepped] at later
    exact ih (watched.step here stepped) later rest

/--
No wake-up is lost in an interleaving in which no call sets `IdleWake` between
the checks of the thread and its reset of `IdleWake`.
-/
theorem no_lostWakeup_of_undisturbed (limits : Limits) (runningInternalCount : Nat)
    (actions : List (Action Handle)) (final : State Handle)
    (undisturbed : Undisturbed limits (initial runningInternalCount) actions)
    (ran : run limits (initial runningInternalCount) actions = some final) :
    ¬ LostWakeup limits final := by
  have watched : Watched limits (initial runningInternalCount : State Handle) :=
    .of_not_relies (not_relies_of_position nofun nofun)
  exact (watched.run undisturbed ran).not_lostWakeup

/-- Room for two tasks in each queue, and one inflight slot. -/
def smallLimits : Limits where
  maxRunningInternal := 1
  maxReadyInternal := 2
  maxReadyExternal := 2

/-- The steps of an idle thread from the head of its loop to the reset. -/
def idlePass : List (Action Nat) :=
  List.replicate 10 .advance

/-- A task is pushed and notified while the thread sleeps. -/
def pushWhileAsleep : List (Action Nat) :=
  idlePass ++ [.advance, .taskReadyThreadSafe 0 7, .setIdleWake 0, .notifyOne 0]

/-- A task is pushed and notified just before the thread resets `IdleWake`. -/
def pushBeforeReset : List (Action Nat) :=
  idlePass ++ [.taskReadyThreadSafe 0 7, .setIdleWake 0, .notifyOne 0, .advance]

/-- A task that is pushed to a thread asleep wakes it. -/
theorem pushWhileAsleep_wakes :
    ∃ final, run smallLimits (initial 1) pushWhileAsleep = some final ∧
      ¬ LostWakeup smallLimits final := by
  refine ⟨_, rfl, ?_⟩
  apply no_lostWakeup_of_undisturbed smallLimits 1 pushWhileAsleep
  · repeat' constructor
    all_goals exact id
  · rfl

/-- The pushed task is left in the queue of a thread that sleeps. -/
theorem pushBeforeReset_lostWakeup :
    ∃ final, run smallLimits (initial 1) pushBeforeReset = some final ∧
        LostWakeup smallLimits final := by
  refine ⟨_, rfl, ⟨none, rfl⟩, rfl, .inl ⟨nofun, ?_⟩⟩
  intro task isIn
  rw [List.mem_singleton.mp isIn]
  rfl

end PortableTpcc.TaskQueue
