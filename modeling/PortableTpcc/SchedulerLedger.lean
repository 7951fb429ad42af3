import PortableTpcc.SchedulerEffects

namespace PortableTpcc

namespace Scheduler

open CoroutineLedger (Status Ledger Move)

/-!
# No coroutine is resumed twice

Each scheduler thread has a ledger of the coroutines of its terminals.  Every
effect is a move of the ledger of one thread, so a handle is in one queue at
most, and only while its coroutine waits for it.  With the ledgers goes what a
terminal's stage says about its coroutines, which is needed to see that a
coroutine that is started or called was not there before.
-/

variable {config : Config}

/-- The coroutines of the terminals that hint at a thread. -/
def State.ledger (s : State config) (thread : Fin config.threadCount) : Ledger (Handle config) where
  status handle := if State.home handle.terminalID = thread then s.status handle else .absent
  queued := (s.contexts thread).queued
  frames := (s.contexts thread).frames

/-- A waiter is going to be promoted. -/
def Position.promoting : Position config → Bool
  | .inflightTake => true
  | .inflightPromote => true
  | _ => false

/-- What holds of the context of every thread. -/
structure Context.Regular (context : Context config) : Prop where
  shaped : context.frames = [] ∨ (∃ handle, context.frames = [handle]) ∨
    ∃ terminalID, context.frames = [⟨terminalID, .workflow⟩, ⟨terminalID, .terminal⟩]
  /-- Only the coroutines of terminals wait for slots. -/
  waiters : ∀ handle ∈ context.inflightWaitingTasks, handle.part = .terminal
  promoting : context.position.promoting = true → context.inflightWaitingTasks ≠ []

/-- What the stage of a terminal says about its coroutines. -/
structure Cell.Coherent (terminalID : Fin config.terminalCount) (cell : Cell config) : Prop where
  fresh : cell.terminal.stage = .notStarted → cell.terminal.coroutine = .absent
  parked : cell.terminal.stage = .parked ↔
    ⟨terminalID, .terminal⟩ ∈ cell.context.inflightWaitingTasks
  called : cell.terminal.workflow ≠ .absent → cell.terminal.stage = .workflow
  /-- A suspended workflow has no result. -/
  unset : cell.terminal.workflow = .enqueued ∨ cell.terminal.workflow = .subscribed →
    cell.terminal.promiseSet = false
  /-- A caller that is to be resumed finds the result. -/
  answered : cell.terminal.stage = .workflow → cell.terminal.coroutine = .enqueued →
    cell.terminal.promiseSet = true
  guarded : cell.terminal.guard = true → cell.terminal.workflow ≠ .absent

structure Orderly (s : State config) : Prop where
  sound : ∀ thread, (s.ledger thread).Sound
  regular : ∀ thread, (s.contexts thread).Regular
  coherent : ∀ terminalID, (s.cell terminalID).Coherent terminalID

section

variable {s : State config} {thread : Fin config.threadCount}
variable {terminalID : Fin config.terminalCount}
variable {part : Part} {callers : List (Handle config)}

/-! ### What the ledgers say about a terminal -/

theorem ledger_status_home (handle : Handle config) :
    (s.ledger (State.home handle.terminalID)).status handle = s.status handle := by
  simp [State.ledger]

variable {status : Status} {handle : Handle config}

/-- A handle that is not absent for a thread is one of the thread's. -/
theorem home_of_status (present : (s.ledger thread).status handle = status)
    (notAbsent : status ≠ .absent) : State.home handle.terminalID = thread := by
  by_contra elsewhere
  simp only [State.ledger, if_neg elsewhere] at present
  exact notAbsent present.symm

theorem Orderly.home_of_queued (orderly : Orderly s) (isIn : handle ∈ (s.contexts thread).queued) :
    State.home handle.terminalID = thread :=
  home_of_status ((orderly.sound thread).enqueued_of_mem isIn) (by decide)

theorem Orderly.home_of_framed (orderly : Orderly s) (isIn : handle ∈ (s.contexts thread).frames) :
    State.home handle.terminalID = thread :=
  home_of_status ((orderly.sound thread).running_of_mem isIn) (by decide)

theorem Orderly.affine (orderly : Orderly s) : s.Affine := by
  intro thread
  exact
    { queued := fun _ isIn => orderly.home_of_queued isIn
      framed := fun _ isIn => orderly.home_of_framed isIn
      shaped := (orderly.regular thread).shaped }

/-- A coroutine whose handle is queued waits for it. -/
theorem Orderly.enqueued (orderly : Orderly s) (isIn : handle ∈ (s.contexts thread).queued) :
    s.status handle = .enqueued := by
  obtain rfl := orderly.home_of_queued isIn
  rw [← ledger_status_home]
  exact (orderly.sound _).enqueued_of_mem isIn

theorem Orderly.running (orderly : Orderly s) (isIn : handle ∈ (s.contexts thread).frames) :
    s.status handle = .running := by
  obtain rfl := orderly.home_of_framed isIn
  rw [← ledger_status_home]
  exact (orderly.sound _).running_of_mem isIn

theorem Orderly.not_running (orderly : Orderly s)
    (notIn : handle ∉ (s.contexts (State.home handle.terminalID)).frames) :
    s.status handle ≠ .running := by
  intro running
  rw [← ledger_status_home] at running
  exact notIn ((orderly.sound _).mem_of_running running)

variable {context : Context config}

theorem mem_queued_of_waiting (waits : handle ∈ context.inflightWaitingTasks) :
    handle ∈ context.queued := by
  simp [Context.queued, waits]

theorem Orderly.promotable (orderly : Orderly s) : s.Promotable := by
  intro thread position
  have regular := orderly.regular thread
  cases waiting : (s.contexts thread).inflightWaitingTasks with
  | nil =>
    exact absurd waiting (regular.promoting (by rw [position]; rfl))
  | cons handle rest =>
    refine ⟨handle, rest, rfl, ?_⟩
    have waits : handle ∈ (s.contexts thread).inflightWaitingTasks := by
      simp [waiting]
    simp [orderly.enqueued (mem_queued_of_waiting waits)]

/-! ### Effects are moves of ledgers -/

variable {cell : Cell config}

theorem ledger_put_of_ne (elsewhere : State.home terminalID ≠ thread) :
    (s.put terminalID cell).ledger thread = s.ledger thread := by
  have sameContext : (s.put terminalID cell).contexts thread = s.contexts thread := by
    simp [State.put, Ne.symm elsewhere]
  have sameStatus (handle : Handle config) : State.home handle.terminalID = thread →
      (s.put terminalID cell).status handle = s.status handle := by
    intro here
    have different : handle.terminalID ≠ terminalID := by
      rintro rfl
      exact elsewhere here
    simp [State.put, State.status, different]
  simp only [State.ledger, sameContext]
  congr 1
  funext handle
  by_cases here : State.home handle.terminalID = thread
  · simp [here, sameStatus handle here]
  · simp [here]

theorem ledger_put (part : Part) (changes : cell.terminal.status part = status)
    (keeps : ∀ other, other ≠ part →
      cell.terminal.status other = (s.terminals terminalID).status other) :
    (s.put terminalID cell).ledger (State.home terminalID) =
      { status :=
          Function.update (s.ledger (State.home terminalID)).status ⟨terminalID, part⟩ status
        queued := cell.context.queued
        frames := cell.context.frames } := by
  simp only [State.ledger, State.put, Function.update_self]
  congr 1
  funext handle
  obtain ⟨otherID, otherPart⟩ := handle
  by_cases sameID : otherID = terminalID
  · subst sameID
    by_cases samePart : otherPart = part
    · subst samePart
      simp [State.status, changes]
    · simp [State.status, samePart, keeps otherPart samePart]
  · simp [State.status, sameID]

theorem ledger_put_of_eq
    (keeps : ∀ other, cell.terminal.status other = (s.terminals terminalID).status other) :
    (s.put terminalID cell).ledger (State.home terminalID) =
      { s.ledger (State.home terminalID) with
        queued := cell.context.queued
        frames := cell.context.frames } := by
  rw [ledger_put .terminal (keeps .terminal) fun other _ => keeps other]
  congr 1
  rw [Function.update_eq_iff]
  have own := ledger_status_home (s := s) ⟨terminalID, .terminal⟩
  exact ⟨own.symm, fun _ _ => rfl⟩

theorem status_setStatus_of_ne {terminal : Terminal} {other : Part} (different : other ≠ part) :
    (terminal.setStatus status part).status other = terminal.status other := by
  cases part <;> cases other <;> simp_all [Terminal.setStatus, Terminal.status]

@[simp]
theorem status_setStatus {terminal : Terminal} :
    (terminal.setStatus status part).status part = status := by
  cases part <;> rfl

theorem queued_sleeps (context : Context config) (frames : List (Handle config)) (deadline : Nat)
    (handle : Handle config) :
    Context.queued
        { context with
          frames
          sleepingTasks :=
            context.sleepingTasks.orderedInsert
              (fun left right => left.1 ≤ right.1) (deadline, handle) } =
      handle ::ₘ context.queued := by
  have inserted : (context.sleepingTasks.orderedInsert
      (fun left right => left.1 ≤ right.1) (deadline, handle)).map Prod.snd
          |>.Perm (handle :: context.sleepingTasks.map Prod.snd) :=
    (List.perm_orderedInsert _ (deadline, handle) context.sleepingTasks).map Prod.snd
  simp only [Context.queued, Multiset.coe_eq_coe.mpr inserted,
    ← Multiset.cons_coe, ← Multiset.singleton_add]
  abel

theorem queued_external (context : Context config) (frames : List (Handle config))
    (handle : Handle config) :
    Context.queued
        { context with
          frames
          readyTasksExternal := context.readyTasksExternal ++ [handle] } =
      handle ::ₘ context.queued := by
  simp only [Context.queued, ← Multiset.coe_add, Multiset.coe_singleton, ← Multiset.singleton_add]
  abel

theorem queued_waiting (context : Context config) (frames : List (Handle config))
    (handle : Handle config) :
    Context.queued
        { context with
          frames
          inflightWaitingTasks := context.inflightWaitingTasks ++ [handle] } =
      handle ::ₘ context.queued := by
  simp only [Context.queued, ← Multiset.coe_add, Multiset.coe_singleton, ← Multiset.singleton_add]
  abel

/-- A promoted waiter stays queued, unless it is dropped. -/
theorem queued_promotes {waiting : List (Handle config)} (kept : Bool)
    (position : context.position = .inflightPromote)
    (first : context.inflightWaitingTasks = handle :: waiting) :
    Context.queued
        { context with
          position := .inflightCheck
          inflightWaitingTasks := waiting
          readyTasksInternal :=
            if kept then context.readyTasksInternal ++ [handle]
            else context.readyTasksInternal } ≤
      context.queued := by
  have split : context.queued = Context.queued
            { context with
              position := .inflightCheck
              inflightWaitingTasks := waiting } +
          {handle} := by
    simp only [Context.queued, position, first, Position.tasks,
      ← Multiset.cons_coe, ← Multiset.singleton_add]
    abel
  rw [split]
  cases kept with
  | false =>
    exact Multiset.le_add_right _ _
  | true =>
    apply le_of_eq
    simp only [Context.queued, if_true, ← Multiset.coe_add, Multiset.coe_singleton]
    abel

theorem Cell.Coherent.workflow_absent (coherent : cell.Coherent terminalID)
    (elsewhere : cell.terminal.stage ≠ .workflow) : cell.terminal.workflow = .absent := by
  by_contra present
  exact elsewhere (coherent.called present)

theorem frames_left
    (top : (s.contexts (State.home terminalID)).frames = ⟨terminalID, part⟩ :: callers) :
    (s.ledger (State.home terminalID)).frames =
      ⟨terminalID, part⟩ ::ₘ (callers : Multiset (Handle config)) := by
  simp only [State.ledger, top, Multiset.cons_coe]

/-- A step of a terminal is a move of the ledger. -/
theorem CellEffect.move (coherent : (s.cell terminalID).Coherent terminalID)
    (effect : CellEffect terminalID (s.cell terminalID) cell) :
    Move (s.ledger (State.home terminalID))
      ((s.put terminalID cell).ledger (State.home terminalID)) := by
  have keepsOther (status : Status) (changed : Part) : ∀ other, other ≠ changed →
      ((s.terminals terminalID).setStatus status changed).status other =
      (s.terminals terminalID).status other :=
    fun _ different => status_setStatus_of_ne different
  cases effect with
  | changesStage top change =>
    rw [ledger_put_of_eq (by intro other; cases other <;> rfl)]
    exact .keeps le_rfl
  | sleeps deadline top may =>
    rw [ledger_put .terminal rfl (keepsOther .enqueued .terminal), queued_sleeps]
    exact .suspends (frames_left top)
  | calledBack top may =>
    rw [ledger_put _ status_setStatus (keepsOther .enqueued _), queued_external]
    exact .suspends (frames_left top)
  | subscribes top may =>
    rw [ledger_put _ status_setStatus (keepsOther .subscribed _)]
    exact .subscribes (frames_left top)
  | parks top may =>
    rw [ledger_put .terminal rfl (keepsOther .enqueued .terminal), queued_waiting]
    exact .suspends (frames_left top)
  | calls top may =>
    have fresh : (s.terminals terminalID).workflow = .absent :=
      coherent.workflow_absent (by rw [may]; decide)
    rw [ledger_put .workflow rfl (keepsOther .running .workflow)]
    have move : Move (s.ledger (State.home terminalID)) _ :=
      .calls ((ledger_status_home ⟨terminalID, .workflow⟩).trans fresh)
    rw [frames_left top] at move
    exact move
  | ends top may =>
    rw [ledger_put .terminal rfl (keepsOther .absent .terminal)]
    exact .ends (frames_left top)
  | setsPromise top unset early =>
    rw [ledger_put_of_eq (by intro other; cases other <;> rfl)]
    exact .keeps le_rfl
  | answers top unset waits =>
    rw [ledger_put .terminal rfl (keepsOther .enqueued .terminal), queued_external]
    exact .wakes (.inl ((ledger_status_home ⟨terminalID, .terminal⟩).trans waits))
  | destroysGuard top guarded =>
    rw [ledger_put_of_eq (by intro other; cases other <;> rfl)]
    exact .keeps le_rfl
  | endsWorkflow top unguarded set =>
    rw [ledger_put .workflow rfl (keepsOther .absent .workflow)]
    exact .ends (frames_left top)
  | starts may =>
    have fresh : (s.terminals terminalID).coroutine = .absent := coherent.fresh may
    rw [ledger_put .terminal rfl (keepsOther .enqueued .terminal), queued_external]
    exact .wakes (.inr ((ledger_status_home ⟨terminalID, .terminal⟩).trans fresh))
  | fulfils waits elsewhere =>
    rw [ledger_put _ status_setStatus (keepsOther .enqueued _), queued_external]
    exact .wakes (.inl ((ledger_status_home ⟨terminalID, _⟩).trans waits))
  | @resumes part context free popped sameWaiting wasInert isInert alive =>
    rw [ledger_put _ status_setStatus (keepsOther .running _)]
    have move : Move (s.ledger (State.home terminalID)) _ := .resumes popped.le
    have noFrames : (s.ledger (State.home terminalID)).frames = 0 := congrArg _ free
    rw [noFrames] at move
    exact move
  | promotes kept free position first full =>
    rw [ledger_put_of_eq (by intro other; cases other <;> rfl)]
    exact .keeps (queued_promotes kept position first)

/-! ### Contexts stay regular -/

/-- Below the top frame lies the caller's, if any. -/
theorem Context.Regular.callers_shaped (regular : context.Regular)
    (top : context.frames = ⟨terminalID, part⟩ :: callers) :
    callers = [] ∨ callers = [⟨terminalID, .terminal⟩] := by
  rcases regular.shaped with empty | ⟨handle, single⟩ | ⟨other, nested⟩
  · simp [empty] at top
  · simp_all
  · simp only [nested, List.cons.injEq, Handle.mk.injEq] at top
    exact .inr (top.1.1 ▸ top.2.symm)

variable {after : Context config}

/-- Below the top frame the context is as regular as with it. -/
theorem Context.Regular.leave (regular : context.Regular)
    (top : context.frames = ⟨terminalID, part⟩ :: callers) (frames : after.frames = callers)
    (position : after.position = context.position)
    (waiting : after.inflightWaitingTasks = context.inflightWaitingTasks) : after.Regular where
  shaped := by
    rw [frames]
    rcases regular.callers_shaped top with none | one
    · exact .inl none
    · exact .inr (.inl ⟨_, one⟩)
  waiters := waiting ▸ regular.waiters
  promoting := by
    rw [position, waiting]
    exact regular.promoting

theorem CellEffect.regular {before after : Cell config}
    (effect : CellEffect terminalID before after) (regular : before.context.Regular) :
    after.context.Regular := by
  cases effect with
  | changesStage top change =>
    exact regular
  | sleeps deadline top may =>
    exact regular.leave top rfl rfl rfl
  | calledBack top may =>
    exact regular.leave top rfl rfl rfl
  | subscribes top may =>
    exact regular.leave top rfl rfl rfl
  | parks top may =>
    constructor
    · exact .inl rfl
    · intro handle waits
      rcases List.mem_append.mp waits with old | new
      · exact regular.waiters handle old
      · simp_all
    · simp
  | calls top may =>
    exact ⟨.inr (.inr ⟨_, rfl⟩), regular.waiters, regular.promoting⟩
  | ends top may =>
    exact regular.leave top rfl rfl rfl
  | setsPromise top unset early =>
    exact regular
  | answers top unset waits =>
    exact ⟨regular.shaped, regular.waiters, regular.promoting⟩
  | destroysGuard top guarded =>
    exact regular
  | endsWorkflow top unguarded set =>
    exact regular.leave top rfl rfl rfl
  | starts may =>
    exact ⟨regular.shaped, regular.waiters, regular.promoting⟩
  | fulfils waits elsewhere =>
    exact ⟨regular.shaped, regular.waiters, regular.promoting⟩
  | @resumes part context free popped sameWaiting wasInert isInert alive =>
    constructor
    · exact .inr (.inl ⟨_, rfl⟩)
    · exact sameWaiting ▸ regular.waiters
    · intro promoting
      cases position : context.position <;> simp_all [Position.promoting, Position.inert]
  | promotes kept free position first full =>
    constructor
    · exact .inl free
    · intro handle waits
      apply regular.waiters
      rw [first]
      exact List.mem_cons_of_mem _ waits
    · intro promoting
      cases promoting

/-- A thread alone drops handles at most, and runs no coroutine. -/
theorem ThreadEffect.keeps {before : Context config} {running next : Int}
    (effect : ThreadEffect config before running after next) :
    after.queued ≤ before.queued ∧ after.frames = before.frames ∧
      after.inflightWaitingTasks = before.inflightWaitingTasks := by
  cases effect with
  | shuffles free stillFree fewer sameWaiting wasInert isInert =>
    exact ⟨fewer, stillFree.trans free.symm, sameWaiting⟩
  | checks free position limited waits =>
    exact ⟨by simp [Context.queued, position, Position.tasks], rfl, rfl⟩
  | overruns free position =>
    exact ⟨by simp [Context.queued, position, Position.tasks], rfl, rfl⟩
  | takes free position room =>
    exact ⟨by simp [Context.queued, position, Position.tasks], rfl, rfl⟩
  | undoes free position =>
    exact ⟨by simp [Context.queued, position, Position.tasks], rfl, rfl⟩

theorem ThreadEffect.regular {before : Context config} {running next : Int}
    (effect : ThreadEffect config before running after next) (regular : before.Regular) :
    after.Regular := by
  obtain ⟨_, sameFrames, sameWaiting⟩ := effect.keeps
  constructor
  · exact sameFrames ▸ regular.shaped
  · exact sameWaiting ▸ regular.waiters
  intro promoting
  rw [sameWaiting]
  cases effect with
  | shuffles free stillFree fewer sameWaiting wasInert isInert =>
    cases position : after.position <;> simp_all [Position.promoting, Position.inert]
  | checks free position limited waits =>
    exact waits
  | overruns free position =>
    cases promoting
  | takes free position room =>
    exact regular.promoting (by rw [position]; rfl)
  | undoes free position =>
    cases promoting

/-! ### Terminals stay coherent -/

/-- Where the coroutines of one terminal are. -/
structure Cell.Placed (terminalID : Fin config.terminalCount) (cell : Cell config) : Prop where
  framed : ∀ part, cell.terminal.status part = .running ↔ ⟨terminalID, part⟩ ∈ cell.context.frames
  queuedOnce : ∀ part, cell.context.queued.count ⟨terminalID, part⟩ ≤ 1

theorem Orderly.placed (orderly : Orderly s) (terminalID : Fin config.terminalCount) :
    (s.cell terminalID).Placed terminalID where
  framed part := by
    constructor
    · intro running
      by_contra notIn
      exact orderly.not_running notIn running
    · exact orderly.running
  queuedOnce part := (orderly.sound _).queued_le_one _

section

variable {before after : Cell config}

theorem Cell.Placed.running (placed : before.Placed terminalID)
    (top : before.context.frames = ⟨terminalID, part⟩ :: callers) :
    before.terminal.status part = .running := by
  apply (placed.framed part).mpr
  rw [top]
  exact List.mem_cons_self

/-- The workflow does not run below its caller. -/
theorem Cell.Placed.workflow_not_running (placed : before.Placed terminalID)
    (top : before.context.frames = [⟨terminalID, .terminal⟩]) :
    before.terminal.workflow ≠ .running := by
  intro running
  have framed := (placed.framed .workflow).mp running
  simp [top] at framed

theorem StageChange.ne_parked {promiseSet : Bool} {running next : Int} {stage changed : Stage}
    (change : StageChange config promiseSet running stage next changed) :
    stage ≠ .parked ∧ changed ≠ .parked ∧ changed ≠ .notStarted ∧ changed ≠ .workflow := by
  cases change <;> decide

/-- A change of the stage finds no workflow. -/
theorem Cell.Coherent.workflow_absent_of_change (coherent : before.Coherent terminalID)
    (placed : before.Placed terminalID) (top : before.context.frames = [⟨terminalID, .terminal⟩])
    {running : Int} {stage : Stage}
    (change : StageChange config before.terminal.promiseSet before.running
        before.terminal.stage running stage) : before.terminal.workflow = .absent := by
  by_cases calling : before.terminal.stage = .workflow
  · have set : before.terminal.promiseSet = true := by
      rw [calling] at change
      cases change
      assumption
    have notRunning := placed.workflow_not_running top
    cases workflow : before.terminal.workflow with
    | absent =>
      rfl
    | running =>
      exact absurd workflow notRunning
    | enqueued =>
      simp [coherent.unset (.inl workflow)] at set
    | subscribed =>
      simp [coherent.unset (.inr workflow)] at set
  · exact coherent.workflow_absent calling

theorem Cell.Coherent.setCoroutine (coherent : before.Coherent terminalID) (status : Status)
    (terminal : after.terminal = before.terminal.setStatus status .terminal)
    (waiting : after.context.inflightWaitingTasks = before.context.inflightWaitingTasks)
    (started : before.terminal.stage ≠ .notStarted)
    (answered :
      before.terminal.stage = .workflow → status = .enqueued →
        before.terminal.promiseSet = true) : after.Coherent terminalID := by
  constructor <;> simp only [terminal, waiting, Terminal.setStatus]
  · intro fresh
    exact absurd fresh started
  · exact coherent.parked
  · exact coherent.called
  · exact coherent.unset
  · exact answered
  · exact coherent.guarded

theorem Cell.Coherent.setWorkflow (coherent : before.Coherent terminalID) (status : Status)
    (terminal : after.terminal = before.terminal.setStatus status .workflow)
    (waiting : after.context.inflightWaitingTasks = before.context.inflightWaitingTasks)
    (present : before.terminal.workflow ≠ .absent) (stays : status ≠ .absent)
    (unset : status = .enqueued ∨ status = .subscribed → before.terminal.promiseSet = false) :
    after.Coherent terminalID := by
  constructor <;> simp only [terminal, waiting, Terminal.setStatus]
  · exact coherent.fresh
  · exact coherent.parked
  · intro _
    exact coherent.called present
  · exact unset
  · exact coherent.answered
  · intro _
    exact stays

theorem Cell.Coherent.started (coherent : before.Coherent terminalID)
    (present : before.terminal.coroutine ≠ .absent) : before.terminal.stage ≠ .notStarted :=
  fun fresh => present (coherent.fresh fresh)

theorem Cell.Coherent.not_waiting (coherent : before.Coherent terminalID)
    (stage : before.terminal.stage ≠ .parked) :
    ⟨terminalID, .terminal⟩ ∉ before.context.inflightWaitingTasks :=
  fun waits => stage (coherent.parked.mpr waits)

theorem Cell.Coherent.first_parked (coherent : before.Coherent terminalID)
    (regular : before.context.Regular) {waiting : List (Handle config)}
    (first : before.context.inflightWaitingTasks = ⟨terminalID, part⟩ :: waiting) :
    before.terminal.stage = .parked := by
  have waits : ⟨terminalID, part⟩ ∈ before.context.inflightWaitingTasks := by
    simp [first]
  obtain rfl : part = .terminal := regular.waiters _ waits
  exact coherent.parked.mpr waits

theorem Cell.Placed.promoted_once (placed : before.Placed terminalID)
    (regular : before.context.Regular) {waiting : List (Handle config)}
    (first : before.context.inflightWaitingTasks = ⟨terminalID, part⟩ :: waiting) :
    ⟨terminalID, .terminal⟩ ∉ waiting := by
  obtain rfl : part = .terminal := regular.waiters ⟨terminalID, part⟩ (by simp [first])
  intro again
  have once := placed.queuedOnce .terminal
  have twice : 2 ≤
        before.context.inflightWaitingTasks.count ⟨terminalID, .terminal⟩ := by
    rw [first, List.count_cons_self]
    have positive := List.count_pos_iff.mpr again
    omega
  simp only [Context.queued, Multiset.count_add, Multiset.coe_count] at once
  omega

theorem Cell.Coherent.awaits (coherent : before.Coherent terminalID)
    (running : before.terminal.status part = .running) {status : Status} {answered : Bool}
    (may : before.terminal.MayAwait answered part) (stays : status ≠ .absent)
    (suspended : status = .enqueued → answered = true)
    (terminal : after.terminal = before.terminal.setStatus status part)
    (waiting : after.context.inflightWaitingTasks = before.context.inflightWaitingTasks) :
    after.Coherent terminalID := by
  cases part with
  | terminal =>
    apply coherent.setCoroutine status terminal waiting
    · exact coherent.started (ne_of_eq_of_ne running (by decide))
    · intro calling enqueued
      rcases may with business | ⟨_, set⟩
      · simp [business] at calling
      · exact set.trans (suspended enqueued)
  | workflow =>
    apply coherent.setWorkflow status terminal waiting
    · exact ne_of_eq_of_ne running (by decide)
    · exact stays
    · intro _
      exact may.2

/-- A step keeps a terminal coherent. -/
theorem CellEffect.coherent (effect : CellEffect terminalID before after)
    (regular : before.context.Regular) (placed : before.Placed terminalID)
    (coherent : before.Coherent terminalID) : after.Coherent terminalID := by
  cases effect with
  | changesStage top change =>
    have absent := coherent.workflow_absent_of_change placed top change
    obtain ⟨wasNot, isNot, started, calling⟩ := change.ne_parked
    constructor
    · exact fun fresh => absurd fresh started
    · exact iff_of_false isNot (wasNot ∘ coherent.parked.mpr)
    · exact fun present => absurd absent present
    · exact coherent.unset
    · exact fun stage => absurd stage calling
    · exact coherent.guarded
  | sleeps deadline top may =>
    have running : before.terminal.coroutine = .running := placed.running top
    refine coherent.setCoroutine .enqueued rfl rfl ?_ ?_
    · exact coherent.started (ne_of_eq_of_ne running (by decide))
    · intro calling _
      simp [calling] at may
  | calledBack top may =>
    exact coherent.awaits (placed.running top) may (by decide) (fun _ => rfl) rfl rfl
  | subscribes top may =>
    exact coherent.awaits (placed.running top) may (by decide)
      (fun enqueued => by cases enqueued) rfl rfl
  | parks top may =>
    have absent := coherent.workflow_absent (by simp [may])
    constructor
    · exact fun fresh => by cases fresh
    · simp
    · exact fun present => absurd absent present
    · exact coherent.unset
    · exact fun calling => by cases calling
    · exact coherent.guarded
  | calls top may =>
    have running : before.terminal.coroutine = .running := placed.running top
    constructor
    · exact fun fresh => by cases fresh
    · exact iff_of_false (by simp) (coherent.not_waiting (by simp [may]))
    · exact fun _ => rfl
    · simp
    · intro _ enqueued
      simp [running] at enqueued
    · simp
  | ends top may =>
    have absent := coherent.workflow_absent (by simp [may])
    constructor
    · exact fun fresh => by cases fresh
    · exact iff_of_false (by simp) (coherent.not_waiting (by simp [may]))
    · exact fun present => absurd absent present
    · exact coherent.unset
    · exact fun calling => by cases calling
    · exact coherent.guarded
  | setsPromise top unset early =>
    have running : before.terminal.workflow = .running := placed.running top
    refine ⟨coherent.fresh, coherent.parked, coherent.called, ?_, fun _ _ => rfl,
      coherent.guarded⟩
    simp [running]
  | answers top unset waits =>
    have running : before.terminal.workflow = .running := placed.running top
    have started := coherent.started (by simp [waits])
    refine ⟨fun fresh => absurd fresh started, coherent.parked, coherent.called, ?_,
        fun _ _ => rfl, coherent.guarded⟩
    simp [running]
  | destroysGuard top guarded =>
    exact ⟨coherent.fresh, coherent.parked, coherent.called, coherent.unset,
      coherent.answered, fun stillGuarded => by cases stillGuarded⟩
  | endsWorkflow top unguarded set =>
    refine ⟨coherent.fresh, coherent.parked, fun present => absurd rfl present, ?_,
      coherent.answered, ?_⟩
    · simp
    · simp [unguarded]
  | starts may =>
    have absent := coherent.workflow_absent (by simp [may])
    constructor
    · exact fun fresh => by cases fresh
    · exact iff_of_false (by simp) (coherent.not_waiting (by simp [may]))
    · exact fun present => absurd absent present
    · exact coherent.unset
    · exact fun calling => by cases calling
    · exact coherent.guarded
  | @fulfils part waits elsewhere =>
    cases part with
    | terminal =>
      refine coherent.setCoroutine .enqueued rfl rfl ?_ ?_
      · exact coherent.started (ne_of_eq_of_ne waits (by decide))
      · intro calling _
        exact absurd ⟨rfl, calling⟩ elsewhere
    | workflow =>
      refine coherent.setWorkflow .enqueued rfl rfl ?_ (by decide) ?_
      · exact ne_of_eq_of_ne waits (by decide)
      · intro _
        exact coherent.unset (.inr waits)
  | @resumes part context free popped sameWaiting wasInert isInert alive =>
    cases part with
    | terminal =>
      refine coherent.setCoroutine .running rfl sameWaiting ?_ ?_
      · exact coherent.started alive
      · intro _ enqueued
        cases enqueued
    | workflow =>
      refine coherent.setWorkflow .running rfl sameWaiting alive ?_ ?_
      · decide
      · simp
  | promotes kept free position first full =>
    have parked := coherent.first_parked regular first
    have absent := coherent.workflow_absent (by simp [parked])
    constructor
    · exact fun fresh => by cases fresh
    · exact iff_of_false (by simp) (placed.promoted_once regular first)
    · exact fun present => absurd absent present
    · exact coherent.unset
    · exact fun calling => by cases calling
    · exact coherent.guarded

/-- The other terminals of a thread wait as before. -/
theorem CellEffect.waits_other (effect : CellEffect terminalID before after)
    {other : Fin config.terminalCount} (different : other ≠ terminalID) :
    ⟨other, .terminal⟩ ∈ after.context.inflightWaitingTasks ↔
      ⟨other, .terminal⟩ ∈ before.context.inflightWaitingTasks := by
  cases effect with
  | parks top may =>
    simp [different]
  | resumes free popped sameWaiting wasInert isInert alive =>
    rw [sameWaiting]
  | promotes kept free position first full =>
    simp [first, different]
  | _ =>
    exact Iff.rfl

end

/-! ### Every reachable state is orderly -/

/-- A terminal goes on as it was when its wait for a slot does. -/
theorem Cell.Coherent.congr {before after : Cell config} (coherent : before.Coherent terminalID)
    (terminal : after.terminal = before.terminal)
    (waits : ⟨terminalID, .terminal⟩ ∈ after.context.inflightWaitingTasks ↔
      ⟨terminalID, .terminal⟩ ∈ before.context.inflightWaitingTasks) :
    after.Coherent terminalID := by
  constructor <;> rw [terminal]
  · exact coherent.fresh
  · exact coherent.parked.trans waits.symm
  · exact coherent.called
  · exact coherent.unset
  · exact coherent.answered
  · exact coherent.guarded

theorem Orderly.put (orderly : Orderly s)
    (effect : CellEffect terminalID (s.cell terminalID) cell) :
    Orderly (s.put terminalID cell) := by
  have regular := orderly.regular (State.home terminalID)
  have coherent := orderly.coherent terminalID
  constructor
  · intro thread
    by_cases here : State.home terminalID = thread
    · subst here
      exact (effect.move coherent).sound (orderly.sound _)
    · rw [ledger_put_of_ne here]
      exact orderly.sound thread
  · intro thread
    by_cases here : State.home terminalID = thread
    · subst here
      simpa [State.put] using effect.regular regular
    · simpa [State.put, Ne.symm here] using orderly.regular thread
  · intro other
    by_cases same : other = terminalID
    · subst same
      have after := effect.coherent regular (orderly.placed other) coherent
      apply after.congr
      · simp [State.put, State.cell]
      · simp [State.put, State.cell]
    · apply (orderly.coherent other).congr
      · simp [State.put, State.cell, same]
      · by_cases here : State.home other = State.home terminalID
        · simpa [State.put, State.cell, here] using effect.waits_other same
        · simp [State.put, State.cell, here]

theorem Orderly.setContext (orderly : Orderly s) {running : Int}
    (effect : ThreadEffect config (s.contexts thread) s.runningInternalCount context running) :
    Orderly { s.setContext thread context with runningInternalCount := running } := by
  obtain ⟨fewer, sameFrames, sameWaiting⟩ := effect.keeps
  constructor
  · intro other
    by_cases here : other = thread
    · subst here
      have move : Move (s.ledger other) _ := .keeps fewer
      have sound := move.sound (orderly.sound other)
      simpa [State.ledger, State.setContext, State.status, sameFrames] using sound
    · simpa [State.ledger, State.setContext, State.status, here] using orderly.sound other
  · intro other
    by_cases here : other = thread
    · subst here
      simpa [State.setContext] using effect.regular (orderly.regular other)
    · simpa [State.setContext, here] using orderly.regular other
  · intro terminalID
    apply (orderly.coherent terminalID).congr
    · rfl
    · by_cases here : State.home terminalID = thread
      · simp [State.cell, State.setContext, here, sameWaiting]
      · simp [State.cell, State.setContext, here]

/-- An effect keeps a state orderly. -/
theorem Orderly.effect (orderly : Orderly s) {next : State config} (effect : Effect s next) :
    Orderly next := by
  cases effect with
  | cell terminalID effect =>
    exact orderly.put effect
  | thread thread effect =>
    exact orderly.setContext effect
  | stops =>
    exact ⟨orderly.sound, orderly.regular, orderly.coherent⟩
  | stutters =>
    exact orderly

theorem Orderly.handleQueueFull (orderly : Orderly s) : Orderly s.handleQueueFull :=
  ⟨orderly.sound, orderly.regular, orderly.coherent⟩

theorem orderly_initial : Orderly (initial : State config) where
  sound thread := by
    constructor <;> intro handle <;> by_cases here : State.home handle.terminalID = thread <;>
      cases part : handle.part <;> simp [State.ledger, State.status, Terminal.status, initial, here,
      part, Context.queued, Position.tasks]
  regular thread := by
    constructor
    · exact .inl rfl
    · simp [initial]
    · intro promoting
      cases promoting
  coherent terminalID := by
    constructor <;> simp [initial, State.cell]

/-- The step lemma. -/
theorem Orderly.step (orderly : Orderly s) {action : Action config} {next : State config}
    (stepped : Scheduler.step s action = some next) : Orderly next := by
  rcases hasEffect_step orderly.affine orderly.promotable stepped with effect | ⟨rfl, _⟩
  · exact orderly.effect effect
  · exact orderly.handleQueueFull

/-- Every state of a run is orderly. -/
theorem orderly_of_reached (reached : Reached s) : Orderly s := by
  induction reached with
  | initial =>
    exact orderly_initial
  | step reached stepped ih =>
    exact ih.step stepped

end

end Scheduler

end PortableTpcc
