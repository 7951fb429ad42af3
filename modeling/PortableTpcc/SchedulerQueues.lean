import PortableTpcc.SchedulerLedger
import Mathlib.Algebra.BigOperators.Fin

namespace PortableTpcc

namespace Scheduler

/-!
# The queues of the scheduler do not overflow

A terminal and its workflow are never queued together: a workflow that is to be
resumed has no result yet, and its caller is queued only when it has.  So a
terminal has one handle at most in the queues of its thread, and queues with
room for all terminals are never full.
-/

variable {config : Config}

/-- The handles of a terminal in the queues of all threads. -/
def State.handles (s : State config) (terminalID : Fin config.terminalCount) : Nat :=
  ∑ thread, (s.contexts thread).queued.countP fun handle => handle.terminalID = terminalID

section

variable {s : State config} {thread : Fin config.threadCount}

/-- The handles of a terminal are those of its two coroutines. -/
theorem countP_terminalID (handles : Multiset (Handle config))
    (terminalID : Fin config.terminalCount) :
    handles.countP (fun handle => handle.terminalID = terminalID) =
      handles.count ⟨terminalID, .terminal⟩ + handles.count ⟨terminalID, .workflow⟩ := by
  induction handles using Multiset.induction with
  | empty =>
    simp
  | cons handle handles ih =>
    obtain ⟨otherID, part⟩ := handle
    by_cases same : otherID = terminalID
    · subst same
      cases part with
      | terminal =>
        simp [ih]
        omega
      | workflow =>
        simp [ih]
        omega
    · simp [same, Ne.symm same, ih]

/-- A terminal and its workflow do not wait in queues together. -/
theorem Cell.Coherent.not_both_enqueued {cell : Cell config}
    {terminalID : Fin config.terminalCount} (coherent : cell.Coherent terminalID)
    (coroutine : cell.terminal.coroutine = .enqueued) : cell.terminal.workflow ≠ .enqueued := by
  intro workflow
  have calling := coherent.called (by simp [workflow])
  have set := coherent.answered calling coroutine
  simp [coherent.unset (.inl workflow)] at set

theorem Orderly.countP_le_one (orderly : Orderly s) (thread : Fin config.threadCount)
    (terminalID : Fin config.terminalCount) :
    (s.contexts thread).queued.countP (fun handle => handle.terminalID = terminalID) ≤ 1 := by
  rw [countP_terminalID]
  have terminalOnce := (orderly.sound thread).queued_le_one ⟨terminalID, .terminal⟩
  have workflowOnce := (orderly.sound thread).queued_le_one ⟨terminalID, .workflow⟩
  simp only [State.ledger] at terminalOnce workflowOnce
  by_contra both
  have terminal : ⟨terminalID, .terminal⟩ ∈ (s.contexts thread).queued :=
    Multiset.count_pos.mp (by omega)
  have workflow : ⟨terminalID, .workflow⟩ ∈ (s.contexts thread).queued :=
    Multiset.count_pos.mp (by omega)
  exact (orderly.coherent terminalID).not_both_enqueued (orderly.enqueued terminal)
    (orderly.enqueued workflow)

/-- The handles of a terminal are all with the thread it hints at. -/
theorem Orderly.handles_le_one (orderly : Orderly s) (terminalID : Fin config.terminalCount) :
    s.handles terminalID ≤ 1 := by
  have elsewhere : ∀ thread ∈ Finset.univ, thread ≠ State.home terminalID →
      (s.contexts thread).queued.countP (fun handle => handle.terminalID = terminalID) = 0 := by
    intro thread _ different
    rw [Multiset.countP_eq_zero]
    intro handle isIn same
    exact different (same ▸ (orderly.home_of_queued isIn).symm)
  unfold State.handles
  rw [Finset.sum_eq_single (State.home terminalID) elsewhere (by simp)]
  exact orderly.countP_le_one _ _

section

variable (context : Context config)

theorem Context.internal_le_queued :
    (context.readyTasksInternal : Multiset (Handle config)) ≤ context.queued := by
  rw [Multiset.le_iff_count]
  intro handle
  simp only [Context.queued, Multiset.count_add]
  omega

theorem Context.waiting_le_queued :
    (context.inflightWaitingTasks : Multiset (Handle config)) ≤ context.queued := by
  rw [Multiset.le_iff_count]
  intro handle
  simp only [Context.queued, Multiset.count_add]
  omega

theorem Context.external_le_queued :
    (context.readyTasksExternal : Multiset (Handle config)) ≤ context.queued := by
  rw [Multiset.le_iff_count]
  intro handle
  simp only [Context.queued, Multiset.count_add]
  omega

variable {context}

/-- A waiter is not among the tasks that are ready. -/
theorem Context.promoted_le_queued {handle : Handle config}
    (waits : handle ∈ context.inflightWaitingTasks) :
    ((context.readyTasksInternal ++ [handle] : List (Handle config)) : Multiset (Handle config)) ≤
      context.queued := by
  have one : ([handle] : Multiset (Handle config)) ≤ context.inflightWaitingTasks :=
    Multiset.singleton_le.mpr waits
  rw [← Multiset.coe_add, Multiset.le_iff_count]
  intro other
  have fewer := Multiset.count_le_of_le other one
  simp only [Context.queued, Multiset.count_add]
  omega

end

/-- Queued handles belong to different terminals, so there are not more of them. -/
theorem Orderly.length_le (orderly : Orderly s) {handles : List (Handle config)}
    (queued : (handles : Multiset (Handle config)) ≤ (s.contexts thread).queued) :
    handles.length ≤ config.terminalCount := by
  have different : (handles.map Handle.terminalID).Nodup := by
    rw [List.nodup_iff_count_le_one]
    intro terminalID
    rw [List.count_eq_countP, List.countP_map]
    have once := orderly.countP_le_one thread terminalID
    have fewer :=
      Multiset.countP_le_of_le (fun handle : Handle config => handle.terminalID = terminalID) queued
    rw [Multiset.coe_countP] at fewer
    apply le_trans _ (fewer.trans once)
    apply le_of_eq
    congr 1
  have bound := different.length_le_card
  rwa [List.length_map, Fintype.card_fin] at bound

end

theorem le_ringCapacity (capacity : Nat) : capacity ≤ ringCapacity capacity := by
  unfold ringCapacity
  split
  · omega
  · exact Nat.le_pow_clog Nat.one_lt_two capacity

section

-- The runner sizes the queues for all terminals.
variable (internal : config.maxReadyInternal = config.terminalCount)
variable (external : config.maxReadyExternal = config.terminalCount)
variable {s : State config}

include internal external in
theorem Orderly.not_overfull (orderly : Orderly s) : ¬s.Overfull := by
  have internalRoom := le_ringCapacity config.maxReadyInternal
  have externalRoom := le_ringCapacity config.maxReadyExternal
  rintro ⟨thread, ready | waiting | taken⟩
  · have bound := orderly.length_le (s.contexts thread).internal_le_queued
    omega
  · have bound := orderly.length_le (s.contexts thread).waiting_le_queued
    omega
  · have bound := orderly.length_le (s.contexts thread).external_le_queued
    omega

/-- No queue was found full. -/
structure Roomy (s : State config) : Prop where
  queueFull : s.queueFull = false
  dropped : s.dropped = false

include internal in
/-- A promoted waiter finds room. -/
theorem Roomy.effect (roomy : Roomy s) (orderly : Orderly s) {next : State config}
    (effect : Effect s next) : Roomy next := by
  cases effect with
  | cell terminalID effect =>
    refine ⟨roomy.queueFull, ?_⟩
    cases effect with
    | promotes kept free position first full =>
      cases kept with
      | true =>
        simpa [State.put, State.cell] using roomy.dropped
      | false =>
        have room := le_ringCapacity config.maxReadyInternal
        have full := full rfl
        have bound := orderly.length_le (Context.promoted_le_queued (first ▸ List.mem_cons_self))
        rw [List.length_append, List.length_singleton] at bound
        simp only [State.cell] at full
        omega
    | _ =>
      exact roomy.dropped
  | thread thread effect =>
    exact ⟨roomy.queueFull, roomy.dropped⟩
  | stops =>
    exact ⟨roomy.queueFull, roomy.dropped⟩
  | stutters =>
    exact roomy

include internal external in
theorem roomy_of_reached (reached : Reached s) : Roomy s := by
  induction reached with
  | initial =>
    exact ⟨rfl, rfl⟩
  | step reached stepped ih =>
    have orderly := orderly_of_reached reached
    rcases hasEffect_step orderly.affine orderly.promotable stepped with
      effect | ⟨_, would, effect, overfull⟩
    · exact ih.effect internal orderly effect
    · -- The push that was refused would have left an orderly state.
      have after := orderly.effect effect
      exact absurd overfull (after.not_overfull internal external)

include internal external in
/--
With queues for all terminals no push finds its queue full, no promoted waiter
is dropped, and a terminal has one handle at most in the queues.
-/
theorem queues_neverFull (reached : Reached s) :
    s.queueFull = false ∧ s.dropped = false ∧ ∀ terminalID, s.handles terminalID ≤ 1 := by
  have roomy := roomy_of_reached internal external reached
  have orderly := orderly_of_reached reached
  exact ⟨roomy.queueFull, roomy.dropped, orderly.handles_le_one⟩

end

/-- One terminal sleeps with the slot, and the other is parked. -/
def secondParks : List (Action twoTerminals) :=
  let thread : Fin 1 := 0
  let first : Fin 2 := 0
  let second : Fin 2 := 1
  [.start first, .start second, .advance thread true, .advance thread true,
    .terminal thread .clear, .terminal thread .incInflight,
    .terminal thread .enter, .terminal thread (.sleep 5), .advance thread true,
    .terminal thread .clear, .terminal thread .incInflight,
    .terminal thread .undoIncrement, .terminal thread .park]

/-- A terminal is parked because the other one has the slot. -/
theorem parkedTerminal_hasRoom :
    ∃ s : State twoTerminals, steps initial secondParks = some s ∧
      (s.queueFull = false ∧ s.dropped = false ∧ ∀ terminalID, s.handles terminalID ≤ 1) := by
  have ends : (steps initial secondParks).isSome = true := by
    decide +kernel
  obtain ⟨s, taken⟩ := Option.isSome_iff_exists.mp ends
  exact ⟨s, taken, queues_neverFull rfl rfl (reached_steps .initial taken)⟩

/--
In every interleaving a coroutine that runs has one frame on one thread and no
handle in a queue of any thread, so none is resumed while it runs.
-/
theorem running_exclusive {s : State config} (reached : Reached s)
    {thread : Fin config.threadCount} {handle : Handle config}
    (runs : handle ∈ (s.contexts thread).frames) :
    (s.contexts thread).frames.count handle = 1 ∧
      (∀ other, handle ∈ (s.contexts other).frames → other = thread) ∧
      ∀ other, handle ∉ (s.contexts other).queued := by
  have orderly := orderly_of_reached reached
  have home := orderly.home_of_framed runs
  have sound := orderly.sound thread
  refine ⟨?_, fun other isIn => (orderly.home_of_framed isIn).symm.trans home, fun other isIn => ?_⟩
  · have once := sound.framedOnce handle
    rw [if_pos (sound.running_of_mem runs)] at once
    exact (Multiset.coe_count _ _).symm.trans once
  · cases (orderly.running runs).symm.trans (orderly.enqueued isIn)

/-- The first terminal while it runs. -/
theorem firstTerminal_exclusive :
    let first : Fin 2 := 0
    let thread : Fin 1 := 0
    let handle : Handle twoTerminals := ⟨first, .terminal⟩
    ∃ s : State twoTerminals, steps initial (secondParks.take 4) = some s ∧
      handle ∈ (s.contexts thread).frames ∧ ∀ other, handle ∉ (s.contexts other).queued := by
  intro first thread handle
  have ends : ((steps initial (secondParks.take 4)).map fun s =>
      decide (handle ∈ (s.contexts thread).frames)) = some true := by
    decide +kernel
  obtain ⟨s, taken, runs⟩ := Option.map_eq_some_iff.mp ends
  have isIn := of_decide_eq_true runs
  exact ⟨s, taken, isIn, (running_exclusive (reached_steps .initial taken) isIn).2.2⟩

end Scheduler

end PortableTpcc
