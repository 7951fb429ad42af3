import PortableTpcc.SchedulerLedger
import Mathlib.Algebra.BigOperators.Fin

namespace PortableTpcc

namespace Scheduler

/-!
# Inflight slots

A slot is taken by an increment that may go beyond the limit and is then undone.
The counter is the number of slots held and of increments to be undone; a slot
is held by a terminal after `IncInflight` and before `DecInflight`, or by a
thread for the waiter that it is about to promote.
-/

variable {config : Config}

/-- The terminal holds a slot. -/
def Stage.holds : Stage → Bool
  | .granted => true
  | .business => true
  | .workflow => true
  | _ => false

/-- The terminal's increment is to be undone. -/
def Stage.overIncremented : Stage → Bool
  | .undoing => true
  | _ => false

/-- The thread holds a slot for the waiter that it promotes next. -/
def Position.holds : Position config → Bool
  | .inflightPromote => true
  | _ => false

def Position.overIncremented : Position config → Bool
  | .inflightUndo => true
  | _ => false

/-- The slots that are held. -/
def State.holders (s : State config) : Nat :=
  ∑ terminalID, (s.terminals terminalID).stage.holds.toNat +
    ∑ thread, (s.contexts thread).position.holds.toNat

/-- The increments beyond the limit that are not yet undone. -/
def State.overIncrements (s : State config) : Nat :=
  ∑ terminalID, (s.terminals terminalID).stage.overIncremented.toNat +
    ∑ thread, (s.contexts thread).position.overIncremented.toNat

/-- The accounts of the slots and of the waiters. -/
structure Accounted (s : State config) : Prop where
  counted : s.runningInternalCount = s.holders + s.overIncrements
  capped : config.maxRunningInternal ≠ 0 → s.holders ≤ config.maxRunningInternal
  balanced :
    ∀ terminalID, s.parkings terminalID =
      s.promotions terminalID +
        if (s.terminals terminalID).stage = .parked then 1 else 0

theorem sum_update {ι α : Type} [Fintype ι] [DecidableEq ι] (weight : α → Nat) (f : ι → α) (i : ι)
    (changed : α) :
    ∑ x, weight (Function.update f i changed x) + weight (f i) =
      ∑ x, weight (f x) + weight changed := by
  have after := Finset.sum_update_of_mem (Finset.mem_univ i) (weight ∘ f) (weight changed)
  have before := Finset.sum_eq_add_sum_sdiff_singleton_of_mem (Finset.mem_univ i) (weight ∘ f)
  rw [← Function.comp_update] at after
  simp only [Function.comp_apply] at before after
  omega

section

variable {terminalID : Fin config.terminalCount}

def Cell.holds (cell : Cell config) : Nat :=
  cell.terminal.stage.holds.toNat + cell.context.position.holds.toNat

def Cell.overIncrements (cell : Cell config) : Nat :=
  cell.terminal.stage.overIncremented.toNat + cell.context.position.overIncremented.toNat

/-- The slots and the counter change together, and a slot is taken below the limit. -/
structure Adjusts (config : Config) (running next : Int)
    (holds excess nextHolds nextOver : Nat) : Prop where
  counted : next + holds + excess = running + nextHolds + nextOver
  capped : nextHolds ≤ holds ∨ nextHolds = holds + 1 ∧
    (config.maxRunningInternal = 0 ∨ running < config.maxRunningInternal)

variable {running : Int}

theorem StageChange.adjusts {promiseSet : Bool} {next : Int} {stage changed : Stage}
    (change : StageChange config promiseSet running stage next changed) :
    Adjusts config running next stage.holds.toNat stage.overIncremented.toNat
      changed.holds.toNat changed.overIncremented.toNat := by
  cases change with
  | takes room =>
    exact ⟨by simp [Stage.holds, Stage.overIncremented], .inr ⟨rfl, room⟩⟩
  | _ =>
    exact ⟨by simp [Stage.holds, Stage.overIncremented], .inl (by decide)⟩

theorem Adjusts.refl {holds excess : Nat} :
    Adjusts config running running holds excess holds excess :=
  ⟨rfl, .inl le_rfl⟩

@[simp]
theorem stage_setStatus (terminal : Terminal) (status : CoroutineLedger.Status) (part : Part) :
    (terminal.setStatus status part).stage = terminal.stage := by
  cases part <;> rfl

theorem Position.inert_adjusts {position : Position config} (inert : position.inert = true) :
    position.holds = false ∧ position.overIncremented = false := by
  cases position <;> simp_all [Position.inert, Position.holds, Position.overIncremented]

/-- A step of a terminal accounts for its slot. -/
theorem CellEffect.adjusts {before after : Cell config}
    (effect : CellEffect terminalID before after) (regular : before.context.Regular)
    (coherent : before.Coherent terminalID) :
    Adjusts config before.running after.running before.holds
      before.overIncrements after.holds after.overIncrements := by
  cases effect with
  | changesStage top change =>
    obtain ⟨counted, capped⟩ := change.adjusts
    constructor
    · simp only [Cell.holds, Cell.overIncrements]
      push_cast
      omega
    · simp only [Cell.holds]
      omega
  | sleeps deadline top may =>
    exact .refl
  | calledBack top may =>
    simpa [Cell.holds, Cell.overIncrements] using Adjusts.refl
  | subscribes top may =>
    simpa [Cell.holds, Cell.overIncrements] using Adjusts.refl
  | parks top may =>
    simpa [Cell.holds, Cell.overIncrements, may, Stage.holds,
      Stage.overIncremented] using Adjusts.refl
  | calls top may =>
    simpa [Cell.holds, Cell.overIncrements, may, Stage.holds,
      Stage.overIncremented] using Adjusts.refl
  | ends top may =>
    simpa [Cell.holds, Cell.overIncrements, may, Stage.holds,
      Stage.overIncremented] using Adjusts.refl
  | setsPromise top unset early =>
    exact .refl
  | answers top unset waits =>
    exact .refl
  | destroysGuard top guarded =>
    exact .refl
  | endsWorkflow top unguarded set =>
    exact .refl
  | starts may =>
    simpa [Cell.holds, Cell.overIncrements, may, Stage.holds,
      Stage.overIncremented] using Adjusts.refl
  | fulfils waits elsewhere =>
    simpa [Cell.holds, Cell.overIncrements] using Adjusts.refl
  | resumes free popped sameWaiting wasInert isInert alive =>
    simpa [Cell.holds, Cell.overIncrements, Position.inert_adjusts wasInert,
      Position.inert_adjusts isInert] using Adjusts.refl
  | promotes kept free position first full =>
    -- The slot passes from the thread to the terminal, which waited.
    have parked := coherent.first_parked regular first
    simpa [Cell.holds, Cell.overIncrements, parked, position, Stage.holds,
      Stage.overIncremented, Position.holds, Position.overIncremented] using Adjusts.refl

/-- So does a step of a thread. -/
theorem ThreadEffect.adjusts {before after : Context config} {next : Int}
    (effect : ThreadEffect config before running after next) :
    Adjusts config running next before.position.holds.toNat
      before.position.overIncremented.toNat after.position.holds.toNat
      after.position.overIncremented.toNat := by
  cases effect with
  | shuffles free stillFree fewer sameWaiting wasInert isInert =>
    simpa [Position.inert_adjusts wasInert, Position.inert_adjusts isInert] using Adjusts.refl
  | checks free position limited waits =>
    simpa [position, Position.holds, Position.overIncremented] using Adjusts.refl
  | overruns free position =>
    exact ⟨by simp [position, Position.holds, Position.overIncremented],
      .inl (by simp [position, Position.holds])⟩
  | takes free position room =>
    exact ⟨by simp [position, Position.holds, Position.overIncremented],
      .inr ⟨by simp [position, Position.holds], .inr room⟩⟩
  | undoes free position =>
    exact ⟨by simp [position, Position.holds, Position.overIncremented],
      .inl (by simp [position, Position.holds])⟩

end

section

variable {s : State config} {terminalID : Fin config.terminalCount}

/-- What one step adjusts keeps the accounts of the slots. -/
theorem Accounted.adjust (accounted : Accounted s) (next : State config)
    {holds excess nextHolds nextOver : Nat}
    (adjusts : Adjusts config s.runningInternalCount next.runningInternalCount holds excess
      nextHolds nextOver) (holders : next.holders + holds = s.holders + nextHolds)
    (overIncrements : next.overIncrements + excess = s.overIncrements + nextOver) :
    next.runningInternalCount = next.holders + next.overIncrements ∧
      (config.maxRunningInternal ≠ 0 → next.holders ≤ config.maxRunningInternal) := by
  obtain ⟨counted, capped⟩ := adjusts
  have before := accounted.counted
  constructor
  · omega
  · intro limited
    have bound := accounted.capped limited
    omega

theorem CellEffect.balanced {before after : Cell config}
    (effect : CellEffect terminalID before after) (regular : before.context.Regular)
    (coherent : before.Coherent terminalID)
    (balanced :
      before.parkings = before.promotions + if before.terminal.stage = .parked then 1 else 0) :
    after.parkings = after.promotions + if after.terminal.stage = .parked then 1 else 0 := by
  cases effect with
  | changesStage top change =>
    obtain ⟨wasNot, isNot, _⟩ := change.ne_parked
    simpa [wasNot, isNot] using balanced
  | promotes kept free position first full =>
    simpa [coherent.first_parked regular first] using balanced
  | parks top may =>
    simpa [may] using balanced
  | calls top may =>
    simpa [may] using balanced
  | ends top may =>
    simpa [may] using balanced
  | starts may =>
    simpa [may] using balanced
  | _ =>
    simpa using balanced

theorem Accounted.put (accounted : Accounted s) (orderly : Orderly s) {cell : Cell config}
    (effect : CellEffect terminalID (s.cell terminalID) cell) :
    Accounted (s.put terminalID cell) := by
  have regular := orderly.regular (State.home terminalID)
  have coherent := orderly.coherent terminalID
  have adjusts := effect.adjusts regular coherent
  have holders : (s.put terminalID cell).holders + (s.cell terminalID).holds =
      s.holders + cell.holds := by
    have stages :=
      sum_update (fun terminal : Terminal => terminal.stage.holds.toNat)
        s.terminals terminalID cell.terminal
    have positions :=
      sum_update (fun context : Context config => context.position.holds.toNat)
        s.contexts (State.home terminalID) cell.context
    simp only [State.holders, Cell.holds, State.put, State.cell]
    omega
  have overIncrements : (s.put terminalID cell).overIncrements +
      (s.cell terminalID).overIncrements = s.overIncrements + cell.overIncrements := by
    have stages :=
      sum_update (fun terminal : Terminal => terminal.stage.overIncremented.toNat)
        s.terminals terminalID cell.terminal
    have positions :=
      sum_update (fun context : Context config =>
          context.position.overIncremented.toNat)
        s.contexts (State.home terminalID) cell.context
    simp only [State.overIncrements, Cell.overIncrements, State.put, State.cell]
    omega
  obtain ⟨counted, capped⟩ :=
    accounted.adjust (s.put terminalID cell) adjusts holders overIncrements
  refine ⟨counted, capped, ?_⟩
  intro other
  by_cases same : other = terminalID
  · subst same
    have balanced := effect.balanced regular coherent (accounted.balanced other)
    simpa [State.put] using balanced
  · simpa [State.put, same] using accounted.balanced other

theorem Accounted.setContext (accounted : Accounted s) {thread : Fin config.threadCount}
    {context : Context config} {running : Int}
    (effect : ThreadEffect config (s.contexts thread) s.runningInternalCount context running) :
    Accounted { s.setContext thread context with runningInternalCount := running } := by
  have holders :=
    sum_update (fun context : Context config => context.position.holds.toNat)
      s.contexts thread context
  have overIncrements :=
    sum_update (fun context : Context config => context.position.overIncremented.toNat)
      s.contexts thread context
  have adjusted :=
    accounted.adjust
      { s.setContext thread context with runningInternalCount := running }
      effect.adjusts
      (by simp only [State.holders, State.setContext]; omega)
      (by simp only [State.overIncrements, State.setContext]; omega)
  exact ⟨adjusted.1, adjusted.2, accounted.balanced⟩

/-- A step keeps the account. -/
theorem Accounted.effect (accounted : Accounted s) (orderly : Orderly s) {next : State config}
    (effect : Effect s next) : Accounted next := by
  cases effect with
  | cell terminalID effect =>
    exact accounted.put orderly effect
  | thread thread effect =>
    exact accounted.setContext effect
  | stops =>
    exact ⟨accounted.counted, accounted.capped, accounted.balanced⟩
  | stutters =>
    exact accounted

theorem accounted_initial : Accounted (initial : State config) where
  counted := by
    simp [initial, State.holders, State.overIncrements, Stage.holds,
      Stage.overIncremented, Position.holds, Position.overIncremented]
  capped _ := by
    simp [initial, State.holders, Stage.holds, Position.holds]
  balanced terminalID := by
    simp [initial]

/-- The account of the slots holds in every run. -/
theorem accounted_of_reached (reached : Reached s) : Accounted s := by
  induction reached with
  | initial =>
    exact accounted_initial
  | step reached stepped ih =>
    have orderly := orderly_of_reached reached
    rcases hasEffect_step orderly.affine orderly.promotable stepped with effect | ⟨rfl, _⟩
    · exact ih.effect orderly effect
    · exact ⟨ih.counted, ih.capped,
        ih.balanced⟩

/--
In every interleaving no more slots are held than the limit allows, the counter
is the number of slots held and of increments to be undone, and a task is
promoted once for each time it was parked, or not yet.
-/
theorem inflightSlots_bounded (reached : Reached s) :
    (config.maxRunningInternal ≠ 0 → s.holders ≤ config.maxRunningInternal) ∧
      s.runningInternalCount = s.holders + s.overIncrements ∧ 0 ≤ s.runningInternalCount ∧
      ∀ terminalID, s.parkings terminalID = s.promotions terminalID +
          if (s.terminals terminalID).stage = .parked then 1 else 0 := by
  obtain ⟨counted, capped, balanced⟩ := accounted_of_reached reached
  refine ⟨capped, counted, ?_, balanced⟩
  rw [counted]
  omega

/-- One terminal sleeps with the slot, and the other increments the counter. -/
def secondOverruns : List (Action twoTerminals) :=
  let thread : Fin 1 := ⟨0, Nat.one_pos⟩
  let first : Fin 2 := ⟨0, Nat.two_pos⟩
  let second : Fin 2 := ⟨1, Nat.one_lt_two⟩
  [.start first, .start second, .advance thread true, .advance thread true,
    .terminal thread .clear, .terminal thread .incInflight,
    .terminal thread .enter, .terminal thread (.sleep 5), .advance thread true,
    .terminal thread .clear, .terminal thread .incInflight]

/-- The counter is above the limit for a moment, and one terminal holds a slot. -/
theorem secondTerminal_overruns :
    ∃ s : State twoTerminals, steps initial secondOverruns = some s ∧ s.overIncrements = 1 ∧
      (s.holders ≤ 1 ∧ s.runningInternalCount = s.holders + s.overIncrements) := by
  have ends : (steps initial secondOverruns).map State.overIncrements = some 1 := by
    decide +kernel
  obtain ⟨s, taken, excess⟩ := Option.map_eq_some_iff.mp ends
  obtain ⟨capped, counted, _⟩ := inflightSlots_bounded (reached_steps .initial taken)
  exact ⟨s, taken, excess, capped (by decide), counted⟩

end

end Scheduler

end PortableTpcc
