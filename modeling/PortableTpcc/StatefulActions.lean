import PortableTpcc.InteractionPrograms

namespace PortableTpcc

/-!
# Actions with state and exceptions

An adapter is written as actions: they issue commands, keep a state between
calls and may throw.  `Acts` is the complete run of an action, from a pair of
its own state and the state of its surroundings.  The lemmas below say what a
run of each construct can be, so that a proof about an action follows its
text and never unfolds the monads.
-/

/-- A computation over an interface with a state and exceptions. -/
abbrev Action (face : Interface) (τ ε : Type) : Type → Type :=
  ExceptT ε (StateT τ (Prog face))

namespace Action

variable {face : Interface} {τ υ ε δ α β : Type}

/-- The program of an action that starts in a given state. -/
def start (action : Action face τ ε α) (state : τ) : Prog face (Except ε α × τ) :=
  action.run.run state

/-- Issue one command. -/
def ask (command : face.Command) : Action face τ ε (face.Reply command) :=
  ExceptT.mk fun state => .call command fun reply => .done (.ok reply, state)

/-- Rethrow the exception of a failed call. -/
def orThrow (reply : Except ε α) : Action face τ ε α :=
  ExceptT.mk fun state => .done (reply, state)

/-- Catch every exception and return it as a value. -/
def attempt (action : Action face τ ε α) : Action face τ δ (Except ε α) :=
  ExceptT.mk fun state => action.start state >>= fun answer => .done (.ok answer.1, answer.2)

/-- Go on after a value or an exception. -/
def handle (returned : α → Action face τ ε β) (thrown : δ → Action face τ ε β) :
    Except δ α → Action face τ ε β
  | .ok value => returned value
  | .error exception => thrown exception

/-- Run an action on a part of a larger state. -/
def zoom (part : υ → τ) (replace : υ → τ → υ) (action : Action face τ ε α) : Action face υ ε α :=
  ExceptT.mk fun whole =>
    action.start (part whole) >>= fun answer => .done (answer.1, replace whole answer.2)

end Action

/-- A complete run of an action against its surroundings. -/
def Acts {face : Interface} {σ τ ε α : Type} (answers : Answers face σ)
    (action : Action face τ ε α) (before : τ × σ) (result : Except ε α) (after : τ × σ) : Prop :=
  Runs answers (action.start before.1) before.2 (result, after.1) after.2

section

variable {face : Interface} {σ τ υ ε δ α β : Type}
  {answers : Answers face σ} {before after : τ × σ}

variable {result : Except ε α}

theorem acts_done {action : Action face τ ε α} {value : Except ε α} {state : τ}
    (unfolded : action.start before.1 = .done (value, state)) :
    Acts answers action before result after ↔ result = value ∧ after = (state, before.2) := by
  simp only [Acts, unfolded, Runs.done_iff, Prod.ext_iff, and_assoc]

@[simp] theorem acts_pure {value : α} :
    Acts answers (pure value : Action face τ ε α) before result after ↔
      result = .ok value ∧ after = before :=
  acts_done rfl

@[simp] theorem acts_throw {exception : ε} :
    Acts answers (throw exception : Action face τ ε α) before result after ↔
      result = .error exception ∧ after = before :=
  acts_done rfl

@[simp] theorem acts_orThrow {reply : Except ε α} :
    Acts answers (Action.orThrow reply : Action face τ ε α) before result after ↔
      result = reply ∧ after = before :=
  acts_done rfl

@[simp] theorem acts_modify {change : τ → τ} {result : Except ε PUnit} :
    Acts answers (modify change : Action face τ ε PUnit) before result after ↔
      result = .ok ⟨⟩ ∧ after = (change before.1, before.2) :=
  acts_done rfl

/-- The second part acts on the state that the first has left. -/
theorem acts_continue {action : Action face τ ε β} {first : Action face τ δ α}
    {rest : Except δ α → Action face τ ε β} {result : Except ε β}
    (unfolded : action.start before.1 = (first.start before.1 >>= fun answer =>
      (rest answer.1).start answer.2)) : Acts answers action before result after ↔ ∃ value middle,
      Acts answers first before value middle ∧ Acts answers (rest value) middle result after := by
  simp only [Acts, unfolded, Runs.bind_iff, Prod.exists]

/-- A sequence runs through, or its first part throws. -/
theorem acts_bind {first : Action face τ ε α} {rest : α → Action face τ ε β} {result : Except ε β} :
    Acts answers (first >>= rest) before result after ↔ (∃ value middle,
      Acts answers first before (.ok value) middle ∧
      Acts answers (rest value) middle result after) ∨ ∃ exception,
      Acts answers first before (.error exception) after ∧ result = .error exception := by
  have unfolded : (first >>= rest).start before.1 = (first.start before.1 >>= fun answer =>
      (Action.handle rest throw answer.1).start answer.2) := by
    change (first.start before.1 >>= _) = _
    congr
  rw [acts_continue unfolded]
  constructor
  · rintro ⟨exception | value, middle, ran, later⟩
    · obtain ⟨rfl, rfl⟩ := acts_throw.mp later
      exact .inr ⟨exception, ran, rfl⟩
    · exact .inl ⟨value, middle, ran, later⟩
  · rintro (⟨value, middle, ran, later⟩ | ⟨exception, ran, rfl⟩)
    · exact ⟨.ok value, middle, ran, later⟩
    · exact ⟨.error exception, after, ran, acts_throw.mpr ⟨rfl, rfl⟩⟩

/-- A command followed by the rest of an action. -/
theorem acts_ask_bind {command : face.Command} {rest : face.Reply command → Action face τ ε β}
    {result : Except ε β} :
    Acts answers (Action.ask command >>= rest) before result after ↔ ∃ reply middle,
      answers before.2 command reply middle ∧
      Acts answers (rest reply) (before.1, middle) result after :=
  Runs.call_iff

@[simp] theorem acts_get_bind {rest : τ → Action face τ ε β} {result : Except ε β} :
    Acts answers (get >>= rest) before result after ↔
      Acts answers (rest before.1) before result after :=
  Iff.rfl

@[simp] theorem acts_modify_bind {change : τ → τ} {rest : PUnit → Action face τ ε β}
    {result : Except ε β} :
    Acts answers (modify change >>= rest) before result after ↔
      Acts answers (rest ⟨⟩) (change before.1, before.2) result after :=
  Iff.rfl

/-- A handler runs exactly when the guarded part throws. -/
theorem acts_tryCatch {guarded : Action face τ ε α} {handler : ε → Action face τ ε α} :
    Acts answers (tryCatch guarded handler) before result after ↔ (∃ value,
      Acts answers guarded before (.ok value) after ∧ result = .ok value) ∨ ∃ exception middle,
      Acts answers guarded before (.error exception) middle ∧
      Acts answers (handler exception) middle result after := by
  have unfolded : (tryCatch guarded handler : Action face τ ε α).start before.1 =
      (guarded.start before.1 >>= fun answer =>
        (Action.handle pure handler answer.1).start answer.2) := by
    change (guarded.start before.1 >>= _) = _
    congr
  rw [acts_continue unfolded]
  constructor
  · rintro ⟨exception | value, middle, ran, later⟩
    · exact .inr ⟨exception, middle, ran, later⟩
    · obtain ⟨rfl, rfl⟩ := acts_pure.mp later
      exact .inl ⟨value, ran, rfl⟩
  · rintro (⟨value, ran, rfl⟩ | ⟨exception, middle, ran, later⟩)
    · exact ⟨.ok value, after, ran, acts_pure.mpr ⟨rfl, rfl⟩⟩
    · exact ⟨.error exception, middle, ran, later⟩

variable {action : Action face τ ε α}

/-- An attempt never throws; it returns what its action did. -/
theorem acts_attempt {result : Except δ (Except ε α)} :
    Acts answers (action.attempt : Action face τ δ _) before result after ↔ ∃ value,
      Acts answers action before value after ∧ result = .ok value := by
  have unfolded : (action.attempt : Action face τ δ _).start before.1 =
      (action.start before.1 >>= fun answer =>
        (pure answer.1 : Action face τ δ _).start answer.2) := rfl
  rw [acts_continue unfolded]
  constructor
  · rintro ⟨value, middle, ran, returned⟩
    obtain ⟨rfl, rfl⟩ := acts_pure.mp returned
    exact ⟨value, ran, rfl⟩
  · rintro ⟨value, ran, rfl⟩
    exact ⟨value, after, ran, acts_pure.mpr ⟨rfl, rfl⟩⟩

/-- What an attempt did decides how the rest goes on. -/
theorem acts_attempt_bind {rest : Except ε α → Action face τ δ β} {result : Except δ β} :
    Acts answers (action.attempt >>= rest) before result after ↔ ∃ value middle,
      Acts answers action before value middle ∧ Acts answers (rest value) middle result after := by
  rw [acts_bind]
  constructor
  · rintro (⟨value, middle, attempted, later⟩ | ⟨exception, attempted, _⟩)
    · obtain ⟨_, ran, ⟨⟩⟩ := acts_attempt.mp attempted
      exact ⟨value, middle, ran, later⟩
    · obtain ⟨_, _, ⟨⟩⟩ := acts_attempt.mp attempted
  · rintro ⟨value, middle, ran, later⟩
    exact .inl ⟨value, middle, acts_attempt.mpr ⟨value, ran, rfl⟩, later⟩

/-- An action on a part leaves the rest of the state to its replacement. -/
theorem acts_zoom {part : υ → τ} {replace : υ → τ → υ} {whole : υ × σ} {final : υ × σ} :
    Acts answers (action.zoom part replace) whole result final ↔ ∃ state,
      Acts answers action (part whole.1, whole.2) result (state, final.2) ∧
      final.1 = replace whole.1 state := by
  have unfolded : (action.zoom part replace).start whole.1 =
      (action.start (part whole.1) >>= fun answer =>
          .done (answer.1, replace whole.1 answer.2)) := rfl
  simp only [Acts, unfolded, Runs.bind_iff, Runs.done_iff, Prod.ext_iff]
  constructor
  · rintro ⟨answer, middle, ran, ⟨rfl, same⟩, rfl⟩
    exact ⟨answer.2, ran, same⟩
  · rintro ⟨state, ran, same⟩
    exact ⟨(result, state), final.2, ran, ⟨rfl, same⟩, rfl⟩

end

/-! ## Preconditions and postconditions -/

/-- From a state with the precondition, a run ends in the postcondition. -/
def Ensures {face : Interface} {σ τ ε α : Type} (answers : Answers face σ) (Before : τ × σ → Prop)
    (action : Action face τ ε α) (After : Except ε α → τ × σ → Prop) : Prop :=
  ∀ ⦃before result after⦄, Before before → Acts answers action before result after →
    After result after

namespace Ensures

variable {face : Interface} {σ τ υ ε δ α β : Type}
  {answers : Answers face σ} {Before : τ × σ → Prop}

variable {After : Except ε α → τ × σ → Prop}

theorem pure {value : α} (holds : ∀ ⦃state⦄, Before state → After (.ok value) state) :
    Ensures answers Before (Pure.pure value) After := by
  intro before result after initially acts
  obtain ⟨rfl, rfl⟩ := acts_pure.mp acts
  exact holds initially

theorem throw {exception : ε} (holds : ∀ ⦃state⦄, Before state → After (.error exception) state) :
    Ensures answers Before (MonadExcept.throw exception) After := by
  intro before result after initially acts
  obtain ⟨rfl, rfl⟩ := acts_throw.mp acts
  exact holds initially

theorem orThrow {reply : Except ε α} (holds : ∀ ⦃state⦄, Before state → After reply state) :
    Ensures answers Before (Action.orThrow reply) After := by
  intro before result after initially acts
  obtain ⟨rfl, rfl⟩ := acts_orThrow.mp acts
  exact holds initially

/-- The rule for a change of the own state. -/
theorem modify_bind {change : τ → τ} {rest : PUnit → Action face τ ε β}
    {After : Except ε β → τ × σ → Prop} (Between : τ × σ → Prop)
    (changed : ∀ ⦃state⦄, Before state → Between (change state.1, state.2))
    (tail : Ensures answers Between (rest ⟨⟩) After) :
    Ensures answers Before (modify change >>= rest) After := by
  intro before result after initially acts
  exact tail (changed initially) (acts_modify_bind.mp acts)

theorem modify {change : τ → τ} {After : Except ε PUnit → τ × σ → Prop}
    (holds : ∀ ⦃state⦄, Before state → After (.ok ⟨⟩) (change state.1, state.2)) :
    Ensures answers Before (modify change) After := by
  intro before result after initially acts
  obtain ⟨rfl, rfl⟩ := acts_modify.mp acts
  exact holds initially

/-- The rule for a look at the own state. -/
theorem get_bind {rest : τ → Action face τ ε β} {After : Except ε β → τ × σ → Prop}
    (tail : ∀ own, Ensures answers (fun state => Before state ∧ state.1 = own) (rest own) After) :
    Ensures answers Before (get >>= rest) After := by
  intro before result after initially acts
  exact tail before.1 ⟨initially, rfl⟩ (acts_get_bind.mp acts)

/-- The rule for a command and its reply. -/
theorem ask_bind {command : face.Command} {rest : face.Reply command → Action face τ ε β}
    {After : Except ε β → τ × σ → Prop} (Between : face.Reply command → τ × σ → Prop)
    (answered : ∀ ⦃before reply after⦄, Before before → answers before.2 command reply after →
      Between reply (before.1, after))
    (tail : ∀ reply, Ensures answers (Between reply) (rest reply) After) :
    Ensures answers Before (Action.ask command >>= rest) After := by
  intro before result after initially acts
  obtain ⟨reply, middle, replied, later⟩ := acts_ask_bind.mp acts
  exact tail reply (answered initially replied) later

/-- What the first part is known to leave carries a sequence. -/
theorem bind_of {first : Action face τ ε α} {rest : α → Action face τ ε β}
    {Middle : Except ε α → τ × σ → Prop} {After : Except ε β → τ × σ → Prop}
    (head : Ensures answers Before first Middle)
    (goesOn : ∀ value, Ensures answers (Middle (.ok value)) (rest value) After)
    (stops : ∀ ⦃exception state⦄,
      Middle (.error exception) state → After (.error exception) state) :
    Ensures answers Before (first >>= rest) After := by
  intro before result after initially acts
  rcases acts_bind.mp acts with ⟨value, middle, ran, later⟩ | ⟨exception, ran, rfl⟩
  · exact goesOn value (head initially ran) later
  · exact stops (head initially ran)

theorem bind {first : Action face τ ε α} {rest : α → Action face τ ε β}
    {After : Except ε β → τ × σ → Prop} (Between : α → τ × σ → Prop)
    (head :
      Ensures answers Before first fun result state =>
        match result with
        | .ok value => Between value state
        | .error exception => After (.error exception) state)
    (tail : ∀ value, Ensures answers (Between value) (rest value) After) :
    Ensures answers Before (first >>= rest) After :=
  head.bind_of tail fun _ _ stopped => stopped

/-- A handler starts from what the guarded part leaves when it throws. -/
theorem tryCatch {guarded : Action face τ ε α} {handler : ε → Action face τ ε α}
    (Thrown : ε → τ × σ → Prop)
    (body :
      Ensures answers Before guarded fun result state =>
        match result with
        | .ok value => After (.ok value) state
        | .error exception => Thrown exception state)
    (handled : ∀ exception, Ensures answers (Thrown exception) (handler exception) After) :
    Ensures answers Before (MonadExcept.tryCatch guarded handler) After := by
  intro before result after initially acts
  rcases acts_tryCatch.mp acts with ⟨value, ran, rfl⟩ | ⟨exception, middle, ran, later⟩
  · exact body initially ran
  · exact handled exception (body initially ran) later

variable {action : Action face τ ε α}

/-- The rule of consequence. -/
theorem mono {Narrower : τ × σ → Prop} {Wider : Except ε α → τ × σ → Prop}
    (holds : Ensures answers Before action After)
    (narrower : ∀ ⦃state⦄, Narrower state → Before state)
    (wider : ∀ ⦃result state⦄, After result state → Wider result state) :
    Ensures answers Narrower action Wider :=
  fun _ _ _ initially acts => wider (holds (narrower initially) acts)

theorem perform {inner : Interface}
    {act : (command : inner.Command) → Action face τ ε (inner.Reply command)}
    {Kept : τ × σ → Prop} (steps : ∀ command, Ensures answers Kept (act command) fun _ => Kept)
    (program : Prog inner α) : Ensures answers Kept (program.perform act) fun _ => Kept := by
  induction program with
  | done value =>
    exact .pure fun _ kept => kept
  | call command next ih =>
    refine .bind (fun _ => Kept) ?_ ih
    intro before result after kept acts
    have stillKept := steps command kept acts
    cases result <;> exact stillKept

end Ensures

/-! ## The commands an action may issue -/

namespace Action

variable {face : Interface} {τ υ ε δ α β : Type}

/-- Every command that an action can issue, from any state, is allowed. -/
def OnlyIssues (Allowed : face.Command → Prop) (action : Action face τ ε α) : Prop :=
  ∀ state, Prog.OnlyIssues Allowed (action.start state)

namespace OnlyIssues

variable {Allowed : face.Command → Prop}

theorem pure (value : α) : OnlyIssues Allowed (Pure.pure value : Action face τ ε α) :=
  fun _ => .done _

theorem throw (exception : ε) :
    OnlyIssues Allowed (MonadExcept.throw exception : Action face τ ε α) :=
  fun _ => .done _

theorem orThrow (reply : Except ε α) :
    OnlyIssues Allowed (Action.orThrow reply : Action face τ ε α) :=
  fun _ => .done _

theorem get : OnlyIssues Allowed (MonadState.get : Action face τ ε τ) :=
  fun _ => .done _

theorem modify (change : τ → τ) : OnlyIssues Allowed (modify change : Action face τ ε PUnit) :=
  fun _ => .done _

theorem ask {command : face.Command} (allowed : Allowed command) :
    OnlyIssues Allowed (Action.ask command : Action face τ ε _) :=
  fun _ => .call allowed fun _ => .done _

theorem bind {first : Action face τ ε α} {rest : α → Action face τ ε β}
    (head : OnlyIssues Allowed first) (tail : ∀ value, OnlyIssues Allowed (rest value)) :
    OnlyIssues Allowed (first >>= rest) := by
  intro state
  refine Prog.OnlyIssues.bind (head state) ?_
  rintro ⟨value | exception, middle⟩
  · exact .done _
  · exact tail exception middle

theorem tryCatch {guarded : Action face τ ε α} {handler : ε → Action face τ ε α}
    (body : OnlyIssues Allowed guarded)
    (handled : ∀ exception, OnlyIssues Allowed (handler exception)) :
    OnlyIssues Allowed (MonadExcept.tryCatch guarded handler) := by
  intro state
  refine Prog.OnlyIssues.bind (body state) ?_
  rintro ⟨exception | value, middle⟩
  · exact handled exception middle
  · exact .done _

variable {action : Action face τ ε α}

theorem attempt (body : OnlyIssues Allowed action) :
    OnlyIssues Allowed (action.attempt : Action face τ δ _) :=
  fun state => Prog.OnlyIssues.bind (body state) fun _ => .done _

theorem zoom {part : υ → τ} {replace : υ → τ → υ} (body : OnlyIssues Allowed action) :
    OnlyIssues Allowed (action.zoom part replace) :=
  fun whole => Prog.OnlyIssues.bind (body (part whole)) fun _ => .done _

theorem perform {inner : Interface}
    {act : (command : inner.Command) → Action face τ ε (inner.Reply command)}
    (steps : ∀ command, OnlyIssues Allowed (act command)) (program : Prog inner α) :
    OnlyIssues Allowed (program.perform act) := by
  induction program with
  | done value =>
    exact .pure value
  | call command next ih =>
    exact .bind (steps command) ih

/-- What the allowed commands keep holds after the action. -/
theorem invariant {σ : Type} {answers : Answers face σ} (Good : σ → Prop)
    (preserved : ∀ {before after : σ} {command : face.Command} {reply : face.Reply command},
      Allowed command → Good before → answers before command reply after →
      Good after) (only : OnlyIssues Allowed action) {before after : τ × σ}
    {result : Except ε α} (initially : Good before.2)
    (acts : Acts answers action before result after) : Good after.2 := by
  have run : Runs answers (action.start before.1) before.2 (result, after.1) after.2 := acts
  exact (only before.1).invariant Good preserved initially run

end OnlyIssues

end Action

end PortableTpcc
