import PortableTpcc.Pipeline
import PortableTpcc.ProgramContracts

namespace PortableTpcc

namespace Mind

open Prog

/-!
# Terminal states of a run

`Transition` never leaves a terminal state, and neither does a command that
only uses it.  `Run` calls `Fail` for every failed step, and `Fail` does not
look at the state: a run that is completed becomes a failed one.
-/

/-- The state file says that the run is in this state. -/
def RecordedAs (state : StateName) (file : Option RunState) : Prop :=
  ∃ rs, file = some rs ∧ rs.state = state

/-- Only this state is written, when only this state is read. -/
def keeping (state : StateName) : Contract pipelineFace where
  Allowed
    | .save rs => rs.state = state
    | _ => True
  Assumed
    | .load, reply => ∀ rs, reply = .ok rs → rs.state = state
    | .stat, reply => reply ≠ .ok false
    | _, _ => True

/-- The file stays in the state that an obedient program keeps. -/
theorem recordedAs_of_obeys {α : Type} {state : StateName} {program : Prog pipelineFace α}
    {before after : Option RunState} {result : α} (obeys : Obeys (keeping state) program)
    (recorded : RecordedAs state before) (run : Runs FileAnswers program before result after) :
    RecordedAs state after := by
  apply obeys.invariant (RecordedAs state) _ recorded run
  intro before after command reply allowed recorded answered
  obtain ⟨rs, rfl, inState⟩ := recorded
  cases answered with
  | failed error =>
    constructor
    · cases command with
      | load =>
        exact nofun
      | stat =>
        exact nofun
      | _ =>
        trivial
    · exact ⟨rs, rfl, inState⟩
  | stat =>
    exact ⟨nofun, rs, rfl, inState⟩
  | load =>
    refine ⟨?_, rs, rfl, inState⟩
    intro read same
    rw [← Except.ok.inj same]
    exact inState
  | save =>
    exact ⟨trivial, _, rfl, allowed⟩
  | work =>
    exact ⟨trivial, rs, rfl, inState⟩
  | beforeMeasurement =>
    exact ⟨trivial, rs, rfl, inState⟩
  | hasCollectionManifest =>
    exact ⟨trivial, rs, rfl, inState⟩

section

variable {contract : Contract pipelineFace} {state : StateName} {α β : Type}

/-- What follows a read knows the state that was read. -/
theorem obeys_load_bind {next : RunState → Pipeline α}
    (later : ∀ rs, rs.state = state → Obeys (keeping state) (next rs).run) :
    Obeys (keeping state) (request .load >>= next).run := by
  apply Obeys.call trivial
  intro reply read
  cases reply with
  | error error =>
    exact .done _
  | ok rs =>
    exact later rs (read rs rfl)

theorem obeys_save {rs : RunState} (same : rs.state = state) :
    Obeys (keeping state) (request (.save rs)).run :=
  .call same fun _ _ => .done _

theorem obeys_ignore {program : Pipeline α} (obeys : Obeys contract program.run) :
    Obeys contract (ignore program).run :=
  obeys.bind fun _ => .done _

theorem obeys_lift {program : Pipeline α} (obeys : Obeys contract program.run) :
    Obeys contract (ExceptT.lift program.run : Pipeline (Except String α)).run :=
  obeys.bind fun _ => .done _

theorem obeys_upsertProcess (proc : Process) : Obeys (keeping state) (upsertProcess proc).run := by
  apply obeys_load_bind
  intro rs same
  exact obeys_save same

theorem obeys_recordSkip (step : String) : Obeys (keeping state) (recordSkip step).run := by
  apply obeys_load_bind
  intro rs same
  split
  · exact obeys_save same
  · exact obeys_save same

theorem obeys_forM {items : List α} {body : α → Pipeline Unit}
    (each : ∀ item, Obeys contract (body item).run) : Obeys contract (items.forM body).run := by
  induction items with
  | nil =>
    exact .done _
  | cons item rest ih =>
    exact (each item).bindOk fun _ => ih

theorem obeys_doWork (task : Work) : Obeys (keeping state) (doWork task).run := by
  apply Obeys.call trivial
  intro reply _
  cases reply with
  | error error =>
    exact .done _
  | ok report =>
    apply Obeys.bindOk
    · exact obeys_forM fun proc => obeys_ignore (obeys_upsertProcess proc)
    · intro _
      cases report.failure with
      | none =>
        exact .done _
      | some error =>
        exact .done _

theorem obeys_stopPeers : Obeys (keeping state) stopPeers.run := by
  apply obeys_load_bind
  intro rs _
  exact obeys_doWork .signalPeers

theorem obeys_orStopPeers {program : Pipeline Unit} (obeys : Obeys (keeping state) program.run) :
    Obeys (keeping state) (orStopPeers program).run := by
  apply (obeys_lift obeys).bindOk
  intro result
  cases result with
  | ok value =>
    exact .done _
  | error error =>
    exact (obeys_ignore obeys_stopPeers).bindOk fun _ => .done _

theorem obeys_withSessions {stage : Pipeline Unit} (obeys : Obeys (keeping state) stage.run) :
    Obeys (keeping state) (withSessions stage).run := by
  apply (obeys_doWork .openSessions).bindOk
  intro _
  apply (obeys_lift obeys).bindOk
  intro result
  apply (obeys_ignore (obeys_doWork .finishRemote)).bindOk
  intro _
  exact .done _

theorem obeys_launchAndWait (role : String) :
    Obeys (keeping state) (do
        doWork (.launchRole role)
        orStopPeers (doWork .waitProcesses) : Pipeline Unit).run :=
  (obeys_doWork _).bindOk fun _ => obeys_orStopPeers (obeys_doWork _)

theorem obeys_check (phase : String) : Obeys (keeping state) (check phase).run := by
  apply obeys_load_bind
  intro rs _
  apply Obeys.bindOk (.done _)
  intro _
  exact obeys_withSessions (obeys_launchAndWait "check")

/-- A terminal state is not the state of a run that has not started. -/
theorem started_of_isTerminal (terminal : isTerminal state = true) :
    state ≠ .other "" ∧ state ≠ .planned := by
  constructor
  · rintro rfl
    cases terminal
  · rintro rfl
    cases terminal

/-- Nothing but the same state is valid after a terminal one. -/
theorem validateTransition_of_isTerminal {newState : StateName}
    (terminal : isTerminal state = true) (valid : validateTransition state newState = .ok ()) :
    newState = state := by
  by_contra different
  simp [validateTransition, started_of_isTerminal terminal, Ne.symm different, terminal] at valid

theorem obeys_transition (terminal : isTerminal state = true) (newState : StateName) :
    Obeys (keeping state) (transition newState).run := by
  apply obeys_load_bind
  intro rs same
  cases valid : validateTransition rs.state newState with
  | error error =>
    exact .done _
  | ok value =>
    rw [same] at valid
    exact obeys_save (validateTransition_of_isTerminal terminal valid)

theorem obeys_fail (cause : String) : Obeys (keeping .failed) (fail cause).run := by
  apply obeys_load_bind
  intro rs _
  exact obeys_save rfl

theorem obeys_stage {newState : StateName} {stage : Pipeline Unit}
    (terminal : isTerminal state = true) (obeys : Obeys (keeping state) stage.run) :
    Obeys (keeping state) (do
        transition newState
        stage : Pipeline Unit).run :=
  (obeys_transition terminal newState).bindOk fun _ => obeys

theorem obeys_armAndRamp (terminal : isTerminal state = true) (rampStarted : Bool) :
    Obeys (keeping state) (armAndRamp rampStarted).run := by
  apply (obeys_ignore (obeys_transition terminal .arming)).bindOk
  intro _
  cases rampStarted with
  | true =>
    exact obeys_ignore (obeys_transition terminal .ramping)
  | false =>
    exact .done _

theorem obeys_awaitMeasurement (terminal : isTerminal state = true) (looks : Nat) :
    Obeys (keeping state) (awaitMeasurement looks).run := by
  have aborts : ∀ error : String, Obeys (keeping state) (do
            ignore stopPeers
            throw error : Pipeline Unit).run :=
    fun error => (obeys_ignore obeys_stopPeers).bindOk fun _ => .done _
  induction looks with
  | zero =>
    exact .done _
  | succ looks ih =>
    apply Obeys.call trivial
    intro reply _
    match reply with
    | .error error =>
      exact .done _
    | .ok .started =>
      exact .done _
    | .ok (.aborted error) =>
      exact aborts error
    | .ok (.waits rampStarted interrupted) =>
      apply (obeys_armAndRamp terminal rampStarted).bindOk
      intro _
      cases interrupted with
      | some error =>
        exact aborts error
      | none =>
        exact ih

theorem obeys_superviseWorkers (terminal : isTerminal state = true) (looks : Nat) :
    Obeys (keeping state) (superviseWorkers looks).run := by
  apply (obeys_awaitMeasurement terminal looks).bindOk
  intro _
  apply (obeys_ignore (obeys_transition terminal .measuring)).bindOk
  intro _
  apply (obeys_orStopPeers (obeys_doWork .waitProcesses)).bindOk
  intro _
  exact obeys_transition terminal .draining

theorem obeys_test (terminal : isTerminal state = true) (looks : Nat) (startAt : String) :
    Obeys (keeping state) (test looks startAt).run := by
  apply obeys_stage terminal
  apply obeys_withSessions
  apply (obeys_doWork .writeStartToken).bindOk
  intro _
  apply obeys_load_bind
  intro rs same
  refine Obeys.bindOk (obeys_save same) fun _ => ?_
  apply (obeys_orStopPeers (obeys_doWork (.launchRole "worker"))).bindOk
  intro _
  exact obeys_superviseWorkers terminal looks

theorem obeys_schema (terminal : isTerminal state = true) : Obeys (keeping state) schema.run :=
  obeys_stage terminal (obeys_withSessions (obeys_launchAndWait "schema"))

theorem obeys_loadStage (terminal : isTerminal state = true) :
    Obeys (keeping state) Mind.load.run := by
  apply obeys_stage terminal
  apply obeys_withSessions
  apply (obeys_orStopPeers (obeys_doWork (.launchRole "loader"))).bindOk
  intro _
  exact obeys_orStopPeers (obeys_doWork .waitProcesses)

theorem obeys_indexes (terminal : isTerminal state = true) : Obeys (keeping state) indexes.run :=
  obeys_stage terminal (obeys_withSessions (obeys_launchAndWait "indexes"))

theorem obeys_collect (terminal : isTerminal state = true) : Obeys (keeping state) collect.run :=
  obeys_stage terminal ((obeys_doWork .openSessions).bindOk fun _ => obeys_doWork .collectArtifacts)

theorem obeys_consolidate (terminal : isTerminal state = true) :
    Obeys (keeping state) consolidate.run := by
  apply obeys_stage terminal
  apply obeys_load_bind
  intro rs _
  exact obeys_doWork .consolidateResults

theorem obeys_stop (terminal : isTerminal state = true) : Obeys (keeping state) stop.run :=
  obeys_stage terminal ((obeys_doWork .openSessions).bindOk fun _ => obeys_stopPeers)

theorem obeys_refuseConsolidateWithoutTest (runID : String) :
    Obeys (keeping state) (refuseConsolidateWithoutTest runID).run := by
  unfold refuseConsolidateWithoutTest
  split
  · exact .done _
  · apply Obeys.call trivial
    intro reply _
    match reply with
    | .error error =>
      exact .done _
    | .ok false =>
      exact .done _
    | .ok true =>
      apply obeys_load_bind
      intro rs _
      split
      · exact .done _
      · exact .done _

theorem obeys_runConsolidate (terminal : isTerminal state = true) (runID : String) :
    Obeys (keeping state) (runConsolidate runID).run := by
  apply (obeys_refuseConsolidateWithoutTest runID).bindOk
  intro _
  apply Obeys.call trivial
  intro reply _
  match reply with
  | .error error =>
    exact .done _
  | .ok true =>
    exact obeys_consolidate terminal
  | .ok false =>
    exact (obeys_collect terminal).bindOk fun _ => obeys_consolidate terminal

/-- `Materialize` resets the state only where there is none or nothing ran. -/
theorem obeys_materialize (terminal : isTerminal state = true) (options : PipelineOptions) :
    Obeys (keeping state) (materialize options).run := by
  apply (obeys_doWork .materializeRunConfig).bindOk
  intro _
  apply Obeys.call trivial
  intro reply found
  match reply with
  | .error error =>
    exact .done _
  | .ok false =>
    exact absurd rfl found
  | .ok true =>
    apply obeys_load_bind
    intro rs same
    apply obeys_save
    simp [started_of_isTerminal terminal, same]

theorem obeys_withMaterializedProfileLock {fn : Pipeline Unit}
    (terminal : isTerminal state = true) (options : PipelineOptions)
    (obeys : Obeys (keeping state) fn.run) :
    Obeys (keeping state) (withMaterializedProfileLock options fn).run := by
  apply (obeys_doWork .resolveRunID).bindOk
  intro _
  apply (obeys_doWork .acquireLocks).bindOk
  intro _
  exact (obeys_materialize terminal options).bindOk fun _ => obeys

theorem obeys_withConsolidateLock {fn : Pipeline Unit} (terminal : isTerminal state = true)
    (options : PipelineOptions) (obeys : Obeys (keeping state) fn.run) :
    Obeys (keeping state) (withConsolidateLock options fn).run := by
  apply (obeys_doWork .resolveRunID).bindOk
  intro _
  apply (obeys_refuseConsolidateWithoutTest options.runID).bindOk
  intro _
  apply (obeys_doWork .acquireLocks).bindOk
  intro _
  split
  · exact (obeys_doWork .loadConsolidateContext).bindOk fun _ => obeys
  · exact (obeys_materialize terminal options).bindOk fun _ => obeys

/-- The step cannot make `Run` call `Fail`. -/
def PipelineStep.Harmless (options : PipelineOptions) (step : PipelineStep) : Prop :=
  step.enabled = false ∨ shouldSkip options step.name = true ∨
    (isCheckStep step.name = true ∧ options.failFast = false)

instance (options : PipelineOptions) (step : PipelineStep) :
    Decidable (step.Harmless options) :=
  inferInstanceAs (Decidable (_ ∨ _ ∨ _))

/-- The invocation cannot make `Run` call `Fail`. -/
def Invocation.Harmless (invocation : Invocation) : Prop :=
  invocation.verb = .run → ∀ step ∈
    pipelineSteps invocation.options invocation.looks invocation.startAt,
    step.Harmless invocation.options

instance (invocation : Invocation) : Decidable invocation.Harmless :=
  inferInstanceAs (Decidable (_ → ∀ step ∈ _, _))

theorem obeys_runSteps {options : PipelineOptions} {steps : List PipelineStep}
    (each : ∀ step ∈ steps, Obeys (keeping state) step.fn.run)
    (harmless : state = .failed ∨ ∀ step ∈ steps, step.Harmless options) :
    Obeys (keeping state) (runSteps options steps).run := by
  induction steps with
  | nil =>
    exact .done _
  | cons step rest ih =>
    have later : Obeys (keeping state) (runSteps options rest).run := by
      apply ih
      · intro other isIn
        exact each other (List.mem_cons_of_mem _ isIn)
      · exact harmless.imp_right
          fun all other isIn => all other (List.mem_cons_of_mem _ isIn)
    unfold runSteps
    split
    · exact (obeys_ignore (obeys_recordSkip _)).bindOk fun _ => later
    · rename_i executed
      apply (obeys_lift (each step List.mem_cons_self)).bindOk
      intro result
      cases result with
      | ok value =>
        exact later
      | error error =>
        change Obeys _ (ExceptT.run (if _ then _ else _))
        split
        · exact later
        · rename_i stops
          -- The failure of a harmless step is not fatal.
          have isFailed : state = .failed := by
            apply harmless.resolve_right
            intro all
            rcases all step List.mem_cons_self with disabled | skipped | ⟨isCheck, notFailFast⟩
            · simp [disabled] at executed
            · simp [skipped] at executed
            · simp [isCheck, notFailFast] at stops
          subst isFailed
          exact (obeys_ignore (obeys_fail error)).bindOk fun _ => .done _

theorem obeys_pipelineSteps (terminal : isTerminal state = true) (options : PipelineOptions)
    (looks : Nat) (startAt : String) :
    ∀ step ∈ pipelineSteps options looks startAt, Obeys (keeping state) step.fn.run := by
  simp only [pipelineSteps, List.forall_mem_cons]
  exact ⟨obeys_doWork _, obeys_schema terminal, obeys_loadStage terminal,
    obeys_indexes terminal, obeys_check _, obeys_test terminal _ _,
    obeys_check _, obeys_collect terminal, obeys_consolidate terminal, by simp⟩

theorem obeys_run {options : PipelineOptions} {looks : Nat} {startAt : String}
    (terminal : isTerminal state = true)
    (harmless :
      state = .failed ∨ ∀ step ∈ pipelineSteps options looks startAt,
          step.Harmless options) : Obeys (keeping state) (Mind.run options looks startAt).run := by
  apply (obeys_doWork .resolveRunID).bindOk
  intro _
  apply (obeys_doWork .acquireLocks).bindOk
  intro _
  apply (obeys_materialize terminal options).bindOk
  intro _
  have steps := obeys_pipelineSteps terminal options looks startAt
  apply (obeys_runSteps steps harmless).bindOk
  intro _
  exact obeys_transition terminal .completed

/-- Every invocation keeps a failed run, and harmless ones a completed run. -/
theorem obeys_program {invocation : Invocation} (terminal : isTerminal state = true)
    (harmless : state = .failed ∨ invocation.Harmless) :
    Obeys (keeping state) invocation.program.run := by
  obtain ⟨verb, options, looks, startAt⟩ := invocation
  have locked : ∀ {fn : Pipeline Unit}, Obeys (keeping state) fn.run →
      Obeys (keeping state) (withMaterializedProfileLock options fn).run :=
    obeys_withMaterializedProfileLock terminal options
  cases verb with
  | run =>
    exact obeys_run terminal (harmless.imp_right fun all => all rfl)
  | schema =>
    exact locked (obeys_schema terminal)
  | load =>
    exact locked (obeys_loadStage terminal)
  | indexes =>
    exact locked (obeys_indexes terminal)
  | check phase =>
    exact locked (obeys_check phase)
  | test =>
    exact locked (obeys_test terminal looks startAt)
  | collect =>
    exact locked (obeys_collect terminal)
  | consolidate =>
    exact obeys_withConsolidateLock terminal options (obeys_runConsolidate terminal options.runID)
  | stop =>
    exact locked (obeys_stop terminal)

theorem recordedAs_of_invoked {invocations : List Invocation} {before after : Option RunState}
    (terminal : isTerminal state = true)
    (harmless : state = .failed ∨ ∀ invocation ∈ invocations, invocation.Harmless)
    (recorded : RecordedAs state before) (invoked : Invoked invocations before after) :
    RecordedAs state after := by
  induction invoked with
  | nil =>
    exact recorded
  | cons first _ ih =>
    apply ih
    · exact harmless.imp_right
        fun all other isIn => all other (List.mem_cons_of_mem _ isIn)
    · exact recordedAs_of_obeys (obeys_program terminal
        (harmless.imp_right fun all => all _ List.mem_cons_self)) recorded first

end

/-! ## Runs that leave the completed state -/

section

variable {file : Option RunState}

theorem runs_doWork (task : Work) : Runs FileAnswers (doWork task).run file (.ok ()) file :=
  .call (.work file task ⟨[], none⟩) (.done _ _)

theorem runs_doWork_error (task : Work) (error : String) :
    Runs FileAnswers (doWork task).run file (.error error) file :=
  .call (.failed file _ error) (.done _ _)

variable {α : Type}

theorem runs_load_error {next : RunState → Pipeline α} (error : String) :
    Runs FileAnswers (request .load >>= next).run file (.error error) file :=
  .call (.failed file _ error) (.done _ _)

theorem runs_ignore {program : Pipeline α} {before after : Option RunState}
    {result : Except String α} (ran : Runs FileAnswers program.run before result after) :
    Runs FileAnswers (ignore program).run before (.ok ()) after :=
  Runs.bind_iff.mpr ⟨result, after, ran, .done _ _⟩

theorem runs_lift {program : Pipeline α} {before after : Option RunState}
    {result : Except String α} (ran : Runs FileAnswers program.run before result after) :
    Runs FileAnswers (ExceptT.lift program.run : Pipeline (Except String α)).run before
      (.ok result) after :=
  Runs.bind_iff.mpr ⟨result, after, ran, .done _ _⟩

/-- `Fail` records the failure whatever the state was. -/
theorem runs_fail (file : Option RunState) (cause : String) :
    ∃ after, Runs FileAnswers (fail cause).run file (.ok ()) after ∧ RecordedAs .failed after :=
  ⟨_, .call (.load file) (.call (.save file _) (.done _ _)), _, rfl, rfl⟩

/-- A stage fails when its transition cannot read the state. -/
theorem runs_transition_error {newState : StateName} {stage : Pipeline Unit} (error : String) :
    Runs FileAnswers (do
        transition newState
        stage : Pipeline Unit).run file (.error error) file :=
  Runs.bindError (runs_load_error error)

theorem runs_step_error {options : PipelineOptions} {looks : Nat} {startAt : String}
    (error : String) : ∀ step ∈ pipelineSteps options looks startAt,
      Runs FileAnswers step.fn.run file (.error error) file := by
  simp only [pipelineSteps, List.forall_mem_cons]
  exact ⟨runs_doWork_error _ error, runs_transition_error error,
    runs_transition_error error, runs_transition_error error,
    runs_load_error error, runs_transition_error error,
    runs_load_error error, runs_transition_error error, runs_transition_error error, by simp⟩

/-- Steps that are not all harmless can fail the run. -/
theorem exists_runSteps_failed {options : PipelineOptions} {steps : List PipelineStep}
    (fails : ∀ step ∈ steps, Runs FileAnswers step.fn.run file (.error "interrupted") file)
    (harmful : ∃ step ∈ steps, ¬ step.Harmless options) :
    ∃ error after, Runs FileAnswers (runSteps options steps).run file (.error error) after ∧
        RecordedAs .failed after := by
  induction steps with
  | nil =>
    obtain ⟨step, isIn, -⟩ := harmful
    exact absurd isIn List.not_mem_nil
  | cons step rest ih =>
    have failsHere := fails step List.mem_cons_self
    by_cases harmless : step.Harmless options
    · have later : ∃ error after, Runs FileAnswers (runSteps options rest).run file (.error error)
          after ∧
              RecordedAs .failed after := by
        apply ih
        · intro other isIn
          exact fails other (List.mem_cons_of_mem _ isIn)
        · obtain ⟨other, isIn, isHarmful⟩ := harmful
          rcases List.mem_cons.mp isIn with rfl | isLater
          · exact absurd harmless isHarmful
          · exact ⟨other, isLater, isHarmful⟩
      obtain ⟨error, after, ran, isFailed⟩ := later
      refine ⟨error, after, ?_, isFailed⟩
      unfold runSteps
      split
      · exact (runs_ignore (runs_load_error "interrupted")).bindOk ran
      · rename_i executed
        have passes : (isCheckStep step.name && !options.failFast) = true := by
          rcases harmless with disabled | skipped | ⟨isCheck, notFailFast⟩
          · simp [disabled] at executed
          · simp [skipped] at executed
          · simp [isCheck, notFailFast]
        apply (runs_lift failsHere).bindOk
        change Runs _ (ExceptT.run (if _ then _ else _)) _ _ _
        rw [if_pos passes]
        exact ran
    · obtain ⟨after, failed, isFailed⟩ := runs_fail file "interrupted"
      simp only [PipelineStep.Harmless, not_or, not_and] at harmless
      obtain ⟨enabled, notSkipped, fatal⟩ := harmless
      refine ⟨step.name ++ ": " ++ "interrupted", after, ?_, isFailed⟩
      unfold runSteps
      rw [if_neg (by simp [enabled, notSkipped])]
      apply (runs_lift failsHere).bindOk
      change Runs _ (ExceptT.run (if _ then _ else _)) _ _ _
      rw [if_neg (by simpa using fatal)]
      exact (runs_ignore failed).bindOk (.done _ _)

theorem exists_runs_materialize (options : PipelineOptions) (file : Option RunState) :
    ∃ after, Runs FileAnswers (materialize options).run file (.ok ()) after :=
  ⟨_, (runs_doWork .materializeRunConfig).bindOk (.call (.stat file) (.call (.load file)
    (.call (.save file _) (.done _ _))))⟩

theorem exists_program_failed {invocation : Invocation} (harmful : ¬ invocation.Harmless)
    (file : Option RunState) :
    ∃ result after, Runs FileAnswers invocation.program.run file result after ∧
        RecordedAs .failed after := by
  obtain ⟨verb, options, looks, startAt⟩ := invocation
  simp only [Invocation.Harmless, not_forall] at harmful
  obtain ⟨rfl, step, isIn, isHarmful⟩ := harmful
  obtain ⟨saved, materialized⟩ := exists_runs_materialize options file
  obtain ⟨error, after, ran, isFailed⟩ :=
    exists_runSteps_failed (runs_step_error "interrupted") ⟨step, isIn, isHarmful⟩
  refine ⟨.error error, after, ?_, isFailed⟩
  exact (runs_doWork _).bindOk ((runs_doWork _).bindOk (materialized.bindOk (Runs.bindError ran)))

theorem runs_program_error (invocation : Invocation) (file : Option RunState) :
    ∃ result, Runs FileAnswers invocation.program.run file result file := by
  obtain ⟨verb, options, looks, startAt⟩ := invocation
  refine ⟨.error "interrupted", ?_⟩
  cases verb <;> exact Runs.bindError (runs_doWork_error _ _)

theorem invoked_unchanged (invocations : List Invocation) (file : Option RunState) :
    Invoked invocations file file := by
  induction invocations with
  | nil =>
    exact .nil file
  | cons invocation later ih =>
    obtain ⟨result, ran⟩ := runs_program_error invocation file
    exact .cons ran ih

/-- A sequence with an invocation that is not harmless can fail the run. -/
theorem exists_invoked_failed {invocations : List Invocation}
    (harmful : ∃ invocation ∈ invocations, ¬ invocation.Harmless) (file : Option RunState) :
    ∃ after, Invoked invocations file after ∧ RecordedAs .failed after := by
  induction invocations with
  | nil =>
    obtain ⟨invocation, isIn, -⟩ := harmful
    exact absurd isIn List.not_mem_nil
  | cons invocation later ih =>
    by_cases harmless : invocation.Harmless
    · obtain ⟨result, ran⟩ := runs_program_error invocation file
      obtain ⟨other, isIn, isHarmful⟩ := harmful
      have isLater : other ∈ later := by
        rcases List.mem_cons.mp isIn with rfl | isLater
        · exact absurd harmless isHarmful
        · exact isLater
      obtain ⟨after, invoked, isFailed⟩ := ih ⟨other, isLater, isHarmful⟩
      exact ⟨after, .cons ran invoked, isFailed⟩
    · obtain ⟨result, after, ran, isFailed⟩ := exists_program_failed harmless file
      exact ⟨after, .cons ran (invoked_unchanged later after), isFailed⟩

end

/--
A sequence of commands leaves a terminal state as it is in all its executions
exactly if the run is failed, or no command is a `run` with a step that can
fail it.
-/
theorem terminal_absorbing_iff (state : StateName) (invocations : List Invocation)
    (terminal : isTerminal state = true) :
    (∀ before after, RecordedAs state before →
      Invoked invocations before after → RecordedAs state after) ↔ state = .failed ∨
      ∀ invocation ∈ invocations, invocation.Harmless := by
  constructor
  · intro absorbing
    by_contra leaves
    simp only [not_or, not_forall] at leaves
    obtain ⟨notFailed, invocation, isIn, harmful⟩ := leaves
    obtain ⟨after, invoked, rs, rfl, isFailed⟩ :=
      exists_invoked_failed ⟨invocation, isIn, harmful⟩ (some { RunState.fresh with state })
    obtain ⟨kept, same, inState⟩ := absorbing _ _ ⟨_, rfl, rfl⟩ invoked
    obtain rfl := Option.some.inj same
    exact notFailed (inState.symm.trans isFailed)
  · intro harmless before after recorded invoked
    exact recordedAs_of_invoked terminal harmless recorded invoked

/-- Default options: nothing is skipped and failed checks are fatal. -/
def plainOptions : PipelineOptions where
  runID := "tpcc-01"
  skipSteps := []
  force := false
  insecureIgnore := false
  checkAfterImport := true
  wantAfterTest := true
  failFast := true

/-- The single stages and `stop` keep a completed run. -/
theorem stages_keep_completed :
    isTerminal .completed = true ∧ ∀ before after, RecordedAs .completed before → Invoked
      [⟨.schema, plainOptions, 0, ""⟩, ⟨.test, plainOptions, 0, ""⟩,
      ⟨.stop, plainOptions, 0, ""⟩] before after →
        RecordedAs .completed after :=
  ⟨rfl, (terminal_absorbing_iff .completed _ rfl).mpr (.inr (by decide))⟩

/-- The file of a completed run. -/
def completedRun : RunState :=
  { RunState.fresh with state := .completed }

/-- `run` on a completed run, with nothing else going wrong, fails it. -/
theorem completed_run_failed_by_run :
    ∃ after, Runs FileAnswers (Invocation.program ⟨.run, plainOptions, 0, ""⟩).run
      (some completedRun) (.error "schema: invalid state transition completed -> schema") after ∧
        RecordedAs .failed after := by
  refine ⟨some { completedRun with
    state := .failed
    error := "invalid state transition completed -> schema" },
    ?_, _, rfl, rfl⟩
  -- The locks and the configuration, and the state that is written back.
  refine (runs_doWork _).bindOk ((runs_doWork _).bindOk (Runs.bindOk ((runs_doWork _).bindOk
    (.call (.stat _) (.call (.load _) (.call (.save _ _) (.done _ _))))) ?_))
  refine Runs.bindError ((runs_lift (runs_doWork _)).bindOk ?_)
  -- `schema` is rejected, and `Fail` is called.
  exact (runs_lift (.call (.load _) (.done _ _))).bindOk
    ((runs_ignore (.call (.load _) (.call (.save _ _) (.done _ _)))).bindOk (.done _ _))

end Mind

end PortableTpcc
