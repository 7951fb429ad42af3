import PortableTpcc.LatestRun
import PortableTpcc.PipelineLaws

namespace PortableTpcc

namespace Mind

open Prog

/-!
# Consolidate as a command of its own

`mind-tpcc consolidate` picks a recorded run (`ResolveConsolidateRunID`) and looks at its state
before it takes the lock of the run and loads or materializes it.  What is read to pick the run is
given; the rest of the command is the program of the pipeline on the run that was picked.
-/

/-- How `verifyConsolidateIdentity` fails. -/
inductive IdentityError where
  | mismatch (text : String)
  | file (error : FileError)
deriving Repr, DecidableEq

/-- What the command reads to pick a run. -/
structure ConsolidateHost (ρ : Type) where
  profileName : String
  /-- `Validate`, with the text of its errors. -/
  validate : Except String Unit
  profileSHA : Except FileError String
  runs : Except FileError (List (RunEntry ρ))
  /-- `os.Stat` of the state file of a run. -/
  stat : String → Except FileError Unit
  verifyConsolidateIdentity : String → Except IdentityError Unit
  stateDir : String

/-- The flags of the command. -/
structure ConsolidateOptions (ρ : Type) where
  /-- `--run-id`, without the space around it. -/
  runID : String
  force : Bool
  warehouses : Bool
  rampUp : Bool
  measurement : Bool
  insecureIgnoreHostKey : Bool
  /-- `OverridesMatchRunConfig`. -/
  overridesMatch : ρ → Bool
  pipeline : PipelineOptions

variable {ρ : Type}

/-- `rejectForceConsolidateOverrides`. -/
def rejectForceConsolidateOverrides (options : ConsolidateOptions ρ) : Except FileError Unit :=
  let flags :=
    (if options.warehouses then ["--warehouses"] else []) ++
      (if options.rampUp then ["--ramp-up"] else []) ++
      (if options.measurement then ["--measurement"] else [])
  if flags = [] then
    .ok ()
  else
    .error (.other ("consolidate --force does not accept " ++ ", ".intercalate flags))

/-- `forceIdentityMatch`. -/
def forceIdentityMatch (host : ConsolidateHost ρ) (runID : String) : Except FileError Bool :=
  match host.verifyConsolidateIdentity runID with
  | .ok () => .ok true
  | .error (.mismatch _) => .ok false
  | .error (.file error) => .error error

/-- One turn of the loop of `latestForceConsolidateRunID`: the best id, its time and whether it has
ended. -/
def laterForceRun (parse : String → Option Int) (host : ConsolidateHost ρ)
    (best : Option (String × Int × Bool)) (e : RunEntry ρ) :
    Except FileError (Option (String × Int × Bool)) := do
  if !e.isDir then
    return best
  if !(← forceIdentityMatch host e.name) then
    return best
  let rs ← e.load
  match e.time parse, best with
  | none, _ => return best
  | some t, none => return some (e.name, t, isTerminal rs.state)
  | some t, some (_, bestTime, _) =>
    return if bestTime < t then some (e.name, t, isTerminal rs.state) else best

/-- `latestForceConsolidateRunID`.  An empty id is `none`. -/
def latestForceConsolidateRunID (parse : String → Option Int) (host : ConsolidateHost ρ) :
    Except FileError (Option String) :=
  match host.runs with
  | .error .notExist => .ok none
  | .error error => .error error
  | .ok entries => do
    match ← entries.foldlM (laterForceRun parse host) none with
    | some (runID, _, false) => return some runID
    | _ => return none

/-- `validateCleanupRunID`. -/
def validateCleanupRunID (runID : String) : Except FileError Unit :=
  if runID = "." ∨ runID = ".." ∨ '/' ∈ runID.toList ∨ '\\' ∈ runID.toList ∨
      ['.', '.'] <:+: runID.toList then
    .error (.other s!"invalid run_id \"{runID}\"")
  else
    .ok ()

/-- `runRecorded`. -/
def runRecorded (host : ConsolidateHost ρ) (runID : String) : Except FileError Bool :=
  match host.stat runID with
  | .ok () => .ok true
  | .error .notExist => .ok false
  | .error error => .error error

/-- What `ResolveConsolidateRunID` checks first. -/
def checkConsolidateFlags (host : ConsolidateHost ρ) (options : ConsolidateOptions ρ) :
    Except FileError Unit :=
  if options.force then
    rejectForceConsolidateOverrides options
  else
    host.validate.mapError fun errors => .other s!"profile invalid: {errors}"

/-- The run it picks without `--run-id`. -/
def latestConsolidateRun (parse : String → Option Int) (host : ConsolidateHost ρ)
    (options : ConsolidateOptions ρ) : Except FileError String := do
  let overridden :=
    options.warehouses || options.rampUp || options.measurement || options.insecureIgnoreHostKey
  let overrides := if overridden then some options.overridesMatch else none
  let latest ← (if options.force then latestForceConsolidateRunID parse host else
    latestContinuableRunID parse host.runs host.profileSHA overrides)
  let runID := latest.getD ""
  rejectIf (runID = "") <| .other <|
    s!"no active run to consolidate for profile \"{host.profileName}\"; " ++
      "refusing to allocate a run id"
  return runID

/-- How it checks `--run-id`. -/
def checkGivenRun (host : ConsolidateHost ρ) (options : ConsolidateOptions ρ) :
    Except FileError Unit := do
  validateCleanupRunID options.runID
  let recorded ← runRecorded host options.runID
  rejectIf (recorded = false) <| .other <|
    s!"run {options.runID} not found under {host.stateDir}; consolidate does not create a run"
  if options.force then
    (host.verifyConsolidateIdentity options.runID).mapError fun
      | .mismatch text => .other text
      | .file error => error

/-- The run that `ResolveConsolidateRunID` picks, before it looks at its state. -/
def selectConsolidateRun (parse : String → Option Int) (host : ConsolidateHost ρ)
    (options : ConsolidateOptions ρ) : Except FileError String := do
  checkConsolidateFlags host options
  if options.runID = "" then
    latestConsolidateRun parse host options
  else
    checkGivenRun host options
    return options.runID

/-- The text of an error of a file. -/
def FileError.text : FileError → String
  | .notExist => "file does not exist"
  | .other text => text

/-- `ResolveRunID`, as `Materialize` calls it: only without an id does it look for one and allocate
one. -/
def resolveRunID (host : ConsolidateHost ρ) (runID : String) : Pipeline Unit :=
  match host.validate with
  | .error errors => throw s!"profile invalid: {errors}"
  | .ok () => if runID = "" then doWork .resolveRunID else return ()

/-- `withConsolidateLock` around `RunConsolidate`, from the look at the state on. -/
def consolidateSelected (host : ConsolidateHost ρ) (options : ConsolidateOptions ρ)
    (runID : String) : Pipeline Unit := do
  refuseConsolidateWithoutTest runID
  doWork .acquireLocks
  if options.force then
    doWork .loadConsolidateContext
  else
    resolveRunID host runID
    materialize { options.pipeline with runID }
  runConsolidate runID

/-- `runConsolidate` of `cli.go`. -/
def standaloneConsolidate (parse : String → Option Int) (host : ConsolidateHost ρ)
    (options : ConsolidateOptions ρ) : Pipeline Unit :=
  match selectConsolidateRun parse host options with
  | .error error => throw error.text
  | .ok runID => consolidateSelected host options runID

/-- The run has not come to draining; no state is the first one. -/
def BeforeDraining (state : StateName) : Prop :=
  ∃ order < 10, pipelineOrder (if state = .other "" then .planned else state) = some order

instance (state : StateName) : Decidable (BeforeDraining state) :=
  decidable_of_iff
    (((pipelineOrder (if state = .other "" then .planned else state)).any (· < 10)) = true) <| by
    simp [BeforeDraining, Option.any_eq_true, and_comm]

/-- The answers for the run, with every command that was issued. -/
def LoggedAnswers : Answers pipelineFace (Option RunState × List PipelineCommand) :=
  fun before command reply after =>
    FileAnswers before.1 command reply after.1 ∧ after.2 = before.2 ++ [command]

theorem not_ready_of_beforeDraining {state : StateName} (unfinished : BeforeDraining state) :
    (consolidateReady state || isTerminal state || decide (state = .stopping)) = false := by
  obtain ⟨order, small, isOrder⟩ := unfinished
  cases state <;> simp_all [consolidateReady, isTerminal, pipelineOrder] <;> omega

/-- Only the file is looked at, and nothing follows. -/
theorem refuse_beforeDraining {runID : String} {rs : RunState}
    (unfinished : BeforeDraining rs.state) {result : Except String Unit}
    {after : Option RunState × List PipelineCommand}
    (run : Runs LoggedAnswers (refuseConsolidateWithoutTest runID).run (some rs, []) result after) :
    (∃ error, result = .error error) ∧ after.1 = some rs ∧
      ∀ command ∈ after.2, command = .stat ∨ command = .load := by
  unfold refuseConsolidateWithoutTest at run
  split at run
  · obtain ⟨rfl, rfl⟩ := Runs.done_iff.mp run
    exact ⟨⟨_, rfl⟩, rfl, by simp⟩
  · obtain ⟨_, ⟨_, _⟩, ⟨answered, rfl⟩, later⟩ := Runs.call_iff.mp run
    cases answered with
    | failed =>
      obtain ⟨rfl, rfl⟩ := Runs.done_iff.mp later
      exact ⟨⟨_, rfl⟩, rfl, by simp⟩
    | stat =>
      obtain ⟨_, ⟨_, _⟩, ⟨answered, rfl⟩, last⟩ := Runs.call_iff.mp later
      cases answered with
      | failed =>
        obtain ⟨rfl, rfl⟩ := Runs.done_iff.mp last
        exact ⟨⟨_, rfl⟩, rfl, by simp⟩
      | load =>
        change Runs LoggedAnswers (ExceptT.run (if _ = true then _ else _)) _ _ _ at last
        rw [Option.getD_some, not_ready_of_beforeDraining unfinished] at last
        obtain ⟨rfl, rfl⟩ := Runs.done_iff.mp last
        exact ⟨⟨_, rfl⟩, rfl, by simp⟩

/-- Every command but the one that looks for an id or allocates one. -/
def neverAllocating : Contract pipelineFace where
  Allowed command := command ≠ .work .resolveRunID
  Assumed _ _ := True

theorem obeys_request {command : PipelineCommand} (other : command ≠ .work .resolveRunID) :
    Obeys neverAllocating (request command).run :=
  .call other fun _ _ => .done _

theorem doWork_neverAllocates {task : Work} (other : task ≠ .resolveRunID) :
    Obeys neverAllocating (doWork task).run := by
  apply (obeys_request fun same => other (by simpa using same)).bindOk
  intro report
  apply Obeys.bindOk
  · apply obeys_forM
    intro proc
    exact obeys_ignore ((obeys_request (by nofun)).bindOk fun _ => obeys_request (by nofun))
  · intro _
    cases report.failure with
    | none => exact .done _
    | some error => exact .done _

theorem transition_neverAllocates (newState : StateName) :
    Obeys neverAllocating (transition newState).run := by
  apply (obeys_request (by nofun)).bindOk
  intro rs
  exact Obeys.bindOk (.done _) fun _ => obeys_request (by nofun)

theorem refuse_neverAllocates (runID : String) :
    Obeys neverAllocating (refuseConsolidateWithoutTest runID).run := by
  unfold refuseConsolidateWithoutTest
  split
  · exact .done _
  · apply (obeys_request (by nofun)).bindOk
    intro recorded
    split
    · apply (obeys_request (by nofun)).bindOk
      intro rs
      split
      · exact .done _
      · exact .done _
    · exact .done _

theorem consolidate_neverAllocates : Obeys neverAllocating consolidate.run := by
  apply (transition_neverAllocates _).bindOk
  intro _
  exact (obeys_request (by nofun)).bindOk fun _ => doWork_neverAllocates (by nofun)

theorem runConsolidate_neverAllocates (runID : String) :
    Obeys neverAllocating (runConsolidate runID).run := by
  apply (refuse_neverAllocates runID).bindOk
  intro _
  apply (obeys_request (by nofun)).bindOk
  intro collected
  split
  · exact consolidate_neverAllocates
  · apply Obeys.bindOk
    · apply (transition_neverAllocates _).bindOk
      intro _
      exact (doWork_neverAllocates (by nofun)).bindOk fun _ => doWork_neverAllocates (by nofun)
    · exact fun _ => consolidate_neverAllocates

theorem materialize_neverAllocates (options : PipelineOptions) :
    Obeys neverAllocating (materialize options).run := by
  apply (doWork_neverAllocates (by nofun)).bindOk
  intro _
  apply (obeys_request (by nofun)).bindOk
  intro stateExists
  exact (obeys_request (by nofun)).bindOk fun rs => obeys_request (by nofun)

/-- The id of the run that was picked is not empty. -/
theorem ne_empty_of_select {parse : String → Option Int} {host : ConsolidateHost ρ}
    {options : ConsolidateOptions ρ} {runID : String}
    (selects : selectConsolidateRun parse host options = .ok runID) : runID ≠ "" := by
  unfold selectConsolidateRun at selects
  obtain ⟨-, -, selects⟩ := bind_eq_ok.mp selects
  split at selects
  · obtain ⟨latest, -, isLatest⟩ := bind_eq_ok.mp selects
    obtain ⟨_, named, isID⟩ := bind_eq_ok.mp isLatest
    obtain rfl := Except.ok.inj isID
    simpa using named
  · rename_i given
    obtain ⟨-, -, isID⟩ := bind_eq_ok.mp selects
    obtain rfl := Except.ok.inj isID
    exact given

variable (parse : String → Option Int) (host : ConsolidateHost ρ) (options : ConsolidateOptions ρ)

theorem consolidateSelected_neverAllocates {runID : String} (named : runID ≠ "") :
    Obeys neverAllocating (consolidateSelected host options runID).run := by
  have rest (loaded : Unit) : Obeys neverAllocating (runConsolidate runID).run :=
    runConsolidate_neverAllocates runID
  apply (refuse_neverAllocates runID).bindOk
  intro _
  apply (doWork_neverAllocates (by nofun)).bindOk
  intro _
  split
  · exact (doWork_neverAllocates (by nofun)).bindOk rest
  · refine Obeys.bindOk ?_ fun _ => (materialize_neverAllocates _).bindOk rest
    -- The id was picked before, so nothing is left to resolve.
    unfold resolveRunID
    cases host.validate with
    | error errors => exact .done _
    | ok valid =>
      rw [if_neg named]
      exact .done _

/-- Whatever the flags and the recorded runs are, `consolidate` fails on a run that it picks before
draining and does nothing but look at its state; and no id is ever allocated. -/
theorem standaloneConsolidate_spares_unfinished :
    (∀ (runID : String) (rs : RunState), selectConsolidateRun parse host options = .ok runID →
      BeforeDraining rs.state → ∀ result after,
        Runs LoggedAnswers (standaloneConsolidate parse host options).run (some rs, []) result
            after →
          (∃ error, result = .error error) ∧ after.1 = some rs ∧
            ∀ command ∈ after.2, command = .stat ∨ command = .load) ∧
      Obeys neverAllocating (standaloneConsolidate parse host options).run := by
  constructor
  · intro runID rs selects unfinished result after run
    simp only [standaloneConsolidate, selects] at run
    obtain ⟨refused, middle, refuses, later⟩ := Runs.bind_iff.mp run
    obtain ⟨⟨error, rfl⟩, same, reads⟩ := refuse_beforeDraining unfinished refuses
    obtain ⟨rfl, rfl⟩ := Runs.done_iff.mp later
    exact ⟨⟨error, rfl⟩, same, reads⟩
  · unfold standaloneConsolidate
    cases selects : selectConsolidateRun parse host options with
    | error error => exact .done _
    | ok runID => exact consolidateSelected_neverAllocates host options (ne_empty_of_select selects)

/-- A host with the state file of one run. -/
def oneRun : ConsolidateHost Unit :=
  ⟨"p", .ok (), .ok "A", .ok [], fun runID => if runID = "p-01" then .ok () else .error .notExist,
    fun _ => .ok (), "state"⟩

/-- `consolidate --run-id p-01`. -/
def givenRun : ConsolidateOptions Unit :=
  ⟨"p-01", false, false, false, false, false, fun _ => true,
    ⟨"p-01", [], false, false, false, false, false⟩⟩

/-- A run that is being measured is refused. -/
theorem standaloneConsolidate_spares_measuring :
    ∃ rs, rs.state = .measuring ∧ ∃ result after,
      Runs LoggedAnswers (standaloneConsolidate (fun _ => none) oneRun givenRun).run (some rs, [])
        result after ∧ (∃ error, result = .error error) ∧ after.1 = some rs := by
  let rs : RunState := { RunState.fresh with state := .measuring }
  have selects : selectConsolidateRun (fun _ => none) oneRun givenRun = .ok "p-01" := by decide
  obtain ⟨result, run⟩ : ∃ result, Runs LoggedAnswers
      (standaloneConsolidate (fun _ => none) oneRun givenRun).run (some rs, []) result
      (some rs, [.stat, .load]) := by
    unfold standaloneConsolidate
    rw [selects]
    exact ⟨_, Runs.call_iff.mpr ⟨.ok true, (some rs, [.stat]), ⟨.stat _, rfl⟩,
      Runs.call_iff.mpr ⟨.ok rs, (some rs, [.stat, .load]), ⟨.load _, rfl⟩, .done _ _⟩⟩⟩
  obtain ⟨fails, same, -⟩ := (standaloneConsolidate_spares_unfinished (fun _ => none) oneRun
    givenRun).1 "p-01" rs selects ⟨9, by decide, rfl⟩ _ _ run
  exact ⟨rs, rfl, _, _, run, fails, same⟩

end Mind

end PortableTpcc
