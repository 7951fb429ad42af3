import PortableTpcc.RunState

namespace PortableTpcc

namespace Mind

/-!
# The commands of the pipeline

The stages of `orchestrator.go` and the commands of `cli.go` that run them on
one run.  What a stage does on the hosts is left to the world: it may record
processes in the state file, and it may fail.  The wait for the measurement is
bounded by a number of looks, so that every wait that ends is covered by some
bound.
-/

/-- What is used of `Options` and of the profile. -/
structure PipelineOptions where
  runID : String
  skipSteps : List String
  force : Bool
  insecureIgnore : Bool
  checkAfterImport : Bool
  wantAfterTest : Bool
  failFast : Bool
  deriving Repr, DecidableEq

/-- Work on the hosts, with the processes it records on the way. -/
def doWork (task : Work) : Pipeline Unit := do
  let report ← request (.work task)
  report.processes.forM fun proc => ignore (upsertProcess proc)
  match report.failure with
  | some error => throw error
  | none => return ()

/-- `stopPeers`. -/
def stopPeers : Pipeline Unit := do
  let _ ← request .load
  doWork .signalPeers

/-- Run a stage with open sessions and reap its processes at the end. -/
def withSessions (stage : Pipeline Unit) : Pipeline Unit := do
  doWork .openSessions
  let result ← ExceptT.lift stage.run
  ignore (doWork .finishRemote)
  ExceptT.mk (.done result)

/-- Stop the peers when this fails. -/
def orStopPeers (program : Pipeline Unit) : Pipeline Unit := do
  match ← ExceptT.lift program.run with
  | .ok () => return ()
  | .error error =>
    ignore stopPeers
    throw error

/-- `schema`. -/
def schema : Pipeline Unit := do
  transition .schema
  withSessions do
    doWork (.launchRole "schema")
    orStopPeers (doWork .waitProcesses)

/-- `load`. -/
def load : Pipeline Unit := do
  transition .loading
  withSessions do
    orStopPeers (doWork (.launchRole "loader"))
    orStopPeers (doWork .waitProcesses)

/-- `indexes`. -/
def indexes : Pipeline Unit := do
  transition .indexing
  withSessions do
    doWork (.launchRole "indexes")
    orStopPeers (doWork .waitProcesses)

/-- `requireCompletedLoad`. -/
def requireCompletedLoad (rs : RunState) (what : String) : Except String Unit :=
  if "indexes" ∈ rs.skippedSteps ∨ reached rs.state .indexing then
    .ok ()
  else
    .error <| s!"{what} requires a completed load (current state is " ++
      s!"{rs.state.text}); run 'mind-tpcc indexes' first"

/-- `requireCheckPhase`. -/
def requireCheckPhase (rs : RunState) (phase : String) : Except String Unit :=
  if rs.state = .stopping then
    .error "check refused while run is stopping"
  else if rs.state = .failed then
    .error "check refused while run is failed"
  else if phase = "after-import" ∨ phase = "after-test" then
    requireCompletedLoad rs ("check --" ++ phase)
  else
    .error s!"unknown check phase \"{phase}\""

/-- `check`, which does not change the state of the run. -/
def check (phase : String) : Pipeline Unit := do
  let rs ← request .load
  ExceptT.mk (.done (requireCheckPhase rs phase))
  withSessions do
    doWork (.launchRole "check")
    orStopPeers (doWork .waitProcesses)

/-- The transitions that the loop before the measurement tries each time. -/
def armAndRamp (rampStarted : Bool) : Pipeline Unit := do
  ignore (transition .arming)
  if rampStarted then
    ignore (transition .ramping)
  else
    return ()

/-- The loop of `superviseWorkers` before the measurement. -/
def awaitMeasurement : Nat → Pipeline Unit
  | 0 => throw "still waiting"
  | looks + 1 => do
      match ← request .beforeMeasurement with
      | .started => return ()
      | .aborted error =>
        ignore stopPeers
        throw error
      | .waits rampStarted interrupted =>
        armAndRamp rampStarted
        match interrupted with
        | some error =>
          ignore stopPeers
          throw error
        | none => awaitMeasurement looks

/-- `superviseWorkers`. -/
def superviseWorkers (looks : Nat) : Pipeline Unit := do
  awaitMeasurement looks
  ignore (transition .measuring)
  orStopPeers (doWork .waitProcesses)
  transition .draining

/-- `test`; the time of the start token is written to the state. -/
def test (looks : Nat) (startAt : String) : Pipeline Unit := do
  transition .preparing
  withSessions do
    doWork .writeStartToken
    let rs ← request .load
    request (.save { rs with startAt })
    orStopPeers (doWork (.launchRole "worker"))
    superviseWorkers looks

/-- `collect`. -/
def collect : Pipeline Unit := do
  transition .collecting
  doWork .openSessions
  doWork .collectArtifacts

/-- `consolidate`. -/
def consolidate : Pipeline Unit := do
  transition .consolidating
  let _ ← request .load
  doWork .consolidateResults

/-- `Stop`. -/
def stop : Pipeline Unit := do
  transition .stopping
  doWork .openSessions
  stopPeers

/-- `consolidateReady`. -/
def consolidateReady (state : StateName) : Bool :=
  state = .draining || state = .checkingResult || state = .collecting || state = .consolidating

/-- `refuseConsolidateWithoutTest`. -/
def refuseConsolidateWithoutTest (runID : String) : Pipeline Unit := do
  if runID = "" then
    throw "consolidate: empty run_id; state unchanged"
  else if ← request .stat then
    let rs ← request .load
    if consolidateReady rs.state || isTerminal rs.state || rs.state = .stopping then
      return ()
    else
      let state := if rs.state = .other "" then .planned else rs.state
      throw <| s!"consolidate refused: run {runID} has not finished test " ++
        s!"(state {state.text}); state unchanged"
  else
    throw s!"consolidate: run {runID} has no state; state unchanged"

/-- `RunConsolidate`. -/
def runConsolidate (runID : String) : Pipeline Unit := do
  refuseConsolidateWithoutTest runID
  if ← request .hasCollectionManifest then
    consolidate
  else
    collect
    consolidate

/-- `Materialize`, as far as it concerns the state of the run. -/
def materialize (options : PipelineOptions) : Pipeline Unit := do
  doWork .materializeRunConfig
  let stateExists ← request .stat
  let rs ← request .load
  let state :=
    if !stateExists || rs.state = .other "" || rs.state = .planned then
      .planned
    else
      rs.state
  request (.save { rs with state, insecureHostKey := options.insecureIgnore })

/-- `withMaterializedProfileLock`, without the release of the locks. -/
def withMaterializedProfileLock (options : PipelineOptions)
    (fn : Pipeline Unit) : Pipeline Unit := do
  doWork .resolveRunID
  doWork .acquireLocks
  materialize options
  fn

/-- `withConsolidateLock`, without the release of the lock. -/
def withConsolidateLock (options : PipelineOptions) (fn : Pipeline Unit) : Pipeline Unit := do
  doWork .resolveRunID
  refuseConsolidateWithoutTest options.runID
  doWork .acquireLocks
  if options.force then
    doWork .loadConsolidateContext
  else
    materialize options
  fn

/-- `shouldSkip`. -/
def shouldSkip (options : PipelineOptions) (name : String) : Bool :=
  options.skipSteps.any fun skipped =>
    skipped = name || (name = "test" && skipped = "start") ||
      (name = "check_after_test" && skipped = "check_after_run")

/-- `isCheckStep`. -/
def isCheckStep (name : String) : Bool :=
  name = "check_after_import" || name = "check_after_test"

/-- A step of `Run`. -/
structure PipelineStep where
  name : String
  enabled : Bool
  fn : Pipeline Unit

/-- The steps of `Run`. -/
def pipelineSteps (options : PipelineOptions) (looks : Nat)
    (startAt : String) : List PipelineStep :=
  [⟨"deploy", true, doWork .requireWorkerBinary⟩, ⟨"schema", true, schema⟩, ⟨"load", true, load⟩,
    ⟨"indexes", true, indexes⟩,
    ⟨"check_after_import", options.checkAfterImport, check "after-import"⟩,
    ⟨"test", true, test looks startAt⟩,
    ⟨"check_after_test", options.wantAfterTest, check "after-test"⟩, ⟨"collect", true, collect⟩,
    ⟨"consolidate", true, consolidate⟩]

/-- The loop over the steps. -/
def runSteps (options : PipelineOptions) : List PipelineStep → Pipeline Unit
  | [] => return ()
  | step :: rest => do
      if !step.enabled || shouldSkip options step.name then
        ignore (recordSkip step.name)
        runSteps options rest
      else
        match ← ExceptT.lift step.fn.run with
        | .ok () => runSteps options rest
        | .error error =>
          if isCheckStep step.name && !options.failFast then
            runSteps options rest
          else
            ignore (fail error)
            throw (step.name ++ ": " ++ error)

/-- `Run`, without the release of the locks. -/
def run (options : PipelineOptions) (looks : Nat) (startAt : String) : Pipeline Unit := do
  doWork .resolveRunID
  doWork .acquireLocks
  materialize options
  runSteps options (pipelineSteps options looks startAt)
  transition .completed

/-- The commands of `mind-tpcc` that work on the state of a run. -/
inductive RunVerb where
  | run
  | schema
  | load
  | indexes
  | check (phase : String)
  | test
  | collect
  | consolidate
  | stop
  deriving Repr, DecidableEq

/-- An invocation of `mind-tpcc`. -/
structure Invocation where
  verb : RunVerb
  options : PipelineOptions
  looks : Nat
  startAt : String
  deriving Repr, DecidableEq

/-- The program of an invocation. -/
def Invocation.program (invocation : Invocation) : Pipeline Unit :=
  match invocation.verb with
  | .run => Mind.run invocation.options invocation.looks invocation.startAt
  | .schema => withMaterializedProfileLock invocation.options Mind.schema
  | .load => withMaterializedProfileLock invocation.options Mind.load
  | .indexes => withMaterializedProfileLock invocation.options Mind.indexes
  | .check phase =>
    withMaterializedProfileLock invocation.options (Mind.check phase)
  | .test =>
    withMaterializedProfileLock invocation.options (Mind.test invocation.looks invocation.startAt)
  | .collect => withMaterializedProfileLock invocation.options Mind.collect
  | .consolidate =>
    withConsolidateLock invocation.options (runConsolidate invocation.options.runID)
  | .stop => withMaterializedProfileLock invocation.options Mind.stop

/-- The file before and after a sequence of invocations, each to its end. -/
inductive Invoked : List Invocation → Option RunState → Option RunState → Prop
    where
  | nil (file : Option RunState) : Invoked [] file file
  | cons {invocation : Invocation} {later : List Invocation} {before middle after : Option RunState}
      {result : Except String Unit}
      (first : Runs FileAnswers invocation.program.run before result middle)
      (rest : Invoked later middle after) : Invoked (invocation :: later) before after

end Mind

end PortableTpcc
