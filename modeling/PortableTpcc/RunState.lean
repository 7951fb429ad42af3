import Mathlib.Data.Finmap
import PortableTpcc.FallibleChecks
import PortableTpcc.InteractionPrograms

namespace PortableTpcc

namespace Mind

/-!
# The state of a run

`state.go` keeps the state of a run in one file on the control host.  Every
operation reads the whole file and writes it back by a rename, and may fail to
do either.
-/

/-- The states of a run, and any other text that the file may hold. -/
inductive StateName where
  | planned
  | deploying
  | schema
  | loading
  | indexing
  | checkingImport
  | preparing
  | arming
  | ramping
  | measuring
  | draining
  | checkingResult
  | collecting
  | consolidating
  | completed
  | stopping
  | failed
  | other (text : String)
  deriving Repr, DecidableEq

/-- The text of a state in the file. -/
def StateName.text : StateName → String
  | .planned => "planned"
  | .deploying => "deploying"
  | .schema => "schema"
  | .loading => "loading"
  | .indexing => "indexing"
  | .checkingImport => "checking_import"
  | .preparing => "preparing"
  | .arming => "arming"
  | .ramping => "ramping"
  | .measuring => "measuring"
  | .draining => "draining"
  | .checkingResult => "checking_result"
  | .collecting => "collecting"
  | .consolidating => "consolidating"
  | .completed => "completed"
  | .stopping => "stopping"
  | .failed => "failed"
  | .other text => text

/-- `pipelineOrder`. -/
def pipelineOrder : StateName → Option Nat
  | .planned => some 0
  | .deploying => some 1
  | .schema => some 2
  | .loading => some 3
  | .indexing => some 4
  | .checkingImport => some 5
  | .preparing => some 6
  | .arming => some 7
  | .ramping => some 8
  | .measuring => some 9
  | .draining => some 10
  | .checkingResult => some 11
  | .collecting => some 12
  | .consolidating => some 13
  | .completed => some 14
  | .stopping => none
  | .failed => none
  | .other _ => none

/-- `Process`, without the time of its update. -/
structure Process where
  role : String
  host : String
  instanceName : String
  pid : Int
  launchPid : Int
  instanceNonce : String
  state : String
  deriving Repr, DecidableEq

/-- `RunState`, without its version and the time of its update. -/
structure RunState where
  state : StateName
  error : String
  insecureHostKey : Bool
  processes : Finmap fun _ : String => Process
  skippedSteps : List String
  startAt : String

/-- What `Load` returns for a run without a file. -/
def RunState.fresh : RunState where
  state := .planned
  error := ""
  insecureHostKey := false
  processes := ∅
  skippedSteps := []
  startAt := ""

/-- `IsTerminal`. -/
def isTerminal (state : StateName) : Bool :=
  state = .completed || state = .failed

/-- `allowedRecovery`. -/
def allowedRecovery (oldState newState : StateName) : Bool :=
  match newState, oldState with
  | .indexing, .checkingImport => true
  | .indexing, .checkingResult => true
  | .indexing, .draining => true
  | .indexing, .collecting => true
  | .indexing, .consolidating => true
  | .collecting, .consolidating => true
  | _, _ => false

/-- `validateTransition`. -/
def validateTransition (recorded newState : StateName) : Except String Unit :=
  let oldState := if recorded = .other "" then .planned else recorded
  let invalid := s!"invalid state transition {oldState.text} -> {newState.text}"
  if oldState = newState then
    .ok ()
  else if isTerminal oldState then
    .error invalid
  else if newState = .failed ∨ newState = .stopping then
    .ok ()
  else if oldState = .stopping then
    .error invalid
  else if allowedRecovery oldState newState then
    .ok ()
  else
    match pipelineOrder oldState, pipelineOrder newState with
    | some oldOrder, some newOrder =>
      if newOrder < oldOrder then .error invalid else .ok ()
    | _, _ => .error invalid

/-- `Reached`. -/
def reached (current least : StateName) : Bool :=
  match pipelineOrder current, pipelineOrder least with
  | some currentOrder, some leastOrder => currentOrder ≥ leastOrder
  | _, _ => false

/-- Work of a command outside the state file. -/
inductive Work where
  | resolveRunID
  | acquireLocks
  | materializeRunConfig
  | loadConsolidateContext
  | requireWorkerBinary
  | openSessions
  | launchRole (role : String)
  | waitProcesses
  | signalPeers
  | finishRemote
  | writeStartToken
  | collectArtifacts
  | consolidateResults
  deriving Repr, DecidableEq

/-- What such work leaves: the processes it recorded, and how it failed. -/
structure WorkReport where
  processes : List Process
  failure : Option String

/-- What one look at the workers before the measurement finds. -/
inductive BeforeMeasurement where
  | started
  | aborted (error : String)
  | waits (rampStarted : Bool) (interrupted : Option String)

/-- What a command asks of the state file and of the world. -/
inductive PipelineCommand where
  | stat
  | load
  | save (rs : RunState)
  | work (task : Work)
  | beforeMeasurement
  | hasCollectionManifest

/-- The answer to each command. -/
abbrev PipelineAnswer : PipelineCommand → Type
  | .stat => Bool
  | .load => RunState
  | .save _ => Unit
  | .work _ => WorkReport
  | .beforeMeasurement => BeforeMeasurement
  | .hasCollectionManifest => Bool

/-- Every command may fail. -/
abbrev pipelineFace : Interface where
  Command := PipelineCommand
  Reply := fun command => Except String (PipelineAnswer command)

/-- Programs that return at their first error. -/
abbrev Pipeline (α : Type) : Type :=
  ExceptT String (Prog pipelineFace) α

/-- Issue a command. -/
def request (command : PipelineCommand) : Pipeline (PipelineAnswer command) :=
  ExceptT.mk (.call command .done)

/-- Go on whether or not this fails. -/
def ignore {α : Type} (program : Pipeline α) : Pipeline Unit :=
  ExceptT.mk (program.run >>= fun _ => .done (.ok ()))

/-- `Transition`. -/
def transition (newState : StateName) : Pipeline Unit := do
  let rs ← request .load
  ExceptT.mk (.done (validateTransition rs.state newState))
  request (.save { rs with state := newState })

/-- `Fail`. -/
def fail (cause : String) : Pipeline Unit := do
  let rs ← request .load
  request (.save { rs with state := .failed, error := cause })

/-- `RecordSkip`. -/
def recordSkip (step : String) : Pipeline Unit := do
  let rs ← request .load
  if step ∈ rs.skippedSteps then
    request (.save rs)
  else
    request (.save { rs with skippedSteps := rs.skippedSteps ++ [step] })

/-- `UpsertProcess`. -/
def upsertProcess (proc : Process) : Pipeline Unit := do
  let rs ← request .load
  let key := proc.role ++ "/" ++ proc.instanceName
  request (.save { rs with processes := rs.processes.insert key proc })

/-- The possible answers for a run whose file has this content. -/
inductive FileAnswers : Answers pipelineFace (Option RunState) where
  | failed (file : Option RunState) (command : PipelineCommand) (error : String) :
      FileAnswers file command (.error error) file
  | stat (file : Option RunState) : FileAnswers file .stat (.ok file.isSome) file
  | load (file : Option RunState) : FileAnswers file .load (.ok (file.getD .fresh)) file
  | save (file : Option RunState) (rs : RunState) : FileAnswers file (.save rs) (.ok ()) (some rs)
  | work (file : Option RunState) (task : Work) (report : WorkReport) :
      FileAnswers file (.work task) (.ok report) file
  | beforeMeasurement (file : Option RunState) (found : BeforeMeasurement) :
      FileAnswers file .beforeMeasurement (.ok found) file
  | hasCollectionManifest (file : Option RunState) (found : Bool) :
      FileAnswers file .hasCollectionManifest (.ok found) file

end Mind

end PortableTpcc
