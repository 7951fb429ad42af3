import PortableTpcc.RunState

namespace PortableTpcc

namespace Mind

/-!
# Waiting for the launched processes

`waitProcesses` (`drive.go`) looks at each launched process again and again: at
its `artifact-manifest.json` first, and then, if that does not settle the matter,
at whether the process is alive.  Every call on a session is a command, so that
anything may happen on the hosts between two of them.  The relaying of logs and
the messages about the progress are left out; the number of turns is bounded, so
that every wait that ends is covered by some bound.
-/

/-- A file on a host. -/
structure RemoteFile where
  host : String
  path : String
deriving Repr, DecidableEq

/-- What is used of `launchedProc`. -/
structure LaunchedProc where
  role : String
  host : String
  instanceName : String
  pid : Int
  launchPid : Int
  procPath : String
  donePath : String
  instanceNonce : String
deriving Repr, DecidableEq

/-- What is used of `ArtifactManifest`. -/
structure ArtifactManifest where
  instanceNonce : String
  finalized : Bool
  exitStatus : Int
deriving Repr, DecidableEq

/-- What is used of `process.json`; a nonce that is no string is none. -/
structure ProcessMetadata where
  pid : Int
  instanceNonce : Option String
deriving Repr, DecidableEq

namespace LaunchedProc

/-- The key of a process in the maps of `waitProcesses`. -/
def key (p : LaunchedProc) : String :=
  p.role ++ "/" ++ p.instanceName

def procFile (p : LaunchedProc) : RemoteFile :=
  ⟨p.host, p.procPath⟩

def doneFile (p : LaunchedProc) : RemoteFile :=
  ⟨p.host, p.donePath⟩

/-- The process as it is recorded in the state of the run. -/
def toProcess (p : LaunchedProc) (state : String) : Process where
  role := p.role
  host := p.host
  instanceName := p.instanceName
  pid := p.pid
  launchPid := p.launchPid
  instanceNonce := p.instanceNonce
  state

/-- What `loadProcessMetadata` takes from the file. -/
def withMetadata (p : LaunchedProc) (metadata : ProcessMetadata) : LaunchedProc :=
  { p with
    pid := if metadata.pid > 0 then metadata.pid else p.pid
    instanceNonce := metadata.instanceNonce.getD p.instanceNonce }

end LaunchedProc

/-- The loop of `uniquePIDs`, after some of the numbers. -/
def uniquePIDs (seen : List Int) : List Int → List Int
  | [] => []
  | pid :: rest =>
    if pid ≤ 0 ∨ pid ∈ seen then
      uniquePIDs seen rest
    else
      pid :: uniquePIDs (pid :: seen) rest

/-- `pids`. -/
def LaunchedProc.pids (p : LaunchedProc) : List Int :=
  uniquePIDs [] [p.launchPid, p.pid]

/-- The errors of `waitProcesses`. -/
inductive WaitError where
  | interrupted
  | timeout
  /-- A call on a session has failed, or a file could not be decoded. -/
  | session (text : String)
  | missingNonce (p : LaunchedProc)
  | staleManifest (p : LaunchedProc) (nonce : String)
  | died (p : LaunchedProc) (logs : String)
  | exited (p : LaunchedProc) (status : Int) (logs : String)
deriving Repr, DecidableEq

/-- The texts of the errors, with the logs that `withProcessLogs` appends. -/
def WaitError.text : WaitError → String
  | .interrupted => "interrupted"
  | .timeout => "timeout waiting for processes to finish"
  | .session text => text
  | .missingNonce p => s!"{p.key} process metadata missing instance_nonce"
  | .staleManifest p nonce =>
    s!"{p.key} stale manifest nonce {nonce.quote} does not match launched " ++
      s!"nonce {p.instanceNonce.quote} and process is dead"
  | .died p logs => s!"{p.key} died before finalizing artifacts{logs}"
  | .exited p status logs => s!"{p.key} exited with status {status}{logs}"

/-- The commands of `waitProcesses`. -/
inductive HostCall where
  | checkInterrupted
  | pastDeadline
  /-- The order in which `range` gives the keys of the map. -/
  | iterate (keys : List String)
  | fileExists (file : RemoteFile)
  /-- `ReadFile` and `json.Unmarshal`. -/
  | readMetadata (file : RemoteFile)
  | readManifest (file : RemoteFile)
  | isAlive (host : String) (pid : Int)
  /-- `UpsertProcess`, whose error is not looked at. -/
  | upsertProcess (proc : Process)
  /-- What `withProcessLogs` appends to a message. -/
  | processLogs (p : LaunchedProc)
  | sleep

def HostCall.Reply : HostCall → Type
  | .checkInterrupted | .pastDeadline | .sleep => Bool
  | .iterate keys => { order : List String // order.Perm keys }
  | .fileExists _ | .isAlive _ _ => Except String Bool
  | .readMetadata _ => Except String ProcessMetadata
  | .readManifest _ => Except String ArtifactManifest
  | .upsertProcess _ => Unit
  | .processLogs _ => String

abbrev hostCalls : Interface where
  Command := HostCall
  Reply := HostCall.Reply

/-- The loop of `anyAlive`, with the last error. -/
def anyAlive (host : String) (lastErr : Option String) :
    List Int → Prog hostCalls (Bool × Option String)
  | [] => .done (false, lastErr)
  | pid :: rest =>
    .call (.isAlive host pid) fun
      | .error err => anyAlive host (some err) rest
      | .ok true => .done (true, none)
      | .ok false => anyAlive host lastErr rest

/-- `err == nil && !alive`. -/
def LaunchedProc.isDead (p : LaunchedProc) : Prog hostCalls Bool := do
  let (alive, err) ← anyAlive p.host none p.pids
  return err.isNone && !alive

/-- `loadProcessMetadata`. -/
def loadProcessMetadata (p : LaunchedProc) : Prog hostCalls (Except String (Bool × LaunchedProc)) :=
  .call (.fileExists p.procFile) fun
    | .error err => .done (.error err)
    | .ok false => .done (.ok (false, p))
    | .ok true =>
      .call (.readMetadata p.procFile) fun
        | .error err => .done (.error err)
        | .ok metadata =>
          let p := p.withMetadata metadata
          .call (.upsertProcess (p.toProcess "running")) fun _ => .done (.ok (true, p))

/-- The nonce is loaded if it is not known. -/
def ensureNonce (p : LaunchedProc) : Prog hostCalls (Except WaitError LaunchedProc) :=
  if p.instanceNonce = "" then do
    match ← loadProcessMetadata p with
    | .error err => return .error (.session err)
    | .ok (loaded, p) =>
      if !loaded ∨ p.instanceNonce = "" then
        return .error (.missingNonce p)
      else
        return .ok p
  else
    return .ok p

/-- The manifest, if it exists. -/
def probeManifest (p : LaunchedProc) :
    Prog hostCalls (Except WaitError (Option ArtifactManifest)) :=
  .call (.fileExists p.doneFile) fun
    | .error err => .done (.error (.session err))
    | .ok false => .done (.ok none)
    | .ok true =>
      .call (.readManifest p.doneFile) fun
        | .error err => .done (.error (.session err))
        | .ok manifest => .done (.ok (some manifest))

/-- What becomes of a process in one turn. -/
inductive Look where
  | keep (p : LaunchedProc)
  | delete
  | fail (error : WaitError)
deriving Repr, DecidableEq

/-- A process that is dead has failed; otherwise it is looked at again. -/
def giveUpIfDead (abortOnFail : Bool) (p : LaunchedProc) (error : Prog hostCalls WaitError) :
    Prog hostCalls Look := do
  if ← p.isDead then
    .call (.upsertProcess (p.toProcess "failed")) fun _ =>
      if abortOnFail then do
        return .fail (← error)
      else
        return .delete
  else
    return .keep p

/-- `withProcessLogs` with the message that the process has died. -/
def diedError (p : LaunchedProc) : Prog hostCalls WaitError :=
  .call (.processLogs p) fun (logs : String) => .done (.died p logs)

/-- The manifest is finalized.  The last look is for a warning only. -/
def finish (abortOnFail : Bool) (p : LaunchedProc) (status : Int) : Prog hostCalls Look :=
  let state := if status ≠ 0 then "failed" else "exited"
  .call (.upsertProcess (p.toProcess state)) fun _ => do
    let _ ← anyAlive p.host none p.pids
    if abortOnFail ∧ status ≠ 0 then
      .call (.processLogs p) fun (logs : String) => .done (.fail (.exited p status logs))
    else
      return .delete

/-- What follows from the manifest. -/
def judge (abortOnFail : Bool) (p : LaunchedProc) :
    Option ArtifactManifest → Prog hostCalls Look
  | none => giveUpIfDead abortOnFail p (diedError p)
  | some manifest =>
    if p.instanceNonce ≠ "" ∧ manifest.instanceNonce ≠ p.instanceNonce then
      giveUpIfDead abortOnFail p (.done (.staleManifest p manifest.instanceNonce))
    else if !manifest.finalized then
      giveUpIfDead abortOnFail p (diedError p)
    else
      finish abortOnFail p manifest.exitStatus

/-- The body of the loop over the remaining processes. -/
def lookAt (abortOnFail : Bool) (p : LaunchedProc) : Prog hostCalls Look := do
  match ← ensureNonce p with
  | .error err => return .fail err
  | .ok p =>
    match ← probeManifest p with
    | .error err => return .fail err
    | .ok seen => judge abortOnFail p seen

/-- The remaining processes when one of them has new fields. -/
def putRemaining (remaining : List LaunchedProc) (p : LaunchedProc) : List LaunchedProc :=
  remaining.map fun other => if other.key = p.key then p else other

/-- `delete(remaining, key)`. -/
def deleteRemaining (remaining : List LaunchedProc) (key : String) : List LaunchedProc :=
  remaining.filter (·.key ≠ key)

/-- The loop over the remaining processes, in the order of the keys. -/
def turn (abortOnFail : Bool) :
    List String → List LaunchedProc → Prog hostCalls (Except WaitError (List LaunchedProc))
  | [], remaining => .done (.ok remaining)
  | key :: order, remaining =>
    match remaining.find? (·.key = key) with
    | none => turn abortOnFail order remaining
    | some p => do
        match ← lookAt abortOnFail p with
        | .fail err => return .error err
        | .delete => turn abortOnFail order (deleteRemaining remaining key)
        | .keep p => turn abortOnFail order (putRemaining remaining p)

/-- The loop of `waitProcesses`; none if the processes are still waited for. -/
def waitLoop (abortOnFail : Bool) :
    Nat → List LaunchedProc → Prog hostCalls (Option (Except WaitError Unit))
  | _, [] => .done (some (.ok ()))
  | 0, _ :: _ => .done none
  | turns + 1, remaining =>
    .call .checkInterrupted fun (interrupted : Bool) =>
      if interrupted then
        .done (some (.error .interrupted))
      else
        .call .pastDeadline fun (late : Bool) =>
          if late then
            .done (some (.error .timeout))
          else
            .call (.iterate (remaining.map LaunchedProc.key)) fun order => do
              match ← turn abortOnFail order.val remaining with
              | .error err => return some (.error err)
              | .ok remaining =>
                .call .sleep fun (interrupted : Bool) =>
                  if interrupted then
                    .done (some (.error .interrupted))
                  else
                    waitLoop abortOnFail turns remaining

/-- `remaining[key] = p`. -/
def addRemaining (remaining : List LaunchedProc) (p : LaunchedProc) : List LaunchedProc :=
  deleteRemaining remaining p.key ++ [p]

/-- `waitProcesses`. -/
def waitProcesses (turns : Nat) (procs : List LaunchedProc) (abortOnFail : Bool) :
    Prog hostCalls (Option (Except WaitError Unit)) :=
  waitLoop abortOnFail turns (procs.foldl addRemaining [])

end Mind

end PortableTpcc
