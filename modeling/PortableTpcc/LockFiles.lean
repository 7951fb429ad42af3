import Mathlib.Logic.Function.Basic

namespace PortableTpcc

namespace Mind

/-!
# Lock files

A `mind-tpcc` command holds a lock while the file of the lock exists that the
command has created (`state.go`).  Most commands lock their profile and then
their run (`AcquireProfileAndRunLocks`), `consolidate` locks its run only.  The
owner written into a file is the run and not the process.

Each operation on a file is one step, and the steps of any number of processes
interleave.  An operation may fail; `Close` does not.
-/

namespace LockFiles

/-- The two locks of a command. -/
inductive Slot where
  | profile
  | run
  deriving Repr, DecidableEq

/-- The operations of `acquireLockFile`. -/
inductive AcquireStage where
  | create
  /-- The file exists; its owner is read for the error. -/
  | readHeld
  | write
  /-- The write has failed; the file is removed. -/
  | undo
  deriving Repr, DecidableEq

/-- The operations of `releaseLockFile`. -/
inductive ReleaseStage where
  | read
  | remove
  deriving Repr, DecidableEq

/-- Where a process stands; a refusal is the error of its acquisition. -/
inductive Phase where
  | acquiring (slot : Slot) (stage : AcquireStage)
  | inside
  | releasing (slot : Slot) (stage : ReleaseStage) (refusal : Option String)
  | finished (refusal : Option String)
  deriving Repr, DecidableEq

/-- A process that runs one command on a run. -/
structure Process where
  /-- None for `consolidate`, which does not lock the profile. -/
  profileID : Option String
  runID : String
  phase : Phase
  /-- The locks it held whose files it could not read or remove. -/
  notReleased : List Slot
  deriving Repr, DecidableEq

/-- `ProfileLockPath` and `RunLockPath`. -/
structure LockPaths (Path : Type) where
  profile : String → Path
  run : String → Path

variable {Path : Type} [DecidableEq Path]

/-- The content of the lock files that exist. -/
abbrev Files (Path : Type) : Type :=
  Path → Option String

/-- The path of a lock that the command takes. -/
def Process.lockPath (paths : LockPaths Path) (proc : Process) : Slot → Option Path
  | .profile => proc.profileID.map paths.profile
  | .run => some (paths.run proc.runID)

def Process.goTo (proc : Process) (phase : Phase) : Process :=
  { proc with phase }

def Process.failing (proc : Process) (slot : Slot) : Process :=
  { proc with notReleased := slot :: proc.notReleased }

/-- What follows when the lock is not held any more, or was not acquired. -/
def Process.without (proc : Process) (slot : Slot) (refusal : Option String) : Process :=
  match slot, proc.profileID with
  | .run, some _ => proc.goTo (.releasing .profile .read refusal)
  | _, _ => proc.goTo (.finished refusal)

/-- What follows when the lock is acquired. -/
def Process.acquired (proc : Process) : Slot → Process
  | .profile => proc.goTo (.acquiring .run .create)
  | .run => proc.goTo .inside

/-- `onUnreadable` and `onHeld`; the content is none when it is unreadable. -/
def Process.lockedError (proc : Process) (content : Option String) :
    Slot → String
  | .run => s!"run {proc.runID} locked"
  | .profile =>
    let profileID := proc.profileID.getD ""
    match content with
    | none => s!"profile {profileID} locked by another run"
    | some owner => s!"profile {profileID} locked by run {owner}"

/-- One operation of `acquireLockFile`. -/
def acquireStep (files : Files Path) (proc : Process) (slot : Slot) (path : Path)
    (succeeds : Bool) : AcquireStage → Files Path × Process
  | .create =>
    if slot = .run ∧ proc.runID = "" then
      (files, proc.without slot (some "run lock requires a run id"))
    else if succeeds then
      match files path with
      | some _ => (files, proc.goTo (.acquiring slot .readHeld))
      | none =>
        (Function.update files path (some ""), proc.goTo (.acquiring slot .write))
    else
      (files, proc.without slot (some "open failed"))
  | .readHeld =>
    let content := if succeeds then files path else none
    (files, proc.without slot (some (proc.lockedError content slot)))
  | .write =>
    if succeeds then
      (Function.update files path (some proc.runID), proc.acquired slot)
    else
      (files, proc.goTo (.acquiring slot .undo))
  | .undo =>
    if succeeds then
      (Function.update files path none, proc.without slot (some "write failed"))
    else
      (files, (proc.failing slot).without slot (some "write failed"))

/-- One operation of `releaseLockFile`; its errors are not looked at. -/
def releaseStep (files : Files Path) (proc : Process) (slot : Slot) (path : Path)
    (refusal : Option String) (succeeds : Bool) : ReleaseStage → Files Path × Process
  | .read =>
    match files path with
    | none => (files, proc.without slot refusal)
    | some owner =>
      if succeeds then
        if owner = proc.runID then
          (files, proc.goTo (.releasing slot .remove refusal))
        else
          (files, proc.without slot refusal)
      else
        (files, (proc.failing slot).without slot refusal)
  | .remove =>
    if succeeds then
      (Function.update files path none, proc.without slot refusal)
    else
      (files, (proc.failing slot).without slot refusal)

/-- The next operation of a process; a command may run as long as it likes. -/
def stepProcess (paths : LockPaths Path) (files : Files Path) (proc : Process)
    (succeeds : Bool) : Option (Files Path × Process) :=
  match proc.phase with
  | .acquiring slot stage =>
    (proc.lockPath paths slot).map fun path => acquireStep files proc slot path succeeds stage
  | .inside => some (files, proc.goTo (.releasing .run .read none))
  | .releasing slot stage refusal =>
    (proc.lockPath paths slot).map fun path =>
      releaseStep files proc slot path refusal succeeds stage
  | .finished _ => none

/-- The lock files and all processes. -/
structure State (Path ι : Type) where
  files : Files Path
  processes : ι → Process

variable {ι : Type} [DecidableEq ι]

/-- One process takes its next step. -/
def step (paths : LockPaths Path) (s : State Path ι) (i : ι)
    (succeeds : Bool) : Option (State Path ι) :=
  (stepProcess paths s.files (s.processes i) succeeds).map fun after =>
    { files := after.1, processes := Function.update s.processes i after.2 }

/-- A process before its first operation. -/
def Process.Starts (proc : Process) : Prop :=
  proc.notReleased = [] ∧ proc.phase =
    .acquiring (if proc.profileID.isSome then .profile else .run) .create

/-- The states that the processes can reach from these files. -/
inductive Reached (paths : LockPaths Path) (files : Files Path) :
    State Path ι → Prop where
  | start {processes : ι → Process} (starts : ∀ i, (processes i).Starts) :
      Reached paths files ⟨files, processes⟩
  | step {s next : State Path ι} {i : ι} {succeeds : Bool} (reached : Reached paths files s)
      (stepped : LockFiles.step paths s i succeeds = some next) : Reached paths files next

end LockFiles

end Mind

end PortableTpcc
