import PortableTpcc.LockFiles

namespace PortableTpcc

namespace Mind

namespace LockFiles

/-!
# Mutual exclusion by lock files

A process holds a lock from the creation of its file to the removal.  A step
says what it does to one lock at most: it creates the file, writes the owner,
removes the file or gives the lock up without removing it.  From this follows
that each existing file is held by one process, and that a process removes only
files it holds, although the owner in a file is shared by all processes of a
run.
-/

/-- The file of the lock is there and was created by the process. -/
def Phase.holds : Phase → Slot → Bool
  | .acquiring .profile .write, .profile => true
  | .acquiring .profile .undo, .profile => true
  | .acquiring .run _, .profile => true
  | .acquiring .run .write, .run => true
  | .acquiring .run .undo, .run => true
  | .inside, _ => true
  | .releasing .run _ _, _ => true
  | .releasing .profile _ _, .profile => true
  | _, _ => false

/-- The owner was written to the file of the lock. -/
def Phase.written : Phase → Slot → Bool
  | .acquiring .run _, .profile => true
  | .inside, _ => true
  | .releasing .run _ _, _ => true
  | .releasing .profile _ _, .profile => true
  | _, _ => false

variable {Path ι : Type} [DecidableEq Path] [DecidableEq ι]
variable {paths : LockPaths Path}

/-- The process holds this lock. -/
def Process.Holds (paths : LockPaths Path) (proc : Process) (slot : Slot) (path : Path) : Prop :=
  proc.lockPath paths slot = some path ∧ proc.phase.holds slot = true

/-- The process has written its run into the file of this lock. -/
def Process.Wrote (paths : LockPaths Path) (proc : Process) (slot : Slot) (path : Path) : Prop :=
  proc.lockPath paths slot = some path ∧ proc.phase.written slot = true

/-- The process is inside its command with this lock. -/
def Process.Inside (paths : LockPaths Path) (proc : Process) (path : Path) : Prop :=
  proc.phase = .inside ∧ ∃ slot, proc.lockPath paths slot = some path

/-- The same command, which forgets no failure. -/
structure Process.Continues (proc after : Process) : Prop where
  profileID : after.profileID = proc.profileID
  runID : after.runID = proc.runID
  stillFailed : proc.notReleased ⊆ after.notReleased

/-- What a step of a process does to the files and to the locks it holds. -/
inductive Effect (paths : LockPaths Path) (files : Files Path)
    (proc after : Process) : Files Path → Prop where
  | moves
      (sameHolds : ∀ slot path, after.Holds paths slot path ↔ proc.Holds paths slot path)
      (sameWrote : ∀ slot path, after.Wrote paths slot path → proc.Wrote paths slot path) :
      Effect paths files proc after files
  | creates (slot : Slot) (path : Path) (absent : files path = none)
      (nowHolds : ∀ other place, after.Holds paths other place ↔
        proc.Holds paths other place ∨ other = slot ∧ place = path)
      (sameWrote : ∀ other place, after.Wrote paths other place → proc.Wrote paths other place) :
      Effect paths files proc after (Function.update files path (some ""))
  | writes (slot : Slot) (path : Path) (held : proc.Holds paths slot path)
      (sameHolds : ∀ other place, after.Holds paths other place ↔ proc.Holds paths other place)
      (nowWrote : ∀ other place, after.Wrote paths other place →
        proc.Wrote paths other place ∨ other = slot ∧ place = path) :
      Effect paths files proc after
        (Function.update files path (some proc.runID))
  | removes (slot : Slot) (path : Path) (held : proc.Holds paths slot path)
      (lessHolds : ∀ other place, after.Holds paths other place ↔
        proc.Holds paths other place ∧ other ≠ slot)
      (lessWrote : ∀ other place, after.Wrote paths other place → proc.Wrote paths other place) :
      Effect paths files proc after (Function.update files path none)
  | givesUp (slot : Slot) (path : Path) (held : proc.Holds paths slot path)
      (lessHolds : ∀ other place, after.Holds paths other place ↔
        proc.Holds paths other place ∧ other ≠ slot)
      (lessWrote : ∀ other place, after.Wrote paths other place → proc.Wrote paths other place)
      (why : slot ∈ after.notReleased ∨
        proc.Wrote paths slot path ∧ files path ≠ some proc.runID) :
      Effect paths files proc after files

/-- The locks below this one are held, and this one is not. -/
structure Process.Lacks (paths : LockPaths Path) (proc : Process) (slot : Slot) : Prop where
  holds : ∀ other place, proc.Holds paths other place ↔
    proc.lockPath paths other = some place ∧ slot = .run ∧ other = .profile
  wrote : ∀ other place, proc.Wrote paths other place ↔
    proc.lockPath paths other = some place ∧ slot = .run ∧ other = .profile

/-- This lock is held with those below, which are written. -/
structure Process.Has (paths : LockPaths Path) (proc : Process) (slot : Slot) : Prop where
  holds : ∀ other place, proc.Holds paths other place ↔ proc.lockPath paths other = some place ∧
    (slot = .run ∧ other = .profile ∨ other = slot)
  wrote : ∀ other place, proc.lockPath paths other = some place →
    slot = .run → other = .profile → proc.Wrote paths other place

section

omit [DecidableEq Path]

variable {proc : Process} {slot : Slot}

theorem lockPath_of_continues {after : Process} (continues : proc.Continues after) (other : Slot) :
    after.lockPath paths other = proc.lockPath paths other := by
  cases other with
  | profile =>
    simp [Process.lockPath, continues.profileID]
  | run =>
    simp [Process.lockPath, continues.runID]

theorem Phase.holds_of_written {phase : Phase} {slot : Slot} (written : phase.written slot = true) :
    phase.holds slot = true := by
  fun_cases Phase.written phase slot <;> simp_all [Phase.written, Phase.holds]

/-- A file is written only while it is held. -/
theorem Process.Wrote.holds {place : Path} (wrote : proc.Wrote paths slot place) :
    proc.Holds paths slot place := by
  exact ⟨wrote.1, Phase.holds_of_written wrote.2⟩

theorem lacks_of_phase {phase : Phase} (isPhase : proc.phase = phase)
    (holds : ∀ other, phase.holds other = decide (slot = .run ∧ other = .profile))
    (written : ∀ other, phase.written other = decide (slot = .run ∧ other = .profile)) :
    proc.Lacks paths slot where
  holds other _ := and_congr_right fun _ => by rw [isPhase, holds, decide_eq_true_iff]
  wrote other _ := and_congr_right fun _ => by rw [isPhase, written, decide_eq_true_iff]

theorem lacks_acquiring {stage : AcquireStage} (phase : proc.phase = .acquiring slot stage)
    (early : stage = .create ∨ stage = .readHeld) : proc.Lacks paths slot := by
  rcases early with rfl | rfl <;> apply lacks_of_phase phase <;> intro other <;>
    cases slot <;> cases other <;> rfl

theorem lacks_without (refusal : Option String) : (proc.without slot refusal).Lacks paths slot := by
  cases profile : proc.profileID <;> constructor <;> intro other place <;>
    cases slot <;> cases other <;>
    simp [Process.without, Process.Holds, Process.Wrote, Process.goTo,
    Process.lockPath, Phase.holds, Phase.written, profile]

theorem continues_without {before : Process} (continues : before.Continues proc) (slot : Slot)
    (refusal : Option String) : before.Continues (proc.without slot refusal) := by
  cases slot with
  | profile =>
    exact ⟨continues.profileID, continues.runID, continues.stillFailed⟩
  | run =>
    unfold Process.without
    split <;> exact ⟨continues.profileID, continues.runID, continues.stillFailed⟩

theorem notReleased_without (slot : Slot) (refusal : Option String) :
    (proc.without slot refusal).notReleased = proc.notReleased := by
  cases slot with
  | profile =>
    rfl
  | run =>
    unfold Process.without
    split <;> rfl

theorem has_of_phase {phase : Phase} (isPhase : proc.phase = phase)
    (holds : ∀ other, phase.holds other = decide (slot = .run ∧ other = .profile ∨ other = slot))
    (written : slot = .run → phase.written .profile = true) : proc.Has paths slot where
  holds other _ := and_congr_right fun _ => by rw [isPhase, holds, decide_eq_true_iff]
  wrote other _ isPath isRun isProfile := ⟨isPath, by rw [isPhase, isProfile, written isRun]⟩

theorem has_acquiring {stage : AcquireStage} (phase : proc.phase = .acquiring slot stage)
    (late : stage = .write ∨ stage = .undo) : proc.Has paths slot := by
  rcases late with rfl | rfl <;>
    refine has_of_phase phase (fun other => ?_) (by rintro rfl; rfl) <;>
    cases slot <;> cases other <;> rfl

theorem has_acquired : (proc.acquired slot).Has paths slot := by
  cases slot <;> refine has_of_phase rfl (fun other => ?_) (fun _ => rfl) <;> cases other <;> rfl

theorem has_releasing {stage : ReleaseStage} {refusal : Option String}
    (phase : proc.phase = .releasing slot stage refusal) : proc.Has paths slot := by
  refine has_of_phase phase (fun other => ?_) (by rintro rfl; rfl)
  cases slot <;> cases other <;> rfl

end

section

variable {files : Files Path} {proc after : Process} {slot : Slot} {path : Path}

/-- A step and what it leaves of the command. -/
def Does (paths : LockPaths Path) (files : Files Path) (proc : Process)
    (result : Files Path × Process) : Prop :=
  proc.Continues result.2 ∧ Effect paths files proc result.2 result.1

theorem does_nothing (lacks : proc.Lacks paths slot) (lacksAfter : after.Lacks paths slot)
    (continues : proc.Continues after) : Does paths files proc (files, after) := by
  refine ⟨continues, .moves ?_ ?_⟩
  · intro other place
    rw [lacks.holds, lacksAfter.holds, lockPath_of_continues continues]
  · intro other place wrote
    rw [lacksAfter.wrote, lockPath_of_continues continues] at wrote
    exact (lacks.wrote other place).mpr wrote

theorem does_create (lacks : proc.Lacks paths slot)
    (isPath : proc.lockPath paths slot = some path) (absent : files path = none) :
    Does paths files proc (Function.update files path (some ""),
      proc.goTo (.acquiring slot .write)) := by
  have has : (proc.goTo (.acquiring slot .write)).Has paths slot := has_acquiring rfl (.inl rfl)
  refine ⟨⟨rfl, rfl, .refl _⟩, .creates slot path absent ?_ ?_⟩
  · intro other place
    rw [has.holds, lacks.holds]
    constructor
    · rintro ⟨isPlace, below | rfl⟩
      · exact .inl ⟨isPlace, below⟩
      · exact .inr ⟨rfl, Option.some.inj (isPlace.symm.trans isPath)⟩
    · rintro (⟨isPlace, below⟩ | ⟨rfl, rfl⟩)
      · exact ⟨isPlace, .inl below⟩
      · exact ⟨isPath, .inr rfl⟩
  · intro other place wrote
    apply (lacks.wrote other place).mpr
    revert wrote
    cases slot <;> cases other <;>
      simp [Process.Wrote, Process.goTo, Process.lockPath, Phase.written]

/-- The lock is held and the owner is not yet written. -/
theorem does_write (has : proc.Has paths slot) (isPath : proc.lockPath paths slot = some path) :
    Does paths files proc (Function.update files path (some proc.runID), proc.acquired slot) := by
  have continues : proc.Continues (proc.acquired slot) := by
    cases slot with
    | profile =>
      exact ⟨rfl, rfl, .refl _⟩
    | run =>
      exact ⟨rfl, rfl, .refl _⟩
  have samePath (other : Slot) :
      (proc.acquired slot).lockPath paths other = proc.lockPath paths other :=
    lockPath_of_continues continues other
  have holds := (has.holds slot path).mpr ⟨isPath, .inr rfl⟩
  refine ⟨continues, .writes slot path holds ?_ ?_⟩
  · intro other place
    rw [has_acquired.holds, has.holds, samePath]
  · intro other place wrote
    obtain ⟨isPlace, below | rfl⟩ := (has_acquired.holds _ _).mp wrote.holds
    · rw [samePath] at isPlace
      exact .inl (has.wrote other place isPlace below.1 below.2)
    · rw [samePath] at isPlace
      exact .inr ⟨rfl, Option.some.inj (isPlace.symm.trans isPath)⟩

omit [DecidableEq Path] in
/-- The locks that are left when a held one is not held any more. -/
theorem holds_of_lacks (has : proc.Has paths slot) (lacks : after.Lacks paths slot)
    (continues : proc.Continues after) (other : Slot) (place : Path) :
    after.Holds paths other place ↔ proc.Holds paths other place ∧ other ≠ slot := by
  rw [lacks.holds, has.holds, lockPath_of_continues continues]
  constructor
  · rintro ⟨isPlace, isRun, isProfile⟩
    refine ⟨⟨isPlace, .inl ⟨isRun, isProfile⟩⟩, ?_⟩
    rw [isRun, isProfile]
    decide
  · rintro ⟨⟨isPlace, below | same⟩, different⟩
    · exact ⟨isPlace, below⟩
    · exact absurd same different

omit [DecidableEq Path] in
theorem wrote_of_lacks (has : proc.Has paths slot) (lacks : after.Lacks paths slot)
    (continues : proc.Continues after) (other : Slot) (place : Path)
    (wrote : after.Wrote paths other place) : proc.Wrote paths other place := by
  obtain ⟨isPlace, isRun, isProfile⟩ := (lacks.wrote other place).mp wrote
  rw [lockPath_of_continues continues] at isPlace
  exact has.wrote other place isPlace isRun isProfile

theorem does_remove (has : proc.Has paths slot) (lacks : after.Lacks paths slot)
    (continues : proc.Continues after) (isPath : proc.lockPath paths slot = some path) :
    Does paths files proc (Function.update files path none, after) :=
  ⟨continues, .removes slot path ((has.holds slot path).mpr ⟨isPath, .inr rfl⟩)
    (holds_of_lacks has lacks continues) (wrote_of_lacks has lacks continues)⟩

theorem does_giveUp (has : proc.Has paths slot) (lacks : after.Lacks paths slot)
    (continues : proc.Continues after) (isPath : proc.lockPath paths slot = some path)
    (why : slot ∈ after.notReleased ∨ proc.Wrote paths slot path ∧ files path ≠ some proc.runID) :
    Does paths files proc (files, after) :=
  ⟨continues, .givesUp slot path ((has.holds slot path).mpr ⟨isPath, .inr rfl⟩)
    (holds_of_lacks has lacks continues) (wrote_of_lacks has lacks continues) why⟩

/-- The process moves on and its locks stay as they are. -/
theorem does_stay {phase : Phase} (sameHolds : ∀ slot, phase.holds slot = proc.phase.holds slot)
    (sameWritten : ∀ slot, phase.written slot = proc.phase.written slot) :
    Does paths files proc (files, proc.goTo phase) := by
  refine ⟨⟨rfl, rfl, .refl _⟩, .moves ?_ ?_⟩
  · intro other place
    simp only [Process.Holds, Process.goTo, sameHolds]
    rfl
  · intro other place wrote
    simp only [Process.Wrote, Process.goTo, sameWritten] at wrote
    exact wrote

theorem Process.Continues.refl : proc.Continues proc :=
  ⟨rfl, rfl, .refl _⟩

theorem Process.Continues.failing : proc.Continues (proc.failing slot) :=
  ⟨rfl, rfl, List.subset_cons_self slot proc.notReleased⟩

theorem mem_notReleased_failing (slot : Slot) (refusal : Option String) :
    slot ∈ ((proc.failing slot).without slot refusal).notReleased := by
  rw [notReleased_without]
  exact List.mem_cons_self

theorem does_acquireStep {stage : AcquireStage} (phase : proc.phase = .acquiring slot stage)
    (isPath : proc.lockPath paths slot = some path) (succeeds : Bool) :
    Does paths files proc (acquireStep files proc slot path succeeds stage) := by
  cases stage with
  | create =>
    have lacks : proc.Lacks paths slot := lacks_acquiring phase (.inl rfl)
    simp only [acquireStep]
    split
    · exact does_nothing lacks (lacks_without _) (continues_without .refl _ _)
    · split
      · split
        · exact does_nothing lacks (lacks_acquiring rfl (.inr rfl)) ⟨rfl, rfl, .refl _⟩
        · rename_i absent
          exact does_create lacks isPath absent
      · exact does_nothing lacks (lacks_without _) (continues_without .refl _ _)
  | readHeld =>
    exact does_nothing (lacks_acquiring phase (.inr rfl)) (lacks_without _)
      (continues_without .refl _ _)
  | write =>
    simp only [acquireStep]
    split
    · exact does_write (has_acquiring phase (.inl rfl)) isPath
    · apply does_stay
      · intro other
        cases slot <;> cases other <;> simp [phase, Phase.holds]
      · intro other
        cases slot <;> cases other <;> simp [phase, Phase.written]
  | undo =>
    have has : proc.Has paths slot := has_acquiring phase (.inr rfl)
    simp only [acquireStep]
    split
    · exact does_remove has (lacks_without _) (continues_without .refl _ _) isPath
    · exact does_giveUp has (lacks_without _) (continues_without .failing _ _)
        isPath (.inl (mem_notReleased_failing _ _))

theorem does_releaseStep {stage : ReleaseStage} {refusal : Option String}
    (phase : proc.phase = .releasing slot stage refusal)
    (isPath : proc.lockPath paths slot = some path) (succeeds : Bool) :
    Does paths files proc (releaseStep files proc slot path refusal succeeds stage) := by
  have has : proc.Has paths slot := has_releasing phase
  have wrote : proc.Wrote paths slot path := by
    refine ⟨isPath, ?_⟩
    cases slot <;> simp [phase, Phase.written]
  cases stage with
  | read =>
    simp only [releaseStep]
    split
    · rename_i absent
      exact does_giveUp has (lacks_without _) (continues_without .refl _ _)
        isPath (.inr ⟨wrote, by simp [absent]⟩)
    · rename_i owner present
      split
      · split
        · apply does_stay
          · intro other
            cases slot <;> cases other <;> simp [phase, Phase.holds]
          · intro other
            cases slot <;> cases other <;> simp [phase, Phase.written]
        · rename_i otherOwner
          exact does_giveUp has (lacks_without _) (continues_without .refl _ _)
            isPath (.inr ⟨wrote, by simp [present, otherOwner]⟩)
      · exact does_giveUp has (lacks_without _) (continues_without .failing _ _)
          isPath (.inl (mem_notReleased_failing _ _))
  | remove =>
    simp only [releaseStep]
    split
    · exact does_remove has (lacks_without _) (continues_without .refl _ _) isPath
    · exact does_giveUp has (lacks_without _) (continues_without .failing _ _)
        isPath (.inl (mem_notReleased_failing _ _))

theorem does_stepProcess {succeeds : Bool} {result : Files Path × Process}
    (stepped : stepProcess paths files proc succeeds = some result) :
    Does paths files proc result := by
  unfold stepProcess at stepped
  split at stepped
  · rename_i slot stage phase
    obtain ⟨path, isPath, rfl⟩ := Option.map_eq_some_iff.mp stepped
    exact does_acquireStep phase isPath succeeds
  · rename_i phase
    cases stepped
    apply does_stay
    · intro other
      cases other <;> simp [phase, Phase.holds]
    · intro other
      cases other <;> simp [phase, Phase.written]
  · rename_i slot stage refusal phase
    obtain ⟨path, isPath, rfl⟩ := Option.map_eq_some_iff.mp stepped
    exact does_releaseStep phase isPath succeeds
  · cases stepped

end

/-- The process could not remove the file of this lock. -/
def Process.LeftBehind (paths : LockPaths Path) (proc : Process) (path : Path) : Prop :=
  ∃ slot ∈ proc.notReleased, proc.lockPath paths slot = some path

/-- What holds of the files and the processes in every reached state. -/
structure Guarded (paths : LockPaths Path) (initial : Files Path) (s : State Path ι) : Prop where
  /-- A lock is held once. -/
  exclusive : ∀ i j slot other path, (s.processes i).Holds paths slot path →
    (s.processes j).Holds paths other path → i = j ∧ slot = other
  present : ∀ i slot path, (s.processes i).Holds paths slot path → s.files path ≠ none
  content : ∀ i slot path, (s.processes i).Wrote paths slot path →
    s.files path = some (s.processes i).runID
  /-- The files that were there at the start are never touched. -/
  untouched : ∀ path, initial path ≠ none → s.files path = initial path
  fresh : ∀ i slot path, (s.processes i).Holds paths slot path → initial path = none
  /-- A file that has appeared is held, or could not be removed. -/
  accounted : ∀ path, s.files path ≠ initial path →
    ∃ i, (∃ slot, (s.processes i).Holds paths slot path) ∨ (s.processes i).LeftBehind paths path

section

variable {initial : Files Path} {s : State Path ι}

omit [DecidableEq Path] [DecidableEq ι] in
theorem guarded_start {processes : ι → Process} (starts : ∀ i, (processes i).Starts) :
    Guarded paths initial ⟨initial, processes⟩ := by
  have nothing (i : ι) (slot : Slot) (path : Path) : ¬(processes i).Holds paths slot path := by
    intro holds
    obtain ⟨isPath, held⟩ := holds
    rw [(starts i).2] at held
    cases profile : (processes i).profileID <;> cases slot <;>
      simp_all [Phase.holds, Process.lockPath]
  exact {
    exclusive := fun i _ slot _ path holds _ => absurd holds (nothing i slot path)
    present := fun i slot path holds => absurd holds (nothing i slot path)
    content := fun i slot path wrote => absurd wrote.holds (nothing i slot path)
    untouched := fun _ _ => rfl
    fresh := fun i slot path holds => absurd holds (nothing i slot path)
    accounted := fun _ changed => absurd rfl changed }

end

/-- What the other processes have to know of a step. -/
structure Tame (paths : LockPaths Path) (files : Files Path) (proc after : Process)
    (filesAfter : Files Path) : Prop where
  /-- A step changes a file that it creates or whose lock it holds. -/
  changesOwn : ∀ path, filesAfter path ≠ files path →
    (∃ slot, proc.Holds paths slot path) ∨ files path = none
  nowHeld : ∀ slot path, after.Holds paths slot path → filesAfter path ≠ none ∧
    (proc.Holds paths slot path ∨ files path = none)
  heldOnce : ∀ slot other path, after.Holds paths slot path →
    after.Holds paths other path → slot = other
  nowWritten : ∀ slot path, after.Wrote paths slot path → filesAfter path = some after.runID
  accountsFor : ∀ path, (∃ slot, proc.Holds paths slot path) ∨ filesAfter path ≠ files path →
    filesAfter path = none ∨ (∃ slot, after.Holds paths slot path) ∨ after.LeftBehind paths path

section

variable {files filesAfter : Files Path} {proc after : Process}

theorem eq_of_update_ne {path place : Path} {content : Option String}
    (changed : Function.update files path content place ≠ files place) : place = path := by
  by_contra different
  exact changed (Function.update_of_ne different _ _)

theorem Effect.tame (effect : Effect paths files proc after filesAfter)
    (continues : proc.Continues after) (heldOnce : ∀ slot other path, proc.Holds paths slot path →
      proc.Holds paths other path → slot = other)
    (present : ∀ slot path, proc.Holds paths slot path → files path ≠ none)
    (content : ∀ slot path, proc.Wrote paths slot path → files path = some proc.runID) :
    Tame paths files proc after filesAfter := by
  cases effect with
  | moves sameHolds sameWrote =>
    constructor
    · intro path changed
      exact absurd rfl changed
    · intro slot path holds
      rw [sameHolds] at holds
      exact ⟨present slot path holds, .inl holds⟩
    · intro slot other path holds otherHolds
      rw [sameHolds] at holds otherHolds
      exact heldOnce slot other path holds otherHolds
    · intro slot path wrote
      rw [continues.runID]
      exact content slot path (sameWrote slot path wrote)
    · rintro path (⟨slot, holds⟩ | changed)
      · exact .inr (.inl ⟨slot, (sameHolds slot path).mpr holds⟩)
      · exact absurd rfl changed
  | creates slot path absent nowHolds sameWrote =>
    have elsewhere {other : Slot} {place : Path}
        (holds : proc.Holds paths other place) : place ≠ path := by
      rintro rfl
      exact present other place holds absent
    constructor
    · intro place changed
      exact .inr (eq_of_update_ne changed ▸ absent)
    · intro other place holds
      rcases (nowHolds other place).mp holds with holds | ⟨rfl, rfl⟩
      · rw [Function.update_of_ne (elsewhere holds)]
        exact ⟨present other place holds, .inl holds⟩
      · simp [absent]
    · intro one other place holds otherHolds
      rcases (nowHolds one place).mp holds with holds | ⟨rfl, rfl⟩ <;>
        rcases (nowHolds other place).mp otherHolds with
          otherHolds | ⟨rfl, isPath⟩
      · exact heldOnce one other place holds otherHolds
      · exact absurd isPath (elsewhere holds)
      · exact absurd rfl (elsewhere otherHolds)
      · rfl
    · intro other place wrote
      have before := sameWrote other place wrote
      rw [Function.update_of_ne (elsewhere before.holds), continues.runID]
      exact content other place before
    · rintro place (⟨other, holds⟩ | changed)
      · exact .inr (.inl ⟨other, (nowHolds other place).mpr (.inl holds)⟩)
      · have isPath := eq_of_update_ne changed
        exact .inr (.inl ⟨slot, (nowHolds slot place).mpr (.inr ⟨rfl, isPath⟩)⟩)
  | writes slot path held sameHolds nowWrote =>
    constructor
    · intro place changed
      exact .inl ⟨slot, eq_of_update_ne changed ▸ held⟩
    · intro other place holds
      rw [sameHolds] at holds
      refine ⟨?_, .inl holds⟩
      by_cases isPath : place = path
      · simp [isPath]
      · rw [Function.update_of_ne isPath]
        exact present other place holds
    · intro one other place holds otherHolds
      rw [sameHolds] at holds otherHolds
      exact heldOnce one other place holds otherHolds
    · intro other place wrote
      rw [continues.runID]
      by_cases isPath : place = path
      · simp [isPath]
      · rw [Function.update_of_ne isPath]
        rcases nowWrote other place wrote with wrote | ⟨_, same⟩
        · exact content other place wrote
        · exact absurd same isPath
    · rintro place (⟨other, holds⟩ | changed)
      · exact .inr (.inl ⟨other, (sameHolds other place).mpr holds⟩)
      · refine .inr (.inl ⟨slot, (sameHolds slot place).mpr ?_⟩)
        exact eq_of_update_ne changed ▸ held
  | removes slot path held lessHolds lessWrote =>
    have elsewhere {other : Slot} {place : Path}
        (holds : after.Holds paths other place) : place ≠ path := by
      rintro rfl
      obtain ⟨holds, different⟩ := (lessHolds other place).mp holds
      exact different (heldOnce other slot place holds held)
    constructor
    · intro place changed
      exact .inl ⟨slot, eq_of_update_ne changed ▸ held⟩
    · intro other place holds
      rw [Function.update_of_ne (elsewhere holds)]
      have before := ((lessHolds other place).mp holds).1
      exact ⟨present other place before, .inl before⟩
    · intro one other place holds otherHolds
      exact heldOnce one other place ((lessHolds one place).mp holds).1
        ((lessHolds other place).mp otherHolds).1
    · intro other place wrote
      rw [Function.update_of_ne (elsewhere wrote.holds), continues.runID]
      exact content other place (lessWrote other place wrote)
    · rintro place (⟨other, holds⟩ | changed)
      · by_cases isSlot : other = slot
        · subst isSlot
          have isPath : place = path := Option.some.inj (holds.1.symm.trans held.1)
          simp [isPath]
        · exact .inr (.inl ⟨other, (lessHolds other place).mpr ⟨holds, isSlot⟩⟩)
      · simp [eq_of_update_ne changed]
  | givesUp slot path held lessHolds lessWrote why =>
    constructor
    · intro place changed
      exact absurd rfl changed
    · intro other place holds
      have before := ((lessHolds other place).mp holds).1
      exact ⟨present other place before, .inl before⟩
    · intro one other place holds otherHolds
      exact heldOnce one other place ((lessHolds one place).mp holds).1
        ((lessHolds other place).mp otherHolds).1
    · intro other place wrote
      rw [continues.runID]
      exact content other place (lessWrote other place wrote)
    · rintro place (⟨other, holds⟩ | changed)
      · by_cases isSlot : other = slot
        · subst isSlot
          have isPath : place = path := Option.some.inj (holds.1.symm.trans held.1)
          rcases why with failed | ⟨wrote, mismatch⟩
          · refine .inr (.inr ⟨other, failed, ?_⟩)
            rw [lockPath_of_continues continues]
            exact holds.1
          · exact absurd (content other path wrote) mismatch
        · exact .inr (.inl ⟨other, (lessHolds other place).mpr ⟨holds, isSlot⟩⟩)
      · exact absurd rfl changed

end

section

variable {initial : Files Path} {s next : State Path ι} {i : ι}
variable {succeeds : Bool}

/-- What a step says, in a state whose locks are guarded. -/
theorem Guarded.stepped (guarded : Guarded paths initial s)
    (stepped : step paths s i succeeds = some next) :
    ∃ after, next.processes = Function.update s.processes i after ∧
      (s.processes i).Continues after ∧ Tame paths s.files (s.processes i) after next.files := by
  obtain ⟨⟨filesAfter, after⟩, does, rfl⟩ := Option.map_eq_some_iff.mp stepped
  obtain ⟨continues, effect⟩ := does_stepProcess does
  refine ⟨after, rfl, continues, effect.tame continues ?_ ?_ ?_⟩
  · intro slot other path holds otherHolds
    exact (guarded.exclusive i i slot other path holds otherHolds).2
  · exact guarded.present i
  · exact guarded.content i

omit [DecidableEq Path] [DecidableEq ι] in
/-- A step leaves the file of every lock that another process holds. -/
theorem Guarded.othersKept (guarded : Guarded paths initial s) {after : Process}
    {filesAfter : Files Path} (tame : Tame paths s.files (s.processes i) after filesAfter) {j : ι}
    (different : j ≠ i) {slot : Slot} {path : Path}
    (holds : (s.processes j).Holds paths slot path) : filesAfter path = s.files path := by
  by_contra changed
  rcases tame.changesOwn path changed with ⟨own, ownHolds⟩ | absent
  · exact different (guarded.exclusive j i slot own path holds ownHolds).1
  · exact guarded.present j slot path holds absent

omit [DecidableEq Path] [DecidableEq ι] in
theorem Guarded.initialKept (guarded : Guarded paths initial s) {after : Process}
    {filesAfter : Files Path} (tame : Tame paths s.files (s.processes i) after filesAfter)
    {path : Path} (existed : initial path ≠ none) : filesAfter path = initial path := by
  have before := guarded.untouched path existed
  by_contra changed
  rw [← before] at changed
  rcases tame.changesOwn path changed with ⟨own, ownHolds⟩ | absent
  · exact existed (guarded.fresh i own path ownHolds)
  · exact existed (before ▸ absent)

theorem guarded_step (guarded : Guarded paths initial s)
    (stepped : step paths s i succeeds = some next) : Guarded paths initial next := by
  obtain ⟨after, processes, continues, tame⟩ := guarded.stepped stepped
  have own : next.processes i = after := by
    simp [processes]
  have others {j : ι} (different : j ≠ i) : next.processes j = s.processes j := by
    simp [processes, different]
  have takes {j : ι} (different : j ≠ i) {slot other : Slot} {path : Path}
      (holds : after.Holds paths slot path)
      (otherHolds : (s.processes j).Holds paths other path) : False := by
    rcases (tame.nowHeld slot path holds).2 with before | absent
    · exact different (guarded.exclusive j i other slot path otherHolds before).1
    · exact guarded.present j other path otherHolds absent
  constructor
  · intro j k slot other path holds otherHolds
    by_cases isJ : j = i <;> by_cases isK : k = i
    · subst isJ isK
      rw [own] at holds otherHolds
      exact ⟨rfl, tame.heldOnce slot other path holds otherHolds⟩
    · rw [isJ, own] at holds
      rw [others isK] at otherHolds
      exact (takes isK holds otherHolds).elim
    · rw [others isJ] at holds
      rw [isK, own] at otherHolds
      exact (takes isJ otherHolds holds).elim
    · rw [others isJ] at holds
      rw [others isK] at otherHolds
      exact guarded.exclusive j k slot other path holds otherHolds
  · intro j slot path holds
    by_cases isJ : j = i
    · rw [isJ, own] at holds
      exact (tame.nowHeld slot path holds).1
    · rw [others isJ] at holds
      rw [guarded.othersKept tame isJ holds]
      exact guarded.present j slot path holds
  · intro j slot path wrote
    by_cases isJ : j = i
    · rw [isJ, own] at wrote ⊢
      exact tame.nowWritten slot path wrote
    · rw [others isJ] at wrote ⊢
      rw [guarded.othersKept tame isJ wrote.holds]
      exact guarded.content j slot path wrote
  · intro path existed
    exact guarded.initialKept tame existed
  · intro j slot path holds
    by_cases isJ : j = i
    · rw [isJ, own] at holds
      rcases (tame.nowHeld slot path holds).2 with before | absent
      · exact guarded.fresh i slot path before
      · by_contra existed
        exact existed (guarded.untouched path existed ▸ absent)
    · rw [others isJ] at holds
      exact guarded.fresh j slot path holds
  · intro path changed
    by_cases touched : (∃ slot, (s.processes i).Holds paths slot path) ∨
      next.files path ≠ s.files path
    · rcases tame.accountsFor path touched with gone | accounted
      · have existed : initial path ≠ none := by
          rw [← gone]
          exact changed.symm
        exact absurd (guarded.initialKept tame existed) changed
      · exact ⟨i, own ▸ accounted⟩
    · rw [not_or, not_not] at touched
      obtain ⟨j, accounted⟩ := guarded.accounted path (touched.2 ▸ changed)
      refine ⟨j, ?_⟩
      by_cases isJ : j = i
      · subst isJ
        rcases accounted with holds | ⟨slot, failed, isPath⟩
        · exact absurd holds touched.1
        · refine .inr ⟨slot, own ▸ continues.stillFailed failed, ?_⟩
          rw [own, lockPath_of_continues continues]
          exact isPath
      · rw [others isJ]
        exact accounted

theorem guarded_of_reached (reached : Reached paths initial s) : Guarded paths initial s := by
  induction reached with
  | start starts =>
    exact guarded_start starts
  | step _ stepped guarded =>
    exact guarded_step guarded stepped

/--
A lock admits one process at a time, a step leaves the locks of the others in
place, and a process that was refused leaves no file behind: one that has
appeared is held by another process, or another could not remove it.
-/
theorem lockFiles_exclude (reached : Reached paths initial s) :
    (∀ path i j, (s.processes i).Inside paths path → (s.processes j).Inside paths path → i = j) ∧
      (∀ i succeeds next, step paths s i succeeds = some next →
      ∀ j slot path, j ≠ i → (s.processes j).Holds paths slot path →
      next.files path = s.files path) ∧
      ∀ i refusal, (s.processes i).phase = .finished (some refusal) →
      (s.processes i).notReleased = [] → ∀ path, s.files path ≠ initial path →
      ∃ j, j ≠ i ∧ ((∃ slot, (s.processes j).Holds paths slot path) ∨
      (s.processes j).LeftBehind paths path) := by
  have guarded := guarded_of_reached reached
  refine ⟨?_, ?_, ?_⟩
  · rintro path i j ⟨insideI, slot, isPath⟩ ⟨insideJ, other, isPathJ⟩
    have holdsI : (s.processes i).Holds paths slot path := ⟨isPath, by simp [insideI, Phase.holds]⟩
    have holdsJ : (s.processes j).Holds paths other path :=
      ⟨isPathJ, by simp [insideJ, Phase.holds]⟩
    exact (guarded.exclusive i j slot other path holdsI holdsJ).1
  · intro i succeeds next stepped j slot path different holds
    obtain ⟨after, _, _, tame⟩ := guarded.stepped stepped
    exact guarded.othersKept tame different holds
  · intro i refusal finished removed path changed
    obtain ⟨j, accounted⟩ := guarded.accounted path changed
    refine ⟨j, ?_, accounted⟩
    rintro rfl
    rcases accounted with ⟨slot, holds⟩ | ⟨_, failed, _⟩
    · have held := holds.2
      simp [finished, Phase.holds] at held
    · simp [removed] at failed

/-- The processes take these steps one after another. -/
def steps (paths : LockPaths Path) :
    State Path ι → List (ι × Bool) → Option (State Path ι)
  | s, [] => some s
  | s, (i, succeeds) :: rest =>
    (step paths s i succeeds).bind fun next => steps paths next rest

theorem reached_steps {choices : List (ι × Bool)} (reached : Reached paths initial s)
    (taken : steps paths s choices = some next) : Reached paths initial next := by
  induction choices generalizing s with
  | nil =>
    cases taken
    exact reached
  | cons choice rest ih =>
    obtain ⟨between, stepped, taken⟩ := Option.bind_eq_some_iff.mp taken
    exact ih (.step reached stepped) taken

end

/-- What `ProfileLockPath` and `RunLockPath` join to the state directory. -/
def statePaths : LockPaths String where
  profile id := "profiles/" ++ id ++ "/run.lock"
  run id := "run-locks/" ++ id

/-- Two processes on one run, of which one locks the profile too. -/
def sameRun : State String Bool where
  files _ := none
  processes
    | true => ⟨some "p", "r", .acquiring .profile .create, []⟩
    | false => ⟨none, "r", .acquiring .run .create, []⟩

/-- One is inside, and the other is refused and lets its profile go. -/
def refusedOnRun : List (Bool × Bool) :=
  [(false, true), (false, true), (true, true), (true, true), (true, true),
    (true, true), (true, true), (true, true)]

/-- The second process on a run is refused, and only the lock of the first is left. -/
theorem secondProcess_excluded :
    ∃ s, steps statePaths sameRun refusedOnRun = some s ∧ (s.processes false).phase = .inside ∧
      (s.processes true).phase = .finished (some "run r locked") ∧
      ∀ path, s.files path ≠ none → ∃ j, j ≠ true ∧
      ((∃ slot, (s.processes j).Holds statePaths slot path) ∨
      (s.processes j).LeftBehind statePaths path) := by
  have starts (i : Bool) : (sameRun.processes i).Starts := by
    cases i <;> exact ⟨rfl, rfl⟩
  have ends : (steps statePaths sameRun refusedOnRun).map
      (fun s => (s.processes false, s.processes true)) = some (⟨none, "r", .inside, []⟩,
      ⟨some "p", "r", .finished (some "run r locked"), []⟩) := by
    decide +kernel
  obtain ⟨s, taken, processes⟩ := Option.map_eq_some_iff.mp ends
  obtain ⟨inside, refused⟩ := Prod.mk.inj processes
  have reached : Reached statePaths (fun _ => none) sameRun := .start starts
  refine ⟨s, taken, congrArg Process.phase inside, congrArg Process.phase refused, ?_⟩
  apply (lockFiles_exclude (reached_steps reached taken)).2.2 true
  · exact congrArg Process.phase refused
  · exact congrArg Process.notReleased refused

end LockFiles

end Mind

end PortableTpcc
