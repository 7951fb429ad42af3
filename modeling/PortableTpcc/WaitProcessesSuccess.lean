import PortableTpcc.WaitProcessesLaws

namespace PortableTpcc

namespace Mind

/-!
# A wait that succeeds

With `abortOnFail`, a process leaves the map only when its manifest was read as
finalized, with the nonce of this launch and the exit status 0.  So a wait that
returns without an error has seen that for every process.  Nothing is assumed of
the replies.
-/

section

variable {trace after : List (Exchange hostCalls)} {p q r : LaunchedProc}
  {nonce : String}

/-- The nonce of this launch, which was known or was read. -/
def LaunchNonce (trace : List (Exchange hostCalls)) (p : LaunchedProc) (nonce : String) : Prop :=
  if p.instanceNonce = "" then
    ∃ metadata : ProcessMetadata, ⟨.readMetadata p.procFile, .ok metadata⟩ ∈ trace ∧
      metadata.instanceNonce = some nonce
  else
    nonce = p.instanceNonce

/-- The process was observed with the manifest of a success. -/
def ObservedSuccess (trace : List (Exchange hostCalls)) (p : LaunchedProc) : Prop :=
  ∃ manifest : ArtifactManifest, ⟨.readManifest p.doneFile, .ok manifest⟩ ∈ trace ∧
    manifest.finalized = true ∧ manifest.exitStatus = 0 ∧
    manifest.instanceNonce ≠ "" ∧ LaunchNonce trace p manifest.instanceNonce

theorem LaunchNonce.later (isNonce : LaunchNonce trace p nonce)
    (isLater : Later (recording hostCalls) trace after) : LaunchNonce after p nonce := by
  unfold LaunchNonce at *
  split at isNonce
  case isTrue unknown =>
    rcases isNonce with ⟨metadata, isRead, isMetadata⟩
    rw [if_pos unknown]
    exact ⟨metadata, isLater.recorded isRead, isMetadata⟩
  case isFalse known =>
    rw [if_neg known]
    exact isNonce

theorem ObservedSuccess.later (observed : ObservedSuccess trace p)
    (isLater : Later (recording hostCalls) trace after) : ObservedSuccess after p := by
  rcases observed with ⟨manifest, isRead, finalized, succeeded, isKnown, isNonce⟩
  exact ⟨manifest, isLater.recorded isRead, finalized, succeeded, isKnown, isNonce.later isLater⟩

/-- The process in the map is the one that was given, with what was loaded. -/
structure StandsFor (trace : List (Exchange hostCalls)) (p q : LaunchedProc) : Prop where
  key : q.key = p.key
  doneFile : q.doneFile = p.doneFile
  procFile : q.procFile = p.procFile
  known : q.instanceNonce ≠ "" → LaunchNonce trace p q.instanceNonce
  unknown : q.instanceNonce = "" → p.instanceNonce = ""

theorem StandsFor.refl (trace : List (Exchange hostCalls)) (p : LaunchedProc) :
    StandsFor trace p p where
  key := rfl
  doneFile := rfl
  procFile := rfl
  known isKnown := by
    rw [LaunchNonce, if_neg isKnown]
  unknown := id

theorem StandsFor.later (stands : StandsFor trace p q)
    (isLater : Later (recording hostCalls) trace after) : StandsFor after p q :=
  { stands with known := fun isKnown => (stands.known isKnown).later isLater }

/-- Loading the metadata does not exchange the process. -/
theorem StandsFor.ensureNonce (stands : StandsFor trace p q)
    (run : Runs (recording hostCalls) (ensureNonce q) trace (.ok r) after) :
    StandsFor after p r ∧ r.instanceNonce ≠ "" := by
  rcases runs_ensureNonce run with ⟨isKnown, isSame | ⟨unknown, loads⟩⟩
  · rw [isSame] at isKnown ⊢
    exact ⟨stands.later run.later, isKnown⟩
  · refine ⟨?_, isKnown⟩
    rcases loads with ⟨metadata, first, second, _, isRead, isLater, rfl⟩
    -- An empty nonce stays empty unless the metadata hold one.
    have isNonce : metadata.instanceNonce = some (q.withMetadata metadata).instanceNonce := by
      cases isMetadata : metadata.instanceNonce with
      | none =>
        rw [LaunchedProc.withMetadata, isMetadata] at isKnown
        exact absurd unknown isKnown
      | some nonce =>
        rw [LaunchedProc.withMetadata, isMetadata]
        rfl
    refine ⟨stands.key, stands.doneFile, stands.procFile, fun _ => ?_, ?_⟩
    · rw [LaunchNonce, if_pos (stands.unknown unknown), ← stands.procFile]
      refine ⟨metadata, isLater.recorded ?_, isNonce⟩
      rw [show second = first ++ [_] from isRead]
      exact List.mem_append_right _ (List.mem_singleton.mpr rfl)
    · intro isUnknown
      exact absurd isUnknown isKnown

/-- A process is deleted once its success was observed. -/
theorem StandsFor.observed (stands : StandsFor trace p q)
    (run : Runs (recording hostCalls) (lookAt true q) trace .delete after) :
    ObservedSuccess after p := by
  rcases runs_lookAt run with
    ⟨_, isFailed, _⟩ | ⟨r, seen, first, second, isEnsured, isProbed, isJudged⟩
  · exact absurd isFailed (by simp)
  · rcases stands.ensureNonce isEnsured with ⟨stands, isKnown⟩
    rcases runs_judge_delete isKnown isJudged with ⟨manifest, rfl, isNonce, finalized, succeeded⟩
    rcases runs_probeManifest isProbed with ⟨middle, _, isRead⟩
    have isRecorded : ⟨.readManifest p.doneFile, .ok manifest⟩ ∈ second := by
      rw [← stands.doneFile, show second = middle ++ [_] from isRead]
      exact List.mem_append_right _ (List.mem_singleton.mpr rfl)
    refine ⟨manifest, isJudged.later.recorded isRecorded, finalized, succeeded, ?_, ?_⟩
    · rw [isNonce]
      exact isKnown
    · rw [isNonce]
      exact (stands.known isKnown).later (isProbed.later.trans isJudged.later)

/-- Each process is still waited for, or its success was observed. -/
structure WaitsFor (procs remaining : List LaunchedProc)
    (trace : List (Exchange hostCalls)) : Prop where
  distinct : (remaining.map LaunchedProc.key).Nodup
  each : ∀ p ∈ procs,
    ObservedSuccess trace p ∨ ∃ q ∈ remaining, StandsFor trace p q

variable {remaining : List LaunchedProc}

theorem eq_of_key_eq (distinct : (remaining.map LaunchedProc.key).Nodup) (isFirst : p ∈ remaining)
    (isSecond : q ∈ remaining) (same : p.key = q.key) : p = q :=
  List.inj_on_of_nodup_map distinct isFirst isSecond same

theorem keys_putRemaining (remaining : List LaunchedProc) (q : LaunchedProc) :
    (putRemaining remaining q).map LaunchedProc.key = remaining.map LaunchedProc.key := by
  rw [putRemaining, List.map_map]
  apply List.map_congr_left
  intro other _
  show (if other.key = q.key then q else other).key = other.key
  split
  case isTrue same =>
    exact same.symm
  case isFalse =>
    rfl

theorem WaitsFor.later {procs : List LaunchedProc} (waits : WaitsFor procs remaining trace)
    (isLater : Later (recording hostCalls) trace after) : WaitsFor procs remaining after where
  distinct := waits.distinct
  each p member := by
    rcases waits.each p member with observed | ⟨q, isIn, stands⟩
    · exact .inl (observed.later isLater)
    · exact .inr ⟨q, isIn, stands.later isLater⟩

/-- The looks keep what is known of the processes. -/
theorem keptByLooks_waitsFor (procs : List LaunchedProc) :
    KeptByLooks (recording hostCalls) true (WaitsFor procs) (fun _ _ => True) where
  answered waits answered := waits.later (.single answered)
  keep := by
    intro remaining p q trace after waits member run
    rcases runs_lookAt_keep run with ⟨first, isEnsured, isLater⟩
    refine ⟨?_, ?_⟩
    · rw [keys_putRemaining]
      exact waits.distinct
    · intro given isGiven
      rcases waits.each given isGiven with observed | ⟨r, isIn, stands⟩
      · exact .inl (observed.later run.later)
      · right
        by_cases isSame : r = p
        · rw [isSame] at stands
          have standsNow := (stands.ensureNonce isEnsured).1
          refine ⟨q, ?_, standsNow.later isLater⟩
          apply List.mem_map.mpr
          refine ⟨p, member, ?_⟩
          rw [if_pos (stands.key.trans standsNow.key.symm)]
        · refine ⟨r, ?_, stands.later run.later⟩
          have isKey : q.key = p.key := ((StandsFor.refl trace p).ensureNonce isEnsured).1.key
          apply List.mem_map.mpr
          refine ⟨r, isIn, ?_⟩
          rw [if_neg]
          intro sameKey
          exact isSame (eq_of_key_eq waits.distinct isIn member (sameKey.trans isKey))
  delete := by
    intro remaining p trace after waits member run
    refine ⟨?_, ?_⟩
    · exact waits.distinct.sublist (List.filter_sublist.map _)
    · intro given isGiven
      rcases waits.each given isGiven with observed | ⟨r, isIn, stands⟩
      · exact .inl (observed.later run.later)
      · by_cases isSame : r = p
        · left
          rw [isSame] at stands
          exact stands.observed run
        · right
          refine ⟨r, ?_, stands.later run.later⟩
          apply List.mem_filter.mpr
          refine ⟨isIn, ?_⟩
          have differentKey : r.key ≠ p.key := mt (eq_of_key_eq waits.distinct isIn member) isSame
          simpa using differentKey
  fail _ _ _ := trivial

/-- Processes with different keys are all put into the map. -/
theorem foldl_addRemaining {procs : List LaunchedProc}
    (distinct : ((remaining ++ procs).map LaunchedProc.key).Nodup) :
    procs.foldl addRemaining remaining = remaining ++ procs := by
  induction procs generalizing remaining with
  | nil =>
    rw [List.append_nil]
    rfl
  | cons p rest ih =>
    have added : addRemaining remaining p = remaining ++ [p] := by
      rw [addRemaining, deleteRemaining, List.filter_eq_self.mpr]
      intro other isOther
      rw [List.map_append, List.map_cons] at distinct
      have different := (List.nodup_append.mp distinct).2.2 other.key
        (List.mem_map_of_mem isOther) p.key List.mem_cons_self
      simpa using different
    rw [List.foldl_cons, added, ih]
    · rw [List.append_assoc]
      rfl
    · rw [List.append_assoc]
      exact distinct

/--
A wait with `abortOnFail` returns without an error only if every process was
observed with a finalized manifest of this launch and the exit status 0.
-/
theorem waitProcesses_success {procs : List LaunchedProc}
    (distinct : (procs.map LaunchedProc.key).Nodup) {turns : Nat}
    (succeeded : (waitProcesses turns procs true).Traces (some (.ok ())) trace) :
    ∀ p ∈ procs, ObservedSuccess trace p := by
  have run := succeeded.runs []
  have isMap : procs.foldl addRemaining [] = procs := foldl_addRemaining distinct
  rw [waitProcesses, isMap] at run
  have initially : WaitsFor procs procs [] :=
    ⟨distinct, fun p member => .inr ⟨p, member, .refl [] p⟩⟩
  have atEnd := ((keptByLooks_waitsFor procs).waitLoop initially run).1 rfl
  intro p member
  rcases atEnd.each p member with observed | ⟨q, isIn, _⟩
  · exact observed
  · exact absurd isIn List.not_mem_nil

/-- A worker that was launched with the nonce `n`. -/
def launchedWorker : LaunchedProc where
  role := "worker"
  host := "h"
  instanceName := "1"
  pid := 8
  launchPid := 7
  procPath := "process.json"
  donePath := "artifact-manifest.json"
  instanceNonce := "n"

/-- A loader whose nonce is not known yet. -/
def launchedLoader : LaunchedProc :=
  { launchedWorker with
    role := "loader"
    instanceName := "2"
    pid := 0
    launchPid := 17
    procPath := "loader/process.json"
    donePath := "loader/artifact-manifest.json"
    instanceNonce := "" }

/-- What is known of it when its metadata were read. -/
def knownLoader : LaunchedProc :=
  { launchedLoader with pid := 18, instanceNonce := "m" }

/-- The exchanges of the first turn.  The worker has finished; the loader lives, although the first
look at it fails. -/
def firstTurn : List (Exchange hostCalls) :=
  [⟨.checkInterrupted, false⟩, ⟨.pastDeadline, false⟩,
    ⟨.iterate ["worker/1", "loader/2"], ⟨["loader/2", "worker/1"], .swap _ _ _⟩⟩,
    ⟨.fileExists launchedLoader.procFile, .ok true⟩,
    ⟨.readMetadata launchedLoader.procFile, .ok ⟨18, some "m"⟩⟩,
    ⟨.upsertProcess (knownLoader.toProcess "running"), ()⟩,
    ⟨.fileExists launchedLoader.doneFile, .ok false⟩,
    ⟨.isAlive "h" 17, .error "connection reset"⟩, ⟨.isAlive "h" 18, .ok true⟩,
    ⟨.fileExists launchedWorker.doneFile, .ok true⟩,
    ⟨.readManifest launchedWorker.doneFile, .ok ⟨"n", true, 0⟩⟩,
    ⟨.upsertProcess (launchedWorker.toProcess "exited"), ()⟩,
    ⟨.isAlive "h" 7, .ok false⟩, ⟨.isAlive "h" 8, .ok false⟩, ⟨.sleep, false⟩]

/-- The exchanges of the second turn, in which the loader has finished. -/
def secondTurn : List (Exchange hostCalls) :=
  [⟨.checkInterrupted, false⟩, ⟨.pastDeadline, false⟩,
    ⟨.iterate ["loader/2"], ⟨["loader/2"], .refl _⟩⟩,
    ⟨.fileExists launchedLoader.doneFile, .ok true⟩,
    ⟨.readManifest launchedLoader.doneFile, .ok ⟨"m", true, 0⟩⟩,
    ⟨.upsertProcess (knownLoader.toProcess "exited"), ()⟩,
    ⟨.isAlive "h" 17, .ok false⟩, ⟨.isAlive "h" 18, .ok false⟩, ⟨.sleep, false⟩]

/-- Two processes; a look at one of them fails at first. -/
theorem waitProcesses_success_twoTurns :
    (waitProcesses 2 [launchedWorker, launchedLoader] true).Traces (some (.ok ()))
        (firstTurn ++ secondTurn) ∧
      ∀ p ∈ [launchedWorker, launchedLoader], ObservedSuccess (firstTurn ++ secondTurn) p := by
  have traced : (waitProcesses 2 [launchedWorker, launchedLoader] true).Traces (some (.ok ()))
      (firstTurn ++ secondTurn) := by
    iterate 24 apply Prog.Traces.call
    exact .done _
  exact ⟨traced, waitProcesses_success (by decide) traced⟩

end

end Mind

end PortableTpcc
