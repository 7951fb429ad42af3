import PortableTpcc.WaitProcesses

namespace PortableTpcc

namespace Mind

/-!
# Stopping the peers of a run

`stopPeers` (`drive.go`) sends TERM to the processes that the run state records as running, waits,
reads the state again and sends KILL to every recorded process that is still alive.  What the hosts
and the state file answer is given by a world; the order in which `range` visits a map is given by a
list of its values.
-/

inductive SignalName where
  | term
  | kill
deriving Repr, DecidableEq

/-- A call of `Signal` on the session of a host. -/
structure Signal where
  host : String
  pid : Int
  name : SignalName
deriving Repr, DecidableEq

/-- The answers that `stopPeers` gets. -/
structure StopWorld where
  /-- The hosts in `sessions`. -/
  hasSession : String → Bool
  /-- How `Signal` with TERM fails. -/
  termError : String → Int → Option String
  /-- Whether `UpsertProcess` writes the state file. -/
  saves : Process → Bool
  /-- Whether the second `Load` succeeds. -/
  reloads : Bool
  /-- `IsAlive` after the grace period, an error being no. -/
  alive : String → Int → Bool

/-- How `stopPeers` ends. -/
inductive StopEnd where
  | returned (first : Option String)
  /-- The second `Load` has returned no state. -/
  | nilDereference
deriving Repr, DecidableEq

/-- `uniquePIDs(proc.PID, proc.LaunchPID)`. -/
def Process.pids (proc : Process) : List Int :=
  uniquePIDs [] [proc.pid, proc.launchPid]

/-- The processes that the first loop does not skip. -/
def StopWorld.stops (world : StopWorld) (proc : Process) : Bool :=
  proc.state = "running" && decide (0 < proc.pid) && world.hasSession proc.host

/-- The signals of the first loop. -/
def StopWorld.termSignals (world : StopWorld) (order : List Process) : List Signal :=
  (order.filter world.stops).flatMap fun proc => proc.pids.map fun pid => ⟨proc.host, pid, .term⟩

/-- `UpsertProcess` of the first loop, whose error is not looked at. -/
def StopWorld.markStopping (world : StopWorld) (processes : Finmap fun _ : String => Process)
    (order : List Process) : Finmap fun _ : String => Process :=
  (order.filter world.stops).foldl (fun recorded proc =>
    let stopping := { proc with instanceNonce := "", state := "stopping" }
    if world.saves stopping then
      recorded.insert (proc.role ++ "/" ++ proc.instanceName) stopping
    else
      recorded) processes

/-- The signals of the second loop. -/
def StopWorld.killSignals (world : StopWorld) (order : List Process) : List Signal :=
  (order.filter fun proc => world.hasSession proc.host).flatMap fun proc =>
    (proc.pids.filter (world.alive proc.host)).map fun pid => ⟨proc.host, pid, .kill⟩

/-- `stopPeers`, with the orders in which its loops visit the processes. -/
def StopWorld.stopPeers (world : StopWorld) (loaded : Except String RunState)
    (firstOrder secondOrder : List Process) : List Signal × StopEnd :=
  match loaded with
  | .error error => ([], .returned (some error))
  | .ok _ =>
    let terms := world.termSignals firstOrder
    if world.reloads then
      (terms ++ world.killSignals secondOrder,
        .returned (terms.findSome? fun signal => world.termError signal.host signal.pid))
    else
      (terms, .nilDereference)

/-- A list visits the values of a map. -/
def Visits (order : List Process) (processes : Finmap fun _ : String => Process) : Prop :=
  ∀ proc, proc ∈ order ↔ ∃ key, processes.lookup key = some proc

/-- Processes are recorded under their role and instance, as `UpsertProcess` does. -/
def RunState.Keyed (rs : RunState) : Prop :=
  ∀ key proc, rs.processes.lookup key = some proc → key = proc.role ++ "/" ++ proc.instanceName

/-- A signal is sent to a number that this process has. -/
def Signal.Reaches (signal : Signal) (proc : Process) : Prop :=
  proc.host = signal.host ∧ signal.pid ∈ proc.pids

/-- The signals go to processes that are recorded as running, and to no others. -/
def OnlyRunning (order : List Process) (signals : List Signal) : Prop :=
  ∀ signal ∈ signals,
    (∃ proc ∈ order, signal.Reaches proc) ∧
      ∀ proc ∈ order, signal.Reaches proc → proc.state = "running"

variable {world : StopWorld} {rs : RunState} {firstOrder secondOrder : List Process} {host : String}
  {pid : Int}

theorem mem_termSignals {name : SignalName} :
    ⟨host, pid, name⟩ ∈ world.termSignals firstOrder ↔
      name = .term ∧
        ∃ proc ∈ firstOrder, world.stops proc ∧ proc.host = host ∧ pid ∈ proc.pids := by
  simp only [StopWorld.termSignals, List.mem_flatMap, List.mem_filter, List.mem_map,
    Signal.mk.injEq]
  constructor
  · rintro ⟨proc, ⟨member, stops⟩, other, isPid, rfl, rfl, rfl⟩
    exact ⟨rfl, proc, member, stops, rfl, isPid⟩
  · rintro ⟨rfl, proc, member, stops, rfl, isPid⟩
    exact ⟨proc, ⟨member, stops⟩, pid, isPid, rfl, rfl, rfl⟩

theorem mem_killSignals {name : SignalName} :
    ⟨host, pid, name⟩ ∈ world.killSignals secondOrder ↔ name = .kill ∧ world.hasSession host ∧
      world.alive host pid ∧ ∃ proc ∈ secondOrder, proc.host = host ∧ pid ∈ proc.pids := by
  simp only [StopWorld.killSignals, List.mem_flatMap, List.mem_filter, List.mem_map,
    Signal.mk.injEq]
  constructor
  · rintro ⟨proc, ⟨member, session⟩, other, ⟨isPid, alive⟩, rfl, rfl, rfl⟩
    exact ⟨rfl, session, alive, proc, member, rfl, isPid⟩
  · rintro ⟨rfl, session, alive, proc, member, rfl, isPid⟩
    exact ⟨proc, ⟨member, session⟩, pid, ⟨isPid, alive⟩, rfl, rfl, rfl⟩

/-- What is recorded after the first loop was recorded before it, up to the mark. -/
theorem lookup_markStopping_eq_some {key : String} {order : List Process} {proc : Process}
    {processes : Finmap fun _ : String => Process}
    (marked : (world.markStopping processes order).lookup key = some proc) :
    processes.lookup key = some proc ∨
      ∃ stopped ∈ order, proc.host = stopped.host ∧ proc.pids = stopped.pids := by
  induction order generalizing processes with
  | nil => exact .inl marked
  | cons first rest ih =>
    unfold StopWorld.markStopping at ih marked
    rw [List.filter_cons] at marked
    have later (found : ∃ stopped ∈ rest, proc.host = stopped.host ∧ proc.pids = stopped.pids) :
        ∃ stopped ∈ first :: rest, proc.host = stopped.host ∧ proc.pids = stopped.pids := by
      obtain ⟨stopped, member, same⟩ := found
      exact ⟨stopped, List.mem_cons_of_mem _ member, same⟩
    split at marked
    · rw [List.foldl_cons] at marked
      rcases ih marked with recorded | found
      · dsimp only at recorded
        split at recorded
        · by_cases sameKey : key = first.role ++ "/" ++ first.instanceName
          · subst sameKey
            rw [Finmap.lookup_insert, Option.some.injEq] at recorded
            subst recorded
            exact .inr ⟨first, List.mem_cons_self, rfl, rfl⟩
          · exact .inl (Finmap.lookup_insert_of_ne _ sameKey ▸ recorded)
        · exact .inl recorded
      · exact .inr (later found)
    · exact (ih marked).imp_right later

/-- What is recorded for a process that is not stopped stays. -/
theorem lookup_markStopping {key : String} {order : List Process}
    {processes : Finmap fun _ : String => Process}
    (spared : ∀ proc ∈ order, world.stops proc → proc.role ++ "/" ++ proc.instanceName ≠ key) :
    (world.markStopping processes order).lookup key = processes.lookup key := by
  induction order generalizing processes with
  | nil => rfl
  | cons proc rest ih =>
    obtain ⟨first, others⟩ := List.forall_mem_cons.mp spared
    unfold StopWorld.markStopping at ih ⊢
    rw [List.filter_cons]
    split
    · rename_i stops
      rw [List.foldl_cons, ih others]
      dsimp only
      split
      · exact Finmap.lookup_insert_of_ne _ (Ne.symm (first stops))
      · rfl
    · exact ih others

theorem mem_secondOrder (keyed : rs.Keyed) (visits : Visits firstOrder rs.processes)
    (revisits : Visits secondOrder (world.markStopping rs.processes firstOrder)) {proc : Process}
    (member : proc ∈ firstOrder) (notRunning : proc.state ≠ "running") : proc ∈ secondOrder := by
  obtain ⟨key, recorded⟩ := (visits proc).mp member
  refine (revisits proc).mpr ⟨key, ?_⟩
  rw [lookup_markStopping, recorded]
  intro other isVisited stops sameKey
  -- A stopped process under this key would be this one, which is not running.
  obtain ⟨otherKey, otherRecorded⟩ := (visits other).mp isVisited
  rw [keyed otherKey other otherRecorded, sameKey, recorded] at otherRecorded
  obtain rfl : proc = other := Option.some.inj otherRecorded
  simp [StopWorld.stops, notRunning] at stops

theorem mem_stopPeers {signal : Signal} :
    signal ∈ (world.stopPeers (.ok rs) firstOrder secondOrder).1 ↔
      signal ∈ world.termSignals firstOrder ∨
        world.reloads ∧ signal ∈ world.killSignals secondOrder := by
  cases reloads : world.reloads <;> simp [StopWorld.stopPeers, reloads]

/-- Every signal goes to a process of the state that was read first. -/
theorem exists_reaches (visits : Visits firstOrder rs.processes)
    (revisits : Visits secondOrder (world.markStopping rs.processes firstOrder)) {signal : Signal}
    (sent : signal ∈ (world.stopPeers (.ok rs) firstOrder secondOrder).1) :
    ∃ proc ∈ firstOrder, signal.Reaches proc := by
  rw [mem_stopPeers, mem_termSignals, mem_killSignals] at sent
  rcases sent with ⟨_, proc, member, _, sameHost, isPid⟩ |
      ⟨_, _, _, _, proc, member, sameHost, isPid⟩
  · exact ⟨proc, member, sameHost, isPid⟩
  · obtain ⟨key, marked⟩ := (revisits proc).mp member
    rcases lookup_markStopping_eq_some marked with recorded | ⟨stopped, isVisited, host, pids⟩
    · exact ⟨proc, (visits proc).mpr ⟨key, recorded⟩, sameHost, isPid⟩
    · exact ⟨stopped, isVisited, host ▸ sameHost, pids ▸ isPid⟩

/--
The signals go only to processes that are recorded as running exactly if, for every other process
on a host with a session, none of its numbers is alive after the grace period and none belongs to a
process that is recorded as running.  The processes marked as stopping by an earlier attempt are
among the others.
-/
theorem stopPeers_onlyRunning_iff (world : StopWorld) (rs : RunState)
    (firstOrder secondOrder : List Process) (keyed : rs.Keyed)
    (visits : Visits firstOrder rs.processes)
    (revisits : Visits secondOrder (world.markStopping rs.processes firstOrder)) :
    OnlyRunning firstOrder (world.stopPeers (.ok rs) firstOrder secondOrder).1 ↔
      ∀ proc ∈ firstOrder, proc.state ≠ "running" → world.hasSession proc.host →
        ∀ pid ∈ proc.pids,
          (world.reloads → ¬ world.alive proc.host pid) ∧
            ∀ running ∈ firstOrder, running.state = "running" → 0 < running.pid →
              running.host = proc.host → pid ∉ running.pids := by
  constructor
  · intro only proc member notRunning session pid isPid
    have spared (name : SignalName) :
        ⟨proc.host, pid, name⟩ ∉ (world.stopPeers (.ok rs) firstOrder secondOrder).1 :=
      fun sent => notRunning ((only _ sent).2 proc member ⟨rfl, isPid⟩)
    constructor
    · intro reloads alive
      apply spared .kill
      rw [mem_stopPeers, mem_killSignals]
      exact .inr ⟨reloads, rfl, session, alive, proc,
        mem_secondOrder keyed visits revisits member notRunning, rfl, isPid⟩
    · intro running isVisited isRunning positive sameHost shared
      apply spared .term
      rw [mem_stopPeers, mem_termSignals]
      refine .inl ⟨rfl, running, isVisited, ?_, sameHost, shared⟩
      simp [StopWorld.stops, isRunning, positive, sameHost, session]
  · intro condition signal sent
    refine ⟨exists_reaches visits revisits sent, ?_⟩
    rintro proc member ⟨host, isPid⟩
    by_contra notRunning
    rw [mem_stopPeers, mem_termSignals, mem_killSignals, ← host] at sent
    rcases sent with ⟨_, running, isVisited, stops, sameHost, shared⟩ |
        ⟨reloads, _, session, alive, _⟩
    · simp only [StopWorld.stops, Bool.and_eq_true, decide_eq_true_eq, sameHost] at stops
      obtain ⟨⟨isRunning, positive⟩, session⟩ := stops
      exact (condition proc member notRunning session _ isPid).2 running isVisited isRunning
        positive sameHost shared
    · exact (condition proc member notRunning session _ isPid).1 reloads alive

theorem visits_singleton (key : String) (proc : Process) :
    Visits [proc] (Finmap.singleton key proc) := by
  intro other
  constructor
  · intro member
    obtain rfl := List.mem_singleton.mp member
    exact ⟨key, Finmap.lookup_singleton_eq⟩
  · rintro ⟨otherKey, recorded⟩
    have present := Finmap.mem_of_lookup_eq_some recorded
    obtain rfl : otherKey = key := (Finmap.mem_singleton _ _ _).mp present
    have same : some proc = some other := Finmap.lookup_singleton_eq.symm.trans recorded
    exact List.mem_singleton.mpr (Option.some.inj same).symm

theorem visits_insert {key : String} {proc : Process} {order : List Process}
    {processes : Finmap fun _ : String => Process} (visits : Visits order processes)
    (fresh : key ∉ processes) : Visits (proc :: order) (processes.insert key proc) := by
  intro other
  rw [List.mem_cons, visits other]
  constructor
  · rintro (rfl | ⟨otherKey, recorded⟩)
    · exact ⟨key, Finmap.lookup_insert _⟩
    · refine ⟨otherKey, ?_⟩
      rw [Finmap.lookup_insert_of_ne, recorded]
      rintro rfl
      exact fresh (Finmap.mem_of_lookup_eq_some recorded)
  · rintro ⟨otherKey, recorded⟩
    by_cases same : otherKey = key
    · subst same
      rw [Finmap.lookup_insert, Option.some.injEq] at recorded
      exact .inl recorded.symm
    · rw [Finmap.lookup_insert_of_ne _ same] at recorded
      exact .inr ⟨otherKey, recorded⟩

/-- A worker that is recorded as exited. -/
def exitedWorker : Process where
  role := "worker"
  host := "h1"
  instanceName := "w1"
  pid := 4711
  launchPid := 4710
  instanceNonce := "n1"
  state := "exited"

/-- A worker that is recorded as running, on the same host. -/
def runningWorker : Process :=
  { exitedWorker with
    instanceName := "w2"
    pid := 4811
    launchPid := 4810
    instanceNonce := "n2"
    state := "running" }

/-- What `stopPeers` records of it. -/
def stoppingWorker : Process :=
  { runningWorker with instanceNonce := "", state := "stopping" }

/-- A run state with the two workers. -/
def twoWorkers : RunState :=
  { RunState.fresh with
    state := .draining
    processes := (Finmap.singleton "worker/w1" exitedWorker).insert "worker/w2" runningWorker }

/-- After the grace period only these numbers are alive. -/
def aliveWorld (alive : List Int) : StopWorld where
  hasSession host := host = "h1"
  termError _ _ := none
  saves _ := true
  reloads := true
  alive _ pid := alive.contains pid

theorem twoWorkers_visits : Visits [runningWorker, exitedWorker] twoWorkers.processes :=
  visits_insert (visits_singleton _ _) (by decide)

theorem twoWorkers_revisits (alive : List Int) :
    Visits [stoppingWorker, exitedWorker]
      ((aliveWorld alive).markStopping twoWorkers.processes [runningWorker, exitedWorker]) := by
  have marked : (aliveWorld alive).markStopping twoWorkers.processes [runningWorker, exitedWorker] =
      (Finmap.singleton "worker/w1" exitedWorker).insert "worker/w2" stoppingWorker :=
    Finmap.insert_insert _
  rw [marked]
  exact visits_insert (visits_singleton _ _) (by decide)

theorem twoWorkers_keyed : twoWorkers.Keyed := by
  intro key proc recorded
  by_cases second : key = "worker/w2"
  · subst second
    obtain rfl : runningWorker = proc :=
      Option.some.inj ((Finmap.lookup_insert _).symm.trans recorded)
    decide
  · have recorded := (Finmap.lookup_insert_of_ne _ second).symm.trans recorded
    have present := Finmap.mem_of_lookup_eq_some recorded
    obtain rfl : key = "worker/w1" := (Finmap.mem_singleton _ _ _).mp present
    obtain rfl : exitedWorker = proc :=
      Option.some.inj (Finmap.lookup_singleton_eq.symm.trans recorded)
    decide

/-- The number of the exited worker is killed although another process has it now. -/
theorem exited_worker_killed :
    ((aliveWorld [4711]).stopPeers (.ok twoWorkers) [runningWorker, exitedWorker]
        [stoppingWorker, exitedWorker]).1 =
        [⟨"h1", 4811, .term⟩, ⟨"h1", 4810, .term⟩, ⟨"h1", 4711, .kill⟩] ∧
      ¬ OnlyRunning [runningWorker, exitedWorker]
        ((aliveWorld [4711]).stopPeers (.ok twoWorkers) [runningWorker, exitedWorker]
          [stoppingWorker, exitedWorker]).1 := by
  refine ⟨by decide, fun only => ?_⟩
  have running := (only ⟨"h1", 4711, .kill⟩ (by decide)).2 exitedWorker (by simp) ⟨rfl, by decide⟩
  exact absurd running (by decide)

/-- The running worker outlives TERM and is killed; the numbers of the other one are free. -/
theorem stopPeers_onlyRunning_survivor :
    ((aliveWorld [4811]).stopPeers (.ok twoWorkers) [runningWorker, exitedWorker]
        [stoppingWorker, exitedWorker]).1 =
        [⟨"h1", 4811, .term⟩, ⟨"h1", 4810, .term⟩, ⟨"h1", 4811, .kill⟩] ∧
      OnlyRunning [runningWorker, exitedWorker]
        ((aliveWorld [4811]).stopPeers (.ok twoWorkers) [runningWorker, exitedWorker]
          [stoppingWorker, exitedWorker]).1 := by
  refine ⟨by decide, ?_⟩
  rw [stopPeers_onlyRunning_iff _ _ _ _ twoWorkers_keyed twoWorkers_visits (twoWorkers_revisits _)]
  decide

end Mind

end PortableTpcc
