import PortableTpcc.RunProfile

namespace PortableTpcc

/-!
# Materializing the run configuration

`BuildRunConfig` of `config.go` with the defaults of `defaults.go`.  The main
result lists what a profile must satisfy for it to succeed.
-/

namespace RunProfile

open Mind (LoaderAssignment WorkerAssignment buildLoaderAssignments buildWorkerAssignments)

/-! ## Defaults -/

/-- `WorkloadBlock`. -/
structure WorkloadBlock where
  terminalsPerWarehouse : Int64
  transactionMix : PerTransaction
  keyingTimeMs : PerTransaction
  thinkTimeMs : PerTransaction
  remoteNewOrder : Int64
  remotePayment : Int64
  newOrderMaxRemoteWarehouses : Int64
deriving Repr, DecidableEq

/-- `RetryJSON`. -/
structure RetryJSON where
  maxAttempts : Int64
  initialBackoffMs : Int64
  maxBackoffMs : Int64
  jitter : String
  retryAmbiguousCommit : Bool
deriving Repr, DecidableEq

/-- `HistogramJSON`. -/
structure HistogramJSON where
  unit : String
  highest : Int64
deriving Repr, DecidableEq

/-- `DefaultWorkload`. -/
def defaultWorkload : WorkloadBlock where
  terminalsPerWarehouse := 10
  transactionMix := ⟨45, 43, 4, 4, 4⟩
  keyingTimeMs := ⟨18000, 3000, 2000, 2000, 2000⟩
  thinkTimeMs := ⟨12000, 12000, 10000, 5000, 5000⟩
  remoteNewOrder := 1
  remotePayment := 15
  newOrderMaxRemoteWarehouses := 0

/-- `DefaultHistogram`. -/
def defaultHistogram : HistogramJSON :=
  ⟨"us", 120000000⟩

/-- `DefaultRetry`. -/
def defaultRetry : RetryJSON :=
  ⟨4, 10, 500, "full", false⟩

/-- `DefaultMaxInflightPerWorker`. -/
def defaultMaxInflightPerWorker : Int64 := 100

/-- `DefaultStatsIntervalMs`. -/
def defaultStatsIntervalMs : Int64 := 30000

/-- `DefaultBatchRows`. -/
def defaultBatchRows : Int64 := 2000

/-- `DefaultCheckConcurrencyCap`. -/
def defaultCheckConcurrencyCap : Int64 := 32

/-- `if src > 0 { dst = src }`. -/
def positiveOr (dst src : Int64) : Int64 :=
  if 0 < src then src else dst

/-- The overrides of the five fields. -/
def PerTransaction.override (dst src : PerTransaction) : PerTransaction where
  newOrder := positiveOr dst.newOrder src.newOrder
  payment := positiveOr dst.payment src.payment
  orderStatus := positiveOr dst.orderStatus src.orderStatus
  delivery := positiveOr dst.delivery src.delivery
  stockLevel := positiveOr dst.stockLevel src.stockLevel

/-- `applyMixOverride`. -/
def applyMixOverride : PerTransaction → PerTransaction → PerTransaction :=
  PerTransaction.override

/-- `applyTimingOverride`. -/
def applyTimingOverride : PerTransaction → PerTransaction → PerTransaction :=
  PerTransaction.override

/-- `ResolveWorkload`. -/
def resolveWorkload (w : Workload) : WorkloadBlock where
  terminalsPerWarehouse := positiveOr defaultWorkload.terminalsPerWarehouse w.terminalsPerWarehouse
  transactionMix := applyMixOverride defaultWorkload.transactionMix w.transactionMix
  keyingTimeMs := applyTimingOverride defaultWorkload.keyingTimeMs w.keyingTimeMs
  thinkTimeMs := applyTimingOverride defaultWorkload.thinkTimeMs w.thinkTimeMs
  remoteNewOrder := w.remoteNewOrder.getD defaultWorkload.remoteNewOrder
  remotePayment := w.remotePayment.getD defaultWorkload.remotePayment
  newOrderMaxRemoteWarehouses := w.newOrderMaxRemoteWarehouses

/-- `ResolveThinkTimeDistribution`. -/
def resolveThinkTimeDistribution (value : String) : String :=
  if value = "" ∨ value = "exponential" then
    "exponential"
  else if value = "compatibility" ∨ value = "constant" then
    "compatibility"
  else
    value

/-- `ValidThinkTimeDistribution`. -/
def validThinkTimeDistribution (value : String) : Bool :=
  value ∈ ["", "exponential", "compatibility", "constant"]

/-- `ValidHistogramUnit`. -/
def validHistogramUnit (value : String) : Bool :=
  value ∈ ["", "ms", "us"]

/-- `ResolveCheckConcurrency`. -/
def resolveCheckConcurrency (warehouses configured : Int64) : Int64 :=
  if 0 < configured then
    configured
  else if warehouses < 1 then
    1
  else if defaultCheckConcurrencyCap < warehouses then
    defaultCheckConcurrencyCap
  else
    warehouses

/-! ## The database block -/

/-- `RunDatabase`. -/
structure RunDatabase where
  dbms : String
  endpoint : String
  database : String
  path : String
  authScheme : String
  user : String
  passwordFile : String
  saKeyFile : String
  caFile : String
  options : Entries

/-- `InferYdbAuthScheme`. -/
def inferYdbAuthScheme (db : Database) : String :=
  if db.authScheme ≠ "" then
    db.authScheme
  else if db.saKeyFile ≠ "" then
    "sa_key"
  else if db.passwordEnv ≠ "" ∨ db.user ≠ "" then
    "login"
  else
    "anonymous"

/-- `NeedsRemotePasswordFile`. -/
def needsRemotePasswordFile (db : Database) : Bool :=
  if db.passwordEnv = "" then
    false
  else if db.dbms = "ydb" then
    inferYdbAuthScheme db = "login"
  else
    true

/-- The database block of the configuration: credentials become names of remote files. -/
def runDatabase (db : Database) : RunDatabase where
  dbms := db.dbms
  endpoint := db.endpoint
  database := db.database
  path := db.path
  authScheme :=
    if db.authScheme = "" ∧ db.dbms = "ydb" then inferYdbAuthScheme db else db.authScheme
  user := db.user
  passwordFile := if needsRemotePasswordFile db then "db-password" else ""
  saKeyFile := if db.saKeyFile ≠ "" then "sa-key.json" else ""
  caFile := if db.caFile ≠ "" then "ca.pem" else ""
  options := db.options

/-! ## `BuildRunConfig` -/

/-- `PhasesJSON`. -/
structure PhasesJSON where
  startLeadMs : Int64
  rampUpMs : Int64
  measurementMs : Int64
  transactionDrainMs : Int64
  asyncWorkDrainMs : Int64
  stopGraceMs : Int64
  maxClockSkewMs : Int64
deriving Repr, DecidableEq

/-- `RunRuntime`. -/
structure RunRuntime where
  pacing : String
  thinkTimeDistribution : String
  retry : RetryJSON
  histogram : HistogramJSON
  checkConcurrency : Int64
  statsIntervalMs : Int64
deriving Repr, DecidableEq

/-- `BuildInput`. -/
structure BuildInput where
  profile : Profile
  runID : String
  workerBinary : String

/-- `RunConfig`.  The assignments are kept before their conversion to arrays of two integers. -/
structure RunConfig where
  schemaVersion : Int64
  runID : String
  createdAt : String
  profileName : String
  binary : String
  database : RunDatabase
  warehouses : Int64
  seed : Int64
  batchRows : Int64
  workload : WorkloadBlock
  loadAssignment : List LoaderAssignment
  workerAssignment : List WorkerAssignment
  phases : PhasesJSON
  runtime : RunRuntime

/-- `filepath.Base`. -/
def fileBase (path : String) : String :=
  let trimmed := path.toList.reverse.dropWhile (· = '/')
  if path = "" then
    "."
  else if trimmed = [] then
    "/"
  else
    String.ofList (trimmed.takeWhile (· ≠ '/')).reverse

section

variable (lib : GoLibrary)

/-- A duration that replaces a default unless its field is empty. -/
def durationOr (default : Int64) (s : String) : Except String Int64 :=
  if s ≠ "" then
    parseDurationMs lib s
  else
    .ok default

/-- The phases of the configuration. -/
def buildPhases (phases : Phases) : Except String PhasesJSON := do
  let startLead ← parseDurationMs lib phases.startLead
  let rampUp ← parseDurationMs lib phases.rampUp
  let measurement ← parseDurationMs lib phases.measurement
  let drain ← parseDurationMs lib phases.transactionDrain
  let asyncDrain ← durationOr lib drain phases.asyncWorkDrain
  let stopGrace ← parseDurationMs lib phases.stopGrace
  let skew ← parseDurationMs lib phases.maxClockSkew
  return ⟨startLead, rampUp, measurement, drain, asyncDrain, stopGrace, skew⟩

/-- The retry policy of the configuration. -/
def buildRetry (policy : RetryPolicy) : Except String RetryJSON := do
  let initBackoff ← durationOr lib defaultRetry.initialBackoffMs policy.initialBackoff
  let maxBackoff ← durationOr lib defaultRetry.maxBackoffMs policy.maxBackoff
  return {
    maxAttempts := positiveOr defaultRetry.maxAttempts policy.maxAttempts
    initialBackoffMs := initBackoff
    maxBackoffMs := maxBackoff
    jitter := if policy.jitter ≠ "" then policy.jitter else defaultRetry.jitter
    retryAmbiguousCommit := defaultRetry.retryAmbiguousCommit }

/-- The histogram of the configuration. -/
def buildHistogram (histogram : Histogram) : Except String HistogramJSON := do
  rejectIf (histogram.unit ≠ "" ∧ validHistogramUnit histogram.unit = false)
    "runtime.histogram.unit must be \"ms\" or \"us\""
  rejectIf (histogram.highest.any (· ≤ 0)) "runtime.histogram.highest must be greater than zero"
  return {
    unit := if histogram.unit ≠ "" then histogram.unit else defaultHistogram.unit
    highest := histogram.highest.getD defaultHistogram.highest }

/-- The interval of the statistics. -/
def buildStatsInterval (s : String) : Except String Int64 :=
  if s ≠ "" then do
    let ms ← (parseDurationMs lib s).mapError fun error => s!"runtime.stats_interval: {error}"
    rejectIf (ms ≤ 0) "runtime.stats_interval must be greater than zero"
    return ms
  else
    .ok defaultStatsIntervalMs

/-- The threads that the workers are given; `0` lets them choose. -/
def workerThreads (p : Profile) : Int64 :=
  if p.runtime.threadsPerWorker < 0 then 0 else p.runtime.threadsPerWorker

/-- The bound on the transactions of a worker. -/
def maxInflight (p : Profile) : Int64 :=
  if p.runtime.maxInflightPerWorker ≤ 0 then
    defaultMaxInflightPerWorker
  else
    p.runtime.maxInflightPerWorker

/-- `BuildLoaderAssignments`, as it is called for a profile. -/
def Profile.loadAssignment (p : Profile) : Except String (List LoaderAssignment) :=
  buildLoaderAssignments p.loaderInstances p.warehouses p.runtime.threadsPerLoader

/-- `BuildWorkerAssignments`, as it is called for a profile. -/
def Profile.workerAssignment (p : Profile) : Except String (List WorkerAssignment) :=
  buildWorkerAssignments p.workerInstances p.warehouses (workerThreads p) (maxInflight p)

/-- `BuildRunConfig`. -/
def buildRunConfig (input : BuildInput) : Except String RunConfig := do
  let p := input.profile
  let loadAssignment ← p.loadAssignment
  let workerAssignment ← p.workerAssignment
  let phases ← buildPhases lib p.phases
  let retry ← buildRetry lib p.runtime.retry
  let histogram ← buildHistogram p.runtime.histogram
  let statsIntervalMs ← buildStatsInterval lib p.runtime.statsInterval
  return {
    schemaVersion := 1
    runID := input.runID
    createdAt := lib.now
    profileName := p.name
    binary :=
      if input.workerBinary = "" then "tpcc-" ++ p.database.dbms else fileBase input.workerBinary
    database := runDatabase p.database
    warehouses := p.warehouses
    seed := p.seed.getD 0
    batchRows := if p.batchRows ≤ 0 then defaultBatchRows else p.batchRows
    workload := resolveWorkload p.workload
    loadAssignment
    workerAssignment
    phases
    runtime := {
      pacing := if p.runtime.pacing = "" then "enabled" else p.runtime.pacing
      thinkTimeDistribution := resolveThinkTimeDistribution p.runtime.thinkTimeDistribution
      retry
      histogram
      checkConcurrency := resolveCheckConcurrency p.warehouses p.runtime.checkConcurrency
      statsIntervalMs } }

/-! ## When it succeeds -/

/-- The durations of the phases can be parsed. -/
structure ArePhases (phases : Phases) : Prop where
  startLead : IsDuration lib phases.startLead
  rampUp : IsDuration lib phases.rampUp
  measurement : IsDuration lib phases.measurement
  transactionDrain : IsDuration lib phases.transactionDrain
  asyncWorkDrain : IsOptionalDuration lib phases.asyncWorkDrain
  stopGrace : IsDuration lib phases.stopGrace
  maxClockSkew : IsDuration lib phases.maxClockSkew

/-- What the assignments, the phases, the histogram and the statistics ask of a profile. -/
structure Settled (p : Profile) : Prop where
  loaders : ∃ assigned, p.loadAssignment = .ok assigned
  workers : ∃ assigned, p.workerAssignment = .ok assigned
  phases : ArePhases lib p.phases
  histogram : ∃ built, buildHistogram p.runtime.histogram = .ok built
  statsInterval : ∃ ms, buildStatsInterval lib p.runtime.statsInterval = .ok ms

/-- Both backoffs of a retry policy can be parsed or are left out. -/
def AreBackoffs (policy : RetryPolicy) : Prop :=
  IsOptionalDuration lib policy.initialBackoff ∧ IsOptionalDuration lib policy.maxBackoff

theorem durationOr_ok_iff (default : Int64) {s : String} :
    (∃ ms, durationOr lib default s = .ok ms) ↔ IsOptionalDuration lib s := by
  unfold durationOr IsOptionalDuration
  by_cases empty : s = ""
  · simp [empty]
  · rw [if_pos empty, parseDurationMs_ok_iff]
    simp [empty]

theorem buildPhases_ok_iff {phases : Phases} :
    (∃ built, buildPhases lib phases = .ok built) ↔ ArePhases lib phases := by
  simp only [buildPhases, bind_eq_ok]
  constructor
  · rintro ⟨_, _, startLead, _, rampUp, _, measurement, _, drain, _, asyncDrain, _, stopGrace, _,
      skew, _⟩
    exact {
      startLead := (parseDurationMs_ok_iff lib).mp ⟨_, startLead⟩
      rampUp := (parseDurationMs_ok_iff lib).mp ⟨_, rampUp⟩
      measurement := (parseDurationMs_ok_iff lib).mp ⟨_, measurement⟩
      transactionDrain := (parseDurationMs_ok_iff lib).mp ⟨_, drain⟩
      asyncWorkDrain := (durationOr_ok_iff lib _).mp ⟨_, asyncDrain⟩
      stopGrace := (parseDurationMs_ok_iff lib).mp ⟨_, stopGrace⟩
      maxClockSkew := (parseDurationMs_ok_iff lib).mp ⟨_, skew⟩ }
  · intro are
    rcases (parseDurationMs_ok_iff lib).mpr are.startLead with ⟨startLead, isStartLead⟩
    rcases (parseDurationMs_ok_iff lib).mpr are.rampUp with ⟨rampUp, isRampUp⟩
    rcases (parseDurationMs_ok_iff lib).mpr are.measurement with ⟨measurement, isMeasurement⟩
    rcases (parseDurationMs_ok_iff lib).mpr are.transactionDrain with ⟨drain, isDrain⟩
    -- An empty field takes the drain of the transactions.
    rcases (durationOr_ok_iff lib drain).mpr are.asyncWorkDrain with
      ⟨asyncDrain, isAsyncDrain⟩
    rcases (parseDurationMs_ok_iff lib).mpr are.stopGrace with ⟨stopGrace, isStopGrace⟩
    rcases (parseDurationMs_ok_iff lib).mpr are.maxClockSkew with ⟨skew, isSkew⟩
    exact ⟨_, startLead, isStartLead, rampUp, isRampUp, measurement, isMeasurement, drain, isDrain,
      asyncDrain, isAsyncDrain, stopGrace, isStopGrace, skew, isSkew, rfl⟩

theorem buildRetry_ok_iff {policy : RetryPolicy} :
    (∃ built, buildRetry lib policy = .ok built) ↔ AreBackoffs lib policy := by
  simp only [buildRetry, bind_eq_ok]
  constructor
  · rintro ⟨_, _, initial, _, maximum, _⟩
    exact ⟨(durationOr_ok_iff lib _).mp ⟨_, initial⟩, (durationOr_ok_iff lib _).mp ⟨_, maximum⟩⟩
  · rintro ⟨initial, maximum⟩
    rcases (durationOr_ok_iff lib defaultRetry.initialBackoffMs).mpr initial with
      ⟨initialMs, isInitial⟩
    rcases (durationOr_ok_iff lib defaultRetry.maxBackoffMs).mpr maximum with ⟨maximumMs, isMaximum⟩
    exact ⟨_, initialMs, isInitial, maximumMs, isMaximum, rfl⟩

/-- The configuration is built when the profile is settled and its backoffs can be parsed. -/
theorem buildRunConfig_ok_iff {input : BuildInput} :
    (∃ rc, buildRunConfig lib input = .ok rc) ↔
      Settled lib input.profile ∧ AreBackoffs lib input.profile.runtime.retry := by
  simp only [buildRunConfig, bind_eq_ok]
  constructor
  · rintro ⟨_, _, loaders, _, workers, _, phases, _, retry, _, histogram, _, statsInterval, _⟩
    refine ⟨?_, (buildRetry_ok_iff lib).mp ⟨_, retry⟩⟩
    exact {
      loaders := ⟨_, loaders⟩
      workers := ⟨_, workers⟩
      phases := (buildPhases_ok_iff lib).mp ⟨_, phases⟩
      histogram := ⟨_, histogram⟩
      statsInterval := ⟨_, statsInterval⟩ }
  · rintro ⟨settled, backoffs⟩
    rcases settled.loaders with ⟨loaders, areLoaders⟩
    rcases settled.workers with ⟨workers, areWorkers⟩
    rcases (buildPhases_ok_iff lib).mpr settled.phases with ⟨phases, arePhases⟩
    rcases (buildRetry_ok_iff lib).mpr backoffs with ⟨retry, isRetry⟩
    rcases settled.histogram with ⟨histogram, isHistogram⟩
    rcases settled.statsInterval with ⟨statsInterval, isStatsInterval⟩
    exact ⟨_, loaders, areLoaders, workers, areWorkers, phases, arePhases, retry, isRetry,
      histogram, isHistogram, statsInterval, isStatsInterval, rfl⟩

end

end RunProfile

end PortableTpcc
