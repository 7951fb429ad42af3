import PortableTpcc.BuildRunConfig
import PortableTpcc.RemoteShell

namespace PortableTpcc

/-!
# Validating a profile

`Profile` of `validate.go` collects the errors of a profile and fills in the
names of its instances.  It parses the durations that `BuildRunConfig` parses,
except the two backoffs of the retry policy.  The deviations from the settings
of TPC-C, which do not fail the validation, are left out.
-/

namespace RunProfile

open Mind (validateAssignment)

/-- `Result`. -/
structure Result where
  valid : Bool
  errors : List String
deriving Repr, DecidableEq

/-- `Result.Add`. -/
def Result.add (res : Result) (err : String) : Result :=
  ⟨false, res.errors ++ [err]⟩

/-- The result after the errors were added in turn. -/
def Result.ofErrors (errors : List String) : Result :=
  errors.foldl Result.add ⟨true, []⟩

/-- `if bad { res.Add(err) }`. -/
def addIf (bad : Prop) [Decidable bad] (err : String) : List String :=
  if bad then [err] else []

/-- `if err := check; err != nil { res.Add(…) }`. -/
def addError {α : Type} (check : Except String α) (describe : String → String) : List String :=
  match check with
  | .ok _ => []
  | .error err => [describe err]

theorem foldl_add_valid (errors : List String) (res : Result) :
    (errors.foldl Result.add res).valid = (res.valid && errors.isEmpty) := by
  induction errors generalizing res with
  | nil =>
    simp
  | cons err rest ih =>
    rw [List.foldl_cons, ih]
    simp [Result.add]

theorem ofErrors_valid {errors : List String} :
    (Result.ofErrors errors).valid = true ↔ errors = [] := by
  simp [Result.ofErrors, foldl_add_valid]

@[simp] theorem addIf_eq_nil {bad : Prop} [Decidable bad] {err : String} :
    addIf bad err = [] ↔ ¬ bad := by
  unfold addIf
  split <;> simp [*]

@[simp] theorem addError_eq_nil {α : Type} {check : Except String α} {describe : String → String} :
    addError check describe = [] ↔ ∃ value, check = .ok value := by
  cases check <;> simp [addError]

/-- `asInt`. -/
def asInt : Yaml → Option Int64
  | .int value => some value
  | .uint value => if value.toNat < 2 ^ 63 then some (Int64.ofNat value.toNat) else none
  | .float whole => whole
  | _ => none

/-- `asPositiveInt`. -/
def asPositiveInt (value : Yaml) : Option Int64 :=
  (asInt value).filter fun n => 0 < n

/-- The value is one of the given texts. -/
def isOneOf (texts : List String) : Yaml → Bool
  | .text value => value ∈ texts
  | _ => false

/-- `asForeignKeysOption`. -/
def asForeignKeysOption : Yaml → Bool
  | .bool _ => true
  | value => isOneOf ["on", "off", "true", "false", "1", "0"] value

/-- The body of the loop of `validateYdbOptions`. -/
def validateYdbOption (key : String) (value : Yaml) : List String :=
  if key = "tx_mode" then
    addIf (isOneOf ["snapshot-rw", "serializable-rw"] value = false)
      "database.options.tx_mode must be \"snapshot-rw\" or \"serializable-rw\""
  else
    [s!"unknown database.options.{key} for dbms=ydb"]

/-- `validateYdbOptions`. -/
def validateYdbOptions (options : Entries) : List String :=
  options.flatMap fun entry => validateYdbOption entry.1 entry.2

/-- The body of the loop of `validatePgsqlOptions`. -/
def validatePgsqlOption (key : String) (value : Yaml) : List String :=
  if key = "partitioning" then
    addIf (isOneOf ["none", "warehouse_hash"] value = false)
      "database.options.partitioning must be \"none\" or \"warehouse_hash\""
  else if key = "partition_count" then
    match asPositiveInt value with
    | none => ["database.options.partition_count must be a positive integer"]
    | some n => addIf (1024 < n) "database.options.partition_count must not exceed 1024"
  else if key = "foreign_keys" then
    addIf (asForeignKeysOption value = false)
      "database.options.foreign_keys must be a boolean or \"on\"/\"off\""
  else
    [s!"unknown database.options.{key} for dbms=pgsql"]

/-- `validatePgsqlOptions`. -/
def validatePgsqlOptions (options : Entries) : List String :=
  (options.flatMap fun entry => validatePgsqlOption entry.1 entry.2) ++
    match options.lookup "partitioning" with
    | some value =>
      addIf (isOneOf ["none"] value ∧ (options.lookup "partition_count").isSome)
        "database.options.partition_count is only valid when partitioning=warehouse_hash"
    | none =>
      addIf ((options.lookup "partition_count").isSome)
        "database.options.partition_count is only valid when partitioning=warehouse_hash"

/-- The body of the loop of `validateOceanbaseOptions`. -/
def validateOceanbaseOption (key : String) (value : Yaml) : List String :=
  if key = "partitions" then
    match asInt value with
    | none => ["database.options.partitions must be an integer"]
    | some n =>
      if n < -1 then
        ["database.options.partitions must be -1, 0, or a positive integer"]
      else
        addIf (8192 < n) "database.options.partitions must not exceed 8192"
  else if key = "foreign_keys" then
    addIf (asForeignKeysOption value = false)
      "database.options.foreign_keys must be a boolean or \"on\"/\"off\""
  else if key = "query_timeout" then
    addIf (asPositiveInt value = none)
      "database.options.query_timeout must be a positive integer (seconds)"
  else if key = "index_parallel" then
    addIf (asPositiveInt value = none) "database.options.index_parallel must be a positive integer"
  else
    [s!"unknown database.options.{key} for dbms=oceanbase"]

/-- `validateOceanbaseOptions`. -/
def validateOceanbaseOptions (options : Entries) : List String :=
  options.flatMap fun entry => validateOceanbaseOption entry.1 entry.2

/-- `looksLikeSecret`. -/
def looksLikeSecret (s : String) : Bool :=
  s.toList.contains '=' || (s.toList.contains ':' && s.toList.contains '@')

/-- `validatePasswordEnvRequired`. -/
def validatePasswordEnvRequired (name : String) : List String :=
  if name = "" then
    ["database.password_env is required"]
  else if looksLikeSecret name then
    ["database.password_env must be an environment variable name, not a secret literal"]
  else
    addIf (Remote.validEnvName name.toUTF8.data.toList = false)
      "database.password_env must match [A-Za-z_][A-Za-z0-9_]*"

section

variable (lib : GoLibrary)

/-- `containsCredential`. -/
def containsCredential (endpoint : String) : Bool :=
  let lower := endpoint.toList.map lib.toLower
  contains lower "password=".toList || contains lower "user=".toList

/-- The checks of `validateYdbAuth` for one scheme. -/
def validateYdbScheme (db : Database) (scheme : String) : List String :=
  if scheme = "anonymous" then
    addIf (db.user ≠ "" ∨ db.passwordEnv ≠ "" ∨ db.saKeyFile ≠ "")
      "database.auth_scheme=anonymous does not accept user, password_env, or sa_key_file"
  else if scheme = "login" then
    addIf (db.user = "") "database.user is required for auth_scheme=login" ++
      validatePasswordEnvRequired db.passwordEnv ++
      addIf (db.saKeyFile ≠ "") "database.auth_scheme=login does not accept sa_key_file"
  else if scheme = "sa_key" then
    (if db.saKeyFile = "" then
      ["database.sa_key_file is required for auth_scheme=sa_key"]
    else
      addError (expandHome lib db.saKeyFile) fun err => "database.sa_key_file: " ++ err) ++
      addIf (db.user ≠ "" ∨ db.passwordEnv ≠ "")
        "database.auth_scheme=sa_key does not accept user or password_env"
  else
    []

/-- `validateYdbAuth`. -/
def validateYdbAuth (db : Database) : List String :=
  if db.authScheme ≠ "" ∧ db.authScheme ∉ ["anonymous", "login", "sa_key"] then
    ["database.auth_scheme must be \"anonymous\", \"login\", or \"sa_key\""]
  else
    (if db.caFile ≠ "" then
      addError (expandHome lib db.caFile) fun err => "database.ca_file: " ++ err
    else
      []) ++
      validateYdbScheme lib db (inferYdbAuthScheme db)

/-- `validateDatabaseAuth`. -/
def validateDatabaseAuth (db : Database) : List String :=
  if db.dbms = "ydb" then
    validateYdbAuth lib db
  else if db.dbms = "pgsql" ∨ db.dbms = "oceanbase" then
    addIf (db.authScheme ≠ "") "database.auth_scheme is only supported for dbms=ydb" ++
      addIf (db.saKeyFile ≠ "") "database.sa_key_file is only supported for dbms=ydb" ++
      addIf (db.caFile ≠ "") "database.ca_file is only supported for dbms=ydb" ++
      validatePasswordEnvRequired db.passwordEnv
  else
    []

/-- The body of the loop of `validateMix`; the sum wraps around. -/
def addWeight (sum w : Int64) : Except String Int64 := do
  rejectIf (w ≤ 0) "invalid mix: all transaction weights must be positive"
  return sum + w

/-- `validateMix`. -/
def validateMix (m : PerTransaction) : Except String Unit := do
  let sum ← [m.newOrder, m.payment, m.orderStatus, m.delivery, m.stockLevel].foldlM addWeight 0
  rejectIf (sum ≤ 0) "invalid mix: weights must form a complete distribution"

/-- `validateRemoteWarehousePercent`. -/
def validateRemoteWarehousePercent (wl : WorkloadBlock) : Except String Unit := do
  rejectIf (wl.remoteNewOrder < 0 ∨ 100 < wl.remoteNewOrder)
    "workload.remote_warehouse_percent.new_order must be in [0, 100]"
  rejectIf (wl.remotePayment < 0 ∨ 100 < wl.remotePayment)
    "workload.remote_warehouse_percent.payment must be in [0, 100]"

/-- `validateInstances`, from the instance with the number `i`; the lists are the two maps. -/
def validateInstances (remoteRoot role : String) (i : Nat) (seenNames remoteKeys : List String) :
    List NamedHost → List String × List String × List String
  | [] => ([], seenNames, remoteKeys)
  | item :: rest =>
    let key := s!"{item.host}:{remoteRoot}:{item.name}"
    let errors :=
      addIf (item.host = "") s!"{role}[{i}]: host is required (connection address)" ++
        addError (validateInstanceName item.name) (fun err => s!"{role}[{i}]: {err}") ++
        addIf (item.name ≠ "" ∧ item.name ∈ seenNames)
          s!"duplicate instance name {item.name.quote}" ++
        addIf (key ∈ remoteKeys) s!"duplicate remote (host, run_dir, instance): {key}"
    let later :=
      validateInstances remoteRoot role (i + 1) (item.name :: seenNames) (key :: remoteKeys) rest
    (errors ++ later.1, later.2)

/-- Both calls of `validateInstances`. -/
def validateAllInstances (p : Profile) : List String :=
  let loaders := validateInstances p.remoteRoot "loader" 0 [] [] p.loaders
  loaders.1 ++ (validateInstances p.remoteRoot "worker" 0 loaders.2.1 loaders.2.2 p.workers).1

mutual

/-- `hasNestedKey`. -/
def hasNestedKey (key : String) : Entries → Bool
  | [] => false
  | (k, v) :: rest => k = key || valueHasKey key v || hasNestedKey key rest

/-- What `hasNestedKey` looks at in one value: a map, or a list of maps. -/
def valueHasKey (key : String) : Yaml → Bool
  | .map entries => hasNestedKey key entries
  | .list elements => elementsHaveKey key elements
  | _ => false

/-- The loop over the elements of a list; the lists in it are not entered. -/
def elementsHaveKey (key : String) : List Yaml → Bool
  | [] => false
  | .map entries :: rest => hasNestedKey key entries || elementsHaveKey key rest
  | _ :: rest => elementsHaveKey key rest

end

/-- The checks of the keys of the document. -/
def validateRaw (raw : Entries) : List String :=
  (["warehouse_ranges", "assignment", "owns_global_data"].flatMap fun key =>
    addIf (hasNestedKey key raw) s!"manual {key.quote} in profile is prohibited") ++
    ["mode", "spec", "deviations"].flatMap fun key =>
      addIf ((raw.lookup key).isSome) s!"obsolete profile field {key.quote} is not accepted"

/-- The checks of a duration that must be greater than zero. -/
def validatePositiveDuration (field s : String) : List String :=
  match parseDurationMs lib s with
  | .error err => [s!"{field}: {err}"]
  | .ok ms => addIf (ms ≤ 0) s!"{field} must be greater than zero"

/-- The check of a duration. -/
def validateDuration (field s : String) : List String :=
  addError (parseDurationMs lib s) fun err => s!"{field}: {err}"

/-- The checks before the names of the instances are assigned. -/
def validateHeader (p : Profile) : List String :=
  addIf (p.apiVersion ≠ "portable-tpcc/v1")
      s!"unknown apiVersion {p.apiVersion.quote}, want portable-tpcc/v1" ++
    addIf (p.kind ≠ "TpccRunProfile") s!"unknown kind {p.kind.quote}, want TpccRunProfile" ++
    addIf (p.name = "") "metadata.name is required" ++
    addIf (p.ssh.user = "") "ssh.user is required" ++
    addIf (p.ssh.insecureIgnore = false ∧ p.ssh.knownHosts = "")
      "ssh.known_hosts is required unless ssh.insecure_ignore_host_key is true" ++
    (if p.ssh.connectTimeout ≠ "" then
      addError (lib.parseDuration p.ssh.connectTimeout) fun err => "ssh.connect_timeout: " ++ err
    else
      []) ++
    addIf (p.database.dbms ∉ ["ydb", "pgsql", "oceanbase"])
      s!"unknown database.dbms {p.database.dbms.quote}" ++
    (if p.database.dbms = "pgsql" then validatePgsqlOptions p.database.options else []) ++
    (if p.database.dbms = "oceanbase" then validateOceanbaseOptions p.database.options else []) ++
    (if p.database.dbms = "ydb" then validateYdbOptions p.database.options else []) ++
    addIf (p.database.endpoint = "") "database.endpoint is required" ++
    addIf (containsCredential lib p.database.endpoint)
      "credentials must not appear in database.endpoint" ++
    validateDatabaseAuth lib p.database ++
    addIf (p.warehouses ≤ 0) "scale.warehouses must be positive"

/-- The checks of the numbers of instances and of the data. -/
def validateCounts (p : Profile) : List String :=
  addIf (p.loaders.length = 0) "loaders list must not be empty" ++
    addIf (p.workers.length = 0) "workers list must not be empty" ++
    addIf (p.warehouses.toInt < p.loaders.length) "loader count exceeds warehouse count" ++
    addIf (p.warehouses.toInt < p.workers.length) "worker count exceeds warehouse count" ++
    addIf (p.batchRows < 0) "data.batch_rows must not be negative"

/-- The checks of the histogram. -/
def validateHistogram (histogram : Histogram) : List String :=
  addIf (validHistogramUnit histogram.unit = false)
      "runtime.histogram.unit must be \"ms\" or \"us\"" ++
    addIf (histogram.highest.any (· ≤ 0)) "runtime.histogram.highest must be greater than zero"

/-- The check of the interval of the statistics. -/
def validateStatsInterval (s : String) : List String :=
  if s ≠ "" then validatePositiveDuration lib "runtime.stats_interval" s else []

/-- The checks of the runtime. -/
def validateRuntime (runtime : Runtime) : List String :=
  addIf (runtime.pacing ∉ ["", "enabled", "disabled"])
      "runtime.pacing must be \"enabled\" or \"disabled\"" ++
    addIf (validThinkTimeDistribution runtime.thinkTimeDistribution = false)
      ("runtime.think_time_distribution must be \"exponential\", \"compatibility\", " ++
        "or \"constant\"") ++
    addIf (runtime.threadsPerLoader < 0) "runtime.threads_per_loader must not be negative" ++
    addIf (runtime.threadsPerWorker < 0) "runtime.threads_per_worker must not be negative" ++
    addIf (runtime.maxInflightPerWorker < 0)
      "runtime.max_inflight_per_worker must not be negative" ++
    addIf (runtime.checkConcurrency < 0) "runtime.check_concurrency must not be negative" ++
    validateStatsInterval lib runtime.statsInterval ++
    addIf (runtime.retry.maxAttempts < 0) "runtime.retry.max_attempts must not be negative" ++
    validateHistogram runtime.histogram

/-- The checks of the workload. -/
def validateWorkload (wl : WorkloadBlock) : List String :=
  addError (validateMix wl.transactionMix) id ++
    addIf (wl.terminalsPerWarehouse ≤ 0) "workload.terminals_per_warehouse must be positive" ++
    addError (validateRemoteWarehousePercent wl) id ++
    addIf (wl.newOrderMaxRemoteWarehouses < 0)
      "workload.new_order_max_remote_warehouses must not be negative"

/-- The checks of the phases. -/
def validatePhases (phases : Phases) : List String :=
  validateDuration lib "phases.start_lead" phases.startLead ++
    validateDuration lib "phases.ramp_up" phases.rampUp ++
    validatePositiveDuration lib "phases.measurement" phases.measurement ++
    validateDuration lib "phases.transaction_drain" phases.transactionDrain ++
    validateDuration lib "phases.stop_grace" phases.stopGrace ++
    (if phases.asyncWorkDrain ≠ "" then
      validateDuration lib "phases.async_work_drain" phases.asyncWorkDrain
    else
      []) ++
    validateDuration lib "phases.max_clock_skew_ms" phases.maxClockSkew

/-- The checks of the assignments. -/
def validateAssignments (p : Profile) : List String :=
  (match p.loadAssignment with
    | .error err => ["loader assignment: " ++ err]
    | .ok assigned =>
      addError (validateAssignment assigned p.warehouses) fun err =>
        "loader assignment invalid: " ++ err) ++
    addError p.workerAssignment fun err => "worker assignment: " ++ err

/-- The profile after `AssignInstanceNames`. -/
def Profile.named (p : Profile) : Profile :=
  let (loaders, workers) := assignInstanceNames lib p.loaders p.workers
  { p with loaders, workers }

/-- The errors of a profile whose instances have their names. -/
def profileErrors (p : Profile) : List String :=
  validateHeader lib p ++
    validateCounts p ++
    validateRuntime lib p.runtime ++
    validateWorkload (resolveWorkload p.workload) ++
    validateAllInstances p ++
    validatePhases lib p.phases ++
    validateAssignments p ++
    p.raw.elim [] validateRaw

/-- `Profile`: the result, and the profile that the caller goes on with. -/
def validateProfile (p : Profile) : Result × Profile :=
  let p := p.named lib
  (Result.ofErrors (profileErrors lib p), p)

theorem validateDuration_eq_nil {field s : String} :
    validateDuration lib field s = [] ↔ IsDuration lib s := by
  rw [validateDuration, addError_eq_nil, parseDurationMs_ok_iff]

theorem validatePositiveDuration_eq_nil {field s : String} :
    validatePositiveDuration lib field s = [] ↔
      ∃ ms, parseDurationMs lib s = .ok ms ∧ ¬ ms ≤ 0 := by
  unfold validatePositiveDuration
  split
  next err failed =>
    simp [failed]
  next ms parsed =>
    simp [parsed]

theorem arePhases_of_validated {phases : Phases} (accepted : validatePhases lib phases = []) :
    ArePhases lib phases := by
  simp only [validatePhases, List.append_eq_nil_iff, validateDuration_eq_nil,
    validatePositiveDuration_eq_nil] at accepted
  rcases accepted with
    ⟨⟨⟨⟨⟨⟨startLead, rampUp⟩, ms, measurement, _⟩, drain⟩, stopGrace⟩, asyncDrain⟩, skew⟩
  have asyncWorkDrain : IsOptionalDuration lib phases.asyncWorkDrain := by
    by_cases empty : phases.asyncWorkDrain = ""
    · exact .inl empty
    · rw [if_pos empty, validateDuration_eq_nil] at asyncDrain
      exact .inr asyncDrain
  exact {
    startLead := startLead
    rampUp := rampUp
    measurement := (parseDurationMs_ok_iff lib).mp ⟨ms, measurement⟩
    transactionDrain := drain
    asyncWorkDrain := asyncWorkDrain
    stopGrace := stopGrace
    maxClockSkew := skew }

theorem buildHistogram_of_validated {histogram : Histogram}
    (accepted : validateHistogram histogram = []) :
    ∃ built, buildHistogram histogram = .ok built := by
  simp only [validateHistogram, List.append_eq_nil_iff, addIf_eq_nil] at accepted
  rcases accepted with ⟨unit, highest⟩
  simp only [buildHistogram, bind_eq_ok, rejectIf_eq_ok]
  exact ⟨_, (), fun bad => unit bad.2, (), highest, rfl⟩

theorem buildStatsInterval_of_validated {s : String}
    (accepted : validateStatsInterval lib s = []) : ∃ ms, buildStatsInterval lib s = .ok ms := by
  unfold validateStatsInterval at accepted
  unfold buildStatsInterval
  by_cases empty : s = ""
  · exact ⟨_, if_neg (not_not.mpr empty)⟩
  · rw [if_pos empty, validatePositiveDuration_eq_nil] at accepted
    rcases accepted with ⟨ms, parsed, positive⟩
    refine ⟨ms, ?_⟩
    simp only [if_pos empty, bind_eq_ok, mapError_eq_ok, rejectIf_eq_ok]
    exact ⟨ms, parsed, (), positive, rfl⟩

theorem assignments_of_validated {p : Profile} (accepted : validateAssignments p = []) :
    (∃ assigned, p.loadAssignment = .ok assigned) ∧
      ∃ assigned, p.workerAssignment = .ok assigned := by
  simp only [validateAssignments, List.append_eq_nil_iff, addError_eq_nil] at accepted
  rcases accepted with ⟨loaders, workers⟩
  refine ⟨?_, workers⟩
  cases built : p.loadAssignment with
  | error err =>
    simp [built] at loaders
  | ok assigned =>
    exact ⟨assigned, rfl⟩

/-- Every condition of the configuration but the one on the backoffs is validated. -/
theorem settled_of_validated {p : Profile} (accepted : profileErrors lib p = []) :
    Settled lib p := by
  simp only [profileErrors, validateRuntime, List.append_eq_nil_iff] at accepted
  rcases accepted with
    ⟨⟨⟨⟨⟨⟨_, ⟨⟨_, statsInterval⟩, _⟩, histogram⟩, _⟩, _⟩, phases⟩, assignments⟩, _⟩
  rcases assignments_of_validated assignments with ⟨loaders, workers⟩
  exact {
    loaders := loaders
    workers := workers
    phases := arePhases_of_validated lib phases
    histogram := buildHistogram_of_validated histogram
    statsInterval := buildStatsInterval_of_validated lib statsInterval }

/--
From an accepted profile the configuration is built exactly when each of the
two backoffs of the retry policy is empty or a duration.
-/
theorem accepted_profile_builds_iff (p : Profile)
    (accepted : (validateProfile lib p).1.valid = true) (runID workerBinary : String) :
    (∃ rc, buildRunConfig lib ⟨(validateProfile lib p).2, runID, workerBinary⟩ = .ok rc) ↔
      IsOptionalDuration lib p.runtime.retry.initialBackoff ∧
        IsOptionalDuration lib p.runtime.retry.maxBackoff := by
  have settled : Settled lib (p.named lib) := settled_of_validated lib (ofErrors_valid.mp accepted)
  rw [buildRunConfig_ok_iff]
  exact and_iff_right settled

end

/-- The document of a profile with one loader and one worker. -/
def sampleDocument (initialBackoff : String) : Entries :=
  [("apiVersion", .text "portable-tpcc/v1"), ("kind", .text "TpccRunProfile"),
    ("metadata", .map [("name", .text "small")]),
    ("ssh", .map [("user", .text "tpcc"), ("known_hosts", .text "known_hosts")]),
    ("paths", .map [("remote_root", .text "/opt/tpcc")]),
    ("database", .map [("dbms", .text "ydb"), ("endpoint", .text "grpc://db:2136")]),
    ("scale", .map [("warehouses", .int 1)]),
    ("loaders", .list [.text "a"]),
    ("workers", .list [.text "b"]),
    ("phases", .map [("start_lead", .int 500), ("ramp_up", .int 500), ("measurement", .int 9000),
      ("transaction_drain", .int 500), ("stop_grace", .int 500), ("max_clock_skew_ms", .int 50)]),
    ("runtime", .map [("retry", .map [("initial_backoff", .text initialBackoff)])])]

/-- The workload of a profile that leaves it out. -/
def omittedWorkload : Workload :=
  ⟨0, ⟨0, 0, 0, 0, 0⟩, ⟨0, 0, 0, 0, 0⟩, ⟨0, 0, 0, 0, 0⟩, none, none, 0⟩

/-- The profile that is parsed from the document. -/
def sampleProfile (initialBackoff : String) : Profile where
  apiVersion := "portable-tpcc/v1"
  kind := "TpccRunProfile"
  name := "small"
  ssh := ⟨"tpcc", "known_hosts", "", false⟩
  remoteRoot := "/opt/tpcc"
  database := ⟨"ydb", "grpc://db:2136", "", "", "", "", "", "", "", []⟩
  warehouses := 1
  seed := none
  batchRows := 0
  workload := omittedWorkload
  loaders := [⟨"a-1", "a"⟩]
  workers := [⟨"b-1", "b"⟩]
  phases := ⟨"500", "500", "9000", "500", "", "500", "50"⟩
  runtime := ⟨"", "", 0, 0, 0, 0, "", ⟨0, initialBackoff, "", ""⟩, ⟨"", none⟩⟩
  raw := some (sampleDocument initialBackoff)

theorem sampleProfile_assignments (initialBackoff : String) :
    validateAssignments (sampleProfile initialBackoff) = [] := by
  have loaders : Mind.sortedInstances [⟨"a-1", "a"⟩] = [⟨"a-1", "a"⟩] := List.mergeSort_singleton _
  have workers : Mind.sortedInstances [⟨"b-1", "b"⟩] = [⟨"b-1", "b"⟩] := List.mergeSort_singleton _
  have load :
      (sampleProfile initialBackoff).loadAssignment = .ok [⟨"a-1", "a", [⟨1, 2⟩], true, 0⟩] := by
    simp only [Profile.loadAssignment, Profile.loaderInstances, sampleProfile, List.map_cons,
      List.map_nil, NamedHost.toInstance, Mind.buildLoaderAssignments, Mind.balancedContiguousV1,
      loaders]
    rfl
  have work :
      (sampleProfile initialBackoff).workerAssignment = .ok [⟨"b-1", "b", [⟨1, 2⟩], 0, 100⟩] := by
    simp only [Profile.workerAssignment, Profile.workerInstances, sampleProfile, List.map_cons,
      List.map_nil, NamedHost.toInstance, Mind.buildWorkerAssignments, Mind.balancedContiguousV1,
      workers]
    rfl
  rw [validateAssignments, load, work]
  rfl

theorem sampleProfile_phases (lib : GoLibrary) (initialBackoff : String) :
    validatePhases lib (sampleProfile initialBackoff).phases = [] := by
  have measurement : parseDurationMs lib "9000" = .ok 9000 := parseDurationMs_digits lib (by decide)
  simp only [validatePhases, sampleProfile, List.append_eq_nil_iff, validateDuration_eq_nil,
    validatePositiveDuration_eq_nil]
  have short : IsDuration lib "500" := .inl (by decide)
  have skew : IsDuration lib "50" := .inl (by decide)
  exact ⟨⟨⟨⟨⟨⟨short, short⟩, 9000, measurement, by decide⟩, short⟩, short⟩, rfl⟩, skew⟩

theorem sampleProfile_header (lib : GoLibrary) (initialBackoff : String) :
    validateHeader lib (sampleProfile initialBackoff) = [] := by
  have lowered : "grpc://db:2136".toList.map lib.toLower = "grpc://db:2136".toList := by
    have ascii : "grpc://db:2136".toList.all (fun c => c.toNat < 128 ∧ c.toLower = c) = true := by
      decide
    simp only [List.all_eq_true, decide_eq_true_eq] at ascii
    calc "grpc://db:2136".toList.map lib.toLower
      _ = "grpc://db:2136".toList.map id :=
        List.map_congr_left fun c member =>
          (lib.toLower_ascii c (ascii c member).1).trans (ascii c member).2
      _ = "grpc://db:2136".toList := List.map_id _
  have endpoint : containsCredential lib "grpc://db:2136" = false := by
    rw [containsCredential, lowered]
    decide
  simp [validateHeader, sampleProfile, endpoint, validateYdbOptions, validateDatabaseAuth,
    validateYdbAuth, validateYdbScheme, inferYdbAuthScheme]

/-- Its instances have names, so that it is left as it is. -/
theorem sampleProfile_accepted (lib : GoLibrary) (initialBackoff : String) :
    validateProfile lib (sampleProfile initialBackoff) =
      (⟨true, []⟩, sampleProfile initialBackoff) := by
  have named : (sampleProfile initialBackoff).named lib = sampleProfile initialBackoff := rfl
  have counts : validateCounts (sampleProfile initialBackoff) = [] := rfl
  have runtime : validateRuntime lib (sampleProfile initialBackoff).runtime = [] := rfl
  have workload : validateWorkload (resolveWorkload omittedWorkload) = [] := by
    decide +kernel
  have instances : validateAllInstances (sampleProfile initialBackoff) = [] := rfl
  have raw : (sampleProfile initialBackoff).raw.elim [] validateRaw = [] := rfl
  have errors : profileErrors lib (sampleProfile initialBackoff) = [] := by
    simp only [profileErrors, List.append_eq_nil_iff]
    exact ⟨⟨⟨⟨⟨⟨⟨sampleProfile_header lib initialBackoff, counts⟩, runtime⟩, workload⟩, instances⟩,
      sampleProfile_phases lib initialBackoff⟩, sampleProfile_assignments initialBackoff⟩, raw⟩
  simp only [validateProfile, named, errors, Result.ofErrors, List.foldl_nil]

/-- Words are not durations, yet such a profile is accepted. -/
theorem word_backoff_fails :
    (sampleProfile "fast").runtime.retry.initialBackoff = "fast" ∧
      ∀ lib : GoLibrary, (validateProfile lib (sampleProfile "fast")).1.valid = true ∧
        ∀ runID workerBinary : String, ¬ ∃ rc,
          buildRunConfig lib
            ⟨(validateProfile lib (sampleProfile "fast")).2, runID, workerBinary⟩ = .ok rc := by
  refine ⟨rfl, fun lib => ?_⟩
  rw [sampleProfile_accepted]
  refine ⟨rfl, fun runID workerBinary built => ?_⟩
  have backoffs : AreBackoffs lib (sampleProfile "fast").runtime.retry :=
    ((buildRunConfig_ok_iff lib).mp built).2
  have isDuration : IsDuration lib "fast" := backoffs.1.resolve_left (by decide)
  have starts : "fast".toList.head? = some 'f' := rfl
  exact not_isDuration lib starts rfl (by decide) isDuration

/-- A library without durations other than numbers. -/
def plainLibrary : GoLibrary where
  parseDuration _ := .error "time: invalid duration"
  toLower := Char.toLower
  isSpace := Char.isWhitespace
  userHomeDir := .error "$HOME is not defined"
  join directory name := directory ++ "/" ++ name
  now := "2026-01-01T00:00:00Z"
  parseDuration_start _ _ _ _ _ := ⟨_, rfl⟩
  toLower_ascii _ _ := rfl

/-- A backoff of ten milliseconds is taken over. -/
theorem accepted_profile_builds_number :
    (validateProfile plainLibrary (sampleProfile "10")).1.valid = true ∧
      ∃ rc, buildRunConfig plainLibrary
        ⟨(validateProfile plainLibrary (sampleProfile "10")).2, "run-1", ""⟩ = .ok rc := by
  have accepted : (validateProfile plainLibrary (sampleProfile "10")).1.valid = true := by
    rw [sampleProfile_accepted]
  refine ⟨accepted, ?_⟩
  exact (accepted_profile_builds_iff plainLibrary (sampleProfile "10") accepted "run-1" "").mpr
    ⟨.inr (.inl (by decide)), .inl rfl⟩

end RunProfile

end PortableTpcc
