import PortableTpcc.Assignment
import PortableTpcc.DecimalDigits
import PortableTpcc.SignedWords

namespace PortableTpcc

/-!
# The run profile

The types of `profile.go` with its two computations on texts: durations in
milliseconds and the names of the instances.  An `int` of Go is an `Int64`.
-/

namespace RunProfile

open Mind (Instance)

/-- The functions of the Go library, and the surroundings of the process, that are read here. -/
structure GoLibrary where
  /-- `time.ParseDuration`, in nanoseconds. -/
  parseDuration : String → Except String Int64
  /-- `unicode.ToLower`. -/
  toLower : Char → Char
  /-- `unicode.IsSpace`. -/
  isSpace : Char → Bool
  /-- `os.UserHomeDir`. -/
  userHomeDir : Except String String
  /-- `filepath.Join` of two elements. -/
  join : String → String → String
  /-- `time.Now().UTC()`, formatted. -/
  now : String
  /-- A duration starts with a sign, a digit or a point. -/
  parseDuration_start :
    ∀ text first, text.toList.head? = some first → isDigit first = false → first ∉ ['+', '-', '.'] →
    ∃ error, parseDuration text = .error error
  toLower_ascii : ∀ char : Char, char.toNat < 128 → toLower char = char.toLower

/-- `strings.Contains`. -/
def contains (text pattern : List Char) : Bool :=
  pattern <:+: text

/-- A value that the YAML decoder stores in an `interface{}`. -/
inductive Yaml where
  | bool (value : Bool)
  | int (value : Int64)
  | uint (value : UInt64)
  /-- A `float64`, by the `int` that it is equal to. -/
  | float (whole : Option Int64)
  | text (value : String)
  | list (elements : List Yaml)
  | map (entries : List (String × Yaml))
  /-- `nil`, a time or a map with other keys. -/
  | other

/-- A `map[string]interface{}`, in the order of an iteration. -/
abbrev Entries := List (String × Yaml)

/-- `SSHConfig`. -/
structure SSHConfig where
  user : String
  knownHosts : String
  connectTimeout : String
  insecureIgnore : Bool

/-- `Database`. -/
structure Database where
  dbms : String
  endpoint : String
  database : String
  path : String
  authScheme : String
  user : String
  passwordEnv : String
  saKeyFile : String
  caFile : String
  options : Entries

/-- `TransactionMix` and `TxTiming`, and their forms in `run-config.json`. -/
structure PerTransaction where
  newOrder : Int64
  payment : Int64
  orderStatus : Int64
  delivery : Int64
  stockLevel : Int64
deriving Repr, DecidableEq

/-- `Workload`. -/
structure Workload where
  terminalsPerWarehouse : Int64
  transactionMix : PerTransaction
  keyingTimeMs : PerTransaction
  thinkTimeMs : PerTransaction
  remoteNewOrder : Option Int64
  remotePayment : Option Int64
  newOrderMaxRemoteWarehouses : Int64
deriving Repr, DecidableEq

/-- `NamedHost`. -/
structure NamedHost where
  name : String
  host : String
deriving Repr, DecidableEq

/-- `Phases`. -/
structure Phases where
  startLead : String
  rampUp : String
  measurement : String
  transactionDrain : String
  asyncWorkDrain : String
  stopGrace : String
  maxClockSkew : String
deriving Repr, DecidableEq

/-- `RetryPolicy`. -/
structure RetryPolicy where
  maxAttempts : Int64
  initialBackoff : String
  maxBackoff : String
  jitter : String
deriving Repr, DecidableEq

/-- `Histogram`. -/
structure Histogram where
  unit : String
  highest : Option Int64
deriving Repr, DecidableEq

/-- `Runtime`. -/
structure Runtime where
  pacing : String
  thinkTimeDistribution : String
  threadsPerLoader : Int64
  threadsPerWorker : Int64
  maxInflightPerWorker : Int64
  checkConcurrency : Int64
  statsInterval : String
  retry : RetryPolicy
  histogram : Histogram
deriving Repr, DecidableEq

/-- `Profile`, with the fields that are validated or materialized. -/
structure Profile where
  apiVersion : String
  kind : String
  name : String
  ssh : SSHConfig
  remoteRoot : String
  database : Database
  warehouses : Int64
  seed : Option Int64
  batchRows : Int64
  workload : Workload
  loaders : List NamedHost
  workers : List NamedHost
  phases : Phases
  runtime : Runtime
  raw : Option Entries

/-- The `assignment.Instance` of an entry. -/
def NamedHost.toInstance (entry : NamedHost) : Instance :=
  ⟨entry.name, entry.host⟩

/-- `LoaderInstances`. -/
def Profile.loaderInstances (p : Profile) : List Instance :=
  p.loaders.map NamedHost.toInstance

/-- `WorkerInstances`. -/
def Profile.workerInstances (p : Profile) : List Instance :=
  p.workers.map NamedHost.toInstance

section

variable (lib : GoLibrary)

/-- `isDigits`. -/
def isDigits (s : String) : Bool :=
  s.toList.all isDigit && s ≠ ""

/-- The body of the loop of `parseInt64`; the product and the sum wrap around. -/
def appendDigit (s : String) (v : Int64) (c : Char) : Except String Int64 := do
  rejectIf (isDigit c = false) s!"invalid integer {s.quote}"
  return v * 10 + Int64.ofNat (c.toNat - '0'.toNat)

/-- `parseInt64`. -/
def parseInt64 (s : String) : Except String Int64 :=
  s.toList.foldlM (appendDigit s) 0

/-- `ParseDurationMs`. -/
def parseDurationMs (s : String) : Except String Int64 := do
  rejectIf (s = "") "empty duration"
  if isDigits s then
    parseInt64 s
  else
    let d ← (lib.parseDuration s).mapError fun error => s!"invalid duration {s.quote}: {error}"
    rejectIf (d < 0) s!"invalid duration {s.quote}: must not be negative"
    return d / 1000000

/-- The texts that are durations: digits, or what Go takes for a duration that is not negative. -/
def IsDuration (s : String) : Prop :=
  isDigits s = true ∨ s ≠ "" ∧ ∃ d, lib.parseDuration s = .ok d ∧ ¬ d < 0

/-- The texts of a field that may be left out. -/
def IsOptionalDuration (s : String) : Prop :=
  s = "" ∨ IsDuration lib s

/-- The loop computes the number of the digits, wrapped around. -/
theorem foldlM_appendDigit_eq (s : String) {digits : List Char}
    (areDigits : ∀ c ∈ digits, isDigit c = true) (n : Nat) :
    digits.foldlM (appendDigit s) (Int64.ofNat n) =
      .ok (Int64.ofNat (Nat.ofDigitChars 10 digits n)) := by
  induction digits generalizing n with
  | nil =>
    rfl
  | cons c rest ih =>
    rw [List.forall_mem_cons] at areDigits
    have step : appendDigit s (Int64.ofNat n) c =
        .ok (Int64.ofNat (10 * n + (c.toNat - '0'.toNat))) := by
      rw [appendDigit, rejectIf, if_neg (by simp [areDigits.1]), ← ofNat_mul_ten_add]
      rfl
    rw [List.foldlM_cons, step, Nat.ofDigitChars_cons]
    exact ih areDigits.2 _

theorem parseInt64_eq {s : String} (digits : s.toList.all isDigit = true) :
    parseInt64 s = .ok (Int64.ofNat (Nat.ofDigitChars 10 s.toList 0)) :=
  foldlM_appendDigit_eq s (List.all_eq_true.mp digits) 0

theorem isDigits_iff {s : String} : isDigits s = true ↔ s.toList.all isDigit = true ∧ s ≠ "" := by
  rw [isDigits, Bool.and_eq_true, decide_eq_true_eq]

theorem parseDurationMs_digits {s : String} (digits : isDigits s = true) :
    parseDurationMs lib s = parseInt64 s := by
  rw [parseDurationMs, rejectIf, if_neg (isDigits_iff.mp digits).2, if_pos digits]
  rfl

/-- A text is parsed exactly when it is a duration. -/
theorem parseDurationMs_ok_iff {s : String} :
    (∃ ms, parseDurationMs lib s = .ok ms) ↔ IsDuration lib s := by
  by_cases digits : isDigits s = true
  · rw [parseDurationMs_digits lib digits]
    exact iff_of_true ⟨_, parseInt64_eq (isDigits_iff.mp digits).1⟩ (.inl digits)
  · simp only [parseDurationMs, bind_eq_ok, rejectIf_eq_ok, if_neg digits, mapError_eq_ok]
    constructor
    · rintro ⟨_, _, notEmpty, d, isDuration, _, notNegative, _⟩
      exact .inr ⟨notEmpty, d, isDuration, notNegative⟩
    · rintro (isDigits | ⟨notEmpty, d, isDuration, notNegative⟩)
      · exact absurd isDigits digits
      · exact ⟨d / 1000000, (), notEmpty, d, isDuration, (), notNegative, rfl⟩

/-- Digits are read as the number that they denote exactly when it fits. -/
theorem parseDurationMs_exact_iff {s : String} (digits : s.toList.all isDigit = true) :
    ((∃ error, parseDurationMs lib s = .error error) ∨
        ∃ ms, parseDurationMs lib s = .ok ms ∧ ms.toInt = Nat.ofDigitChars 10 s.toList 0) ↔
      Nat.ofDigitChars 10 s.toList 0 < 2 ^ 63 := by
  by_cases empty : s = ""
  · subst empty
    exact iff_of_true (.inl ⟨_, rfl⟩) (by decide)
  · rw [parseDurationMs_digits lib (isDigits_iff.mpr ⟨digits, empty⟩), parseInt64_eq digits]
    have fits := toInt_ofInt_eq_iff (n := (Nat.ofDigitChars 10 s.toList 0 : Nat))
    constructor
    · rintro (⟨_, isError⟩ | ⟨ms, isOk, exact⟩)
      · cases isError
      · cases isOk
        have inRange := fits.mp exact
        omega
    · intro small
      exact .inr ⟨_, rfl, fits.mpr (by omega)⟩

/-- A number of milliseconds within the range. -/
theorem parseDurationMs_exact_9000 : "9000".toList.all isDigit = true ∧ ∀ lib : GoLibrary,
    ((∃ error, parseDurationMs lib "9000" = .error error) ∨
        ∃ ms, parseDurationMs lib "9000" = .ok ms ∧
          ms.toInt = Nat.ofDigitChars 10 "9000".toList 0) ↔
      Nat.ofDigitChars 10 "9000".toList 0 < 2 ^ 63 :=
  ⟨by decide, fun lib => parseDurationMs_exact_iff lib (by decide)⟩

/-- `2 ^ 64 + 1` milliseconds are read as one. -/
theorem long_digits_wrap :
    "18446744073709551617".toList.all isDigit = true ∧
      Nat.ofDigitChars 10 "18446744073709551617".toList 0 = 2 ^ 64 + 1 ∧
        ∀ lib, parseDurationMs lib "18446744073709551617" = .ok 1 :=
  ⟨by decide, by decide, fun lib => parseDurationMs_digits lib (by decide)⟩

/-- A text that starts with a letter is none. -/
theorem not_isDuration {s : String} {first : Char} (starts : s.toList.head? = some first)
    (notDigit : isDigit first = false) (notSign : first ∉ ['+', '-', '.']) :
    ¬ IsDuration lib s := by
  rintro (digits | ⟨_, d, isDuration, _⟩)
  · have isFirst :=
      List.all_eq_true.mp (isDigits_iff.mp digits).1 first (List.mem_of_mem_head? starts)
    simp [notDigit] at isFirst
  · rcases lib.parseDuration_start s first starts notDigit notSign with ⟨error, isError⟩
    simp [isError] at isDuration

/-- The body of the loop of `sanitizeHostForName`; the flag is `lastDash`. -/
def sanitizeRune (progress : List Char × Bool) (r : Char) : List Char × Bool :=
  if ('a' ≤ r ∧ r ≤ 'z') ∨ ('0' ≤ r ∧ r ≤ '9') then
    (progress.1 ++ [r], false)
  else if progress.2 = false ∧ progress.1 ≠ [] then
    (progress.1 ++ ['-'], true)
  else
    progress

/-- `strings.TrimFunc`. -/
def trim (drops : Char → Bool) (text : List Char) : List Char :=
  ((text.dropWhile drops).reverse.dropWhile drops).reverse

/-- `sanitizeHostForName`. -/
def sanitizeHostForName (host : String) : List Char :=
  let lowered := (trim lib.isSpace host.toList).map lib.toLower
  let s := trim (· = '-') (lowered.foldl sanitizeRune ([], false)).1
  let s := if s = [] then "host".toList else s
  if s.head?.any isDigit then
    "h-".toList ++ s
  else
    s

/-- `instanceNameFromHost`. -/
def instanceNameFromHost (host : String) (index : Nat) : String :=
  String.ofList (sanitizeHostForName lib host) ++ s!"-{index}"

/-- The body of the loop of `AssignInstanceNames`; `counts` is the map of the numbers. -/
def assignName (counts : String → Nat) (entry : NamedHost) : (String → Nat) × NamedHost :=
  if entry.name ≠ "" then
    (counts, entry)
  else
    let index := counts entry.host + 1
    (Function.update counts entry.host index,
      { entry with name := instanceNameFromHost lib entry.host index })

/-- The loop of `AssignInstanceNames` over one list. -/
def assignNames (counts : String → Nat) : List NamedHost → (String → Nat) × List NamedHost
  | [] => (counts, [])
  | entry :: rest =>
    let (counts, named) := assignName lib counts entry
    let (counts, later) := assignNames counts rest
    (counts, named :: later)

/-- `AssignInstanceNames`: the loaders and the workers with their names. -/
def assignInstanceNames (loaders workers : List NamedHost) : List NamedHost × List NamedHost :=
  let (counts, loaders) := assignNames lib (fun _ => 0) loaders
  (loaders, (assignNames lib counts workers).2)

/-- `ValidateInstanceName`. -/
def validateInstanceName (name : String) : Except String Unit :=
  let matched :=
    match name.toList with
    | [] => false
    | first :: rest =>
      ('a' ≤ first && first ≤ 'z') &&
        rest.all fun c => ('a' ≤ c && c ≤ 'z') || isDigit c || c = '-'
  rejectIf (matched = false) s!"instance name {name.quote} must match [a-z][a-z0-9-]*"

end

/-- `ExpandHome`. -/
def expandHome (lib : GoLibrary) (path : String) : Except String String :=
  if path = "~" then
    lib.userHomeDir
  else if !("~/".toList.isPrefixOf path.toList) then
    .ok path
  else do
    let home ← lib.userHomeDir
    return lib.join home (String.ofList (path.toList.drop 2))

end RunProfile

end PortableTpcc
