import Mathlib.Algebra.Order.Archimedean.Real.Basic
import PortableTpcc.Binary64

namespace PortableTpcc

/-!
# Clock calibration

`clock_skew.cpp` estimates how far the clock of the server is from the local one, and
`consolidate.go` accepts the estimates of all workers against a budget.  A time point of the local
clock is a number of nanoseconds; the differences of milliseconds do not overflow.
-/

/-- The readings around one call of the sampler. -/
structure Probe where
  t0 : Int
  serverMs : Int
  t1 : Int
  /-- A duration has 64 bits. -/
  short : t1 - t0 < 2 ^ 63

/-- `TSample`. -/
structure TSample where
  offsetMs : Int
  rttMs : Int
deriving Repr, DecidableEq

/-- `TClockCalibration`, without the time it was made at. -/
structure TClockCalibration where
  offsetMs : Int
  uncertaintyMs : Int
  rttMs : Int
  timeSource : String
deriving Repr, DecidableEq

/-- `duration_cast<milliseconds>`, which rounds towards zero. -/
def toMs (nanoseconds : Int) : Int :=
  nanoseconds.tdiv 1000000

/-- The body of the loop of `MeasureClockCalibrationWithSampler`. -/
def Probe.sample (p : Probe) : TSample :=
  let rttMs := toMs (p.t1 - p.t0)
  let midpointMs := toMs p.t0 + rttMs.tdiv 2
  ⟨p.serverMs - midpointMs, rttMs⟩

/-- `std::min_element` by the round trip, behind a first sample. -/
def minByRtt (best : TSample) : List TSample → TSample
  | [] => best
  | sample :: rest => minByRtt (if sample.rttMs < best.rttMs then sample else best) rest

/-- `MeasureClockCalibrationWithSampler`, where a sampler gives the readings around its calls. -/
def measureClockCalibrationWithSampler (sampler : Option (Nat → Probe)) (timeSource : String)
    (sampleCount : Int) : Except String TClockCalibration :=
  match sampler with
  | none => .error "MeasureClockCalibrationWithSampler: sampler is empty"
  | some probe =>
    match (List.range sampleCount.toNat).map fun i => (probe i).sample with
    | [] => .error "MeasureClockCalibrationWithSampler: sampleCount must be > 0"
    | first :: rest =>
      let best := minByRtt first rest
      .ok ⟨best.offsetMs, (best.rttMs + 1).tdiv 2, best.rttMs, timeSource⟩

/-! ## One worker -/

/-- The server was asked between the two readings, and cut its time to milliseconds.  Its clock is
ahead of the local one by `offset` nanoseconds. -/
def Probe.Observes (offset : ℝ) (p : Probe) : Prop :=
  ∃ asked : ℝ, p.t0 ≤ asked ∧ asked ≤ p.t1 ∧ p.serverMs = ⌊(asked + offset) / 1000000⌋

/-- A worker that has measured its clock. -/
structure MeasuredWorker where
  offset : ℝ
  probe : Nat → Probe
  observes : ∀ i, (probe i).Observes offset
  timeSource : String
  sampleCount : Int
  calibration : TClockCalibration
  measured : measureClockCalibrationWithSampler (some probe) timeSource sampleCount =
    .ok calibration

theorem minByRtt_mem (best : TSample) (rest : List TSample) :
    minByRtt best rest ∈ best :: rest := by
  induction rest generalizing best with
  | nil => exact List.mem_singleton_self best
  | cons sample rest ih =>
    rw [minByRtt]
    split
    · exact List.mem_cons_of_mem _ (ih sample)
    · rcases List.mem_cons.mp (ih best) with isBest | isLater
      · exact List.mem_cons.mpr (.inl isBest)
      · exact List.mem_cons_of_mem _ (List.mem_cons_of_mem _ isLater)

theorem MeasuredWorker.exists_probe (worker : MeasuredWorker) :
    ∃ i, worker.calibration.offsetMs = (worker.probe i).sample.offsetMs ∧
      worker.calibration.uncertaintyMs = ((worker.probe i).sample.rttMs + 1).tdiv 2 := by
  have measured := worker.measured
  unfold measureClockCalibrationWithSampler at measured
  dsimp only at measured
  split at measured
  · cases measured
  · rename_i first rest samples
    have member := minByRtt_mem first rest
    rw [← samples] at member
    obtain ⟨i, -, isSample⟩ := List.mem_map.mp member
    rw [← Except.ok.inj measured, ← isSample]
    exact ⟨i, rfl, rfl⟩

theorem toMs_close (nanoseconds : Int) :
    (nanoseconds : ℝ) / 1000000 - 1 < toMs nanoseconds ∧
      (toMs nanoseconds : ℝ) < nanoseconds / 1000000 + 1 := by
  have parts : 1000000 * toMs nanoseconds + nanoseconds.tmod 1000000 = nanoseconds :=
    Int.mul_tdiv_add_tmod nanoseconds 1000000
  have small := Int.tmod_lt_of_pos nanoseconds (show (0 : Int) < 1000000 by decide)
  have large := Int.lt_tmod_of_pos nanoseconds (show (0 : Int) < 1000000 by decide)
  have below : nanoseconds - 1000000 < 1000000 * toMs nanoseconds := by omega
  have above : 1000000 * toMs nanoseconds < nanoseconds + 1000000 := by omega
  have below' : (nanoseconds : ℝ) - 1000000 < 1000000 * toMs nanoseconds := by exact_mod_cast below
  have above' : 1000000 * (toMs nanoseconds : ℝ) < nanoseconds + 1000000 := by exact_mod_cast above
  constructor <;> linarith

/-- The round trip is split into its half and the reported uncertainty. -/
theorem half_add_uncertainty {rtt : Int} (nonneg : 0 ≤ rtt) :
    rtt.tdiv 2 + (rtt + 1).tdiv 2 = rtt ∧ rtt.tdiv 2 ≤ (rtt + 1).tdiv 2 := by
  rw [Int.tdiv_eq_ediv_of_nonneg nonneg, Int.tdiv_eq_ediv_of_nonneg (by omega)]
  omega

theorem Probe.rtt_nonneg {p : Probe} (ordered : p.t0 ≤ p.t1) : 0 ≤ toMs (p.t1 - p.t0) :=
  Int.tdiv_nonneg (by omega) (by decide)

/-- The estimate of one sample, with all its roundings. -/
theorem Probe.sample_close
    {offset : ℝ}
    {p : Probe}
    (observes : p.Observes offset) :
    |offset / 1000000 - p.sample.offsetMs| < ((p.sample.rttMs + 1).tdiv 2 : Int) + 2 := by
  obtain ⟨asked, after, before, reading⟩ := observes
  have ordered : p.t0 ≤ p.t1 := by exact_mod_cast after.trans before
  have nonneg : 0 ≤ toMs (p.t1 - p.t0) := p.rtt_nonneg ordered
  obtain ⟨split_, half⟩ := half_add_uncertainty nonneg
  have splitReal : (((toMs (p.t1 - p.t0)).tdiv 2 : Int) : ℝ) +
      ((toMs (p.t1 - p.t0) + 1).tdiv 2 : Int) = toMs (p.t1 - p.t0) := by exact_mod_cast split_
  have halfReal : (((toMs (p.t1 - p.t0)).tdiv 2 : Int) : ℝ) ≤
      ((toMs (p.t1 - p.t0) + 1).tdiv 2 : Int) := by exact_mod_cast half
  have start := toMs_close p.t0
  have trip := (toMs_close (p.t1 - p.t0)).1
  have low := Int.floor_le ((asked + offset) / 1000000)
  have high := Int.lt_floor_add_one ((asked + offset) / 1000000)
  push_cast at trip
  have estimate : (p.sample.offsetMs : ℝ) =
      p.serverMs - (toMs p.t0 + ((toMs (p.t1 - p.t0)).tdiv 2 : Int)) := by
    simp [Probe.sample]
  rw [estimate, reading, abs_lt]
  change _ < _ ∧ _ < (((toMs (p.t1 - p.t0) + 1).tdiv 2 : Int) : ℝ) + 2
  constructor
  · change -((((toMs (p.t1 - p.t0) + 1).tdiv 2 : Int) : ℝ) + 2) < _
    linarith
  · linarith

/-- The reported uncertainty is that of a round trip of 64 bits. -/
theorem MeasuredWorker.uncertainty_lt (worker : MeasuredWorker) :
    worker.calibration.uncertaintyMs < 2 ^ 43 := by
  obtain ⟨i, -, isUncertainty⟩ := worker.exists_probe
  obtain ⟨asked, after, before, -⟩ := worker.observes i
  have ordered : (worker.probe i).t0 ≤ (worker.probe i).t1 := by exact_mod_cast after.trans before
  have nonneg := (worker.probe i).rtt_nonneg ordered
  have short := (worker.probe i).short
  have isDiv : toMs ((worker.probe i).t1 - (worker.probe i).t0) =
      ((worker.probe i).t1 - (worker.probe i).t0) / 1000000 :=
    Int.tdiv_eq_ediv_of_nonneg (by omega)
  rw [isUncertainty, Probe.sample]
  dsimp only
  rw [Int.tdiv_eq_ediv_of_nonneg (by omega)]
  omega

theorem MeasuredWorker.close (worker : MeasuredWorker) :
    |worker.offset / 1000000 - worker.calibration.offsetMs| <
      worker.calibration.uncertaintyMs + 2 := by
  obtain ⟨i, isOffset, isUncertainty⟩ := worker.exists_probe
  rw [isOffset, isUncertainty]
  exact Probe.sample_close (worker.observes i)

namespace Mind

/-! ## The budget of all workers -/

/-- Rounding to a `float64`; the numbers here are far from the bounds of its exponents. -/
structure Float64Rounding where
  round : ℚ → ℚ
  monotone : Monotone round
  of_small : ∀ n : Int, |n| ≤ 2 ^ 53 → round n = n
  close : ∀ x : ℚ, 1 ≤ |x| → |round x - x| ≤ |x| / 2 ^ 53

/-- `workerClockCalibration`. -/
structure WorkerClockCalibration where
  offset : ℚ
  uncertainty : ℚ
deriving Repr, DecidableEq

/-- The least and the greatest offset in the loop of `evaluateClockSkew`. -/
def minOffset (start : ℚ) (rest : List WorkerClockCalibration) : ℚ :=
  rest.foldl (fun least cal => if cal.offset < least then cal.offset else least) start

def maxOffset (start : ℚ) (rest : List WorkerClockCalibration) : ℚ :=
  rest.foldl (fun greatest cal => if cal.offset > greatest then cal.offset else greatest) start

/-- `evaluateClockSkew`, with the calibrations in the order `range` visits them. -/
def evaluateClockSkew (float64 : Float64Rounding) (calibrations : List WorkerClockCalibration)
    (maxSkew : Int) (expected : List String) : Bool :=
  if maxSkew ≤ 0 then
    true
  else if expected.length > 0 ∧ calibrations.length ≠ expected.length then
    false
  else
    match calibrations with
    | [] => false
    | first :: rest =>
      let budget := float64.round maxSkew
      let within := (first :: rest).all fun cal =>
        !decide (|cal.offset| > budget ∨ |cal.uncertainty| > budget)
      let spread := maxOffset first.offset rest - minOffset first.offset rest
      within && !decide (rest.length ≥ 1 ∧ float64.round spread > budget)

/-- A calibration as it is read from the `ready` file. -/
def Float64Rounding.reads (float64 : Float64Rounding) (cal : TClockCalibration) :
    WorkerClockCalibration :=
  ⟨float64.round cal.offsetMs, float64.round cal.uncertaintyMs⟩

theorem minOffset_le (start : ℚ) (rest : List WorkerClockCalibration) :
    minOffset start rest ≤ start ∧ ∀ cal ∈ rest, minOffset start rest ≤ cal.offset := by
  induction rest generalizing start with
  | nil => simp [minOffset]
  | cons cal rest ih =>
    have unfolded : minOffset start (cal :: rest) =
        minOffset (if cal.offset < start then cal.offset else start) rest := rfl
    rw [unfolded, List.forall_mem_cons]
    split
    · rename_i less
      obtain ⟨below, others⟩ := ih cal.offset
      exact ⟨below.trans less.le, below, others⟩
    · rename_i notLess
      obtain ⟨below, others⟩ := ih start
      exact ⟨below, below.trans (not_lt.mp notLess), others⟩

theorem le_maxOffset (start : ℚ) (rest : List WorkerClockCalibration) :
    start ≤ maxOffset start rest ∧ ∀ cal ∈ rest, cal.offset ≤ maxOffset start rest := by
  induction rest generalizing start with
  | nil => simp [maxOffset]
  | cons cal rest ih =>
    have unfolded : maxOffset start (cal :: rest) =
        maxOffset (if cal.offset > start then cal.offset else start) rest := rfl
    rw [unfolded, List.forall_mem_cons]
    split
    · rename_i greater
      obtain ⟨above, others⟩ := ih cal.offset
      exact ⟨greater.le.trans above, above, others⟩
    · rename_i notGreater
      obtain ⟨above, others⟩ := ih start
      exact ⟨above, (not_lt.mp notGreater).trans above, others⟩

variable {float64 : Float64Rounding} {maxSkew : Int}

theorem evaluateClockSkew_accepted {calibrations : List WorkerClockCalibration}
    {expected : List String} (positive : 0 < maxSkew)
    (accepted : evaluateClockSkew float64 calibrations maxSkew expected = true) :
    (∀ cal ∈ calibrations, |cal.offset| ≤ float64.round maxSkew ∧
        |cal.uncertainty| ≤ float64.round maxSkew) ∧
      ∀ first ∈ calibrations, ∀ second ∈ calibrations,
        float64.round (first.offset - second.offset) ≤ float64.round maxSkew := by
  unfold evaluateClockSkew at accepted
  rw [if_neg (by omega)] at accepted
  split at accepted
  · cases accepted
  cases calibrations with
  | nil => cases accepted
  | cons head rest =>
    simp only [Bool.and_eq_true, List.all_eq_true, Bool.not_eq_true', decide_eq_false_iff_not,
      not_or, not_lt, gt_iff_lt] at accepted
    obtain ⟨within, spread⟩ := accepted
    refine ⟨within, fun first isFirst second isSecond => ?_⟩
    have below : ∀ cal ∈ head :: rest, minOffset head.offset rest ≤ cal.offset :=
      List.forall_mem_cons.mpr (minOffset_le _ _)
    have above : ∀ cal ∈ head :: rest, cal.offset ≤ maxOffset head.offset rest :=
      List.forall_mem_cons.mpr (le_maxOffset _ _)
    cases rest with
    | nil =>
      obtain rfl := List.mem_singleton.mp isFirst
      obtain rfl := List.mem_singleton.mp isSecond
      rw [sub_self]
      exact float64.monotone (by exact_mod_cast positive.le)
    | cons next others =>
      have bounded := not_lt.mp fun large => spread ⟨by simp, large⟩
      exact (float64.monotone (sub_le_sub (above _ isFirst) (below _ isSecond))).trans bounded

/-- Below `2 ^ 53` the comparison with the budget is exact. -/
theorem Float64Rounding.le_of_round_le {n : Int} (small : maxSkew < 2 ^ 53) (positive : 0 < maxSkew)
    (below : float64.round n ≤ float64.round maxSkew) : n ≤ maxSkew := by
  by_contra above
  have next : float64.round ((maxSkew + 1 : Int) : ℚ) ≤ float64.round n :=
    float64.monotone (by exact_mod_cast Int.not_le.mp above)
  have isBudget := float64.of_small maxSkew (by rw [abs_of_pos positive]; omega)
  have isNext := float64.of_small (maxSkew + 1) (by rw [abs_of_pos (by omega)]; omega)
  rw [isNext] at next
  rw [isBudget] at below
  have contradiction_ := next.trans below
  norm_cast at contradiction_
  omega

theorem Float64Rounding.neg_le_of_le_round {n : Int} (small : maxSkew < 2 ^ 53)
    (positive : 0 < maxSkew) (above : -float64.round maxSkew ≤ float64.round n) : -maxSkew ≤ n := by
  by_contra below
  have next : float64.round n ≤ float64.round ((-maxSkew - 1 : Int) : ℚ) :=
    float64.monotone (by exact_mod_cast (show n ≤ -maxSkew - 1 by omega))
  have isBudget := float64.of_small maxSkew (by rw [abs_of_pos positive]; omega)
  have isNext := float64.of_small (-maxSkew - 1) (by rw [abs_of_neg (by omega)]; omega)
  rw [isNext] at next
  rw [isBudget] at above
  have contradiction_ := above.trans next
  norm_cast at contradiction_
  omega

/-- A large number is close to what it is rounded to. -/
theorem Float64Rounding.round_close (x : ℚ) : |x| < 1 ∨ |float64.round x - x| ≤ |x| / 2 ^ 53 := by
  by_cases large : 1 ≤ |x|
  · exact .inr (float64.close x large)
  · exact .inl (not_le.mp large)

/-- A number below one is rounded by less than two. -/
theorem Float64Rounding.round_sub_le_two {x : ℚ} (tiny : |x| < 1) : |float64.round x - x| ≤ 2 := by
  have one := float64.of_small 1 (by norm_num)
  have minusOne := float64.of_small (-1) (by norm_num)
  push_cast at one minusOne
  obtain ⟨above, below⟩ := abs_lt.mp tiny
  have unit : float64.round x ≤ 1 := one ▸ float64.monotone below.le
  have minusUnit : -1 ≤ float64.round x := minusOne ▸ float64.monotone above.le
  rw [abs_le]
  constructor <;> linarith

section

variable {offset offset' : Int} (within : |float64.round offset| ≤ float64.round maxSkew)
  (within' : |float64.round offset'| ≤ float64.round maxSkew)
  (spread : float64.round (float64.round offset - float64.round offset') ≤ float64.round maxSkew)

include within within' spread

/-- Below `2 ^ 53` no offset is rounded. -/
theorem Float64Rounding.offsets_sub_le (small : maxSkew < 2 ^ 53) (positive : 0 < maxSkew) :
    offset - offset' ≤ maxSkew := by
  obtain ⟨low, high⟩ := abs_le.mp within
  obtain ⟨low', high'⟩ := abs_le.mp within'
  have bounds : -maxSkew ≤ offset ∧ offset ≤ maxSkew :=
    ⟨float64.neg_le_of_le_round small positive low, float64.le_of_round_le small positive high⟩
  have bounds' : -maxSkew ≤ offset' ∧ offset' ≤ maxSkew :=
    ⟨float64.neg_le_of_le_round small positive low', float64.le_of_round_le small positive high'⟩
  rw [float64.of_small offset (by rw [abs_le]; omega),
    float64.of_small offset' (by rw [abs_le]; omega)] at spread
  apply float64.le_of_round_le small positive
  push_cast
  exact spread

/-- A budget from `2 ^ 53` on is so large that rounding does not count against it. -/
theorem Float64Rounding.offsets_sub_le_of_large (large : (2 ^ 53 : ℚ) ≤ maxSkew) :
    (offset - offset' : ℚ) ≤ 2 * maxSkew := by
  have budget := float64.close maxSkew (by rw [abs_of_pos (by linarith)]; linarith)
  rw [abs_of_pos (show (0 : ℚ) < maxSkew by linarith), abs_le] at budget
  have near : ∀ x : ℚ, |float64.round x| ≤ float64.round maxSkew →
      |float64.round x - x| ≤ maxSkew / 2 ^ 40 + 2 := by
    intro x inside
    rcases float64.round_close x with tiny | isClose
    · exact (float64.round_sub_le_two tiny).trans (by linarith)
    · have triangle := abs_sub_abs_le_abs_sub x (float64.round x)
      rw [abs_sub_comm] at triangle
      linarith
  have apart : float64.round offset - float64.round offset' ≤ 3 / 2 * maxSkew := by
    rcases float64.round_close (float64.round offset - float64.round offset') with tiny | isClose
    · have below := (abs_lt.mp tiny).2
      linarith
    · have bound : |float64.round offset - float64.round offset'| ≤ 3 * maxSkew := by
        have triangle := abs_sub (float64.round offset) (float64.round offset')
        linarith
      have below := (abs_le.mp isClose).1
      linarith
  have first := (abs_le.mp (near offset within)).1
  have second := (abs_le.mp (near offset' within')).2
  linarith

/-- The difference of two accepted offsets, and both uncertainties, within three budgets. -/
theorem Float64Rounding.offsets_le
    {uncertainty uncertainty' : Int}
    (positive : 0 < maxSkew)
    (short : uncertainty < 2 ^ 43)
    (short' : uncertainty' < 2 ^ 43)
    (certain : float64.round uncertainty ≤ float64.round maxSkew)
    (certain' : float64.round uncertainty' ≤ float64.round maxSkew) :
    offset - offset' + uncertainty + uncertainty' ≤ 3 * maxSkew := by
  by_cases small : maxSkew < 2 ^ 53
  · have apart := float64.offsets_sub_le within within' spread small positive
    have first := float64.le_of_round_le small positive certain
    have second := float64.le_of_round_le small positive certain'
    omega
  · have large : (2 ^ 53 : ℚ) ≤ maxSkew := by exact_mod_cast Int.not_lt.mp small
    have apart := float64.offsets_sub_le_of_large within within' spread large
    have apart' : offset - offset' ≤ 2 * maxSkew := by exact_mod_cast apart
    omega

end

/-- The estimate of a worker is close to the truth, and the estimates of two workers that are
accepted together bound how far their clocks are apart; all in milliseconds. -/
theorem clockCalibration_sound (float64 : Float64Rounding) (first second : MeasuredWorker) :
    |first.offset / 1000000 - first.calibration.offsetMs| <
        first.calibration.uncertaintyMs + 2 ∧
      ∀ calibrations maxSkew expected, 0 < maxSkew →
        evaluateClockSkew float64 calibrations maxSkew expected = true →
        float64.reads first.calibration ∈ calibrations →
        float64.reads second.calibration ∈ calibrations →
        |first.offset / 1000000 - second.offset / 1000000| < 3 * maxSkew + 4 := by
  refine ⟨first.close, fun calibrations maxSkew expected positive accepted isFirst isSecond => ?_⟩
  obtain ⟨within, spread⟩ := evaluateClockSkew_accepted positive accepted
  have ofFirst := within _ isFirst
  have ofSecond := within _ isSecond
  have ahead := float64.offsets_le ofFirst.1 ofSecond.1 (spread _ isFirst _ isSecond) positive
    first.uncertainty_lt second.uncertainty_lt ((le_abs_self _).trans ofFirst.2)
    ((le_abs_self _).trans ofSecond.2)
  have behind := float64.offsets_le ofSecond.1 ofFirst.1 (spread _ isSecond _ isFirst) positive
    second.uncertainty_lt first.uncertainty_lt ((le_abs_self _).trans ofSecond.2)
    ((le_abs_self _).trans ofFirst.2)
  have aheadReal : (first.calibration.offsetMs : ℝ) - second.calibration.offsetMs +
      first.calibration.uncertaintyMs + second.calibration.uncertaintyMs ≤ 3 * maxSkew := by
    exact_mod_cast ahead
  have behindReal : (second.calibration.offsetMs : ℝ) - first.calibration.offsetMs +
      second.calibration.uncertaintyMs + first.calibration.uncertaintyMs ≤ 3 * maxSkew := by
    exact_mod_cast behind
  obtain ⟨firstLow, firstHigh⟩ := abs_lt.mp first.close
  obtain ⟨secondLow, secondHigh⟩ := abs_lt.mp second.close
  rw [abs_lt]
  constructor <;> linarith

/-- Rounding to nearest, ties to even. -/
def binary64 : Float64Rounding where
  round := Binary64.round
  monotone := Binary64.round_mono
  of_small _ := Binary64.round_intCast_of_le
  close _ := Binary64.abs_round_sub_le

/-- The server is asked in the middle of the round trip, which takes 8, 6, 4 or 2 milliseconds. -/
def probeAhead (start ahead : Int) (i : Nat) : Probe where
  t0 := start * 1000000
  serverMs := start + (4 - i % 4) + ahead
  t1 := start * 1000000 + (4 - i % 4) * 2000000
  short := by omega

theorem probeAhead_observes (start ahead : Int) (i : Nat) :
    (probeAhead start ahead i).Observes (ahead * 1000000) := by
  obtain ⟨half, isHalf⟩ : ∃ half : Int, 4 - (i : Int) % 4 = half := ⟨_, rfl⟩
  have nonneg : 0 ≤ half := by omega
  refine ⟨((start + half) * 1000000 : Int), ?_, ?_, ?_⟩
  · simp only [probeAhead, Int.cast_le]
    omega
  · simp only [probeAhead, Int.cast_le]
    omega
  · have whole : ((((start + half) * 1000000 : Int) : ℝ) + ahead * 1000000) / 1000000 =
        (start + half + ahead : Int) := by
      push_cast
      ring
    rw [whole, Int.floor_intCast, ← isHalf]
    rfl

/-- Two workers that took three samples, with servers three milliseconds ahead and two behind. -/
noncomputable def aheadWorker : MeasuredWorker where
  offset := (3 : Int) * 1000000
  probe := probeAhead 1000 3
  observes := probeAhead_observes 1000 3
  timeSource := "server"
  sampleCount := 3
  calibration := ⟨3, 2, 4, "server"⟩
  measured := rfl

noncomputable def behindWorker : MeasuredWorker where
  offset := (-2 : Int) * 1000000
  probe := probeAhead 5000 (-2)
  observes := probeAhead_observes 5000 (-2)
  timeSource := "server"
  sampleCount := 3
  calibration := ⟨-2, 2, 4, "server"⟩
  measured := rfl

/-- Two workers whose clocks differ. -/
theorem clockCalibration_sound_apart :
    |aheadWorker.offset / 1000000 - behindWorker.offset / 1000000| < 3 * (5 : Int) + 4 :=
  (clockCalibration_sound binary64 aheadWorker behindWorker).2
    [binary64.reads aheadWorker.calibration, binary64.reads behindWorker.calibration] 5
    ["first", "second"] (by decide) (by decide +kernel) (by simp) (by simp)

end Mind

end PortableTpcc
