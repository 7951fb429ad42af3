import Mathlib.Data.UInt
import PortableTpcc.HistogramPercentiles

namespace PortableTpcc

/-!
# Statistics of the scheduler threads

`TThreadStats::Collect` of `task_queue.h` adds the statistics of an object to
those of its argument.  `FormatSchedulerStats` of `run_loop.cpp` calls it the
other way round: the aggregate, which is never written, is added to every
snapshot.
-/

namespace SchedulerStats

/-- The integer counters of `TThreadStats`. -/
inductive Counter where
  | internalTasksSleeping
  | internalTasksWaitingInflight
  | internalTasksReady
  | externalTasksReady
  | internalTasksResumed
  | externalTasksResumed
deriving Repr, DecidableEq

/-- The counters of `TThreadStats` that are floating-point numbers. -/
inductive TimeCounter where
  | executingTime
  | totalTime
deriving Repr, DecidableEq

/-- The histograms of `TThreadStats`. -/
inductive HistogramField where
  | internalInflightWaitTimeMs
  | internalQueueTimeMs
  | externalQueueTimeMs
  | sleepOvershootMs
deriving Repr, DecidableEq

/-- The layout of all these histograms, from `BUCKET_COUNT` and `MAX_HIST_VALUE`. -/
def statsLayout : HistogramLayout :=
  ⟨4096, 32768, by decide, by decide⟩

/-- A histogram of the statistics. -/
structure StatsHistogram where
  hist : THistogram
  layout_eq : hist.layout = statsLayout

namespace StatsHistogram

/-- A histogram without samples. -/
def empty : StatsHistogram :=
  ⟨THistogram.empty statsLayout, rfl⟩

/-- `Add`, which does not throw for two histograms of one layout. -/
def add (own other : StatsHistogram) : StatsHistogram :=
  match added : own.hist.add other.hist with
  | .ok sum =>
    ⟨sum, by
      have layouts := own.layout_eq.trans other.layout_eq.symm
      rw [THistogram.add, if_neg (by simp [layouts])] at added
      rw [← Except.ok.inj added]
      exact own.layout_eq⟩
  | .error _ => own

end StatsHistogram

section

variable {Time : Type} [Zero Time] [Add Time]

/-- `TThreadStats`; `Time` are the values of a `double`. -/
structure TThreadStats (Time : Type) where
  counters : Counter → UInt64
  times : TimeCounter → Time
  histograms : HistogramField → StatsHistogram

/-- `TThreadStats()`. -/
def TThreadStats.fresh : TThreadStats Time :=
  ⟨fun _ => 0, fun _ => 0, fun _ => .empty⟩

/-- `stats.Collect(dst)`: what `dst` is afterwards. -/
def TThreadStats.collect (stats dst : TThreadStats Time) : TThreadStats Time where
  counters counter := dst.counters counter + stats.counters counter
  times counter := dst.times counter + stats.times counter
  histograms field := (dst.histograms field).add (stats.histograms field)

/-- The variables of the loop of `FormatSchedulerStats`. -/
structure Progress (Time : Type) where
  aggregated : TThreadStats Time
  ready : UInt64

/-- The body of the loop: `aggregated.Collect(snap)` changes the snapshot only. -/
def Progress.thread (progress : Progress Time) (stats : TThreadStats Time) : Progress Time :=
  let snap := stats.collect .fresh
  let ready := progress.ready + snap.counters .internalTasksReady
  let _snap := progress.aggregated.collect snap
  { progress with ready }

/-- The variables after the loop over the threads. -/
def collectThreads (threads : List (TThreadStats Time)) : Progress Time :=
  threads.foldl Progress.thread ⟨.fresh, 0⟩

/-- `FormatSchedulerStats`; `rankOf` rounds a percentile as for `GetValueAtPercentile`. -/
def formatSchedulerStats (rankOf : ℚ → UInt64 → UInt64)
    (taskQueue : Option (List (TThreadStats Time))) : Except String String :=
  match taskQueue with
  | none => .ok ""
  | some threads => do
    let progress := collectThreads threads
    let overshoot := (progress.aggregated.histograms .sleepOvershootMs).hist
    let queueTime := (progress.aggregated.histograms .internalQueueTimeMs).hist
    let overshootText ←
      if 0 < overshoot.totalCount then do
        let p50 ← overshoot.getValueAtPercentile rankOf 50
        let p99 ← overshoot.getValueAtPercentile rankOf 99
        pure s!" overshoot_p50={p50}ms overshoot_p99={p99}ms"
      else
        pure ""
    let queueText ←
      if 0 < queueTime.totalCount then do
        let p99 ← queueTime.getValueAtPercentile rankOf 99
        pure s!" q_p99={p99}ms"
      else
        pure ""
    return s!" ready:{progress.ready}" ++ overshootText ++ queueText

/-! ## The sum over the threads -/

/-- All histograms of a list, added to one without samples. -/
def mergeAll (histograms : List StatsHistogram) : StatsHistogram :=
  histograms.foldl StatsHistogram.add .empty

/-- The statistics are those of all threads together. -/
structure IsSum (threads : List (TThreadStats Time)) (total : TThreadStats Time) : Prop where
  counters :
    ∀ counter,
      (total.counters counter).toNat = (threads.map fun stats => (stats.counters counter).toNat).sum
  times : ∀ counter, total.times counter = (threads.map (·.times counter)).foldl (· + ·) 0
  histograms : ∀ field, total.histograms field = mergeAll (threads.map (·.histograms field))

/-- There is nothing to report: no counter has counted and the histograms have no samples. -/
structure NothingCounted (threads : List (TThreadStats Time)) : Prop where
  counters : ∀ stats ∈ threads, ∀ counter, stats.counters counter = 0
  times : ∀ counter, (threads.map (·.times counter)).foldl (· + ·) 0 = 0
  histograms : ∀ field, mergeAll (threads.map (·.histograms field)) = .empty

/-- The loop sums the ready tasks only. -/
theorem foldl_thread (threads : List (TThreadStats Time)) (progress : Progress Time) :
    threads.foldl Progress.thread progress = ⟨progress.aggregated,
      progress.ready + (threads.map (·.counters .internalTasksReady)).sum⟩ := by
  induction threads generalizing progress with
  | nil =>
    rw [List.foldl_nil, List.map_nil, List.sum_nil, UInt64.add_zero]
  | cons stats rest ih =>
    have snapshot : (stats.collect .fresh).counters .internalTasksReady =
        stats.counters .internalTasksReady :=
      UInt64.zero_add _
    rw [List.foldl_cons, ih, List.map_cons, List.sum_cons, ← UInt64.add_assoc]
    simp only [Progress.thread, snapshot]

theorem collectThreads_eq (threads : List (TThreadStats Time)) :
    collectThreads threads = ⟨.fresh, (threads.map (·.counters .internalTasksReady)).sum⟩ := by
  rw [collectThreads, foldl_thread, UInt64.zero_add]

/-- No percentile is ever reported. -/
theorem formatSchedulerStats_eq (rankOf : ℚ → UInt64 → UInt64)
    (threads : List (TThreadStats Time)) :
    formatSchedulerStats rankOf (some threads) =
      .ok (" ready:" ++ toString (threads.map (·.counters .internalTasksReady)).sum) := by
  have noSamples : ¬ 0 < StatsHistogram.empty.hist.totalCount := by decide
  unfold formatSchedulerStats
  simp only [collectThreads_eq, TThreadStats.fresh, if_neg noSamples, pure_bind,
    String.append_empty]
  rfl

/-- The aggregate is the sum over the threads only if there is nothing to report. -/
theorem aggregated_isSum_iff (threads : List (TThreadStats Time)) :
    IsSum threads (collectThreads threads).aggregated ↔ NothingCounted threads := by
  rw [collectThreads_eq]
  constructor
  · intro isSum
    refine ⟨fun stats member counter => ?_, fun counter => (isSum.times counter).symm,
      fun field => (isSum.histograms field).symm⟩
    have none := List.sum_eq_zero_iff.mp (isSum.counters counter).symm
    have zero := none _ (List.mem_map_of_mem member)
    exact UInt64.toNat_inj.mp zero
  · intro nothing
    refine ⟨fun counter => ?_, fun counter => (nothing.times counter).symm,
      fun field => (nothing.histograms field).symm⟩
    refine (List.sum_eq_zero_iff.mpr fun count member => ?_).symm
    rcases List.mem_map.mp member with ⟨stats, isThread, rfl⟩
    rw [nothing.counters stats isThread counter]
    rfl

/-- One thread that has resumed a task. -/
def oneResumed : TThreadStats Time where
  counters counter := if counter = .internalTasksResumed then 1 else 0
  times _ := 0
  histograms _ := .empty

/-- The task that was resumed is not counted. -/
theorem resumed_not_aggregated :
    ¬ IsSum [(oneResumed : TThreadStats ℚ)] (collectThreads [oneResumed]).aggregated ∧
      (collectThreads [(oneResumed : TThreadStats ℚ)]).aggregated.counters
        .internalTasksResumed = 0 := by
  refine ⟨fun isSum => ?_, rfl⟩
  have resumed := isSum.counters .internalTasksResumed
  exact absurd resumed (by decide)

end

end SchedulerStats

end PortableTpcc
