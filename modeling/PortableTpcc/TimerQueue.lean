import PortableTpcc.PriorityQueue
import Mathlib

namespace PortableTpcc

/-!
# `TBinnedTimerQueue`

The timers of a scheduler thread lie in a ring of buckets (`timer_queue.h`).
The current bucket is sorted from its cursor on, the items before the cursor are
consumed but still there.  The other buckets are sorted when they become the
current one.
-/

/-- A `steady_clock::time_point`: nanoseconds in 64 bits. -/
abbrev TimePoint : Type :=
  Set.Icc (-2 ^ 63 : Int) (2 ^ 63 - 1)

instance : BoundedOrder TimePoint where
  top := ⟨2 ^ 63 - 1, by norm_num, le_refl _⟩
  le_top time := time.2.2
  bot := ⟨-2 ^ 63, le_refl _, by norm_num⟩
  bot_le time := time.2.1

structure TItem (Time T : Type) where
  deadline : Time
  value : T
  deriving Repr, DecidableEq

structure TBucket (Time T : Type) where
  items : List (TItem Time T)
  minDeadline : Time
  maxDeadline : Time
  isSorted : Bool
  deriving Repr, DecidableEq

/-- `std::sort`, which may order equal items in any way. -/
structure StdSort (Time T : Type) [LE Time] where
  sort : List (TItem Time T) → List (TItem Time T)
  perm : ∀ items, (sort items).Perm items
  ascends :
    ∀ items, (sort items).Pairwise fun a b => a.deadline ≤ b.deadline

variable {Time T : Type} [LinearOrder Time] [BoundedOrder Time]

omit [BoundedOrder Time] in
/-- One way to sort. -/
def StdSort.insertion : StdSort Time T where
  sort items := items.insertionSort fun a b => a.deadline ≤ b.deadline
  perm items := List.perm_insertionSort _ items
  ascends items :=
    have : Std.Total fun a b : TItem Time T => a.deadline ≤ b.deadline :=
      ⟨fun a b => le_total a.deadline b.deadline⟩
    have : IsTrans (TItem Time T) fun a b => a.deadline ≤ b.deadline :=
      ⟨fun _ _ _ first second => first.trans second⟩
    List.pairwise_insertionSort _ items

namespace TBucket

/-- `Clear`, and a new bucket. -/
def clear : TBucket Time T where
  items := []
  minDeadline := ⊤
  maxDeadline := ⊥
  isSorted := true

def size (bucket : TBucket Time T) : Nat :=
  bucket.items.length

def addBack (bucket : TBucket Time T) (item : TItem Time T) : TBucket Time T where
  items := bucket.items ++ [item]
  minDeadline := min bucket.minDeadline item.deadline
  maxDeadline := max bucket.maxDeadline item.deadline
  isSorted :=
    match bucket.items.getLast? with
    | some back =>
      if item.deadline < back.deadline then false else bucket.isSorted
    | none => bucket.isSorted

/-- `std::upper_bound`: how many items stand before the first later one. -/
def upperBound (items : List (TItem Time T)) (item : TItem Time T) : Nat :=
  (items.takeWhile fun each => !decide (item.deadline < each.deadline)).length

def addSorted (bucket : TBucket Time T) (item : TItem Time T)
    (validFromPos : Nat) : TBucket Time T :=
  if bucket.maxDeadline ≤ item.deadline then
    bucket.addBack item
  else
    let position := validFromPos + upperBound (bucket.items.drop validFromPos) item
    { bucket with
      minDeadline := min bucket.minDeadline item.deadline
      maxDeadline := max bucket.maxDeadline item.deadline
      items := bucket.items.take position ++ item :: bucket.items.drop position }

def sort (std : StdSort Time T) (bucket : TBucket Time T) : TBucket Time T :=
  if bucket.isSorted then
    bucket
  else
    { bucket with items := std.sort bucket.items, isSorted := true }

/-- The bounds are those that `std::min_element` and `max_element` find. -/
def boundsMatch (bucket : TBucket Time T) : Bool :=
  match bucket.items with
  | [] => bucket.minDeadline = ⊤ && bucket.maxDeadline = ⊥
  | first :: rest =>
    bucket.minDeadline = rest.foldl (fun least item => min least item.deadline) first.deadline &&
      bucket.maxDeadline = rest.foldl (fun greatest item => max greatest item.deadline)
      first.deadline

end TBucket

structure TBinnedTimerQueue (Time T : Type) where
  buckets : List (TBucket Time T)
  bucketSoftLimit : Nat
  size : Nat
  currentBucket : Nat
  currentCursor : Nat
  deriving Repr, DecidableEq

namespace TBinnedTimerQueue

/-- A fresh queue. -/
def create (bucketCount bucketSoftLimit : Nat) : TBinnedTimerQueue Time T where
  buckets := List.replicate (max 2 bucketCount) .clear
  bucketSoftLimit := max 1 bucketSoftLimit
  size := 0
  currentBucket := 0
  currentCursor := 0

variable (queue : TBinnedTimerQueue Time T)

def bucketCount : Nat :=
  queue.buckets.length

/-- `Buckets[index]` of an index that is in range. -/
def bucket (index : Nat) : TBucket Time T :=
  queue.buckets.getD index .clear

def current : TBucket Time T :=
  queue.bucket queue.currentBucket

/-- One turn of the loop in `ComputeBucket`. -/
def considerBucket (deadline : Time) (i : Nat) : Option Nat :=
  let bucketIndex := (i + queue.currentBucket) % queue.bucketCount
  let bucket := queue.bucket bucketIndex
  if deadline ≤ bucket.maxDeadline then
    some bucketIndex
  else
    let nextBucketIndex := (bucketIndex + 1) % queue.bucketCount
    let nextBucket := queue.bucket nextBucketIndex
    if deadline ≤ nextBucket.minDeadline then
      if bucket.size ≥ queue.bucketSoftLimit then
        some nextBucketIndex
      else
        some bucketIndex
    else
      none

def computeBucket (deadline : Time) : Nat :=
  let found := (List.range queue.bucketCount).findSome? (queue.considerBucket deadline)
  found.getD ((queue.currentBucket + queue.bucketCount - 1) % queue.bucketCount)

/-- `Add` with the deadline `now + delay`. -/
def add (deadline : Time) (value : T) : TBinnedTimerQueue Time T :=
  let index := queue.computeBucket deadline
  let item := ⟨deadline, value⟩
  let bucket := queue.bucket index
  let added :=
    if index = queue.currentBucket then
      bucket.addSorted item queue.currentCursor
    else
      bucket.addBack item
  { queue with
    buckets := queue.buckets.set index added
    size := queue.size + 1 }

def getNextDeadline : Time :=
  if queue.size = 0 then
    ⊤
  else
    match queue.current.items[queue.currentCursor]? with
    | some item => item.deadline
    | none =>
      let found :=
        (List.range' 1 (queue.bucketCount - 1)).findSome? fun offset =>
          let index := (queue.currentBucket + offset) % queue.bucketCount
          let bucket := queue.bucket index
          if bucket.items.isEmpty then none else some bucket.minDeadline
      found.getD ⊤

def advance (std : StdSort Time T) : TBinnedTimerQueue Time T :=
  let cleared := queue.buckets.set queue.currentBucket .clear
  let next := (queue.currentBucket + 1) % queue.bucketCount
  { queue with
    buckets := cleared.set next ((cleared.getD next .clear).sort std)
    currentCursor := 0
    currentBucket := next }

/-- `Items[CurrentCursor++]` of the current bucket, if there is one. -/
def takeCurrent : Option (TItem Time T × TBinnedTimerQueue Time T) :=
  queue.current.items[queue.currentCursor]?.map fun item =>
    (item, { queue with currentCursor := queue.currentCursor + 1 })

/-- `Advance` until a bucket has items; the cursor is then at its start. -/
def advanceToItem (std : StdSort Time T) :
    Nat → TBinnedTimerQueue Time T → Except String (TItem Time T) × TBinnedTimerQueue Time T
  | 0, queue =>
    (.error "Internal error: Empty bucket after advance", queue)
  | remaining + 1, queue =>
    let advanced := queue.advance std
    match advanced.takeCurrent with
    | some (item, rest) => (.ok item, rest)
    | none => advanceToItem std remaining advanced

def popFront (std : StdSort Time T) : Except String (TItem Time T) × TBinnedTimerQueue Time T :=
  if queue.size = 0 then
    (.error "Cannot pop from empty timer queue", queue)
  else
    let less := { queue with size := queue.size - 1 }
    match less.takeCurrent with
    | some (item, rest) => (.ok item, rest)
    | none => advanceToItem std less.bucketCount less

/-- No item is later than the one after it. -/
def ascending : List (TItem Time T) → Bool
  | first :: second :: rest =>
    !decide (second.deadline < first.deadline) && ascending (second :: rest)
  | _ => true

/-- How many items of this bucket are not consumed. -/
def sizeAt (index : Nat) : Nat :=
  if index = queue.currentBucket then
    (queue.bucket index).size - queue.currentCursor
  else
    (queue.bucket index).size

def validate : Bool :=
  ascending (queue.current.items.drop queue.currentCursor) && (List.range queue.bucketCount).all
    (fun index => (queue.bucket index).boundsMatch) &&
    (List.range (queue.bucketCount - 1)).all (fun offset =>
      let i := (queue.currentBucket + offset) % queue.bucketCount
      let j := (i + 1) % queue.bucketCount
      let a := queue.bucket i
      let b := queue.bucket j
      a.items.isEmpty || b.items.isEmpty || decide (a.maxDeadline ≤ b.minDeadline)) &&
    decide (((List.range queue.bucketCount).map queue.sizeAt).sum = queue.size)

end TBinnedTimerQueue

/-- The deadline `now + delay` for a delay in microseconds. -/
def TimePoint.after (now : TimePoint) (delay : Int)
    (fits : now.1 + 1000 * delay ∈ Set.Icc (-2 ^ 63 : Int) (2 ^ 63 - 1)) : TimePoint :=
  ⟨now.1 + 1000 * delay, fits⟩

/-- A call of the queue; the deadline of a new timer does not overflow. -/
inductive TimerCall (T : Type) where
  | add (delay : Int) (value : T) (now : TimePoint)
      (fits : now.1 + 1000 * delay ∈ Set.Icc (-2 ^ 63 : Int) (2 ^ 63 - 1))
  | popFront
  | getNextDeadline

/-- What a call returns. -/
inductive TimerAnswer (T : Type) where
  | added (item : TItem TimePoint T)
  | popped (result : Except String (TItem TimePoint T))
  | next (deadline : TimePoint)

namespace TBinnedTimerQueue

/-- One call and its answer. -/
def call (std : StdSort TimePoint T) (queue : TBinnedTimerQueue TimePoint T) :
    TimerCall T → TimerAnswer T × TBinnedTimerQueue TimePoint T
  | .add delay value now fits =>
    let deadline := now.after delay fits
    (.added ⟨deadline, value⟩, queue.add deadline value)
  | .popFront =>
    let (result, rest) := queue.popFront std
    (.popped result, rest)
  | .getNextDeadline => (.next queue.getNextDeadline, queue)

/-- Calls one after another, with all answers. -/
def calls (std : StdSort TimePoint T) :
    TBinnedTimerQueue TimePoint T → List (TimerCall T) →
      List (TimerAnswer T) × TBinnedTimerQueue TimePoint T
  | queue, [] => ([], queue)
  | queue, each :: rest =>
    let (answer, next) := queue.call std each
    let (answers, last) := calls std next rest
    (answer :: answers, last)

end TBinnedTimerQueue

end PortableTpcc
