import PortableTpcc.RingWindow
import Mathlib.Data.Nat.Log

namespace PortableTpcc

/-!
# The circular queue of one producer and one consumer

`TSpscCircularQueue` (`spsc_circular_queue.h`).  The producer owns `Head` and
keeps a copy of `Tail`, the consumer owns `Tail` and keeps a copy of `Head`;
each looks at the counter of the other only when its copy leaves no room, or no
item.  A step is one access to the shared memory, or one comparison, of one of
the two threads.
-/

/-- `TSpscCircularQueue`. -/
structure TSpscCircularQueue (T : Type) where
  queue : List T
  capacity : UInt64
  capacityMask : UInt64
  /-- `ProducerState`. -/
  head : UInt64
  cachedTail : UInt64
  /-- `ConsumerState`. -/
  tail : UInt64
  cachedHead : UInt64
deriving Repr, DecidableEq

/-- `std::bit_ceil`, which is undefined if the result is no word. -/
def bitCeil (x : UInt64) : Option UInt64 :=
  let power := 2 ^ Nat.clog 2 x.toNat
  if power < 2 ^ 64 then some (UInt64.ofNat power) else none

/-- `Resize`. -/
def TSpscCircularQueue.resize {T : Type} [Inhabited T] (capacity : UInt64) :
    Option (TSpscCircularQueue T) := do
  let capacity ← if capacity ≠ 0 then bitCeil capacity else some 0
  return {
    queue := List.replicate capacity.toNat default
    capacity
    capacityMask := if capacity ≠ 0 then capacity - 1 else 0
    head := 0
    tail := 0
    cachedTail := 0
    cachedHead := 0 }

/-- Where the producer stands in `TryPush`. -/
inductive PushPlace (T : Type) where
  /-- Not in a call. -/
  | idle
  | entered (item : T)
  | comparesCached (item : T) (head : UInt64)
  | reloads (item : T) (head : UInt64)
  | writes (item : T) (head : UInt64)
  /-- The item is in its slot, and `Head` is not stored yet. -/
  | publishes (item : T) (head : UInt64)
  | returns (pushed : Bool)
deriving Repr, DecidableEq

/-- Where the consumer stands in `TryPop`. -/
inductive PopPlace (T : Type) where
  | idle
  | entered
  | loadsTail
  | comparesCached (tail : UInt64)
  | reloads (tail : UInt64)
  | reads (tail : UInt64)
  /-- The item is moved out of its slot, and `Tail` is not stored yet. -/
  | retires (item : T) (tail : UInt64)
  | returns (popped : Option T)
deriving Repr, DecidableEq

/--
The queue with its two threads.  The items whose push has stored `Head`, and
those whose pop has stored `Tail`, are kept in order.
-/
structure SpscRun (T : Type) where
  shared : TSpscCircularQueue T
  producer : PushPlace T
  consumer : PopPlace T
  pushed : List T
  popped : List T
deriving Repr, DecidableEq

section

variable {T : Type} [Inhabited T]

/-- The queue that was resized, before any call. -/
def SpscRun.initial (shared : TSpscCircularQueue T) : SpscRun T :=
  ⟨shared, .idle, .idle, [], []⟩

/-- The next step of the producer in `TryPush`. -/
def SpscRun.produce (run : SpscRun T) : Option (SpscRun T) :=
  let shared := run.shared
  match run.producer with
  | .idle => none
  | .entered item =>
    some { run with producer := .comparesCached item shared.head }
  | .comparesCached item head =>
    if head - shared.cachedTail = shared.capacity then
      some { run with producer := .reloads item head }
    else
      some { run with producer := .writes item head }
  | .reloads item head =>
    let shared := { shared with cachedTail := shared.tail }
    if head - shared.cachedTail = shared.capacity then
      some { run with shared, producer := .returns false }
    else
      some { run with shared, producer := .writes item head }
  | .writes item head =>
    let index := (head &&& shared.capacityMask).toNat
    let shared := { shared with queue := shared.queue.set index item }
    some { run with shared, producer := .publishes item head }
  | .publishes item head =>
    let shared := { shared with head := head + 1 }
    some
      { run with
        shared
        producer := .returns true
        pushed := run.pushed ++ [item] }
  | .returns _ => some { run with producer := .idle }

/--
The next step of the consumer in `TryPop`; `movedFrom` is what a move leaves
behind.
-/
def SpscRun.consume (movedFrom : T → T) (run : SpscRun T) : Option (SpscRun T) :=
  let shared := run.shared
  match run.consumer with
  | .idle => none
  | .entered =>
    if shared.capacity = 0 then
      some { run with consumer := .returns none }
    else
      some { run with consumer := .loadsTail }
  | .loadsTail => some { run with consumer := .comparesCached shared.tail }
  | .comparesCached tail =>
    if tail = shared.cachedHead then
      some { run with consumer := .reloads tail }
    else
      some { run with consumer := .reads tail }
  | .reloads tail =>
    let shared := { shared with cachedHead := shared.head }
    if tail = shared.cachedHead then
      some { run with shared, consumer := .returns none }
    else
      some { run with shared, consumer := .reads tail }
  | .reads tail =>
    let index := (tail &&& shared.capacityMask).toNat
    let item := shared.queue.getD index default
    let shared := { shared with queue := shared.queue.set index (movedFrom item) }
    some { run with shared, consumer := .retires item tail }
  | .retires item tail =>
    let shared := { shared with tail := tail + 1 }
    some
      { run with
        shared
        consumer := .returns (some item)
        popped := run.popped ++ [item] }
  | .returns _ => some { run with consumer := .idle }

/-- A step of one of the two threads. -/
inductive SpscStep (movedFrom : T → T) : SpscRun T → SpscRun T → Prop where
  | callPush {run : SpscRun T} (item : T) (idle : run.producer = .idle) :
      SpscStep movedFrom run { run with producer := .entered item }
  | produce {run next : SpscRun T} (stepped : run.produce = some next) : SpscStep movedFrom run next
  | callPop {run : SpscRun T} (idle : run.consumer = .idle) :
      SpscStep movedFrom run { run with consumer := .entered }
  | consume {run next : SpscRun T} (stepped : run.consume movedFrom = some next) :
      SpscStep movedFrom run next

/-- What can be reached from a resized queue. -/
def SpscReachable (movedFrom : T → T) (shared : TSpscCircularQueue T) (run : SpscRun T) : Prop :=
  Relation.ReflTransGen (SpscStep movedFrom) (SpscRun.initial shared) run

end

end PortableTpcc
