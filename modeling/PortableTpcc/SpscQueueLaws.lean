import PortableTpcc.SpscQueue

namespace PortableTpcc

/-!
# The circular queue is a bounded first-in first-out queue

The counters are positions in the sequence of all pushed items, taken modulo
`2 ^ 64`.  The copy that a thread keeps of the other counter is an older position
of it, which leaves the thread less room than there is, never more.
-/

section

variable {T : Type}

/-- The item that is moved out of its slot and still counted. -/
def SpscRun.taken (run : SpscRun T) : Nat :=
  match run.consumer with
  | .retires _ _ => 1
  | _ => 0

/-- What the producer knows at its place, with `old` as its copy of `Tail`. -/
def SpscRun.ProducerAt (k old : Nat) (run : SpscRun T) : Prop :=
  match run.producer with
  | .comparesCached _ head | .reloads _ head => head = run.shared.head
  | .writes _ head =>
    head = run.shared.head ∧ run.pushed.length < old + 2 ^ k
  | .publishes item head =>
    head = run.shared.head ∧ run.pushed.length < old + 2 ^ k ∧
      run.shared.queue[run.pushed.length % run.shared.queue.length]? = some item
  | _ => True

/-- What the consumer knows at its place, with `seen` as its copy of `Head`. -/
def SpscRun.ConsumerAt (seen : Nat) (run : SpscRun T) : Prop :=
  match run.consumer with
  | .comparesCached tail | .reloads tail => tail = run.shared.tail
  | .reads tail => tail = run.shared.tail ∧ run.popped.length < seen
  | .retires item tail =>
    tail = run.shared.tail ∧ run.popped.length < seen ∧ run.pushed[run.popped.length]? = some item
  | _ => True

/-- The counters and the slots agree with what was pushed and popped. -/
structure SpscRun.Indexed (k old seen : Nat) (run : SpscRun T) : Prop where
  small : k ≤ 63
  capacity : run.shared.capacity.toNat = 2 ^ k
  mask : run.shared.capacityMask.toNat = 2 ^ k - 1
  slots : run.shared.queue.length = 2 ^ k
  head : run.shared.head = .ofNat run.pushed.length
  tail : run.shared.tail = .ofNat run.popped.length
  cachedTail : run.shared.cachedTail = .ofNat old
  cachedHead : run.shared.cachedHead = .ofNat seen
  old_le : old ≤ run.popped.length
  popped_le : run.popped.length ≤ seen
  seen_le : seen ≤ run.pushed.length
  room : run.pushed.length ≤ old + 2 ^ k
  fifo : run.popped <+: run.pushed
  window : HoldsWindow run.shared.queue run.pushed (run.popped.length + run.taken) run.pushed.length
  producer : run.ProducerAt k old
  consumer : run.ConsumerAt seen

namespace SpscRun.Indexed

variable {k old seen : Nat} {run : SpscRun T}

theorem round_le (indexed : run.Indexed k old seen) : 2 ^ k ≤ 2 ^ 63 :=
  Nat.pow_le_pow_right (by decide) indexed.small

/-- The counter of the producer and a copy of the other tell the distance. -/
theorem full_iff (indexed : run.Indexed k old seen) {position : Nat}
    (before : position ≤ run.pushed.length) (near : run.pushed.length ≤ position + 2 ^ k) :
    run.shared.head - .ofNat position = run.shared.capacity ↔
      run.pushed.length = position + 2 ^ k := by
  have round := indexed.round_le
  rw [indexed.head, ofNat_sub_eq_iff before (by omega), indexed.capacity]

/-- The counter of the consumer and a copy of the other tell whether they meet. -/
theorem empty_iff (indexed : run.Indexed k old seen) {position : Nat}
    (before : run.popped.length ≤ position) (near : position ≤ run.pushed.length) :
    run.shared.tail = .ofNat position ↔ run.popped.length = position := by
  have round := indexed.round_le
  have room := indexed.room
  have older := indexed.old_le
  rw [indexed.tail, ofNat_eq_ofNat_iff before (by omega)]

theorem index_head (indexed : run.Indexed k old seen) :
    (run.shared.head &&& run.shared.capacityMask).toNat =
      run.pushed.length % run.shared.queue.length := by
  have small := indexed.small
  rw [indexed.head, indexed.slots]
  exact toNat_ofNat_and_mask (by omega) indexed.mask _

theorem index_tail (indexed : run.Indexed k old seen) :
    (run.shared.tail &&& run.shared.capacityMask).toNat =
      run.popped.length % run.shared.queue.length := by
  have small := indexed.small
  rw [indexed.tail, indexed.slots]
  exact toNat_ofNat_and_mask (by omega) indexed.mask _

theorem callPush (indexed : run.Indexed k old seen) (item : T) :
    Indexed k old seen { run with producer := .entered item } :=
  { indexed with producer := trivial }

/-- The consumer does not mind a push. -/
theorem consumerAt_push {shared : TSpscCircularQueue T} (sameTail : shared.tail = run.shared.tail)
    (producer : PushPlace T) (item : T) (known : run.ConsumerAt seen) :
    SpscRun.ConsumerAt seen
      { run with shared, producer, pushed := run.pushed ++ [item] } := by
  unfold SpscRun.ConsumerAt at known ⊢
  rw [sameTail]
  cases place : run.consumer with
  | retires taken tail =>
    rw [place] at known
    rcases known with ⟨isTail, hasItem, isItem⟩
    rcases List.getElem?_eq_some_iff.mp isItem with ⟨inside, _⟩
    refine ⟨isTail, hasItem, ?_⟩
    rw [List.getElem?_append_left inside]
    exact isItem
  | _ =>
    rw [place] at known
    exact known

theorem produce (indexed : run.Indexed k old seen) {next : SpscRun T}
    (stepped : run.produce = some next) : ∃ old', next.Indexed k old' seen := by
  have known := indexed.producer
  unfold SpscRun.ProducerAt at known
  unfold SpscRun.produce at stepped
  have older := indexed.old_le
  have poppedLe := indexed.popped_le
  have seenLe := indexed.seen_le
  have room := indexed.room
  cases place : run.producer with
  | idle =>
    rw [place] at stepped
    exact absurd stepped (by simp)
  | entered item =>
    rw [place] at stepped
    cases stepped
    exact ⟨old, { indexed with producer := rfl }⟩
  | comparesCached item head =>
    rw [place] at known stepped
    simp only at known stepped
    subst known
    by_cases isFull : run.shared.head - run.shared.cachedTail = run.shared.capacity
    · rw [if_pos isFull] at stepped
      cases stepped
      exact ⟨old, { indexed with producer := rfl }⟩
    · rw [if_neg isFull] at stepped
      cases stepped
      rw [indexed.cachedTail, indexed.full_iff (by omega) room] at isFull
      refine ⟨old, { indexed with producer := ⟨rfl, ?_⟩ }⟩
      show run.pushed.length < old + 2 ^ k
      omega
  | reloads item head =>
    rw [place] at known stepped
    simp only at known stepped
    subst known
    have isCopy := indexed.tail
    have nearer : run.pushed.length ≤ run.popped.length + 2 ^ k := by omega
    by_cases isFull : run.shared.head - run.shared.tail = run.shared.capacity
    · rw [if_pos isFull] at stepped
      cases stepped
      exact ⟨run.popped.length,
        { indexed with
          cachedTail := isCopy
          old_le := le_rfl
          room := nearer
          producer := trivial }⟩
    · rw [if_neg isFull] at stepped
      cases stepped
      rw [isCopy, indexed.full_iff (by omega) nearer] at isFull
      refine ⟨run.popped.length,
        { indexed with
          cachedTail := isCopy
          old_le := le_rfl
          room := nearer
          producer := ⟨rfl, ?_⟩ }⟩
      show run.pushed.length < run.popped.length + 2 ^ k
      omega
  | writes item head =>
    rw [place] at known stepped
    simp only at known stepped
    rcases known with ⟨rfl, hasRoom⟩
    rw [indexed.index_head] at stepped
    cases stepped
    -- The slot is behind the window, which is less than a round long.
    refine ⟨old,
      { indexed with
        slots := ?_
        window := ?_
        producer := ⟨rfl, hasRoom, ?_⟩ }⟩
    · exact (List.length_set).trans indexed.slots
    · apply indexed.window.set
      intro i above below
      apply mod_ne_mod below
      rw [indexed.slots]
      omega
    · show (run.shared.queue.set _ item)[run.pushed.length %
        (run.shared.queue.set _ item).length]? = some item
      rw [List.length_set]
      apply List.getElem?_set_self
      rw [indexed.slots]
      exact Nat.mod_lt _ (Nat.two_pow_pos k)
  | publishes item head =>
    rw [place] at known stepped
    simp only at known stepped
    rcases known with ⟨rfl, hasRoom, written⟩
    cases stepped
    refine ⟨old,
      { indexed with
        head := ?_
        seen_le := ?_
        room := ?_
        fifo := ?_
        window := indexed.window.push written
        producer := trivial
        consumer := ?_ }⟩
    · show run.shared.head + 1 = .ofNat (run.pushed ++ [item]).length
      rw [indexed.head, List.length_append, List.length_singleton, UInt64.ofNat_add]
      rfl
    · show seen ≤ (run.pushed ++ [item]).length
      rw [List.length_append]
      omega
    · show (run.pushed ++ [item]).length ≤ old + 2 ^ k
      rw [List.length_append, List.length_singleton]
      omega
    · exact indexed.fifo.trans (List.prefix_append _ _)
    · exact consumerAt_push rfl (.returns true) item indexed.consumer
  | returns ok =>
    rw [place] at stepped
    cases stepped
    exact ⟨old, { indexed with producer := trivial }⟩

theorem callPop (indexed : run.Indexed k old seen) (idle : run.consumer = .idle) :
    Indexed k old seen { run with consumer := .entered } := by
  have window := indexed.window
  unfold SpscRun.taken at window
  rw [idle] at window
  exact { indexed with window := window, consumer := trivial }

theorem fifo_concat {popped pushed : List T} (fifo : popped <+: pushed) {item : T}
    (isNext : pushed[popped.length]? = some item) : popped ++ [item] <+: pushed := by
  rcases fifo with ⟨rest, rfl⟩
  cases rest with
  | nil =>
    exact absurd isNext (by simp)
  | cons first later =>
    rw [List.getElem?_append_right le_rfl, Nat.sub_self,
      List.getElem?_cons_zero, Option.some_inj] at isNext
    exact ⟨later, by rw [isNext, List.append_assoc, List.singleton_append]⟩

/-- The producer does not mind that the slot of the next item is cleared. -/
theorem producerAt_clear (indexed : run.Indexed k old seen)
    (hasItem : run.popped.length < run.pushed.length) (consumer : PopPlace T) (x : T) :
    SpscRun.ProducerAt k old
      { run with
        shared :=
          { run.shared with
            queue := run.shared.queue.set (run.popped.length % run.shared.queue.length) x }
        consumer } := by
  have known := indexed.producer
  unfold SpscRun.ProducerAt at known ⊢
  cases place : run.producer with
  | publishes item head =>
    rw [place] at known
    rcases known with ⟨isHead, hasRoom, written⟩
    have older := indexed.old_le
    have apart : run.popped.length % run.shared.queue.length ≠
        run.pushed.length % run.shared.queue.length := by
      apply mod_ne_mod hasItem
      rw [indexed.slots]
      omega
    refine ⟨isHead, hasRoom, ?_⟩
    show (run.shared.queue.set _ x)[run.pushed.length %
      (run.shared.queue.set _ x).length]? = some item
    rw [List.length_set, List.getElem?_set_ne apart]
    exact written
  | _ =>
    rw [place] at known
    exact known

theorem consume [Inhabited T] (indexed : run.Indexed k old seen) {movedFrom : T → T}
    {next : SpscRun T} (stepped : run.consume movedFrom = some next) :
    ∃ seen', next.Indexed k old seen' := by
  have known := indexed.consumer
  have window := indexed.window
  have older := indexed.old_le
  have poppedLe := indexed.popped_le
  have seenLe := indexed.seen_le
  have room := indexed.room
  unfold SpscRun.ConsumerAt at known
  unfold SpscRun.taken at window
  unfold SpscRun.consume at stepped
  cases place : run.consumer with
  | idle =>
    rw [place] at stepped
    exact absurd stepped (by simp)
  | entered =>
    rw [place] at stepped window
    simp only at stepped
    by_cases isEmpty : run.shared.capacity = 0
    · rw [if_pos isEmpty] at stepped
      cases stepped
      exact ⟨seen, { indexed with window := window, consumer := trivial }⟩
    · rw [if_neg isEmpty] at stepped
      cases stepped
      exact ⟨seen, { indexed with window := window, consumer := trivial }⟩
  | loadsTail =>
    rw [place] at stepped window
    cases stepped
    exact ⟨seen, { indexed with window := window, consumer := rfl }⟩
  | comparesCached tail =>
    rw [place] at known stepped window
    simp only at known stepped
    subst known
    by_cases isEmpty : run.shared.tail = run.shared.cachedHead
    · rw [if_pos isEmpty] at stepped
      cases stepped
      exact ⟨seen, { indexed with window := window, consumer := rfl }⟩
    · rw [if_neg isEmpty] at stepped
      cases stepped
      rw [indexed.cachedHead, indexed.empty_iff poppedLe seenLe] at isEmpty
      exact ⟨seen,
        { indexed with
          window := window
          consumer := ⟨rfl, Nat.lt_of_le_of_ne poppedLe isEmpty⟩ }⟩
  | reloads tail =>
    rw [place] at known stepped window
    simp only at known stepped
    subst known
    have isCopy := indexed.head
    have further := poppedLe.trans seenLe
    by_cases isEmpty : run.shared.tail = run.shared.head
    · rw [if_pos isEmpty] at stepped
      cases stepped
      exact ⟨run.pushed.length,
        { indexed with
          cachedHead := isCopy
          popped_le := further
          seen_le := le_rfl
          window := window
          consumer := trivial }⟩
    · rw [if_neg isEmpty] at stepped
      cases stepped
      rw [isCopy, indexed.empty_iff further le_rfl] at isEmpty
      exact ⟨run.pushed.length,
        { indexed with
          cachedHead := isCopy
          popped_le := further
          seen_le := le_rfl
          window := window
          consumer := ⟨rfl, Nat.lt_of_le_of_ne further isEmpty⟩ }⟩
  | reads tail =>
    rw [place] at known stepped window
    simp only at known stepped
    rcases known with ⟨rfl, hasItem⟩
    have inside : run.popped.length < run.pushed.length := by omega
    have stored := window run.popped.length le_rfl inside
    have isItem : run.pushed[run.popped.length]? = some (run.shared.queue.getD
        (run.popped.length % run.shared.queue.length) default) := by
      rw [List.getD_eq_getElem?_getD, stored, List.getElem?_eq_getElem inside]
      rfl
    rw [indexed.index_tail] at stepped
    cases stepped
    refine ⟨seen,
      { indexed with
        slots := (List.length_set).trans indexed.slots
        window := ?_
        producer := indexed.producerAt_clear inside _ _
        consumer := ⟨rfl, hasItem, isItem⟩ }⟩
    -- The other items of the window are in other slots.
    apply HoldsWindow.set
    · exact window.drop (Nat.le_succ _)
    · intro i above below
      apply (mod_ne_mod (show run.popped.length < i from above) _).symm
      rw [indexed.slots]
      show i < _
      have isBelow : i < run.pushed.length := below
      omega
  | retires item tail =>
    rw [place] at known stepped window
    simp only at known stepped
    rcases known with ⟨rfl, hasItem, isItem⟩
    cases stepped
    refine ⟨seen,
      { indexed with
        tail := ?_
        old_le := ?_
        popped_le := ?_
        fifo := fifo_concat indexed.fifo isItem
        window := ?_
        consumer := trivial }⟩
    · show run.shared.tail + 1 = .ofNat (run.popped ++ [item]).length
      rw [indexed.tail, List.length_append, List.length_singleton, UInt64.ofNat_add]
      rfl
    · show old ≤ (run.popped ++ [item]).length
      rw [List.length_append]
      omega
    · show (run.popped ++ [item]).length ≤ seen
      rw [List.length_append, List.length_singleton]
      omega
    · show HoldsWindow _ _ ((run.popped ++ [item]).length + 0) _
      rw [List.length_append, List.length_singleton, Nat.add_zero]
      exact window
  | returns result =>
    rw [place] at stepped window
    cases stepped
    exact ⟨seen, { indexed with window := window, consumer := trivial }⟩

end SpscRun.Indexed

/-- The states of a call so far, the latest first. -/
inductive CallTrace {S : Type} (step : S → S → Prop) (begins inside : S → Prop) :
    List S → Prop where
  | begun {state : S} (begun : begins state) : CallTrace step begins inside [state]
  | next {state later : S} {earlier : List S}
      (call : CallTrace step begins inside (state :: earlier)) (stepped : step state later)
      (stays : inside later) : CallTrace step begins inside (later :: state :: earlier)

/-- Whatever another thread does in between, a thread can take its next step, and it has returned
after so many steps of its own. -/
def ReturnsWithin {S : Type} (own : S → Option S) (other : S → S → Prop) (returned : S → Prop) :
    Nat → S → Prop
  | 0, state => returned state
  | bound + 1, state =>
    returned state ∨ ∀ between, Relation.ReflTransGen other state between →
      ∃ next, own between = some next ∧ ReturnsWithin own other returned bound next

/-- A number that the own steps of a call decrease, and other steps leave alone, bounds them. -/
theorem returnsWithin_of_decreases {S : Type} {own : S → Option S} {other : S → S → Prop}
    {returned inside : S → Prop} (left : S → Nat)
    (kept : ∀ {state later}, other state later → inside state →
      inside later ∧ left later = left state)
    (decreases : ∀ {state}, inside state → 0 < left state →
      ∃ next, own state = some next ∧ inside next ∧ left next < left state)
    (ends : ∀ {state}, inside state → left state = 0 → returned state) (bound : Nat) {state : S}
    (isInside : inside state) (enough : left state ≤ bound) :
    ReturnsWithin own other returned bound state := by
  induction bound generalizing state with
  | zero => exact ends isInside (by omega)
  | succ bound ih =>
    rcases Nat.eq_zero_or_pos (left state) with none | some
    · exact .inl (ends isInside none)
    refine .inr fun between waited => ?_
    have still : inside between ∧ left between = left state := by
      induction waited with
      | refl => exact ⟨isInside, rfl⟩
      | tail _ stepped ih =>
        obtain ⟨stays, same⟩ := kept stepped ih.1
        exact ⟨stays, same.trans ih.2⟩
    obtain ⟨next, stepped, isInside, less⟩ := decreases still.1 (by omega)
    exact ⟨next, stepped, ih isInside (by omega)⟩

/-- A power of two that is a word, and not below the requested number. -/
theorem bitCeil_eq_some {x bound : UInt64} (isBound : bitCeil x = some bound) :
    bound.toNat = 2 ^ Nat.clog 2 x.toNat ∧ Nat.clog 2 x.toNat ≤ 63 := by
  unfold bitCeil at isBound
  simp only at isBound
  split at isBound
  case isTrue isWord =>
    have exponent := (Nat.pow_lt_pow_iff_right (by decide)).mp isWord
    rw [← Option.some_inj.mp isBound, UInt64.toNat_ofNat', Nat.mod_eq_of_lt isWord]
    exact ⟨rfl, by omega⟩
  case isFalse =>
    exact absurd isBound (by simp)

section

variable [Inhabited T] {movedFrom : T → T} {capacity bound : UInt64}
  {shared : TSpscCircularQueue T}

theorem resize_indexed (positive : 1 ≤ capacity) (isBound : bitCeil capacity = some bound)
    (resized : TSpscCircularQueue.resize capacity = some shared) :
    (SpscRun.initial shared).Indexed (Nat.clog 2 capacity.toNat) 0 0 ∧ shared.capacity = bound := by
  rcases bitCeil_eq_some isBound with ⟨isPower, small⟩
  have round := Nat.two_pow_pos (Nat.clog 2 capacity.toNat)
  have someCapacity : capacity ≠ 0 := by
    rintro rfl
    exact absurd positive (by decide)
  have someBound : bound ≠ 0 := by
    rintro rfl
    rw [UInt64.toNat_zero] at isPower
    omega
  unfold TSpscCircularQueue.resize at resized
  rw [if_pos someCapacity, isBound] at resized
  cases resized
  refine ⟨?_, rfl⟩
  constructor
  case capacity =>
    exact isPower
  case mask =>
    show (if bound ≠ 0 then bound - 1 else 0).toNat = _
    rw [if_pos someBound, UInt64.toNat_sub_of_le, isPower, UInt64.toNat_one]
    rw [UInt64.le_iff_toNat_le, isPower]
    exact round
  case slots =>
    rw [← isPower]
    exact List.length_replicate
  case small =>
    exact small
  case room =>
    exact Nat.zero_le _
  case fifo =>
    exact List.prefix_rfl
  case window =>
    intro i above below
    exact absurd below (Nat.not_lt_zero i)
  case producer =>
    trivial
  case consumer =>
    trivial
  all_goals rfl

variable {run next : SpscRun T}

theorem SpscStep.indexed {k old seen : Nat} (stepped : SpscStep movedFrom run next)
    (indexed : run.Indexed k old seen) : ∃ old' seen', next.Indexed k old' seen' := by
  cases stepped with
  | callPush item idle =>
    exact ⟨old, seen, indexed.callPush item⟩
  | produce stepped =>
    rcases indexed.produce stepped with ⟨old', kept⟩
    exact ⟨old', seen, kept⟩
  | callPop idle =>
    exact ⟨old, seen, indexed.callPop idle⟩
  | consume stepped =>
    exact ⟨old, indexed.consume stepped⟩

theorem SpscReachable.indexed (positive : 1 ≤ capacity) (isBound : bitCeil capacity = some bound)
    (resized : TSpscCircularQueue.resize capacity = some shared)
    (reachable : SpscReachable movedFrom shared run) :
    ∃ old seen, run.Indexed (Nat.clog 2 capacity.toNat) old seen := by
  induction reachable with
  | refl =>
    exact ⟨0, 0, (resize_indexed positive isBound resized).1⟩
  | tail _ stepped ih =>
    rcases ih with ⟨old, seen, indexed⟩
    exact stepped.indexed indexed

/-- A call of `TryPush` with this item, which finds these items pushed. -/
def PushCall (movedFrom : T → T) (shared : TSpscCircularQueue T) (item : T) (before : List T) :
    List (SpscRun T) → Prop :=
  CallTrace (SpscStep movedFrom) (fun run => SpscReachable movedFrom shared run ∧
    run.producer = .entered item ∧ run.pushed = before) (·.producer ≠ .idle)

/-- A call of `TryPop`, which finds these items popped. -/
def PopCall (movedFrom : T → T) (shared : TSpscCircularQueue T) (before : List T) :
    List (SpscRun T) → Prop :=
  CallTrace (SpscStep movedFrom) (fun run => SpscReachable movedFrom shared run ∧
    run.consumer = .entered ∧ run.popped = before) (·.consumer ≠ .idle)

/-- What a call of `TryPush` has done by a place of it. -/
def PushDone (item : T) (before pushed : List T) (sawFull : Prop) :
    PushPlace T → Prop
  | .idle => False
  | .returns true => pushed = before ++ [item]
  | .returns false => pushed = before ∧ sawFull
  | .entered x | .comparesCached x _ | .reloads x _ | .writes x _
  | .publishes x _ => x = item ∧ pushed = before

/-- What a call of `TryPop` has done by a place of it. -/
def PopDone (before popped : List T) (sawEmpty : Prop) :
    PopPlace T → Prop
  | .idle => False
  | .returns (some item) => popped = before ++ [item]
  | .returns none => popped = before ∧ sawEmpty
  | _ => popped = before

omit [Inhabited T] in
theorem SpscRun.produce_keeps (stepped : run.produce = some next) :
    next.consumer = run.consumer ∧ next.popped = run.popped := by
  unfold SpscRun.produce at stepped
  simp only at stepped
  split at stepped
  all_goals
    try split at stepped
    all_goals cases stepped
    all_goals exact ⟨rfl, rfl⟩

theorem SpscRun.consume_keeps (stepped : run.consume movedFrom = some next) :
    next.producer = run.producer ∧ next.pushed = run.pushed := by
  unfold SpscRun.consume at stepped
  simp only at stepped
  split at stepped
  all_goals
    try split at stepped
    all_goals cases stepped
    all_goals exact ⟨rfl, rfl⟩

section

variable {item : T} {before : List T} {k old seen : Nat} {run next : SpscRun T}

omit [Inhabited T] in
theorem PushDone.mono {pushed : List T} {sawFull sawFullOr : Prop} {place : PushPlace T}
    (done : PushDone item before pushed sawFull place) (weaker : sawFull → sawFullOr) :
    PushDone item before pushed sawFullOr place := by
  cases place with
  | returns ok =>
    cases ok with
    | true =>
      exact done
    | false =>
      exact ⟨done.1, weaker done.2⟩
  | _ =>
    exact done

/-- `TryPush` fails from a state in which the queue is full. -/
theorem PushDone.step {sawFull : Prop} (done : PushDone item before run.pushed sawFull run.producer)
    (indexed : run.Indexed k old seen) (stepped : SpscStep movedFrom run next)
    (stays : next.producer ≠ .idle) :
    PushDone item before next.pushed (sawFull ∨ run.pushed.length = run.popped.length + 2 ^ k)
      next.producer := by
  cases stepped with
  | callPush other idle =>
    rw [idle] at done
    exact done.elim
  | callPop idle =>
    exact done.mono Or.inl
  | consume stepped =>
    rcases SpscRun.consume_keeps stepped with ⟨samePlace, samePushed⟩
    rw [samePlace, samePushed]
    exact done.mono Or.inl
  | produce stepped =>
    have known := indexed.producer
    unfold SpscRun.ProducerAt at known
    unfold SpscRun.produce at stepped
    cases place : run.producer with
    | idle =>
      rw [place] at done
      exact done.elim
    | entered x =>
      rw [place] at done stepped
      cases stepped
      exact done
    | comparesCached x head =>
      rw [place] at done stepped
      simp only at stepped
      split at stepped
      all_goals
        cases stepped
        exact done
    | reloads x head =>
      rw [place] at done known stepped
      simp only at known stepped
      subst known
      have older := indexed.old_le
      have room := indexed.room
      have poppedLe := indexed.popped_le
      have seenLe := indexed.seen_le
      split at stepped
      case isTrue isFull =>
        cases stepped
        rw [indexed.tail, indexed.full_iff (by omega) (by omega)] at isFull
        exact ⟨done.2, .inr isFull⟩
      case isFalse =>
        cases stepped
        exact done
    | writes x head =>
      rw [place] at done stepped
      cases stepped
      exact done
    | publishes x head =>
      rw [place] at done stepped
      cases stepped
      rcases done with ⟨rfl, same⟩
      exact congrArg (· ++ [x]) same
    | returns ok =>
      rw [place] at stepped
      cases stepped
      exact absurd rfl stays

omit [Inhabited T] in
theorem PopDone.mono {popped : List T} {sawEmpty sawEmptyOr : Prop} {place : PopPlace T}
    (done : PopDone before popped sawEmpty place) (weaker : sawEmpty → sawEmptyOr) :
    PopDone before popped sawEmptyOr place := by
  cases place with
  | returns result =>
    cases result with
    | some item =>
      exact done
    | none =>
      exact ⟨done.1, weaker done.2⟩
  | _ =>
    exact done

/-- `TryPop` fails from a state in which the queue is empty. -/
theorem PopDone.step {sawEmpty : Prop} (done : PopDone before run.popped sawEmpty run.consumer)
    (indexed : run.Indexed k old seen) (stepped : SpscStep movedFrom run next)
    (stays : next.consumer ≠ .idle) :
    PopDone before next.popped (sawEmpty ∨ run.popped.length = run.pushed.length)
      next.consumer := by
  cases stepped with
  | callPop idle =>
    rw [idle] at done
    exact done.elim
  | callPush item idle =>
    exact done.mono Or.inl
  | produce stepped =>
    rcases SpscRun.produce_keeps stepped with ⟨samePlace, samePopped⟩
    rw [samePlace, samePopped]
    exact done.mono Or.inl
  | consume stepped =>
    have known := indexed.consumer
    unfold SpscRun.ConsumerAt at known
    unfold SpscRun.consume at stepped
    cases place : run.consumer with
    | idle =>
      rw [place] at done
      exact done.elim
    | entered =>
      rw [place] at done stepped
      simp only at stepped
      have round := Nat.two_pow_pos k
      have someCapacity : run.shared.capacity ≠ 0 := by
        intro isZero
        have isPower := indexed.capacity
        rw [isZero, UInt64.toNat_zero] at isPower
        omega
      rw [if_neg someCapacity] at stepped
      cases stepped
      exact done
    | loadsTail =>
      rw [place] at done stepped
      cases stepped
      exact done
    | comparesCached tail =>
      rw [place] at done stepped
      simp only at stepped
      split at stepped
      all_goals
        cases stepped
        exact done
    | reloads tail =>
      rw [place] at done known stepped
      simp only at known stepped
      subst known
      have further := indexed.popped_le.trans indexed.seen_le
      split at stepped
      case isTrue isEmpty =>
        cases stepped
        rw [indexed.head, indexed.empty_iff further le_rfl] at isEmpty
        exact ⟨done, .inr isEmpty⟩
      case isFalse =>
        cases stepped
        exact done
    | reads tail =>
      rw [place] at done stepped
      cases stepped
      exact done
    | retires item tail =>
      rw [place] at done stepped
      cases stepped
      exact congrArg (· ++ [item]) done
    | returns result =>
      rw [place] at stepped
      cases stepped
      exact absurd rfl stays

end

section

variable
  (positive : 1 ≤ capacity)
  (isBound : bitCeil capacity = some bound)
  (resized : TSpscCircularQueue.resize capacity = some shared)

include positive isBound resized

theorem PushCall.done {item : T} {before : List T} {trace : List (SpscRun T)}
    (call : PushCall movedFrom shared item before trace) :
    ∀ last ∈ trace.head?, SpscReachable movedFrom shared last ∧ PushDone item before last.pushed
      (∃ moment ∈ trace, moment.pushed.length = moment.popped.length + bound.toNat)
          last.producer := by
  rcases bitCeil_eq_some isBound with ⟨isPower, _⟩
  induction call with
  | begun begun =>
    rintro last ⟨⟩
    rcases begun with ⟨reachable, entered, same⟩
    rw [entered]
    exact ⟨reachable, rfl, same⟩
  | @next state later earlier call stepped stays ih =>
    rintro last ⟨⟩
    rcases ih state rfl with ⟨reachable, done⟩
    rcases reachable.indexed positive isBound resized with ⟨old, seen, indexed⟩
    refine ⟨reachable.tail stepped, ?_⟩
    apply (done.step indexed stepped stays).mono
    rintro (⟨moment, isMoment, isFull⟩ | isFull)
    · exact ⟨moment, List.mem_cons_of_mem _ isMoment, isFull⟩
    · rw [← isPower] at isFull
      exact ⟨state, by simp, isFull⟩

theorem PopCall.done {before : List T} {trace : List (SpscRun T)}
    (call : PopCall movedFrom shared before trace) :
    ∀ last ∈ trace.head?, SpscReachable movedFrom shared last ∧ PopDone before last.popped
      (∃ moment ∈ trace, moment.popped.length = moment.pushed.length) last.consumer := by
  induction call with
  | begun begun =>
    rintro last ⟨⟩
    rcases begun with ⟨reachable, entered, same⟩
    rw [entered]
    exact ⟨reachable, same⟩
  | @next state later earlier call stepped stays ih =>
    rintro last ⟨⟩
    rcases ih state rfl with ⟨reachable, done⟩
    rcases reachable.indexed positive isBound resized with ⟨old, seen, indexed⟩
    refine ⟨reachable.tail stepped, ?_⟩
    apply (done.step indexed stepped stays).mono
    rintro (⟨moment, isMoment, isEmpty⟩ | isEmpty)
    · exact ⟨moment, List.mem_cons_of_mem _ isMoment, isEmpty⟩
    · exact ⟨state, by simp, isEmpty⟩

end

/-- The steps left in `TryPush`, at most. -/
def PushPlace.left : PushPlace T → Nat
  | .idle | .returns _ => 0
  | .publishes _ _ => 1
  | .writes _ _ => 2
  | .reloads _ _ => 3
  | .comparesCached _ _ => 4
  | .entered _ => 5

/-- The steps left in `TryPop`, at most. -/
def PopPlace.left : PopPlace T → Nat
  | .idle | .returns _ => 0
  | .retires _ _ => 1
  | .reads _ => 2
  | .reloads _ => 3
  | .comparesCached _ => 4
  | .loadsTail => 5
  | .entered => 6

omit [Inhabited T] in
theorem SpscRun.produce_left {run : SpscRun T} (inCall : 0 < run.producer.left) :
    ∃ next, run.produce = some next ∧ next.producer ≠ .idle ∧
      next.producer.left < run.producer.left := by
  unfold SpscRun.produce
  cases place : run.producer with
  | idle | returns pushed =>
    rw [place] at inCall
    exact absurd inCall (Nat.lt_irrefl 0)
  | comparesCached item head | reloads item head =>
    dsimp only
    split <;> exact ⟨_, rfl, nofun, by simp [PushPlace.left]⟩
  | entered item | writes item head | publishes item head =>
    exact ⟨_, rfl, nofun, by simp [PushPlace.left]⟩

theorem SpscRun.consume_left {run : SpscRun T} (inCall : 0 < run.consumer.left) :
    ∃ next, run.consume movedFrom = some next ∧ next.consumer ≠ .idle ∧
      next.consumer.left < run.consumer.left := by
  unfold SpscRun.consume
  cases place : run.consumer with
  | idle | returns popped =>
    rw [place] at inCall
    exact absurd inCall (Nat.lt_irrefl 0)
  | entered | comparesCached tail | reloads tail =>
    dsimp only
    split <;> exact ⟨_, rfl, nofun, by simp [PopPlace.left]⟩
  | loadsTail | reads tail | retires item tail =>
    exact ⟨_, rfl, nofun, by simp [PopPlace.left]⟩

/-- The producer is in a call and has returned after five steps of its own. -/
def PushReturns (movedFrom : T → T) : SpscRun T → Prop :=
  ReturnsWithin SpscRun.produce
    (fun run later => SpscStep movedFrom run later ∧ later.producer = run.producer)
    (fun run => ∃ pushed, run.producer = .returns pushed) 5

/-- The consumer is in a call and has returned after six steps of its own. -/
def PopReturns (movedFrom : T → T) : SpscRun T → Prop :=
  ReturnsWithin (SpscRun.consume movedFrom)
    (fun run later => SpscStep movedFrom run later ∧ later.consumer = run.consumer)
    (fun run => ∃ popped, run.consumer = .returns popped) 6

theorem pushReturns {run : SpscRun T} (called : run.producer ≠ .idle) :
    PushReturns movedFrom run := by
  refine returnsWithin_of_decreases (fun run => run.producer.left)
    (fun stepped called => ?_) (fun _ => SpscRun.produce_left) (fun called none => ?_) 5 called ?_
  · rw [stepped.2]
    exact ⟨called, rfl⟩
  · rename_i state
    cases place : state.producer <;> simp_all [PushPlace.left]
  · cases run.producer <;> simp [PushPlace.left]

theorem popReturns {run : SpscRun T} (called : run.consumer ≠ .idle) :
    PopReturns movedFrom run := by
  refine returnsWithin_of_decreases (fun run => run.consumer.left)
    (fun stepped called => ?_) (fun _ => SpscRun.consume_left) (fun called none => ?_) 6 called ?_
  · rw [stepped.2]
    exact ⟨called, rfl⟩
  · rename_i state
    cases place : state.consumer <;> simp_all [PopPlace.left]
  · cases run.consumer <;> simp [PopPlace.left]

/--
For every capacity and every interleaving: the popped items are the first of the
pushed ones, and no more than the rounded capacity are present.  A push adds its
item or finds the queue full during the call; a pop takes the next item or finds
the queue empty during the call.  Neither waits for the other: whatever the other
thread does, a call returns after a few steps of its own.
-/
theorem spscQueue_bounded_fifo (movedFrom : T → T) {capacity bound : UInt64}
    {shared : TSpscCircularQueue T} (positive : 1 ≤ capacity)
    (isBound : bitCeil capacity = some bound)
    (resized : TSpscCircularQueue.resize capacity = some shared) :
    (∀ run, SpscReachable movedFrom shared run →
      (run.popped <+: run.pushed ∧ run.pushed.length ≤ run.popped.length + bound.toNat) ∧
        (run.producer ≠ .idle → PushReturns movedFrom run) ∧
        (run.consumer ≠ .idle → PopReturns movedFrom run)) ∧
    (∀ item before last earlier, PushCall movedFrom shared item before (last :: earlier) →
      (last.producer = .returns true → last.pushed = before ++ [item]) ∧
      (last.producer = .returns false → last.pushed = before ∧ ∃ moment ∈ last :: earlier,
        moment.pushed.length = moment.popped.length + bound.toNat)) ∧
    ∀ before last earlier, PopCall movedFrom shared before (last :: earlier) →
      (∀ item, last.consumer = .returns (some item) → last.popped = before ++ [item]) ∧
      (last.consumer = .returns none → last.popped = before ∧ ∃ moment ∈ last :: earlier,
        moment.popped.length = moment.pushed.length) := by
  refine ⟨?_, ?_, ?_⟩
  · intro run reachable
    rcases bitCeil_eq_some isBound with ⟨isPower, _⟩
    rcases reachable.indexed positive isBound resized with ⟨old, seen, indexed⟩
    have older := indexed.old_le
    have room := indexed.room
    exact ⟨⟨indexed.fifo, by omega⟩, pushReturns, popReturns⟩
  · intro item before last earlier call
    have done := (call.done positive isBound resized last rfl).2
    constructor
    · intro returned
      rw [returned] at done
      exact done
    · intro returned
      rw [returned] at done
      exact done
  · intro before last earlier call
    have done := (call.done positive isBound resized last rfl).2
    constructor
    · intro item returned
      rw [returned] at done
      exact done
    · intro returned
      rw [returned] at done
      exact done

/-- A step of one of the threads, as one decides to take it. -/
inductive SpscMove (T : Type) where
  | callPush (item : T)
  | produce
  | callPop
  | consume

/-- The state after a move, if it can be made. -/
def SpscRun.move (movedFrom : T → T) (run : SpscRun T) : SpscMove T → Option (SpscRun T)
  | .callPush item =>
    if run.producer matches .idle then some { run with producer := .entered item } else none
  | .produce => run.produce
  | .callPop =>
    if run.consumer matches .idle then some { run with consumer := .entered } else none
  | .consume => run.consume movedFrom

theorem SpscStep.of_move {movedFrom : T → T} {run next : SpscRun T} {move : SpscMove T}
    (moved : run.move movedFrom move = some next) : SpscStep movedFrom run next := by
  cases move with
  | callPush item =>
    cases place : run.producer <;> simp only [SpscRun.move, place] at moved <;> cases moved
    exact .callPush item place
  | produce => exact .produce moved
  | callPop =>
    cases place : run.consumer <;> simp only [SpscRun.move, place] at moved <;> cases moved
    exact .callPop place
  | consume => exact .consume moved

theorem SpscReachable.moves {movedFrom : T → T} {shared : TSpscCircularQueue T}
    {moves : List (SpscMove T)} {run next : SpscRun T}
    (reachable : SpscReachable movedFrom shared run)
    (moved : moves.foldlM (SpscRun.move movedFrom) run = some next) :
    SpscReachable movedFrom shared next := by
  induction moves generalizing run with
  | nil =>
    cases moved
    exact reachable
  | cons move rest ih =>
    obtain ⟨between, first, moved⟩ := Option.bind_eq_some_iff.mp moved
    exact ih (reachable.tail (.of_move first)) moved

/-- Two items are in a queue of two slots, and a third one is to be pushed. -/
def fullQueue (producer : PushPlace Nat) : SpscRun Nat :=
  ⟨⟨[7, 8], 2, 1, 2, 0, 0, 0⟩, producer, .idle, [7, 8], []⟩

/-- The consumer takes the first of them meanwhile. -/
def takenQueue (queue : List Nat) (tail cachedHead : UInt64) (consumer : PopPlace Nat)
    (popped : List Nat) : SpscRun Nat :=
  ⟨⟨queue, 2, 1, 2, 0, tail, cachedHead⟩, .idle, consumer, [7, 8], popped⟩

/-- A push that finds the queue full, and a pop of the first item. -/
theorem spscQueue_bounded_fifo_two :
    ∃ (shared : TSpscCircularQueue Nat) (pushing popping : List (SpscRun Nat)),
      bitCeil 2 = some 2 ∧ TSpscCircularQueue.resize 2 = some shared ∧
      PushCall (fun _ => 0) shared 9 [7, 8] (fullQueue (.returns false) :: pushing) ∧
      (∃ moment ∈ fullQueue (.returns false) :: pushing,
        moment.pushed.length = moment.popped.length + 2) ∧
      PushReturns (fun _ => 0) (fullQueue (.entered 9)) ∧
      PopCall (fun _ => 0) shared []
        (takenQueue [0, 8] 1 2 (.returns (some 7)) [7] :: popping) ∧
      (takenQueue [0, 8] 1 2 (.returns (some 7)) [7]).popped = [] ++ [7] ∧
      PopReturns (fun _ => 0) (takenQueue [7, 8] 0 0 .entered []) := by
  have isBound : bitCeil 2 = some 2 := by decide +kernel
  have resized : TSpscCircularQueue.resize (T := Nat) 2 = some ⟨[0, 0], 2, 1, 0, 0, 0, 0⟩ := by
    decide +kernel
  have fifo := spscQueue_bounded_fifo (fun _ : Nat => 0) (by decide) isBound resized
  have full : SpscReachable (fun _ => 0) ⟨[0, 0], 2, 1, 0, 0, 0, 0⟩ (fullQueue (.entered 9)) := by
    have moved : ([.callPush 7, .produce, .produce, .produce, .produce, .produce,
        .callPush 8, .produce, .produce, .produce, .produce, .produce, .callPush 9] :
          List (SpscMove Nat)).foldlM (SpscRun.move fun _ => 0)
            (SpscRun.initial ⟨[0, 0], 2, 1, 0, 0, 0, 0⟩) = some (fullQueue (.entered 9)) := by
      decide +kernel
    exact SpscReachable.moves .refl moved
  have taking : SpscReachable (fun _ => 0) ⟨[0, 0], 2, 1, 0, 0, 0, 0⟩
      (takenQueue [7, 8] 0 0 .entered []) := by
    have moved : ([.produce, .produce, .produce, .produce, .callPop] :
          List (SpscMove Nat)).foldlM (SpscRun.move fun _ => 0) (fullQueue (.entered 9)) =
            some (takenQueue [7, 8] 0 0 .entered []) := by
      decide +kernel
    exact full.moves moved
  have push : PushCall (fun _ => 0) ⟨[0, 0], 2, 1, 0, 0, 0, 0⟩ 9 [7, 8]
      [fullQueue (.returns false), fullQueue (.reloads 9 2), fullQueue (.comparesCached 9 2),
        fullQueue (.entered 9)] :=
    .next (.next (.next (.begun ⟨full, rfl, rfl⟩) (.produce (by decide +kernel)) nofun)
      (.produce (by decide +kernel)) nofun) (.produce (by decide +kernel)) nofun
  have pop : PopCall (fun _ => 0) ⟨[0, 0], 2, 1, 0, 0, 0, 0⟩ []
      [takenQueue [0, 8] 1 2 (.returns (some 7)) [7], takenQueue [0, 8] 0 2 (.retires 7 0) [],
        takenQueue [7, 8] 0 2 (.reads 0) [], takenQueue [7, 8] 0 0 (.reloads 0) [],
        takenQueue [7, 8] 0 0 (.comparesCached 0) [], takenQueue [7, 8] 0 0 .loadsTail [],
        takenQueue [7, 8] 0 0 .entered []] := by
    refine .next (.next (.next (.next (.next (.next (.begun ⟨taking, rfl, rfl⟩)
      (.consume ?_) nofun) (.consume ?_) nofun) (.consume ?_) nofun) (.consume ?_) nofun)
      (.consume ?_) nofun) (.consume ?_) nofun
    all_goals decide +kernel
  exact ⟨_, _, _, isBound, resized, push, ((fifo.2.1 _ _ _ _ push).2 rfl).2,
    (fifo.1 _ full).2.1 nofun, pop, (fifo.2.2 _ _ _ pop).1 7 rfl, (fifo.1 _ taking).2.2 nofun⟩

end

end

end PortableTpcc
