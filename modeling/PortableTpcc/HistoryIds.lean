import Mathlib.Data.Multiset.Range
import PortableTpcc.SignedWords

namespace PortableTpcc

/-!
# Identifiers of history rows

The table has no key of its own.  The loader (`load_batch.cpp`) numbers the rows
of a warehouse; a worker (`ydb_session.cpp`) joins a random salt and a counter
that its threads share.
-/

namespace HistoryIds

/-- `EffectiveYdbLoadBatchRows`. -/
def effectiveYdbLoadBatchRows (batchRows : Int32) : Nat :=
  if 0 < batchRows.toInt then batchRows.toInt.toNat else 2000

/--
The customers of a district from a start on, chunk by chunk.  A sum that does
not fit an `int` is undefined.
-/
def customersFrom (customerChunk : Nat) : Nat → Nat → Option (List Nat)
  | 0, _ => none
  | turns + 1, start =>
    if start ≤ 3000 then
      if start + customerChunk < 2 ^ 31 then do
        let stop := min (start + customerChunk - 1) 3000
        let rest ← customersFrom customerChunk turns (start + customerChunk)
        return List.range' start (stop + 1 - start) ++ rest
      else
        none
    else
      some []

/-- `histId` of a customer of a district. -/
def histId (d cid : Nat) : Int64 :=
  Int64.ofNat (d - 1) * 3000 + Int64.ofNat cid

/-- The identifiers that `PutWarehouseIdempotent` writes. -/
def loadedHistIds (batchRows : Int32) : Option (List Int64) := do
  let districts ← (List.range' 1 10).mapM fun d => do
    let customers ← customersFrom (effectiveYdbLoadBatchRows batchRows) 3001 1
    return customers.map (histId d)
  return districts.flatten

/-- The loop that draws the salt, over the words of the device. -/
def drawSalt : List UInt32 → Option UInt64
  | [] => none
  | word :: device =>
    let value := word.toUInt64 &&& 0x3FFFFF
    if value = 0 then drawSalt device else some (value <<< 41)

def counterMask : UInt64 :=
  ((1 : UInt64) <<< 41) - 1

/-- The result of `NextHistoryId`, of the salt and the number that it fetched. -/
def historyId (salt fetched : UInt64) : Int64 :=
  (salt ||| (fetched &&& counterMask)).toInt64

/-- The static variables of a process, and the calls of its threads. -/
structure Process where
  salt : Option UInt64
  seq : UInt64
  /-- What the threads that are in a call have fetched. -/
  pending : Multiset UInt64
  returned : Multiset Int64

def Process.initial : Process :=
  ⟨none, 0, 0, 0⟩

def Process.calls (p : Process) : Nat :=
  p.pending.card + p.returned.card

/-- One thread takes a step. -/
inductive Process.Step : Process → Process → Prop
  | saltDrawn {p : Process} {device : List UInt32} {salt : UInt64} (first : p.salt = none)
      (drawn : drawSalt device = some salt) :
      Step p { p with salt := some salt }
  | fetchAdd {p : Process} {salt : UInt64} (isSalt : p.salt = some salt) :
      Step p { p with seq := p.seq + 1, pending := p.seq ::ₘ p.pending }
  | returns {p : Process} {salt fetched : UInt64} {others : Multiset UInt64}
      (isSalt : p.salt = some salt) (isPending : p.pending = fetched ::ₘ others) :
      Step p { p with pending := others, returned := historyId salt fetched ::ₘ p.returned }

def Process.Reached (p : Process) : Prop :=
  Relation.ReflTransGen Process.Step .initial p

/-- With any chunk the loop visits the customers once, in order. -/
theorem customersFrom_eq {customerChunk turns start : Nat} (positive : 0 < customerChunk)
    (fits : start ≤ 3000 → start + customerChunk < 2 ^ 31) (enough : 3001 - start < turns) :
    customersFrom customerChunk turns start = some (List.range' start (3001 - start)) := by
  induction turns generalizing start with
  | zero =>
    exact absurd enough (Nat.not_lt_zero _)
  | succ turns ih =>
    unfold customersFrom
    by_cases more : start ≤ 3000
    · rw [if_pos more, if_pos (fits more), ih (by omega) (by omega)]
      refine congrArg some ?_
      by_cases isLast : 3000 < start + customerChunk
      · rw [Nat.sub_eq_zero_of_le (by omega : 3001 ≤ start + customerChunk), List.range'_zero,
          List.append_nil, Nat.min_eq_right (by omega)]
      · have chunk : start + customerChunk - 1 + 1 - start = customerChunk := by omega
        have total : customerChunk + (3001 - (start + customerChunk)) = 3001 - start := by omega
        rw [Nat.min_eq_left (by omega), chunk, List.range'_append_1, total]
    · rw [if_neg more, Nat.sub_eq_zero_of_le (by omega)]
      rfl

theorem customersFrom_effective (batchRows : Int32) :
    customersFrom (effectiveYdbLoadBatchRows batchRows) 3001 1 =
      if batchRows = Int32.maxValue then none else some (List.range' 1 3000) := by
  split
  · rename_i isMax
    rw [isMax]
    rfl
  · rename_i notMax
    have high := batchRows.toInt_lt
    have other : batchRows.toInt ≠ 2 ^ 31 - 1 := fun same => notMax (Int32.toInt_inj.mp same)
    refine customersFrom_eq ?_ (fun _ => ?_) (by decide)
    all_goals
      unfold effectiveYdbLoadBatchRows
      split <;> omega

theorem flatMap_ranges (size n : Nat) :
    (List.range n).flatMap (fun k => List.range' (k * size + 1) size) =
      List.range' 1 (n * size) := by
  induction n with
  | zero =>
    rw [Nat.zero_mul]
    rfl
  | succ n ih =>
    rw [List.range_succ, List.flatMap_append, ih, List.flatMap_singleton, Nat.succ_mul,
      Nat.add_comm (n * size) 1, List.range'_append_1]

theorem map_histId (k : Nat) :
    (List.range' 1 3000).map (histId (k + 1)) =
      (List.range' (k * 3000 + 1) 3000).map Int64.ofNat := by
  rw [← List.map_add_range', List.map_map]
  refine List.map_congr_left fun cid _ => ?_
  have radix : (3000 : Int64) = Int64.ofNat 3000 := rfl
  change Int64.ofNat k * 3000 + Int64.ofNat cid = Int64.ofNat (k * 3000 + cid)
  rw [radix, ← Int64.ofNat_mul, ← Int64.ofNat_add]

/-- The identifiers of a warehouse are one number after the other. -/
theorem loadedHistIds_eq (batchRows : Int32) :
    loadedHistIds batchRows = if batchRows = Int32.maxValue then none
      else some ((List.range' 1 30000).map Int64.ofNat) := by
  unfold loadedHistIds
  rw [customersFrom_effective]
  split
  · rfl
  · have districts : (List.range' 1 10).mapM
        (fun d => some ((List.range' 1 3000).map (histId d))) =
          some ((List.range' 1 10).map fun d => (List.range' 1 3000).map (histId d)) :=
      List.mapM_pure
    refine (congrArg (Option.map List.flatten) districts).trans (congrArg some ?_)
    have numbered : List.range' 1 10 = (List.range 10).map (· + 1) := rfl
    rw [← List.flatMap_def, numbered, List.flatMap_map]
    simp only [map_histId]
    rw [← List.map_flatMap, flatMap_ranges]

/-- They differ, and are smaller than those of the workers. -/
theorem loadedHistIds_distinct {batchRows : Int32} {ids : List Int64}
    (written : loadedHistIds batchRows = some ids) : ids.Nodup ∧ ∀ id ∈ ids, id.toInt < 2 ^ 41 := by
  rw [loadedHistIds_eq] at written
  split at written
  · cases written
  · have isNumber {n : Nat} (member : n ∈ List.range' 1 30000) : (Int64.ofNat n).toInt = n := by
      rw [List.mem_range'_1] at member
      exact Int64.toInt_ofNat_of_lt (by omega)
    rw [← Option.some.inj written]
    constructor
    · refine List.Nodup.map_on (fun n nMember m mMember same => ?_) List.nodup_range'
      have values := congrArg Int64.toInt same
      rw [isNumber nMember, isNumber mMember] at values
      exact Int.ofNat.inj values
    · intro id member
      rcases List.mem_map.mp member with ⟨n, isMember, rfl⟩
      rw [isNumber isMember]
      rw [List.mem_range'_1] at isMember
      omega

/-- A salt fills the bits from 41 to 62, and is not zero. -/
def IsSalt (salt : UInt64) : Prop :=
  ∃ value, 0 < value ∧ value < 2 ^ 22 ∧ salt.toNat = 2 ^ 41 * value

theorem isSalt_of_drawn {device : List UInt32} {salt : UInt64}
    (drawn : drawSalt device = some salt) : IsSalt salt := by
  induction device with
  | nil =>
    cases drawn
  | cons word device ih =>
    dsimp only [drawSalt] at drawn
    split at drawn
    · exact ih drawn
    · rename_i notZero
      rw [← Option.some.inj drawn]
      have positive : 0 < (word.toUInt64 &&& 0x3FFFFF).toNat :=
        Nat.pos_of_ne_zero fun isZero => notZero (UInt64.toNat_inj.mp isZero)
      have small : (word.toUInt64 &&& 0x3FFFFF).toNat < 2 ^ 22 := by
        rw [UInt64.toNat_and]
        exact Nat.and_lt_two_pow _ (by decide)
      refine ⟨_, positive, small, ?_⟩
      rw [UInt64.toNat_shiftLeft, Nat.shiftLeft_eq, Nat.mul_comm]
      exact Nat.mod_eq_of_lt (by change 2 ^ 41 * _ < 2 ^ 64; omega)

theorem toInt_historyId {salt : UInt64} (isSalt : IsSalt salt) (fetched : UInt64) :
    (historyId salt fetched).toInt = salt.toNat + fetched.toNat % 2 ^ 41 := by
  rcases isSalt with ⟨value, -, small, isValue⟩
  have below := Nat.mod_lt fetched.toNat (by decide : 2 ^ 41 > 0)
  have joined : (salt ||| (fetched &&& counterMask)).toNat =
      salt.toNat + fetched.toNat % 2 ^ 41 := by
    have mask : counterMask.toNat = 2 ^ 41 - 1 := by decide
    rw [UInt64.toNat_or, UInt64.toNat_and, mask, Nat.and_two_pow_sub_one_eq_mod, isValue,
      Nat.two_pow_add_eq_or_of_lt below]
  unfold historyId
  rw [toInt_toInt64 (by omega), joined]
  rfl

theorem toInt_historyId_ofNat {salt : UInt64} (isSalt : IsSalt salt) {n : Nat}
    (few : n < 2 ^ 41) : (historyId salt (.ofNat n)).toInt = salt.toNat + n := by
  have isNumber : (UInt64.ofNat n).toNat = n := UInt64.toNat_ofNat_of_lt' (few.trans (by decide))
  rw [toInt_historyId isSalt, isNumber]
  omega

/-- The calls have fetched the numbers from zero on, each of them once. -/
structure Process.Counted (p : Process) : Prop where
  isSalt : ∀ salt, p.salt = some salt → IsSalt salt
  unused : p.salt = none → p.pending = 0 ∧ p.returned = 0
  seq : p.seq = .ofNat p.calls
  ids : ∀ salt, p.salt = some salt → p.pending.map (historyId salt) + p.returned =
    (Multiset.range p.calls).map fun n => historyId salt (.ofNat n)

variable {p p' : Process}

theorem Process.Step.counted (step : Process.Step p p') (counted : p.Counted) : p'.Counted := by
  cases step with
  | saltDrawn first drawn =>
    rcases counted.unused first with ⟨noPending, noReturned⟩
    refine ⟨?_, nofun, counted.seq, ?_⟩
    · rintro _ ⟨⟩
      exact isSalt_of_drawn drawn
    · intro _ _
      have noCalls : p.calls = 0 := by rw [Process.calls, noPending, noReturned]; rfl
      change Multiset.map _ p.pending + p.returned = Multiset.map _ (Multiset.range p.calls)
      rw [noCalls, noPending, noReturned]
      rfl
  | fetchAdd isSalt =>
    have calls : Multiset.card (p.seq ::ₘ p.pending) + p.returned.card = p.calls + 1 := by
      rw [Multiset.card_cons, Process.calls]
      omega
    refine ⟨counted.isSalt, fun none => ?_, ?_, fun salt isSalt => ?_⟩
    · cases none.symm.trans isSalt
    · change p.seq + 1 = .ofNat (Multiset.card (p.seq ::ₘ p.pending) + p.returned.card)
      rw [calls, counted.seq, UInt64.ofNat_add]
      rfl
    · change Multiset.map _ (p.seq ::ₘ p.pending) + p.returned =
        Multiset.map _ (Multiset.range (Multiset.card (p.seq ::ₘ p.pending) + p.returned.card))
      rw [calls, Multiset.range_succ, Multiset.map_cons, Multiset.map_cons, Multiset.cons_add,
        counted.ids salt isSalt, counted.seq]
  | @returns salt fetched others isSalt isPending =>
    have calls : others.card + Multiset.card (historyId salt fetched ::ₘ p.returned) =
        p.calls := by
      rw [Multiset.card_cons, Process.calls, isPending, Multiset.card_cons]
      omega
    refine ⟨counted.isSalt, fun none => ?_, ?_, fun salt' isSalt' => ?_⟩
    · cases none.symm.trans isSalt
    · exact counted.seq.trans (congrArg _ calls.symm)
    · cases isSalt.symm.trans isSalt'
      have ids := counted.ids salt isSalt
      rw [isPending, Multiset.map_cons, Multiset.cons_add, ← Multiset.add_cons, ← calls] at ids
      exact ids

theorem Process.Reached.counted (reached : p.Reached) : p.Counted := by
  induction reached with
  | refl =>
    exact ⟨nofun, fun _ => ⟨rfl, rfl⟩, rfl, nofun⟩
  | tail _ step ih =>
    exact step.counted ih

/-- A returned identifier is made of the salt and the number of a call. -/
theorem Process.Counted.mem_returned (counted : p.Counted) {id : Int64}
    (member : id ∈ p.returned) :
    ∃ salt, p.salt = some salt ∧ IsSalt salt ∧ ∃ n < p.calls, id = historyId salt (.ofNat n) := by
  cases isSalt : p.salt with
  | none =>
    rw [(counted.unused isSalt).2] at member
    cases Multiset.notMem_zero id member
  | some salt =>
    have issued : id ∈ p.pending.map (historyId salt) + p.returned :=
      Multiset.mem_add.mpr (.inr member)
    rw [counted.ids salt isSalt, Multiset.mem_map] at issued
    rcases issued with ⟨n, below, isId⟩
    exact ⟨salt, rfl, counted.isSalt salt isSalt, n, Multiset.mem_range.mp below, isId.symm⟩

theorem Process.Counted.nodup_returned (counted : p.Counted) (few : p.calls ≤ 2 ^ 41) :
    p.returned.Nodup := by
  cases isSalt : p.salt with
  | none =>
    rw [(counted.unused isSalt).2]
    exact Multiset.nodup_zero
  | some salt =>
    have isSalt' := counted.isSalt salt isSalt
    refine Multiset.nodup_of_le (Multiset.le_add_left _ (p.pending.map (historyId salt))) ?_
    rw [counted.ids salt isSalt]
    refine Multiset.Nodup.map_on ?_ (Multiset.nodup_range _)
    intro n nBelow m mBelow same
    rw [Multiset.mem_range] at nBelow mBelow
    have values := congrArg Int64.toInt same
    rw [toInt_historyId_ofNat isSalt' (by omega), toInt_historyId_ofNat isSalt' (by omega)]
      at values
    omega

/--
Processes with different salts return positive identifiers and none of them
twice, as long as no process makes more than `2 ^ 41` calls, and the loader
writes other ones, each once.
-/
theorem historyIds_distinct {ι : Type} {run : ι → Process} (reached : ∀ i, (run i).Reached)
    (salts : ∀ i j salt, (run i).salt = some salt → (run j).salt = some salt → i = j)
    (few : ∀ i, (run i).calls ≤ 2 ^ 41) :
    (∀ i, (run i).returned.Nodup ∧ ∀ id ∈ (run i).returned, 0 < id) ∧
      (∀ i j, i ≠ j → ∀ id ∈ (run i).returned, id ∉ (run j).returned) ∧
      ∀ batchRows, (batchRows ≠ Int32.maxValue → (loadedHistIds batchRows).isSome) ∧
        ∀ ids, loadedHistIds batchRows = some ids →
          ids.Nodup ∧ ∀ id ∈ ids, ∀ i, id ∉ (run i).returned := by
  have value (i : ι) {id : Int64} (member : id ∈ (run i).returned) :
      ∃ salt, (run i).salt = some salt ∧ IsSalt salt ∧
        ∃ n < 2 ^ 41, id.toInt = salt.toNat + (n : Nat) := by
    rcases (reached i).counted.mem_returned member with ⟨salt, isSalt, valid, n, below, rfl⟩
    have few := below.trans_le (few i)
    exact ⟨salt, isSalt, valid, n, few, toInt_historyId_ofNat valid few⟩
  have large (i : ι) {id : Int64} (member : id ∈ (run i).returned) : 2 ^ 41 ≤ id.toInt := by
    rcases value i member with ⟨salt, -, ⟨_, positive, -, isSalt⟩, n, -, isId⟩
    omega
  refine ⟨fun i => ⟨(reached i).counted.nodup_returned (few i), ?_⟩, ?_, fun batchRows => ?_⟩
  · intro id member
    have := large i member
    exact Int64.lt_iff_toInt_lt.mpr (by change 0 < id.toInt; omega)
  · intro i j other id first second
    rcases value i first with ⟨_, isFirst, ⟨_, -, -, firstBits⟩, n, nBelow, isId⟩
    rcases value j second with ⟨_, isSecond, ⟨_, -, -, secondBits⟩, m, mBelow, isId'⟩
    refine other (salts i j _ isFirst (isSecond.trans (congrArg some ?_)))
    exact UInt64.toNat_inj.mp (by omega)
  · refine ⟨fun notMax => ?_, fun ids written => ?_⟩
    · rw [loadedHistIds_eq, if_neg notMax]
      rfl
    · rcases loadedHistIds_distinct written with ⟨nodup, small⟩
      refine ⟨nodup, fun id isLoaded i isReturned => ?_⟩
      have := small id isLoaded
      have := large i isReturned
      omega

/-- Two workers after a call. -/
def twoWorkers (second : Bool) : Process :=
  let salt := (if second then (2 : UInt64) else 1) <<< 41
  ⟨some salt, 1, 0, {historyId salt 0}⟩

theorem twoWorkers_reached (second : Bool) : (twoWorkers second).Reached := by
  have drawn : drawSalt [0, if second then 2 else 1] =
      some ((if second then (2 : UInt64) else 1) <<< 41) := by
    cases second <;> rfl
  have salted : Process.Step .initial _ := .saltDrawn rfl drawn
  exact ((Relation.ReflTransGen.single salted).tail (.fetchAdd rfl)).tail (.returns rfl rfl)

/-- Two processes that have each returned an id. -/
theorem historyIds_distinct_twoWorkers :
    (∀ i, (twoWorkers i).Reached) ∧ (∀ i, (twoWorkers i).calls ≤ 2 ^ 41) ∧
      ∀ i j, i ≠ j → ∀ id ∈ (twoWorkers i).returned, id ∉ (twoWorkers j).returned := by
  have few (i : Bool) : (twoWorkers i).calls ≤ 2 ^ 41 := Nat.one_le_two_pow
  refine ⟨twoWorkers_reached, few, (historyIds_distinct twoWorkers_reached ?_ few).2.1⟩
  have salts : (twoWorkers false).salt ≠ (twoWorkers true).salt := by decide
  rintro (_ | _) (_ | _) salt first second
  · rfl
  · exact absurd (first.trans second.symm) salts
  · exact absurd (second.trans first.symm) salts
  · rfl

end HistoryIds

end PortableTpcc
