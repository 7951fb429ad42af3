import PortableTpcc.FastRngPeriod
import PortableTpcc.FuelledDraws
import PortableTpcc.Workflows

namespace PortableTpcc

/-!
# How the inputs of New-Order are drawn

`new_order.cpp` draws the inputs of a business transaction once, line by line,
and `new_order_supply.h` chooses the warehouse that supplies a line.
-/

namespace NewOrderGenerator

/-- What is drawn with a generator. -/
abbrev Draws := StateT TFastRng Option

/-- `static_cast<int>` of a `size_t`. -/
def asInt (x : UInt64) : Int :=
  Int.bmod x.toNat (2 ^ 32)

/-- `RandomNumber`. -/
def randomNumber (low high : UInt64) (fuel : Nat) : Draws UInt64 := fun rng => do
  let (value, rng) ← boundedRandom fuel rng (high - low + 1)
  return (low + value, rng)

/-- `NonUniformRandom`; it is called with constants for which no `int` overflows. -/
def nonUniformRandom (a c min max : Nat) (fuel : Nat) : Draws Int := do
  let randomNum ← randomNumber 0 (.ofNat a) fuel
  let randomNum2 ← randomNumber (.ofNat min) (.ofNat max) fuel
  return (((randomNum.toNat ||| randomNum2.toNat) + c) % (max - min + 1) + min : Nat)

/-- `GetRandomCustomerID`. -/
def getRandomCustomerID : Nat → Draws Int :=
  nonUniformRandom 1023 259 1 3000

/-- `GetRandomItemID`. -/
def getRandomItemID : Nat → Draws Int :=
  nonUniformRandom 8191 7911 1 100000

/-- The part of `TTransactionContext` that is read; every driver sets the count from an `int`. -/
structure TTransactionContext where
  warehouseID : UInt64
  warehouseCount : UInt64
  newOrderRemoteWarehousePercent : Int
  newOrderMaxRemoteWarehouses : Int
  count_isInt : warehouseCount.toNat < 2 ^ 31

/-- `ChooseNewOrderSupplyWarehouse`. -/
def chooseNewOrderSupplyWarehouse (homeWarehouseId : Int) (warehouseCount : UInt64)
    (remoteWarehousePercent maxRemoteWarehouses remoteWarehousesChosen : Int) (fuel : Nat) :
    Draws Int :=
  let capReached := 0 < maxRemoteWarehouses ∧ maxRemoteWarehouses ≤ remoteWarehousesChosen
  if warehouseCount = 1 ∨ capReached then
    return homeWarehouseId
  else do
    let sampled ← randomNumber 1 100 fuel
    if remoteWarehousePercent < asInt sampled then
      return homeWarehouseId
    else
      drawUntil (fun fuel => asInt <$> randomNumber 1 warehouseCount fuel)
        (· ≠ homeWarehouseId) fuel fuel

/-- The lines so far, and the variables of the loop. -/
structure Lines where
  lines : List NewOrderLine
  allLocal : Int
  remoteWarehousesChosen : Int
deriving Repr, DecidableEq

/-- One turn of the loop. -/
def orderLine (context : TTransactionContext) (state : Lines) (fuel : Nat) : Draws Lines := do
  let home := asInt context.warehouseID
  let itemId ← getRandomItemID fuel
  let supplierID ← chooseNewOrderSupplyWarehouse home context.warehouseCount
    context.newOrderRemoteWarehousePercent context.newOrderMaxRemoteWarehouses
    state.remoteWarehousesChosen fuel
  let quantity ← randomNumber 1 10 fuel
  return {
    lines := state.lines ++ [⟨itemId, supplierID, asInt quantity⟩]
    allLocal := if supplierID ≠ home then 0 else state.allLocal
    remoteWarehousesChosen :=
      if supplierID ≠ home then state.remoteWarehousesChosen + 1
      else state.remoteWarehousesChosen }

/-- The loop over the lines that are left. -/
def orderLines (context : TTransactionContext) : Nat → Lines → Nat → Draws Lines
  | 0, state, _ => return state
  | left + 1, state, fuel => do
    let state ← orderLine context state fuel
    orderLines context left state fuel

/-- The inputs of `GetNewOrderTask`. -/
def newOrderInputs (context : TTransactionContext) (fuel : Nat) : Draws NewOrderInputs := do
  let districtID ← randomNumber 1 10 fuel
  let customerID ← getRandomCustomerID fuel
  let numItems ← randomNumber 5 15 fuel
  let state ← orderLines context (asInt numItems).toNat ⟨[], 1, 0⟩ fuel
  let unused ← randomNumber 1 100 fuel
  let lines :=
    if unused = 1 then
      state.lines.modify ((asInt numItems).toNat - 1)
        fun line => { line with itemId := invalidItemId }
    else
      state.lines
  return {
    warehouseId := asInt context.warehouseID
    districtId := asInt districtID
    customerId := customerID
    lines := lines
    allLocal := state.allLocal }

/-! ## Single draws -/

/-- A generator never has the state zero. -/
def Live (rng : TFastRng) : Prop :=
  rng.state ≠ 0

theorem asInt_of_small {x : UInt64} (small : x.toNat < 2 ^ 31) : asInt x = x.toNat :=
  Int.bmod_eq_of_le (by omega) (by omega)

section

variable {low high : UInt64}

/-- The draw that a number is made of. -/
theorem randomNumber_eq {rng : TFastRng} {n : Nat} (positive : 0 < (high - low + 1).toNat)
    (first : FirstAccepted (high - low + 1) rng n) {fuel : Nat} (large : fuel ≥ n) :
    randomNumber low high fuel rng =
      some (low + valueOf (high - low + 1) (rng.draw n), rng.after (n + 1)) := by
  unfold randomNumber
  rw [(boundedRandom_eq_some_iff positive).mpr ⟨n, large, first, rfl⟩]
  rfl

theorem toNat_range (ordered : low ≤ high) (small : high.toNat < 2 ^ 64 - 1) :
    (high - low + 1).toNat = high.toNat - low.toNat + 1 := by
  rw [UInt64.toNat_add, UInt64.toNat_sub_of_le _ _ ordered]
  exact Nat.mod_eq_of_lt (by change _ + 1 < _; omega)

theorem toNat_drawn (ordered : low ≤ high) (small : high.toNat < 2 ^ 64 - 1) (x : UInt64) :
    (low + valueOf (high - low + 1) x).toNat = low.toNat + (valueOf (high - low + 1) x).toNat ∧
      low.toNat + (valueOf (high - low + 1) x).toNat ≤ high.toNat := by
  have isRange := toNat_range ordered small
  have ordered := UInt64.le_iff_toNat_le.mp ordered
  have below := UInt64.lt_iff_toNat_lt.mp (valueOf_lt (by omega : 0 < (high - low + 1).toNat) x)
  refine ⟨?_, by omega⟩
  rw [UInt64.toNat_add]
  exact Nat.mod_eq_of_lt (by omega)

theorem randomNumber_yields (ordered : low ≤ high) (small : high.toNat < 2 ^ 64 - 1) :
    Yields Live (randomNumber low high) fun value => low ≤ value ∧ value ≤ high := by
  intro rng live
  have isRange := toNat_range ordered small
  have positive : 0 < (high - low + 1).toNat := by omega
  rcases exists_firstAccepted live positive with ⟨n, first⟩
  have drawn := toNat_drawn ordered small (rng.draw n)
  refine ⟨n, _, _, fun fuel large => randomNumber_eq positive first large,
    after_state_ne_zero live _, ?_, ?_⟩
  · exact UInt64.le_iff_toNat_le.mpr (by omega)
  · exact UInt64.le_iff_toNat_le.mpr (by omega)

end

theorem nonUniformRandom_yields {a c min max : Nat} (aSmall : a < 2 ^ 32) (ordered : min ≤ max)
    (small : max < 2 ^ 32) :
    Yields Live (nonUniformRandom a c min max) fun value => (min : Int) ≤ value ∧ value ≤ max := by
  have isNumber {n : Nat} (fits : n < 2 ^ 32) : (UInt64.ofNat n).toNat = n :=
    UInt64.toNat_ofNat_of_lt' (fits.trans (by decide))
  have zero_le : (0 : UInt64) ≤ .ofNat a := UInt64.le_iff_toNat_le.mpr (Nat.zero_le _)
  refine Yields.bind (randomNumber_yields zero_le (by rw [isNumber aSmall]; omega))
    fun first _ => ?_
  have isOrdered : UInt64.ofNat min ≤ .ofNat max := by
    rw [UInt64.le_iff_toNat_le, isNumber small, isNumber (by omega)]
    exact ordered
  refine Yields.bind (randomNumber_yields isOrdered (by rw [isNumber small]; omega))
    fun second _ => ?_
  have below := Nat.mod_lt ((first.toNat ||| second.toNat) + c) (by omega : 0 < max - min + 1)
  exact Yields.pure (by omega)

theorem getRandomItemID_yields :
    Yields Live getRandomItemID fun value => 1 ≤ value ∧ value ≤ 100000 :=
  nonUniformRandom_yields (by decide) (by decide) (by decide)

/-! ## The warehouse that supplies a line -/

section

variable {home : Int} {count : UInt64}

/-- The draw gives a warehouse other than the home warehouse. -/
def GivesRemote (home : Int) (count x : UInt64) : Prop :=
  Accepts count x ∧ asInt (1 + valueOf count x) ≠ home

theorem accepts_one (positive : 0 < count.toNat) : Accepts count 1 := by
  have small := count.toNat_lt
  have below := Nat.mod_lt (2 ^ 64) positive
  rw [accepts_iff positive]
  have product : (1 : UInt64).toNat * count.toNat = count.toNat := Nat.one_mul _
  rw [product, Nat.mod_eq_of_lt small]
  exact below.le

theorem valueOf_one (positive : 0 < count.toNat) : (valueOf count 1).toNat = 0 := by
  have small := count.toNat_lt
  rw [toNat_valueOf positive]
  have product : (1 : UInt64).toNat * count.toNat = count.toNat := Nat.one_mul _
  rw [product]
  exact Nat.div_eq_of_lt small

theorem valueOf_largest (positive : 0 < count.toNat) :
    (valueOf count 0xFFFFFFFFFFFFFFFF).toNat = count.toNat - 1 := by
  have small := count.toNat_lt
  have product : (0xFFFFFFFFFFFFFFFF : UInt64).toNat * count.toNat =
      2 ^ 64 - count.toNat + 2 ^ 64 * (count.toNat - 1) := by
    change (2 ^ 64 - 1) * count.toNat = _
    omega
  rw [toNat_valueOf positive, product, Nat.add_mul_div_left _ _ (by decide),
    Nat.div_eq_of_lt (by omega), Nat.zero_add]

/-- Such a draw comes at some time: the first or the last warehouse is remote. -/
theorem exists_givesRemote {rng : TFastRng} (live : Live rng) (several : 2 ≤ count.toNat)
    (isInt : count.toNat < 2 ^ 31) : ∃ n, GivesRemote home count (rng.draw n) := by
  have positive : 0 < count.toNat := by omega
  have isSum {x : UInt64} (below : (valueOf count x).toNat < count.toNat) :
      asInt (1 + valueOf count x) = 1 + (valueOf count x).toNat := by
    have sum : (1 + valueOf count x).toNat = 1 + (valueOf count x).toNat := by
      rw [UInt64.toNat_add]
      exact Nat.mod_eq_of_lt (by change 1 + _ < _; omega)
    rw [asInt_of_small (by omega), sum]
    rfl
  by_cases isFirst : home = 1
  · have isWord : (0xFFFFFFFFFFFFFFFF : UInt64) ≠ 0 := by decide
    rcases exists_draw live isWord with ⟨n, isLargest⟩
    have value := valueOf_largest positive
    refine ⟨n, isLargest ▸ ⟨accepts_largest positive, ?_⟩⟩
    rw [isSum (by omega), isFirst, value]
    omega
  · have isWord : (1 : UInt64) ≠ 0 := by decide
    rcases exists_draw live isWord with ⟨n, isOne⟩
    have value := valueOf_one positive
    refine ⟨n, isOne ▸ ⟨accepts_one positive, ?_⟩⟩
    rw [isSum (by omega), value]
    exact fun same => isFirst same.symm

theorem draw_after (rng : TFastRng) (m n : Nat) : (rng.after m).draw n = rng.draw (m + n) := by
  rw [TFastRng.draw, TFastRng.draw, TFastRng.after, TFastRng.after, TFastRng.after,
    Nat.add_comm m n, Function.iterate_add_apply]

/-- The redraws end, with a warehouse other than the home warehouse. -/
theorem remoteSupplier_yields (several : 2 ≤ count.toNat) (isInt : count.toNat < 2 ^ 31) :
    Yields Live (fun fuel => drawUntil (fun fuel => asInt <$> randomNumber 1 count fuel)
        (· ≠ home) fuel fuel) fun supplier =>
        (1 ≤ supplier ∧ supplier ≤ count.toNat) ∧ decide (supplier ≠ home) = true := by
  have ordered : 1 ≤ count := UInt64.le_iff_toNat_le.mpr (by change 1 ≤ _; omega)
  have isCount : count - 1 + 1 = count := UInt64.sub_add_cancel count 1
  let ahead (n : Nat) (rng : TFastRng) := Live rng ∧ GivesRemote home count (rng.draw n)
  have start (rng : TFastRng) (live : Live rng) : ∃ n, ahead n rng := by
    rcases exists_givesRemote live several isInt with ⟨n, remote⟩
    exact ⟨n, live, remote⟩
  refine Yields.drawUntil start ?_
  · rintro n rng ⟨live, remote⟩
    have positive : 0 < (count - 1 + 1).toNat := by
      rw [isCount]
      omega
    rcases exists_firstAccepted live positive with ⟨k, first⟩
    have drawn := toNat_drawn ordered (by omega) (rng.draw k)
    have supplier := asInt_of_small (x := 1 + valueOf (count - 1 + 1) (rng.draw k)) (by omega)
    have one : (1 : UInt64).toNat = 1 := rfl
    refine ⟨k, asInt (1 + valueOf (count - 1 + 1) (rng.draw k)), rng.after (k + 1), ?_,
      after_state_ne_zero live _, ⟨by omega, by omega⟩, ?_⟩
    · intro fuel large
      change (randomNumber 1 count fuel rng).bind (fun drawn => some (asInt drawn.1, drawn.2)) = _
      rw [randomNumber_eq positive first large]
      rfl
    · intro isHome
      have notRemote : asInt (1 + valueOf count (rng.draw k)) = home := by
        simpa [isCount] using isHome
      -- The accepted draw is not later than the remote one, and is not that one.
      rw [isCount] at first
      have notLater : ¬ n < k := fun earlier => first.rejected n earlier remote.1
      have different : k ≠ n := fun same => remote.2 (same ▸ notRemote)
      refine ⟨n - (k + 1), by omega, after_state_ne_zero live _, ?_⟩
      rw [draw_after, Nat.add_sub_of_le (by omega)]
      exact remote

theorem chooseNewOrderSupplyWarehouse_yields (isHome : 1 ≤ home ∧ home ≤ count.toNat)
    (isInt : count.toNat < 2 ^ 31) (percent cap chosen : Int) :
    Yields Live (chooseNewOrderSupplyWarehouse home count percent cap chosen) fun supplier =>
      (1 ≤ supplier ∧ supplier ≤ count.toNat) ∧
        (supplier ≠ home → count ≠ 1 ∧ ¬ (0 < cap ∧ cap ≤ chosen) ∧ 0 < percent) := by
  unfold chooseNewOrderSupplyWarehouse
  by_cases noDraw : count = 1 ∨ (0 < cap ∧ cap ≤ chosen)
  · simp only [if_pos noDraw]
    exact Yields.pure ⟨isHome, fun remote => absurd rfl remote⟩
  · simp only [if_neg noDraw]
    refine Yields.bind (randomNumber_yields (by decide) (by decide)) fun sampled inRange => ?_
    have isNumber := asInt_of_small (x := sampled)
      (by have := UInt64.le_iff_toNat_le.mp inRange.2; change _ ≤ 100 at this; omega)
    have someSample : 1 ≤ sampled.toNat := UInt64.le_iff_toNat_le.mp inRange.1
    by_cases isLocal : percent < asInt sampled
    · simp only [if_pos isLocal]
      exact Yields.pure ⟨isHome, fun remote => absurd rfl remote⟩
    · simp only [if_neg isLocal]
      have notOne : count.toNat ≠ 1 := fun same => noDraw (.inl (UInt64.toNat_inj.mp same))
      refine (remoteSupplier_yields (by omega) isInt).weaken fun supplier found => ⟨found.1, ?_⟩
      intro _
      exact ⟨fun same => noDraw (.inl same), fun reached => noDraw (.inr reached), by omega⟩

end

/-! ## All lines -/

/-- The lines that another warehouse supplies. -/
def remoteLines (home : Int) (lines : List NewOrderLine) : List NewOrderLine :=
  lines.filter (·.supplyWarehouseId ≠ home)

variable {context : TTransactionContext}

/-- What holds after each turn of the loop. -/
structure Progress (context : TTransactionContext) (state : Lines) : Prop where
  items : ∀ line ∈ state.lines, 1 ≤ line.itemId ∧ line.itemId ≤ 100000
  suppliers : ∀ line ∈ state.lines,
    1 ≤ line.supplyWarehouseId ∧ line.supplyWarehouseId ≤ context.warehouseCount.toNat
  chosen : state.remoteWarehousesChosen =
    (remoteLines (asInt context.warehouseID) state.lines).length
  capped : 0 < context.newOrderMaxRemoteWarehouses →
    state.remoteWarehousesChosen ≤ context.newOrderMaxRemoteWarehouses
  allHome : context.warehouseCount = 1 ∨ context.newOrderRemoteWarehousePercent ≤ 0 →
    state.remoteWarehousesChosen = 0
  allLocal : state.allLocal = if state.remoteWarehousesChosen = 0 then 1 else 0

theorem Progress.start (context : TTransactionContext) : Progress context ⟨[], 1, 0⟩ where
  items _ member := nomatch member
  suppliers _ member := nomatch member
  chosen := rfl
  capped positive := positive.le
  allHome _ := rfl
  allLocal := rfl

section

variable (isHome : 1 ≤ asInt context.warehouseID ∧
  asInt context.warehouseID ≤ context.warehouseCount.toNat)

include isHome

theorem orderLine_yields {state : Lines} (progress : Progress context state) :
    Yields Live (orderLine context state) fun next =>
      Progress context next ∧ next.lines.length = state.lines.length + 1 := by
  refine Yields.bind getRandomItemID_yields fun itemId isItem => ?_
  refine Yields.bind (chooseNewOrderSupplyWarehouse_yields isHome context.count_isInt
    _ _ _) fun supplier ⟨inRange, remoteOnly⟩ => ?_
  refine Yields.bind (randomNumber_yields (by decide) (by decide)) fun quantity _ => ?_
  refine Yields.pure ⟨?_, by simp⟩
  have items : ∀ line ∈ state.lines ++ [⟨itemId, supplier, asInt quantity⟩],
      1 ≤ line.itemId ∧ line.itemId ≤ 100000 :=
    List.forall_mem_append.mpr ⟨progress.items, List.forall_mem_singleton.mpr isItem⟩
  have suppliers : ∀ line ∈ state.lines ++ [⟨itemId, supplier, asInt quantity⟩],
      1 ≤ line.supplyWarehouseId ∧ line.supplyWarehouseId ≤ (context.warehouseCount.toNat : Int) :=
    List.forall_mem_append.mpr ⟨progress.suppliers, List.forall_mem_singleton.mpr inRange⟩
  have chosen := progress.chosen
  have nonneg : 0 ≤ state.remoteWarehousesChosen := by omega
  by_cases isRemote : supplier ≠ asInt context.warehouseID
  · rcases remoteOnly isRemote with ⟨several, notReached, positive⟩
    simp only [if_pos isRemote]
    have belowCap (capped : 0 < context.newOrderMaxRemoteWarehouses) :
        state.remoteWarehousesChosen + 1 ≤ context.newOrderMaxRemoteWarehouses := by omega
    refine ⟨items, suppliers, ?_, belowCap, fun none => ?_, ?_⟩
    · simp [remoteLines, isRemote, chosen]
    · rcases none with one | never
      · exact absurd one several
      · omega
    · rw [if_neg (by change state.remoteWarehousesChosen + 1 ≠ 0; omega)]
  · simp only [if_neg isRemote]
    refine ⟨items, suppliers, ?_, progress.capped, progress.allHome, progress.allLocal⟩
    simpa [remoteLines, not_not.mp isRemote] using chosen

theorem orderLines_yields (left : Nat) {state : Lines} (progress : Progress context state) :
    Yields Live (orderLines context left state) fun result =>
      Progress context result ∧ result.lines.length = state.lines.length + left := by
  induction left generalizing state with
  | zero =>
    exact Yields.pure ⟨progress, rfl⟩
  | succ left ih =>
    refine Yields.bind (orderLine_yields isHome progress) fun next ⟨nextProgress, length⟩ => ?_
    refine (ih nextProgress).weaken fun result found => ⟨found.1, ?_⟩
    rw [found.2, length]
    omega

end

/-- The properties of the inputs that are drawn. -/
structure Generated (context : TTransactionContext) (inputs : NewOrderInputs) : Prop where
  home : inputs.warehouseId = context.warehouseID.toNat
  lineCount : 5 ≤ inputs.lines.length ∧ inputs.lines.length ≤ 15
  suppliers : ∀ line ∈ inputs.lines,
    1 ≤ line.supplyWarehouseId ∧ line.supplyWarehouseId ≤ context.warehouseCount.toNat
  capped : 0 < context.newOrderMaxRemoteWarehouses →
    (remoteLines inputs.warehouseId inputs.lines).length ≤ context.newOrderMaxRemoteWarehouses
  noneRemote : context.warehouseCount = 1 ∨ context.newOrderRemoteWarehousePercent ≤ 0 →
    remoteLines inputs.warehouseId inputs.lines = []
  items : ∀ line ∈ inputs.lines,
    line.itemId = invalidItemId ∨ 1 ≤ line.itemId ∧ line.itemId ≤ 100000
  unused : ∀ line ∈ inputs.lines.dropLast, line.itemId ≠ invalidItemId
  allLocal : inputs.allLocal = 1 ↔
    ∀ line ∈ inputs.lines, line.supplyWarehouseId = inputs.warehouseId

theorem remoteLines_eq_nil_iff {home : Int} {lines : List NewOrderLine} :
    remoteLines home lines = [] ↔ ∀ line ∈ lines, line.supplyWarehouseId = home := by
  simp [remoteLines, List.filter_eq_nil_iff]

section

variable {state : Lines} {before : List NewOrderLine} {last replaced : NewOrderLine}

theorem length_remoteLines_replaced (home : Int)
    (sameSupplier : replaced.supplyWarehouseId = last.supplyWarehouseId) :
    (remoteLines home (before ++ [replaced])).length =
      (remoteLines home (before ++ [last])).length := by
  unfold remoteLines
  rw [List.filter_append, List.filter_append, List.length_append, List.length_append,
    List.filter_singleton, List.filter_singleton, sameSupplier]
  cases decide (last.supplyWarehouseId ≠ home) <;> rfl

theorem modify_concat (before : List NewOrderLine) (last : NewOrderLine)
    (change : NewOrderLine → NewOrderLine) :
    (before ++ [last]).modify before.length change = before ++ [change last] := by
  induction before with
  | nil =>
    rfl
  | cons line rest ih =>
    exact congrArg (line :: ·) ih

theorem Progress.generated (progress : Progress context state)
    (isLines : state.lines = before ++ [last])
    (sameSupplier : replaced.supplyWarehouseId = last.supplyWarehouseId)
    (item : replaced.itemId = last.itemId ∨ replaced.itemId = invalidItemId)
    (lineCount : 5 ≤ before.length + 1 ∧ before.length + 1 ≤ 15)
    (isHome : asInt context.warehouseID = context.warehouseID.toNat) {district customer : Int} :
    Generated context
      ⟨asInt context.warehouseID, district, customer, before ++ [replaced], state.allLocal⟩ := by
  rcases progress with ⟨items, suppliers, chosen, capped, allHome, allLocal⟩
  rw [isLines, List.forall_mem_append, List.forall_mem_singleton] at items suppliers
  rw [isLines, ← length_remoteLines_replaced _ sameSupplier] at chosen
  have none_iff : state.remoteWarehousesChosen = 0 ↔
      remoteLines (asInt context.warehouseID) (before ++ [replaced]) = [] := by
    rw [chosen, Int.natCast_eq_zero, List.length_eq_zero_iff]
  rw [chosen] at capped
  refine ⟨?_, ?_, ?_, ?_, ?_, ?_, ?_, ?_⟩ <;> dsimp only
  · exact isHome
  · rwa [List.length_append, List.length_singleton]
  · rw [List.forall_mem_append, List.forall_mem_singleton, sameSupplier]
    exact suppliers
  · exact capped
  · exact fun none => none_iff.mp (allHome none)
  · rw [List.forall_mem_append, List.forall_mem_singleton]
    refine ⟨fun line member => .inr (items.1 line member), ?_⟩
    rcases item with same | isInvalid
    · exact .inr (same ▸ items.2)
    · exact .inl isInvalid
  · rw [List.dropLast_concat]
    intro line member isInvalid
    have inRange := items.1 line member
    rw [isInvalid] at inRange
    exact absurd inRange.1 (by decide)
  · rw [← remoteLines_eq_nil_iff, ← none_iff, allLocal]
    split
    next none => exact iff_of_true rfl none
    next someRemote => exact iff_of_false (by decide) someRemote

end

theorem newOrderInputs_yields (isHome : 1 ≤ context.warehouseID.toNat ∧
      context.warehouseID.toNat ≤ context.warehouseCount.toNat) :
    Yields Live (newOrderInputs context) (Generated context) := by
  have isInt := context.count_isInt
  have home := asInt_of_small (x := context.warehouseID) (by omega)
  refine Yields.bind (randomNumber_yields (by decide) (by decide)) fun district _ => ?_
  refine Yields.bind (nonUniformRandom_yields (by decide) (by decide) (by decide))
    fun customer _ => ?_
  refine Yields.bind (randomNumber_yields (by decide) (by decide)) fun numItems inRange => ?_
  have atLeast : 5 ≤ numItems.toNat := UInt64.le_iff_toNat_le.mp inRange.1
  have atMost : numItems.toNat ≤ 15 := UInt64.le_iff_toNat_le.mp inRange.2
  have count : (asInt numItems).toNat = numItems.toNat := by
    rw [asInt_of_small (by omega), Int.toNat_natCast]
  rw [count]
  refine Yields.bind (orderLines_yields (by omega) _ (Progress.start context))
    fun state ⟨progress, length⟩ => ?_
  refine Yields.bind (randomNumber_yields (by decide) (by decide)) fun unused _ => ?_
  rw [List.length_nil, Nat.zero_add] at length
  have someLine : state.lines ≠ [] := by
    intro noLine
    rw [noLine, List.length_nil] at length
    omega
  have isLines := (List.dropLast_append_getLast someLine).symm
  have isBefore : state.lines.dropLast.length = numItems.toNat - 1 := by
    rw [List.length_dropLast, length]
  refine Yields.pure ?_
  by_cases isUnused : unused = 1
  · have replaced := modify_concat state.lines.dropLast (state.lines.getLast someLine)
      fun line => { line with itemId := invalidItemId }
    rw [← isLines, isBefore] at replaced
    rw [if_pos isUnused, replaced]
    exact progress.generated isLines (by rfl) (.inr (by rfl)) (by omega) home
  · rw [if_neg isUnused, isLines]
    exact progress.generated isLines (by rfl) (.inl (by rfl)) (by omega) home

/--
From every generator and for every home warehouse the inputs are drawn after
finitely many redraws, and have the properties.
-/
theorem newOrderInputs_generated (isHome : 1 ≤ context.warehouseID.toNat ∧
      context.warehouseID.toNat ≤ context.warehouseCount.toNat) {rng : TFastRng}
    (live : rng.state ≠ 0) :
    ∃ enough inputs rng',
      (∀ fuel ≥ enough, newOrderInputs context fuel rng = some (inputs, rng')) ∧
        rng'.state ≠ 0 ∧ Generated context inputs :=
  newOrderInputs_yields isHome rng live

/-- Three warehouses, of which the second is at home, with at most one remote line. -/
def threeWarehouses : TTransactionContext where
  warehouseID := 2
  warehouseCount := 3
  newOrderRemoteWarehousePercent := 100
  newOrderMaxRemoteWarehouses := 1
  count_isInt := by decide

/-- The first order from the seed 1, with three warehouses. -/
theorem newOrderInputs_generated_threeWarehouses :
    ∃ enough inputs rng', (∀ fuel ≥ enough,
        newOrderInputs threeWarehouses fuel (.ofSeed 1) = some (inputs, rng')) ∧
      rng'.state ≠ 0 ∧ Generated threeWarehouses inputs :=
  newOrderInputs_generated ⟨by decide, by decide⟩ (ofSeed_state_ne_zero 1)

end NewOrderGenerator

end PortableTpcc
