import PortableTpcc.SignedWords

namespace PortableTpcc

/-!
# Pacing with credit

A terminal sleeps before and after a transaction.  `pacing_credit.h` keeps what
it overslept as a credit, up to a cap, and grants shorter sleeps for it.
Durations are counted in milliseconds, and clocks in nanoseconds.
-/

namespace Pacing

/-- `DefaultPacingCreditCap`. -/
def defaultPacingCreditCap : Int64 := 36000

/-- `ApplyPacingCredit`: the sleep that is granted and the credit that is left. -/
def applyPacingCredit (credit requested : Int64) : Int64 × Int64 :=
  if requested ≤ 0 then
    (0, credit)
  else if credit ≤ 0 then
    (requested, credit)
  else
    let use := if requested < credit then requested else credit
    (requested - use, credit - use)

/-- `duration_cast<milliseconds>`, of a difference of two times. -/
def toMilliseconds (elapsed : Int64) : Int64 :=
  elapsed / 1000000

/-- `AccruePacingOvershoot`, when the clock has advanced by `elapsed` nanoseconds. -/
def accruePacingOvershoot (credit maxCredit elapsed requestedSleep : Int64) : Int64 :=
  let requestedSleep := if requestedSleep < 0 then 0 else requestedSleep
  let actual := toMilliseconds elapsed
  if actual ≤ requestedSleep then
    credit
  else
    let credit := credit + (actual - requestedSleep)
    if maxCredit < credit then maxCredit else credit

/-- A keying or think time of `TTerminal::Run`: what is requested and what the clock measures. -/
structure Wait where
  requested : Int64
  elapsed : Int64
deriving Repr, DecidableEq

/-- The sleep that is measured. -/
def Wait.measured (wait : Wait) : Int64 :=
  toMilliseconds wait.elapsed

/-- The sleep that is granted. -/
def Wait.granted (wait : Wait) (credit : Int64) : Int64 :=
  (applyPacingCredit credit wait.requested).1

/-- The credit that is left while the terminal sleeps. -/
def Wait.left (wait : Wait) (credit : Int64) : Int64 :=
  (applyPacingCredit credit wait.requested).2

/-- The credit behind a keying or think time. -/
def Wait.creditAfter (wait : Wait) (credit : Int64) : Int64 :=
  let paced := applyPacingCredit credit wait.requested
  accruePacingOvershoot paced.2 defaultPacingCreditCap wait.elapsed paced.1

/-- The credit behind all keying and think times of a terminal. -/
def creditAfter (credit : Int64) (waits : List Wait) : Int64 :=
  waits.foldl (fun credit wait => wait.creditAfter credit) credit

/-- No request is negative, and no sleep is shorter than the one that was granted. -/
def Slept (credit : Int64) : List Wait → Prop
  | [] => True
  | wait :: later =>
    (0 ≤ wait.requested.toInt ∧ (wait.granted credit).toInt ≤ wait.measured.toInt) ∧
      Slept (wait.creditAfter credit) later

/-- The credit never had to be cut off. -/
def NeverCapped (credit : Int64) : List Wait → Prop
  | [] => True
  | wait :: later =>
    (wait.left credit).toInt + (wait.measured.toInt - (wait.granted credit).toInt) ≤
        defaultPacingCreditCap.toInt ∧
      NeverCapped (wait.creditAfter credit) later

/-- The delays that were requested. -/
def totalRequested (waits : List Wait) : Int :=
  (waits.map fun wait => wait.requested.toInt).sum

/-- The sleeps that were measured. -/
def totalMeasured (waits : List Wait) : Int :=
  (waits.map fun wait => wait.measured.toInt).sum

theorem toInt_cap : defaultPacingCreditCap.toInt = 36000 := by
  decide

/-- A clock that counts nanoseconds cannot measure more. -/
theorem toInt_toMilliseconds_le (elapsed : Int64) :
    (toMilliseconds elapsed).toInt ≤ 2 ^ 63 / 1000000 := by
  have low := Int64.le_toInt elapsed
  have high := Int64.toInt_lt elapsed
  have million : (1000000 : Int64).toInt = 1000000 := by decide
  have bounds : -(2 ^ 63) ≤ elapsed.toInt.tdiv 1000000 ∧
      elapsed.toInt.tdiv 1000000 ≤ 2 ^ 63 / 1000000 := by
    have sign : Int.sign 1000000 = 1 := rfl
    rw [Int.tdiv_eq_ediv, sign]
    split <;> omega
  rw [toMilliseconds, Int64.toInt_div, million, Int.bmod_eq_of_le (by omega) (by omega)]
  exact bounds.2

/-- The numbers that a wait works on. -/
structure Paces (credit requested : Int64) (sleep left : Int64) : Prop where
  sleep_nonneg : 0 ≤ sleep.toInt
  left_nonneg : 0 ≤ left.toInt
  left_le : left.toInt ≤ credit.toInt
  /-- What the sleep is short of the request is taken from the credit. -/
  balance : sleep.toInt + credit.toInt = requested.toInt + left.toInt

theorem applyPacingCredit_paces {credit requested : Int64} (hasCredit : 0 ≤ credit.toInt)
    (isRequest : 0 ≤ requested.toInt) :
    Paces credit requested (applyPacingCredit credit requested).1
      (applyPacingCredit credit requested).2 := by
  have creditHigh := Int64.toInt_lt credit
  have requestHigh := Int64.toInt_lt requested
  unfold applyPacingCredit
  split
  next noRequest =>
    have atMost := Int64.le_iff_toInt_le.mp noRequest
    rw [Int64.toInt_zero] at atMost
    constructor <;> simp only [Int64.toInt_zero] <;> omega
  next =>
    split
    next noCredit =>
      have atMost := Int64.le_iff_toInt_le.mp noCredit
      rw [Int64.toInt_zero] at atMost
      constructor <;> dsimp only <;> omega
    next =>
      -- The smaller one of both is used up.
      dsimp only
      split
      next less =>
        have order := Int64.lt_iff_toInt_lt.mp less
        have sleep := toInt_sub_of_fits (a := requested) (b := requested) (by omega) (by omega)
        have left := toInt_sub_of_fits (a := credit) (b := requested) (by omega) (by omega)
        constructor <;> omega
      next notLess =>
        have order := mt Int64.lt_iff_toInt_lt.mpr notLess
        have sleep := toInt_sub_of_fits (a := requested) (b := credit) (by omega) (by omega)
        have left := toInt_sub_of_fits (a := credit) (b := credit) (by omega) (by omega)
        constructor <;> omega

/-- The overshoot is added to the credit, up to the cap. -/
theorem toInt_accruePacingOvershoot {credit elapsed sleep : Int64} (hasCredit : 0 ≤ credit.toInt)
    (capped : credit.toInt ≤ 36000) (isSleep : 0 ≤ sleep.toInt)
    (slept : sleep.toInt ≤ (toMilliseconds elapsed).toInt) :
    (accruePacingOvershoot credit defaultPacingCreditCap elapsed sleep).toInt =
      min (credit.toInt + ((toMilliseconds elapsed).toInt - sleep.toInt)) 36000 := by
  have measured := toInt_toMilliseconds_le elapsed
  have notNegative : ¬ sleep < 0 := by
    rw [Int64.lt_iff_toInt_lt, Int64.toInt_zero]
    omega
  have overshoot : (toMilliseconds elapsed - sleep).toInt =
      (toMilliseconds elapsed).toInt - sleep.toInt :=
    toInt_sub_of_fits (by omega) (by omega)
  have sum : (credit + (toMilliseconds elapsed - sleep)).toInt =
      credit.toInt + ((toMilliseconds elapsed).toInt - sleep.toInt) := by
    rw [toInt_add_of_fits (by omega) (by omega), overshoot]
  unfold accruePacingOvershoot
  dsimp only
  rw [if_neg notNegative]
  split
  next notLonger =>
    have same := Int64.le_iff_toInt_le.mp notLonger
    omega
  next =>
    split
    next cut =>
      have above := Int64.lt_iff_toInt_lt.mp cut
      rw [sum, toInt_cap] at above
      rw [toInt_cap]
      omega
    next kept =>
      have notAbove := mt Int64.lt_iff_toInt_lt.mpr kept
      rw [sum, toInt_cap] at notAbove
      rw [sum]
      omega

variable {credit : Int64} {wait : Wait}

/-- The credit is between zero and its cap. -/
def InRange (credit : Int64) : Prop :=
  0 ≤ credit.toInt ∧ credit.toInt ≤ defaultPacingCreditCap.toInt

/-- One wait: it measures at least what was requested and what the credit has grown by. -/
theorem Wait.creditAfter_spec (inRange : InRange credit) (isRequest : 0 ≤ wait.requested.toInt)
    (slept : (wait.granted credit).toInt ≤ wait.measured.toInt) :
    InRange (wait.creditAfter credit) ∧ wait.requested.toInt + (wait.creditAfter credit).toInt ≤
        wait.measured.toInt + credit.toInt ∧
      ((wait.left credit).toInt + (wait.measured.toInt - (wait.granted credit).toInt) ≤
          defaultPacingCreditCap.toInt → wait.requested.toInt + (wait.creditAfter credit).toInt =
          wait.measured.toInt + credit.toInt) := by
  have paces := applyPacingCredit_paces inRange.1 isRequest
  have sleepNonneg := paces.sleep_nonneg
  have leftNonneg := paces.left_nonneg
  have leftLe := paces.left_le
  have balance := paces.balance
  unfold InRange at inRange ⊢
  rw [toInt_cap] at inRange ⊢
  have after := toInt_accruePacingOvershoot leftNonneg (by omega) sleepNonneg slept
  change (wait.creditAfter credit).toInt = _ at after
  unfold Wait.left Wait.granted Wait.measured at *
  omega

theorem totalRequested_cons (wait : Wait) (later : List Wait) :
    totalRequested (wait :: later) = wait.requested.toInt + totalRequested later := by
  rw [totalRequested, List.map_cons, List.sum_cons, totalRequested]

theorem totalMeasured_cons (wait : Wait) (later : List Wait) :
    totalMeasured (wait :: later) = wait.measured.toInt + totalMeasured later := by
  rw [totalMeasured, List.map_cons, List.sum_cons, totalMeasured]

theorem creditAfter_spec {waits : List Wait} (inRange : InRange credit)
    (slept : Slept credit waits) :
    InRange (creditAfter credit waits) ∧ totalRequested waits + (creditAfter credit waits).toInt ≤
        totalMeasured waits + credit.toInt ∧ (NeverCapped credit waits →
        totalRequested waits + (creditAfter credit waits).toInt =
          totalMeasured waits + credit.toInt) := by
  induction waits generalizing credit with
  | nil =>
    have unchanged : creditAfter credit [] = credit := List.foldl_nil ..
    have nothing : totalRequested [] = totalMeasured [] := by
      rw [totalRequested, totalMeasured, List.map_nil, List.map_nil]
    rw [unchanged, nothing]
    exact ⟨inRange, le_refl _, fun _ => Eq.refl _⟩
  | cons wait later ih =>
    rcases slept with ⟨⟨isRequest, notShorter⟩, laterSlept⟩
    rcases Wait.creditAfter_spec inRange isRequest notShorter with ⟨nextInRange, atLeast, exactly⟩
    rcases ih nextInRange laterSlept with ⟨lastInRange, laterAtLeast, laterExactly⟩
    have step : creditAfter credit (wait :: later) = creditAfter (wait.creditAfter credit) later :=
      List.foldl_cons ..
    rw [totalRequested_cons, totalMeasured_cons, step]
    refine ⟨lastInRange, by omega, ?_⟩
    rintro ⟨notCapped, laterNotCapped⟩
    have first := exactly notCapped
    have others := laterExactly laterNotCapped
    omega

theorem Slept.of_append {earlier later : List Wait} (slept : Slept credit (earlier ++ later)) :
    Slept credit earlier := by
  induction earlier generalizing credit with
  | nil =>
    trivial
  | cons wait rest ih =>
    exact ⟨slept.1, ih slept.2⟩

/--
A terminal that starts without credit never runs ahead: its credit stays in
range, and it has slept what was requested and its credit, or longer if the
credit was cut off.
-/
theorem terminal_never_ahead (waits : List Wait) (slept : Slept 0 waits) :
    (∀ earlier later, waits = earlier ++ later → InRange (creditAfter 0 earlier)) ∧
      totalRequested waits + (creditAfter 0 waits).toInt ≤ totalMeasured waits ∧
      (NeverCapped 0 waits →
        totalMeasured waits = totalRequested waits + (creditAfter 0 waits).toInt) := by
  have noCredit : InRange 0 := by
    rw [InRange, toInt_cap, Int64.toInt_zero]
    decide
  rcases creditAfter_spec noCredit slept with ⟨_, atLeast, exactly⟩
  rw [Int64.toInt_zero, add_zero] at atLeast exactly
  refine ⟨?_, atLeast, fun notCapped => (exactly notCapped).symm⟩
  rintro earlier later rfl
  exact (creditAfter_spec noCredit slept.of_append).1

/-- Half a second is overslept once, and the next keying time is shorter by it. -/
theorem terminal_never_ahead_overslept :
    Slept 0 [⟨18000, 18500000000⟩, ⟨18000, 17500000000⟩] ∧
      totalMeasured [⟨18000, 18500000000⟩, ⟨18000, 17500000000⟩] =
        totalRequested [⟨18000, 18500000000⟩, ⟨18000, 17500000000⟩] +
          (creditAfter 0 [⟨18000, 18500000000⟩, ⟨18000, 17500000000⟩]).toInt := by
  have slept : Slept 0 [⟨18000, 18500000000⟩, ⟨18000, 17500000000⟩] := by
    simp only [Slept]
    decide
  refine ⟨slept, (terminal_never_ahead _ slept).2.2 ?_⟩
  simp only [NeverCapped]
  decide

end Pacing

end PortableTpcc
