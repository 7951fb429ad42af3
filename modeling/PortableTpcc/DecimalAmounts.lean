import PortableTpcc.DecimalDigits
import PortableTpcc.FallibleChecks
import PortableTpcc.SignedWords
import Mathlib.Data.List.DropRight
import Mathlib.Data.List.TakeWhile

namespace PortableTpcc

/-!
# Amounts as decimal numbers

`money.h` writes and reads amounts of money with two decimal places and rates
with four.  A text is a list of characters, one for each byte.  In `Parse` an `int64_t` is an
integer, and an operation that overflows, which C++ leaves undefined, is a failure.
-/

namespace Amount

/-! ## `Parse` -/

/-- How `Parse` can fail: `std::invalid_argument`, or an overflow. -/
inductive Failure where
  | thrown (message : String)
  | overflow
deriving Repr, DecidableEq

/-- The result of an operation on `int64_t`. -/
def checked (n : Int) : Except Failure Int :=
  if -2 ^ 63 ≤ n ∧ n < 2 ^ 63 then .ok n else .error .overflow

/-- `value * 10 + (text[i] - '0')`. -/
def appendDigit (value : Int) (c : Char) : Except Failure Int := do
  let tenfold ← checked (value * 10)
  checked (tenfold + (c.toNat - '0'.toNat : Nat))

/-- The loop over the digits before the point: the number and the text behind it. -/
def readDigits (value : Int) : List Char → Except Failure (Int × List Char)
  | [] => .ok (value, [])
  | c :: rest =>
    if isDigit c then do readDigits (← appendDigit value c) rest else .ok (value, c :: rest)

/--
The loop over the decimal places: the number, how many places are missing, and
the text behind it.
-/
def readPlaces : Nat → Int → List Char → Except Failure (Int × Nat × List Char)
  | 0, value, text => .ok (value, 0, text)
  | missing + 1, value, [] => .ok (value, missing + 1, [])
  | missing + 1, value, c :: rest =>
    if isDigit c then do
      readPlaces missing (← appendDigit value c) rest
    else
      .ok (value, missing + 1, c :: rest)

/-- `while (digits < places) minor *= 10`. -/
def scaleUp : Nat → Int → Except Failure Int
  | 0, value => .ok value
  | missing + 1, value => do scaleUp missing (← checked (value * 10))

/-- The sign: whether it is a minus, and the text behind it. -/
def readSign : List Char → Bool × List Char
  | '-' :: rest => (true, rest)
  | '+' :: rest => (false, rest)
  | text => (false, text)

/-- The part from the point on; digits beyond the scale are skipped. -/
def readFraction (places : Nat) : List Char → Except Failure (Int × List Char)
  | '.' :: rest => do
    let (minor, missing, rest) ← readPlaces places 0 rest
    return (← scaleUp missing minor, rest.dropWhile isDigit)
  | text => .ok (0, text)

/-- `Parse` of the class for amounts of a kind, with its places and its `Scale`. -/
def parse (kind : String) (places : Nat) (scale : Int) (text : List Char) :
    Except Failure Int64 :=
  if text = [] then
    .error (.thrown s!"empty {kind} string")
  else do
    let (negative, unsigned) := readSign text
    let (major, rest) ← readDigits 0 unsigned
    let (minor, rest) ← readFraction places rest
    if rest ≠ [] then
      .error (.thrown s!"invalid {kind} string: {String.ofList text}")
    else
      let units ← checked ((← checked (major * scale)) + minor)
      Int64.ofInt <$> if negative then checked (-units) else .ok units

/-- `TMoney::Parse`. -/
def parseMoney : List Char → Except Failure Int64 :=
  parse "money" 2 100

/-- `TRate::Parse`. -/
def parseRate : List Char → Except Failure Int64 :=
  parse "rate" 4 10000

/-! ## `ToString` -/

/-- `std::to_string`. -/
def toText (value : Int64) : List Char :=
  if value < 0 then
    '-' :: Nat.toDigits 10 value.toInt.natAbs
  else
    Nat.toDigits 10 value.toInt.natAbs

/-- The sign of the text and the number behind it. -/
def splitSign (units : Int64) : List Char × Int64 :=
  if units < 0 then (['-'], -units) else ([], units)

/-- `TMoney::ToString`. -/
def moneyToString (units : Int64) : List Char :=
  let (sign, v) := splitSign units
  let major := v / 100
  let minor := v % 100
  sign ++ toText major ++ ['.'] ++ (if minor < 10 then ['0'] else []) ++ toText minor

/-- `TRate::ToString`. -/
def rateToString (units : Int64) : List Char :=
  let (sign, v) := splitSign units
  let major := v / 10000
  let minor := v % 10000
  let frac := toText minor
  sign ++ toText major ++ ['.'] ++ List.replicate (4 - frac.length) '0' ++ frac

/-! ## Decimal numbers -/

/-- A sign, digits, and perhaps a point and more digits; there may be no digit at all. -/
structure Spelling where
  sign : Option Bool
  whole : List Char
  fraction : Option (List Char)
  whole_digits : ∀ c ∈ whole, isDigit c = true
  fraction_digits : ∀ digits ∈ fraction, ∀ c ∈ digits, isDigit c = true

namespace Spelling

/-- The sign as it is written; `some true` is a minus. -/
def signText : Option Bool → List Char
  | none => []
  | some true => ['-']
  | some false => ['+']

/-- The point and the digits behind it. -/
def fractionText : Option (List Char) → List Char
  | none => []
  | some digits => '.' :: digits

/-- The text. -/
def text (s : Spelling) : List Char :=
  signText s.sign ++ (s.whole ++ fractionText s.fraction)

/-- The digits behind the point. -/
def decimals (s : Spelling) : List Char :=
  s.fraction.getD []

/-- A number has a digit. -/
def HasDigit (s : Spelling) : Prop :=
  s.whole ++ s.decimals ≠ []

/-- The magnitude in units of `10 ^ -places`, rounded towards zero. -/
def magnitude (s : Spelling) (places : Nat) : Nat :=
  Nat.ofDigitChars 10 (s.whole ++ s.decimals) 0 * 10 ^ places / 10 ^ s.decimals.length

/-- The value in units of `10 ^ -places`, rounded towards zero. -/
def value (s : Spelling) (places : Nat) : Int :=
  if s.sign = some true then -(s.magnitude places) else s.magnitude places

end Spelling

/-! ## What the loops read -/

theorem checked_natCast (n : Nat) :
    checked n = if n < 2 ^ 63 then .ok (n : Int) else .error .overflow := by
  unfold checked
  by_cases small : n < 2 ^ 63
  · rw [if_pos ⟨by omega, by exact_mod_cast small⟩, if_pos small]
  · rw [if_neg (fun fits => small (by exact_mod_cast fits.2)), if_neg small]

theorem appendDigit_natCast (n : Nat) (c : Char) :
    appendDigit n c = checked (10 * n + (c.toNat - '0'.toNat) : Nat) := by
  have tenfold : (n : Int) * 10 = (n * 10 : Nat) := by push_cast; rfl
  rw [appendDigit, tenfold, checked_natCast]
  split
  · rw [ok_bind]
    congr 1
    push_cast
    ring
  · rw [checked_natCast, if_neg (by omega)]
    rfl

/-- The number is read with all the digits in front, unless it overflows. -/
theorem readDigits_natCast {n : Nat} (small : n < 2 ^ 63) (text : List Char) :
    readDigits n text =
      if Nat.ofDigitChars 10 (text.takeWhile isDigit) n < 2 ^ 63 then
        .ok ((Nat.ofDigitChars 10 (text.takeWhile isDigit) n : Int), text.dropWhile isDigit)
      else
        .error .overflow := by
  induction text generalizing n with
  | nil =>
    rw [readDigits, List.takeWhile_nil]
    exact (if_pos small).symm
  | cons c rest ih =>
    rw [readDigits]
    by_cases digit : isDigit c = true
    · rw [if_pos digit, List.takeWhile_cons_of_pos digit, List.dropWhile_cons_of_pos digit,
        appendDigit_natCast, checked_natCast, Nat.ofDigitChars_cons]
      by_cases fits : 10 * n + (c.toNat - '0'.toNat) < 2 ^ 63
      · rw [if_pos fits]
        exact ih fits
      · have more := le_ofDigitChars (rest.takeWhile isDigit) (10 * n + (c.toNat - '0'.toNat))
        rw [if_neg fits, if_neg (by omega)]
        rfl
    · rw [if_neg digit, List.takeWhile_cons_of_neg digit, List.dropWhile_cons_of_neg digit]
      exact (if_pos small).symm

theorem scaleUp_natCast {missing n : Nat} (small : n * 10 ^ missing < 2 ^ 63) :
    scaleUp missing n = .ok ((n * 10 ^ missing : Nat) : Int) := by
  induction missing generalizing n with
  | zero =>
    rw [pow_zero, Nat.mul_one]
    rfl
  | succ missing ih =>
    have step : n * 10 * 10 ^ missing = n * 10 ^ (missing + 1) := by ring
    have fits : n * 10 < 2 ^ 63 :=
      (Nat.le_mul_of_pos_right _ (Nat.pow_pos (by decide))).trans_lt (step ▸ small)
    have tenfold : (n : Int) * 10 = (n * 10 : Nat) := by push_cast; rfl
    rw [scaleUp, tenfold, checked_natCast, if_pos fits, ok_bind, ih (step ▸ small), step]

/-- The decimals are cut off or filled up with zeros; they are too few to overflow. -/
theorem readPlaces_natCast {places n : Nat} (few : (n + 1) * 10 ^ places ≤ 10 ^ 18)
    (text : List Char) :
    readPlaces places n text = .ok
      ((Nat.ofDigitChars 10 ((text.takeWhile isDigit).take places) n : Int),
        places - (text.takeWhile isDigit).length,
        text.drop ((text.takeWhile isDigit).take places).length) := by
  induction text generalizing places n with
  | nil =>
    cases places <;> rfl
  | cons c rest ih =>
    cases places with
    | zero =>
      simp [readPlaces, Nat.ofDigitChars]
    | succ places =>
      rw [readPlaces]
      by_cases digit : isDigit c = true
      · have nine := digit_le_nine digit
        have few' : (10 * n + (c.toNat - '0'.toNat) + 1) * 10 ^ places ≤ 10 ^ 18 := by
          refine le_trans ?_ few
          rw [pow_succ, Nat.mul_comm (10 ^ places), ← Nat.mul_assoc]
          exact Nat.mul_le_mul_right _ (by omega)
        have fits : 10 * n + (c.toNat - '0'.toNat) < 2 ^ 63 := by
          have atLeast := Nat.le_mul_of_pos_right (10 * n + (c.toNat - '0'.toNat) + 1)
            (Nat.pow_pos (n := places) (by decide : 0 < 10))
          omega
        rw [if_pos digit, List.takeWhile_cons_of_pos digit, appendDigit_natCast, checked_natCast,
          if_pos fits, ok_bind, ih few', List.take_succ_cons, Nat.ofDigitChars_cons,
          List.length_cons, List.length_cons, List.drop_succ_cons, Nat.add_sub_add_right]
      · rw [if_neg digit, List.takeWhile_cons_of_neg digit]
        rfl

/-- The magnitude from the digits before the point and the decimals that are kept. -/
theorem magnitude_eq (whole : List Char) {decimals : List Char}
    (areDigits : ∀ c ∈ decimals, isDigit c = true) (places : Nat) :
    Nat.ofDigitChars 10 (whole ++ decimals) 0 * 10 ^ places / 10 ^ decimals.length =
      Nat.ofDigitChars 10 whole 0 * 10 ^ places +
        Nat.ofDigitChars 10 (decimals.take places) 0 * 10 ^ (places - decimals.length) := by
  have positive : 0 < 10 ^ decimals.length := Nat.pow_pos (by decide)
  rw [Nat.ofDigitChars_append, Nat.ofDigitChars_eq_ofDigitChars_zero, Nat.add_mul, Nat.mul_assoc,
    Nat.mul_add_div positive]
  congr 1
  rcases Nat.le_total decimals.length places with short | long
  · have split : 10 ^ places = 10 ^ (places - decimals.length) * 10 ^ decimals.length := by
      rw [← pow_add, Nat.sub_add_cancel short]
    rw [List.take_of_length_le short, split, ← Nat.mul_assoc, Nat.mul_div_cancel _ positive]
  · -- The digits that are cut off are less than one unit.
    have split : 10 ^ decimals.length = 10 ^ (decimals.length - places) * 10 ^ places := by
      rw [← pow_add, Nat.sub_add_cancel long]
    have cut : Nat.ofDigitChars 10 (decimals.drop places) 0 < 10 ^ (decimals.length - places) := by
      rw [← List.length_drop]
      exact ofDigitChars_lt fun c member => areDigits c (List.mem_of_mem_drop member)
    have parts : Nat.ofDigitChars 10 decimals 0 =
        10 ^ (decimals.length - places) * Nat.ofDigitChars 10 (decimals.take places) 0 +
          Nat.ofDigitChars 10 (decimals.drop places) 0 := by
      rw [← List.length_drop, ← Nat.ofDigitChars_eq_ofDigitChars_zero, ← Nat.ofDigitChars_append,
        List.take_append_drop]
    rw [split, Nat.mul_div_mul_right _ _ (Nat.pow_pos (by decide)), parts,
      Nat.mul_add_div (Nat.pow_pos (by decide)), Nat.div_eq_of_lt cut, Nat.sub_eq_zero_of_le long,
      pow_zero, Nat.mul_one, Nat.add_zero]

/-! ## Reading a number -/

theorem readSign_append (sign : Option Bool) {rest : List Char}
    (unsigned : ∀ c ∈ rest.head?, c ≠ '-' ∧ c ≠ '+') :
    readSign (Spelling.signText sign ++ rest) = (sign == some true, rest) := by
  match sign with
  | some true => rfl
  | some false => rfl
  | none =>
    cases rest with
    | nil =>
      rfl
    | cons c later =>
      have first := unsigned c rfl
      simp [Spelling.signText, readSign, first.1, first.2]

theorem readSign_eq (text : List Char) :
    ∃ sign, text = Spelling.signText sign ++ (readSign text).2 := by
  unfold readSign
  split
  · exact ⟨some true, rfl⟩
  · exact ⟨some false, rfl⟩
  · exact ⟨none, rfl⟩

theorem readFraction_point {places : Nat} (few : places ≤ 18) (rest : List Char) :
    readFraction places ('.' :: rest) = .ok (((Nat.ofDigitChars 10
        ((rest.takeWhile isDigit).take places) 0 *
          10 ^ (places - (rest.takeWhile isDigit).length) : Nat) : Int),
            rest.dropWhile isDigit) := by
  have areDigits : ∀ c ∈ rest.takeWhile isDigit, isDigit c = true :=
    List.all_eq_true.mp List.all_takeWhile
  have power : 10 ^ places ≤ 10 ^ 18 := Nat.pow_le_pow_right (by decide) few
  have fits : Nat.ofDigitChars 10 ((rest.takeWhile isDigit).take places) 0 *
      10 ^ (places - (rest.takeWhile isDigit).length) < 2 ^ 63 := by
    have taken : ∀ c ∈ (rest.takeWhile isDigit).take places, isDigit c = true :=
      fun c member => areDigits c (List.mem_of_mem_take member)
    have small := ofDigitChars_lt taken
    have product := Nat.mul_lt_mul_of_pos_right small
      (Nat.pow_pos (n := places - (rest.takeWhile isDigit).length) (by decide : 0 < 10))
    rw [List.length_take, ← pow_add, show min places (rest.takeWhile isDigit).length +
      (places - (rest.takeWhile isDigit).length) = places by omega] at product
    omega
  have skipped : (rest.drop ((rest.takeWhile isDigit).take places).length).dropWhile isDigit =
      rest.dropWhile isDigit := by
    generalize isTaken : (rest.takeWhile isDigit).take places = taken
    have whole :
        rest = taken ++ ((rest.takeWhile isDigit).drop places ++ rest.dropWhile isDigit) := by
      rw [← List.append_assoc, ← isTaken, List.take_append_drop, List.takeWhile_append_dropWhile]
    conv_lhs => rw [whole, List.drop_left]
    rw [List.dropWhile_append_of_pos fun c member => areDigits c (List.mem_of_mem_drop member),
      List.dropWhile_idempotent]
  rw [readFraction, show (0 : Int) = (0 : Nat) from rfl, readPlaces_natCast (by omega), ok_bind]
  dsimp only
  rw [scaleUp_natCast fits, ok_bind, skipped]
  rfl

/-- The digits in front are as in the spelling. -/
theorem split_spelling (s : Spelling) :
    (s.whole ++ Spelling.fractionText s.fraction).takeWhile isDigit = s.whole ∧
      (s.whole ++ Spelling.fractionText s.fraction).dropWhile isDigit =
        Spelling.fractionText s.fraction := by
  rw [List.takeWhile_append_of_pos s.whole_digits, List.dropWhile_append_of_pos s.whole_digits]
  cases s.fraction with
  | none => simp [Spelling.fractionText]
  | some digits => simp [Spelling.fractionText, isDigit]

theorem readSign_text (s : Spelling) :
    readSign s.text = (s.sign == some true, s.whole ++ Spelling.fractionText s.fraction) := by
  refine readSign_append s.sign fun c isHead => ?_
  cases whole : s.whole with
  | nil =>
    cases fraction : s.fraction with
    | none =>
      simp [whole, fraction, Spelling.fractionText] at isHead
    | some digits =>
      obtain rfl : '.' = c := by simpa [whole, fraction, Spelling.fractionText] using isHead
      decide
  | cons first rest =>
    obtain rfl : first = c := by simpa [whole] using isHead
    have digit := s.whole_digits first (by simp [whole])
    constructor <;> rintro rfl <;> exact absurd digit (by decide)

theorem decimals_digits (s : Spelling) : ∀ c ∈ s.decimals, isDigit c = true := by
  intro c member
  cases fraction : s.fraction with
  | none => simp [Spelling.decimals, fraction] at member
  | some digits =>
    exact s.fraction_digits digits fraction c (by simpa [Spelling.decimals, fraction] using member)

theorem readFraction_text {places : Nat} (few : places ≤ 18) (s : Spelling) :
    readFraction places (Spelling.fractionText s.fraction) =
      .ok (((Nat.ofDigitChars 10 (s.decimals.take places) 0 *
        10 ^ (places - s.decimals.length) : Nat) : Int), []) := by
  have areDigits := decimals_digits s
  unfold Spelling.decimals at areDigits ⊢
  cases fraction : s.fraction with
  | none =>
    simp [Spelling.fractionText, readFraction, Nat.ofDigitChars]
  | some digits =>
    rw [fraction, Option.getD_some] at areDigits
    rw [Spelling.fractionText, readFraction_point few, List.takeWhile_eq_self_iff.mpr areDigits,
      List.dropWhile_eq_nil_iff.mpr areDigits]
    rfl

/-- The number that the digits behind the sign spell. -/
def leading (text : List Char) : Nat :=
  Nat.ofDigitChars 10 ((readSign text).2.takeWhile isDigit) 0

section

variable {kind : String} {places : Nat} (few : places ≤ 18)

include few

/-- A text of the form is read, if its magnitude does not overflow. -/
theorem parse_text (s : Spelling) (notEmpty : s.text ≠ []) :
    parse kind places (10 ^ places : Nat) s.text =
      if s.magnitude places < 2 ^ 63 then .ok (Int64.ofInt (s.value places))
      else .error .overflow := by
  have magnitude : s.magnitude places = Nat.ofDigitChars 10 s.whole 0 * 10 ^ places +
      Nat.ofDigitChars 10 (s.decimals.take places) 0 * 10 ^ (places - s.decimals.length) :=
    magnitude_eq s.whole (decimals_digits s) places
  have more : Nat.ofDigitChars 10 s.whole 0 ≤ Nat.ofDigitChars 10 s.whole 0 * 10 ^ places :=
    Nat.le_mul_of_pos_right _ (Nat.pow_pos (by decide))
  have product : (Nat.ofDigitChars 10 s.whole 0 : Int) * (10 ^ places : Nat) =
      (Nat.ofDigitChars 10 s.whole 0 * 10 ^ places : Nat) := by
    push_cast
    rfl
  rw [parse, if_neg notEmpty, readSign_text]
  dsimp only
  rw [show (0 : Int) = (0 : Nat) from rfl, readDigits_natCast (by decide), (split_spelling s).1,
    (split_spelling s).2]
  by_cases fits : s.magnitude places < 2 ^ 63
  · rw [if_pos (by omega), ok_bind]
    dsimp only
    rw [readFraction_text few, ok_bind]
    dsimp only
    rw [if_neg (not_not_intro rfl), product, checked_natCast, if_pos (by omega), ok_bind,
      ← Nat.cast_add, ← magnitude, checked_natCast, if_pos fits, ok_bind, if_pos fits]
    unfold Spelling.value
    by_cases negative : s.sign = some true
    · rw [if_pos (beq_iff_eq.mpr negative), if_pos negative, checked,
        if_pos (by omega :
          -2 ^ 63 ≤ -(s.magnitude places : Int) ∧ -(s.magnitude places : Int) < 2 ^ 63)]
      rfl
    · rw [if_neg (mt beq_iff_eq.mp negative), if_neg negative]
      rfl
  · rw [if_neg fits]
    split
    · rw [ok_bind]
      dsimp only
      rw [readFraction_text few, ok_bind]
      dsimp only
      rw [if_neg (not_not_intro rfl), product, checked_natCast]
      split
      · rw [ok_bind, ← Nat.cast_add, ← magnitude, checked_natCast, if_neg fits]
        rfl
      · rfl
    · rfl

/-- A text of another form is refused, if the digits in front of it do not overflow. -/
theorem parse_of_not_spelling {text : List Char} (notEmpty : text ≠ [])
    (noSpelling : ¬ ∃ s : Spelling, s.text = text) :
    parse kind places (10 ^ places : Nat) text =
      if leading text < 2 ^ 63 then
        .error (.thrown s!"invalid {kind} string: {String.ofList text}")
      else
        .error .overflow := by
  obtain ⟨sign, signed⟩ := readSign_eq text
  have areDigits : ∀ c ∈ (readSign text).2.takeWhile isDigit, isDigit c = true :=
    List.all_eq_true.mp List.all_takeWhile
  have noFraction : ∀ fraction : Option (List Char),
      (∀ digits ∈ fraction, ∀ c ∈ digits, isDigit c = true) →
      (readSign text).2.dropWhile isDigit ≠ Spelling.fractionText fraction := by
    intro fraction fractionDigits rest
    refine noSpelling ⟨⟨sign, _, fraction, areDigits, fractionDigits⟩, ?_⟩
    rw [Spelling.text, ← rest, List.takeWhile_append_dropWhile, ← signed]
  obtain ⟨minor, rest, isFraction, notAll⟩ : ∃ minor rest,
      readFraction places ((readSign text).2.dropWhile isDigit) = .ok (minor, rest) ∧
        rest ≠ [] := by
    generalize (readSign text).2.dropWhile isDigit = remaining at noFraction
    by_cases point : ∃ digits, remaining = '.' :: digits
    · obtain ⟨digits, rfl⟩ := point
      refine ⟨_, _, readFraction_point few digits, fun all => ?_⟩
      refine noFraction (some digits) ?_ rfl
      rintro _ ⟨⟩
      exact List.dropWhile_eq_nil_iff.mp all
    · refine ⟨0, remaining, ?_, noFraction none (by simp)⟩
      unfold readFraction
      split
      · exact absurd ⟨_, rfl⟩ point
      · rfl
  rw [parse, if_neg notEmpty]
  dsimp only
  rw [show (0 : Int) = (0 : Nat) from rfl, readDigits_natCast (by decide)]
  unfold leading
  split
  · rw [ok_bind]
    dsimp only
    rw [isFraction, ok_bind]
    exact if_pos notAll
  · rfl

end

/-! ## When a text is read as what it says -/

/--
A text is refused with an exception, or it is a number with a digit and what is returned is its
value, rounded towards zero to the scale.
-/
def Sound (parse : List Char → Except Failure Int64) (places : Nat) (text : List Char) : Prop :=
  (∃ message, parse text = .error (.thrown message)) ∨
    ∃ (s : Spelling) (units : Int64), s.text = text ∧ s.HasDigit ∧ parse text = .ok units ∧
      units.toInt = s.value places

/-- A text is empty, or it is not of the form of a number and the digits in front fit, or it has a
digit and its value fits. -/
def Readable (places : Nat) (text : List Char) : Prop :=
  text = [] ∨ (leading text < 2 ^ 63 ∧ ¬ ∃ s : Spelling, s.text = text) ∨
    ∃ s : Spelling, s.text = text ∧ s.HasDigit ∧ -2 ^ 63 < s.value places ∧ s.value places < 2 ^ 63

theorem value_fits_iff (s : Spelling) (places : Nat) :
    -2 ^ 63 < s.value places ∧ s.value places < 2 ^ 63 ↔ s.magnitude places < 2 ^ 63 := by
  unfold Spelling.value
  split <;> omega

theorem Spelling.HasDigit.text_ne_nil {s : Spelling} (hasDigit : s.HasDigit) : s.text ≠ [] := by
  intro empty
  simp only [Spelling.text, List.append_eq_nil_iff] at empty
  obtain ⟨_, noWhole, noFraction⟩ := empty
  cases fraction : s.fraction with
  | none => exact hasDigit (by simp [noWhole, Spelling.decimals, fraction])
  | some digits => simp [fraction, Spelling.fractionText] at noFraction

theorem sound_iff_readable {kind : String} {places : Nat} (few : places ≤ 18) (text : List Char) :
    Sound (parse kind places (10 ^ places : Nat)) places text ↔ Readable places text := by
  constructor
  · rintro (⟨message, refused⟩ | ⟨s, units, rfl, hasDigit, parsed, isValue⟩)
    · by_cases empty : text = []
      · exact .inl empty
      by_cases isForm : ∃ s : Spelling, s.text = text
      · obtain ⟨s, rfl⟩ := isForm
        rw [parse_text few s empty] at refused
        split at refused <;> cases refused
      · rw [parse_of_not_spelling few empty isForm] at refused
        split at refused
        · rename_i fits
          exact .inr (.inl ⟨fits, isForm⟩)
        · cases refused
    · rw [parse_text few s hasDigit.text_ne_nil] at parsed
      split at parsed
      · rename_i fits
        exact .inr (.inr ⟨s, rfl, hasDigit, (value_fits_iff s places).mpr fits⟩)
      · cases parsed
  · rintro (rfl | ⟨fits, noForm⟩ | ⟨s, rfl, hasDigit, fits⟩)
    · exact .inl ⟨_, rfl⟩
    · by_cases empty : text = []
      · exact .inl ⟨_, by rw [empty]; rfl⟩
      · exact .inl ⟨_, (parse_of_not_spelling few empty noForm).trans (if_pos fits)⟩
    · have small := (value_fits_iff s places).mp fits
      exact .inr ⟨s, _, rfl, hasDigit,
        (parse_text few s hasDigit.text_ne_nil).trans (if_pos small),
        toInt_ofInt_eq_iff.mpr ⟨fits.1.le, fits.2⟩⟩

/-- Texts of money and of rates are read as what they say when they have a digit and fit, and are
refused when they are no numbers and the digits in front fit. -/
theorem parse_sound_iff (text : List Char) :
    (Sound parseMoney 2 text ↔ Readable 2 text) ∧ (Sound parseRate 4 text ↔ Readable 4 text) :=
  ⟨sound_iff_readable (by decide) text, sound_iff_readable (by decide) text⟩

theorem Spelling.HasDigit.exists_mem {s : Spelling} (hasDigit : s.HasDigit) :
    ∃ c ∈ s.text, isDigit c = true := by
  rcases List.exists_mem_of_ne_nil _ hasDigit with ⟨c, member⟩
  rcases List.mem_append.mp member with inWhole | inDecimals
  · exact ⟨c, by simp [text, inWhole], s.whole_digits c inWhole⟩
  · cases fraction : s.fraction with
    | none =>
      simp [decimals, fraction] at inDecimals
    | some digits =>
      have inDigits : c ∈ digits := by simpa [decimals, fraction] using inDecimals
      exact ⟨c, by simp [text, fraction, fractionText, inDigits],
        s.fraction_digits digits fraction c inDigits⟩

/-- A sign alone is read as zero. -/
theorem sign_read_as_zero :
    (parseMoney ['-'] = .ok 0 ∧ ¬ Sound parseMoney 2 ['-']) ∧
      parseRate ['-'] = .ok 0 ∧ ¬ Sound parseRate 4 ['-'] := by
  have noNumber : ∀ s : Spelling, s.text = ['-'] → ¬ s.HasDigit := by
    intro s isSign hasDigit
    rcases hasDigit.exists_mem with ⟨c, member, digit⟩
    rw [isSign, List.mem_singleton] at member
    subst member
    exact absurd digit (by decide)
  refine ⟨⟨rfl, ?_⟩, rfl, ?_⟩
  · rintro (⟨error, refused⟩ | ⟨s, _, isSign, hasDigit, _⟩)
    · cases refused
    · exact noNumber s isSign hasDigit
  · rintro (⟨error, refused⟩ | ⟨s, _, isSign, hasDigit, _⟩)
    · cases refused
    · exact noNumber s isSign hasDigit

/-! ## Writing and reading back -/

/-- The decimals of a number of units, filled up in front. -/
def paddedText (places n : Nat) : List Char :=
  List.replicate (places - (Nat.toDigits 10 n).length) '0' ++ Nat.toDigits 10 n

theorem isDigit_paddedText {places n : Nat} {c : Char} (member : c ∈ paddedText places n) :
    isDigit c = true := by
  rcases List.mem_append.mp member with padding | inDigits
  · rw [(List.mem_replicate.mp padding).2]
    rfl
  · exact isDigit_toDigits inDigits

theorem length_paddedText {places n : Nat} (positive : 0 < places) (small : n < 10 ^ places) :
    (paddedText places n).length = places := by
  have short := (Nat.length_toDigits_le_iff (by decide : 1 < 10) positive).mpr small
  rw [paddedText, List.length_append, List.length_replicate]
  omega

theorem ofDigitChars_paddedText (places n : Nat) :
    Nat.ofDigitChars 10 (paddedText places n) 0 = n := by
  rw [paddedText, Nat.ofDigitChars_append, Nat.ofDigitChars_replicate_zero, Nat.mul_zero,
    Nat.ofDigitChars_toDigits (by decide) (by decide)]

/-- The text of an amount, with more decimals behind it. -/
def written (places : Nat) (units : Int64) (extra : List Char) : List Char :=
  (splitSign units).1 ++ (Nat.toDigits 10 (units.toInt.natAbs / 10 ^ places) ++
    '.' :: (paddedText places (units.toInt.natAbs % 10 ^ places) ++ extra))

section

variable {units : Int64} {extra : List Char}

/-- What was written is read, whatever decimals follow. -/
theorem parse_written {kind : String} {places : Nat} (positive : 0 < places) (few : places ≤ 18)
    (notMin : units ≠ Int64.minValue) (areDigits : ∀ c ∈ extra, isDigit c = true) :
    parse kind places (10 ^ places : Nat) (written places units extra) = .ok units := by
  have small : units.toInt.natAbs % 10 ^ places < 10 ^ places :=
    Nat.mod_lt _ (Nat.pow_pos (by decide))
  let s : Spelling :=
    { sign := if units < 0 then some true else none
      whole := Nat.toDigits 10 (units.toInt.natAbs / 10 ^ places)
      fraction := some (paddedText places (units.toInt.natAbs % 10 ^ places) ++ extra)
      whole_digits := fun c member => isDigit_toDigits member
      fraction_digits := by
        rintro _ ⟨⟩ c member
        rcases List.mem_append.mp member with inPadded | inExtra
        · exact isDigit_paddedText inPadded
        · exact areDigits c inExtra }
  have sign : Spelling.signText s.sign = (splitSign units).1 := by
    unfold splitSign
    by_cases negative : units < 0
    · simp only [s, if_pos negative, Spelling.signText]
    · simp only [s, if_neg negative, Spelling.signText]
  have shape : s.text = written places units extra := by
    rw [Spelling.text, sign]
    rfl
  have length := length_paddedText positive small
  have magnitude : s.magnitude places = units.toInt.natAbs := by
    have inDecimals : ∀ c ∈ s.decimals, isDigit c = true := s.fraction_digits _ rfl
    have kept : s.decimals.take places = paddedText places (units.toInt.natAbs % 10 ^ places) :=
      List.take_left' length
    have enough : places - s.decimals.length = 0 := by
      change places - (_ ++ extra).length = 0
      rw [List.length_append, length]
      omega
    rw [Spelling.magnitude, magnitude_eq s.whole inDecimals, kept, enough, ofDigitChars_paddedText,
      Nat.ofDigitChars_toDigits (by decide) (by decide), pow_zero, Nat.mul_one]
    exact Nat.div_add_mod' _ _
  have isValue : s.value places = units.toInt := by
    rw [Spelling.value, magnitude]
    by_cases negative : units < 0
    · have below := Int64.lt_iff_toInt_lt.mp negative
      rw [Int64.toInt_zero] at below
      rw [if_pos (if_pos negative)]
      omega
    · have notBelow := mt Int64.lt_iff_toInt_lt.mpr negative
      rw [Int64.toInt_zero] at notBelow
      rw [if_neg (by simp [s, negative])]
      omega
  have fits : s.magnitude places < 2 ^ 63 := by
    have low := Int64.le_toInt units
    have high := Int64.toInt_lt units
    have notLowest : units.toInt ≠ -2 ^ 63 := fun lowest => notMin (Int64.toInt_inj.mp lowest)
    omega
  rw [← shape, parse_text few s (by rw [shape, written]; simp), if_pos fits, isValue,
    Int64.ofInt_toInt]

/-- `-v` does not overflow. -/
theorem toInt_splitSign (notMin : units ≠ Int64.minValue) :
    (splitSign units).2.toInt = units.toInt.natAbs := by
  have low := Int64.le_toInt units
  have high := Int64.toInt_lt units
  have notLowest : units.toInt ≠ -2 ^ 63 := fun lowest => notMin (Int64.toInt_inj.mp lowest)
  unfold splitSign
  split
  next negative =>
    have below := Int64.lt_iff_toInt_lt.mp negative
    rw [Int64.toInt_zero] at below
    rw [Int64.toInt_neg, Int.bmod_eq_of_le (by omega) (by omega)]
    omega
  next notNegative =>
    have notBelow := mt Int64.lt_iff_toInt_lt.mpr notNegative
    rw [Int64.toInt_zero] at notBelow
    dsimp only
    omega

theorem toText_of_toInt {value : Int64} {n : Nat} (isNat : value.toInt = n) :
    toText value = Nat.toDigits 10 n := by
  have notNegative : ¬ value < 0 := by
    rw [Int64.lt_iff_toInt_lt, Int64.toInt_zero]
    omega
  rw [toText, if_neg notNegative, isNat, Int.natAbs_natCast]

section

variable {v scale : Int64} {n d : Nat} (isNat : v.toInt = n) (isScale : scale.toInt = d)

include isNat isScale

theorem toInt_div_of_toInt : (v / scale).toInt = (n / d : Nat) := by
  have notMin : v ≠ Int64.minValue := by
    rintro rfl
    have lowest : Int64.minValue.toInt = -2 ^ 63 := by decide
    omega
  rw [Int64.toInt_div_of_ne_left _ _ notMin, isNat, isScale]
  rfl

theorem toInt_mod_of_toInt : (v % scale).toInt = (n % d : Nat) := by
  rw [Int64.toInt_mod, isNat, isScale]
  rfl

end

theorem moneyToString_append (notMin : units ≠ Int64.minValue) :
    moneyToString units ++ extra = written 2 units extra := by
  have isNat := toInt_splitSign notMin
  have scale : (100 : Int64).toInt = (10 ^ 2 : Nat) := by decide
  have minor := toInt_mod_of_toInt isNat scale
  have ten : (10 : Int64).toInt = 10 := by decide
  -- A single digit is filled up with one zero.
  have padded : (if (splitSign units).2 % 100 < 10 then ['0'] else []) ++
      toText ((splitSign units).2 % 100) = paddedText 2 (units.toInt.natAbs % 10 ^ 2) := by
    rw [toText_of_toInt minor, paddedText]
    congr 1
    by_cases single : units.toInt.natAbs % 10 ^ 2 < 10
    · rw [if_pos (by rw [Int64.lt_iff_toInt_lt, minor, ten]; omega), Nat.toDigits_of_lt_base single]
      rfl
    · have long := mt (Nat.length_toDigits_le_iff (by decide : 1 < 10) Nat.one_pos).mp single
      rw [if_neg (by rw [Int64.lt_iff_toInt_lt, minor, ten]; omega),
        Nat.sub_eq_zero_of_le (by omega)]
      rfl
  unfold moneyToString written
  dsimp only
  rw [toText_of_toInt (toInt_div_of_toInt isNat scale), List.append_assoc _ (ite _ _ _), padded]
  simp only [List.append_assoc, List.cons_append, List.nil_append]

theorem rateToString_append (notMin : units ≠ Int64.minValue) :
    rateToString units ++ extra = written 4 units extra := by
  have isNat := toInt_splitSign notMin
  have scale : (10000 : Int64).toInt = (10 ^ 4 : Nat) := by decide
  have minor := toInt_mod_of_toInt isNat scale
  unfold rateToString written paddedText
  dsimp only
  rw [toText_of_toInt (toInt_div_of_toInt isNat scale), toText_of_toInt minor]
  simp only [List.append_assoc, List.cons_append, List.nil_append]

/--
Every amount but the smallest is read back as it was written, also from a
column with more decimals.
-/
theorem parse_toString (notMin : units ≠ Int64.minValue)
    (areDigits : ∀ c ∈ extra, isDigit c = true) :
    parseMoney (moneyToString units ++ extra) = .ok units ∧
      parseRate (rateToString units ++ extra) = .ok units := by
  rw [moneyToString_append notMin, rateToString_append notMin]
  exact ⟨parse_written (by decide) (by decide) notMin areDigits,
    parse_written (by decide) (by decide) notMin areDigits⟩

/-- Minus seven cents, from a column with four decimals. -/
theorem parse_toString_cents :
    (-7 : Int64) ≠ Int64.minValue ∧ parseMoney (moneyToString (-7) ++ ['0', '0']) = .ok (-7) ∧
      parseRate (rateToString (-7) ++ ['0', '0']) = .ok (-7) := by
  have notMin : (-7 : Int64) ≠ Int64.minValue := by decide
  exact ⟨notMin, parse_toString notMin (List.all_eq_true.mp rfl)⟩

end

end Amount

end PortableTpcc
