import Mathlib.Data.Nat.ModEq

namespace PortableTpcc

/-!
# A window in a ring of slots

A ring of `n` slots holds part of a growing sequence: the item at position `i`
of the sequence is in slot `i % n`.  Positions are counted without bound; the
counters of a program wrap around at `2 ^ 64`, and still tell two positions
apart that are close to each other.
-/

section

variable {T : Type} {slots items : List T} {first last : Nat}

/-- The slots hold the items from `first` on and before `last`. -/
def HoldsWindow (slots items : List T) (first last : Nat) : Prop :=
  ∀ i, first ≤ i → i < last → slots[i % slots.length]? = items[i]?

/-- Positions less than a round apart have different slots. -/
theorem mod_ne_mod {n i j : Nat} (before : i < j) (near : j < i + n) : i % n ≠ j % n := by
  intro same
  have divides : n ∣ j - i := (Nat.modEq_iff_dvd' before.le).mp same
  have small := Nat.le_of_dvd (by omega) divides
  omega

namespace HoldsWindow

/-- A slot outside of the window may be written. -/
theorem set (holds : HoldsWindow slots items first last) {position : Nat}
    (apart : ∀ i, first ≤ i → i < last → i % slots.length ≠ position % slots.length) (x : T) :
    HoldsWindow (slots.set (position % slots.length) x) items first last := by
  intro i above below
  rw [List.length_set, List.getElem?_set_ne (apart i above below).symm]
  exact holds i above below

/-- The window moves past its first items. -/
theorem drop (holds : HoldsWindow slots items first last) {later : Nat} (forward : first ≤ later) :
    HoldsWindow slots items later last :=
  fun i above below => holds i (forward.trans above) below

/-- The window takes up the item that was written behind it. -/
theorem push (holds : HoldsWindow slots items first items.length) {x : T}
    (written : slots[items.length % slots.length]? = some x) :
    HoldsWindow slots (items ++ [x]) first (items ++ [x]).length := by
  intro i above below
  rw [List.length_append, List.length_singleton] at below
  by_cases isLast : i = items.length
  · rw [isLast, written, List.getElem?_concat_length]
  · have inside : i < items.length := by omega
    rw [List.getElem?_append_left inside]
    exact holds i above inside

end HoldsWindow

end

/-- Counters that are close are equal if their positions are. -/
theorem ofNat_eq_ofNat_iff {i j : Nat} (before : i ≤ j) (near : j < i + 2 ^ 64) :
    UInt64.ofNat i = UInt64.ofNat j ↔ i = j := by
  constructor
  · intro same
    by_contra different
    have remainders := congrArg UInt64.toNat same
    rw [UInt64.toNat_ofNat', UInt64.toNat_ofNat'] at remainders
    exact mod_ne_mod (by omega) near remainders
  · exact congrArg UInt64.ofNat

/-- The distance of two counters is a number that is known to be small. -/
theorem ofNat_sub_eq_iff {i j : Nat} {distance : UInt64} (before : i ≤ j) (near : j < i + 2 ^ 64) :
    UInt64.ofNat j - UInt64.ofNat i = distance ↔ j = i + distance.toNat := by
  rw [← UInt64.ofNat_sub before, ← UInt64.toNat_inj, UInt64.toNat_ofNat',
    Nat.mod_eq_of_lt (by omega)]
  omega

/-- A mask of low bits takes the remainder. -/
theorem toNat_ofNat_and_mask {k : Nat} (small : k ≤ 64) {mask : UInt64}
    (isMask : mask.toNat = 2 ^ k - 1) (i : Nat) : (UInt64.ofNat i &&& mask).toNat = i % 2 ^ k := by
  rw [UInt64.toNat_and, isMask, Nat.and_two_pow_sub_one_eq_mod,
    UInt64.toNat_ofNat', Nat.mod_mod_of_dvd _ (Nat.pow_dvd_pow 2 small)]

end PortableTpcc
