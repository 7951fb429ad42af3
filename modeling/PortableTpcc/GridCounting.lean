import Mathlib

namespace PortableTpcc

/-!
# Lists of keys that fill a finite set

A list fills a finite set when it has each of its members once.  The numbers
from one on, each one larger than the one before, fill an interval.
-/

/-- The keys are the members of the grid, each once. -/
structure Fills {Key : Type} (keys : List Key) (grid : Finset Key) : Prop where
  distinct : keys.Nodup
  mem_iff : ∀ key, key ∈ keys ↔ key ∈ grid

/-- The numbers from `low` on. -/
def numbersFrom (low : Int) (count : Nat) : List Int :=
  (List.range count).map fun (index : Nat) => low + index

theorem numbersFrom_nodup (low : Int) (count : Nat) : (numbersFrom low count).Nodup := by
  apply List.Nodup.map _ List.nodup_range
  intro first second same
  simpa using same

/-- The numbers fill the interval, each once. -/
theorem numbersFrom_fills {low high : Int} {count : Nat} (isHigh : high = low + count - 1) :
    Fills (numbersFrom low count) (Finset.Icc low high) := by
  refine ⟨numbersFrom_nodup low count, ?_⟩
  intro key
  simp only [numbersFrom, List.mem_map, List.mem_range, Finset.mem_Icc]
  constructor
  · rintro ⟨index, below, rfl⟩
    omega
  · intro inside
    exact ⟨(key - low).toNat, by omega, by omega⟩

end PortableTpcc
