import Mathlib.Algebra.Order.Group.Multiset
import Mathlib.Data.Multiset.Lattice

namespace PortableTpcc

namespace PriorityQueue

/-!
# Priority queues

A priority queue is a multiset of items with a key: items are added, an item
of the least key is taken, and the least key is looked at.  The calls of a
client are answered one after another; an implementation is right when each
answer is one that the multiset of the items it stores permits.
-/

variable {Item Key : Type}

/-- A call together with its answer. -/
inductive Event (Item Key : Type) where
  | added (item : Item)
  | taken (item : Item)
  /-- Nothing was there to be taken. -/
  | refused
  /-- The least key was looked at. -/
  | looked (key : Key)

/-- The items that were added. -/
def addedItems (events : List (Event Item Key)) : Multiset Item :=
  events.filterMap fun
    | .added item => some item
    | _ => none

/-- The items that were taken. -/
def takenItems (events : List (Event Item Key)) : Multiset Item :=
  events.filterMap fun
    | .taken item => some item
    | _ => none

section

variable [LinearOrder Key] [OrderTop Key] (key : Item → Key)

/-- The answers that a multiset of items permits, and what they leave of it. -/
def Permits (before : Multiset Item) :
    Event Item Key → Multiset Item → Prop
  | .added item, after => after = item ::ₘ before
  | .taken item, after =>
    before = item ::ₘ after ∧ ∀ other ∈ before, key item ≤ key other
  | .refused, after => before = 0 ∧ after = 0
  | .looked least, after =>
    least = (before.map key).inf ∧ after = before

/-- A client's calls, answered one after another. -/
inductive Serves : Multiset Item → List (Event Item Key) → Multiset Item → Prop
  | nil (items : Multiset Item) : Serves items [] items
  | cons {before between after : Multiset Item} {event : Event Item Key}
      {rest : List (Event Item Key)} (first : Permits key before event between)
      (others : Serves between rest after) : Serves before (event :: rest) after

variable {key}

/-- The least key is the key of an item that comes before all others. -/
theorem inf_eq_of_least {item : Item} {items : Multiset Item} (isIn : item ∈ items)
    (least : ∀ other ∈ items, key item ≤ key other) : (items.map key).inf = key item := by
  apply le_antisymm
  · exact Multiset.inf_le (Multiset.mem_map_of_mem key isIn)
  · apply Multiset.le_inf.mpr
    intro each isKey
    obtain ⟨other, isOther, rfl⟩ := Multiset.mem_map.mp isKey
    exact least other isOther

/-- What is stored in the end is what was added and not taken. -/
theorem Serves.balance {before after : Multiset Item} {events : List (Event Item Key)}
    (serves : Serves key before events after) :
    after + takenItems events = before + addedItems events := by
  induction serves with
  | nil items =>
    rfl
  | cons first others ih =>
    rename_i before between after event rest
    cases event with
    | added item =>
      have between : between = item ::ₘ before := first
      have taken : takenItems (.added item :: rest) = takenItems rest := rfl
      have added : addedItems (.added item :: rest) = item ::ₘ addedItems rest := rfl
      rw [taken, added, ih, between, Multiset.cons_add, Multiset.add_cons]
    | taken item =>
      have before := first.1
      have taken : takenItems (.taken item :: rest) = item ::ₘ takenItems rest := rfl
      have added : addedItems (.taken item :: rest) = addedItems rest := rfl
      rw [taken, added, Multiset.add_cons, ih, before, Multiset.cons_add]
    | refused =>
      have same : between = before := first.2.trans first.1.symm
      rw [same] at ih
      exact ih
    | looked least =>
      have same : between = before := first.2
      rw [same] at ih
      exact ih

end

end PriorityQueue

end PortableTpcc
