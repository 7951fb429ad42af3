import Mathlib.Data.List.Induction
import Mathlib.Data.Rat.Lemmas
import Mathlib.Data.String.Basic
import PortableTpcc.FallibleChecks

namespace PortableTpcc

/-!
# JSON values

The values of a JSON text, and reading them into typed fields as the decoder of
Go's `encoding/json` does: a member that is absent or `null` leaves the field at
its zero value, and a value of another type is an error.

How a number is read is a parameter.  Decoded into an integer field a number
keeps its value.  Decoded into an `interface{}` first and encoded again, it
passes through a `float64`.
-/

/-- A JSON value; a number is what its text denotes. -/
inductive Json where
  | null
  | bool (value : Bool)
  | num (value : ℚ)
  | str (value : String)
  | arr (elements : List Json)
  | obj (members : List (String × Json))

namespace Json

/-- The number that a word is written as. -/
def word (value : UInt64) : Json :=
  .num value.toNat

/-- A member of an object; of several with one name the last one counts. -/
def member? (members : List (String × Json)) (name : String) : Option Json :=
  members.reverse.lookup name

variable {name : String} {members : List (String × Json)}

theorem member?_append_of_forall_ne {extra : List (String × Json)}
    (others : ∀ entry ∈ extra, entry.1 ≠ name) :
    member? (members ++ extra) name = member? members name := by
  have notThere : extra.reverse.lookup name = none := by
    rw [List.lookup_eq_none_iff]
    intro entry isIn
    have differs := others entry (List.mem_reverse.mp isIn)
    simp [Ne.symm differs]
  unfold member?
  rw [List.reverse_append, List.lookup_append, notThere]
  rfl

/-- The last of several members of a name counts. -/
theorem member?_concat (members : List (String × Json)) (member : String × Json) (name : String) :
    member? (members ++ [member]) name =
      if name = member.1 then some member.2 else member? members name := by
  unfold member?
  rw [List.reverse_append, List.reverse_singleton, List.singleton_append, List.lookup_cons]
  by_cases same : name = member.1
  · simp [same]
  · rw [beq_eq_false_iff_ne.mpr same, if_neg same]

/-- A letter as the decoder compares it in the name of a field: the long `s` and the Kelvin sign are
other cases of letters. -/
def foldRune (c : Char) : Char :=
  if c.val = 0x17F then 's' else if c.val = 0x212A then 'k' else c.toLower

def foldName (name : String) : List Char :=
  name.toList.map foldRune

/-- The member of an object that is decoded into a field.  The object was encoded from a map, in the
order of the names; of several that differ in case only the last one counts. -/
def field? (members : List (String × Json)) (name : String) : Option Json :=
  (members.foldl (fun found member =>
      if foldName member.1 = name.toList ∧ ∀ other ∈ found, other.1 ≤ member.1 then some member
      else found)
    none).map (·.2)

/-- No member has the name of the field in another case. -/
def PlainField (members : List (String × Json)) (name : String) : Prop :=
  ∀ member ∈ members, foldName member.1 = name.toList → member.1 = name

theorem plainField_of_folded
    (folded : ∀ key ∈ members.map (·.1), foldName key = key.toList) :
    PlainField members name := by
  intro member isMember isName
  exact String.ext ((folded _ (List.mem_map_of_mem isMember)).symm.trans isName)

/-- A name in lower case is looked up as it is written. -/
theorem field?_eq_member? (plain : PlainField members name)
    (isFolded : foldName name = name.toList) :
    field? members name = member? members name := by
  have each : ∀ list, PlainField list name →
      list.foldl (fun found member =>
          if foldName member.1 = name.toList ∧ ∀ other ∈ found, other.1 ≤ member.1 then some member
          else found)
        none = (member? list name).map (name, ·) := by
    intro list plain
    induction list using List.reverseRecOn with
    | nil => rfl
    | append_singleton front last ih =>
      have before := ih fun member isIn => plain member (List.mem_append_left _ isIn)
      rw [List.foldl_append, before, member?_concat, List.foldl_cons, List.foldl_nil]
      by_cases same : name = last.1
      · have latest : ∀ other ∈ (member? front name).map (name, ·), other.1 ≤ last.1 := by
          intro other isOther
          obtain ⟨value, -, rfl⟩ := Option.map_eq_some_iff.mp (Option.mem_def.mp isOther)
          exact same.le
        rw [if_pos ⟨same ▸ isFolded, latest⟩, if_pos same, same]
        rfl
      · rw [if_neg fun taken => same (plain last (by simp) taken.1).symm, if_neg same]
  rw [field?, each members plain]
  cases member? members name <;> rfl

/-- The error of the decoder on a value of the wrong type. -/
def typeError (wanted : String) : String :=
  s!"json: cannot unmarshal value into Go value of type {wanted}"

/-- Read a number as an unsigned 64-bit integer. -/
def asUint64 (number : ℚ → ℚ) (value : ℚ) : Except String UInt64 :=
  let read := number value
  if read.den = 1 ∧ 0 ≤ read.num ∧ read.num < 2 ^ 64 then
    .ok (UInt64.ofNat read.num.toNat)
  else
    .error (typeError "uint64")

theorem asUint64_of_eq {number : ℚ → ℚ} {value : ℚ} {word : UInt64}
    (reads : number value = word.toNat) : asUint64 number value = .ok word := by
  have bound := word.toNat_lt
  unfold asUint64
  simp only [reads, Rat.den_natCast, Rat.num_natCast]
  rw [if_pos ⟨trivial, by omega, by omega⟩]
  simp

/-- Decode a string field. -/
def stringField (members : List (String × Json)) (name : String) : Except String String :=
  match field? members name with
  | none | some .null => .ok ""
  | some (.str value) => .ok value
  | some _ => .error (typeError "string")

/-- Decode a field that points to an unsigned integer. -/
def uintPointerField (number : ℚ → ℚ) (members : List (String × Json))
    (name : String) : Except String (Option UInt64) :=
  match field? members name with
  | none | some .null => .ok none
  | some (.num value) => some <$> asUint64 number value
  | some _ => .error (typeError "uint64")

/-- Decode an unsigned integer field. -/
def uintField (number : ℚ → ℚ) (members : List (String × Json))
    (name : String) : Except String UInt64 :=
  (·.getD 0) <$> uintPointerField number members name

/-- Decode an element of an array of unsigned integers. -/
def uintElement (number : ℚ → ℚ) : Json → Except String UInt64
  | .null => .ok 0
  | .num value => asUint64 number value
  | _ => .error (typeError "uint64")

/-- Decode a field with an array of unsigned integers. -/
def uintsField (number : ℚ → ℚ) (members : List (String × Json))
    (name : String) : Except String (List UInt64) :=
  match field? members name with
  | none | some .null => .ok []
  | some (.arr elements) => elements.mapM (uintElement number)
  | some _ => .error (typeError "[]uint64")

/-- Decode a field with an object of arbitrary values. -/
def membersField (members : List (String × Json)) (name : String) :
    Except String (List (String × Json)) :=
  match field? members name with
  | none | some .null => .ok []
  | some (.obj inner) => .ok inner
  | some _ => .error (typeError "map")

end Json

end PortableTpcc
