import Mathlib.Data.List.Lex
import Mathlib.Tactic.SplitIfs

namespace PortableTpcc

namespace TextEncodings

/-!
# The order of encoded texts

Texts are compared by their UTF-8 bytes or by their UTF-16 code units.  The two orders differ where
a character between the surrogates and U+FFFF meets one beyond: it has the smaller code point and
the greater code unit.
-/

/-- The bytes of a character. -/
def utf8Text (c : Char) : List Nat :=
  (String.utf8EncodeChar c).map UInt8.toNat

/-- The code units of a character. -/
def utf16Text (c : Char) : List Nat :=
  if c.toNat < 0x10000 then
    [c.toNat]
  else
    [0xD800 + (c.toNat - 0x10000) / 0x400, 0xDC00 + (c.toNat - 0x10000) % 0x400]

/-- The first character comes before the second one in bytes and behind it in code units. -/
def CharsCross (c c' : Char) : Prop :=
  0xE000 ≤ c.toNat ∧ c.toNat < 0x10000 ∧ 0x10000 ≤ c'.toNat

/-- The first characters in which the texts differ are such two. -/
def Crossed (text text' : List Char) : Prop :=
  ∃ shared c c' rest rest', text = shared ++ c :: rest ∧ text' = shared ++ c' :: rest' ∧
    CharsCross c c'

theorem toNat_valid (c : Char) : c.toNat < 0xD800 ∨ (0xDFFF < c.toNat ∧ c.toNat < 0x110000) :=
  c.valid

/-- Four digits of base 64 are compared one after the other. -/
theorem digits_lt {v v' : Nat} (less : v < v') :
    v / 262144 < v' / 262144 ∨ v / 262144 = v' / 262144 ∧
    (v / 4096 % 64 < v' / 4096 % 64 ∨ v / 4096 % 64 = v' / 4096 % 64 ∧
      (v / 64 % 64 < v' / 64 % 64 ∨ v / 64 % 64 = v' / 64 % 64 ∧ v % 64 < v' % 64)) := by
  omega

/-- UTF-8 keeps the order of the code points. -/
theorem utf8Text_lt {c c' : Char} (less : c.toNat < c'.toNat) (rest rest' : List Nat) :
    utf8Text c ++ rest <
      utf8Text c' ++ rest' := by
  have small : c.toNat < 0x110000 := (toNat_valid c).elim (by omega) And.right
  have small' : c'.toNat < 0x110000 := (toNat_valid c').elim (by omega) And.right
  have digits := digits_lt less
  change c.val.toNat < _ at small
  change c'.val.toNat < _ at small'
  change c.val.toNat < c'.val.toNat at less
  change c.val.toNat / _ < c'.val.toNat / _ ∨ _ at digits
  unfold utf8Text String.utf8EncodeChar
  dsimp only
  generalize c.val.toNat = v at *
  generalize c'.val.toNat = v' at *
  have last (n : Nat) : (n % 64 + 128) % 2 ^ 8 = n % 64 + 128 := by omega
  have first : (v / 262144 % 8 + 240) % 2 ^ 8 = v / 262144 + 240 := by omega
  have first' : (v' / 262144 % 8 + 240) % 2 ^ 8 = v' / 262144 + 240 := by omega
  split_ifs
  all_goals
    simp only [List.map_cons, List.map_nil, List.cons_append, List.nil_append,
      List.cons_lt_cons_iff, UInt8.toNat_ofNat', last, first, first', Nat.add_lt_add_iff_right,
      Nat.add_right_cancel_iff]
    omega

theorem utf8Text_ne_nil (c : Char) : utf8Text c ≠ [] := by
  unfold utf8Text String.utf8EncodeChar
  dsimp only
  split_ifs <;> simp

theorem utf16Text_lt {c c' : Char} (less : c.toNat < c'.toNat) (notCrossed : ¬ CharsCross c c')
    (rest rest' : List Nat) : utf16Text c ++ rest < utf16Text c' ++ rest' := by
  have valid := toNat_valid c
  unfold CharsCross at notCrossed
  unfold utf16Text
  split_ifs
  all_goals
    simp only [List.cons_append, List.nil_append, List.cons_lt_cons_iff]
    omega

theorem utf16Text_gt {c c' : Char} (cross : CharsCross c c') (rest rest' : List Nat) :
    utf16Text c' ++ rest' < utf16Text c ++ rest := by
  have valid := toNat_valid c'
  obtain ⟨low, high, beyond⟩ := cross
  unfold utf16Text
  rw [if_pos high, if_neg (by omega)]
  simp only [List.cons_append, List.nil_append, List.cons_lt_cons_iff]
  omega

/-- One text begins with the other one, or there is a first difference. -/
theorem prefix_or_differ (text text' : List Char) : text <+: text' ∨ text' <+: text ∨
    ∃ shared c c' rest rest', text = shared ++ c :: rest ∧ text' = shared ++ c' :: rest' ∧
      c ≠ c' := by
  induction text generalizing text' with
  | nil => exact .inl (List.nil_prefix)
  | cons c rest ih =>
    cases text' with
    | nil => exact .inr (.inl List.nil_prefix)
    | cons c' rest' =>
      by_cases same : c = c'
      · subst same
        rcases ih rest' with first | second | ⟨shared, d, d', more, more', rfl, rfl, differ⟩
        · exact .inl (List.cons_prefix_cons.mpr ⟨rfl, first⟩)
        · exact .inr (.inl (List.cons_prefix_cons.mpr ⟨rfl, second⟩))
        · exact .inr (.inr ⟨c :: shared, d, d', more, more', rfl, rfl, differ⟩)
      · exact .inr (.inr ⟨[], c, c', rest, rest', rfl, rfl, same⟩)

section

variable {code : Char → List Nat}

theorem flatMap_le_of_isPrefix {text text' : List Char} (isPrefix : text <+: text') :
    text.flatMap code ≤ text'.flatMap code := by
  obtain ⟨rest, rfl⟩ := isPrefix
  rw [List.flatMap_append]
  exact not_lt.mp (List.not_lt.mpr (List.le_append_left (α := Nat)))

theorem flatMap_lt {c c' : Char} (less : ∀ rest rest', code c ++ rest < code c' ++ rest')
    (shared rest rest' : List Char) :
    (shared ++ c :: rest).flatMap code < (shared ++ c' :: rest').flatMap code := by
  rw [List.flatMap_append, List.flatMap_append, List.flatMap_cons, List.flatMap_cons]
  exact List.append_left_lt (less _ _)

/-- An encoding in which no character's code is the beginning of another one's. -/
theorem flatMap_injective (nonempty : ∀ c, code c ≠ [])
    (differs : ∀ c c', c ≠ c' → ∀ rest rest', code c ++ rest ≠ code c' ++ rest') :
    Function.Injective fun text : List Char => text.flatMap code := by
  intro text text' same
  dsimp only at same
  induction text generalizing text' with
  | nil =>
    cases text' with
    | nil => rfl
    | cons c' rest' => simp [nonempty] at same
  | cons c rest ih =>
    cases text' with
    | nil => simp [nonempty] at same
    | cons c' rest' =>
      rw [List.flatMap_cons, List.flatMap_cons] at same
      obtain rfl : c = c' := by
        by_contra differ
        exact differs c c' differ _ _ same
      rw [ih (List.append_cancel_left same)]

end

theorem utf16Text_differs (c c' : Char) (differ : c ≠ c') (rest rest' : List Nat) :
    utf16Text c ++ rest ≠ utf16Text c' ++ rest' := by
  have ordered : ∀ {c c' : Char} {rest rest' : List Nat}, c.toNat < c'.toNat →
      utf16Text c ++ rest ≠ utf16Text c' ++ rest' := by
    intro c c' rest rest' less
    by_cases cross : CharsCross c c'
    · exact (utf16Text_gt cross _ _).ne'
    · exact (utf16Text_lt less cross _ _).ne
  rcases Nat.lt_trichotomy c.toNat c'.toNat with less | same | greater
  · exact ordered less
  · exact absurd (Char.toNat_inj.mp same) differ
  · exact (ordered greater).symm

theorem utf16_injective : Function.Injective fun text : List Char => text.flatMap utf16Text :=
  flatMap_injective (fun c => by unfold utf16Text; split <;> simp) utf16Text_differs

/-- The texts that are in order by their bytes and not by their code units. -/
theorem crossed_iff {text text' : List Char} :
    Crossed text text' ↔ text.flatMap utf8Text ≤ text'.flatMap utf8Text ∧
      ¬ text.flatMap utf16Text ≤ text'.flatMap utf16Text := by
  constructor
  · rintro ⟨shared, c, c', rest, rest', rfl, rfl, cross⟩
    have less : c.toNat < c'.toNat := cross.2.1.trans_le cross.2.2
    exact ⟨(flatMap_lt (utf8Text_lt less) ..).le,
      not_le.mpr (flatMap_lt (fun rest rest' => utf16Text_gt cross rest' rest) ..)⟩
  · rintro ⟨bytes, units⟩
    rcases prefix_or_differ text text' with first | second | differ
    · exact absurd (flatMap_le_of_isPrefix first) units
    · have same := le_antisymm bytes (flatMap_le_of_isPrefix second)
      obtain ⟨more, rfl⟩ := second
      rw [List.flatMap_append] at same
      cases more with
      | nil => exact absurd (by rw [List.append_nil]) units
      | cons c more => simp [utf8Text_ne_nil] at same
    · obtain ⟨shared, c, c', rest, rest', rfl, rfl, differ⟩ := differ
      have less : c.toNat < c'.toNat := by
        rcases Nat.lt_trichotomy c.toNat c'.toNat with less | same | greater
        · exact less
        · exact absurd (Char.toNat_inj.mp same) differ
        · exact absurd bytes (not_le.mpr (flatMap_lt (utf8Text_lt greater) ..))
      refine ⟨shared, c, c', rest, rest', rfl, rfl, ?_⟩
      by_contra notCrossed
      exact units (flatMap_lt (utf16Text_lt less notCrossed) ..).le

end TextEncodings

end PortableTpcc
