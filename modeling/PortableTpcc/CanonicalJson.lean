import PortableTpcc.FallibleChecks
import PortableTpcc.OrderedTrees
import Mathlib.Algebra.Order.Ring.Int
import Mathlib.Data.Rat.Init
import Mathlib.Data.List.Lex

namespace PortableTpcc

/-!
# Canonical JSON

`canonical.go` writes a decoded JSON value with the members of every object in
the order of the bytes of their keys.  A string is a valid UTF-8 text.
-/

namespace Canonical

open KeyedTree

/-! ## `MarshalJSON` -/

/-- The types of `normalize` other than maps and slices of values. -/
inductive GoLeaf where
  | nil
  | bool (value : Bool)
  | int (value : Int64)
  | int64 (value : Int64)
  | float64 (value : ℚ)
  | number (text : List Char)
  | string (value : String)
  | strings (items : List String)
  | other (typeName : String)

/-- A leaf of a normalized value. -/
inductive NormalLeaf where
  | nil
  | bool (value : Bool)
  | number (text : List Char)
  | string (value : String)

/-- The verb `%d`. -/
def decimal (z : Int) : List Char :=
  if z < 0 then '-' :: Nat.toDigits 10 z.natAbs else Nat.toDigits 10 z.natAbs

/-- `int64(x)`; out of range it is the least number, as on amd64. -/
def toInt64 (x : ℚ) : Int :=
  let whole := x.num.tdiv x.den
  if -2 ^ 63 ≤ whole ∧ whole < 2 ^ 63 then whole else -2 ^ 63

/-- `normalize` of a leaf; `general` is the verb `%g`. -/
def normalizeLeaf (general : ℚ → List Char) : GoLeaf → Except String (KeyedTree String NormalLeaf)
  | .nil => .ok (.leaf .nil)
  | .bool value => .ok (.leaf (.bool value))
  | .int value => .ok (.leaf (.number (decimal value.toInt)))
  | .int64 value => .ok (.leaf (.number (decimal value.toInt)))
  | .float64 x =>
    if x = toInt64 x then
      .ok (.leaf (.number (decimal (toInt64 x))))
    else
      .ok (.leaf (.number (general x)))
  | .number text => .ok (.leaf (.number text))
  | .string value => .ok (.leaf (.string value))
  | .strings items => .ok (.arr (items.map fun item => .leaf (.string item)))
  | .other typeName => .error s!"unsupported JSON type {typeName}"

/-- `normalize`. -/
def normalize (general : ℚ → List Char) :
    KeyedTree String GoLeaf → Except String (KeyedTree String NormalLeaf) :=
  fold (normalizeLeaf general)
    (fun items => do return .arr (← items.mapM id))
    (fun members => do return .obj (← members.mapM fun member => do return (member.1, ← member.2)))

/-- `hexDigit`. -/
def hexDigit (d : Nat) : Char :=
  "0123456789abcdef".toList.getD d '0'

/-- The text of a rune in `marshalString`. -/
def escapeRune (r : Char) : List Char :=
  if r = '"' then ['\\', '"']
  else if r = '\\' then ['\\', '\\']
  else if r = '\x08' then ['\\', 'b']
  else if r = '\x0c' then ['\\', 'f']
  else if r = '\n' then ['\\', 'n']
  else if r = '\r' then ['\\', 'r']
  else if r = '\t' then ['\\', 't']
  else if r.toNat < 0x20 then
    ['\\', 'u', '0', '0', hexDigit (r.toNat >>> 4), hexDigit (r.toNat &&& 0xf)]
  else [r]

/-- `marshalString`. -/
def marshalString (s : String) : List Char :=
  '"' :: s.toList.flatMap escapeRune ++ ['"']

/-- `marshalCanonical` of a leaf. -/
def marshalLeaf : NormalLeaf → List Char
  | .nil => "null".toList
  | .bool true => "true".toList
  | .bool false => "false".toList
  | .number text => text
  | .string value => marshalString value

/-- The bytes of a key. -/
def keyBytes (key : String) : List Nat :=
  (key.toList.flatMap String.utf8EncodeChar).map UInt8.toNat

/-- The order of `sort.Strings`. -/
def ByteLe (key other : String) : Prop :=
  keyBytes key ≤ keyBytes other

instance : DecidableRel ByteLe :=
  fun key other => inferInstanceAs (Decidable (keyBytes key ≤ keyBytes other))

/-- `marshalCanonical`. -/
def marshalCanonical : KeyedTree String NormalLeaf → List Char :=
  fold marshalLeaf bracketed fun members => braced marshalString (sortByKey ByteLe members)

/-- The bytes of a text. -/
def utf8 (text : List Char) : ByteArray :=
  (String.ofList text).toByteArray

/-- `MarshalJSON`. -/
def marshalJSON (general : ℚ → List Char) (v : KeyedTree String GoLeaf) :
    Except String ByteArray := do
  let normalized ← normalize general v
  return utf8 (marshalCanonical normalized)

theorem utf8_inj {text other : List Char} : utf8 text = utf8 other ↔ text = other := by
  rw [utf8, utf8, String.toByteArray_inj, String.ofList_inj]

theorem mapM_ok {ι β γ : Type} (step : β → Except String γ) (before : ι → β) {result : ι → γ}
    {items : List ι} (each : ∀ item ∈ items, step (before item) = .ok (result item)) :
    (items.map before).mapM step = .ok (items.map result) := by
  induction items with
  | nil =>
    rfl
  | cons item rest ih =>
    rw [List.forall_mem_cons] at each
    rw [List.map_cons, List.mapM_cons, each.1, ok_bind, ih each.2]
    rfl

/-- When the leaves have normal forms, so has the tree. -/
theorem normalize_bind {ι : Type} {general : ℚ → List Char} {go : ι → GoLeaf}
    {normal : ι → KeyedTree String NormalLeaf}
    (each : ∀ value, normalizeLeaf general (go value) = .ok (normal value))
    (v : KeyedTree String ι) :
    normalize general (v.bind fun value => .leaf (go value)) = .ok (v.bind normal) := by
  unfold normalize
  rw [fold_bind]
  simp only [fold_leaf, each]
  induction v using KeyedTree.induct with
  | leaf value =>
    rfl
  | arr items ih =>
    rw [fold_arr, bind_arr, mapM_ok id (fold _ _ _) ih]
    rfl
  | obj members ih =>
    rw [fold_obj, bind_obj, mapM_ok _ _ fun member isMember => ?_]
    · rfl
    · rw [ih member isMember]
      rfl

/-! ## Reading the text -/

/-- The character that a letter behind a backslash stands for. -/
def unescape (letter : Char) : Char :=
  if letter = 'b' then '\x08'
  else if letter = 'f' then '\x0c'
  else if letter = 'n' then '\n'
  else if letter = 'r' then '\r'
  else if letter = 't' then '\t'
  else letter

/-- The value of a digit of `hexDigit`. -/
def hexValue (c : Char) : Nat :=
  "0123456789abcdef".toList.idxOf c

/-- Read one rune of a string. -/
def readRune : List Char → Option (Char × List Char)
  | '\\' :: 'u' :: _ :: _ :: high :: low :: rest =>
    some (Char.ofNat (hexValue high * 16 + hexValue low), rest)
  | '\\' :: letter :: rest => some (unescape letter, rest)
  | c :: rest => some (c, rest)
  | [] => none

theorem hexValue_hexDigit : ∀ n < 32,
    hexValue (hexDigit (n >>> 4)) * 16 + hexValue (hexDigit (n &&& 0xf)) = n := by
  decide

/-- A rune is escaped with a letter or as a number, or it stays as it is. -/
theorem escapeRune_cases (r : Char) :
    (∃ letter, escapeRune r = ['\\', letter] ∧ unescape letter = r ∧ letter ≠ 'u') ∨
      (escapeRune r = ['\\', 'u', '0', '0', hexDigit (r.toNat >>> 4), hexDigit (r.toNat &&& 0xf)] ∧
        r.toNat < 0x20) ∨ (escapeRune r = [r] ∧ r ≠ '"' ∧ r ≠ '\\') := by
  rcases eq_or_ne r '"' with rfl | notQuote
  · exact .inl ⟨'"', rfl, rfl, by decide⟩
  rcases eq_or_ne r '\\' with rfl | notBackslash
  · exact .inl ⟨'\\', rfl, rfl, by decide⟩
  rcases eq_or_ne r '\x08' with rfl | notBackspace
  · exact .inl ⟨'b', rfl, rfl, by decide⟩
  rcases eq_or_ne r '\x0c' with rfl | notFormFeed
  · exact .inl ⟨'f', rfl, rfl, by decide⟩
  rcases eq_or_ne r '\n' with rfl | notNewline
  · exact .inl ⟨'n', rfl, rfl, by decide⟩
  rcases eq_or_ne r '\r' with rfl | notReturn
  · exact .inl ⟨'r', rfl, rfl, by decide⟩
  rcases eq_or_ne r '\t' with rfl | notTab
  · exact .inl ⟨'t', rfl, rfl, by decide⟩
  unfold escapeRune
  rw [if_neg notQuote, if_neg notBackslash, if_neg notBackspace, if_neg notFormFeed,
    if_neg notNewline, if_neg notReturn, if_neg notTab]
  by_cases control : r.toNat < 0x20
  · exact .inr (.inl ⟨if_pos control, control⟩)
  · exact .inr (.inr ⟨if_neg control, notQuote, notBackslash⟩)

theorem readRune_escapeRune (r : Char) (rest : List Char) :
    readRune (escapeRune r ++ rest) = some (r, rest) := by
  rcases escapeRune_cases r with
    ⟨letter, isText, isRune, notU⟩ | ⟨isText, control⟩ | ⟨isText, _, notBackslash⟩
  · rw [isText, List.cons_append, List.singleton_append, readRune, isRune]
    exact fun _ _ _ _ _ isU => absurd isU notU
  · have same := hexValue_hexDigit r.toNat control
    rw [isText]
    change some (Char.ofNat _, rest) = _
    rw [same, Char.ofNat_toNat]
  · rw [isText, List.singleton_append, readRune]
    · exact fun _ _ _ _ _ isBackslash => absurd isBackslash notBackslash
    · exact fun _ _ isBackslash => absurd isBackslash notBackslash

theorem escapeRune_opens (r : Char) : ∃ c rest, escapeRune r = c :: rest ∧ c ≠ '"' := by
  rcases escapeRune_cases r with ⟨_, isText, _⟩ | ⟨isText, _⟩ | ⟨isText, notQuote, _⟩
  · exact ⟨_, _, isText, by decide⟩
  · exact ⟨_, _, isText, by decide⟩
  · exact ⟨_, _, isText, notQuote⟩

theorem flatMap_escapeRune_inj {s other rest rest' : List Char}
    (same : s.flatMap escapeRune ++ '"' :: rest = other.flatMap escapeRune ++ '"' :: rest') :
    s = other ∧ rest = rest' := by
  -- A rune is not written with a quote in front.
  have notClosed (r : Char) (s : List Char) (rest rest' : List Char) :
      '"' :: rest ≠ (r :: s).flatMap escapeRune ++ rest' := by
    rcases escapeRune_opens r with ⟨c, more, isText, notQuote⟩
    rw [List.flatMap_cons, isText]
    exact fun closed => notQuote (List.cons.inj closed).1.symm
  induction s generalizing other with
  | nil =>
    cases other with
    | nil => exact ⟨rfl, (List.cons.inj same).2⟩
    | cons r' other => exact absurd same (notClosed r' other _ _)
  | cons r s ih =>
    cases other with
    | nil =>
      exact absurd same.symm (notClosed r s _ _)
    | cons r' other =>
      rw [List.flatMap_cons, List.flatMap_cons, List.append_assoc, List.append_assoc] at same
      have read := congrArg readRune same
      rw [readRune_escapeRune, readRune_escapeRune] at read
      rcases Prod.mk.inj (Option.some.inj read) with ⟨rfl, sameRest⟩
      rcases ih sameRest with ⟨rfl, sameEnd⟩
      exact ⟨rfl, sameEnd⟩

theorem marshalString_inj {s other : String} {rest rest' : List Char}
    (same : marshalString s ++ rest = marshalString other ++ rest') : s = other ∧ rest = rest' := by
  unfold marshalString at same
  rw [List.cons_append, List.cons_append, List.append_assoc, List.append_assoc] at same
  rcases flatMap_escapeRune_inj (List.cons.inj same).2 with ⟨sameRunes, sameRest⟩
  exact ⟨String.toList_inj.mp sameRunes, sameRest⟩

/-- The characters of a literal or a number. -/
def isAtomChar (c : Char) : Bool :=
  c.isAlphanum || c = '-' || c = '+' || c = '.'

/-- A literal or a number. -/
structure Atom where
  text : List Char
  ne_nil : text ≠ []
  chars : text.all isAtomChar = true

theorem Atom.eq_of_text {atom other : Atom} (same : atom.text = other.text) : atom = other := by
  cases atom
  cases other
  cases same
  rfl

/-- What is written without brackets. -/
inductive Piece where
  | atom (literal : Atom)
  | string (value : String)

def Piece.text : Piece → List Char
  | .atom literal => literal.text
  | .string value => marshalString value

theorem takeWhile_atom (atom : Atom) {rest : List Char} (ends : Ends rest) :
    (atom.text ++ rest).takeWhile isAtomChar = atom.text := by
  rw [List.takeWhile_append_of_pos fun c isChar => List.all_eq_true.mp atom.chars c isChar]
  cases rest with
  | nil =>
    exact List.append_nil _
  | cons c rest =>
    have notAtom : isAtomChar c = false := by
      rcases ends c rfl with rfl | rfl | rfl <;> rfl
    rw [List.takeWhile_cons_of_neg (by rw [notAtom]; exact Bool.false_ne_true), List.append_nil]

theorem atom_ne_string (atom : Atom) (s : String) (rest rest' : List Char) :
    atom.text ++ rest ≠ marshalString s ++ rest' := by
  intro same
  cases isText : atom.text with
  | nil =>
    exact atom.ne_nil isText
  | cons c more =>
    have isChar : isAtomChar c = true :=
      List.all_eq_true.mp atom.chars c (isText ▸ List.mem_cons_self)
    rw [isText] at same
    rw [(List.cons.inj same).1] at isChar
    exact absurd isChar (by decide)

theorem atom_opens (atom : Atom) :
    Opens atom.text ∧ atom.text.head? ≠ some '[' ∧ atom.text.head? ≠ some '\x7b' := by
  rcases atom with ⟨text, ne_nil, chars⟩
  cases text with
  | nil =>
    exact absurd rfl ne_nil
  | cons c more =>
    have isChar : isAtomChar c = true := List.all_eq_true.mp chars c List.mem_cons_self
    have differs (d : Char) (notAtom : isAtomChar d = false) : c ≠ d := by
      rintro rfl
      rw [isChar] at notAtom
      cases notAtom
    exact ⟨⟨c, more, rfl, differs _ rfl, differs _ rfl, differs _ rfl⟩,
      fun isHead => differs _ rfl (Option.some.inj isHead),
      fun isHead => differs _ rfl (Option.some.inj isHead)⟩

theorem legible : Legible marshalString Piece.text where
  key_inj := marshalString_inj
  key_opens _ := ⟨_, _, rfl, by decide, by decide, by decide⟩
  leaf_opens piece := by
    cases piece with
    | atom atom => exact atom_opens atom
    | string => exact ⟨⟨_, _, rfl, by decide, by decide, by decide⟩, nofun, nofun⟩
  leaf_inj {piece other _ _} ends ends' same := by
    cases piece with
    | atom atom =>
      cases other with
      | atom other =>
        have sameText := congrArg (List.takeWhile isAtomChar) same
        rw [Piece.text, Piece.text, takeWhile_atom atom ends,
          takeWhile_atom other ends'] at sameText
        rw [Piece.text, Piece.text, sameText] at same
        exact ⟨congrArg Piece.atom (Atom.eq_of_text sameText), List.append_cancel_left same⟩
      | string other => exact absurd same (atom_ne_string atom other _ _)
    | string value =>
      cases other with
      | atom other => exact absurd same.symm (atom_ne_string other value _ _)
      | string other =>
        rcases marshalString_inj same with ⟨rfl, sameRest⟩
        exact ⟨rfl, sameRest⟩

/-! ## Equal values have equal texts, and only they -/

theorem keyBytes_injective : Function.Injective keyBytes := by
  intro key other same
  have sameBytes : (String.ofList key.toList).toByteArray =
      (String.ofList other.toList).toByteArray := by
    rw [String.toByteArray_ofList, String.toByteArray_ofList, List.utf8Encode, List.utf8Encode]
    have injective : Function.Injective UInt8.toNat := fun _ _ => UInt8.toNat_inj.mp
    exact congrArg List.toByteArray (List.map_injective_iff.mpr injective same)
  rwa [String.ofList_toList, String.ofList_toList, String.toByteArray_inj] at sameBytes

instance : Std.Total ByteLe :=
  ⟨fun key other => le_total (keyBytes key) (keyBytes other)⟩

instance : IsTrans String ByteLe :=
  ⟨fun key other third => le_trans (a := keyBytes key) (b := keyBytes other) (c := keyBytes third)⟩

instance : Std.Antisymm ByteLe :=
  ⟨fun _ _ before after => keyBytes_injective (le_antisymm before after)⟩

/-- The leaves of a value without floating-point numbers, as Go has them. -/
inductive PlainLeaf where
  | nil
  | bool (value : Bool)
  | int (value : Int64)
  | int64 (value : Int64)
  | string (value : String)
  | strings (items : List String)

def PlainLeaf.go : PlainLeaf → GoLeaf
  | .nil => .nil
  | .bool value => .bool value
  | .int value => .int value
  | .int64 value => .int64 value
  | .string value => .string value
  | .strings items => .strings items

/-- A leaf of a JSON value. -/
inductive JsonLeaf where
  | null
  | bool (value : Bool)
  | int (value : Int64)
  | string (value : String)
deriving DecidableEq

/-- The JSON value of a leaf; a slice of strings is an array. -/
def PlainLeaf.json : PlainLeaf → KeyedTree String JsonLeaf
  | .nil => .leaf .null
  | .bool value => .leaf (.bool value)
  | .int value => .leaf (.int value)
  | .int64 value => .leaf (.int value)
  | .string value => .leaf (.string value)
  | .strings items => .arr (items.map fun item => .leaf (.string item))

/-- A value that `MarshalJSON` is called with; the keys of a map are distinct. -/
structure PlainValue where
  tree : KeyedTree String PlainLeaf
  distinct : tree.Distinct

namespace PlainValue

def go (v : PlainValue) : KeyedTree String GoLeaf :=
  v.tree.bind fun value => .leaf value.go

def json (v : PlainValue) : KeyedTree String JsonLeaf :=
  v.tree.bind PlainLeaf.json

end PlainValue

/-- A digit or a sign. -/
def isDecimalChar (c : Char) : Bool :=
  c.isDigit || c = '-'

theorem toDigits_chars (n : Nat) : ∀ c ∈ Nat.toDigits 10 n, c.isDigit = true :=
  fun _ isChar => Nat.isDigit_of_mem_toDigits (by decide) (by decide) isChar

theorem decimal_chars (z : Int) : (decimal z).all isDecimalChar = true := by
  have digits : (Nat.toDigits 10 z.natAbs).all isDecimalChar = true :=
    List.all_eq_true.mpr fun c isChar => by simp [isDecimalChar, toDigits_chars _ c isChar]
  unfold decimal
  split
  · rw [List.all_cons, digits]
    rfl
  · exact digits

/-- A number in decimal notation. -/
def number (z : Int) : Atom where
  text := decimal z
  ne_nil := by
    unfold decimal
    split
    · exact List.cons_ne_nil _ _
    · exact Nat.toDigits_ne_nil
  chars := by
    refine List.all_eq_true.mpr fun c isChar => ?_
    have isDecimal := List.all_eq_true.mp (decimal_chars z) c isChar
    rcases Bool.or_eq_true_iff.mp isDecimal with isDigit | isSign
    · simp [isAtomChar, Char.isAlphanum, isDigit]
    · simp [isAtomChar, of_decide_eq_true isSign]

/-- The number that a decimal text denotes. -/
def readDecimal : List Char → Int
  | '-' :: digits => -(Nat.ofDigitChars 10 digits 0 : Nat)
  | digits => (Nat.ofDigitChars 10 digits 0 : Nat)

theorem readDecimal_decimal (z : Int) : readDecimal (decimal z) = z := by
  have value : Nat.ofDigitChars 10 (Nat.toDigits 10 z.natAbs) 0 = z.natAbs :=
    Nat.ofDigitChars_toDigits (by decide) (by decide)
  unfold decimal
  split
  next negative =>
    rw [readDecimal, value]
    omega
  next =>
    rw [readDecimal]
    · rw [value]
      omega
    · intro digits isSigned
      have isDigit := toDigits_chars z.natAbs '-' (isSigned ▸ List.mem_cons_self)
      exact absurd isDigit (by decide)

def JsonLeaf.piece : JsonLeaf → Piece
  | .null => .atom ⟨"null".toList, by decide, by decide⟩
  | .bool true => .atom ⟨"true".toList, by decide, by decide⟩
  | .bool false => .atom ⟨"false".toList, by decide, by decide⟩
  | .int value => .atom (number value.toInt)
  | .string value => .string value

/-- The leaf that is written as a text. -/
def Piece.json : Piece → JsonLeaf
  | .atom literal =>
    if literal.text = "null".toList then .null
    else if literal.text = "true".toList then .bool true
    else if literal.text = "false".toList then .bool false
    else .int (Int64.ofInt (readDecimal literal.text))
  | .string value => .string value

theorem JsonLeaf.json_piece (leaf : JsonLeaf) : leaf.piece.json = leaf := by
  cases leaf with
  | null => rfl
  | bool value => cases value <;> rfl
  | string value => rfl
  | int value =>
    have differs (literal : List Char) (notDecimal : literal.all isDecimalChar = false) :
        (number value.toInt).text ≠ literal := by
      intro same
      rw [← same] at notDecimal
      exact Bool.false_ne_true (notDecimal.symm.trans (decimal_chars value.toInt))
    rw [JsonLeaf.piece, Piece.json, if_neg (differs "null".toList rfl),
      if_neg (differs "true".toList rfl), if_neg (differs "false".toList rfl), number,
      readDecimal_decimal, Int64.ofInt_toInt]

/-- The normal form of a leaf. -/
def PlainLeaf.normal : PlainLeaf → KeyedTree String NormalLeaf
  | .nil => .leaf .nil
  | .bool value => .leaf (.bool value)
  | .int value => .leaf (.number (decimal value.toInt))
  | .int64 value => .leaf (.number (decimal value.toInt))
  | .string value => .leaf (.string value)
  | .strings items => .arr (items.map fun item => .leaf (.string item))

theorem marshalCanonical_normal (leaf : PlainLeaf) :
    marshalCanonical leaf.normal = fold (fun value => (JsonLeaf.piece value).text) bracketed
        (fun members => braced marshalString (sortByKey ByteLe members)) leaf.json := by
  cases leaf with
  | bool value =>
    cases value <;> rfl
  | strings items =>
    unfold PlainLeaf.normal PlainLeaf.json marshalCanonical
    rw [fold_arr, fold_arr, List.map_map, List.map_map]
    rfl
  | _ =>
    rfl

theorem marshalJSON_go (general : ℚ → List Char) (v : PlainValue) :
    marshalJSON general v.go =
      .ok (utf8 (text marshalString Piece.text (arrange ByteLe JsonLeaf.piece v.json))) := by
  have normalized : normalize general v.go = .ok (v.tree.bind PlainLeaf.normal) :=
    normalize_bind (fun leaf => by cases leaf <;> rfl) v.tree
  unfold marshalJSON PlainValue.json
  rw [normalized, ok_bind, ← fold_braced_sortByKey, fold_bind, marshalCanonical, fold_bind]
  have leaves := funext marshalCanonical_normal
  unfold marshalCanonical at leaves
  rw [leaves]
  rfl

theorem distinct_json (v : PlainValue) : v.json.Distinct := by
  refine v.distinct.bind fun leaf => ?_
  cases leaf with
  | strings items =>
    rw [PlainLeaf.json, distinct_arr, List.forall_mem_map]
    exact fun _ _ => trivial
  | _ =>
    exact trivial

/-- The bytes are equal exactly for values that are equal apart from the order of keys. -/
theorem marshalJSON_eq_iff_same (general : ℚ → List Char) (v w : PlainValue) :
    ∃ bytes bytes', marshalJSON general v.go = .ok bytes ∧ marshalJSON general w.go = .ok bytes' ∧
      (bytes = bytes' ↔ Same v.json w.json) := by
  refine ⟨_, _, marshalJSON_go general v, marshalJSON_go general w, ?_⟩
  rw [utf8_inj, legible.text_injective.eq_iff]
  exact arrange_eq_iff ByteLe (Function.LeftInverse.injective JsonLeaf.json_piece)
    (distinct_json v) (distinct_json w)

end Canonical

end PortableTpcc
