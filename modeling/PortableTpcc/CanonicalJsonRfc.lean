import PortableTpcc.Binary64
import PortableTpcc.CanonicalJson
import PortableTpcc.TextEncodings

namespace PortableTpcc

/-!
# Canonical JSON and RFC 8785

RFC 8785 orders the members of an object by the UTF-16 code units of their keys
and writes numbers as ECMAScript does, with the fewest digits that denote the
same `float64`.  `canonical.go` orders them by bytes and writes an integer that
fits into an `int64` with all its digits.
-/

namespace Canonical

open KeyedTree

/-! ## What RFC 8785 prescribes -/

/-- The control characters with an escape of their own. -/
def predefined : List (Char × Char) :=
  [('\x08', 'b'), ('\t', 't'), ('\n', 'n'), ('\x0c', 'f'), ('\r', 'r')]

/-- The character in a string; other control characters have four hexadecimal digits. -/
def rfcChar (c : Char) : List Char :=
  match predefined.lookup c with
  | some letter => ['\\', letter]
  | none =>
    if c.toNat < 0x20 then
      let digits := Nat.toDigits 16 c.toNat
      '\\' :: 'u' :: (List.replicate (4 - digits.length) '0' ++ digits)
    else if c = '\\' ∨ c = '"' then
      ['\\', c]
    else
      [c]

def rfcString (s : String) : List Char :=
  '"' :: s.toList.flatMap rfcChar ++ ['"']

/-- The UTF-16 code units of a key. -/
def codeUnits (key : String) : List Nat :=
  key.toList.flatMap TextEncodings.utf16Text

/-- The order of keys. -/
def CodeUnitLe (key other : String) : Prop :=
  codeUnits key ≤ codeUnits other

instance : DecidableRel CodeUnitLe :=
  fun key other => inferInstanceAs (Decidable (codeUnits key ≤ codeUnits other))

/-- The sign in front of the text of the absolute value. -/
def signed (z : Int) (text : List Char) : List Char :=
  if z < 0 then '-' :: text else text

/-- The digits without the zeros at their end, with a point behind the first one. -/
def significand (n : Nat) : List Char :=
  match ((Nat.toDigits 10 n).reverse.dropWhile (· = '0')).reverse with
  | [] => []
  | [digit] => [digit]
  | digit :: rest => digit :: '.' :: rest

/-- The power of ten of the first digit. -/
def scale (n : Nat) : Nat :=
  (Nat.toDigits 10 n).length - 1

/-- `d.ddde+x`, as Go writes it: the exponent has two digits at least. -/
def goScientific (n : Nat) : List Char :=
  let scaleText := Nat.toDigits 10 (scale n)
  significand n ++ 'e' :: '+' :: if scale n < 10 then '0' :: scaleText else scaleText

/-- `d.ddde+x`, as ECMAScript writes it. -/
def ecmaScientific (n : Nat) : List Char :=
  significand n ++ 'e' :: '+' :: Nat.toDigits 10 (scale n)

/-- The verb `%g`, on integers: the shortest digits, from `10 ^ 6` on in scientific notation. -/
def general (x : ℚ) : List Char :=
  let n := Binary64.shortest x.num.natAbs
  signed x.num (if scale n < 6 then Nat.toDigits 10 n else goScientific n)

/-- The text of an integer in ECMAScript. -/
def ecmaNumber (z : Int) : List Char :=
  let n := Binary64.shortest z.natAbs
  signed z (if n < 10 ^ 21 then Nat.toDigits 10 n else ecmaScientific n)

/-- The integer is a `float64`. -/
def IsFloat64 (z : Int) : Prop :=
  Binary64.Fits z.natAbs ∧ z.natAbs < 2 ^ 1024

/-- A leaf of a decoded JSON value whose numbers are integers. -/
inductive DecodedLeaf where
  | null
  | bool (value : Bool)
  | num (z : Int) (isFloat : IsFloat64 z)
  | string (value : String)

/-- A decoded JSON value; the keys of a map are distinct. -/
structure DecodedValue where
  tree : KeyedTree String DecodedLeaf
  distinct : tree.Distinct

def rfcLeaf : DecodedLeaf → List Char
  | .null => "null".toList
  | .bool true => "true".toList
  | .bool false => "false".toList
  | .num z _ => ecmaNumber z
  | .string value => rfcString value

/-- The canonical text of RFC 8785. -/
def rfc8785 (v : DecodedValue) : ByteArray :=
  utf8 (fold rfcLeaf bracketed
    (fun members => braced rfcString (sortByKey CodeUnitLe members)) v.tree)

def DecodedLeaf.go : DecodedLeaf → GoLeaf
  | .null => .nil
  | .bool value => .bool value
  | .num z _ => .float64 z
  | .string value => .string value

/-- The value as `json.Unmarshal` makes it. -/
def DecodedValue.go (v : DecodedValue) : KeyedTree String GoLeaf :=
  v.tree.bind fun value => .leaf value.go

/-! ## Strings -/

theorem rfcChar_of_control : ∀ n < 0x20, rfcChar (Char.ofNat n) = escapeRune (Char.ofNat n) := by
  decide

theorem rfcChar_eq_escapeRune (c : Char) : rfcChar c = escapeRune c := by
  by_cases control : c.toNat < 0x20
  · have same := rfcChar_of_control c.toNat control
    rwa [Char.ofNat_toNat] at same
  · have differs (d : Char) (isControl : d.toNat < 0x20) : c ≠ d := by
      rintro rfl
      exact control isControl
    have controls : predefined.all (fun entry => entry.1.toNat < 0x20) = true := rfl
    have notPredefined : predefined.lookup c = none := by
      rw [List.lookup_eq_none_iff]
      intro entry isEntry
      have isControl := of_decide_eq_true (List.all_eq_true.mp controls entry isEntry)
      simpa using differs entry.1 isControl
    unfold rfcChar escapeRune
    simp only [notPredefined, if_neg control]
    rw [if_neg (differs '\x08' (by decide)), if_neg (differs '\x0c' (by decide)),
      if_neg (differs '\n' (by decide)), if_neg (differs '\r' (by decide)),
      if_neg (differs '\t' (by decide))]
    by_cases isQuote : c = '"'
    · rw [if_pos (.inr isQuote), if_pos isQuote, isQuote]
    · by_cases isBackslash : c = '\\'
      · rw [if_pos (.inl isBackslash), if_neg isQuote, if_pos isBackslash, isBackslash]
      · rw [if_neg (not_or.mpr ⟨isBackslash, isQuote⟩), if_neg isQuote, if_neg isBackslash]

theorem rfcString_eq_marshalString : rfcString = marshalString := by
  funext s
  unfold rfcString marshalString
  rw [funext rfcChar_eq_escapeRune]

/-! ## Numbers -/

theorem isAtomChar_of_isDigit {c : Char} (isDigit : c.isDigit = true) : isAtomChar c = true := by
  simp [isAtomChar, Char.isAlphanum, isDigit]

theorem toDigits_all (n : Nat) : (Nat.toDigits 10 n).all isAtomChar = true :=
  List.all_eq_true.mpr fun c isChar => isAtomChar_of_isDigit (toDigits_chars n c isChar)

theorem significand_all (n : Nat) : (significand n).all isAtomChar = true := by
  have all : ((Nat.toDigits 10 n).reverse.dropWhile (· = '0')).reverse.all isAtomChar = true := by
    rw [List.all_reverse, List.all_eq_true]
    intro c isChar
    exact List.all_eq_true.mp (toDigits_all n) c
      (List.mem_reverse.mp ((List.dropWhile_sublist _).subset isChar))
  unfold significand
  split
  next => rfl
  next isText => rwa [isText] at all
  next isText =>
    rw [isText, List.all_cons, Bool.and_eq_true] at all
    rw [List.all_cons, List.all_cons, all.1, all.2]
    rfl

/-- A number without its sign. -/
def digitsAtom (n : Nat) : Atom :=
  ⟨Nat.toDigits 10 n, Nat.toDigits_ne_nil, toDigits_all n⟩

def goScientificAtom (n : Nat) : Atom where
  text := goScientific n
  ne_nil := by simp [goScientific]
  chars := by
    unfold goScientific
    split <;> simp [significand_all, toDigits_all, isAtomChar]

def ecmaScientificAtom (n : Nat) : Atom where
  text := ecmaScientific n
  ne_nil := by simp [ecmaScientific]
  chars := by simp [ecmaScientific, significand_all, toDigits_all, isAtomChar]

def signedAtom (z : Int) (atom : Atom) : Atom where
  text := signed z atom.text
  ne_nil := by
    unfold signed
    split
    · exact List.cons_ne_nil _ _
    · exact atom.ne_nil
  chars := by
    unfold signed
    split
    · rw [List.all_cons, atom.chars]
      rfl
    · exact atom.chars

theorem signedAtom_inj {z : Int} {atom other : Atom} :
    signedAtom z atom = signedAtom z other ↔ atom = other := by
  constructor
  · intro same
    have sameText : signed z atom.text = signed z other.text := congrArg Atom.text same
    unfold signed at sameText
    split at sameText
    · exact Atom.eq_of_text (List.cons.inj sameText).2
    · exact Atom.eq_of_text sameText
  · rintro rfl
    rfl

theorem digitsAtom_inj {n m : Nat} : digitsAtom n = digitsAtom m ↔ n = m := by
  constructor
  · intro same
    have value := congrArg (Nat.ofDigitChars 10 · 0) (congrArg Atom.text same)
    simpa only [digitsAtom, Nat.ofDigitChars_toDigits (by decide : 1 < 10) (by decide)] using value
  · rintro rfl
    rfl

/-- Digits are not in scientific notation. -/
theorem digitsAtom_ne {n : Nat} {atom : Atom} (isScientific : 'e' ∈ atom.text) :
    digitsAtom n ≠ atom := by
  rintro rfl
  exact absurd (toDigits_chars n 'e' isScientific) (by decide)

/-- The integer fits into an `int64`. -/
def InInt64 (z : Int) : Prop :=
  -2 ^ 63 ≤ z ∧ z < 2 ^ 63

instance (z : Int) : Decidable (InInt64 z) :=
  inferInstanceAs (Decidable (_ ∧ _))

/-- The number as Go writes it. -/
def goAtom (z : Int) : Atom :=
  signedAtom z <|
    if InInt64 z then digitsAtom z.natAbs else goScientificAtom (Binary64.shortest z.natAbs)

/-- The number as ECMAScript writes it. -/
def ecmaAtom (z : Int) : Atom :=
  signedAtom z <|
    if Binary64.shortest z.natAbs < 10 ^ 21 then digitsAtom (Binary64.shortest z.natAbs)
    else ecmaScientificAtom (Binary64.shortest z.natAbs)

/-- The number fits into an `int64` and no decimal with more zeros at its end is rounded to it; or
it is so large that both notations are scientific. -/
def NumberConforms (z : Int) : Prop :=
  InInt64 z ∧ Binary64.IsShortest z.natAbs z.natAbs ∨ 10 ^ 21 ≤ z.natAbs

theorem le_scale {n k : Nat} (large : 10 ^ k ≤ n) : k ≤ scale n := by
  have short : n < 10 ^ (Nat.toDigits 10 n).length :=
    (Nat.length_toDigits_le_iff (by decide) (List.length_pos_iff.mpr Nat.toDigits_ne_nil)).mp le_rfl
  have exponents := (Nat.pow_lt_pow_iff_right (by decide : 1 < 10)).mp (large.trans_lt short)
  unfold scale
  omega

/-- Powers of ten that are numbers of the format keep large numbers large. -/
theorem le_shortest_of_fits {n k : Nat} (isSmall : k ≤ 21) (fits : Binary64.Fits n) :
    10 ^ k ≤ Binary64.shortest n ↔ 10 ^ k ≤ n := by
  have exact_ : ∀ k ≤ 21, Binary64.round (10 ^ k : ℕ) = (10 ^ k : ℕ) ∧
      Binary64.shortest (10 ^ k) = 10 ^ k := by
    decide +kernel
  exact Binary64.le_shortest_iff fits (Binary64.fits_of_round_eq (exact_ k isSmall).1)
    (exact_ k isSmall).2

theorem goAtom_eq_ecmaAtom_iff {z : Int} (isFloat : IsFloat64 z) :
    goAtom z = ecmaAtom z ↔ NumberConforms z := by
  have bound := le_shortest_of_fits (k := 21) le_rfl isFloat.1
  have shortest := Binary64.shortest_eq_iff isFloat.1 z.natAbs
  unfold goAtom ecmaAtom NumberConforms
  rw [signedAtom_inj, ← shortest]
  by_cases fits : InInt64 z
  · have small : Binary64.shortest z.natAbs < 10 ^ 21 := by
      unfold InInt64 at fits
      omega
    rw [if_pos fits, if_pos small, digitsAtom_inj]
    unfold InInt64 at fits ⊢
    omega
  · rw [if_neg fits]
    by_cases small : Binary64.shortest z.natAbs < 10 ^ 21
    · rw [if_pos small]
      refine iff_of_false (digitsAtom_ne (by simp [goScientificAtom, goScientific])).symm ?_
      rintro (⟨inRange, _⟩ | large)
      · exact fits inRange
      · exact not_le.mpr small (bound.mpr large)
    · have large := not_lt.mp small
      rw [if_neg small]
      refine iff_of_true (Atom.eq_of_text ?_) (.inr (bound.mp large))
      change goScientific _ = ecmaScientific _
      unfold goScientific ecmaScientific
      dsimp only
      rw [if_neg (not_lt.mpr ((by decide : 10 ≤ 21).trans (le_scale large)))]

/-! ## Values -/

def goPiece : DecodedLeaf → Piece
  | .null => JsonLeaf.null.piece
  | .bool value => (JsonLeaf.bool value).piece
  | .num z _ => .atom (goAtom z)
  | .string value => .string value

def ecmaPiece : DecodedLeaf → Piece
  | .null => JsonLeaf.null.piece
  | .bool value => (JsonLeaf.bool value).piece
  | .num z _ => .atom (ecmaAtom z)
  | .string value => .string value

theorem rfc8785_eq (v : DecodedValue) :
    rfc8785 v =
      utf8 (text marshalString Piece.text (arrange CodeUnitLe ecmaPiece v.tree)) := by
  have leaves : rfcLeaf = fun leaf => (ecmaPiece leaf).text := by
    funext leaf
    cases leaf with
    | null => rfl
    | bool value => cases value <;> rfl
    | num z isFloat =>
      change ecmaNumber z = signed z (ite _ _ _ : Atom).text
      unfold ecmaNumber
      dsimp only
      split <;> rfl
    | string value => exact congrFun rfcString_eq_marshalString value
  unfold rfc8785
  rw [leaves, rfcString_eq_marshalString, fold_braced_sortByKey]

theorem toInt64_intCast (z : Int) : toInt64 z = if InInt64 z then z else -2 ^ 63 := by
  have whole : z.tdiv (1 : Nat) = z := Int.tdiv_one z
  unfold toInt64
  dsimp only
  rw [Rat.num_intCast, Rat.den_intCast, whole]
  rfl

theorem normalizeLeaf_float64 {z : Int} (isFloat : IsFloat64 z) :
    normalizeLeaf general (.float64 z) = .ok (.leaf (.number (goAtom z).text)) := by
  unfold normalizeLeaf goAtom
  dsimp only
  rw [toInt64_intCast]
  by_cases fits : InInt64 z
  · rw [if_pos fits, if_pos rfl, if_pos fits]
    rfl
  · have notLeast : z ≠ -2 ^ 63 := by
      rintro rfl
      exact fits (by decide)
    have large : 10 ^ 6 ≤ z.natAbs := by
      unfold InInt64 at fits
      omega
    have scientific := le_scale ((le_shortest_of_fits (by decide) isFloat.1).mpr large)
    rw [if_neg fits, if_neg (fun same => notLeast (Rat.intCast_inj.mp same)), if_neg fits, general,
      Rat.num_intCast, if_neg (not_lt.mpr scientific)]
    rfl

/-- The normal form of a leaf. -/
def DecodedLeaf.normal : DecodedLeaf → KeyedTree String NormalLeaf
  | .null => .leaf .nil
  | .bool value => .leaf (.bool value)
  | .num z _ => .leaf (.number (goAtom z).text)
  | .string value => .leaf (.string value)

theorem marshalJSON_decoded (v : DecodedValue) :
    marshalJSON general v.go =
      .ok (utf8 (text marshalString Piece.text (arrange ByteLe goPiece v.tree))) := by
  have normalized : normalize general v.go = .ok (v.tree.bind DecodedLeaf.normal) :=
    normalize_bind (fun leaf => by
      cases leaf with
      | num z isFloat => exact normalizeLeaf_float64 isFloat
      | _ => rfl) v.tree
  have leaves : (fun leaf => marshalCanonical (DecodedLeaf.normal leaf)) =
      fun leaf => (goPiece leaf).text := by
    funext leaf
    cases leaf with
    | bool value => cases value <;> rfl
    | _ => rfl
  unfold marshalCanonical at leaves
  unfold marshalJSON
  rw [normalized, ok_bind, marshalCanonical, fold_bind, leaves, fold_braced_sortByKey]
  rfl

def LeafConforms : DecodedLeaf → Prop
  | .num z _ => NumberConforms z
  | _ => True

/-- No two keys of an object differ first in a character from U+E000 to U+FFFF and one beyond, and
every number conforms. -/
def Conforming : KeyedTree String DecodedLeaf → Prop :=
  fold LeafConforms (fun items => ∀ item ∈ items, item)
    fun members => (∀ key ∈ members.map Prod.fst, ∀ other ∈ members.map Prod.fst,
      ¬ TextEncodings.Crossed key.toList other.toList) ∧ ∀ member ∈ members, member.2

theorem keyBytes_eq (key : String) : keyBytes key = key.toList.flatMap TextEncodings.utf8Text :=
  List.map_flatMap

instance : Std.Total CodeUnitLe :=
  ⟨fun key other => le_total (codeUnits key) (codeUnits other)⟩

instance : IsTrans String CodeUnitLe :=
  ⟨fun key other third =>
    le_trans (a := codeUnits key) (b := codeUnits other) (c := codeUnits third)⟩

instance : Std.Antisymm CodeUnitLe :=
  ⟨fun _ _ before after =>
    String.toList_inj.mp (TextEncodings.utf16_injective (le_antisymm before after))⟩

theorem sorted_alike_iff (keys : List String) :
    keys.insertionSort ByteLe = keys.insertionSort CodeUnitLe ↔
      ∀ key ∈ keys, ∀ other ∈ keys, ¬ TextEncodings.Crossed key.toList other.toList := by
  rw [insertionSort_eq_iff]
  refine forall₂_congr fun key _ => forall₂_congr fun other _ => ?_
  unfold ByteLe CodeUnitLe
  rw [TextEncodings.crossed_iff, keyBytes_eq, keyBytes_eq, not_and_not_right]
  rfl

theorem conforming_iff_agrees (tree : KeyedTree String DecodedLeaf) :
    Conforming tree ↔ Agrees ByteLe CodeUnitLe goPiece ecmaPiece tree := by
  have leaves : LeafConforms = fun leaf => goPiece leaf = ecmaPiece leaf := by
    funext leaf
    cases leaf with
    | num z isFloat =>
      change NumberConforms z = (Piece.atom _ = Piece.atom _)
      rw [Piece.atom.injEq, goAtom_eq_ecmaAtom_iff isFloat]
    | _ => exact (eq_self _).symm
  unfold Conforming Agrees
  simp only [leaves, sorted_alike_iff]

/-- The output is that of RFC 8785 exactly when the value conforms. -/
theorem marshalJSON_eq_rfc8785_iff (v : DecodedValue) :
    marshalJSON general v.go = .ok (rfc8785 v) ↔ Conforming v.tree := by
  rw [marshalJSON_decoded, rfc8785_eq, Except.ok.injEq, utf8_inj,
    legible.text_injective.eq_iff, arrange_eq_arrange_iff _ _ v.distinct, conforming_iff_agrees]

/-- The code units of the second key come first, its bytes do not. -/
def surrogateKeys : List String :=
  [String.ofList [Char.ofNat 0xFF5E], String.ofList [Char.ofNat 0x10000]]

/-- An object with two members is written in another order than RFC 8785 prescribes. -/
theorem surrogate_keys_differ :
    ∃ v : DecodedValue, v.tree = .obj (surrogateKeys.map fun key => (key, .leaf .null)) ∧
      marshalJSON general v.go ≠ .ok (rfc8785 v) := by
  have keys : (surrogateKeys.map fun key =>
      (key, KeyedTree.leaf (κ := String) DecodedLeaf.null)).map Prod.fst = surrogateKeys := by
    rw [List.map_map]
    exact List.map_id _
  have distinct : (KeyedTree.obj
      (surrogateKeys.map fun key => (key, .leaf DecodedLeaf.null))).Distinct := by
    rw [distinct_obj, keys]
    refine ⟨by decide, ?_⟩
    rw [List.forall_mem_map]
    exact fun _ _ => trivial
  have crossed : TextEncodings.Crossed (String.ofList [Char.ofNat 0xFF5E]).toList
      (String.ofList [Char.ofNat 0x10000]).toList :=
    ⟨[], Char.ofNat 0xFF5E, Char.ofNat 0x10000, [], [], String.toList_ofList, String.toList_ofList,
      by unfold TextEncodings.CharsCross; decide⟩
  refine ⟨⟨_, distinct⟩, rfl, fun same => ?_⟩
  rw [marshalJSON_decoded, rfc8785_eq, Except.ok.injEq, utf8_inj, legible.text_injective.eq_iff,
    arrange_eq_arrange_iff _ _ distinct, agrees_obj, keys, sorted_alike_iff] at same
  exact same.1 _ (by simp [surrogateKeys]) _ (by simp [surrogateKeys]) crossed

end Canonical

end PortableTpcc
