import PortableTpcc.PiecewiseSlots

namespace PortableTpcc

/-!
# Upper bounds of slots

A slot has an upper bound that none of its values exceeds and no value of a
later slot is below.  For slots in pieces the bounds are the cuts of the pieces,
rounded down.
-/

/-- The bounds fit the slots. -/
structure Slotting.Bounds (slots : Slotting) (upper : ℕ → ℕ) : Prop where
  le_upper : ∀ {value}, value < slots.limit → value ≤ upper (slots.slot value)
  upper_le : ∀ {value index}, value < slots.limit → index < slots.slot value → upper index ≤ value
  increasing : ∀ {low high}, low < high → high < slots.size → upper low < upper high
  /-- No slot is empty. -/
  onto : ∀ {index}, index < slots.size → ∃ value, value < slots.limit ∧ slots.slot value = index

namespace Piece

variable {piece : Piece}

/-- The upper bound of a slot of the piece. -/
def upper (piece : Piece) (index : ℕ) : ℕ :=
  piece.start + (index + 1) * (piece.stop - piece.start) / piece.count

/-- The piece has no more slots than numbers. -/
structure Fine (piece : Piece) : Prop where
  nonempty : piece.start < piece.stop
  hasSlots : 0 < piece.count
  count_le : piece.count ≤ piece.stop - piece.start

theorem Fine.le_upper (fine : piece.Fine) (value : ℕ) :
    value ≤ piece.upper (piece.offset value) := by
  have below : (value - piece.start) * piece.count <
      (piece.offset value + 1) * (piece.stop - piece.start) := by
    have span : 0 < piece.stop - piece.start := by
      have nonempty := fine.nonempty
      omega
    rw [Nat.mul_comm (_ + 1)]
    exact Nat.lt_mul_div_succ _ span
  have within : value - piece.start ≤ (piece.offset value + 1) * (piece.stop - piece.start) /
          piece.count :=
    (Nat.le_div_iff_mul_le fine.hasSlots).mpr below.le
  unfold upper
  omega

/-- The bound of a value's slot is at most one width above the value. -/
theorem Fine.upper_offset_le (fine : piece.Fine) {value : ℕ} (above : piece.start ≤ value) :
    piece.upper (piece.offset value) ≤ value + (piece.stop - piece.start) / piece.count := by
  have cut : piece.offset value * (piece.stop - piece.start) ≤
      (value - piece.start) * piece.count :=
    Nat.div_mul_le_self _ _
  have within : (piece.offset value + 1) * (piece.stop - piece.start) / piece.count ≤
      value - piece.start + (piece.stop - piece.start) / piece.count := by
    rw [← Nat.mul_add_div fine.hasSlots, Nat.add_mul, one_mul, Nat.mul_comm piece.count]
    exact Nat.div_le_div_right (Nat.add_le_add_right cut _)
  unfold upper
  omega

theorem upper_le {value index : ℕ} (above : piece.start ≤ value)
    (earlier : index < piece.offset value) : piece.upper index ≤ value := by
  have cut : (index + 1) * (piece.stop - piece.start) ≤ (value - piece.start) * piece.count := by
    calc
      (index + 1) * (piece.stop - piece.start) ≤ piece.offset value * (piece.stop - piece.start) :=
            Nat.mul_le_mul_right _ earlier
      _ ≤ (value - piece.start) * piece.count := Nat.div_mul_le_self _ _
  have within : (index + 1) * (piece.stop - piece.start) / piece.count ≤ value - piece.start :=
    Nat.div_le_of_le_mul (by rwa [Nat.mul_comm piece.count])
  unfold upper
  omega

theorem Fine.upper_lt_succ (fine : piece.Fine) (index : ℕ) :
    piece.upper index < piece.upper (index + 1) := by
  have next : (index + 1) * (piece.stop - piece.start) / piece.count + 1 ≤
      (index + 1 + 1) * (piece.stop - piece.start) / piece.count := by
    rw [← Nat.add_div_right _ fine.hasSlots, Nat.add_mul (index + 1), one_mul]
    exact Nat.div_le_div_right (Nat.add_le_add_left fine.count_le _)
  unfold upper
  omega

theorem Fine.start_lt_upper (fine : piece.Fine) (index : ℕ) : piece.start < piece.upper index := by
  have positive : 0 < (index + 1) * (piece.stop - piece.start) / piece.count := by
    apply Nat.div_pos _ fine.hasSlots
    exact fine.count_le.trans (Nat.le_mul_of_pos_left _ (Nat.succ_pos index))
  unfold upper
  omega

theorem Fine.upper_last (fine : piece.Fine) : piece.upper (piece.count - 1) = piece.stop := by
  have positive := fine.hasSlots
  have nonempty := fine.nonempty
  have all : (piece.count - 1 + 1) * (piece.stop - piece.start) / piece.count =
      piece.stop - piece.start := by
    rw [Nat.sub_add_cancel positive, Nat.mul_div_cancel_left _ positive]
  unfold upper
  omega

theorem Fine.exists_offset (fine : piece.Fine) {index : ℕ} (inside : index < piece.count) :
    ∃ value, piece.start ≤ value ∧ value < piece.stop ∧ piece.offset value = index := by
  obtain ⟨nonempty, hasSlots, count_le⟩ := fine
  generalize span : piece.stop - piece.start = width at count_le
  -- The first multiple of the count that is not below the cut.
  let first := (index * width + (piece.count - 1)) / piece.count
  have divided := Nat.div_add_mod (index * width + (piece.count - 1)) piece.count
  have rest := Nat.mod_lt (index * width + (piece.count - 1)) hasSlots
  have notBelow : index * width ≤ first * piece.count := by
    rw [Nat.mul_comm first]
    change _ ≤ piece.count * (_ / _)
    omega
  have notAbove : first * piece.count < (index + 1) * width := by
    rw [Nat.mul_comm first, Nat.add_mul, one_mul]
    change piece.count * (_ / _) < _
    omega
  have inside : first < width := by
    by_contra outside
    have more : width * piece.count ≤ first * piece.count :=
      Nat.mul_le_mul_right _ (not_lt.mp outside)
    have fewer : (index + 1) * width ≤ width * piece.count := by
      rw [Nat.mul_comm width]
      exact Nat.mul_le_mul_right _ inside
    omega
  refine ⟨piece.start + first, Nat.le_add_right _ _, by omega, ?_⟩
  unfold offset
  rw [Nat.add_sub_cancel_left, span]
  exact Nat.div_eq_of_lt_le notBelow notAbove

end Piece

/-- The upper bound of a slot, counted from a base; a last bound for others. -/
def pieceUpper (last : ℕ) : List Piece → ℕ → ℕ → ℕ
  | [], _, _ => last
  | piece :: rest, base, index =>
    if index < base + piece.count then
      piece.upper (index - base)
    else
      pieceUpper last rest (base + piece.count) index

section

variable {first last base : ℕ} {pieces : List Piece}

variable {value : ℕ}

theorem IsChain.exists_piece (chain : IsChain first pieces last) (above : first ≤ value)
    (below : value < last) : ∃ piece ∈ pieces, piece.start ≤ value ∧
      pieceUpper last pieces base (pieceSlot pieces base value) =
        piece.upper (piece.offset value) := by
  induction pieces generalizing first base with
  | nil =>
    obtain rfl : first = last := chain
    omega
  | cons piece rest ih =>
    obtain ⟨rfl, _, hasSlots, others⟩ := chain
    unfold pieceSlot
    by_cases inside : value < piece.stop
    · have within := Piece.offset_lt hasSlots above inside
      refine ⟨piece, List.mem_cons_self, above, ?_⟩
      rw [if_pos inside, pieceUpper, if_pos (by omega), Nat.add_sub_cancel_left]
    · have later := le_pieceSlot rest (base + piece.count) value
      rw [if_neg inside, pieceUpper, if_neg (by omega)]
      rcases ih others (not_lt.mp inside) with ⟨found, isIn, start, upper⟩
      exact ⟨found, List.mem_cons_of_mem _ isIn, start, upper⟩

theorem IsChain.le_pieceUpper (chain : IsChain first pieces last)
    (fine : ∀ piece ∈ pieces, piece.Fine) (above : first ≤ value) (below : value < last) :
    value ≤ pieceUpper last pieces base (pieceSlot pieces base value) := by
  rcases chain.exists_piece above below with ⟨piece, isIn, _, upper⟩
  rw [upper]
  exact (fine piece isIn).le_upper value

/-- If no piece has wide slots, bounds are not far from values. -/
theorem IsChain.pieceUpper_le_add (chain : IsChain first pieces last)
    (fine : ∀ piece ∈ pieces, piece.Fine) {width : ℕ → ℕ} (monotone : Monotone width)
    (narrow : ∀ piece ∈ pieces, (piece.stop - piece.start) / piece.count ≤ width piece.start)
    (above : first ≤ value) (below : value < last) :
    pieceUpper last pieces base (pieceSlot pieces base value) ≤ value + width value := by
  rcases chain.exists_piece above below with ⟨piece, isIn, start, upper⟩
  have bound := (fine piece isIn).upper_offset_le start
  have here := narrow piece isIn
  have wider := monotone start
  rw [upper]
  omega

variable {index : ℕ}

/-- The bounds of a piece do not exceed its end. -/
theorem Piece.Fine.upper_le_stop {piece : Piece} (fine : piece.Fine)
    (inside : index < piece.count) : piece.upper index ≤ piece.stop := by
  rw [← fine.upper_last]
  exact (strictMono_nat_of_lt_succ fine.upper_lt_succ).monotone (by omega)

theorem IsChain.pieceUpper_le (chain : IsChain first pieces last)
    (fine : ∀ piece ∈ pieces, piece.Fine) (above : first ≤ value) (below : value < last)
    (fromBase : base ≤ index) (earlier : index < pieceSlot pieces base value) :
    pieceUpper last pieces base index ≤ value := by
  induction pieces generalizing first base with
  | nil =>
    obtain rfl : first = last := chain
    omega
  | cons piece rest ih =>
    obtain ⟨rfl, _, hasSlots, others⟩ := chain
    unfold pieceSlot at earlier
    unfold pieceUpper
    by_cases inside : value < piece.stop
    · have within := Piece.offset_lt hasSlots above inside
      rw [if_pos inside] at earlier
      rw [if_pos (by omega)]
      exact Piece.upper_le above (by omega)
    · rw [if_neg inside] at earlier
      split
      · have bound :=
          (fine piece List.mem_cons_self).upper_le_stop (show index - base < piece.count by omega)
        omega
      · exact ih others
          (fun other isIn => fine other (List.mem_cons_of_mem _ isIn))
          (not_lt.mp inside) (by omega) earlier

/-- The bounds of the pieces lie beyond their first number. -/
theorem IsChain.lt_pieceUpper (chain : IsChain first pieces last)
    (fine : ∀ piece ∈ pieces, piece.Fine) (fromBase : base ≤ index)
    (inside : index < base + slotCount pieces) : first < pieceUpper last pieces base index := by
  induction pieces generalizing first base with
  | nil =>
    simp [slotCount] at inside
    omega
  | cons piece rest ih =>
    obtain ⟨rfl, nonempty, hasSlots, others⟩ := chain
    have counts : slotCount (piece :: rest) = piece.count + slotCount rest := by
      simp [slotCount]
    unfold pieceUpper
    split
    · exact (fine piece List.mem_cons_self).start_lt_upper _
    · apply nonempty.trans
      exact ih others
        (fun other isIn => fine other (List.mem_cons_of_mem _ isIn)) (by omega) (by omega)

theorem IsChain.pieceUpper_lt (chain : IsChain first pieces last)
    (fine : ∀ piece ∈ pieces, piece.Fine) {low high : ℕ} (fromBase : base ≤ low)
    (ordered : low < high) (inside : high < base + slotCount pieces) :
    pieceUpper last pieces base low < pieceUpper last pieces base high := by
  induction pieces generalizing first base with
  | nil =>
    simp [slotCount] at inside
    omega
  | cons piece rest ih =>
    obtain ⟨rfl, _, hasSlots, others⟩ := chain
    have fineHere := fine piece List.mem_cons_self
    have fineRest : ∀ other ∈ rest, other.Fine :=
      fun other isIn => fine other (List.mem_cons_of_mem _ isIn)
    have counts : slotCount (piece :: rest) = piece.count + slotCount rest := by
      simp [slotCount]
    unfold pieceUpper
    by_cases highInside : high < base + piece.count
    · rw [if_pos highInside, if_pos (by omega)]
      exact strictMono_nat_of_lt_succ fineHere.upper_lt_succ (by omega)
    · rw [if_neg highInside]
      by_cases lowInside : low < base + piece.count
      · -- The cut between the two pieces lies between the bounds.
        rw [if_pos lowInside]
        have bound := fineHere.upper_le_stop (show low - base < piece.count by omega)
        have beyond :=
          others.lt_pieceUpper fineRest (show base + piece.count ≤ high by omega) (by omega)
        omega
      · rw [if_neg lowInside]
        exact ih others fineRest (by omega) (by omega)

theorem IsChain.exists_pieceSlot (chain : IsChain first pieces last)
    (fine : ∀ piece ∈ pieces, piece.Fine) (fromBase : base ≤ index)
    (inside : index < base + slotCount pieces) :
    ∃ value, first ≤ value ∧ value < last ∧ pieceSlot pieces base value = index := by
  induction pieces generalizing first base with
  | nil =>
    simp [slotCount] at inside
    omega
  | cons piece rest ih =>
    obtain ⟨rfl, nonempty, hasSlots, others⟩ := chain
    have counts : slotCount (piece :: rest) = piece.count + slotCount rest := by
      simp [slotCount]
    by_cases here : index < base + piece.count
    · obtain ⟨value, above, below, offset⟩ :=
        (fine piece List.mem_cons_self).exists_offset (show index - base < piece.count by omega)
      refine ⟨value, above, below.trans_le others.le, ?_⟩
      rw [pieceSlot, if_pos below, offset]
      omega
    · have fromNext : base + piece.count ≤ index := not_lt.mp here
      obtain ⟨value, above, below, slot⟩ :=
        ih others (fun other isIn => fine other (List.mem_cons_of_mem _ isIn))
          fromNext (by omega)
      refine ⟨value, nonempty.le.trans above, below, ?_⟩
      rw [pieceSlot, if_neg (not_lt.mpr above)]
      exact slot

end

/-- The bound of a slot of the linear part is the next value. -/
def piecewiseUpper (linear last : ℕ) (pieces : List Piece) (index : ℕ) : ℕ :=
  if index < linear then
    index + 1
  else
    pieceUpper last pieces linear index

theorem bounds_piecewise {linear limit : ℕ} {pieces : List Piece}
    (chain : IsChain linear pieces limit) (fine : ∀ piece ∈ pieces, piece.Fine) :
    (piecewiseSlots linear limit pieces chain).Bounds (piecewiseUpper linear limit pieces) where
  le_upper := by
    intro value below
    change value ≤ piecewiseUpper linear limit pieces
      (if value < linear then value else pieceSlot pieces linear value)
    unfold piecewiseUpper
    by_cases inside : value < linear
    · rw [if_pos inside, if_pos inside]
      omega
    · have later := le_pieceSlot pieces linear value
      rw [if_neg inside, if_neg (not_lt.mpr later)]
      exact chain.le_pieceUpper fine (not_lt.mp inside) below
  upper_le := by
    intro value index below earlier
    change index < if value < linear then value else pieceSlot pieces linear value
      at earlier
    unfold piecewiseUpper
    by_cases inside : value < linear
    · rw [if_pos inside] at earlier
      rw [if_pos (earlier.trans inside)]
      omega
    · rw [if_neg inside] at earlier
      split
      · omega
      · rename_i outside
        exact chain.pieceUpper_le fine (not_lt.mp inside) below (not_lt.mp outside) earlier
  increasing := by
    intro low high ordered inside
    change high < linear + slotCount pieces at inside
    unfold piecewiseUpper
    by_cases highInside : high < linear
    · rw [if_pos highInside, if_pos (ordered.trans highInside)]
      omega
    · rw [if_neg highInside]
      by_cases lowInside : low < linear
      · rw [if_pos lowInside]
        have beyond := chain.lt_pieceUpper fine (not_lt.mp highInside) inside
        omega
      · rw [if_neg lowInside]
        exact chain.pieceUpper_lt fine (not_lt.mp lowInside) ordered inside
  onto := by
    intro index inside
    change index < linear + slotCount pieces at inside
    by_cases linearSlot : index < linear
    · exact ⟨index, linearSlot.trans_le chain.le, if_pos linearSlot⟩
    · obtain ⟨value, above, below, slot⟩ :=
        chain.exists_pieceSlot fine (not_lt.mp linearSlot) inside
      exact ⟨value, below, (if_neg (not_lt.mpr above)).trans slot⟩

end PortableTpcc
