import PortableTpcc.SampleSummaries

namespace PortableTpcc

/-!
# Slots of unit width, then in pieces

The numbers below a bound have a slot each.  From there on the numbers are cut
into consecutive pieces, and each piece into a number of slots of equal width,
as far as integers allow.
-/

/-- The numbers from `start` up to `stop`, cut into `count` slots. -/
structure Piece where
  start : ℕ
  stop : ℕ
  count : ℕ

namespace Piece

/-- The slot of a value within its piece. -/
def offset (piece : Piece) (value : ℕ) : ℕ :=
  (value - piece.start) * piece.count / (piece.stop - piece.start)

theorem offset_lt {piece : Piece} {value : ℕ} (hasSlots : 0 < piece.count)
    (above : piece.start ≤ value) (below : value < piece.stop) :
    piece.offset value < piece.count := by
  have span : 0 < piece.stop - piece.start := by omega
  rw [offset, Nat.div_lt_iff_lt_mul span, Nat.mul_comm]
  exact Nat.mul_lt_mul_of_pos_left (by omega) hasSlots

theorem offset_mono {piece : Piece} {low high : ℕ} (ordered : low ≤ high) :
    piece.offset low ≤ piece.offset high := by
  refine Nat.div_le_div_right (Nat.mul_le_mul_right _ ?_)
  omega

end Piece

/-- The pieces follow each other from one number to another. -/
def IsChain : ℕ → List Piece → ℕ → Prop
  | first, [], last => first = last
  | first, piece :: rest, last =>
    piece.start = first ∧ piece.start < piece.stop ∧ 0 < piece.count ∧
      IsChain piece.stop rest last

/-- The number of slots of some pieces. -/
def slotCount (pieces : List Piece) : ℕ :=
  (pieces.map Piece.count).sum

/-- The slot of a value, counted from a base, in the piece it falls into. -/
def pieceSlot : List Piece → ℕ → ℕ → ℕ
  | [], base, _ => base
  | piece :: rest, base, value =>
    if value < piece.stop then
      base + piece.offset value
    else
      pieceSlot rest (base + piece.count) value

variable {pieces : List Piece} {first last : ℕ}

theorem IsChain.le (chain : IsChain first pieces last) : first ≤ last := by
  induction pieces generalizing first with
  | nil =>
    exact Nat.le_of_eq chain
  | cons piece rest ih =>
    obtain ⟨rfl, nonempty, _, others⟩ := chain
    exact nonempty.le.trans (ih others)

theorem le_pieceSlot (pieces : List Piece) (base value : ℕ) :
    base ≤ pieceSlot pieces base value := by
  induction pieces generalizing base with
  | nil =>
    exact le_rfl
  | cons piece rest ih =>
    unfold pieceSlot
    split
    · exact Nat.le_add_right _ _
    · exact (Nat.le_add_right _ _).trans (ih _)

/-- The slot of a value within the chain is one of its slots. -/
theorem IsChain.pieceSlot_lt {value : ℕ} (chain : IsChain first pieces last) (base : ℕ)
    (above : first ≤ value) (below : value < last) :
    pieceSlot pieces base value < base + slotCount pieces := by
  induction pieces generalizing first base with
  | nil =>
    obtain rfl : first = last := chain
    omega
  | cons piece rest ih =>
    obtain ⟨rfl, _, hasSlots, others⟩ := chain
    have counts : slotCount (piece :: rest) = piece.count + slotCount rest := by
      simp [slotCount]
    unfold pieceSlot
    split
    · rename_i inside
      have within := Piece.offset_lt hasSlots above inside
      omega
    · rename_i outside
      have within := ih others (base + piece.count) (not_lt.mp outside)
      omega

/-- Larger values have the same slot or a later one. -/
theorem IsChain.pieceSlot_mono {low high : ℕ} (chain : IsChain first pieces last) (base : ℕ)
    (above : first ≤ low) (ordered : low ≤ high) :
    pieceSlot pieces base low ≤ pieceSlot pieces base high := by
  induction pieces generalizing first base with
  | nil =>
    exact le_rfl
  | cons piece rest ih =>
    obtain ⟨rfl, _, hasSlots, others⟩ := chain
    unfold pieceSlot
    by_cases lowInside : low < piece.stop
    · rw [if_pos lowInside]
      by_cases highInside : high < piece.stop
      · rw [if_pos highInside]
        exact Nat.add_le_add_left (Piece.offset_mono ordered) base
      · rw [if_neg highInside]
        have within := Piece.offset_lt hasSlots above lowInside
        have later := le_pieceSlot rest (base + piece.count) high
        omega
    · rw [if_neg lowInside, if_neg (fun inside => lowInside (ordered.trans_lt inside))]
      exact ih others _ (not_lt.mp lowInside)

/-- The slots of a linear part followed by pieces. -/
def piecewiseSlots (linear limit : ℕ) (pieces : List Piece)
    (chain : IsChain linear pieces limit) : Slotting where
  limit
  size := linear + slotCount pieces
  slot value := if value < linear then value else pieceSlot pieces linear value
  slot_lt := by
    intro value below
    split
    · omega
    · rename_i outside
      exact chain.pieceSlot_lt linear (not_lt.mp outside) below
  slot_mono := by
    intro low high ordered below
    by_cases highInside : high < linear
    · rw [if_pos highInside, if_pos (ordered.trans_lt highInside)]
      exact ordered
    · rw [if_neg highInside]
      by_cases lowInside : low < linear
      · rw [if_pos lowInside]
        exact lowInside.le.trans (le_pieceSlot _ _ _)
      · rw [if_neg lowInside]
        exact chain.pieceSlot_mono linear (not_lt.mp lowInside) ordered

end PortableTpcc
