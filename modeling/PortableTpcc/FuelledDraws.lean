import Mathlib.Order.Defs.LinearOrder

namespace PortableTpcc

/-!
# Computations that return with enough fuel

A computation on a state takes fuel for the loops in it.  What is proved of it
is total: with enough fuel it returns, and more fuel changes nothing.
-/

variable {σ α β : Type} {inv : σ → Prop} {post : α → Prop}

/-- From every state with the invariant, what is returned with enough fuel. -/
def Yields (inv : σ → Prop) (draw : Nat → StateT σ Option α) (post : α → Prop) : Prop :=
  ∀ s, inv s → ∃ enough value s',
    (∀ fuel ≥ enough, draw fuel s = some (value, s')) ∧ inv s' ∧ post value

theorem Yields.pure {value : α} (isPost : post value) :
    Yields inv (fun _ => Pure.pure value) post :=
  fun s holds => ⟨0, value, s, fun _ _ => rfl, holds, isPost⟩

theorem Yields.bind {draw : Nat → StateT σ Option α} {rest : α → Nat → StateT σ Option β}
    {final : β → Prop} (first : Yields inv draw post)
    (next : ∀ value, post value → Yields inv (rest value) final) :
    Yields inv (fun fuel => draw fuel >>= fun value => rest value fuel) final := by
  intro s holds
  rcases first s holds with ⟨enough, value, s', drawn, holds', isPost⟩
  rcases next value isPost s' holds' with ⟨enoughNext, result, s'', returned, holds'', isFinal⟩
  refine ⟨max enough enoughNext, result, s'', fun fuel large => ?_, holds'', isFinal⟩
  change (draw fuel s).bind (fun drawn => rest drawn.1 fuel drawn.2) = _
  rw [drawn fuel (by omega)]
  exact returned fuel (by omega)

theorem Yields.weaken {draw : Nat → StateT σ Option α} {weaker : α → Prop}
    (yields : Yields inv draw post) (implied : ∀ value, post value → weaker value) :
    Yields inv draw weaker := by
  intro s holds
  rcases yields s holds with ⟨enough, value, s', drawn, holds', isPost⟩
  exact ⟨enough, value, s', drawn, holds', implied value isPost⟩

/-- Draw until a value is taken; the second number bounds the turns. -/
def drawUntil (draw : Nat → StateT σ Option α) (taken : α → Bool) (fuel : Nat) :
    Nat → StateT σ Option α
  | 0 => fun _ => none
  | turns + 1 => do
    let value ← draw fuel
    if taken value then
      return value
    else
      drawUntil draw taken fuel turns

/--
A loop of draws returns when in every state the draw that ends it is some number
of draws ahead, and a draw that does not end it comes nearer.
-/
theorem Yields.drawUntil {draw : Nat → StateT σ Option α} {taken : α → Bool}
    {ahead : Nat → σ → Prop} (start : ∀ s, inv s → ∃ n, ahead n s)
    (step : ∀ n s, ahead n s → ∃ enough value s',
      (∀ fuel ≥ enough, draw fuel s = some (value, s')) ∧ inv s' ∧ post value ∧
        (taken value = false → ∃ m < n, ahead m s')) :
    Yields inv (fun fuel => drawUntil draw taken fuel fuel)
      fun value => post value ∧ taken value = true := by
  have ends : ∀ n s, ahead n s → ∃ enough value s',
      (∀ fuel ≥ enough, ∀ turns ≥ enough,
        PortableTpcc.drawUntil draw taken fuel turns s = some (value, s')) ∧
        inv s' ∧ post value ∧ taken value = true := by
    intro n
    induction n using Nat.strongRecOn with
    | ind n ih =>
      intro s isAhead
      rcases step n s isAhead with ⟨enough, value, s', drawn, holds, isPost, nearer⟩
      have turn (fuel turns : Nat) (large : fuel ≥ enough) :
          PortableTpcc.drawUntil draw taken fuel (turns + 1) s =
            if taken value then some (value, s')
            else PortableTpcc.drawUntil draw taken fuel turns s' := by
        change (draw fuel s).bind _ = _
        rw [drawn fuel large, Option.bind_some]
        change (if taken value then (Pure.pure value : StateT σ Option α)
          else PortableTpcc.drawUntil draw taken fuel turns) s' = _
        split <;> rfl
      cases isTaken : taken value with
      | true =>
        refine ⟨enough + 1, value, s', fun fuel large turns some => ?_, holds, isPost, isTaken⟩
        rcases Nat.exists_eq_add_of_le' (Nat.le_of_add_left_le some) with ⟨left, rfl⟩
        rw [turn fuel left (Nat.le_of_succ_le large), if_pos isTaken]
      | false =>
        rcases nearer isTaken with ⟨m, less, aheadNow⟩
        rcases ih m less s' aheadNow with ⟨enoughNext, result, s'', returned, properties⟩
        refine ⟨max enough enoughNext + 1, result, s'', fun fuel large turns some => ?_,
          properties⟩
        rcases Nat.exists_eq_add_of_le' (Nat.le_of_add_left_le some) with ⟨left, rfl⟩
        rw [turn fuel left (by omega), isTaken, if_neg Bool.false_ne_true]
        exact returned fuel (by omega) left (by omega)
  intro s holds
  rcases start s holds with ⟨n, isAhead⟩
  rcases ends n s isAhead with ⟨enough, value, s', returned, holds', isPost⟩
  exact ⟨enough, value, s', fun fuel large => returned fuel large fuel large, holds', isPost⟩

end PortableTpcc
