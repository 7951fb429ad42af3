import Mathlib.Logic.Basic

namespace PortableTpcc

/-!
# Checks that may fail

A validator runs checks one after the other and returns the first error.  The
lemmas say when it returns none.
-/

section

variable {ε ε' α β : Type}

/-- `if bad { return error }`. -/
def rejectIf (bad : Prop) [Decidable bad] (error : ε) : Except ε Unit :=
  if bad then
    .error error
  else
    .ok ()

@[simp] theorem rejectIf_eq_ok {bad : Prop} [Decidable bad] {error : ε} {result : Unit} :
    rejectIf bad error = .ok result ↔ ¬ bad := by
  unfold rejectIf
  split <;> simp [*]

@[simp] theorem ok_bind (value : α) (next : α → Except ε β) :
    (Except.ok value >>= next) = next value :=
  rfl

@[simp] theorem bind_eq_ok {first : Except ε α} {next : α → Except ε β} {result : β} :
    (first >>= next) = .ok result ↔ ∃ value, first = .ok value ∧ next value = .ok result := by
  cases first with
  | error error =>
    simp [bind, Except.bind]
  | ok value =>
    simp [bind, Except.bind]

@[simp] theorem mapError_eq_ok {check : Except ε α} {rename : ε → ε'} {result : α} :
    check.mapError rename = .ok result ↔ check = .ok result := by
  cases check with
  | error error => exact iff_of_false nofun nofun
  | ok value =>
    constructor
    · rintro ⟨⟩
      rfl
    · rintro ⟨⟩
      rfl

/-- Checks over a list all succeed or the whole fails. -/
theorem forM_eq_ok {check : α → Except ε Unit} {values : List α} :
    values.forM check = .ok () ↔ ∀ value ∈ values, check value = .ok () := by
  induction values with
  | nil =>
    simp [pure, Except.pure]
  | cons value rest ih =>
    have unfolded : (value :: rest).forM check = (check value >>= fun _ =>
          rest.forM check) :=
      rfl
    rw [unfolded, bind_eq_ok, List.forall_mem_cons, ih]
    exact ⟨fun ⟨(), first, later⟩ => ⟨first, later⟩,
      fun ⟨first, later⟩ => ⟨(), first, later⟩⟩

end

section

variable {ε ε' α α' β β' κ : Type} {rename : ε' → ε}

/--
The first computation ends as the second one does: with a related result, or
with the same error under another name.
-/
def Simulates (rename : ε' → ε) (related : α → β → Prop) (first : Except ε α)
    (second : Except ε' β) : Prop :=
  match second with
  | .ok result => ∃ value, first = .ok value ∧ related value result
  | .error error => first = .error (rename error)

variable {related : α → β → Prop} {related' : α' → β' → Prop}

theorem Simulates.pure {value : α} {result : β} (isRelated : related value result) :
    Simulates rename related (.ok value) (.ok result) :=
  ⟨value, rfl, isRelated⟩

/-- What follows a check may rely on it. -/
theorem Simulates.rejectIf {bad bad' : Prop} [Decidable bad] [Decidable bad'] (same : bad ↔ bad')
    (error : ε') {next : Except ε α} {next' : Except ε' β}
    (continues : ¬ bad' → Simulates rename related next next') :
    Simulates rename related (rejectIf bad (rename error) >>= fun _ => next)
      (rejectIf bad' error >>= fun _ => next') := by
  by_cases isBad : bad'
  · simp only [PortableTpcc.rejectIf, if_pos isBad, if_pos (same.mpr isBad)]
    rfl
  · simp only [PortableTpcc.rejectIf, if_neg isBad, if_neg (mt same.mp isBad)]
    exact continues isBad

/-- Two checks of the same condition, up to the name of the error. -/
theorem Simulates.check {bad bad' : Prop} [Decidable bad] [Decidable bad'] (same : bad ↔ bad')
    (error : ε') : Simulates rename Eq (PortableTpcc.rejectIf bad (rename error))
      (PortableTpcc.rejectIf bad' error) := by
  by_cases isBad : bad'
  · rw [PortableTpcc.rejectIf, PortableTpcc.rejectIf, if_pos isBad, if_pos (same.mpr isBad)]
    rfl
  · rw [PortableTpcc.rejectIf, PortableTpcc.rejectIf, if_neg isBad, if_neg (mt same.mp isBad)]
    exact Simulates.pure rfl

/-- The rule for a sequence. -/
theorem Simulates.bind {first : Except ε α} {second : Except ε' β}
    (simulates : Simulates rename related first second) {next : α → Except ε α'}
    {next' : β → Except ε' β'} (continues : ∀ value result, related value result →
      Simulates rename related' (next value) (next' result)) :
    Simulates rename related' (first >>= next) (second >>= next') := by
  cases second with
  | error error =>
    have isError : first = .error (rename error) := simulates
    rw [isError]
    rfl
  | ok result =>
    rcases simulates with ⟨value, isValue, isRelated⟩
    rw [isValue]
    exact continues value result isRelated

/-- The rule for a loop with an accumulator. -/
theorem Simulates.foldlM {steps : List κ} {step : α → κ → Except ε α} {step' : β → κ → Except ε' β}
    (one : ∀ value result, related value result → ∀ key ∈ steps,
      Simulates rename related (step value key) (step' result key)) {value : α} {result : β}
    (isRelated : related value result) :
    Simulates rename related (steps.foldlM step value) (steps.foldlM step' result) := by
  induction steps generalizing value result with
  | nil =>
    exact Simulates.pure isRelated
  | cons key rest ih =>
    rw [List.foldlM_cons, List.foldlM_cons]
    apply (one value result isRelated key List.mem_cons_self).bind
    intro nextValue nextResult nextRelated
    exact ih (fun value result isRelated other member =>
        one value result isRelated other (List.mem_cons_of_mem key member))
      nextRelated

/-- The rule for a loop of checks. -/
theorem Simulates.forM {steps : List κ} {step : κ → Except ε Unit} {step' : κ → Except ε' Unit}
    (one : ∀ key ∈ steps, Simulates rename Eq (step key) (step' key)) :
    Simulates rename Eq (steps.forM step) (steps.forM step') := by
  induction steps with
  | nil =>
    exact Simulates.pure rfl
  | cons key rest ih =>
    apply (one key List.mem_cons_self).bind
    intro _ _ _
    exact ih fun other member => one other (List.mem_cons_of_mem key member)

end

end PortableTpcc
