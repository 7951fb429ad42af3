import Mathlib.Data.List.DropRight

namespace PortableTpcc

/-!
# Complete lines

A text is a run of complete lines, each followed by the separator, and a tail without it.  The
complete lines are what `List.splitOn` gives but for its last part.
-/

section

variable {α : Type} {separator : α} {lines : List (List α)} {tail : List α}

/-- The lines of a text that are followed by the separator. -/
def completeLines [DecidableEq α] (separator : α) (text : List α) : List (List α) :=
  (text.splitOn separator).dropLast

/-- The lines, each followed by the separator. -/
def terminated (separator : α) (lines : List (List α)) : List α :=
  lines.flatMap (· ++ [separator])

theorem terminated_append (first second : List (List α)) :
    terminated separator (first ++ second) =
      terminated separator first ++ terminated separator second :=
  List.flatMap_append

/-- A text that begins with complete lines, cut behind them. -/
theorem drop_terminated (rest : List α) :
    (terminated separator lines ++ rest).drop (terminated separator lines).length = rest :=
  List.drop_left

/-- The separator is in none of the lines. -/
def Unbroken (separator : α) (lines : List (List α)) : Prop :=
  ∀ line ∈ lines, separator ∉ line

variable [DecidableEq α]

theorem splitOn_line {line rest : List α} (unbroken : separator ∉ line) :
    (line ++ separator :: rest).splitOn separator = line :: rest.splitOn separator := by
  apply List.splitOnP_append_cons_of_forall_mem
  · intro x member
    simpa using fun same : x = separator => unbroken (same ▸ member)
  · simp

theorem completeLines_terminated (unbroken : Unbroken separator lines)
    (noSeparator : separator ∉ tail) :
    completeLines separator (terminated separator lines ++ tail) = lines := by
  induction lines with
  | nil =>
    have single : tail.splitOn separator = [tail] := by
      apply List.splitOnP_eq_singleton
      intro x member
      simpa using fun same : x = separator => noSeparator (same ▸ member)
    rw [terminated, List.flatMap_nil, List.nil_append, completeLines, single,
      List.dropLast_singleton]
  | cons line rest ih =>
    obtain ⟨first, others⟩ := List.forall_mem_cons.mp unbroken
    have shape : terminated separator (line :: rest) ++ tail =
        line ++ separator :: (terminated separator rest ++ tail) := by
      simp [terminated]
    have nonempty : (terminated separator rest ++ tail).splitOn separator ≠ [] :=
      List.splitOnP_ne_nil _ _
    rw [shape, completeLines, splitOn_line first, List.dropLast_cons_of_ne_nil nonempty]
    exact congrArg _ (ih others)

/-- Every text is a run of complete lines and a tail. -/
theorem exists_terminated (separator : α) (text : List α) :
    ∃ lines tail, text = terminated separator lines ++ tail ∧ Unbroken separator lines ∧
      separator ∉ tail := by
  induction text with
  | nil => exact ⟨[], [], rfl, by simp [Unbroken], by simp⟩
  | cons x rest ih =>
    obtain ⟨lines, tail, rfl, unbroken, noSeparator⟩ := ih
    by_cases isSeparator : x = separator
    · subst isSeparator
      exact ⟨[] :: lines, tail, by simp [terminated],
        List.forall_mem_cons.mpr ⟨by simp, unbroken⟩, noSeparator⟩
    · cases lines with
      | nil =>
        refine ⟨[], x :: tail, rfl, unbroken, ?_⟩
        simpa using ⟨Ne.symm isSeparator, noSeparator⟩
      | cons line others =>
        obtain ⟨first, remaining⟩ := List.forall_mem_cons.mp unbroken
        refine ⟨(x :: line) :: others, tail, by simp [terminated], ?_, noSeparator⟩
        exact List.forall_mem_cons.mpr ⟨by simpa using ⟨Ne.symm isSeparator, first⟩, remaining⟩

end

end PortableTpcc
