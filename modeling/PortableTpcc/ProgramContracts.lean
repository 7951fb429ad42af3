import PortableTpcc.InteractionPrograms

namespace PortableTpcc

/-!
# Contracts of programs

A contract says which commands a program may issue and what it may rely on in
the replies.  When the surroundings keep an invariant under the allowed
commands, and the invariant gives the replies that are relied on, every run of
a program that obeys the contract keeps the invariant.
-/

/-- The commands allowed and the replies relied on. -/
structure Contract (face : Interface) where
  Allowed : face.Command → Prop
  Assumed : (command : face.Command) → face.Reply command → Prop

namespace Prog

variable {face : Interface} {α β ε : Type} {contract : Contract face}

/-- The program issues allowed commands as long as the replies are as assumed. -/
inductive Obeys (contract : Contract face) : Prog face α → Prop where
  | done (result : α) : Obeys contract (.done result)
  | call {command : face.Command} {next : face.Reply command → Prog face α}
      (allowed : contract.Allowed command)
      (later : ∀ reply, contract.Assumed command reply → Obeys contract (next reply)) :
      Obeys contract (.call command next)

/-- The rule for a sequence. -/
theorem Obeys.bind {program : Prog face α} {continuation : α → Prog face β}
    (first : Obeys contract program) (rest : ∀ value, Obeys contract (continuation value)) :
    Obeys contract (program >>= continuation) := by
  induction first with
  | done value =>
    exact rest value
  | call allowed _ ih =>
    exact .call allowed ih

/-- The rule for a sequence that an error ends. -/
theorem Obeys.bindOk {program : ExceptT ε (Prog face) α}
    {continuation : α → ExceptT ε (Prog face) β} (first : Obeys contract program.run)
    (rest : ∀ value, Obeys contract (continuation value).run) :
    Obeys contract (program >>= continuation).run := by
  apply first.bind
  intro result
  cases result with
  | error error =>
    exact .done _
  | ok value =>
    exact rest value

/-- What an obedient program runs against keeps its invariant. -/
theorem Obeys.invariant {σ : Type} {answers : Answers face σ} (Good : σ → Prop)
    (kept : ∀ {before after : σ} {command : face.Command} {reply : face.Reply command},
      contract.Allowed command → Good before → answers before command reply after →
      contract.Assumed command reply ∧ Good after) {program : Prog face α} {before after : σ}
    {result : α} (obeys : Obeys contract program) (good : Good before)
    (run : Runs answers program before result after) : Good after := by
  induction obeys generalizing before with
  | done value =>
    obtain ⟨-, rfl⟩ := Runs.done_iff.mp run
    exact good
  | call allowed _ ih =>
    obtain ⟨reply, middle, answered, later⟩ := Runs.call_iff.mp run
    obtain ⟨assumed, goodMiddle⟩ := kept allowed good answered
    exact ih reply assumed goodMiddle later

end Prog

section

variable
    {face : Interface} {α β ε σ : Type} {answers : Answers face σ}
    {program : ExceptT ε (Prog face) α}
    {continuation : α → ExceptT ε (Prog face) β}
    {before middle after : σ}

/-- The second part runs where the first has ended. -/
theorem Runs.bindOk {value : α} {result : Except ε β}
    (first : Runs answers program.run before (.ok value) middle)
    (rest : Runs answers (continuation value).run middle result after) :
    Runs answers (program >>= continuation).run before result after :=
  Runs.bind_iff.mpr ⟨.ok value, middle, first, rest⟩

/-- An error of the first part is the result. -/
theorem Runs.bindError {error : ε} (first : Runs answers program.run before (.error error) after) :
    Runs answers (program >>= continuation).run before (.error error) after :=
  Runs.bind_iff.mpr ⟨.error error, after, first, .done _ _⟩

end

end PortableTpcc
