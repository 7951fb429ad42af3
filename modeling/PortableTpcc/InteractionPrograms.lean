import Mathlib.Tactic.Common

namespace PortableTpcc

/-!
# Interaction programs

A program that talks to its surroundings through a fixed set of commands is a
tree: it is done, or it issues one command and continues with the reply.  The
same program can then be run against an adapter, against a driver that fails
at will, or against a database, by choosing the relation that says which
replies are possible.

Nothing here depends on a particular set of commands.
-/

/-- The commands a program may issue, with the reply type of each. -/
structure Interface where
  Command : Type
  Reply : Command → Type

/-- A program over an interface that finishes with a result. -/
inductive Prog (face : Interface) (α : Type) where
  | done (result : α)
  | call (command : face.Command) (next : face.Reply command → Prog face α)

namespace Prog

variable {face : Interface} {α β γ : Type}

/-- Continue a program with the result of an earlier one. -/
def bind : Prog face α → (α → Prog face β) → Prog face β
  | .done result, continuation =>
    continuation result
  | .call command next, continuation =>
    .call command fun reply => (next reply).bind continuation

instance : Monad (Prog face) where
  pure := .done
  bind := bind

/-- Carry out a program in a monad that can perform each command. -/
def perform {m : Type → Type} [Monad m] (act : (command : face.Command) → m (face.Reply command)) :
    Prog face α → m α
  | .done result =>
    pure result
  | .call command next =>
    act command >>= fun reply => (next reply).perform act

@[simp] theorem pure_eq_done (result : α) : (pure result : Prog face α) = .done result :=
  rfl

@[simp] theorem done_bind (result : α) (continuation : α → Prog face β) :
    (Prog.done result >>= continuation) = continuation result :=
  rfl

@[simp] theorem call_bind (command : face.Command) (next : face.Reply command → Prog face α)
    (continuation : α → Prog face β) :
    (Prog.call command next >>= continuation) =
      .call command fun reply => next reply >>= continuation :=
  rfl

end Prog

/--
The possible transitions of the surroundings: from a state, a command may be
answered with a reply and lead to a new state.
-/
abbrev Answers (face : Interface) (σ : Type) : Type :=
  σ → (command : face.Command) → face.Reply command → σ → Prop

/-- A complete run of a program against its surroundings. -/
inductive Runs {face : Interface} {σ α : Type} (answers : Answers face σ) :
    Prog face α → σ → α → σ → Prop where
  | done (result : α) (state : σ) : Runs answers (.done result) state result state
  | call {command : face.Command} {next : face.Reply command → Prog face α}
      {before middle after : σ} {reply : face.Reply command} {result : α}
      (answered : answers before command reply middle)
      (later : Runs answers (next reply) middle result after) :
      Runs answers (.call command next) before result after

namespace Runs

variable {face : Interface} {σ α β : Type} {answers : Answers face σ}

variable {before after : σ} {result : α}

/-- A finished program has exactly one run, which changes nothing. -/
@[simp] theorem done_iff {final : α} :
    Runs answers (.done result) before final after ↔ final = result ∧ after = before := by
  constructor
  · intro run
    cases run
    exact ⟨rfl, rfl⟩
  · rintro ⟨rfl, rfl⟩
    exact .done _ _

/-- A run of a command is one answer followed by a run of the continuation. -/
theorem call_iff {command : face.Command} {next : face.Reply command → Prog face α} :
    Runs answers (.call command next) before result after ↔ ∃ reply middle,
      answers before command reply middle ∧ Runs answers (next reply) middle result after := by
  constructor
  · intro run
    cases run with
    | call answered later =>
      exact ⟨_, _, answered, later⟩
  · rintro ⟨reply, middle, answered, later⟩
    exact .call answered later

variable {program : Prog face α}

/-- Runs of a sequence are runs of its first part followed by its second. -/
theorem bind_iff {continuation : α → Prog face β} {result : β} :
    Runs answers (program >>= continuation) before result after ↔ ∃ value middle,
      Runs answers program before value middle ∧
      Runs answers (continuation value) middle result after := by
  induction program generalizing before with
  | done value =>
    simp
  | call command next ih =>
    simp only [Prog.call_bind, call_iff, ih]
    constructor
    · rintro ⟨reply, first, answered, value, middle, left, right⟩
      exact ⟨value, middle, ⟨reply, first, answered, left⟩, right⟩
    · rintro ⟨value, middle, ⟨reply, first, answered, left⟩, right⟩
      exact ⟨reply, first, answered, value, middle, left, right⟩

/-- Runs survive a weakening of what the surroundings may answer. -/
theorem mono {weaker : Answers face σ}
    (implies : ∀ {before after : σ} {command : face.Command} {reply : face.Reply command},
      answers before command reply after →
      weaker before command reply after) (run : Runs answers program before result after) :
    Runs weaker program before result after := by
  induction run with
  | done =>
    exact .done _ _
  | call answered later ih =>
    exact .call (implies answered) ih

end Runs

namespace Prog

variable {face : Interface} {α β : Type}

/-- Every command that a program can ever issue is an allowed one. -/
inductive OnlyIssues (Allowed : face.Command → Prop) : Prog face α → Prop where
  | done (result : α) : OnlyIssues Allowed (.done result)
  | call {command : face.Command} {next : face.Reply command → Prog face α}
      (allowed : Allowed command) (later : ∀ reply, OnlyIssues Allowed (next reply)) :
      OnlyIssues Allowed (.call command next)

namespace OnlyIssues

variable {Allowed : face.Command → Prop}

theorem bind {program : Prog face α} {continuation : α → Prog face β}
    (first : OnlyIssues Allowed program) (rest : ∀ value, OnlyIssues Allowed (continuation value)) :
    OnlyIssues Allowed (program >>= continuation) := by
  induction first with
  | done value =>
    exact rest value
  | call allowed _ ih =>
    exact .call allowed ih

/-- A property kept by the allowed commands holds after such a program. -/
theorem invariant {σ : Type} {answers : Answers face σ} (Good : σ → Prop)
    (preserved : ∀ {before after : σ} {command : face.Command} {reply : face.Reply command},
      Allowed command → Good before → answers before command reply after →
      Good after) {program : Prog face α} (only : OnlyIssues Allowed program) {before after : σ}
    {result : α} (initially : Good before) (run : Runs answers program before result after) :
    Good after := by
  induction only generalizing before with
  | done value =>
    obtain ⟨_, rfl⟩ := Runs.done_iff.mp run
    exact initially
  | call allowed _ ih =>
    obtain ⟨reply, middle, answered, later⟩ := Runs.call_iff.mp run
    exact ih reply (preserved allowed initially answered) later

end OnlyIssues

end Prog

/--
An implementation of one interface by programs over another, with a state
of its own that it carries from command to command.
-/
abbrev Implementation (upper lower : Interface) (τ : Type) : Type :=
  τ → (command : upper.Command) → Prog lower (upper.Reply command × τ)

/-- The answers that an implementation gives over its own surroundings. -/
def implementedAnswers {upper lower : Interface} {τ σ : Type}
    (implementation : Implementation upper lower τ) (answers : Answers lower σ) :
    Answers upper (τ × σ) :=
  fun before command reply after =>
    Runs answers (implementation before.1 command) before.2 (reply, after.1) after.2

end PortableTpcc
