import Mathlib.Logic.Relation
import PortableTpcc.InteractionPrograms

namespace PortableTpcc

/-!
# Traces of programs

What a program exchanges with its surroundings in one run, when these may give any reply.
Surroundings that record the exchanges have every trace as a run.
-/

/-- A command with the reply it got. -/
structure Exchange (face : Interface) where
  command : face.Command
  reply : face.Reply command

namespace Prog

variable {face : Interface} {α : Type}

/-- The program can finish with this result after these exchanges. -/
inductive Traces : Prog face α → α → List (Exchange face) → Prop where
  | done (result : α) : Traces (.done result) result []
  | call {command : face.Command} {next : face.Reply command → Prog face α}
      {reply : face.Reply command} {result : α} {trace : List (Exchange face)}
      (later : Traces (next reply) result trace) :
      Traces (.call command next) result (⟨command, reply⟩ :: trace)

end Prog

section

variable {face : Interface} {σ α : Type}

/-- Surroundings that give any reply and record the exchanges. -/
def recording (face : Interface) : Answers face (List (Exchange face)) :=
  fun before command reply after => after = before ++ [⟨command, reply⟩]

/-- A trace is a run in the world that only records. -/
theorem Prog.Traces.runs {program : Prog face α} {result : α} {trace : List (Exchange face)}
    (traced : program.Traces result trace) (before : List (Exchange face)) :
    Runs (recording face) program before result (before ++ trace) := by
  induction traced generalizing before with
  | done result =>
    rw [List.append_nil]
    exact .done result before
  | @call command _ reply _ trace _ ih =>
    have later := ih (before ++ [⟨command, reply⟩])
    rw [List.append_assoc] at later
    exact .call rfl later

/-- The surroundings may come from one state to the other. -/
def Later (answers : Answers face σ) : σ → σ → Prop :=
  Relation.ReflTransGen fun before after => ∃ command reply, answers before command reply after

variable {before after : σ} {answers : Answers face σ}

theorem Later.single {command : face.Command} {reply : face.Reply command}
    (answered : answers before command reply after) : Later answers before after :=
  Relation.ReflTransGen.single ⟨command, reply, answered⟩

/-- A run leads from a state to a later one. -/
theorem Runs.later {program : Prog face α} {result : α}
    (run : Runs answers program before result after) : Later answers before after := by
  induction run with
  | done =>
    exact .refl
  | call answered _ ih =>
    exact (Later.single answered).trans ih

/-- A property that every answer keeps holds later as well. -/
theorem Later.invariant (Good : σ → Prop)
    (preserved : ∀ {before after : σ} {command : face.Command} {reply : face.Reply command},
      Good before → answers before command reply after → Good after)
    (later : Later answers before after) (initially : Good before) : Good after := by
  induction later with
  | refl =>
    exact initially
  | tail _ step ih =>
    rcases step with ⟨command, reply, answered⟩
    exact preserved ih answered

/-- Nothing that was recorded is lost. -/
theorem Later.recorded {before after : List (Exchange face)}
    (later : Later (recording face) before after) {exchange : Exchange face}
    (member : exchange ∈ before) : exchange ∈ after := by
  apply later.invariant (exchange ∈ ·) _ member
  rintro first second command reply isIn rfl
  exact List.mem_append_left _ isIn

end

end PortableTpcc
