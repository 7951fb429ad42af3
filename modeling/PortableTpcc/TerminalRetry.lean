import PortableTpcc.WorkflowDiscipline

namespace PortableTpcc

/-!
# The retry loop of a terminal

`TTerminal::Run` executes one admitted business transaction as a sequence of
attempts: each acquires a session, begins, runs the workflow and decides from
the result whether another attempt follows.  The inputs are generated by the
first attempt that reaches its workflow and kept in the context.

The loop that waits for a pooled session is bounded by a number of polls, so
that every wait that ends is covered by some bound.  Think times, latencies
and the `select 1` simulation are left out.
-/

/-- The counters that a business transaction may change. -/
inductive Recorded where
  | ok
  | failed
  | userAborted
  | retried
deriving Repr, DecidableEq

/-- What the terminal asks of its surroundings. -/
inductive TerminalCommand where
  | stopRequested
  | mayAdmit
  | waitCreateSession
  | begin
  | releaseSession
  | generateInputs
  | workflow (command : WorkflowCommand)
  | retryDelay (attempt : Nat)
  | suspend
  | completelyWithinMeasurement
  | progress (recorded : Recorded)
  | measure (recorded : Recorded)

/-- The reply to each terminal command. -/
abbrev TerminalReply : TerminalCommand → Type
  | .stopRequested => Bool
  | .mayAdmit => Bool
  | .waitCreateSession => Except StdException Bool
  | .begin => Except StdException Unit
  | .releaseSession => Unit
  | .generateInputs => TxInputs
  | .workflow command => WorkflowReply command
  | .retryDelay _ => Int
  | .suspend => Unit
  | .completelyWithinMeasurement => Bool
  | .progress _ => Unit
  | .measure _ => Unit

/-- The interface between the terminal and its surroundings. -/
abbrev terminalFace : Interface where
  Command := TerminalCommand
  Reply := TerminalReply

/-- Await one reply from the surroundings. -/
def ask (command : TerminalCommand) : Prog terminalFace (TerminalReply command) :=
  .call command .done

/-- Awaiting a reply is one answer followed by the continuation. -/
theorem runs_ask_bind {σ α : Type} {answers : Answers terminalFace σ} {command : TerminalCommand}
    {next : TerminalReply command → Prog terminalFace α} {before after : σ} {result : α}
    (run : Runs answers (ask command >>= next) before result after) :
    ∃ reply middle, answers before command reply middle ∧
      Runs answers (next reply) middle result after :=
  Runs.call_iff.mp run

/-- The settings of the retry loop. -/
structure RetryConfig where
  retryMaxAttempts : Nat
  retryAmbiguousCommit : Bool
  classifyException : StdException → EErrorClass

/-- `EffectiveRetryMaxAttempts`. -/
def effectiveRetryMaxAttempts (configured : Nat) : Nat :=
  if configured = 0 then 4 else configured

/-- `ShouldRetryClass`. -/
def shouldRetryClass (errorClass : EErrorClass) (retryAmbiguousCommit : Bool) : Bool :=
  mayBlindRetry errorClass || (errorClass = .ambiguousCommit && retryAmbiguousCommit)

/-- How the wait for a session ends. -/
inductive SessionWait where
  | acquired
  | gaveUp
  | stillWaiting
deriving Repr, DecidableEq

/-- The polling loop around `WaitCreateSession`. -/
def acquireSession :
    Nat → Prog terminalFace (Except StdException SessionWait)
  | 0 => .done (.ok .stillWaiting)
  | polls + 1 =>
    .call TerminalCommand.waitCreateSession fun reply =>
      match reply with
      | .error ex => .done (.error ex)
      | .ok true => .done (.ok .acquired)
      | .ok false =>
        .call TerminalCommand.stopRequested fun stopped =>
          match stopped with
          | true => .done (.ok .gaveUp)
          | false =>
            .call TerminalCommand.mayAdmit fun admits =>
              match admits with
              | false => .done (.ok .gaveUp)
              | true =>
                .call TerminalCommand.suspend fun _ => acquireSession polls

/-- Run a workflow with the terminal's transaction. -/
def runWorkflow : Task → Prog terminalFace (Except Thrown Bool)
  | .done result => .done result
  | .call command next =>
    .call (TerminalCommand.workflow command) fun reply => runWorkflow (next reply)

/-- `FixedTransactionInputs`. -/
def fixedTransactionInputs (fixedInputs : Option TxInputs) : Prog terminalFace TxInputs :=
  match fixedInputs with
  | some inputs => .done inputs
  | none => ask .generateInputs

/-- `recordOk`, `recordFailed` and `recordUserAborted`. -/
def record (recorded : Recorded) : Prog terminalFace Unit := do
  ask (.progress recorded)
  match ← ask .completelyWithinMeasurement with
  | true => ask (.measure recorded)
  | false => return ()

/-- `recordRetried`, which has no progress counter. -/
def recordRetried : Prog terminalFace Unit := do
  match ← ask .completelyWithinMeasurement with
  | true => ask (.measure .retried)
  | false => return ()

/-- The counters that the `try` block itself updates. -/
def recordResult : Except Thrown Bool → Prog terminalFace Unit
  | .ok true => record .ok
  | .ok false => record .failed
  | .error _ => return ()

/-- What one pass through the `try` block leaves behind. -/
structure AttemptResult where
  /-- The value of the workflow or the exception; none without a session. -/
  outcome : Option (Except Thrown Bool)
  /-- `Context.FixedInputs` after the attempt. -/
  fixedInputs : Option TxInputs
  /-- The inputs that the attempt's workflow ran with, if it was started. -/
  started : Option TxInputs

/-- The workflow of an attempt whose transaction has begun. -/
def attemptWorkflow (fixedInputs : Option TxInputs) : Prog terminalFace AttemptResult := do
  let inputs ← fixedTransactionInputs fixedInputs
  let result ← runWorkflow inputs.task
  recordResult result
  ask .releaseSession
  return ⟨some result, some inputs, some inputs⟩

/-- The `try` block with the release of the session at its end. -/
def tryAttempt (polls : Nat) (fixedInputs : Option TxInputs) : Prog terminalFace AttemptResult := do
  match ← acquireSession polls with
  | .error ex =>
    return ⟨some (.error (.exception ex)), fixedInputs, none⟩
  | .ok .gaveUp =>
    return ⟨none, fixedInputs, none⟩
  | .ok .stillWaiting =>
    return ⟨none, fixedInputs, none⟩
  | .ok .acquired =>
    match ← ask .begin with
    | .error ex =>
      ask .releaseSession
      return ⟨some (.error (.exception ex)), fixedInputs, none⟩
    | .ok () =>
      attemptWorkflow fixedInputs

/-- What the loop does after an attempt. -/
inductive Decision where
  | leave
  | fatal
  | retry
deriving Repr, DecidableEq

/-- The handler shared by the classified and the general `catch` blocks. -/
def handleClass (config : RetryConfig) (attemptsRemain : Bool)
    (errorClass : EErrorClass) : Prog terminalFace Decision := do
  match ← ask .stopRequested with
  | true => return .leave
  | false =>
    if errorClass = .integrity then
      record .failed
      return .fatal
    else if errorClass = .cancelled then
      return .leave
    else if shouldRetryClass errorClass config.retryAmbiguousCommit && attemptsRemain then
      recordRetried
      return .retry
    else
      record .failed
      return if abortsRun errorClass then .fatal else .leave

/-- The `catch` blocks, and what the loop does after them. -/
def decideNext (config : RetryConfig) (attemptsRemain : Bool) :
    Option (Except Thrown Bool) → Prog terminalFace Decision
  | none =>
    return .leave
  | some (.ok _) =>
    return .leave
  | some (.error .userAborted) => do
      record .userAborted
      return .leave
  | some (.error (.classified errorClass _ _)) =>
    handleClass config attemptsRemain errorClass
  | some (.error (.exception ex)) =>
    handleClass config attemptsRemain (config.classifyException ex)

/-- The backoff before the next attempt; true when the loop goes on. -/
def backOff (attempt : Nat) : Prog terminalFace Bool := do
  let delay : Int ← ask (.retryDelay attempt)
  if delay > 0 then
    ask .suspend
    match ← ask .stopRequested with
    | true => return false
    | false => return true
  else
    return true

/-- The end of a business transaction. -/
structure BusinessResult where
  fatal : Bool
  /-- The inputs of the workflows that were started, one for each attempt. -/
  started : List TxInputs

/-- The attempt loop, with the number of attempts that may still be made. -/
def attemptLoop (config : RetryConfig) (polls : Nat) :
    Nat → Nat → Option TxInputs → Prog terminalFace BusinessResult
  | 0, _, _ =>
    return ⟨false, []⟩
  | remaining + 1, attempt, fixedInputs => do
      let result ← tryAttempt polls fixedInputs
      let decision ← decideNext config (remaining > 0) result.outcome
      match decision with
      | .leave => return ⟨false, result.started.toList⟩
      | .fatal => return ⟨true, result.started.toList⟩
      | .retry =>
        match ← backOff attempt with
        | false => return ⟨false, result.started.toList⟩
        | true =>
          let rest ← attemptLoop config polls remaining (attempt + 1) result.fixedInputs
          return ⟨rest.fatal, result.started.toList ++ rest.started⟩

/-- One admitted business transaction of `TTerminal::Run`. -/
def businessTransaction (config : RetryConfig)
    (polls : Nat) : Prog terminalFace BusinessResult := do
  let result ← attemptLoop config polls (effectiveRetryMaxAttempts config.retryMaxAttempts) 0 none
  if result.fatal then
    ask (.workflow .requestStopWithError)
    return result
  else
    return result

end PortableTpcc
