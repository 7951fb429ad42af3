import PortableTpcc.TerminalRetry

namespace PortableTpcc

/-!
# Commits across the attempts of a business transaction

This module relates what happens inside one attempt to the whole retry loop.
An adapter is described by its surroundings: which inputs are generated, how
sessions are acquired, begun and released, and how the commands of a workflow
are answered.  Two
counters of that state are observed, the transactions that the server has
applied and the commits that it has confirmed.

If an attempt that may have been applied is never one that the loop retries,
then at most one attempt of a business transaction is applied.
-/

/-- The surroundings of a terminal that uses one database adapter. -/
structure Surroundings (σ : Type) where
  generates : TxInputs → Prop
  waitCreateSession : σ → Except StdException Bool → σ → Prop
  begin : σ → Except StdException Unit → σ → Prop
  releaseSession : σ → σ → Prop
  workflow : Answers workflowFace σ

/-- The adapter's state and the progress counters, newest entry first. -/
structure TerminalState (σ : Type) where
  inner : σ
  recorded : List Recorded

namespace Surroundings

variable {σ : Type}

/-- The replies a terminal may get; the harness itself answers at will. -/
def answers (surroundings : Surroundings σ) : Answers terminalFace (TerminalState σ) :=
  fun before command reply after =>
    match command, reply with
    | .waitCreateSession, reply =>
      surroundings.waitCreateSession before.inner reply after.inner ∧
        after.recorded = before.recorded
    | .begin, reply =>
      surroundings.begin before.inner reply after.inner ∧ after.recorded = before.recorded
    | .releaseSession, _ =>
      surroundings.releaseSession before.inner after.inner ∧ after.recorded = before.recorded
    | .workflow command, reply =>
      surroundings.workflow before.inner command reply after.inner ∧
        after.recorded = before.recorded
    | .generateInputs, inputs =>
      surroundings.generates inputs ∧ after = before
    | .progress recorded, _ =>
      after = { before with recorded := recorded :: before.recorded }
    | _, _ =>
      after = before

end Surroundings

/-- The error class by which the terminal judges a result, if it has one. -/
def classOf (classifyException : StdException → EErrorClass) :
    Except Thrown Bool → Option EErrorClass
  | .ok _ => none
  | .error .userAborted => none
  | .error (.classified errorClass _ _) => some errorClass
  | .error (.exception ex) => some (classifyException ex)

/-- The terminal never retries this result with ambiguous retries off. -/
def NotRetried (classifyException : StdException → EErrorClass)
    (result : Except Thrown Bool) : Prop :=
  ∀ errorClass, classOf classifyException result = some errorClass →
    mayBlindRetry errorClass = false

/-- What an adapter must guarantee about sessions and single attempts. -/
structure AtMostOnceRule {σ : Type} (surroundings : Surroundings σ)
    (classifyException : StdException → EErrorClass) (applied confirmed : σ → Nat)
    (Idle Working : σ → Prop) : Prop where
  wait : ∀ {before reply after}, Idle before → surroundings.waitCreateSession before reply after →
    Idle after ∧ applied after = applied before ∧ confirmed after = confirmed before
  begin : ∀ {before reply after}, Idle before → surroundings.begin before reply after →
    Working after ∧ applied after = applied before ∧ confirmed after = confirmed before
  release : ∀ {before after}, surroundings.releaseSession before after → Idle after ∧
    applied after = applied before ∧ confirmed after = confirmed before
  requestStop : ∀ {before reply after}, surroundings.workflow before
    WorkflowCommand.requestStopWithError reply after → applied after = applied before ∧
    confirmed after = confirmed before
  attempt :
    ∀ {inputs before result after},
      surroundings.generates inputs →
      Working before →
      Runs surroundings.workflow (TxInputs.task inputs) before result after →
      (applied after = applied before ∨
          applied after = applied before + 1 ∧
            NotRetried classifyException result) ∧
        confirmed before + (if result = .ok true then 1 else 0) ≤
          confirmed after

/-- Running a workflow in the terminal is running it in the adapter. -/
theorem runs_runWorkflow {σ : Type} {surroundings : Surroundings σ} {task : Task}
    {before after : TerminalState σ} {result : Except Thrown Bool} :
    Runs surroundings.answers (runWorkflow task) before result after ↔
      Runs surroundings.workflow task before.inner result after.inner ∧
      after.recorded = before.recorded := by
  induction task generalizing before with
  | done value =>
    simp only [runWorkflow, Runs.done_iff]
    constructor
    · rintro ⟨rfl, rfl⟩
      exact ⟨⟨rfl, rfl⟩, rfl⟩
    · rintro ⟨⟨rfl, same⟩, unrecorded⟩
      obtain ⟨inner, recorded⟩ := after
      obtain rfl : inner = before.inner := same
      obtain rfl : recorded = before.recorded := unrecorded
      exact ⟨rfl, rfl⟩
  | call command next ih =>
    simp only [runWorkflow, Runs.call_iff, ih]
    constructor
    · rintro ⟨reply, middle, ⟨answered, unrecorded⟩, inner, recorded⟩
      exact ⟨⟨reply, middle.inner, answered, inner⟩, recorded.trans unrecorded⟩
    · rintro ⟨⟨reply, middle, answered, inner⟩, recorded⟩
      exact ⟨reply, ⟨middle, before.recorded⟩, ⟨answered, rfl⟩, inner, recorded⟩

namespace AtMostOnceRule

variable {σ : Type} {surroundings : Surroundings σ}
  {classifyException : StdException → EErrorClass}
  {applied confirmed : σ → Nat} {Idle Working : σ → Prop}

/-- The counters are unchanged and nothing was recorded. -/
def Quiet (applied confirmed : σ → Nat) (before after : TerminalState σ) : Prop :=
  applied after.inner = applied before.inner ∧ confirmed after.inner = confirmed before.inner ∧
    after.recorded = before.recorded

variable {before after : TerminalState σ}

theorem Quiet.trans {middle : TerminalState σ} (first : Quiet applied confirmed before middle)
    (second : Quiet applied confirmed middle after) : Quiet applied confirmed before after :=
  ⟨second.1.trans first.1, second.2.1.trans first.2.1, second.2.2.trans first.2.2⟩

theorem acquireSession_quiet
    (rule : AtMostOnceRule surroundings classifyException applied confirmed Idle Working)
    (polls : Nat) {result : Except StdException SessionWait} (idle : Idle before.inner)
    (run : Runs surroundings.answers (acquireSession polls) before result after) :
    Idle after.inner ∧ Quiet applied confirmed before after := by
  induction polls generalizing before with
  | zero =>
    obtain ⟨_, rfl⟩ := Runs.done_iff.mp run
    exact ⟨idle, rfl, rfl, rfl⟩
  | succ polls ih =>
    obtain ⟨reply, middle, ⟨waited, unrecorded⟩, later⟩ := Runs.call_iff.mp run
    obtain ⟨middleIdle, sameApplied, sameConfirmed⟩ := rule.wait idle waited
    have quiet : Quiet applied confirmed before middle := ⟨sameApplied, sameConfirmed, unrecorded⟩
    match reply with
    | .error _ =>
      obtain ⟨_, rfl⟩ := Runs.done_iff.mp later
      exact ⟨middleIdle, quiet⟩
    | .ok true =>
      obtain ⟨_, rfl⟩ := Runs.done_iff.mp later
      exact ⟨middleIdle, quiet⟩
    | .ok false =>
      obtain ⟨stopped, _, rfl, afterStop⟩ := Runs.call_iff.mp later
      match stopped with
      | true =>
        obtain ⟨_, rfl⟩ := Runs.done_iff.mp afterStop
        exact ⟨middleIdle, quiet⟩
      | false =>
        obtain ⟨admits, _, rfl, afterAdmit⟩ := Runs.call_iff.mp afterStop
        match admits with
        | false =>
          obtain ⟨_, rfl⟩ := Runs.done_iff.mp afterAdmit
          exact ⟨middleIdle, quiet⟩
        | true =>
          obtain ⟨_, _, rfl, afterSuspend⟩ := Runs.call_iff.mp afterAdmit
          obtain ⟨afterIdle, restQuiet⟩ := ih middleIdle afterSuspend
          exact ⟨afterIdle, quiet.trans restQuiet⟩

theorem record_spec {recorded : Recorded} {result : Unit}
    (run : Runs surroundings.answers (record recorded) before result after) :
    after = { before with recorded := recorded :: before.recorded } := by
  obtain ⟨_, middle, rfl, afterProgress⟩ := Runs.call_iff.mp run
  obtain ⟨within, _, rfl, afterWithin⟩ := Runs.call_iff.mp afterProgress
  match within with
  | true =>
    obtain ⟨_, _, rfl, finished⟩ := Runs.call_iff.mp afterWithin
    exact (Runs.done_iff.mp finished).2
  | false =>
    exact (Runs.done_iff.mp afterWithin).2

theorem recordRetried_spec {result : Unit}
    (run : Runs surroundings.answers recordRetried before result after) : after = before := by
  obtain ⟨within, _, rfl, afterWithin⟩ := Runs.call_iff.mp run
  match within with
  | true =>
    obtain ⟨_, _, rfl, finished⟩ := Runs.call_iff.mp afterWithin
    exact (Runs.done_iff.mp finished).2
  | false =>
    exact (Runs.done_iff.mp afterWithin).2

/-- A result is recorded once, as `OK` only when it is a success. -/
theorem recordResult_spec {outcome : Except Thrown Bool} {result : Unit}
    (run : Runs surroundings.answers (recordResult outcome) before result after) :
    after.inner = before.inner ∧ after.recorded.count .ok =
      before.recorded.count .ok + if outcome = .ok true then 1 else 0 := by
  match outcome with
  | .ok true =>
    obtain rfl := record_spec run
    simp
  | .ok false =>
    obtain rfl := record_spec run
    simp
  | .error thrown =>
    obtain ⟨_, rfl⟩ := Runs.done_iff.mp run
    simp

/-- The inputs that an attempt keeps for the next one. -/
def InputsKept (fixedInputs : Option TxInputs) (result : AttemptResult) : Prop :=
  (result.started = none ∧ result.fixedInputs = fixedInputs) ∨ ∃ inputs,
    result.started = some inputs ∧ result.fixedInputs = some inputs ∧
    (fixedInputs = none ∨ fixedInputs = some inputs)

/-- What one attempt does to the observed counters. -/
structure AttemptSpec (classifyException : StdException → EErrorClass) (applied confirmed : σ → Nat)
    (fixedInputs : Option TxInputs) (before : TerminalState σ) (result : AttemptResult)
    (after : TerminalState σ) : Prop where
  applied : applied after.inner = applied before.inner ∨
    applied after.inner = applied before.inner + 1 ∧ ∀ outcome, result.outcome = some outcome →
    NotRetried classifyException outcome
  confirmed : after.recorded.count .ok + confirmed before.inner ≤
    before.recorded.count .ok + confirmed after.inner
  inputs : InputsKept fixedInputs result

variable {fixedInputs : Option TxInputs}

theorem attemptSpec_of_quiet {outcome : Option (Except Thrown Bool)}
    (quiet : Quiet applied confirmed before after) :
    AttemptSpec classifyException applied confirmed fixedInputs before
      ⟨outcome, fixedInputs, none⟩ after where
  applied := .inl quiet.1
  confirmed := by rw [quiet.2.1, quiet.2.2]
  inputs := .inl ⟨rfl, rfl⟩

/-- The inputs that are kept were generated. -/
def Generated (surroundings : Surroundings σ) (fixedInputs : Option TxInputs) : Prop :=
  ∀ inputs, fixedInputs = some inputs → surroundings.generates inputs

/-- Inputs are generated only when none are kept. -/
theorem fixedTransactionInputs_spec (generated : Generated surroundings fixedInputs)
    {inputs : TxInputs}
    (run : Runs surroundings.answers (fixedTransactionInputs fixedInputs) before inputs after) :
    surroundings.generates inputs ∧ (fixedInputs = none ∨ fixedInputs = some inputs) ∧
      after = before := by
  cases fixedInputs with
  | none =>
    obtain ⟨_, _, ⟨fresh, rfl⟩, finished⟩ := Runs.call_iff.mp run
    obtain ⟨rfl, rfl⟩ := Runs.done_iff.mp finished
    exact ⟨fresh, .inl rfl, rfl⟩
  | some fixed =>
    obtain ⟨rfl, rfl⟩ := Runs.done_iff.mp run
    exact ⟨generated _ rfl, .inr rfl, rfl⟩

variable {result : AttemptResult}

theorem attemptWorkflow_spec
    (rule : AtMostOnceRule surroundings classifyException applied confirmed Idle Working)
    (generated : Generated surroundings fixedInputs) (working : Working before.inner)
    (run : Runs surroundings.answers (attemptWorkflow fixedInputs) before result after) :
    Idle after.inner ∧ Generated surroundings result.fixedInputs ∧
      AttemptSpec classifyException applied confirmed fixedInputs before result after := by
  obtain ⟨inputs, _, chosen, afterInputs⟩ := Runs.bind_iff.mp run
  obtain ⟨fresh, kept, rfl⟩ := fixedTransactionInputs_spec generated chosen
  obtain ⟨outcome, worked, workflow, afterWorkflow⟩ := Runs.bind_iff.mp afterInputs
  obtain ⟨inner, unrecorded⟩ := runs_runWorkflow.mp workflow
  obtain ⟨appliedOnce, confirmedOnce⟩ := rule.attempt fresh working inner
  obtain ⟨_, noted, recording, afterRecord⟩ := Runs.bind_iff.mp afterWorkflow
  obtain ⟨sameInner, okCount⟩ := recordResult_spec recording
  obtain ⟨_, _, ⟨released, unrecordedRelease⟩, finished⟩ := Runs.call_iff.mp afterRecord
  obtain ⟨rfl, rfl⟩ := Runs.done_iff.mp finished
  obtain ⟨idle, sameApplied, sameConfirmed⟩ := rule.release released
  rw [sameInner] at sameApplied sameConfirmed
  refine ⟨idle, ?_, ?_, ?_, .inr ⟨inputs, rfl, rfl, kept⟩⟩
  · rintro _ ⟨⟩
    exact fresh
  · rw [sameApplied]
    refine appliedOnce.imp_right fun once => ⟨once.1, ?_⟩
    rintro _ ⟨⟩
    exact once.2
  · rw [sameConfirmed, unrecordedRelease, okCount, unrecorded]
    omega

variable {polls : Nat}

theorem tryAttempt_spec
    (rule : AtMostOnceRule surroundings classifyException applied confirmed Idle Working)
    (generated : Generated surroundings fixedInputs) (idle : Idle before.inner)
    (run : Runs surroundings.answers (tryAttempt polls fixedInputs) before result after) :
    Idle after.inner ∧ Generated surroundings result.fixedInputs ∧
      AttemptSpec classifyException applied confirmed fixedInputs before result after := by
  obtain ⟨wait, waited, acquiring, afterWait⟩ := Runs.bind_iff.mp run
  obtain ⟨waitedIdle, waitQuiet⟩ := rule.acquireSession_quiet polls idle acquiring
  match wait with
  | .error ex =>
    obtain ⟨rfl, rfl⟩ := Runs.done_iff.mp afterWait
    exact ⟨waitedIdle, generated, attemptSpec_of_quiet waitQuiet⟩
  | .ok .gaveUp =>
    obtain ⟨rfl, rfl⟩ := Runs.done_iff.mp afterWait
    exact ⟨waitedIdle, generated, attemptSpec_of_quiet waitQuiet⟩
  | .ok .stillWaiting =>
    obtain ⟨rfl, rfl⟩ := Runs.done_iff.mp afterWait
    exact ⟨waitedIdle, generated, attemptSpec_of_quiet waitQuiet⟩
  | .ok .acquired =>
    obtain ⟨begun, ready, ⟨beginning, unrecorded⟩, afterBegin⟩ := Runs.call_iff.mp afterWait
    obtain ⟨working, sameApplied, sameConfirmed⟩ := rule.begin waitedIdle beginning
    have beginQuiet : Quiet applied confirmed before ready :=
      waitQuiet.trans ⟨sameApplied, sameConfirmed, unrecorded⟩
    match begun with
    | .error ex =>
      obtain ⟨_, _, ⟨released, unrecordedRelease⟩, finished⟩ := Runs.call_iff.mp afterBegin
      obtain ⟨rfl, rfl⟩ := Runs.done_iff.mp finished
      obtain ⟨releasedIdle, appliedRelease, confirmedRelease⟩ := rule.release released
      exact ⟨releasedIdle, generated, attemptSpec_of_quiet (beginQuiet.trans
        ⟨appliedRelease, confirmedRelease, unrecordedRelease⟩)⟩
    | .ok () =>
      obtain ⟨afterIdle, stillGenerated, spec⟩ :=
        rule.attemptWorkflow_spec generated working afterBegin
      refine ⟨afterIdle, stillGenerated, ?_, ?_, spec.inputs⟩
      · rw [← beginQuiet.1]
        exact spec.applied
      · rw [← beginQuiet.2.1, ← beginQuiet.2.2]
        exact spec.confirmed

variable {config : RetryConfig}

/-- The handlers record no success and retry only retryable classes. -/
theorem handleClass_spec (ambiguousOff : config.retryAmbiguousCommit = false)
    {attemptsRemain : Bool} {errorClass : EErrorClass} {decision : Decision}
    (run : Runs surroundings.answers (handleClass config attemptsRemain errorClass)
      before decision after) :
    after.inner = before.inner ∧ after.recorded.count .ok = before.recorded.count .ok ∧
      (decision = .retry → mayBlindRetry errorClass = true) := by
  obtain ⟨stopped, _, rfl, afterStop⟩ := runs_ask_bind run
  match stopped with
  | true =>
    obtain ⟨rfl, rfl⟩ := Runs.done_iff.mp afterStop
    simp
  | false =>
    simp only at afterStop
    split at afterStop
    · obtain ⟨_, _, recording, finished⟩ := Runs.bind_iff.mp afterStop
      obtain ⟨rfl, rfl⟩ := Runs.done_iff.mp finished
      obtain rfl := record_spec recording
      simp
    · split at afterStop
      · obtain ⟨rfl, rfl⟩ := Runs.done_iff.mp afterStop
        simp
      · split at afterStop
        · rename_i retries
          obtain ⟨_, _, recording, finished⟩ := Runs.bind_iff.mp afterStop
          obtain ⟨rfl, rfl⟩ := Runs.done_iff.mp finished
          obtain rfl := recordRetried_spec recording
          simp_all [shouldRetryClass]
        · obtain ⟨_, _, recording, finished⟩ := Runs.bind_iff.mp afterStop
          obtain ⟨rfl, rfl⟩ := Runs.done_iff.mp finished
          obtain rfl := record_spec recording
          refine ⟨rfl, by simp, ?_⟩
          split <;> simp

/-- A retry follows only a result that the terminal may retry. -/
theorem decideNext_spec (ambiguousOff : config.retryAmbiguousCommit = false)
    {attemptsRemain : Bool} {outcome : Option (Except Thrown Bool)} {decision : Decision}
    (run : Runs surroundings.answers (decideNext config attemptsRemain outcome)
      before decision after) :
    after.inner = before.inner ∧ after.recorded.count .ok = before.recorded.count .ok ∧
      (decision = .retry → ∃ result, outcome = some result ∧
      ¬ NotRetried config.classifyException result) := by
  match outcome with
  | none =>
    obtain ⟨rfl, rfl⟩ := Runs.done_iff.mp run
    simp
  | some (.ok value) =>
    obtain ⟨rfl, rfl⟩ := Runs.done_iff.mp run
    simp
  | some (.error .userAborted) =>
    obtain ⟨_, _, recording, finished⟩ := Runs.bind_iff.mp run
    obtain ⟨rfl, rfl⟩ := Runs.done_iff.mp finished
    obtain rfl := record_spec recording
    simp
  | some (.error (.classified errorClass code what)) =>
    obtain ⟨sameInner, sameCount, retried⟩ := handleClass_spec ambiguousOff run
    refine ⟨sameInner, sameCount, fun retry => ⟨_, rfl, ?_⟩⟩
    simp [NotRetried, classOf, retried retry]
  | some (.error (.exception ex)) =>
    obtain ⟨sameInner, sameCount, retried⟩ := handleClass_spec ambiguousOff run
    refine ⟨sameInner, sameCount, fun retry => ⟨_, rfl, ?_⟩⟩
    simp [NotRetried, classOf, retried retry]

theorem backOff_spec {attempt : Nat} {goesOn : Bool}
    (run : Runs surroundings.answers (backOff attempt) before goesOn after) : after = before := by
  obtain ⟨delay, _, rfl, afterDelay⟩ := runs_ask_bind run
  split at afterDelay
  · obtain ⟨_, _, rfl, afterSuspend⟩ := runs_ask_bind afterDelay
    obtain ⟨stopped, _, rfl, finished⟩ := runs_ask_bind afterSuspend
    match stopped with
    | true =>
      exact (Runs.done_iff.mp finished).2
    | false =>
      exact (Runs.done_iff.mp finished).2
  · exact (Runs.done_iff.mp afterDelay).2

/-- What the whole loop does to the observed counters. -/
structure LoopSpec (applied confirmed : σ → Nat) (fixedInputs : Option TxInputs)
    (before : TerminalState σ) (result : BusinessResult) (after : TerminalState σ) : Prop where
  applied : applied after.inner ≤ applied before.inner + 1
  confirmed : after.recorded.count .ok + confirmed before.inner ≤
    before.recorded.count .ok + confirmed after.inner
  inputs : ∃ inputs, (∀ fixed, fixedInputs = some fixed → fixed = inputs) ∧
    ∀ started ∈ result.started, started = inputs

/-- The inputs started so far are the kept ones. -/
theorem InputsKept.all_started (kept : InputsKept fixedInputs result) :
    ∃ inputs, (∀ fixed, fixedInputs = some fixed → fixed = inputs) ∧
      ∀ started ∈ result.started.toList, started = inputs := by
  rcases kept with ⟨notStarted, _⟩ | ⟨inputs, started, _, previous⟩
  · cases fixedInputs with
    | none =>
      exact ⟨.stockLevel ⟨0, 0, 0⟩, by simp, by simp [notStarted]⟩
    | some fixed =>
      exact ⟨fixed, by simp, by simp [notStarted]⟩
  · refine ⟨inputs, ?_, by simp [started]⟩
    rintro fixed rfl
    simpa using previous

/-- The later attempts of a loop use the inputs of the first one. -/
theorem startedAgree {later : List TxInputs} (kept : InputsKept fixedInputs result)
    (rest : ∃ inputs, (∀ fixed, result.fixedInputs = some fixed → fixed = inputs) ∧
      ∀ started ∈ later, started = inputs) :
    ∃ inputs, (∀ fixed, fixedInputs = some fixed → fixed = inputs) ∧
      ∀ started ∈ result.started.toList ++ later, started = inputs := by
  obtain ⟨inputs, same, all⟩ := rest
  rcases kept with ⟨notStarted, unchanged⟩ | ⟨first, started, now, previous⟩
  · rw [unchanged] at same
    exact ⟨inputs, same, by simpa [notStarted] using all⟩
  · obtain rfl := same first now
    refine ⟨first, ?_, ?_⟩
    · rintro fixed rfl
      simpa using previous
    · simpa [started] using all

/-- An attempt that ends the loop is within the bounds of the loop. -/
theorem AttemptSpec.toLoopSpec {middle : TerminalState σ} {fatal : Bool}
    (spec : AttemptSpec classifyException applied confirmed fixedInputs before result middle)
    (sameInner : after.inner = middle.inner)
    (sameCount : after.recorded.count .ok = middle.recorded.count .ok) :
    LoopSpec applied confirmed fixedInputs before ⟨fatal, result.started.toList⟩ after where
  applied := by
    rw [sameInner]
    rcases spec.applied with same | ⟨once, _⟩ <;> omega
  confirmed := by
    rw [sameInner, sameCount]
    exact spec.confirmed
  inputs := spec.inputs.all_started

theorem attemptLoop_spec
    (rule : AtMostOnceRule surroundings config.classifyException applied confirmed Idle Working)
    (ambiguousOff : config.retryAmbiguousCommit = false) (remaining : Nat) {attempt : Nat}
    {result : BusinessResult} (generated : Generated surroundings fixedInputs)
    (idle : Idle before.inner) (run : Runs surroundings.answers
      (attemptLoop config polls remaining attempt fixedInputs)
      before result after) : LoopSpec applied confirmed fixedInputs before result after := by
  induction remaining generalizing attempt fixedInputs before result with
  | zero =>
    obtain ⟨rfl, rfl⟩ := Runs.done_iff.mp run
    have notStarted : InputsKept fixedInputs ⟨none, fixedInputs, none⟩ := .inl ⟨rfl, rfl⟩
    exact ⟨by omega, le_refl _, notStarted.all_started⟩
  | succ remaining ih =>
    obtain ⟨tried, middle, trying, afterTry⟩ := Runs.bind_iff.mp run
    obtain ⟨middleIdle, stillGenerated, spec⟩ := rule.tryAttempt_spec generated idle trying
    obtain ⟨decision, decided, deciding, afterDecision⟩ := Runs.bind_iff.mp afterTry
    obtain ⟨sameInner, sameCount, retried⟩ := decideNext_spec ambiguousOff deciding
    cases decision with
    | leave =>
      obtain ⟨rfl, rfl⟩ := Runs.done_iff.mp afterDecision
      exact spec.toLoopSpec sameInner sameCount
    | fatal =>
      obtain ⟨rfl, rfl⟩ := Runs.done_iff.mp afterDecision
      exact spec.toLoopSpec sameInner sameCount
    | retry =>
      obtain ⟨goesOn, _, backing, afterBackOff⟩ := Runs.bind_iff.mp afterDecision
      obtain rfl := backOff_spec backing
      cases goesOn with
      | false =>
        obtain ⟨rfl, rfl⟩ := Runs.done_iff.mp afterBackOff
        exact spec.toLoopSpec sameInner sameCount
      | true =>
        obtain ⟨rest, _, looping, finished⟩ := Runs.bind_iff.mp afterBackOff
        obtain ⟨rfl, rfl⟩ := Runs.done_iff.mp finished
        have loop := ih stillGenerated (sameInner ▸ middleIdle) looping
        obtain ⟨outcome, tookOutcome, mayRetry⟩ := retried rfl
        have notApplied : applied middle.inner = applied before.inner := by
          rcases spec.applied with same | ⟨_, notRetried⟩
          · exact same
          · exact absurd (notRetried outcome tookOutcome) mayRetry
        refine ⟨?_, ?_, ?_⟩
        · have bound := loop.applied
          rw [sameInner, notApplied] at bound
          exact bound
        · have attemptBound := spec.confirmed
          have loopBound := loop.confirmed
          rw [sameInner, sameCount] at loopBound
          omega
        · exact startedAgree spec.inputs loop.inputs

/--
Under the rule, at most one attempt of a business transaction is applied, the
attempts share their inputs, and every recorded success has a confirmed
commit of its own.
-/
theorem businessTransaction_spec
    (rule : AtMostOnceRule surroundings config.classifyException applied confirmed Idle Working)
    (ambiguousOff : config.retryAmbiguousCommit = false) {result : BusinessResult}
    (idle : Idle before.inner)
    (run : Runs surroundings.answers (businessTransaction config polls) before result after) :
    LoopSpec applied confirmed none before result after := by
  obtain ⟨looped, middle, looping, afterLoop⟩ := Runs.bind_iff.mp run
  have noneKept : Generated surroundings none := by
    rintro _ ⟨⟩
  have loop := rule.attemptLoop_spec ambiguousOff _ noneKept idle looping
  split at afterLoop
  · obtain ⟨_, _, ⟨stopping, unrecorded⟩, finished⟩ := runs_ask_bind afterLoop
    obtain ⟨rfl, rfl⟩ := Runs.done_iff.mp finished
    obtain ⟨sameApplied, sameConfirmed⟩ := rule.requestStop stopping
    refine ⟨?_, ?_, loop.inputs⟩
    · rw [sameApplied]
      exact loop.applied
    · rw [sameConfirmed, unrecorded]
      exact loop.confirmed
  · obtain ⟨rfl, rfl⟩ := Runs.done_iff.mp afterLoop
    exact loop

end AtMostOnceRule

section

variable {σ : Type} {surroundings : Surroundings σ}

/-- An attempt that gets its session and its transaction object at once. -/
theorem tryAttempt_runs {fixedInputs : Option TxInputs} {idle begun : σ} {recorded : List Recorded}
    {result : AttemptResult} {after : TerminalState σ}
    (acquired : surroundings.waitCreateSession idle (.ok true) idle)
    (begins : surroundings.begin idle (.ok ()) begun)
    (attempted : Runs surroundings.answers (attemptWorkflow fixedInputs) ⟨begun, recorded⟩ result
      after) :
    Runs surroundings.answers (tryAttempt 1 fixedInputs) ⟨idle, recorded⟩ result after :=
  Runs.bind_iff.mpr ⟨.ok .acquired, ⟨idle, recorded⟩,
    Runs.call_iff.mpr ⟨.ok true, ⟨idle, recorded⟩, ⟨acquired, rfl⟩, .done _ _⟩, Runs.bind_iff.mpr
    ⟨.ok (), ⟨begun, recorded⟩, Runs.call_iff.mpr
    ⟨.ok (), ⟨begun, recorded⟩, ⟨begins, rfl⟩, .done _ _⟩, attempted⟩⟩

/-- A transaction whose first attempt fails with an error to retry, and whose second succeeds. -/
theorem businessTransaction_runs_retried {config : RetryConfig} {inputs : TxInputs}
    {failure : Except Thrown Bool} {before between after : TerminalState σ}
    (two : effectiveRetryMaxAttempts config.retryMaxAttempts = 2)
    (failed : Runs surroundings.answers (tryAttempt 1 none) before
      ⟨some failure, some inputs, some inputs⟩ between)
    (retried : Runs surroundings.answers (decideNext config true (some failure)) between .retry
      between)
    (succeeded : Runs surroundings.answers (tryAttempt 1 (some inputs)) between
      ⟨some (.ok true), some inputs, some inputs⟩ after) :
    Runs surroundings.answers (businessTransaction config 1) before ⟨false, [inputs, inputs]⟩
      after := by
  have last : Runs surroundings.answers (attemptLoop config 1 1 1 (some inputs)) between
      ⟨false, [inputs]⟩ after :=
    Runs.bind_iff.mpr ⟨_, _, succeeded, Runs.bind_iff.mpr ⟨.leave, _, .done _ _, .done _ _⟩⟩
  have backedOff : Runs surroundings.answers (backOff 0) between true between :=
    Runs.call_iff.mpr ⟨0, between, rfl, .done _ _⟩
  unfold businessTransaction
  rw [two]
  refine Runs.bind_iff.mpr ⟨⟨false, [inputs, inputs]⟩, after, ?_, .done _ _⟩
  exact Runs.bind_iff.mpr ⟨_, _, failed, Runs.bind_iff.mpr ⟨_, _, retried, Runs.bind_iff.mpr
    ⟨_, _, backedOff, Runs.bind_iff.mpr ⟨_, _, last, .done _ _⟩⟩⟩⟩

end

end PortableTpcc
