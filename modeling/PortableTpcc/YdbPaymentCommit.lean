import PortableTpcc.YdbCommitPaths

namespace PortableTpcc.Ydb

/-!
# Payment's fused commit on YDB

A query that carries `CommitTx` can fail after the server has applied it.
`Commit` tells its classifier that a commit was attempted; `FinishPayment`
goes through `CatchOp`, which does not.  This module determines for which
failures Payment is still applied at most once and reported as ambiguous.
-/

/-! ## One attempt -/

/-- The classifier of the terminal, outside any commit. -/
def classifier (ex : StdException) : EErrorClass :=
  classifyException ex false

/-- The one failure that every path reports as an ambiguous commit. -/
def IsUndetermined (ex : StdException) : Prop :=
  ∃ issues, ex = .ydbError .undetermined issues

/-- What an attempt with this result did to the server. -/
structure Ended (base : Server) (result : Except Thrown Bool)
    (state : Transaction × Server) : Prop where
  applied : state.2.applied = base.applied ∨
    state.2.applied = base.applied + 1 ∧ NotRetried classifier result
  confirmed :
    base.confirmed + (if result = .ok true then 1 else 0) ≤
      state.2.confirmed
  unknown : state.2.unknown = base.unknown ∨ classOf classifier result = some .ambiguousCommit

/-- The attempt has given up and nothing was committed. -/
def Failed (base : Server) (state : Transaction × Server) : Prop :=
  state.2 = base

variable {state : Transaction × Server} {base : Server}

theorem ended_of_failed {result : Except Thrown Bool} (failed : Failed base state)
    (unsuccessful : result ≠ .ok true) : Ended base result state := by
  rw [Failed] at failed
  exact ⟨by simp [failed], by simp [failed, unsuccessful], by simp [failed]⟩

theorem ended_of_confirmed (confirmed : state.2 = base.confirm) : Ended base (.ok true) state := by
  refine ⟨.inr ⟨by simp [confirmed, Server.confirm], ?_⟩, by simp [confirmed, Server.confirm],
    by simp [confirmed, Server.confirm]⟩
  rintro errorClass ⟨⟩

/-- A commit with an open outcome ends well if it is raised as ambiguous. -/
theorem ended_of_lost {nativeCode message : String} {applied : Bool}
    (lost : state.2 = base.lose applied) :
    Ended base (.error (classifiedError .ambiguousCommit nativeCode message)) state := by
  refine ⟨?_, by simp [lost, Server.lose], .inr rfl⟩
  have notRetried : NotRetried classifier
      (.error (classifiedError .ambiguousCommit nativeCode message)) := by
    rintro errorClass ⟨⟩
    rfl
  cases applied <;> simp [lost, Server.lose, notRetried]

/-- Every failure with an open outcome is `UNDETERMINED`. -/
def AlwaysUndetermined (unknown : StdException → Prop) : Prop :=
  ∀ ex, unknown ex → IsUndetermined ex

section

variable {unknown : StdException → Prop} {base : Server}

/-- Then a failed commit changed nothing or was `UNDETERMINED`. -/
theorem CommitFails.cases (undetermined : AlwaysUndetermined unknown) {ex : StdException}
    {after : Server} (failed : CommitFails unknown base ex after) :
    after = base ∨ IsUndetermined ex ∧ ∃ applied, after = base.lose applied := by
  rcases failed with ⟨_, same⟩ | ⟨open_, lost⟩
  · exact .inl same
  · exact .inr ⟨undetermined ex open_, lost⟩

/-- A commit that fails is not reported as committed. -/
theorem failedCommit_verdict (errorClass : EErrorClass) (nativeCode message : String) :
    ∃ text, commitVerdict (failedCommit errorClass nativeCode message) =
      .error (classifiedError errorClass nativeCode text) := by
  have notCommitted : (failedCommit errorClass nativeCode message).outcome ≠ .committed := by
    simp only [failedCommit]
    split <;> decide
  rw [commitVerdict, if_neg notCommitted]
  exact ⟨_, rfl⟩

variable {state : Transaction × Server}

theorem ended_of_failedCommit (undetermined : AlwaysUndetermined unknown) {ex : StdException}
    {errorClass : EErrorClass} {nativeCode message : String}
    (classified : IsUndetermined ex → errorClass = .ambiguousCommit)
    (failed : CommitFails unknown base ex state.2) :
    Ended base (commitVerdict (failedCommit errorClass nativeCode message)) state := by
  obtain ⟨text, verdict⟩ := failedCommit_verdict errorClass nativeCode message
  rw [verdict]
  rcases failed.cases undetermined with same | ⟨isUndetermined, _, lost⟩
  · exact ended_of_failed same nofun
  · rw [classified isUndetermined]
    exact ended_of_lost lost

theorem ended_of_status (undetermined : AlwaysUndetermined unknown) {status : SdkStatus}
    (ends : StatusEnds unknown base status state.2) :
    Ended base (commitVerdict (commitResultOf status)) state := by
  cases status with
  | success =>
    exact ended_of_confirmed ends
  | failure status issues =>
    refine ended_of_failedCommit undetermined ?_ ends
    rintro ⟨_, ⟨⟩⟩
    rfl
  | raised ex =>
    refine ended_of_failedCommit undetermined ?_ ends
    rintro ⟨_, rfl⟩
    rfl

/-- How the fused operation and commit leaves the attempt. -/
def FinalEnds (base : Server) (result : Except StdException TFinalCommitResult)
    (state : Transaction × Server) : Prop :=
  ∃ final, result = .ok final ∧
      if final.operation.ok then
        Ended base (commitVerdict final.commit) state
      else
        Failed base state ∨ final.operation.errorClass = .ambiguousCommit ∧
          Ended base (operationVerdict final.operation) state

variable {mode commit : Bool}

/-- The fused commit ends the attempt after whatever its operation did. -/
theorem commitAfterOperation_ends (undetermined : AlwaysUndetermined unknown)
    (operation : TOperationResult) :
    Ensures (sdkAnswers unknown) (Caught unknown base mode commit operation)
      (commitAfterOperation operation) (FinalEnds base) := by
  intro before result after caught acts
  rw [commitAfterOperation, acts_get_bind] at acts
  cases succeeded : operation.ok with
  | false =>
    simp only [succeeded, Bool.not_false, ↓reduceIte] at acts
    have kept : Kept before.2 before.1.finalCommitMode before := ⟨rfl, rfl⟩
    rcases acts_bind.mp acts with ⟨report, _, rolling, returned⟩ | ⟨ex, rolling, _⟩
    · obtain ⟨rfl, rfl⟩ := acts_pure.mp returned
      obtain ⟨_, _, unchanged⟩ := rollback_ends kept rolling
      refine ⟨_, rfl, ?_⟩
      simp only [succeeded, Bool.false_eq_true, ↓reduceIte]
      simp only [Caught, succeeded, Bool.false_eq_true, ↓reduceIte] at caught
      rcases caught with stillKept | ⟨ex, _, rfl, _, failed⟩
      · exact .inl (unchanged.trans stillKept.unchanged)
      · rcases failed.cases undetermined with same | ⟨⟨issues, rfl⟩, lost⟩
        · exact .inl (unchanged.trans same)
        · obtain ⟨applied, lost⟩ := lost
          exact .inr ⟨rfl, ended_of_lost (unchanged.trans lost)⟩
    · obtain ⟨⟨_, ⟨⟩⟩, _⟩ := rollback_ends kept rolling
  | true =>
    simp only [succeeded, Bool.not_true, Bool.false_eq_true, ↓reduceIte] at acts
    simp only [Caught, succeeded, ↓reduceIte] at caught
    rcases caught with live | ⟨_, finished⟩
    · simp only [live.usable, Bool.false_eq_true, ↓reduceIte] at acts
      rcases acts_bind.mp acts with ⟨report, _, committing, returned⟩ | ⟨ex, committing, _⟩
      · obtain ⟨rfl, rfl⟩ := acts_pure.mp returned
        obtain ⟨status, ⟨⟩, ends⟩ := commit_ends live committing
        refine ⟨_, rfl, ?_⟩
        simp only [succeeded, ↓reduceIte]
        exact ended_of_status undetermined ends
      · obtain ⟨_, ⟨⟩, _⟩ := commit_ends live committing
    · simp only [finished.terminal, ↓reduceIte] at acts
      obtain ⟨rfl, rfl⟩ := acts_pure.mp acts
      refine ⟨_, rfl, ?_⟩
      simp only [succeeded, ↓reduceIte]
      exact ended_of_confirmed finished.confirmed

theorem catchOp_commit_ends (undetermined : AlwaysUndetermined unknown)
    {Before : Transaction × Server → Prop} {computation : TransactionM TOperationResult}
    (body : Ensures (sdkAnswers unknown) Before computation (OpEnds unknown base mode commit)) :
    Ensures (sdkAnswers unknown) Before
      (catchOp computation >>= commitAfterOperation) (FinalEnds base) := by
  refine .bind (Caught unknown base mode commit) ?_ (commitAfterOperation_ends undetermined)
  intro before result after initially acts
  obtain ⟨operation, rfl, caught⟩ := catchOp_ends body initially acts
  exact caught

theorem finalEnds_of_kept {errorClass : EErrorClass} {message : String}
    (kept : Kept base mode state) : FinalEnds base (.ok (failFinal errorClass message)) state :=
  ⟨_, rfl, .inl kept.unchanged⟩

theorem finishPayment_ends (undetermined : AlwaysUndetermined unknown)
    (update : TUpdateCustomerPayment) (history : TInsertPaymentHistory) :
    Ensures (sdkAnswers unknown) (Open base false)
      (finishPayment update history) (FinalEnds base) := by
  refine .get_bind fun own => ?_
  split
  · exact .pure fun state ⟨opened, _⟩ => finalEnds_of_kept opened.kept
  · refine .modify_bind (Open base false) (fun state ⟨opened, _⟩ =>
        ⟨opened.usable, opened.finalCommitMode, opened.unchanged⟩) ?_
    refine .ask_bind (fun _ => Open base false) ?_ fun histId =>
      catchOp_commit_ends undetermined (queryOp_ends fun _ _ => rfl)
    intro before histId after opened answered
    exact ⟨opened.usable, opened.finalCommitMode, Eq.trans answered opened.unchanged⟩

theorem finishApplyDelivery_ends (undetermined : AlwaysUndetermined unknown)
    (apply : TApplyDeliveryToCustomer) :
    Ensures (sdkAnswers unknown) (Open base false) (finishApplyDelivery apply) (FinalEnds base) :=
  catchOp_commit_ends undetermined (queryOp_ends nofun)

/-- Leaving the final mode keeps what the operation left behind. -/
theorem Caught.leaveFinalMode {operation : TOperationResult}
    (caught : Caught unknown base true commit operation state) :
    Caught unknown base false commit operation
      ({ state.1 with finalCommitMode := false }, state.2) := by
  unfold Caught at caught ⊢
  split
  · rename_i succeeded
    rw [if_pos succeeded] at caught
    exact caught.imp (fun live => ⟨⟨live.usable, rfl, live.unchanged⟩, live.tx⟩)
      fun ⟨committing, finished⟩ => ⟨committing, finished.terminal, rfl, finished.confirmed⟩
  · rename_i failed
    rw [if_neg failed] at caught
    exact caught.imp (fun kept => ⟨rfl, kept.unchanged⟩)
      fun ⟨ex, committing, isFailure, _, failed⟩ => ⟨ex, committing, isFailure, rfl, failed⟩

theorem executeFinal_ends (undetermined : AlwaysUndetermined unknown) (op : TSemanticOp) :
    Ensures (sdkAnswers unknown) (Ready base false op) (executeFinal op) (FinalEnds base) := by
  refine .modify_bind (Ready base true op)
    (fun state ready => ⟨⟨ready.usable, rfl, ready.unchanged⟩, ready.first⟩) ?_
  refine .bind (Caught unknown base true true) ?_ fun operation =>
    .modify_bind (Caught unknown base false true operation) (fun _ caught => caught.leaveFinalMode)
      (commitAfterOperation_ends undetermined operation)
  intro before result after ready acts
  obtain ⟨operation, rfl, caught⟩ := execute_ends op ready acts
  exact caught

theorem executeFinalAndCommit_ends (undetermined : AlwaysUndetermined unknown) (op : TSemanticOp) :
    Ensures (sdkAnswers unknown) (Ready base false op)
      (executeFinalAndCommit op) (FinalEnds base) := by
  refine .get_bind fun own => ?_
  split
  · rename_i terminal
    refine .pure fun state ⟨ready, same⟩ => ?_
    have usable := ready.usable
    rw [same, terminal] at usable
    cases usable
  · split
    · exact .modify_bind (Open base false) (fun state ⟨ready, _⟩ =>
          ⟨ready.usable, ready.finalCommitMode, ready.unchanged⟩)
        (finishPayment_ends undetermined _ _)
    · exact (finishApplyDelivery_ends undetermined _).mono
        (fun state ⟨ready, _⟩ => ready.toOpen) fun _ _ ends => ends
    · exact (executeFinal_ends undetermined _).mono
        (fun state ⟨ready, _⟩ => ready) fun _ _ ends => ends

/-- The surroundings of a terminal that runs Payment on YDB. -/
def surroundings (unknown : StdException → Prop) : Surroundings (Transaction × Server) where
  generates inputs := ∃ payment, inputs = .payment payment
  waitCreateSession before _ after := after = before
  begin before _ after := after = ({}, before.2)
  releaseSession before after := after.2 = before.2
  workflow := implementedAnswers implementation (sdkAnswers unknown)

/-- A new transaction object, with nothing committed yet. -/
def Starting (base : Server) (state : Transaction × Server) : Prop :=
  state.1 = {} ∧ state.2 = base

theorem ready_of_starting {op : TSemanticOp}
    (ready : Live base false state ∨ Starting base state ∧ op.Opens) :
    Ready base false op state := by
  rcases ready with live | ⟨⟨fresh, unchanged⟩, opens⟩
  · exact ⟨live.toOpen, .inl live.tx⟩
  · exact ⟨⟨by rw [fresh], by rw [fresh], unchanged⟩, .inr ⟨opens, by rw [fresh]⟩⟩

theorem attemptRule (undetermined : AlwaysUndetermined unknown) :
    AttemptRule (surroundings unknown).workflow (Starting base)
      (fun _ => Live base false) (Failed base) (Ended base) where
  execute := by
    intro before after op reply ready answered
    obtain ⟨operation, rfl, caught⟩ := execute_ends op (ready_of_starting ready) answered
    cases succeeded : operation.ok with
    | false =>
      have kept : Kept base false after := by
        simpa [Caught, succeeded] using caught
      simpa [succeeded, Failed] using kept.unchanged
    | true => simpa [Caught, succeeded] using caught
  executeBatch := by
    intro before after ops reply live _ answered
    obtain ⟨⟨batch, rfl⟩, kept, goesOn⟩ := executeBatch_ends ops live answered
    cases succeeded : batch.ok with
    | false => simpa [succeeded, Failed] using kept.unchanged
    | true => simpa [succeeded] using goesOn batch rfl succeeded
  rollback := by
    intro before after reply failed answered
    have kept : Kept base before.1.finalCommitMode before := ⟨rfl, failed⟩
    exact (rollback_ends kept answered).2.unchanged
  requestStop := by
    intro before after reply failed answered
    obtain ⟨_, same⟩ := Runs.done_iff.mp answered
    exact same.trans failed
  giveUp := fun live => live.unchanged
  unsuccessful := ended_of_failed
  commit := by
    intro before after reply live answered
    obtain ⟨status, rfl, ends⟩ := commit_ends live answered
    exact ended_of_status undetermined ends
  executeFinalAndCommit := by
    intro pending before after op reply ready answered
    obtain ⟨final, rfl, ends⟩ :=
      executeFinalAndCommit_ends undetermined op
        (ready_of_starting (ready.imp_left And.left)) answered
    exact ends

theorem atMostOnceRule (undetermined : AlwaysUndetermined unknown) :
    AtMostOnceRule (surroundings unknown) classifier
      (fun state => state.2.applied) (fun state => state.2.confirmed)
      (fun _ => True) (fun state => state.1 = {}) where
  wait := by
    rintro before reply after _ rfl
    exact ⟨trivial, rfl, rfl⟩
  begin := by
    rintro before reply after _ rfl
    exact ⟨rfl, rfl, rfl⟩
  release := by
    intro before after released
    have unchanged : after.2 = before.2 := released
    exact ⟨trivial, by rw [unchanged], by rw [unchanged]⟩
  requestStop := by
    intro before reply after answered
    obtain ⟨_, same⟩ := Runs.done_iff.mp answered
    exact ⟨by rw [same], by rw [same]⟩
  attempt := by
    intro inputs before result after _ fresh run
    have ended : Ended before.2 result after :=
      (attemptRule undetermined).ended_of_task ⟨fresh, rfl⟩ run
    exact ⟨ended.applied, ended.confirmed⟩

end

/-! ## When Payment is safe -/

/--
With ambiguous retries off, a Payment business transaction is applied at most
once, and an attempt whose commit failed with an open outcome is classified
as an ambiguous commit.
-/
structure PaymentSafe (unknown : StdException → Prop) : Prop where
  appliedOnce : ∀ {config : RetryConfig} {polls : Nat}
    {before after : TerminalState (Transaction × Server)} {result : BusinessResult},
    config.classifyException = classifier → config.retryAmbiguousCommit = false →
    Runs (surroundings unknown).answers (businessTransaction config polls) before result after →
    after.inner.2.applied ≤ before.inner.2.applied + 1
  ambiguous : ∀ {inputs : PaymentInputs} {base : Server}
    {result : Except Thrown Bool} {after : Transaction × Server},
    Runs (surroundings unknown).workflow (paymentTask inputs) ({}, base) result after →
    base.unknown < after.2.unknown → classOf classifier result = some .ambiguousCommit ∧
    NotRetried classifier result

variable {unknown : StdException → Prop}

/-- If every such failure is `UNDETERMINED`, Payment is safe. -/
theorem paymentSafe_of_alwaysUndetermined (undetermined : AlwaysUndetermined unknown) :
    PaymentSafe unknown where
  appliedOnce := by
    intro config polls before after result classified ambiguousOff run
    exact ((classified ▸ atMostOnceRule undetermined).businessTransaction_spec
      ambiguousOff trivial run).applied
  ambiguous := by
    intro inputs base result after run failed
    have task : Runs (surroundings unknown).workflow (TxInputs.payment inputs).task
        ({}, base) result after := run
    have ended : Ended base result after := (attemptRule undetermined).ended_of_task ⟨rfl, rfl⟩ task
    have classified := ended.unknown.resolve_left (by omega)
    refine ⟨classified, fun errorClass classOfResult => ?_⟩
    obtain rfl : errorClass = .ambiguousCommit := by
      rw [classified] at classOfResult
      exact (Option.some.inj classOfResult).symm
    rfl

/-- The transaction object before the last operation of the payment. -/
def pendingTransaction : Transaction where
  tx := true
  pendingPaymentUpdate := some
    { warehouseId := 1
      districtId := 1
      customerId := 1
      newBalance := -6000
      newYtdPayment := 6000
      newPaymentCount := 2
      updateData := false
      newData := "" }
  pendingPaymentLocation := some
    { warehouseId := 1, districtId := 1, amount := 5000 }

/-- The transaction object after its transaction has ended. -/
def endedTransaction : Transaction where
  terminal := true

section

variable {unknown : StdException → Prop} {base : Server}

theorem examplePayment_runs {result : Except Thrown Bool} {after : Transaction × Server}
    (rest : Runs (surroundings unknown).workflow
      (executeFinalAndFinish (.insertPaymentHistory exampleHistory))
      (pendingTransaction, base) result after) :
    Runs (surroundings unknown).workflow (paymentTask examplePayment) ({}, base) result after := by
  refine Runs.call_iff.mpr ⟨.ok (okOp 2 2 (.location (locationInfo exampleAddress exampleAddress))),
      ({ tx := true,
         pendingPaymentLocation := pendingTransaction.pendingPaymentLocation },
        base),
      Runs.call_iff.mpr ⟨.ok (([exampleAddress], [exampleAddress]), true), base, ⟨rfl, rfl⟩,
        .done _ _⟩, ?_⟩
  refine Runs.call_iff.mpr ⟨.ok (okOp 1 1 (.customer exampleCustomer)),
      ({ tx := true,
         pendingPaymentLocation := pendingTransaction.pendingPaymentLocation },
        base),
      Runs.call_iff.mpr ⟨.ok ([exampleCustomer], true), base, ⟨rfl, rfl⟩, .done _ _⟩, ?_⟩
  exact Runs.call_iff.mpr ⟨.ok (okOp 1 1), (pendingTransaction, base), .done _ _, rest⟩

theorem examplePayment_lost {ex : StdException} (lost : unknown ex) {result : Except Thrown Bool}
    {after : Transaction × Server} (rest : Runs (surroundings unknown).workflow
      (failOperation (failureOf ex).errorClass (failureOf ex).nativeCode (failureOf ex).message)
      (endedTransaction, base.lose true) result after) :
    Runs (surroundings unknown).workflow (paymentTask examplePayment) ({}, base) result after := by
  refine examplePayment_runs (Runs.call_iff.mpr
    ⟨.ok { operation := failureOf ex, commit := rollbackResultOf .success },
    (endedTransaction, base.lose true), ?_, ?_⟩)
  · refine Runs.call_iff.mpr ⟨0, base, rfl, Runs.call_iff.mpr
      ⟨.error ex, base.lose true, .inr ⟨lost, true, rfl⟩, ?_⟩⟩
    cases ex <;> exact Runs.call_iff.mpr ⟨.success, base.lose true, rfl, .done _ _⟩
  · cases ex <;> exact rest

theorem examplePayment_confirmed : Runs (surroundings unknown).workflow (paymentTask examplePayment)
      ({}, base) (.ok true) (endedTransaction, base.confirm) := by
  refine examplePayment_runs (Runs.call_iff.mpr
    ⟨.ok { operation := okOp 1 1, commit := withoutSdk .committed "" },
    (endedTransaction, base.confirm), ?_, .done _ _⟩)
  exact Runs.call_iff.mpr ⟨0, base, rfl, Runs.call_iff.mpr
    ⟨.ok ((), false), base.confirm, rfl, .done _ _⟩⟩

end

/-- Only `UNDETERMINED` is classified as ambiguous outside a commit. -/
theorem isUndetermined_of_ambiguous {ex : StdException}
    (ambiguous : (failureOf ex).errorClass = .ambiguousCommit) : IsUndetermined ex := by
  have byMessage (message : String) : classifyByMessage message ≠ .ambiguousCommit := by
    unfold classifyByMessage
    repeat' split
    all_goals decide
  cases ex with
  | ydbError status issues =>
    cases status <;> first | exact ⟨issues, rfl⟩ | cases ambiguous
  | _ =>
    exact absurd ambiguous (byMessage _)

/-- A workflow that gives up does not raise an ambiguous commit. -/
theorem failOperation_runs {errorClass : EErrorClass} (certain : errorClass ≠ .ambiguousCommit)
    (nativeCode message : String) (state : Transaction × Server) :
    ∃ result, Runs (surroundings unknown).workflow
      (failOperation errorClass nativeCode message) state result state ∧
      classOf classifier result ≠ some .ambiguousCommit := by
  unfold failOperation
  split
  · refine ⟨_, .done _ _, ?_⟩
    simpa [classifiedError, classOf] using certain
  · unfold failPermanent
    split
    · exact ⟨.ok false, Runs.call_iff.mpr ⟨(), state, .done _ _, .done _ _⟩, by decide⟩
    · exact ⟨.ok false, .done _ _, by decide⟩

/--
Payment on YDB is safe exactly when every failure of a `CommitTx` query that
leaves the outcome open has the status `UNDETERMINED`.
-/
theorem paymentSafe_iff_alwaysUndetermined (unknown : StdException → Prop) :
    PaymentSafe unknown ↔ AlwaysUndetermined unknown := by
  constructor
  · intro safe ex lost
    by_contra determined
    have certain : (failureOf ex).errorClass ≠ .ambiguousCommit :=
      fun ambiguous => determined (isUndetermined_of_ambiguous ambiguous)
    obtain ⟨result, gaveUp, notAmbiguous⟩ :=
      failOperation_runs certain _ _ (endedTransaction, (Server.mk 0 0 0).lose true)
    have attempt := examplePayment_lost lost gaveUp
    exact notAmbiguous (safe.ambiguous attempt (by decide)).1
  · exact paymentSafe_of_alwaysUndetermined

/--
The failures that leave the outcome of a commit open: the statuses that the
classifier itself treats so during a commit, and any foreign exception.
-/
def LeavesOutcomeUnknown : StdException → Prop
  | .ydbError status _ =>
    status = .transportUnavailable ∨ status = .clientDeadlineExceeded ∨
      status = .clientInternalError ∨ status = .undetermined
  | _ => True

/-- The loop's settings with two attempts. -/
def twoAttempts : RetryConfig where
  retryMaxAttempts := 2
  retryAmbiguousCommit := false
  classifyException := classifier

/-- A terminal with the given transaction object and server. -/
def terminalAt (transaction : Transaction) (server : Server)
    (recorded : List Recorded) : TerminalState (Transaction × Server) where
  inner := (transaction, server)
  recorded

/-- What the workflow raises when the transport fails in its commit. -/
def transportFailure : Except Thrown Bool :=
  .error (classifiedError .notCommitted (ydbStatusCodeOf .transportUnavailable)
    (ydbIssuesToString .transportUnavailable ""))

/-- A first attempt of the payment whose commit is applied but lost. -/
theorem lostAttempt_runs : Runs (surroundings LeavesOutcomeUnknown).answers (tryAttempt 1 none)
      (terminalAt {} ⟨0, 0, 0⟩ []) ⟨some transportFailure, some (.payment examplePayment),
      some (.payment examplePayment)⟩ (terminalAt endedTransaction ⟨1, 0, 1⟩ []) := by
  have lost : LeavesOutcomeUnknown (.ydbError .transportUnavailable "") := .inl rfl
  have attempt : Runs (surroundings LeavesOutcomeUnknown).workflow
      (paymentTask examplePayment) ({}, ⟨0, 0, 0⟩) transportFailure (endedTransaction, ⟨1, 0, 1⟩) :=
    examplePayment_lost lost (.done _ _)
  refine tryAttempt_runs rfl rfl (Runs.bind_iff.mpr
    ⟨.payment examplePayment, terminalAt {} ⟨0, 0, 0⟩ [],
    Runs.call_iff.mpr ⟨_, _, ⟨⟨_, rfl⟩, rfl⟩, .done _ _⟩, Runs.bind_iff.mpr
    ⟨transportFailure, terminalAt endedTransaction ⟨1, 0, 1⟩ [],
    runs_runWorkflow.mpr ⟨attempt, rfl⟩, ?_⟩⟩)
  exact Runs.call_iff.mpr ⟨(), terminalAt endedTransaction ⟨1, 0, 1⟩ [], ⟨rfl, rfl⟩, .done _ _⟩

/-- A second attempt of the same payment that is confirmed. -/
theorem confirmedAttempt_runs :
    Runs (surroundings LeavesOutcomeUnknown).answers (tryAttempt 1 (some (.payment examplePayment)))
      (terminalAt endedTransaction ⟨1, 0, 1⟩ []) ⟨some (.ok true), some (.payment examplePayment),
      some (.payment examplePayment)⟩ (terminalAt endedTransaction ⟨2, 1, 1⟩ [.ok]) := by
  have attempt : Runs (surroundings LeavesOutcomeUnknown).workflow
      (paymentTask examplePayment) ({}, ⟨1, 0, 1⟩) (.ok true) (endedTransaction, ⟨2, 1, 1⟩) :=
    examplePayment_confirmed
  refine tryAttempt_runs rfl rfl (Runs.bind_iff.mpr
    ⟨.payment examplePayment, terminalAt {} ⟨1, 0, 1⟩ [], .done _ _, Runs.bind_iff.mpr
    ⟨.ok true, terminalAt endedTransaction ⟨2, 1, 1⟩ [], runs_runWorkflow.mpr ⟨attempt, rfl⟩, ?_⟩⟩)
  exact Runs.call_iff.mpr ⟨(), terminalAt endedTransaction ⟨2, 1, 1⟩ [.ok], rfl, Runs.call_iff.mpr
    ⟨false, _, rfl, Runs.call_iff.mpr ⟨(), terminalAt endedTransaction ⟨2, 1, 1⟩ [.ok], ⟨rfl, rfl⟩,
    .done _ _⟩⟩⟩

/--
The commit of a payment is applied, its reply is lost with
`TRANSPORT_UNAVAILABLE`, and the terminal pays a second time.
-/
theorem payment_applied_twice : ¬ PaymentSafe LeavesOutcomeUnknown := by
  intro safe
  have retried : Runs (surroundings LeavesOutcomeUnknown).answers
      (decideNext twoAttempts true (some transportFailure))
      (terminalAt endedTransaction ⟨1, 0, 1⟩ []) .retry
      (terminalAt endedTransaction ⟨1, 0, 1⟩ []) :=
    Runs.call_iff.mpr ⟨false, terminalAt endedTransaction ⟨1, 0, 1⟩ [], rfl, Runs.call_iff.mpr
      ⟨false, terminalAt endedTransaction ⟨1, 0, 1⟩ [], rfl, .done _ _⟩⟩
  have run := businessTransaction_runs_retried rfl lostAttempt_runs retried confirmedAttempt_runs
  have once := safe.appliedOnce rfl rfl run
  exact absurd once (by decide)

end PortableTpcc.Ydb
