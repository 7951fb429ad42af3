import PortableTpcc.AtMostOnceRetry

namespace PortableTpcc

/-!
# New-Orders that their user aborts

An order with an unused item is not to be committed.  The workflow looks the
item up, rolls back when it is missing, and throws `TUserAbortedException` if
the rollback is reported as done.  No other way leads to that exception, so
what an adapter says about the rollback decides what a terminal counts.
-/

variable {σ : Type} {answers : Answers workflowFace σ} {before after : σ}

/-- A run of a workflow that ends with `TUserAbortedException`. -/
def Aborts (answers : Answers workflowFace σ) (task : Task) (before after : σ) : Prop :=
  Runs answers task before (.error .userAborted) after

theorem not_aborts_raise {thrown : Thrown} (other : thrown ≠ .userAborted) :
    ¬Aborts answers (raise thrown) before after := by
  intro aborts
  obtain ⟨same, _⟩ := Runs.done_iff.mp aborts
  exact other (Except.error.inj same).symm

theorem classifiedError_ne (errorClass : EErrorClass) (code message : String) :
    classifiedError errorClass code message ≠ .userAborted :=
  nofun

theorem not_aborts_finish {result : Bool} : ¬Aborts answers (finish result) before after := by
  intro aborts
  obtain ⟨same, _⟩ := Runs.done_iff.mp aborts
  cases same

theorem not_aborts_failPermanent {errorClass : EErrorClass} :
    ¬Aborts answers (failPermanent errorClass) before after := by
  intro aborts
  unfold failPermanent at aborts
  split at aborts
  · obtain ⟨_, _, _, later⟩ := Runs.call_iff.mp aborts
    exact not_aborts_finish later
  · exact not_aborts_finish aborts

theorem not_aborts_failOperation {errorClass : EErrorClass} {code message : String} :
    ¬Aborts answers (failOperation errorClass code message) before after := by
  intro aborts
  unfold failOperation at aborts
  split at aborts
  · exact not_aborts_raise (classifiedError_ne _ _ _) aborts
  · exact not_aborts_failPermanent aborts

theorem not_aborts_commitAndFinish : ¬Aborts answers commitAndFinish before after := by
  intro aborts
  obtain ⟨reply, _, _, later⟩ := Runs.call_iff.mp aborts
  cases reply with
  | error ex =>
    exact absurd later (not_aborts_raise nofun)
  | ok result =>
    dsimp only at later
    unfold finishCommit at later
    split at later
    · exact not_aborts_finish later
    · exact not_aborts_raise (classifiedError_ne _ _ _) later

/-- An operation before the abort has succeeded. -/
theorem aborts_executeThen {op : TSemanticOp} {next : TOperationResult → Task} :
    Aborts answers (executeThen op next) before after ↔ ∃ result middle,
      answers before (.execute op) (.ok result) middle ∧
      result.ok = true ∧ Aborts answers (next result) middle after := by
  constructor
  · intro aborts
    obtain ⟨reply, middle, answered, later⟩ := Runs.call_iff.mp aborts
    cases reply with
    | error ex =>
      exact absurd later (not_aborts_raise nofun)
    | ok result =>
      dsimp only at later
      split at later
      · rename_i succeeded
        exact ⟨result, middle, answered, succeeded, later⟩
      · exact absurd later not_aborts_failOperation
  · rintro ⟨result, middle, answered, succeeded, later⟩
    refine Runs.call_iff.mpr ⟨.ok result, middle, answered, ?_⟩
    dsimp only
    rw [if_pos succeeded]
    exact later

theorem aborts_executeBatchThen {ops : List TSemanticOp} {next : Task} :
    Aborts answers (executeBatchThen ops next) before after ↔ ∃ batch middle,
      answers before (.executeBatch ops) (.ok batch) middle ∧
      batch.ok = true ∧ Aborts answers next middle after := by
  constructor
  · intro aborts
    obtain ⟨reply, middle, answered, later⟩ := Runs.call_iff.mp aborts
    cases reply with
    | error ex =>
      exact absurd later (not_aborts_raise nofun)
    | ok batch =>
      dsimp only at later
      split at later
      · rename_i succeeded
        exact ⟨batch, middle, answered, succeeded, later⟩
      · exact absurd later not_aborts_failOperation
  · rintro ⟨batch, middle, answered, succeeded, later⟩
    refine Runs.call_iff.mpr ⟨.ok batch, middle, answered, ?_⟩
    dsimp only
    rw [if_pos succeeded]
    exact later

theorem aborts_withPayload {payload : Option α} {next : α → Task}
    (aborts : Aborts answers (withPayload payload next) before after) :
    ∃ value, Aborts answers (next value) before after := by
  cases payload with
  | none =>
    exact absurd aborts (not_aborts_raise nofun)
  | some value =>
    exact ⟨value, aborts⟩

/-- The lookup has failed, and a rollback was reported as done. -/
theorem aborts_abortUnusedItem (aborts : Aborts answers abortUnusedItem before after) :
    ∃ result middle report, answers before (.execute (.getItems [invalidItemId])) (.ok result)
      middle ∧ result.ok = false ∧ answers middle .rollback (.ok report) after ∧
      report.outcome = .rolledBack := by
  obtain ⟨reply, middle, answered, later⟩ := Runs.call_iff.mp aborts
  cases reply with
  | error ex =>
    exact absurd later (not_aborts_raise nofun)
  | ok result =>
    dsimp only at later
    split at later
    · exact absurd later not_aborts_failPermanent
    rename_i failed
    split at later
    · exact absurd later (not_aborts_raise (classifiedError_ne _ _ _))
    split at later
    · obtain ⟨rollback, last, rolled, ended⟩ := Runs.call_iff.mp later
      cases rollback with
      | error ex =>
        exact absurd ended (not_aborts_raise nofun)
      | ok report =>
        dsimp only at ended
        unfold finishRollback at ended
        split at ended
        · rename_i reported
          obtain ⟨_, rfl⟩ := Runs.done_iff.mp ended
          exact ⟨result, middle, report, answered, by simpa using failed, rolled, reported⟩
        · exact absurd ended (not_aborts_raise (classifiedError_ne _ _ _))
    · exact absurd later (not_aborts_raise (classifiedError_ne _ _ _))

/--
What an adapter keeps while a New-Order works, and what its rollback leaves.
-/
structure AbortRule (answers : Answers workflowFace σ)
    (Starting Working Failed Ended : σ → Prop) : Prop where
  opens : ∀ {before after w d c result}, Starting before →
    answers before (.execute (.getCustomerById w d c)) (.ok result) after →
    TOperationResult.ok result = true → Working after
  execute :
    ∀ {before after op result},
      Working before →
      answers before (.execute op) (.ok result) after →
      if TOperationResult.ok result then Working after else Failed after
  executeBatch : ∀ {before after ops batch}, Working before →
    answers before (.executeBatch ops) (.ok batch) after → TBatchResult.ok batch = true →
    Working after
  rollback : ∀ {before after report}, Failed before → answers before .rollback (.ok report) after →
    TCommitResult.outcome report = .rolledBack → Ended after

namespace AbortRule

variable {Starting Working Failed Ended : σ → Prop}
  (rule : AbortRule answers Starting Working Failed Ended)

include rule

theorem working_of_executeThen {op : TSemanticOp} {next : TOperationResult → Task}
    (working : Working before) (aborts : Aborts answers (executeThen op next) before after) :
    ∃ result middle, Working middle ∧ Aborts answers (next result) middle after := by
  obtain ⟨result, middle, answered, succeeded, later⟩ := aborts_executeThen.mp aborts
  have outcome := rule.execute working answered
  rw [if_pos succeeded] at outcome
  exact ⟨result, middle, outcome, later⟩

theorem working_of_batch {ops : List TSemanticOp} {next : Task} (working : Working before)
    (aborts : Aborts answers (executeNonemptyBatchThen ops next) before after) :
    ∃ middle, Working middle ∧ Aborts answers next middle after := by
  unfold executeNonemptyBatchThen at aborts
  split at aborts
  · exact ⟨before, working, aborts⟩
  · obtain ⟨batch, middle, answered, succeeded, later⟩ := aborts_executeBatchThen.mp aborts
    exact ⟨middle, rule.executeBatch working answered succeeded, later⟩

theorem working_of_readItems {itemIds : List Int} {next : List TItemRow → Task}
    (working : Working before) (aborts : Aborts answers (readItemsThen itemIds next) before after) :
    ∃ items middle, Working middle ∧ Aborts answers (next items) middle after := by
  unfold readItemsThen at aborts
  split at aborts
  · exact ⟨[], before, working, aborts⟩
  · obtain ⟨result, middle, stillWorking, later⟩ := rule.working_of_executeThen working aborts
    obtain ⟨items, rest⟩ := aborts_withPayload later
    exact ⟨items, middle, stillWorking, rest⟩

theorem working_of_readStocks {districtId : Int} {keys : List TStockKey}
    {next : List TStockRow → Task} (working : Working before)
    (aborts : Aborts answers (readStocksThen districtId keys next) before after) :
    ∃ stocks middle, Working middle ∧ Aborts answers (next stocks) middle after := by
  unfold readStocksThen at aborts
  split at aborts
  · exact ⟨[], before, working, aborts⟩
  · obtain ⟨result, middle, stillWorking, later⟩ := rule.working_of_executeThen working aborts
    obtain ⟨rows, rest⟩ := aborts_withPayload later
    exact ⟨_, middle, stillWorking, rest⟩

theorem ended_of_abortUnusedItem (working : Working before)
    (aborts : Aborts answers abortUnusedItem before after) : Ended after := by
  obtain ⟨result, middle, report, answered, failed, rolled, reported⟩ :=
    aborts_abortUnusedItem aborts
  have outcome := rule.execute working answered
  rw [if_neg (by simp [failed])] at outcome
  exact rule.rollback outcome rolled reported

/-- Every aborted New-Order ends with the rollback that the rule describes. -/
theorem ended_of_newOrder {inputs : NewOrderInputs} (starting : Starting before)
    (aborts : Aborts answers (newOrderTask inputs) before after) : Ended after := by
  obtain ⟨_, _, answered, succeeded, afterCustomer⟩ := aborts_executeThen.mp aborts
  have working := rule.opens starting answered succeeded
  obtain ⟨_, _, working, afterTax⟩ := rule.working_of_executeThen working afterCustomer
  obtain ⟨_, _, working, afterReservation⟩ := rule.working_of_executeThen working afterTax
  obtain ⟨reservation, afterReservation⟩ := aborts_withPayload afterReservation
  obtain ⟨_, _, working, afterOrder⟩ := rule.working_of_executeThen working afterReservation
  obtain ⟨items, _, working, afterItems⟩ := rule.working_of_readItems working afterOrder
  obtain ⟨stocks, _, working, afterStocks⟩ := rule.working_of_readStocks working afterItems
  split at afterStocks
  · exact absurd afterStocks not_aborts_failPermanent
  · unfold newOrderWrites at afterStocks
    obtain ⟨_, working, afterUpdates⟩ := rule.working_of_batch working afterStocks
    obtain ⟨_, working, afterLines⟩ := rule.working_of_batch working afterUpdates
    split at afterLines
    · exact rule.ended_of_abortUnusedItem working afterLines
    · exact absurd afterLines not_aborts_commitAndFinish

end AbortRule

section

variable {surroundings : Surroundings σ} {config : RetryConfig}
  {attemptsRemain : Bool} {start final : TerminalState σ} {decision : Decision}

theorem recordResult_userAborted {outcome : Except Thrown Bool} {result : Unit}
    (run : Runs surroundings.answers (recordResult outcome) start result final) :
    final.recorded.count .userAborted = start.recorded.count .userAborted := by
  match outcome with
  | .ok true =>
    obtain rfl := AtMostOnceRule.record_spec run
    simp
  | .ok false =>
    obtain rfl := AtMostOnceRule.record_spec run
    simp
  | .error thrown =>
    obtain ⟨_, rfl⟩ := Runs.done_iff.mp run
    rfl

theorem handleClass_userAborted {errorClass : EErrorClass} (run : Runs surroundings.answers
      (handleClass config attemptsRemain errorClass) start decision final) :
    final.recorded.count .userAborted = start.recorded.count .userAborted := by
  obtain ⟨stopped, _, rfl, later⟩ := runs_ask_bind run
  match stopped with
  | true =>
    obtain ⟨_, rfl⟩ := Runs.done_iff.mp later
    rfl
  | false =>
    simp only at later
    split at later
    · obtain ⟨_, _, recording, finished⟩ := Runs.bind_iff.mp later
      obtain ⟨_, rfl⟩ := Runs.done_iff.mp finished
      obtain rfl := AtMostOnceRule.record_spec recording
      simp
    split at later
    · obtain ⟨_, rfl⟩ := Runs.done_iff.mp later
      rfl
    split at later
    · obtain ⟨_, _, recording, finished⟩ := Runs.bind_iff.mp later
      obtain ⟨_, rfl⟩ := Runs.done_iff.mp finished
      obtain rfl := AtMostOnceRule.recordRetried_spec recording
      rfl
    · obtain ⟨_, _, recording, finished⟩ := Runs.bind_iff.mp later
      obtain ⟨_, rfl⟩ := Runs.done_iff.mp finished
      obtain rfl := AtMostOnceRule.record_spec recording
      simp

/-- Only `TUserAbortedException` is counted as `UserAborted`. -/
theorem decideNext_userAborted {outcome : Option (Except Thrown Bool)}
    (run : Runs surroundings.answers (decideNext config attemptsRemain outcome) start
      decision final)
    (counted : final.recorded.count .userAborted ≠ start.recorded.count .userAborted) :
    outcome = some (.error .userAborted) := by
  match outcome with
  | none =>
    obtain ⟨_, rfl⟩ := Runs.done_iff.mp run
    exact absurd rfl counted
  | some (.ok value) =>
    obtain ⟨_, rfl⟩ := Runs.done_iff.mp run
    exact absurd rfl counted
  | some (.error .userAborted) =>
    rfl
  | some (.error (.classified errorClass code what)) =>
    exact absurd (handleClass_userAborted run) counted
  | some (.error (.exception ex)) =>
    exact absurd (handleClass_userAborted run) counted

/--
An attempt at a New-Order that is counted as `UserAborted` has ended with the
rollback that the rule describes.
-/
theorem AbortRule.ended_of_counted {Starting Working Failed Ended : σ → Prop}
    (rule : AbortRule surroundings.workflow Starting Working Failed Ended)
    {inputs : NewOrderInputs} (starting : Starting start.inner)
    (run :
      Runs surroundings.answers
        (do
          let attempt ← attemptWorkflow (some (.newOrder inputs))
          decideNext config attemptsRemain attempt.outcome)
        start decision final)
    (counted : final.recorded.count .userAborted ≠ start.recorded.count .userAborted) :
    ∃ ended, Ended ended ∧ surroundings.releaseSession ended final.inner := by
  obtain ⟨attempt, released, attempted, deciding⟩ := Runs.bind_iff.mp run
  obtain ⟨_, _, fixing, started⟩ := Runs.bind_iff.mp attempted
  obtain ⟨rfl, rfl⟩ := Runs.done_iff.mp fixing
  obtain ⟨result, worked, working, afterWorkflow⟩ := Runs.bind_iff.mp started
  obtain ⟨ran, unrecorded⟩ := runs_runWorkflow.mp working
  obtain ⟨_, counting, recording, releasing⟩ := Runs.bind_iff.mp afterWorkflow
  obtain ⟨_, _, ⟨release, unchanged⟩, last⟩ := runs_ask_bind releasing
  obtain ⟨rfl, rfl⟩ := Runs.done_iff.mp last
  have sameInner := (AtMostOnceRule.recordResult_spec recording).1
  have sameCount := recordResult_userAborted recording
  rw [unrecorded, ← unchanged] at sameCount
  rw [← sameCount] at counted
  have outcome := decideNext_userAborted deciding counted
  obtain rfl : result = .error .userAborted := Option.some.inj outcome
  obtain ⟨_, _, counts, finished⟩ := Runs.bind_iff.mp deciding
  obtain ⟨_, rfl⟩ := Runs.done_iff.mp finished
  obtain rfl := AtMostOnceRule.record_spec counts
  rw [sameInner] at release
  exact ⟨worked.inner, rule.ended_of_newOrder starting ran, release⟩

end

end PortableTpcc
