import PortableTpcc.YdbAdapter

namespace PortableTpcc.Ydb

/-!
# What the calls of the YDB adapter commit

The server is observed through three counters: the transactions it applied,
the commits it confirmed, and the commits that failed with an open outcome.
The parameter `unknown` holds for the failures that leave the outcome open.

Each call of the adapter gets one lemma that says which counters it can move
and whether a usable transaction is left behind.
-/

/-- What is observed of the server. -/
structure Server where
  applied : Nat
  confirmed : Nat
  unknown : Nat
deriving Repr, DecidableEq

namespace Server

/-- A commit was applied and confirmed. -/
def confirm (server : Server) : Server :=
  { server with
    applied := server.applied + 1
    confirmed := server.confirmed + 1 }

/-- A commit failed with an open outcome. -/
def lose (server : Server) (applied : Bool) : Server :=
  { server with
    applied := server.applied + applied.toNat
    unknown := server.unknown + 1 }

end Server

/-- What a failed commit did to the server. -/
def CommitFails (unknown : StdException → Prop) (before : Server) (ex : StdException)
    (after : Server) : Prop :=
  ¬ unknown ex ∧ after = before ∨ unknown ex ∧ ∃ applied, after = before.lose applied

/--
The replies of the SDK.  A query without `CommitTx` that succeeds returns its
transaction, and only what commits moves the counters.
-/
def sdkAnswers (unknown : StdException → Prop) : Answers sdkFace Server :=
  fun before command reply after =>
    match command, reply with
    | .executeQuery _ _ true, .ok _ => after = before.confirm
    | .executeQuery _ _ true, .error ex =>
      CommitFails unknown before ex after
    | .executeQuery _ _ false, .ok (_, hasTx) =>
      hasTx = true ∧ after = before
    | .commit, .success => after = before.confirm
    | .commit, .failure status issues =>
      CommitFails unknown before (.ydbError status issues) after
    | .commit, .raised ex => CommitFails unknown before ex after
    | _, _ => after = before

section

variable {unknown : StdException → Prop} {base : Server} {mode : Bool}

/-- The transaction object is usable and nothing was committed yet. -/
structure Open (base : Server) (mode : Bool) (state : Transaction × Server) : Prop where
  usable : state.1.terminal = false
  finalCommitMode : state.1.finalCommitMode = mode
  unchanged : state.2 = base

/-- The transaction object also holds a transaction. -/
structure Live (base : Server) (mode : Bool)
    (state : Transaction × Server) : Prop extends Open base mode state where
  tx : state.1.tx = true

/-- Nothing was committed, whatever became of the transaction object. -/
structure Kept (base : Server) (mode : Bool) (state : Transaction × Server) : Prop where
  finalCommitMode : state.1.finalCommitMode = mode
  unchanged : state.2 = base

variable {state : Transaction × Server}

theorem Open.kept (opened : Open base mode state) : Kept base mode state :=
  ⟨opened.finalCommitMode, opened.unchanged⟩

/-- A query that carries `CommitTx` was executed. -/
structure Finished (base : Server) (mode : Bool) (state : Transaction × Server) : Prop where
  terminal : state.1.terminal = true
  finalCommitMode : state.1.finalCommitMode = mode
  confirmed : state.2 = base.confirm

/-- What one query leaves behind. -/
def QueryEnds (unknown : StdException → Prop) (base : Server) (mode commit : Bool)
    (result : Except StdException α) (state : Transaction × Server) : Prop :=
  match result, commit with
  | .ok _, true => Finished base mode state
  | .ok _, false => Live base mode state
  | .error ex, true =>
    state.1.finalCommitMode = mode ∧ CommitFails unknown base ex state.2
  | .error _, false => Kept base mode state

/-- How a query may end. -/
theorem execQuery_ends (query : Query) (commit : Bool) :
    Ensures (sdkAnswers unknown) (Open base mode) (execQuery query commit)
      (QueryEnds unknown base mode commit) := by
  intro before result after opened acts
  rw [execQuery, acts_get_bind] at acts
  obtain ⟨reply, middle, answered, later⟩ := acts_ask_bind.mp acts
  rcases acts_bind.mp later with ⟨value, _, returned, rest⟩ | ⟨ex, raised, rfl⟩
  · obtain ⟨rfl, rfl⟩ := acts_orThrow.mp returned
    obtain ⟨rows, hasTx⟩ := value
    cases commit with
    | true =>
      have finished := acts_modify_bind.mp rest
      obtain ⟨rfl, rfl⟩ := acts_pure.mp finished
      exact ⟨rfl, opened.finalCommitMode, opened.unchanged ▸ answered⟩
    | false =>
      obtain ⟨rfl, unchanged⟩ := answered
      have finished := acts_modify_bind.mp rest
      obtain ⟨rfl, rfl⟩ := acts_pure.mp finished
      exact ⟨⟨opened.usable, opened.finalCommitMode, unchanged.trans opened.unchanged⟩, rfl⟩
  · obtain ⟨rfl, rfl⟩ := acts_orThrow.mp raised
    cases commit with
    | true =>
      exact ⟨opened.finalCommitMode, opened.unchanged ▸ answered⟩
    | false =>
      exact ⟨opened.finalCommitMode, Eq.trans answered opened.unchanged⟩

theorem rollback_ends {server : Server} : Ensures (sdkAnswers unknown) (Kept server mode) rollback
      fun result state => (∃ report, result = .ok report) ∧ Kept server mode state := by
  intro before result after kept acts
  rw [rollback, acts_get_bind] at acts
  split at acts
  · obtain ⟨rfl, rfl⟩ := acts_pure.mp acts
    exact ⟨⟨_, rfl⟩, kept⟩
  · split at acts
    · have finished := acts_modify_bind.mp acts
      obtain ⟨rfl, rfl⟩ := acts_pure.mp finished
      exact ⟨⟨_, rfl⟩, kept.finalCommitMode, kept.unchanged⟩
    · obtain ⟨status, middle, answered, later⟩ := acts_ask_bind.mp acts
      have finished := acts_modify_bind.mp later
      obtain ⟨rfl, rfl⟩ := acts_pure.mp finished
      exact ⟨⟨_, rfl⟩, kept.finalCommitMode, Eq.trans answered kept.unchanged⟩

/-- A query without `CommitTx`, and what follows it. -/
theorem execQuery_bind {query : Query} {rest : query.Reply → TransactionM α}
    {After : Except StdException α → Transaction × Server → Prop}
    (tail : ∀ reply, Ensures (sdkAnswers unknown) (Live base mode) (rest reply) After)
    (raised : ∀ ⦃ex state⦄, Kept base mode state → After (.error ex) state) :
    Ensures (sdkAnswers unknown) (Open base mode) (execQuery query false >>= rest) After := by
  refine .bind (fun _ => Live base mode) ?_ tail
  intro before result after opened acts
  have ends := execQuery_ends query false opened acts
  cases result with
  | ok reply => exact ends
  | error ex => exact raised ends

/--
What an operation leaves behind inside `CatchOp`.  Only an operation whose
query carries `CommitTx` can end with a commit, confirmed or failed.
-/
def OpEnds (unknown : StdException → Prop) (base : Server) (mode commit : Bool)
    (result : Except StdException TOperationResult) (state : Transaction × Server) : Prop :=
  match result with
  | .ok operation =>
    if operation.ok then
      Live base mode state ∨ commit = true ∧ Finished base mode state
    else
      Kept base mode state
  | .error ex =>
    Kept base mode state ∨ commit = true ∧ state.1.finalCommitMode = mode ∧
      CommitFails unknown base ex state.2

theorem opEnds_of_live {commit : Bool} {operation : TOperationResult}
    (live : Live base mode state) : OpEnds unknown base mode commit (.ok operation) state := by
  cases succeeded : operation.ok with
  | false => simpa [OpEnds, succeeded] using live.kept
  | true => simp [OpEnds, succeeded, live]

theorem queryOp_ends {query : Query} {commit : Bool} {read : query.Reply → TOperationResult}
    (succeeds : commit = true → ∀ reply, (read reply).ok = true) :
    Ensures (sdkAnswers unknown) (Open base mode)
      (queryOp query commit read) (OpEnds unknown base mode commit) := by
  cases commit with
  | false =>
    exact execQuery_bind (fun reply => .pure fun _ live => opEnds_of_live live)
      fun _ _ kept => .inl kept
  | true =>
    refine .bind (fun _ => Finished base mode) ?_ fun reply => .pure fun state finished => ?_
    · intro before result after opened acts
      have ends := execQuery_ends query true opened acts
      cases result with
      | ok reply => exact ends
      | error ex => exact .inr ⟨rfl, ends⟩
    · simp [OpEnds, succeeds rfl reply, finished]

theorem rollbackThenFailOp_ends {commit : Bool} (errorClass : EErrorClass) (message : String) :
    Ensures (sdkAnswers unknown) (Kept base mode) (rollbackThenFailOp errorClass message)
      (OpEnds unknown base mode commit) := by
  refine .bind (fun _ => Kept base mode) ?_ fun _ =>
    .pure fun state kept => by simpa [OpEnds] using kept
  intro before result after kept acts
  obtain ⟨⟨report, rfl⟩, stillKept⟩ := rollback_ends kept acts
  exact stillKept

/-- What `CatchOp` makes of an operation. -/
def Caught (unknown : StdException → Prop) (base : Server) (mode commit : Bool)
    (operation : TOperationResult) (state : Transaction × Server) : Prop :=
  if operation.ok then
    Live base mode state ∨ commit = true ∧ Finished base mode state
  else
    Kept base mode state ∨ ∃ ex, commit = true ∧ operation = failureOf ex ∧
      state.1.finalCommitMode = mode ∧ CommitFails unknown base ex state.2

theorem failureOf_ok (ex : StdException) : (failureOf ex).ok = false := by
  cases ex <;> rfl

theorem catchOp_ends {Before : Transaction × Server → Prop} {commit : Bool}
    {computation : TransactionM TOperationResult}
    (body : Ensures (sdkAnswers unknown) Before computation (OpEnds unknown base mode commit)) :
    Ensures (sdkAnswers unknown) Before (catchOp computation) fun result state =>
        ∃ operation, result = .ok operation ∧ Caught unknown base mode commit operation state := by
  intro before result after initially acts
  obtain ⟨value, middle, ran, later⟩ := acts_attempt_bind.mp acts
  have ends := body initially ran
  cases value with
  | ok operation =>
    obtain ⟨rfl, rfl⟩ := acts_pure.mp later
    refine ⟨operation, rfl, ?_⟩
    cases succeeded : operation.ok with
    | false =>
      have kept : Kept base mode after := by
        simpa [OpEnds, succeeded] using ends
      simp [Caught, succeeded, kept]
    | true =>
      simpa [OpEnds, Caught, succeeded] using ends
  | error ex =>
    obtain ⟨rfl, rfl⟩ := acts_pure.mp later
    refine ⟨_, rfl, ?_⟩
    rw [Caught, failureOf_ok]
    exact ends.imp_right fun ⟨committing, failed⟩ => ⟨ex, committing, rfl, failed⟩

/-- A change of the delivery prefetch keeps the transaction. -/
theorem Live.withPrefetch (live : Live base mode state) (prefetch : TDeliveryPrefetch) :
    Live base mode ({ state.1 with deliveryPrefetch := prefetch }, state.2) :=
  ⟨⟨live.usable, live.finalCommitMode, live.unchanged⟩, live.tx⟩

theorem loadDeliveryPrefetch_ends {commit : Bool} (w : Int) :
    Ensures (sdkAnswers unknown) (Open base mode) (loadDeliveryPrefetch w)
      (OpEnds unknown base mode commit) := by
  refine execQuery_bind (fun sets => ?_) fun _ _ kept => .inl kept
  dsimp only
  split
  · exact (rollbackThenFailOp_ends _ _).mono (fun _ live => live.kept)
      fun _ _ ends => ends
  · refine .modify_bind (Live base mode) (fun _ live => live.withPrefetch _) ?_
    split
    · exact .modify_bind (Live base mode) (fun _ live => live.withPrefetch _)
        (.pure fun _ live => opEnds_of_live live)
    · refine (execQuery_bind (fun infos => ?_) fun _ _ kept => .inl kept).mono
        (fun _ live => live.toOpen) fun _ _ ends => ends
      cases infos with
      | none =>
        exact (rollbackThenFailOp_ends _ _).mono (fun _ live => live.kept) fun _ _ ends => ends
      | some pair =>
        refine .modify_bind (Live base mode) (fun _ live => live.withPrefetch _) ?_
        split
        · exact (rollbackThenFailOp_ends _ _).mono (fun _ live => live.kept) fun _ _ ends => ends
        · exact .modify_bind (Live base mode) (fun _ live => live.withPrefetch _)
            (.pure fun _ live => opEnds_of_live live)

/-- A state in which an operation of the attempt may be issued. -/
structure Ready (base : Server) (mode : Bool) (op : TSemanticOp)
    (state : Transaction × Server) : Prop extends Open base mode state where
  first : state.1.tx = true ∨ op.Opens ∧ state.1.deliveryPrefetch.loaded = false

/-- An operation that cannot open a workflow finds a transaction. -/
theorem Ready.live {op : TSemanticOp} (ready : Ready base mode op state) (later : ¬ op.Opens) :
    Live base mode state :=
  ⟨ready.toOpen, ready.first.resolve_right fun first => later first.1⟩

theorem ensureDeliveryPrefetch_ends {commit : Bool} {w d : Int} :
    Ensures (sdkAnswers unknown) (Ready base mode (.getOldestNewOrder w d))
      (ensureDeliveryPrefetch w) (OpEnds unknown base mode commit) := by
  refine .get_bind fun own => ?_
  dsimp only
  split
  · rename_i cached
    refine .pure fun state ⟨ready, same⟩ => opEnds_of_live ⟨ready.toOpen, ?_⟩
    rcases ready.first with opened | ⟨_, unloaded⟩
    · exact opened
    · simp [← same, unloaded] at cached
  · refine .modify_bind (Open base mode) (fun state ⟨ready, _⟩ =>
        ⟨ready.usable, ready.finalCommitMode, ready.unchanged⟩) ?_
    refine .bind (fun operation => Caught unknown base mode false operation) ?_
      fun operation => .get_bind fun own => ?_
    · intro before result after opened acts
      obtain ⟨operation, rfl, caught⟩ := catchOp_ends (loadDeliveryPrefetch_ends w) opened acts
      exact caught
    · have settled : ∀ state, Caught unknown base mode false operation state →
          OpEnds unknown base mode commit (.ok operation) state := by
        intro state caught
        cases succeeded : operation.ok <;> simp_all [Caught, OpEnds]
      split
      · rename_i failed
        refine .bind (fun _ => Kept base mode) ?_ fun _ => .pure fun state kept => ?_
        · intro before result after ⟨caught, _⟩ acts
          have kept : Kept base mode before := by
            simp_all [Caught]
          obtain ⟨⟨report, rfl⟩, stillKept⟩ := rollback_ends kept acts
          exact stillKept
        · simp_all [OpEnds]
      · exact .pure fun state ⟨caught, _⟩ => settled state caught

theorem getOldestNewOrder_ends {commit : Bool} {w d : Int} :
    Ensures (sdkAnswers unknown) (Ready base mode (.getOldestNewOrder w d))
      (getOldestNewOrder w d) (OpEnds unknown base mode commit) := by
  refine .bind (fun operation => OpEnds unknown base mode false (.ok operation)) ?_
    fun prefetched => ?_
  · intro before result after ready acts
    have ends : OpEnds unknown base mode false result after :=
      ensureDeliveryPrefetch_ends ready acts
    cases result with
    | ok operation => exact ends
    | error ex => exact .inl (by simpa [OpEnds] using ends)
  · split
    · refine .pure fun state ends => ?_
      simp_all [OpEnds]
    · refine .get_bind fun own => .pure fun state ⟨ends, _⟩ =>
        opEnds_of_live ?_
      simp_all [OpEnds]

/-- How an operation may end. -/
theorem operation_ends (commit : Bool) (op : TSemanticOp) :
    Ensures (sdkAnswers unknown) (Ready base mode op) (operation commit op)
      (OpEnds unknown base mode commit) := by
  have fromOpen {computation : TransactionM TOperationResult} (holds :
      Ensures (sdkAnswers unknown) (Open base mode) computation (OpEnds unknown base mode commit)) :
      Ensures (sdkAnswers unknown) (Ready base mode op) computation
      (OpEnds unknown base mode commit) :=
    holds.mono (fun _ ready => ready.toOpen) fun _ _ ends => ends
  have query {query : Query} {read : query.Reply → TOperationResult} :
      Ensures (sdkAnswers unknown) (Open base mode)
      (queryOp query false read) (OpEnds unknown base mode commit) :=
    execQuery_bind (fun _ => .pure fun _ live => opEnds_of_live live)
      fun _ _ kept => .inl kept
  cases op with
  | reserveDistrictOrderId w d =>
    refine fromOpen (execQuery_bind (fun rows => ?_) fun _ _ kept => .inl kept)
    cases rows with
    | nil =>
      exact (rollbackThenFailOp_ends _ _).mono (fun _ live => live.kept) fun _ _ ends => ends
    | cons row rest =>
      exact .pure fun _ live => opEnds_of_live live
  | insertOrderLine request =>
    exact fromOpen (queryOp_ends fun _ _ => rfl)
  | applyPaymentToLocation request =>
    refine fromOpen (execQuery_bind (fun sets => ?_) fun _ _ kept => .inl kept)
    split
    · exact .modify_bind (Live base mode) (fun _ live => ⟨⟨live.usable, live.finalCommitMode,
        live.unchanged⟩, live.tx⟩) (.pure fun _ live => opEnds_of_live live)
    · exact .pure fun _ live => opEnds_of_live live
  | updateCustomerPayment request =>
    refine .modify_bind (Live base mode) (fun state ready => ?_)
      (.pure fun _ live => opEnds_of_live live)
    have live := ready.live nofun
    exact ⟨⟨live.usable, live.finalCommitMode, live.unchanged⟩, live.tx⟩
  | insertPaymentHistory request =>
    refine .ask_bind (fun _ => Open base mode) ?_ fun histId => queryOp_ends fun _ _ => rfl
    intro before histId after ready answered
    exact ⟨ready.usable, ready.finalCommitMode, Eq.trans answered ready.unchanged⟩
  | getOrderStatusLines w d o =>
    exact fromOpen (queryOp_ends fun _ _ => rfl)
  | getOldestNewOrder w d =>
    exact getOldestNewOrder_ends
  | getDeliveryOrderInfo w d o =>
    refine .get_bind fun own => ?_
    dsimp only
    split
    · exact .pure fun state ⟨ready, _⟩ => opEnds_of_live (ready.live nofun)
    · exact query.mono (fun _ ready => ready.1.toOpen) fun _ _ ends => ends
  | completeOrderDelivery request =>
    refine fromOpen (execQuery_bind (fun counts => ?_) fun _ _ kept => .inl kept)
    split
    · exact (rollbackThenFailOp_ends _ _).mono (fun _ live => live.kept) fun _ _ ends => ends
    · exact .pure fun _ live => opEnds_of_live live
  | applyDeliveryToCustomer request =>
    exact fromOpen (queryOp_ends fun _ _ => rfl)
  | countRecentLowStock w d threshold recentOrderCount =>
    refine fromOpen (execQuery_bind (fun districts => ?_) fun _ _ kept => .inl kept)
    cases districts with
    | nil =>
      exact .pure fun _ live => opEnds_of_live live
    | cons nextOid rest =>
      exact (queryOp_ends fun _ _ => rfl).mono (fun _ live => live.toOpen) fun _ _ ends => ends
  | _ =>
    exact fromOpen query

theorem execute_ends (op : TSemanticOp) :
    Ensures (sdkAnswers unknown) (Ready base mode op) (execute op) fun result state =>
        ∃ operation, result = .ok operation ∧ Caught unknown base mode mode operation state := by
  intro before result after ready acts
  rw [execute, acts_get_bind] at acts
  simp only [ready.usable, Bool.false_eq_true, ↓reduceIte, ready.finalCommitMode] at acts
  exact catchOp_ends (operation_ends mode op) ready acts

/-- What a batch leaves behind. -/
def BatchEnds (base : Server) (mode : Bool) (result : Except StdException TBatchResult)
    (state : Transaction × Server) : Prop :=
  Kept base mode state ∧ ∀ batch, result = .ok batch → batch.ok = true → Live base mode state

theorem batchEnds_of_live {result : Except StdException TBatchResult}
    (live : Live base mode state) : BatchEnds base mode result state :=
  ⟨live.kept, fun _ _ _ => live⟩

theorem batchEnds_error {ex : StdException} (kept : Kept base mode state) :
    BatchEnds base mode (.error ex) state :=
  ⟨kept, nofun⟩

theorem rollbackThenFailBatch_ends (errorClass : EErrorClass) (message : String) :
    Ensures (sdkAnswers unknown) (Live base mode)
      (rollbackThenFailBatch errorClass message) (BatchEnds base mode) := by
  refine .bind (fun _ => Kept base mode) ?_ fun _ => .pure fun state kept => ⟨kept, ?_⟩
  · intro before result after live acts
    obtain ⟨⟨report, rfl⟩, stillKept⟩ := rollback_ends live.kept acts
    exact stillKept
  · rintro _ ⟨⟩ ⟨⟩

theorem catchBatch_ends {computation : TransactionM TBatchResult}
    (body : Ensures (sdkAnswers unknown) (Open base mode) computation (BatchEnds base mode)) :
    Ensures (sdkAnswers unknown) (Open base mode) (catchBatch computation)
      fun result state => (∃ batch, result = .ok batch) ∧ BatchEnds base mode result state := by
  intro before result after opened acts
  obtain ⟨value, middle, ran, later⟩ := acts_attempt_bind.mp acts
  have ends := body opened ran
  cases value with
  | ok batch =>
    obtain ⟨rfl, rfl⟩ := acts_pure.mp later
    exact ⟨⟨batch, rfl⟩, ends⟩
  | error ex =>
    obtain ⟨rfl, rfl⟩ := acts_pure.mp later
    refine ⟨⟨_, rfl⟩, ends.1, ?_⟩
    rintro _ ⟨⟩ ⟨⟩

/-- A batch executed one by one stops at its first failure. -/
theorem executeInOrder_ends (ops : List TSemanticOp) :
    Ensures (sdkAnswers unknown) (Live base false) (executeInOrder execute ops { ok := true })
      fun result state => (∃ batch, result = .ok batch) ∧ BatchEnds base false result state := by
  intro before result after live acts
  have step : ∀ op, Ensures (sdkAnswers unknown) (Live base false) (execute op)
        (Returns (Live base false) (Kept base false)) := by
    intro op before result after live acts
    have ready : Ready base false op before := ⟨live.toOpen, .inl live.tx⟩
    obtain ⟨operation, rfl, caught⟩ := execute_ends op ready acts
    refine ⟨operation, rfl, ?_⟩
    cases succeeded : operation.ok <;> simpa [Caught, succeeded] using caught
  obtain ⟨batch, rfl, outcome⟩ :=
    executeInOrder_ensures (fun _ => Live base false) (Kept base false)
      (fun _ op _ => step op) rfl [] live acts
  refine ⟨⟨batch, rfl⟩, ?_⟩
  cases succeeded : batch.ok with
  | true =>
    rw [succeeded] at outcome
    exact batchEnds_of_live outcome
  | false =>
    rw [succeeded] at outcome
    refine ⟨outcome, ?_⟩
    rintro _ ⟨⟩ ok
    simp [succeeded] at ok

/-- How a batch may end. -/
theorem executeBatch_ends (ops : List TSemanticOp) :
    Ensures (sdkAnswers unknown) (Live base false) (executeBatch ops)
      fun result state => (∃ batch, result = .ok batch) ∧ BatchEnds base false result state := by
  intro before result after live acts
  rw [executeBatch, acts_get_bind] at acts
  simp only [live.usable, Bool.false_eq_true, ↓reduceIte] at acts
  split at acts
  · obtain ⟨rfl, rfl⟩ := acts_pure.mp acts
    exact ⟨⟨_, rfl⟩, batchEnds_of_live live⟩
  · split at acts
    · exact catchBatch_ends (execQuery_bind (fun _ => .pure fun _ live => batchEnds_of_live live)
          fun _ _ kept => batchEnds_error kept) live.toOpen acts
    · exact catchBatch_ends (execQuery_bind (fun _ => .pure fun _ live => batchEnds_of_live live)
          fun _ _ kept => batchEnds_error kept) live.toOpen acts
    · refine catchBatch_ends (execQuery_bind (fun counts => ?_)
          fun _ _ kept => batchEnds_error kept) live.toOpen acts
      split
      · exact rollbackThenFailBatch_ends _ _
      · exact .pure fun _ live => batchEnds_of_live live
    · refine catchBatch_ends (execQuery_bind (fun count => ?_)
          fun _ _ kept => batchEnds_error kept) live.toOpen acts
      split
      · exact rollbackThenFailBatch_ends _ _
      · exact .pure fun _ live => batchEnds_of_live live
    · exact executeInOrder_ends ops live acts

/-- What a commit with this status did to the server. -/
def StatusEnds (unknown : StdException → Prop) (before : Server) (status : SdkStatus)
    (after : Server) : Prop :=
  match status with
  | .success => after = before.confirm
  | .failure status issues =>
    CommitFails unknown before (.ydbError status issues) after
  | .raised ex => CommitFails unknown before ex after

/-- How a commit may end. -/
theorem commit_ends : Ensures (sdkAnswers unknown) (Live base mode) commit fun result state =>
        ∃ status, result = .ok (commitResultOf status) ∧
            StatusEnds unknown base status state.2 := by
  intro before result after live acts
  rw [commit, acts_get_bind] at acts
  simp only [live.usable, live.tx, Bool.false_eq_true, ↓reduceIte, Bool.not_true] at acts
  obtain ⟨status, middle, answered, later⟩ := acts_ask_bind.mp acts
  have finished := acts_modify_bind.mp later
  obtain ⟨rfl, rfl⟩ := acts_pure.mp finished
  refine ⟨status, rfl, ?_⟩
  rw [live.unchanged] at answered
  cases status <;> exact answered

end

end PortableTpcc.Ydb
