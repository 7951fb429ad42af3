import PortableTpcc.ProgramTraces
import PortableTpcc.WaitProcesses

namespace PortableTpcc

namespace Mind

/-!
# What a wait for processes goes through

For each part of a look at a process, what the runs with a given result have gone
through, whatever the hosts answer.  One rule for the loops then carries a fact
about the processes that remain through a whole wait.
-/

section

variable {σ : Type} {answers : Answers hostCalls σ} {before after : σ}
  {abortOnFail : Bool} {p q : LaunchedProc}

/-- The process with what was read of its metadata. -/
def Loads (answers : Answers hostCalls σ) (p q : LaunchedProc) (before after : σ) : Prop :=
  ∃ metadata first second, Later answers before first ∧
    answers first (.readMetadata p.procFile) (.ok metadata) second ∧ Later answers second after ∧
    q = p.withMetadata metadata

theorem runs_loadProcessMetadata
    (run : Runs answers (loadProcessMetadata p) before (.ok (true, q)) after) :
    Loads answers p q before after := by
  rcases Runs.call_iff.mp run with ⟨exist, first, isFirst, run⟩
  rcases exist with err | _ | _
  · exact absurd (Runs.done_iff.mp run).1 (by simp)
  · exact absurd (Runs.done_iff.mp run).1 (by simp)
  · rcases Runs.call_iff.mp run with ⟨reply, second, isSecond, run⟩
    rcases reply with err | metadata
    · exact absurd (Runs.done_iff.mp run).1 (by simp)
    · rcases Runs.call_iff.mp run with ⟨⟨⟩, third, isThird, run⟩
      rcases Runs.done_iff.mp run with ⟨same, rfl⟩
      simp only [Except.ok.injEq, Prod.mk.injEq, true_and] at same
      exact ⟨metadata, first, second, .single isFirst, isSecond, .single isThird, same⟩

/-- A process whose look goes on has a nonce, and no process is reported before. -/
def Ensured (answers : Answers hostCalls σ) (p : LaunchedProc) (before after : σ) :
    Except WaitError LaunchedProc → Prop
  | .error error => ∀ q logs, error ≠ .died q logs
  | .ok q =>
    q.instanceNonce ≠ "" ∧ (q = p ∨ p.instanceNonce = "" ∧ Loads answers p q before after)

theorem runs_ensureNonce {result : Except WaitError LaunchedProc}
    (run : Runs answers (ensureNonce p) before result after) :
    Ensured answers p before after result := by
  unfold ensureNonce at run
  split at run
  case isTrue unknown =>
    rcases Runs.bind_iff.mp run with ⟨loaded, middle, isLoad, run⟩
    rcases loaded with err | ⟨isLoaded, r⟩
    · obtain ⟨rfl, -⟩ := Runs.done_iff.mp run
      exact nofun
    · dsimp only at run
      split at run
      case isTrue =>
        obtain ⟨rfl, -⟩ := Runs.done_iff.mp run
        exact nofun
      case isFalse complete =>
        rcases Runs.done_iff.mp run with ⟨rfl, rfl⟩
        simp only [Bool.not_eq_true', not_or, Bool.not_eq_false] at complete
        rcases complete with ⟨rfl, known⟩
        exact ⟨known, .inr ⟨unknown, runs_loadProcessMetadata isLoad⟩⟩
  case isFalse known =>
    rcases Runs.done_iff.mp run with ⟨rfl, rfl⟩
    exact ⟨known, .inl rfl⟩

/-- A manifest that does not exist was looked for, one that was found was read. -/
def Probed (answers : Answers hostCalls σ) (p : LaunchedProc) (before after : σ) :
    Except WaitError (Option ArtifactManifest) → Prop
  | .error error => ∀ q logs, error ≠ .died q logs
  | .ok none => answers before (.fileExists p.doneFile) (.ok false) after
  | .ok (some manifest) => ∃ first, Later answers before first ∧
      answers first (.readManifest p.doneFile) (.ok manifest) after

theorem runs_probeManifest {result : Except WaitError (Option ArtifactManifest)}
    (run : Runs answers (probeManifest p) before result after) :
    Probed answers p before after result := by
  rcases Runs.call_iff.mp run with ⟨exist, first, isFirst, run⟩
  rcases exist with err | _ | _
  · obtain ⟨rfl, -⟩ := Runs.done_iff.mp run
    exact nofun
  · obtain ⟨rfl, rfl⟩ := Runs.done_iff.mp run
    exact isFirst
  · rcases Runs.call_iff.mp run with ⟨reply, second, isSecond, run⟩
    rcases reply with err | manifest
    · obtain ⟨rfl, -⟩ := Runs.done_iff.mp run
      exact nofun
    · obtain ⟨rfl, rfl⟩ := Runs.done_iff.mp run
      exact ⟨first, .single isFirst, isSecond⟩

variable {look : Look}

/-- A process is given up once it is found dead. -/
theorem runs_giveUpIfDead {error : Prog hostCalls WaitError}
    (run : Runs answers (giveUpIfDead abortOnFail p error) before look after) :
    look = .keep p ∨ ∃ dead recorded, Runs answers p.isDead before true dead ∧
      Later answers dead recorded ∧ ((abortOnFail = false ∧ look = .delete) ∨
      (abortOnFail = true ∧ ∃ reported, look = .fail reported ∧
      Runs answers error recorded reported after)) := by
  rcases Runs.bind_iff.mp run with ⟨isDead, dead, isProbe, run⟩
  cases isDead with
  | false =>
    left
    exact (Runs.done_iff.mp run).1
  | true =>
    right
    rcases Runs.call_iff.mp run with ⟨⟨⟩, recorded, isRecord, run⟩
    refine ⟨dead, recorded, isProbe, .single isRecord, ?_⟩
    cases abortOnFail with
    | false =>
      left
      exact ⟨rfl, (Runs.done_iff.mp run).1⟩
    | true =>
      right
      rcases Runs.bind_iff.mp run with ⟨reported, last, isReport, run⟩
      rcases Runs.done_iff.mp run with ⟨rfl, rfl⟩
      exact ⟨rfl, reported, rfl, isReport⟩

theorem runs_finish {status : Int}
    (run : Runs answers (finish abortOnFail p status) before look after) :
    (look = .delete ∧ (abortOnFail = true → status = 0)) ∨
      ∃ logs, look = .fail (.exited p status logs) := by
  rcases Runs.call_iff.mp run with ⟨⟨⟩, first, _, run⟩
  rcases Runs.bind_iff.mp run with ⟨_, second, _, run⟩
  split at run
  case isTrue =>
    rcases Runs.call_iff.mp run with ⟨logs, third, _, run⟩
    exact .inr ⟨logs, (Runs.done_iff.mp run).1⟩
  case isFalse other =>
    left
    refine ⟨(Runs.done_iff.mp run).1, ?_⟩
    intro aborts
    by_contra failed
    exact other ⟨aborts, failed⟩

variable {seen : Option ArtifactManifest}

/-- A process that is looked at again is the one that was looked at. -/
theorem runs_judge_keep (run : Runs answers (judge abortOnFail p seen) before (.keep q) after) :
    q = p := by
  have ofGiveUp {error : Prog hostCalls WaitError} (run :
      Runs answers (giveUpIfDead abortOnFail p error) before (.keep q) after) : q = p := by
    rcases runs_giveUpIfDead run with isKept | ⟨_, _, _, _, isEnd⟩
    · exact Look.keep.inj isKept
    · rcases isEnd with ⟨_, isDeleted⟩ | ⟨_, _, isFailed, _⟩
      · exact absurd isDeleted (by simp)
      · exact absurd isFailed (by simp)
  cases seen with
  | none =>
    exact ofGiveUp run
  | some manifest =>
    rw [judge] at run
    split at run
    · exact ofGiveUp run
    · split at run
      · exact ofGiveUp run
      · rcases runs_finish run with ⟨isDeleted, _⟩ | ⟨_, isFailed⟩
        · exact absurd isDeleted (by simp)
        · exact absurd isFailed (by simp)

/-- With `abortOnFail`, only a process that has succeeded is deleted. -/
theorem runs_judge_delete (known : p.instanceNonce ≠ "")
    (run : Runs answers (judge true p seen) before .delete after) :
    ∃ manifest, seen = some manifest ∧ manifest.instanceNonce = p.instanceNonce ∧
      manifest.finalized = true ∧ manifest.exitStatus = 0 := by
  have notGivenUp {error : Prog hostCalls WaitError}
      (run : Runs answers (giveUpIfDead true p error) before .delete after) :
      False := by
    rcases runs_giveUpIfDead run with isKept | ⟨_, _, _, _, isEnd⟩
    · exact absurd isKept (by simp)
    · rcases isEnd with ⟨noAbort, _⟩ | ⟨_, _, isFailed, _⟩
      · exact absurd noAbort (by simp)
      · exact absurd isFailed (by simp)
  cases seen with
  | none =>
    exact (notGivenUp run).elim
  | some manifest =>
    rw [judge] at run
    split at run
    case isTrue =>
      exact (notGivenUp run).elim
    case isFalse matching =>
      split at run
      case isTrue =>
        exact (notGivenUp run).elim
      case isFalse finalized =>
        rcases runs_finish run with ⟨_, succeeded⟩ | ⟨_, isFailed⟩
        · refine ⟨manifest, rfl, ?_, ?_, succeeded rfl⟩
          · by_contra different
            exact matching ⟨known, different⟩
          · simpa using finalized
        · exact absurd isFailed (by simp)

/-- The parts of a look at a process that is not over early. -/
theorem runs_lookAt (run : Runs answers (lookAt abortOnFail p) before look after) :
    (∃ error, look = .fail error ∧ ∀ q logs, error ≠ .died q logs) ∨ ∃ q seen first second,
      Runs answers (ensureNonce p) before (.ok q) first ∧
      Runs answers (probeManifest q) first (.ok seen) second ∧
      Runs answers (judge abortOnFail q seen) second look after := by
  rcases Runs.bind_iff.mp run with ⟨ensured, first, isEnsured, run⟩
  rcases ensured with error | q
  · left
    exact ⟨error, (Runs.done_iff.mp run).1, runs_ensureNonce isEnsured⟩
  · rcases Runs.bind_iff.mp run with ⟨probed, second, isProbed, run⟩
    rcases probed with error | seen
    · left
      exact ⟨error, (Runs.done_iff.mp run).1, runs_probeManifest isProbed⟩
    · right
      exact ⟨q, seen, first, second, isEnsured, isProbed, run⟩

theorem runs_lookAt_keep (run : Runs answers (lookAt abortOnFail p) before (.keep q) after) :
    ∃ first, Runs answers (ensureNonce p) before (.ok q) first ∧ Later answers first after := by
  rcases runs_lookAt run with
    ⟨_, isFailed, _⟩ | ⟨r, seen, first, second, isEnsured, isProbed, isJudged⟩
  · exact absurd isFailed (by simp)
  · rw [runs_judge_keep isJudged]
    exact ⟨first, isEnsured, isProbed.later.trans isJudged.later⟩

/-- A fact about the remaining processes that the looks keep. -/
structure KeptByLooks (answers : Answers hostCalls σ) (abortOnFail : Bool)
    (Inv : List LaunchedProc → σ → Prop) (Fails : WaitError → σ → Prop) : Prop where
  answered : ∀ {remaining before after command reply},
    Inv remaining before → answers before command reply after →
      Inv remaining after
  keep : ∀ {remaining p q before after}, Inv remaining before →
    p ∈ remaining → Runs answers (lookAt abortOnFail p) before (.keep q) after →
      Inv (putRemaining remaining q) after
  delete : ∀ {remaining p before after}, Inv remaining before →
    p ∈ remaining → Runs answers (lookAt abortOnFail p) before .delete after →
      Inv (deleteRemaining remaining p.key) after
  fail : ∀ {remaining p error before after}, Inv remaining before →
    p ∈ remaining →
      Runs answers (lookAt abortOnFail p) before (.fail error) after →
        Fails error after

namespace KeptByLooks

variable {Inv : List LaunchedProc → σ → Prop} {Fails : WaitError → σ → Prop}
  (kept : KeptByLooks answers abortOnFail Inv Fails)

include kept

theorem turn {order : List String} {remaining : List LaunchedProc}
    {result : Except WaitError (List LaunchedProc)} (inv : Inv remaining before)
    (run : Runs answers (turn abortOnFail order remaining) before result after) :
    (∀ later, result = .ok later → Inv later after) ∧
      ∀ error, result = .error error → Fails error after := by
  induction order generalizing remaining before with
  | nil =>
    rcases Runs.done_iff.mp run with ⟨rfl, rfl⟩
    refine ⟨?_, fun error isError => absurd isError (by simp)⟩
    intro later isLater
    cases isLater
    exact inv
  | cons key order ih =>
    rw [Mind.turn] at run
    split at run
    case h_1 =>
      exact ih inv run
    case h_2 p found =>
      have member := List.mem_of_find?_eq_some found
      have isKey : p.key = key := by
        simpa using List.find?_some found
      rcases Runs.bind_iff.mp run with ⟨look, middle, isLook, run⟩
      cases look with
      | keep q =>
        exact ih (kept.keep inv member isLook) run
      | delete =>
        exact ih (isKey ▸ kept.delete inv member isLook) run
      | fail error =>
        rcases Runs.done_iff.mp run with ⟨rfl, rfl⟩
        refine ⟨fun later isLater => absurd isLater (by simp), ?_⟩
        intro other isOther
        cases isOther
        exact kept.fail inv member isLook

theorem waitLoop {turns : Nat} {remaining : List LaunchedProc}
    {result : Option (Except WaitError Unit)} (inv : Inv remaining before)
    (run : Runs answers (waitLoop abortOnFail turns remaining) before result after) :
    (result = some (.ok ()) → Inv [] after) ∧ ∀ error, result = some (.error error) →
      error = .interrupted ∨ error = .timeout ∨ Fails error after := by
  induction turns generalizing remaining before with
  | zero =>
    cases remaining with
    | nil =>
      rcases Runs.done_iff.mp run with ⟨rfl, rfl⟩
      exact ⟨fun _ => inv, by simp⟩
    | cons p rest =>
      rcases Runs.done_iff.mp run with ⟨rfl, rfl⟩
      exact ⟨by simp, by simp⟩
  | succ turns ih =>
    cases remaining with
    | nil =>
      rcases Runs.done_iff.mp run with ⟨rfl, rfl⟩
      exact ⟨fun _ => inv, by simp⟩
    | cons p rest =>
      rcases Runs.call_iff.mp run with ⟨interrupted, first, isFirst, run⟩
      cases interrupted with
      | true =>
        rcases Runs.done_iff.mp run with ⟨rfl, rfl⟩
        exact ⟨by simp, by simp⟩
      | false =>
        rcases Runs.call_iff.mp run with ⟨late, second, isSecond, run⟩
        cases late with
        | true =>
          rcases Runs.done_iff.mp run with ⟨rfl, rfl⟩
          exact ⟨by simp, by simp⟩
        | false =>
          rcases Runs.call_iff.mp run with ⟨order, third, isThird, run⟩
          rcases Runs.bind_iff.mp run with ⟨turned, fourth, isTurn, run⟩
          have inv := kept.answered
            (kept.answered (kept.answered inv isFirst) isSecond) isThird
          rcases kept.turn inv isTurn with ⟨isKept, hasFailed⟩
          rcases turned with error | remaining
          · rcases Runs.done_iff.mp run with ⟨rfl, rfl⟩
            refine ⟨by simp, ?_⟩
            intro other isOther
            cases isOther
            exact .inr (.inr (hasFailed error rfl))
          · rcases Runs.call_iff.mp run with ⟨stopped, fifth, isFifth, run⟩
            have inv := kept.answered (isKept remaining rfl) isFifth
            cases stopped with
            | true =>
              rcases Runs.done_iff.mp run with ⟨rfl, rfl⟩
              exact ⟨by simp, by simp⟩
            | false =>
              exact ih inv run

end KeptByLooks

end

end Mind

end PortableTpcc
