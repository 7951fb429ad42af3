import PortableTpcc.RunState

namespace PortableTpcc

namespace Mind

/-!
# Continuing the latest run

`LatestRunID` (`state.go`) picks the run with the latest time among all directories under
`state/runs`; `latestContinuableRunID` (`orchestrator.go`) then drops that run if it is terminal, of
another profile or at odds with the overrides.  Times are numbers, `time.Parse` and the hash of the
profile are given.
-/

/-- How a call on a file fails. -/
inductive FileError where
  | notExist
  | other (text : String)
deriving Repr, DecidableEq

/-- What is read of a run by `Load`. -/
structure LoadedRun where
  state : StateName
  updatedAt : String
deriving Repr, DecidableEq

/-- An entry of `state/runs`, with what the files in it hold. -/
structure RunEntry (ρ : Type) where
  name : String
  isDir : Bool
  load : Except FileError LoadedRun
  /-- `e.Info()`, the time of the last change of the directory. -/
  modTime : Except FileError Int
  /-- `profile.sha256`, without the space around it. -/
  profileSHA : Except FileError String
  /-- `run-config.json`, and how it is decoded. -/
  runConfig : Except FileError (Except String ρ)

/-- The time of an entry, if it has one. -/
def RunEntry.time {ρ : Type} (parse : String → Option Int) (e : RunEntry ρ) : Option Int :=
  match e.load with
  | .error _ => none
  | .ok rs => (parse rs.updatedAt).orElse fun _ => e.modTime.toOption

/-- One turn of the loop of `LatestRunID`. -/
def laterRun {ρ : Type} (parse : String → Option Int) (best : Option (RunEntry ρ × Int))
    (e : RunEntry ρ) : Option (RunEntry ρ × Int) :=
  if e.isDir then
    match e.time parse, best with
    | none, _ => best
    | some t, none => some (e, t)
    | some t, some (_, bestTime) => if bestTime < t then some (e, t) else best
  else
    best

/-- `LatestRunID`; the entry instead of its name. -/
def latestRun {ρ : Type} (parse : String → Option Int)
    (entries : Except FileError (List (RunEntry ρ))) : Except FileError (Option (RunEntry ρ)) :=
  match entries with
  | .error .notExist => .ok none
  | .error error => .error error
  | .ok entries => .ok ((entries.foldl (laterRun parse) none).map Prod.fst)

/-- `latestContinuableRunID`, where `profile` is the hash of the current profile and `overrides`,
if any are given, says whether they match a configuration.  An empty id is `none`. -/
def latestContinuableRunID {ρ : Type} (parse : String → Option Int)
    (entries : Except FileError (List (RunEntry ρ))) (profile : Except FileError String)
    (overrides : Option (ρ → Bool)) : Except FileError (Option String) := do
  match ← latestRun parse entries with
  | none => pure none
  | some latest =>
    let rs ← latest.load
    if isTerminal rs.state then
      return none
    let wantSHA ← profile
    match latest.profileSHA with
    | .error .notExist => return none
    | .error error => throw error
    | .ok stored =>
      if stored ≠ wantSHA then
        return none
      match overrides with
      | none => return some latest.name
      | some overridesMatch =>
        match latest.runConfig with
        | .error .notExist => return some latest.name
        | .error error => throw error
        | .ok (.error error) => throw (.other s!"load existing run-config.json: {error}")
        | .ok (.ok rc) => if overridesMatch rc then return some latest.name else return none

/-! ## Recorded runs -/

/-- A run as it was created and last updated. -/
structure RecordedRun where
  id : String
  state : StateName
  updatedAt : String
  profileSHA : String
deriving Repr, DecidableEq

/-- The directory of a run; nothing is known of its configuration and its own time. -/
def RecordedRun.IsEntry {ρ : Type} (run : RecordedRun) (e : RunEntry ρ) : Prop :=
  e.name = run.id ∧ e.isDir = true ∧ e.load = .ok ⟨run.state, run.updatedAt⟩ ∧
    e.profileSHA = .ok run.profileSHA

/-- A run that has not ended and was created from this profile. -/
def RecordedRun.Continuable (profile : String) (run : RecordedRun) : Prop :=
  isTerminal run.state = false ∧ run.profileSHA = profile

instance (profile : String) (run : RecordedRun) : Decidable (run.Continuable profile) :=
  inferInstanceAs (Decidable (_ ∧ _))

section

variable (time : RecordedRun → Int)

/-- The run is the newest, and the first of those by its name. -/
def IsNewest (runs : List RecordedRun) (newest : RecordedRun) : Prop :=
  ∃ before after, runs = before ++ newest :: after ∧ (∀ run ∈ before, time run < time newest) ∧
    ∀ run ∈ after, time run ≤ time newest

/-- The answer is the newest run that can be continued, or none if there is none. -/
def SelectsNewest (profile : String) (runs : List RecordedRun) (answer : Option String) : Prop :=
  ((∃ run ∈ runs, run.Continuable profile) → ∃ run ∈ runs, answer = some run.id ∧
      run.Continuable profile ∧ ∀ other ∈ runs, other.Continuable profile → time other ≤ time run) ∧
    ((∀ run ∈ runs, ¬ run.Continuable profile) → answer = none)

end

variable {ρ : Type} {parse : String → Option Int} {time : RecordedRun → Int}
  {entries : List (RunEntry ρ)} {runs : List RecordedRun}

/-- What the loop holds after some entries. -/
def Best (time : RecordedRun → Int) (runs : List RecordedRun) :
    Option (RunEntry ρ × Int) → Prop
  | none => runs = []
  | some (e, t) => ∃ newest, IsNewest time runs newest ∧ newest.IsEntry e ∧ t = time newest

theorem Best.snoc {best : Option (RunEntry ρ × Int)} (isBest : Best time runs best)
    {run : RecordedRun} {e : RunEntry ρ} (isEntry : run.IsEntry e)
    (parses : parse run.updatedAt = some (time run)) :
    Best time (runs ++ [run]) (laterRun parse best e) := by
  have ⟨_, isDir, load, _⟩ := isEntry
  have isTime : e.time parse = some (time run) := by simp [RunEntry.time, load, parses]
  simp only [laterRun, isDir, if_true, isTime]
  match best, isBest with
  | none, isBest =>
    subst isBest
    exact ⟨run, ⟨[], [], rfl, by simp, by simp⟩, isEntry, rfl⟩
  | some (b, t), ⟨newest, ⟨before, after, split_, earlier, later⟩, isB, isT⟩ =>
    subst isT
    subst split_
    dsimp only
    split
    · rename_i newer
      refine ⟨run, ⟨before ++ newest :: after, [], by simp, ?_, by simp⟩, isEntry, rfl⟩
      intro other isIn
      rcases List.mem_append.mp isIn with isBefore | isLater
      · exact (earlier other isBefore).trans newer
      · rcases List.mem_cons.mp isLater with rfl | isAfter
        · exact newer
        · exact (later other isAfter).trans_lt newer
    · rename_i notNewer
      refine ⟨newest, ⟨before, after ++ [run], by simp, earlier, ?_⟩, isB, rfl⟩
      intro other isIn
      rcases List.mem_append.mp isIn with isAfter | isLast
      · exact later other isAfter
      · rw [List.mem_singleton.mp isLast]
        exact Int.not_lt.mp notNewer

theorem Best.foldl {seen : List RecordedRun} {best : Option (RunEntry ρ × Int)}
    (isBest : Best time seen best) (areEntries : List.Forall₂ RecordedRun.IsEntry runs entries)
    (parses : ∀ run ∈ runs, parse run.updatedAt = some (time run)) :
    Best time (seen ++ runs) (entries.foldl (laterRun parse) best) := by
  induction areEntries generalizing seen best with
  | nil => simpa using isBest
  | cons isEntry rest ih =>
    obtain ⟨now, later⟩ := List.forall_mem_cons.mp parses
    rw [List.foldl_cons, List.append_cons]
    exact ih (isBest.snoc isEntry now) later

/-- Without overrides the newest of all runs is returned if it can be continued. -/
theorem latestContinuableRunID_of_newest {profile : String} {newest : RecordedRun}
    {e : RunEntry ρ} (isLatest : latestRun parse (.ok entries) = .ok (some e))
    (isEntry : newest.IsEntry e) :
    latestContinuableRunID parse (.ok entries) (.ok profile) none =
      .ok (if newest.Continuable profile then some newest.id else none) := by
  obtain ⟨name, _, load, sha⟩ := isEntry
  unfold latestContinuableRunID RecordedRun.Continuable
  rw [isLatest]
  simp only [load, sha, name, bind, Except.bind]
  by_cases ended : isTerminal newest.state = true <;>
    by_cases same : newest.profileSHA = profile <;> simp [ended, same, pure, Except.pure]

theorem IsNewest.mem {newest : RecordedRun} (isNewest : IsNewest time runs newest) :
    newest ∈ runs ∧ ∀ run ∈ runs, time run ≤ time newest := by
  obtain ⟨before, after, rfl, earlier, later⟩ := isNewest
  refine ⟨by simp, fun run isIn => ?_⟩
  rcases List.mem_append.mp isIn with isBefore | isLater
  · exact (earlier run isBefore).le
  · rcases List.mem_cons.mp isLater with rfl | isAfter
    · exact le_rfl
    · exact later run isAfter

theorem IsNewest.unique {first second : RecordedRun} (isFirst : IsNewest time runs first)
    (isSecond : IsNewest time runs second) : first = second := by
  obtain ⟨before, after, rfl, earlier, later⟩ := isFirst
  obtain ⟨before', after', same, earlier', later'⟩ := isSecond
  rcases List.append_eq_append_iff.mp same with ⟨gap, rfl, tail⟩ | ⟨gap, rfl, tail⟩
  · cases gap with
    | nil => exact (List.cons.inj tail).1
    | cons x rest =>
      obtain ⟨rfl, rfl⟩ := List.cons.inj tail
      have isLess := earlier' first (by simp)
      exact absurd (later second (by simp)) (not_le.mpr isLess)
  · cases gap with
    | nil => exact (List.cons.inj tail).1.symm
    | cons x rest =>
      obtain ⟨rfl, rfl⟩ := List.cons.inj tail
      have isLess := earlier second (by simp)
      exact absurd (later' first (by simp)) (not_le.mpr isLess)

/-- The newest run of this profile is found exactly if no run can be continued or the newest of all
recorded runs, the first by name of those, is one. -/
theorem latestContinuableRunID_selects_iff (parse : String → Option Int)
    (time : RecordedRun → Int) (runs : List RecordedRun) (entries : List (RunEntry ρ))
    (profile : String) (areEntries : List.Forall₂ RecordedRun.IsEntry runs entries)
    (parses : ∀ run ∈ runs, parse run.updatedAt = some (time run)) :
    (∃ answer, latestContinuableRunID parse (.ok entries) (.ok profile) none = .ok answer ∧
        SelectsNewest time profile runs answer) ↔
      ∀ newest, IsNewest time runs newest → (∃ run ∈ runs, run.Continuable profile) →
        newest.Continuable profile := by
  have best : Best time runs (entries.foldl (laterRun parse) none) := by
    have start : Best (ρ := ρ) time [] none := rfl
    simpa using start.foldl areEntries parses
  cases isFold : entries.foldl (laterRun parse) none with
  | none =>
    rw [isFold] at best
    obtain rfl : runs = [] := best
    constructor
    · rintro - newest - ⟨run, isIn, -⟩
      exact absurd isIn (List.not_mem_nil)
    · intro _
      refine ⟨none, ?_, by simp [SelectsNewest]⟩
      simp [latestContinuableRunID, latestRun, isFold, bind, Except.bind, pure, Except.pure]
  | some chosen =>
    rw [isFold] at best
    obtain ⟨e, t⟩ := chosen
    obtain ⟨newest, isNewest, isEntry, -⟩ := best
    have isLatest : latestRun parse (.ok entries) = .ok (some e) := by
      simp [latestRun, isFold]
    rw [latestContinuableRunID_of_newest isLatest isEntry]
    obtain ⟨isIn, greatest⟩ := isNewest.mem
    constructor
    · rintro ⟨_, isOk, selects, _⟩ other isOther someRun
      obtain rfl := Except.ok.inj isOk
      obtain rfl := isNewest.unique isOther
      obtain ⟨run, _, isAnswer, _⟩ := selects someRun
      by_contra dropped
      rw [if_neg dropped] at isAnswer
      cases isAnswer
    · intro condition
      refine ⟨_, rfl, fun someRun => ?_, fun noRun => if_neg (noRun newest isIn)⟩
      have continuable := condition newest isNewest someRun
      exact ⟨newest, isIn, if_pos continuable, continuable,
        fun other isOther _ => greatest other isOther⟩

/-- Reads the layout `time.RFC3339` in UTC, as one number of the order of the times. -/
def readUTC (text : String) : Option Int :=
  if text.toList.map (fun c => if c.isDigit then '0' else c) = "0000-00-00T00:00:00Z".toList then
    some (Nat.ofDigitChars 10 (text.toList.filter Char.isDigit) 0)
  else
    none

/-- A run that is being measured, and a later one of another profile. -/
def twoProfiles : List RecordedRun :=
  [⟨"a-1", .measuring, "2026-07-24T09:59:58Z", "A"⟩, ⟨"b-1", .planned, "2026-07-24T10:00:03Z", "B"⟩]

def RecordedRun.entry (run : RecordedRun) : RunEntry Unit :=
  ⟨run.id, true, .ok ⟨run.state, run.updatedAt⟩, .error .notExist, .ok run.profileSHA,
    .error .notExist⟩

/-- The run of profile `A` is not found while a newer run of profile `B` exists. -/
theorem newer_profile_hides_run :
    latestContinuableRunID readUTC (.ok (twoProfiles.map RecordedRun.entry)) (.ok "A") none =
        .ok none ∧
      ¬ SelectsNewest (fun run => (readUTC run.updatedAt).getD 0) "A" twoProfiles none := by
  refine ⟨by decide +kernel, fun selects => ?_⟩
  obtain ⟨_, _, isAnswer, _⟩ :=
    selects.1 ⟨⟨"a-1", .measuring, "2026-07-24T09:59:58Z", "A"⟩, by decide, by decide⟩
  cases isAnswer

theorem entries_twoProfiles :
    List.Forall₂ RecordedRun.IsEntry twoProfiles (twoProfiles.map RecordedRun.entry) := by
  rw [List.forall₂_map_right_iff, List.forall₂_same]
  intro run _
  exact ⟨rfl, rfl, rfl, rfl⟩

/-- The run of profile `B`, which is the newest, is found. -/
theorem latestContinuableRunID_selects_newer :
    ∃ answer, latestContinuableRunID readUTC (.ok (twoProfiles.map RecordedRun.entry)) (.ok "B")
        none = .ok answer ∧
      SelectsNewest (fun run => (readUTC run.updatedAt).getD 0) "B" twoProfiles answer := by
  have parses : ∀ run ∈ twoProfiles,
      readUTC run.updatedAt = some ((readUTC run.updatedAt).getD 0) := by
    decide +kernel
  rw [latestContinuableRunID_selects_iff _ _ _ _ _ entries_twoProfiles parses]
  rintro newest isNewest -
  obtain ⟨isIn, greatest⟩ := isNewest.mem
  have latest := greatest ⟨"b-1", .planned, "2026-07-24T10:00:03Z", "B"⟩ (by decide)
  rcases List.mem_cons.mp isIn with rfl | isSecond
  · exact absurd latest (by decide +kernel)
  · rw [List.mem_singleton.mp isSecond]
    decide

end Mind

end PortableTpcc
