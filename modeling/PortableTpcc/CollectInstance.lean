import Mathlib.Data.List.Infix
import PortableTpcc.PathContainment

namespace PortableTpcc

namespace Collect

/-!
# Collecting the artifacts of an instance

`CollectInstance` (`collect.go`) copies the payloads that a manifest names into a directory beside
the destination, checks each copy and then replaces the destination.  Paths are absolute and clean,
as lists of names.  Every operation on the files may fail, and leaves anything below its own path
when it does; the sources do not change meanwhile.
-/

/-- A clean absolute path. -/
abbrev FilePath : Type :=
  List String

/-- The text of a path. -/
def pathText (path : FilePath) : String :=
  "/" ++ "/".intercalate path

/-- The content of the regular files. -/
abbrev Files : Type :=
  FilePath → Option (List UInt8)

/-- The files with other ones at and below a path. -/
def Files.below (files : Files) (path : FilePath) (other : Files) : Files :=
  fun q => if path <+: q then other q else files q

/-- `ArtifactPayloadEntry`. -/
structure ArtifactPayloadEntry where
  path : String
  size : Int
  sha256 : String
deriving Repr, DecidableEq

/-- What is used of `ArtifactManifest`. -/
structure ArtifactManifest where
  finalized : Bool
  payloads : List ArtifactPayloadEntry
deriving Repr, DecidableEq

/-- `allowedArtifactPayloads`. -/
def allowedArtifactPayloads : List String :=
  ["result.json", "ready.json", "process.json", "stdout.log", "stderr.log"]

/-- `stdioArtifactPayloads`. -/
def stdioArtifactPayloads : List String :=
  ["stdout.log", "stderr.log"]

/-- `ValidateArtifactPayloadPath`. -/
def validateArtifactPayloadPath (path : String) : Except String Unit :=
  rejectIf (path ∉ allowedArtifactPayloads) s!"unsupported artifact payload path \"{path}\""

/-- The operations that may fail. -/
inductive CollectOp where
  | removeTmp
  | makeTmp
  | copy (index : Nat)
  | hash (index : Nat)
  | stat (index : Nat)
  | readPrefix (index : Nat)
  | removeFinal
  | rename
deriving Repr, DecidableEq

/-- A failed operation: its error, and what it leaves below its path. -/
structure FileFailure where
  text : String
  /-- `os.IsNotExist`. -/
  isNotExist : Bool
  left : Files

/-- What the command finds on the host. -/
structure CollectHost where
  fails : CollectOp → Option FileFailure
  /-- The manifest in the source directory, read and decoded. -/
  manifest : Except String ArtifactManifest
  evalSymlinks : FilePath → Except String FilePath
  /-- The sources, as `os.Open` and `io.Copy` read them. -/
  source : FilePath → Except String (List UInt8)
  sha256 : List UInt8 → String

/-- The parts of a text between separators. -/
def partsOf (separator : Char → Bool) (text : String) : List String :=
  (text.toList.splitOnP separator).map String.ofList

/-- The comparison of `paths.go`, which accepts nothing below the root. -/
def Stays (base target : FilePath) : Prop :=
  target = base ∨ base ≠ [] ∧ base <+: target

instance (base target : FilePath) : Decidable (Stays base target) :=
  inferInstanceAs (Decidable (_ ∨ _))

/-- `JoinRelative` and `JoinUnder` on a clean absolute base. -/
def joinUnder (base : FilePath) (elem : String) : Except String FilePath := do
  rejectIf (elem.toList.head? = some '/') s!"path \"{elem}\" must be relative"
  rejectIf (".." ∈ partsOf (fun c => c = '/' || c = '\\') elem)
    s!"path \"{elem}\" contains parent traversal"
  let joined := base ++ (partsOf (· = '/') elem).filter fun part => part ∉ ["", "."]
  rejectIf (¬ Stays base joined)
    s!"joined path \"{pathText joined}\" escapes base \"{pathText base}\""
  return joined

/-- `ResolveUnder`. -/
def resolveUnder (host : CollectHost) (base : FilePath) (elem : String) :
    Except String FilePath := do
  let joined ← joinUnder base elem
  let baseClean ← host.evalSymlinks base
  let targetClean ← host.evalSymlinks joined
  rejectIf (¬ Stays baseClean targetClean)
    s!"resolved path \"{pathText targetClean}\" escapes base \"{pathText baseClean}\""
  return targetClean

/-- `verifyStdioPrefixHash` on a file with this content. -/
def verifyStdioPrefixHash (host : CollectHost) (index : Nat) (content : List UInt8)
    (p : ArtifactPayloadEntry) : Except String Unit := do
  rejectIf (p.size < 0) "negative payload size"
  rejectIf ((content.length : Int) < p.size) "stdio artifact truncated"
  match host.fails (.readPrefix index) with
  | some failure => throw failure.text
  | none =>
    rejectIf (host.sha256 (content.take p.size.toNat) ≠ p.sha256) "stdio prefix hash mismatch"

/-- How the copy of a payload is checked. -/
def verifyPayload (host : CollectHost) (index : Nat) (content : List UInt8)
    (p : ArtifactPayloadEntry) : Except String Unit :=
  match host.fails (.hash index) with
  | some failure => .error failure.text
  | none =>
    if host.sha256 content = p.sha256 ∨ p.path ∈ stdioArtifactPayloads ∧
        verifyStdioPrefixHash host index content p = .ok () then
      .ok ()
    else
      let size : Int := if (host.fails (.stat index)).isSome then -1 else content.length
      .error <| s!"tampered artifact {p.path}: hash mismatch (manifest sha256={p.sha256} " ++
        s!"size={p.size}, file sha256={host.sha256 content} size={size})"

/-- The paths of a payload in the source and beside the destination. -/
def payloadPaths (host : CollectHost) (sourceDir destTmp : FilePath) (path : String) :
    Except String (FilePath × FilePath) := do
  let _ ← joinUnder sourceDir path
  validateArtifactPayloadPath path
  let src ← resolveUnder host sourceDir path
  let dst ← joinUnder destTmp path
  return (src, dst)

/-- One turn of the loop over the payloads, with `copyFile`. -/
def stagePayload (host : CollectHost) (sourceDir destTmp : FilePath) (index : Nat)
    (p : ArtifactPayloadEntry) (files : Files) : Files × Except String Unit :=
  match payloadPaths host sourceDir destTmp p.path with
  | .error error => (files, .error error)
  | .ok (src, dst) =>
    match host.fails (.copy index), host.source src with
    | some failure, _ => (files.below dst failure.left, .error failure.text)
    | none, .error error => (files, .error error)
    | none, .ok content =>
      (files.below dst fun q => if q = dst then some content else files q,
        verifyPayload host index content p)

/-- The loop over the payloads. -/
def stagePayloads (host : CollectHost) (sourceDir destTmp : FilePath) :
    Nat → List ArtifactPayloadEntry → Files → Files × Except String Unit
  | _, [], files => (files, .ok ())
  | index, p :: rest, files =>
    match stagePayload host sourceDir destTmp index p files with
    | (staged, .error error) => (staged, .error error)
    | (staged, .ok ()) => stagePayloads host sourceDir destTmp (index + 1) rest staged

/-- `os.RemoveAll`. -/
def removeAll (failure : Option FileFailure) (path : FilePath) (files : Files) :
    Files × Except String Unit :=
  match failure with
  | some failure => (files.below path failure.left, .error failure.text)
  | none => (files.below path fun _ => none, .ok ())

/-- `CollectInstance` up to the replacement of the destination. -/
def stageInstance (host : CollectHost) (sourceDir destTmp : FilePath) (name : String)
    (files : Files) : Files × Except String Unit :=
  match removeAll (host.fails .removeTmp) destTmp files with
  | (files, .error error) => (files, .error error)
  | (files, .ok ()) =>
    match host.manifest, host.fails .makeTmp with
    | .error error, _ => (files, .error error)
    | .ok manifest, makeTmp =>
      if !manifest.finalized then
        (files, .error s!"artifact manifest for {name} not finalized")
      else
        match makeTmp with
        | some failure => (files, .error failure.text)
        | none => stagePayloads host sourceDir destTmp 0 manifest.payloads files

/-- `os.Rename` of a directory. -/
def rename (failure : Option FileFailure) (source target : FilePath) (files : Files) :
    Files × Except String Unit :=
  match failure with
  | some failure => (files, .error failure.text)
  | none =>
    ((files.below target fun q => files (source ++ q.drop target.length)).below source
      fun _ => none, .ok ())

/-- The replacement of the destination, which need not exist. -/
def replaceDestination (host : CollectHost) (destTmp destFinal : FilePath) (files : Files) :
    Files × Except String Unit :=
  let removed := removeAll (host.fails .removeFinal) destFinal files
  match removed.2, (host.fails .removeFinal).any FileFailure.isNotExist with
  | .error error, false => (removed.1, .error error)
  | _, _ => rename (host.fails .rename) destTmp destFinal removed.1

/-- `CollectInstance` into `parent/name`, by way of `parent/name.tmp`. -/
def collectInstance (host : CollectHost) (sourceDir parent : FilePath) (name : String)
    (files : Files) : Files × Except String Unit :=
  let destTmp := parent ++ [name ++ ".tmp"]
  match stageInstance host sourceDir destTmp name files with
  | (files, .error error) => (files, .error error)
  | (files, .ok ()) => replaceDestination host destTmp (parent ++ [name]) files

/-- The content was in the source directory under the name of the payload, and has its hash. -/
structure Collected (host : CollectHost) (sourceDir : FilePath) (p : ArtifactPayloadEntry)
    (content : List UInt8) : Prop where
  allowed : p.path ∈ allowedArtifactPayloads
  resolved : ∃ base target, host.evalSymlinks sourceDir = .ok base ∧
    host.evalSymlinks (sourceDir ++ [p.path]) = .ok target ∧ base <+: target ∧
    host.source target = .ok content
  hashed : host.sha256 content = p.sha256 ∨ p.path ∈ stdioArtifactPayloads ∧ 0 ≤ p.size ∧
    p.size ≤ content.length ∧ host.sha256 (content.take p.size.toNat) = p.sha256

section

variable {host : CollectHost} {sourceDir destTmp base q : FilePath} {p : ArtifactPayloadEntry}
  {content : List UInt8} {index : Nat} {files staged : Files}

theorem Collected.unique {next : ArtifactPayloadEntry} {other : List UInt8}
    (first : Collected host sourceDir p content) (second : Collected host sourceDir next other)
    (same : p.path = next.path) : content = other := by
  obtain ⟨_, target, _, isTarget, _, isContent⟩ := first.resolved
  obtain ⟨_, target', _, isTarget', _, isOther⟩ := second.resolved
  rw [same, isTarget'] at isTarget
  obtain rfl := Except.ok.inj isTarget
  rw [isContent] at isOther
  exact Except.ok.inj isOther

theorem Stays.isPrefix {target : FilePath} (stays : Stays base target) : base <+: target := by
  rcases stays with rfl | ⟨-, inside⟩
  · exact List.prefix_refl _
  · exact inside

theorem joinUnder_eq_ok {path : String} {joined : FilePath}
    (allowed : path ∈ allowedArtifactPayloads) (isOk : joinUnder base path = .ok joined) :
    base ≠ [] ∧ joined = base ++ [path] := by
  have single : ∀ path ∈ allowedArtifactPayloads,
      ((partsOf (· = '/') path).filter fun part => part ∉ ["", "."]) = [path] := by
    decide
  obtain ⟨_, -, rest⟩ := bind_eq_ok.mp isOk
  obtain ⟨_, -, rest⟩ := bind_eq_ok.mp rest
  rw [single path allowed] at rest
  obtain ⟨_, accepted, same⟩ := bind_eq_ok.mp rest
  refine ⟨?_, (Except.ok.inj same).symm⟩
  rintro rfl
  exact absurd (not_not.mp (rejectIf_eq_ok.mp accepted)) (by simp [Stays])

/-- The bytes of a name. -/
def nameBytes (name : String) : Bytes :=
  name.toUTF8.data.toList

/-- The path with its names in bytes. -/
def directory (path : FilePath) : Remote.Directory :=
  path.map nameBytes

theorem proper_nameBytes : ∀ path ∈ allowedArtifactPayloads,
    Remote.Directory.Proper [nameBytes path] ∧ 92 ∉ nameBytes path := by
  decide +kernel

/-- On the accepted names `joinUnder` is `JoinUnder` of `paths.go`, on the texts of the paths. -/
theorem joinUnder_paths (paths : Paths.Host) (proper : (directory base).Proper) {path : String}
    {joined : FilePath} (allowed : path ∈ allowedArtifactPayloads)
    (isOk : joinUnder base path = .ok joined) :
    Paths.joinUnder paths (directory base).path (nameBytes path) =
      .ok (directory joined).path := by
  obtain ⟨notRoot, rfl⟩ := joinUnder_eq_ok allowed isOk
  obtain ⟨isProper, noBackslash⟩ := proper_nameBytes path allowed
  rw [Paths.joinUnder_name proper (List.map_eq_nil_iff.not.mpr notRoot) isProper noBackslash]
  simp [directory]

/-- The links are those of the host of `paths.go`, and none leads to the root. -/
def Agrees (host : CollectHost) (paths : Paths.Host) : Prop :=
  ∀ path target, (directory path).Proper → host.evalSymlinks path = .ok target →
    directory target ≠ [] ∧ (directory target).Proper ∧
      paths.evalSymlinks (directory path).path = .ok (directory target).path

/-- On the accepted names `resolveUnder` is `ResolveUnder` of `paths.go`. -/
theorem resolveUnder_paths {paths : Paths.Host} (agrees : Agrees host paths)
    (proper : (directory base).Proper) {path : String} {target : FilePath}
    (allowed : path ∈ allowedArtifactPayloads) (isOk : resolveUnder host base path = .ok target) :
    Paths.resolveUnder paths (directory base).path (nameBytes path) =
      .ok (directory target).path := by
  obtain ⟨joined, isJoined, rest⟩ := bind_eq_ok.mp isOk
  obtain ⟨baseClean, isBase, rest⟩ := bind_eq_ok.mp rest
  obtain ⟨targetClean, isTarget, rest⟩ := bind_eq_ok.mp rest
  obtain ⟨_, accepted, same⟩ := bind_eq_ok.mp rest
  obtain rfl := Except.ok.inj same
  have joins := joinUnder_paths paths proper allowed isJoined
  obtain ⟨notRoot, rfl⟩ := joinUnder_eq_ok allowed isJoined
  have below : (directory (base ++ [path])).Proper := by
    rw [directory, List.map_append]
    exact List.forall_mem_append.mpr ⟨proper, (proper_nameBytes path allowed).1⟩
  obtain ⟨baseNotRoot, baseProper, baseLink⟩ := agrees base baseClean proper isBase
  obtain ⟨targetNotRoot, targetProper, targetLink⟩ := agrees _ targetClean below isTarget
  have stays : Paths.Stays (directory baseClean).path (directory targetClean).path :=
    Paths.stays_path ((not_not.mp (rejectIf_eq_ok.mp accepted)).isPrefix.map _)
  unfold Paths.resolveUnder
  rw [joins, Paths.abs_path proper (List.map_eq_nil_iff.not.mpr notRoot)]
  simp only [ok_bind, baseLink, targetLink, Except.mapError,
    Paths.clean_path baseProper baseNotRoot, Paths.clean_path targetProper targetNotRoot]
  exact bind_eq_ok.mpr ⟨(), rejectIf_eq_ok.mpr (not_not.mpr stays), rfl⟩

theorem payloadPaths_eq_ok {src dst : FilePath}
    (isOk : payloadPaths host sourceDir destTmp p.path = .ok (src, dst)) :
    p.path ∈ allowedArtifactPayloads ∧ resolveUnder host sourceDir p.path = .ok src ∧
      dst = destTmp ++ [p.path] := by
  obtain ⟨_, -, rest⟩ := bind_eq_ok.mp isOk
  obtain ⟨_, isAllowed, rest⟩ := bind_eq_ok.mp rest
  obtain ⟨_, isSrc, rest⟩ := bind_eq_ok.mp rest
  obtain ⟨_, isDst, same⟩ := bind_eq_ok.mp rest
  have allowed : p.path ∈ allowedArtifactPayloads := not_not.mp (rejectIf_eq_ok.mp isAllowed)
  obtain ⟨rfl, rfl⟩ := Prod.mk.inj (Except.ok.inj same)
  exact ⟨allowed, isSrc, (joinUnder_eq_ok allowed isDst).2⟩

theorem verifyPayload_eq_ok (isOk : verifyPayload host index content p = .ok ()) :
    host.sha256 content = p.sha256 ∨ p.path ∈ stdioArtifactPayloads ∧ 0 ≤ p.size ∧
      p.size ≤ content.length ∧ host.sha256 (content.take p.size.toNat) = p.sha256 := by
  unfold verifyPayload at isOk
  split at isOk
  · cases isOk
  · split at isOk
    · rename_i accepted
      refine accepted.imp_right fun ⟨isStdio, verified⟩ => ⟨isStdio, ?_⟩
      obtain ⟨_, size, rest⟩ := bind_eq_ok.mp verified
      obtain ⟨_, length, rest⟩ := bind_eq_ok.mp rest
      split at rest
      · cases rest
      · exact ⟨Int.not_lt.mp (rejectIf_eq_ok.mp size), Int.not_lt.mp (rejectIf_eq_ok.mp length),
          not_not.mp (rejectIf_eq_ok.mp rest)⟩
    · cases isOk

/-- One turn writes the payload and nothing else, if it succeeds. -/
theorem stagePayload_eq_ok
    (isOk : stagePayload host sourceDir destTmp index p files = (staged, .ok ())) :
    ∃ content, Collected host sourceDir p content ∧ staged (destTmp ++ [p.path]) = some content ∧
      ∀ q ≠ destTmp ++ [p.path], staged q = files q := by
  unfold stagePayload at isOk
  split at isOk
  · cases isOk
  · rename_i src dst isPaths
    obtain ⟨allowed, isSrc, rfl⟩ := payloadPaths_eq_ok isPaths
    split at isOk
    · cases isOk
    · cases isOk
    · rename_i content _ isContent
      obtain ⟨isStaged, verified⟩ := Prod.mk.inj isOk
      subst isStaged
      refine ⟨content, ⟨allowed, ?_, verifyPayload_eq_ok verified⟩, ?_, fun q differs => ?_⟩
      · obtain ⟨joined, isJoined, rest⟩ := bind_eq_ok.mp isSrc
        obtain ⟨-, rfl⟩ := joinUnder_eq_ok allowed isJoined
        obtain ⟨base, isBase, rest⟩ := bind_eq_ok.mp rest
        obtain ⟨target, isTarget, rest⟩ := bind_eq_ok.mp rest
        obtain ⟨_, inside, same⟩ := bind_eq_ok.mp rest
        obtain rfl := Except.ok.inj same
        exact ⟨base, target, isBase, isTarget,
          (not_not.mp (rejectIf_eq_ok.mp inside)).isPrefix, isContent⟩
      · simp [Files.below]
      · simp [Files.below, differs]

/-- One turn leaves everything outside of the staging directory. -/
theorem stagePayload_outside (outside : ¬ destTmp <+: q) :
    (stagePayload host sourceDir destTmp index p files).1 q = files q := by
  unfold stagePayload
  split
  · rfl
  · rename_i src dst isPaths
    obtain ⟨-, -, rfl⟩ := payloadPaths_eq_ok isPaths
    have notBelow : ¬ destTmp ++ [p.path] <+: q :=
      fun below => outside ((List.prefix_append _ _).trans below)
    split
    · exact if_neg notBelow
    · rfl
    · exact if_neg notBelow

variable {payloads : List ArtifactPayloadEntry}

theorem stagePayloads_outside (outside : ¬ destTmp <+: q) :
    (stagePayloads host sourceDir destTmp index payloads files).1 q = files q := by
  induction payloads generalizing index files with
  | nil => rfl
  | cons p rest ih =>
    have step : (stagePayload host sourceDir destTmp index p files).1 q = files q :=
      stagePayload_outside outside
    rw [stagePayloads]
    split
    · rename_i staged error isStage
      rw [← step, isStage]
    · rename_i staged isStage
      rw [ih, ← step, isStage]

/-- The loop leaves the content of each payload under its name, and nothing else. -/
theorem stagePayloads_eq_ok
    (isOk : stagePayloads host sourceDir destTmp index payloads files = (staged, .ok ())) :
    (∀ p ∈ payloads, ∃ content, Collected host sourceDir p content ∧
        staged (destTmp ++ [p.path]) = some content) ∧
      ∀ q, (∀ p ∈ payloads, q ≠ destTmp ++ [p.path]) → staged q = files q := by
  induction payloads generalizing index files with
  | nil =>
    obtain rfl : files = staged := congrArg Prod.fst isOk
    simp
  | cons p rest ih =>
    rw [stagePayloads] at isOk
    split at isOk
    · cases isOk
    · rename_i middle isStage
      obtain ⟨content, collected, written, others⟩ := stagePayload_eq_ok isStage
      obtain ⟨later, kept⟩ := ih isOk
      refine ⟨List.forall_mem_cons.mpr ⟨⟨content, collected, ?_⟩, later⟩, fun q differs => ?_⟩
      · -- A later payload of the same name has the same content.
        by_cases again : ∃ next ∈ rest, next.path = p.path
        · obtain ⟨next, isIn, same⟩ := again
          obtain ⟨other, isOther, isStaged⟩ := later next isIn
          rw [← same, isStaged, isOther.unique collected same]
        · rw [kept, written]
          intro next isIn same
          exact again ⟨next, isIn, by simpa using same.symm⟩
      · obtain ⟨first, laterDiffer⟩ := List.forall_mem_cons.mp differs
        rw [kept q laterDiffer, others q first]

theorem stageInstance_outside {name : String} (outside : ¬ destTmp <+: q) :
    (stageInstance host sourceDir destTmp name files).1 q = files q := by
  unfold stageInstance removeAll
  cases host.fails .removeTmp with
  | some failure => exact if_neg outside
  | none =>
    have removed : (files.below destTmp fun _ => none) q = files q := if_neg outside
    cases host.manifest with
    | error error => exact removed
    | ok manifest =>
      dsimp only
      split
      · exact removed
      · cases host.fails .makeTmp with
        | some failure => exact removed
        | none => exact (stagePayloads_outside outside).trans removed

theorem stageInstance_eq_ok {name : String}
    (isOk : stageInstance host sourceDir destTmp name files = (staged, .ok ())) :
    ∃ manifest, host.manifest = .ok manifest ∧
      (∀ p ∈ manifest.payloads, ∃ content, Collected host sourceDir p content ∧
        staged (destTmp ++ [p.path]) = some content) ∧
      ∀ rel, (∀ p ∈ manifest.payloads, rel ≠ [p.path]) → staged (destTmp ++ rel) = none := by
  unfold stageInstance removeAll at isOk
  cases removeTmp : host.fails .removeTmp with
  | some failure => simp [removeTmp] at isOk
  | none =>
    cases isManifest : host.manifest with
    | error error => simp [removeTmp, isManifest] at isOk
    | ok manifest =>
      simp only [removeTmp, isManifest] at isOk
      split at isOk
      · cases isOk
      · cases makeTmp : host.fails .makeTmp with
        | some failure => simp [makeTmp] at isOk
        | none =>
          rw [makeTmp] at isOk
          obtain ⟨named, others⟩ := stagePayloads_eq_ok isOk
          refine ⟨manifest, rfl, named, fun rel differs => ?_⟩
          rw [others _ fun p isIn same => differs p isIn (List.append_cancel_left same)]
          exact if_pos (List.prefix_append _ _)

end

theorem not_prefix_sibling {parent rel : FilePath} {a b : String} (differ : a ≠ b) :
    ¬ parent ++ [a] <+: parent ++ [b] ++ rel := by
  rintro ⟨rest, same⟩
  simp only [List.append_assoc, List.append_cancel_left_eq, List.cons_append, List.nil_append,
    List.cons.injEq] at same
  exact differ same.1

theorem rename_eq_ok {failure : Option FileFailure} {parent : FilePath} {tmp name : String}
    {files renamed : Files} (differ : tmp ≠ name)
    (isOk : rename failure (parent ++ [tmp]) (parent ++ [name]) files = (renamed, .ok ()))
    (rel : FilePath) : renamed (parent ++ [name] ++ rel) = files (parent ++ [tmp] ++ rel) := by
  unfold rename at isOk
  cases failure with
  | some failure => cases isOk
  | none =>
    obtain rfl := (Prod.mk.inj isOk).1
    unfold Files.below
    rw [if_neg (not_prefix_sibling differ), if_pos (List.prefix_append _ _)]
    dsimp only
    rw [List.drop_left]

theorem removeAll_outside {failure : Option FileFailure} {path q : FilePath} {files : Files}
    (outside : ¬ path <+: q) : (removeAll failure path files).1 q = files q := by
  cases failure <;> exact if_neg outside

theorem replaceDestination_eq_ok {host : CollectHost} {parent : FilePath} {tmp name : String}
    {files replaced : Files} (differ : tmp ≠ name)
    (isOk : replaceDestination host (parent ++ [tmp]) (parent ++ [name]) files =
      (replaced, .ok ())) (rel : FilePath) :
    replaced (parent ++ [name] ++ rel) = files (parent ++ [tmp] ++ rel) := by
  unfold replaceDestination at isOk
  dsimp only at isOk
  split at isOk
  · cases isOk
  · rw [rename_eq_ok differ isOk]
    exact removeAll_outside (not_prefix_sibling differ.symm)

/-- A failure before the replacement leaves the destination; after a success it has exactly the
payloads of the manifest, each from the source directory and with its hash. -/
theorem collectInstance_allOrNothing (host : CollectHost) (sourceDir parent : FilePath)
    (name : String) (files : Files) :
    (∀ error, (stageInstance host sourceDir (parent ++ [name ++ ".tmp"]) name files).2 =
        .error error → (collectInstance host sourceDir parent name files).2 = .error error ∧
      ∀ rel, (collectInstance host sourceDir parent name files).1 (parent ++ [name] ++ rel) =
        files (parent ++ [name] ++ rel)) ∧
    ((collectInstance host sourceDir parent name files).2 = .ok () →
      ∃ manifest, host.manifest = .ok manifest ∧
        (∀ p ∈ manifest.payloads, ∃ content, Collected host sourceDir p content ∧
          (collectInstance host sourceDir parent name files).1 (parent ++ [name] ++ [p.path]) =
            some content) ∧
        ∀ rel, (∀ p ∈ manifest.payloads, rel ≠ [p.path]) →
          (collectInstance host sourceDir parent name files).1 (parent ++ [name] ++ rel) =
            none) := by
  have differ : name ++ ".tmp" ≠ name := fun same => by simpa using congrArg String.length same
  have kept (rel : FilePath) :
      (stageInstance host sourceDir (parent ++ [name ++ ".tmp"]) name files).1
        (parent ++ [name] ++ rel) = files (parent ++ [name] ++ rel) :=
    stageInstance_outside (not_prefix_sibling differ)
  unfold collectInstance
  dsimp only
  rcases isStage : stageInstance host sourceDir (parent ++ [name ++ ".tmp"]) name files with
    ⟨staged, error | _⟩
  · rw [isStage] at kept
    exact ⟨fun other same => ⟨same, kept⟩, by rintro ⟨⟩⟩
  · obtain ⟨manifest, isManifest, named, others⟩ := stageInstance_eq_ok isStage
    refine ⟨by rintro _ ⟨⟩, fun isOk => ⟨manifest, isManifest, ?_⟩⟩
    have moved := replaceDestination_eq_ok differ (Prod.ext rfl isOk)
    simp only [moved]
    exact ⟨named, others⟩

/-- A host on which nothing fails, with the hash of a file its length. -/
def exampleCollectHost : CollectHost where
  fails _ := none
  manifest := .ok ⟨true, [⟨"result.json", 2, "2"⟩, ⟨"stdout.log", 1, "1"⟩]⟩
  evalSymlinks := .ok
  source path := .ok (if path = ["out", "w1", "result.json"] then [123, 125] else [79, 75, 10])
  sha256 content := toString content.length

-- The log has grown since the manifest was written.
example :
    let collected := collectInstance exampleCollectHost ["out", "w1"] ["raw"] "w1" fun _ => none
    collected.2 = .ok () ∧ collected.1 ["raw", "w1", "result.json"] = some [123, 125] ∧
      collected.1 ["raw", "w1", "stdout.log"] = some [79, 75, 10] ∧
      collected.1 ["raw", "w1.tmp", "stdout.log"] = none := by
  decide +kernel

end Collect

end PortableTpcc
