import PortableTpcc.FallibleChecks
import PortableTpcc.RemoveAll

namespace PortableTpcc

/-!
# Paths below a base directory

`paths.go` joins a relative path to a base directory and refuses to leave it.
The comparison of texts with which the three functions end does not suffice for
a base of `..`; there the check of the single parts is what keeps the path
inside.
-/

namespace Paths

open Shell Remote

/-! ## The functions -/

/-- The errors; `host` is one of the operating system. -/
inductive PathError where
  | mustBeRelative (elem : Bytes)
  | parentTraversal (elem : Bytes)
  | joinedEscapes (joined base : Bytes)
  | resolvedEscapes (target base : Bytes)
  | host (message : String)
deriving Repr, DecidableEq

/-- The text of an error; `quote` is the verb `%q`. -/
def PathError.text (quote : Bytes → String) : PathError → String
  | .mustBeRelative elem => s!"path {quote elem} must be relative"
  | .parentTraversal elem => s!"path {quote elem} contains parent traversal"
  | .joinedEscapes joined base => s!"joined path {quote joined} escapes base {quote base}"
  | .resolvedEscapes target base => s!"resolved path {quote target} escapes base {quote base}"
  | .host message => message

/-- `filepath.IsAbs`. -/
def isAbs (path : Bytes) : Bool :=
  path.head? = some 47

/-- `filepath.Join` of two elements. -/
def join : Bytes → Bytes → Bytes
  | [], [] => []
  | [], elem => clean elem
  | base, elem => clean (base ++ 47 :: elem)

/-- What is known of the file system of a process. -/
structure Host where
  getwd : Except String Bytes
  evalSymlinks : Bytes → Except String Bytes
  isAbs_getwd : ∀ {path}, getwd = .ok path → isAbs path = true
  isAbs_evalSymlinks : ∀ {path resolved}, isAbs path = true →
    evalSymlinks path = .ok resolved → isAbs resolved = true

/-- `filepath.Abs`. -/
def Host.abs (host : Host) (path : Bytes) : Except PathError Bytes :=
  if isAbs path then
    .ok (clean path)
  else do
    let wd ← host.getwd.mapError .host
    return join wd path

/-- `strings.FieldsFunc` with both slashes as separators. -/
def parts (elem : Bytes) : List Bytes :=
  (elem.splitOnP fun b => b = 47 ∨ b = 92).filter (· ≠ [])

/-- The comparison of the clean texts. -/
def Stays (baseClean targetClean : Bytes) : Prop :=
  targetClean = baseClean ∨ (baseClean ++ [47]).isPrefixOf targetClean = true

instance (baseClean targetClean : Bytes) : Decidable (Stays baseClean targetClean) :=
  inferInstanceAs (Decidable (_ ∨ _))

/-- `JoinRelative`. -/
def joinRelative (base elem : Bytes) : Except PathError Bytes := do
  rejectIf (isAbs elem) (.mustBeRelative elem)
  rejectIf (ascii ".." ∈ parts elem) (.parentTraversal elem)
  let joined := join base elem
  let joinedClean := clean joined
  if clean base = ascii "." then
    rejectIf (joinedClean = ascii "." ∨ (ascii "..").isPrefixOf joinedClean)
      (.joinedEscapes joined base)
  else
    rejectIf (¬ Stays (clean base) joinedClean) (.joinedEscapes joined base)
  return joinedClean

/-- `JoinUnder`. -/
def joinUnder (host : Host) (base elem : Bytes) : Except PathError Bytes := do
  let joined ← joinRelative base elem
  let baseAbs ← host.abs base
  let joinedAbs ← host.abs joined
  let joinedClean := clean joinedAbs
  rejectIf (¬ Stays (clean baseAbs) joinedClean) (.joinedEscapes joined base)
  return joinedClean

/-- `ResolveUnder`. -/
def resolveUnder (host : Host) (base elem : Bytes) : Except PathError Bytes := do
  let joined ← joinUnder host base elem
  let baseAbs ← host.abs base
  let baseResolved ← (host.evalSymlinks baseAbs).mapError .host
  let targetResolved ← (host.evalSymlinks joined).mapError .host
  let baseClean := clean baseResolved
  let targetClean := clean targetResolved
  rejectIf (¬ Stays baseClean targetClean) (.resolvedEscapes targetClean baseClean)
  return targetClean

/-! ## The names of a path -/

/-- A name that leads one directory down. -/
structure Plain (name : Bytes) : Prop where
  ne_nil : name ≠ []
  ne_dot : name ≠ ascii "."
  ne_parent : name ≠ ascii ".."
  no_slash : 47 ∉ name

/-- The names that `filepath.Clean` leaves. -/
def names (path : Bytes) : List Bytes :=
  ((path.splitOn 47).foldl (cleanName (isAbs path)) []).reverse

/-- The target is the base, or is reached from it by names that lead down. -/
def Inside (base target : Bytes) : Prop :=
  isAbs target = isAbs base ∧
    ∃ below, names target = names base ++ below ∧ ∀ name ∈ below, Plain name

theorem no_slash_of_mem_splitOn {path name : Bytes} (member : name ∈ path.splitOn 47) :
    47 ∉ name := by
  unfold List.splitOn at member
  induction path generalizing name with
  | nil =>
    rw [List.splitOnP_nil, List.mem_singleton] at member
    exact member ▸ List.not_mem_nil
  | cons b rest ih =>
    rw [List.splitOnP_cons_eq_if_modifyHead] at member
    split at member
    next =>
      rcases List.mem_cons.mp member with rfl | inRest
      · exact List.not_mem_nil
      · exact ih inRest
    next noSlash =>
      cases split : rest.splitOnP (· == 47) with
      | nil =>
        exact absurd split (List.splitOnP_ne_nil _ _)
      | cons first others =>
        rw [split] at member
        rcases List.mem_cons.mp member with rfl | inOthers
        · refine List.not_mem_cons_of_ne_of_not_mem ?_ (ih (split ▸ List.mem_cons_self))
          exact fun same => noSlash (beq_iff_eq.mpr same.symm)
        · exact ih (split ▸ List.mem_cons_of_mem _ inOthers)

theorem cleanName_plain (rooted : Bool) (kept : List Bytes) {name : Bytes} (plain : Plain name) :
    cleanName rooted kept name = name :: kept := by
  unfold cleanName
  rw [if_neg (not_or.mpr ⟨plain.ne_nil, plain.ne_dot⟩), if_neg plain.ne_parent]

/-- What `cleanName` can have kept, the last name first. -/
inductive Kept (rooted : Bool) : List Bytes → Prop where
  | nil : Kept rooted []
  | plain {name : Bytes} {kept : List Bytes} :
      Plain name → Kept rooted kept → Kept rooted (name :: kept)
  | parent {kept : List Bytes} :
      rooted = false → (∀ last ∈ kept.head?, last = ascii "..") → Kept rooted kept →
        Kept rooted (ascii ".." :: kept)

variable {rooted : Bool} {kept : List Bytes}

theorem Kept.cleanName {name : Bytes} (isKept : Kept rooted kept) (no_slash : 47 ∉ name) :
    Kept rooted (cleanName rooted kept name) := by
  unfold Remote.cleanName
  split
  next =>
    exact isKept
  next named =>
    split
    next isParent =>
      subst isParent
      cases isKept with
      | nil =>
        cases rooted with
        | true => exact .nil
        | false => exact .parent rfl (fun _ isLast => nomatch isLast) .nil
      | plain isPlain before =>
        simp only [if_neg isPlain.ne_parent]
        exact before
      | parent unrooted parents before =>
        simp only [if_true]
        refine .parent unrooted ?_ (.parent unrooted parents before)
        exact fun _ isLast => (Option.some.inj isLast).symm
    next notParent =>
      exact .plain ⟨fun h => named (.inl h), fun h => named (.inr h), notParent, no_slash⟩ isKept

theorem Kept.foldl_cleanName {path : List Bytes} (isKept : Kept rooted kept)
    (no_slash : ∀ name ∈ path, 47 ∉ name) :
    Kept rooted (path.foldl (Remote.cleanName rooted) kept) := by
  induction path generalizing kept with
  | nil =>
    exact isKept
  | cons name rest ih =>
    rw [List.forall_mem_cons] at no_slash
    exact ih (isKept.cleanName no_slash.1) no_slash.2

theorem kept_names (path : Bytes) : Kept (isAbs path) (names path).reverse := by
  rw [names, List.reverse_reverse]
  exact Kept.nil.foldl_cleanName fun _ => no_slash_of_mem_splitOn

/-- Cleaning does not change names that are clean. -/
theorem Kept.again (isKept : Kept rooted kept) :
    kept.reverse.foldl (Remote.cleanName rooted) [] = kept := by
  induction isKept with
  | nil =>
    rfl
  | plain isPlain _ ih =>
    rw [List.reverse_cons, List.foldl_append, ih]
    exact cleanName_plain rooted _ isPlain
  | @parent kept unrooted parents _ ih =>
    rw [List.reverse_cons, List.foldl_append, ih, unrooted]
    cases kept with
    | nil => rfl
    | cons last before =>
      rw [parents last rfl]
      rfl

/-- A property of the names that lead down, and of `..` where it can be kept. -/
theorem Kept.forall {property : Bytes → Prop} (isKept : Kept rooted kept)
    (plain : ∀ {name}, Plain name → property name)
    (parent : rooted = false → property (ascii "..")) : ∀ name ∈ kept, property name := by
  induction isKept with
  | nil => exact fun _ member => nomatch member
  | plain isPlain _ ih => exact List.forall_mem_cons.mpr ⟨plain isPlain, ih⟩
  | parent unrooted _ _ ih => exact List.forall_mem_cons.mpr ⟨parent unrooted, ih⟩

theorem Kept.no_slash (isKept : Kept rooted kept) : ∀ name ∈ kept, 47 ∉ name :=
  isKept.forall Plain.no_slash fun _ => by decide

theorem Kept.ne_nil (isKept : Kept rooted kept) : ∀ name ∈ kept, name ≠ [] :=
  isKept.forall Plain.ne_nil fun _ => by decide

theorem Kept.plain_of_rooted (isKept : Kept true kept) : ∀ name ∈ kept, Plain name :=
  isKept.forall id nofun

theorem clean_of_rooted {path : Bytes} (isRooted : isAbs path = true) :
    clean path = 47 :: [47].intercalate (names path) := by
  have head : path.head? = some 47 := of_decide_eq_true isRooted
  unfold clean names isAbs
  rw [if_pos head]

theorem clean_of_relative {path : Bytes} (isRelative : isAbs path = false) :
    clean path = if names path = [] then ascii "." else [47].intercalate (names path) := by
  have head : ¬ path.head? = some 47 := of_decide_eq_false isRelative
  unfold clean names isAbs
  rw [if_neg head]

/-- The names of a clean absolute path can be read off its text. -/
theorem splitOn_clean_of_rooted {path : Bytes} (isRooted : isAbs path = true)
    (named : names path ≠ []) : (clean path).splitOn 47 = [] :: names path := by
  have kept := kept_names path
  have joined : (([] : Bytes) ++ 47 :: [47].intercalate (names path)).splitOn 47 =
      [[]] ++ ([47].intercalate (names path)).splitOn 47 :=
    List.splitOn_append_cons_self _ _
  rw [clean_of_rooted isRooted]
  rw [List.splitOn_intercalate 47 (fun name member => kept.no_slash name (by simpa using member))
    named] at joined
  exact joined

theorem isAbs_clean (path : Bytes) : isAbs (clean path) = isAbs path := by
  have kept := kept_names path
  cases isRooted : isAbs path with
  | true =>
    rw [clean_of_rooted isRooted]
    rfl
  | false =>
    rw [clean_of_relative isRooted]
    cases named : names path with
    | nil =>
      rfl
    | cons name rest =>
      -- The text starts with the first byte of the first name.
      have member : name ∈ (names path).reverse := by simp [named]
      have ne_nil := kept.ne_nil name member
      have no_slash := kept.no_slash name member
      rw [if_neg (List.cons_ne_nil _ _)]
      cases name with
      | nil =>
        exact absurd rfl ne_nil
      | cons b bytes =>
        have first : ([47].intercalate ((b :: bytes) :: rest)).head? = some b := by
          cases rest <;> simp [List.intercalate]
        unfold isAbs
        rw [first]
        exact decide_eq_false fun same => no_slash (Option.some.inj same ▸ List.mem_cons_self)

theorem names_clean (path : Bytes) : names (clean path) = names path := by
  have kept := kept_names path
  have again := kept.again
  rw [List.reverse_reverse] at again
  by_cases named : names path = []
  · rw [named]
    cases isRooted : isAbs path with
    | true =>
      rw [clean_of_rooted isRooted, named]
      rfl
    | false =>
      rw [clean_of_relative isRooted, if_pos named]
      rfl
  · rw [names, isAbs_clean]
    cases isRooted : isAbs path with
    | true =>
      rw [isRooted] at again
      rw [splitOn_clean_of_rooted isRooted named]
      exact (congrArg List.reverse again).trans (List.reverse_reverse _)
    | false =>
      rw [isRooted] at again
      rw [clean_of_relative isRooted, if_neg named, List.splitOn_intercalate 47
        (fun name member => kept.no_slash name (by simpa using member)) named, again,
        List.reverse_reverse]

theorem Inside.clean {base target : Bytes} (isInside : Inside base target) :
    Inside base (clean target) := by
  unfold Inside
  rw [isAbs_clean, names_clean]
  exact isInside

/-! ## Joining parts without a parent -/

theorem mem_splitOnP_intercalate (isSeparator : UInt8 → Bool) (slash : isSeparator 47 = true)
    {name : Bytes} (unbroken : ∀ b ∈ name, isSeparator b = false) {path : List Bytes}
    (member : name ∈ path) : name ∈ ([47].intercalate path).splitOnP isSeparator := by
  have alone : name ∈ name.splitOnP isSeparator := by
    rw [List.splitOnP_eq_singleton unbroken]
    exact List.mem_singleton_self name
  induction path with
  | nil =>
    cases member
  | cons first rest ih =>
    cases rest with
    | nil =>
      rw [← List.mem_singleton.mp member, List.intercalate_singleton]
      exact alone
    | cons second others =>
      rw [List.intercalate_cons_cons, List.append_assoc, List.singleton_append,
        List.splitOnP_append_cons _ _ slash, List.mem_append]
      rcases List.mem_cons.mp member with rfl | inRest
      · exact .inl alone
      · exact .inr (ih inRest)

/-- The parts include the names that have no backslash in them. -/
theorem parent_notMem_splitOn {elem : Bytes} (noParent : ascii ".." ∉ parts elem) :
    ascii ".." ∉ elem.splitOn 47 := by
  intro member
  refine noParent (List.mem_filter.mpr ⟨?_, by decide⟩)
  have unbroken : ∀ b ∈ ascii "..", decide (b = 47 ∨ b = 92) = false := by
    intro b isByte
    have isDot : b = 46 := List.eq_of_mem_replicate (n := 2) isByte
    rw [isDot]
    rfl
  have isPart := mem_splitOnP_intercalate (fun b => b = 47 ∨ b = 92) (by decide) unbroken member
  rwa [List.intercalate_splitOn] at isPart

/-- Names other than `..` only add to what is kept. -/
theorem foldl_cleanName_of_noParent (rooted : Bool) (kept : List Bytes) {path : List Bytes}
    (no_slash : ∀ name ∈ path, 47 ∉ name) (noParent : ascii ".." ∉ path) :
    ∃ below, (∀ name ∈ below, Plain name) ∧
      (path.foldl (cleanName rooted) kept).reverse = kept.reverse ++ below := by
  induction path generalizing kept with
  | nil =>
    exact ⟨[], fun _ member => (nomatch member), (List.append_nil _).symm⟩
  | cons name rest ih =>
    rw [List.forall_mem_cons] at no_slash
    have notParent : name ≠ ascii ".." := fun same => noParent (same ▸ List.mem_cons_self)
    have restNoParent := fun member => noParent (List.mem_cons_of_mem name member)
    by_cases skipped : name = [] ∨ name = ascii "."
    · have same : cleanName rooted kept name = kept := if_pos skipped
      rw [List.foldl_cons, same]
      exact ih kept no_slash.2 restNoParent
    · have isPlain : Plain name :=
        ⟨fun h => skipped (.inl h), fun h => skipped (.inr h), notParent, no_slash.1⟩
      rcases ih (name :: kept) no_slash.2 restNoParent with ⟨below, plain, result⟩
      refine ⟨name :: below, List.forall_mem_cons.mpr ⟨isPlain, plain⟩, ?_⟩
      rw [List.foldl_cons, cleanName_plain rooted kept isPlain, result]
      simp

theorem inside_join {base elem : Bytes} (isRelative : isAbs elem = false)
    (noParent : ascii ".." ∉ parts elem) : Inside base (join base elem) := by
  have added := fun rooted kept => foldl_cleanName_of_noParent rooted kept
    (fun _ => no_slash_of_mem_splitOn) (parent_notMem_splitOn noParent)
  unfold join
  split
  next =>
    exact ⟨rfl, [], rfl, fun _ member => nomatch member⟩
  next =>
    rcases added (isAbs elem) [] with ⟨below, plain, result⟩
    exact Inside.clean ⟨isRelative, below, result, plain⟩
  next notEmpty _ =>
    have sameRoot : isAbs (base ++ 47 :: elem) = isAbs base := by
      cases base with
      | nil => exact absurd rfl notEmpty
      | cons b bytes => rfl
    rcases added (isAbs base) ((base.splitOn 47).foldl (cleanName (isAbs base)) []) with
      ⟨below, plain, result⟩
    refine Inside.clean ⟨sameRoot, below, ?_, plain⟩
    rw [names, sameRoot, List.splitOn_append_cons_self, List.foldl_append, result]
    rfl

theorem inside_of_joinRelative {base elem path : Bytes}
    (joined : joinRelative base elem = .ok path) : Inside base path := by
  unfold joinRelative at joined
  simp only [bind_eq_ok, rejectIf_eq_ok, Unique.exists_iff] at joined
  rcases joined with ⟨isRelative, noParent, stays⟩
  have returned : path = clean (join base elem) := by
    split at stays <;>
      exact (Except.ok.inj (bind_eq_ok.mp stays).choose_spec.2).symm
  rw [returned]
  exact (inside_join (Bool.eq_false_iff.mpr isRelative) noParent).clean

/-! ## Comparing absolute paths -/

/-- For absolute paths the comparison of texts suffices. -/
theorem inside_of_stays {base target : Bytes} (isRooted : isAbs base = true)
    (targetRooted : isAbs target = true) (stays : Stays (clean base) (clean target)) :
    Inside base (clean target) := by
  refine ⟨by rw [isAbs_clean, isRooted, targetRooted], ?_⟩
  have plain : ∀ name ∈ names target, Plain name := fun name member =>
    (targetRooted ▸ kept_names target).plain_of_rooted name (by simpa using member)
  rw [names_clean]
  rcases stays with same | isPrefix
  · refine ⟨[], ?_, fun _ member => nomatch member⟩
    rw [← names_clean target, same, names_clean, List.append_nil]
  · by_cases named : names base = []
    · exact ⟨names target, by rw [named, List.nil_append], plain⟩
    · rcases List.isPrefixOf_iff_prefix.mp isPrefix with ⟨rest, text⟩
      rw [List.append_assoc, List.singleton_append] at text
      have targetNamed : names target ≠ [] := by
        intro noNames
        rw [clean_of_rooted targetRooted, noNames, clean_of_rooted isRooted] at text
        simpa using congrArg List.length text
      have split := List.splitOn_append_cons_self (a := (47 : UInt8)) (clean base) rest
      rw [text, splitOn_clean_of_rooted targetRooted targetNamed,
        splitOn_clean_of_rooted isRooted named] at split
      have appended : names target = names base ++ rest.splitOn 47 := (List.cons.inj split).2
      exact ⟨rest.splitOn 47, appended,
        fun name member => plain name (appended ▸ List.mem_append_right _ member)⟩

variable {host : Host} {base elem path : Bytes}

theorem isAbs_join (isRooted : isAbs base = true) : isAbs (join base elem) = true := by
  cases base with
  | nil =>
    cases isRooted
  | cons b bytes =>
    exact (isAbs_clean _).trans isRooted

theorem isAbs_abs (isAbsolute : host.abs base = .ok path) : isAbs path = true := by
  unfold Host.abs at isAbsolute
  split at isAbsolute
  next isRooted =>
    cases isAbsolute
    exact (isAbs_clean base).trans isRooted
  next =>
    simp only [bind_eq_ok, mapError_eq_ok] at isAbsolute
    rcases isAbsolute with ⟨wd, isWd, joined⟩
    cases joined
    exact isAbs_join (host.isAbs_getwd isWd)

theorem inside_of_joinUnder (joined : joinUnder host base elem = .ok path) :
    ∃ baseAbs, host.abs base = .ok baseAbs ∧ Inside baseAbs path := by
  unfold joinUnder at joined
  simp only [bind_eq_ok, rejectIf_eq_ok, Unique.exists_iff, not_not] at joined
  rcases joined with ⟨_, _, baseAbs, isBase, joinedAbs, isJoined, stays, returned⟩
  cases returned
  exact ⟨baseAbs, isBase, inside_of_stays (isAbs_abs isBase) (isAbs_abs isJoined) stays⟩

theorem inside_of_resolveUnder (joined : resolveUnder host base elem = .ok path) :
    ∃ baseAbs resolved, host.abs base = .ok baseAbs ∧
      host.evalSymlinks baseAbs = .ok resolved ∧ Inside resolved path := by
  unfold resolveUnder at joined
  simp only [bind_eq_ok, rejectIf_eq_ok, mapError_eq_ok, Unique.exists_iff, not_not] at joined
  rcases joined with
    ⟨under, isUnder, baseAbs, isBase, resolved, isResolved, target, isTarget, stays, returned⟩
  cases returned
  have baseRooted := isAbs_abs isBase
  rcases inside_of_joinUnder isUnder with ⟨sameAbs, isSame, inside⟩
  cases isSame.symm.trans isBase
  exact ⟨baseAbs, resolved, isBase, isResolved,
    inside_of_stays (host.isAbs_evalSymlinks baseRooted isResolved)
      (host.isAbs_evalSymlinks (inside.1.trans baseRooted) isTarget) stays⟩

/-- A path that one of the three functions returns does not leave the base. -/
theorem accepted_path_inside (host : Host) (base elem path : Bytes) :
    (joinRelative base elem = .ok path → Inside base path) ∧
      (joinUnder host base elem = .ok path →
        ∃ baseAbs, host.abs base = .ok baseAbs ∧ Inside baseAbs path) ∧
      (resolveUnder host base elem = .ok path → ∃ baseAbs resolved,
        host.abs base = .ok baseAbs ∧ host.evalSymlinks baseAbs = .ok resolved ∧
          Inside resolved path) :=
  ⟨inside_of_joinRelative, inside_of_joinUnder, inside_of_resolveUnder⟩

/-- A process in `/home/tpcc/work`, on a host where `/home` is a link to `/data`. -/
def linkedHost : Host where
  getwd := .ok (ascii "/home/tpcc/work")
  evalSymlinks path :=
    .ok (if ascii "/home/" <+: path then ascii "/data/" ++ path.drop 6 else path)
  isAbs_getwd := by
    rintro path same
    obtain rfl := Except.ok.inj same
    rfl
  isAbs_evalSymlinks := by
    rintro path resolved rooted same
    obtain rfl := Except.ok.inj same
    split
    · rfl
    · exact rooted

/-- The three functions accept `./x//y` below a base of `..`. -/
theorem accepted_path_inside_linked :
    joinRelative (ascii "..") (ascii "./x//y") = .ok (ascii "../x/y") ∧
      Inside (ascii "..") (ascii "../x/y") ∧
      joinUnder linkedHost (ascii "..") (ascii "./x//y") = .ok (ascii "/home/tpcc/x/y") ∧
      Inside (ascii "/home/tpcc") (ascii "/home/tpcc/x/y") ∧
      resolveUnder linkedHost (ascii "..") (ascii "./x//y") = .ok (ascii "/data/tpcc/x/y") ∧
      Inside (ascii "/data/tpcc") (ascii "/data/tpcc/x/y") := by
  have relative : joinRelative (ascii "..") (ascii "./x//y") = .ok (ascii "../x/y") := by
    decide +kernel
  have under : joinUnder linkedHost (ascii "..") (ascii "./x//y") =
      .ok (ascii "/home/tpcc/x/y") := by
    decide +kernel
  have resolved : resolveUnder linkedHost (ascii "..") (ascii "./x//y") =
      .ok (ascii "/data/tpcc/x/y") := by
    decide +kernel
  have isBase : linkedHost.abs (ascii "..") = .ok (ascii "/home/tpcc") := by
    decide +kernel
  have isResolved : linkedHost.evalSymlinks (ascii "/home/tpcc") = .ok (ascii "/data/tpcc") := by
    decide +kernel
  refine ⟨relative, (accepted_path_inside linkedHost _ _ _).1 relative, under, ?_, resolved, ?_⟩
  · obtain ⟨base, same, inside⟩ := (accepted_path_inside linkedHost _ _ _).2.1 under
    obtain rfl := Except.ok.inj (isBase.symm.trans same)
    exact inside
  · obtain ⟨base, target, same, sameTarget, inside⟩ :=
      (accepted_path_inside linkedHost _ _ _).2.2 resolved
    obtain rfl := Except.ok.inj (isBase.symm.trans same)
    obtain rfl := Except.ok.inj (isResolved.symm.trans sameTarget)
    exact inside

/-- With a base of `..` the comparison of texts alone would accept a way out. -/
example :
    Stays (clean (ascii "..")) (clean (join (ascii "..") (ascii "../x"))) ∧
      joinRelative (ascii "..") (ascii "../x") = .error (.parentTraversal (ascii "../x")) := by
  decide

section

variable {dir base target : Directory} {host : Host}

theorem names_path (proper : dir.Proper) (notRoot : dir ≠ []) : names dir.path = dir := by
  obtain ⟨before, last, rfl⟩ := (List.eq_nil_or_concat' dir).resolve_left notRoot
  have kept (rooted : Bool) {all : List Bytes} (areProper : Directory.Proper all) :
      Kept rooted all := by
    induction all with
    | nil => exact .nil
    | cons name rest ih =>
      obtain ⟨⟨named, whole, notDot, notDots⟩, areProper⟩ := List.forall_mem_cons.mp areProper
      exact .plain ⟨named, notDot, notDots, whole⟩ (ih areProper)
  obtain ⟨beforeProper, lastProper⟩ := List.forall_mem_append.mp proper
  have whole : 47 ∉ last := (lastProper last List.mem_cons_self).2.1
  have isPath : Directory.path (before ++ [last]) = Directory.path before ++ 47 :: last := by
    simp [Directory.path]
  have reversed : Directory.Proper (before ++ [last]).reverse :=
    fun name member => proper name (List.mem_reverse.mp member)
  have again := (kept (isAbs (Directory.path before ++ 47 :: last)) reversed).again
  have ends : last.splitOn 47 = [last] := by
    apply List.splitOnP_eq_singleton
    exact fun byte isByte => beq_false_of_ne fun same => whole (same ▸ isByte)
  rw [List.reverse_reverse] at again
  rw [isPath, names, splitOn_path beforeProper, ends]
  exact (congrArg List.reverse again).trans (List.reverse_reverse _)

theorem isAbs_path (notRoot : dir ≠ []) : isAbs dir.path = true := by
  cases dir with
  | nil => exact absurd rfl notRoot
  | cons name rest => rfl

/-- The path of a directory is clean. -/
theorem clean_path (proper : dir.Proper) (notRoot : dir ≠ []) : clean dir.path = dir.path := by
  have joined (name : Bytes) (rest : List Bytes) :
      47 :: [47].intercalate (name :: rest) = Directory.path (name :: rest) := by
    induction rest generalizing name with
    | nil => simp [Directory.path]
    | cons next rest ih =>
      have behind := ih next
      rw [List.intercalate_cons_cons]
      simp_all [Directory.path]
  rw [clean_of_rooted (isAbs_path notRoot), names_path proper notRoot]
  cases dir with
  | nil => exact absurd rfl notRoot
  | cons name rest => exact joined name rest

theorem stays_path (inside : base <+: target) : Stays base.path target.path := by
  obtain ⟨below, rfl⟩ := inside
  cases below with
  | nil => exact .inl (by rw [List.append_nil])
  | cons name rest =>
    refine .inr (List.isPrefixOf_iff_prefix.mpr ⟨name ++ Directory.path rest, ?_⟩)
    simp [Directory.path]

theorem abs_path (proper : dir.Proper) (notRoot : dir ≠ []) :
    host.abs dir.path = .ok dir.path := by
  rw [Host.abs, if_pos (isAbs_path notRoot), clean_path proper notRoot]

/-- A single name is joined to a directory. -/
theorem joinUnder_name (proper : base.Proper) (notRoot : base ≠ []) {name : Bytes}
    (isProper : Directory.Proper [name]) (noBackslash : 92 ∉ name) :
    joinUnder host base.path name = .ok (Directory.path (base ++ [name])) := by
  obtain ⟨named, whole, notDot, notDots⟩ := isProper name List.mem_cons_self
  have relative : isAbs name = false := by
    refine decide_eq_false fun first => whole ?_
    exact List.mem_of_mem_head? first
  have noParent : ascii ".." ∉ parts name := by
    have single : name.splitOnP (fun b => b = 47 ∨ b = 92) = [name] := by
      apply List.splitOnP_eq_singleton
      intro byte isByte
      refine decide_eq_false ?_
      rintro (rfl | rfl)
      · exact whole isByte
      · exact noBackslash isByte
    rw [parts, single]
    simpa [named] using fun same => notDots same.symm
  have below : Directory.Proper (base ++ [name]) := List.forall_mem_append.mpr ⟨proper, isProper⟩
  have nonempty : base ++ [name] ≠ [] := by simp
  have isJoin : join base.path name = Directory.path (base ++ [name]) := by
    rw [← clean_path below nonempty]
    cases base with
    | nil => exact absurd rfl notRoot
    | cons first rest =>
      simp [Directory.path, join]
  have notHere : base.path ≠ ascii "." := by
    intro same
    have first := isAbs_path notRoot
    rw [same] at first
    exact absurd first (by decide)
  have stays : Stays base.path (Directory.path (base ++ [name])) :=
    stays_path (List.prefix_append _ _)
  simp [joinUnder, joinRelative, relative, noParent, isJoin, clean_path proper notRoot,
    clean_path below nonempty, notHere, stays, abs_path, proper, notRoot, below, rejectIf,
    bind, Except.bind, pure, Except.pure]

end

end Paths

end PortableTpcc
