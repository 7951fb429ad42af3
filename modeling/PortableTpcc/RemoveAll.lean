import PortableTpcc.LineSplitting
import PortableTpcc.RemoteShell

namespace PortableTpcc

namespace Remote

/-!
# Recursive removal on a remote host

`SSH.RemoveAll` checks a path (`remove.go`) and runs `rm -rf` on it.  A directory is the list of its
names from the root; there are no symbolic links on the way.  As POSIX has it, `rm` does nothing
with an operand whose last name is `.` or `..`, or that is the root.
-/

open Shell

/-- The encodings of the white space that `strings.TrimSpace` removes. -/
def spaces : List Bytes :=
  [[9], [10], [11], [12], [13], [32], [0xC2, 0x85], [0xC2, 0xA0], [0xE1, 0x9A, 0x80],
    [0xE2, 0x80, 0xA8], [0xE2, 0x80, 0xA9], [0xE2, 0x80, 0xAF], [0xE2, 0x81, 0x9F],
    [0xE3, 0x80, 0x80]] ++ (List.range 11).map fun i => [0xE2, 0x80, 0x80 + i.toUInt8]

/-- Remove texts of the list from the beginning, as often as there are bytes. -/
def trimLeft (texts : List Bytes) : Nat → Bytes → Bytes
  | 0, s => s
  | n + 1, s =>
    match texts.find? (·.isPrefixOf s) with
    | some text => trimLeft texts n (s.drop text.length)
    | none => s

/-- `strings.TrimSpace`. -/
def trimSpace (s : Bytes) : Bytes :=
  let left := trimLeft spaces s.length s
  (trimLeft (spaces.map List.reverse) left.length left.reverse).reverse

/-- `rejectUnsafeRemoveAll`; the error is about the trimmed path. -/
def rejectUnsafeRemoveAll (remotePath : Bytes) : Except Bytes Unit :=
  let p := trimSpace remotePath
  if p ∈ ["", "/", ".", "..", "~"].map ascii then
    .error p
  else if clean p ∈ ["/", ".", ".."].map ascii then
    .error p
  else
    .ok ()

/-- The line that `SSH.RemoveAll` runs. -/
def removeAll (remotePath : Bytes) : Except Bytes Bytes :=
  match rejectUnsafeRemoveAll remotePath with
  | .error p => .error p
  | .ok () => .ok (ascii "rm -rf -- " ++ remotePathExpr remotePath)

/-! ## What the line removes -/

abbrev Directory := List Bytes

/-- The path of a directory. -/
def Directory.path (dir : Directory) : Bytes :=
  dir.flatMap (47 :: ·)

/-- Follow one name of a path. -/
def Directory.follow (dir : Directory) (name : Bytes) : Directory :=
  if name = [] ∨ name = ascii "." then
    dir
  else if name = ascii ".." then
    dir.dropLast
  else
    dir ++ [name]

/-- The directory that a path names. -/
def Directory.resolve (cwd : Directory) (p : Bytes) : Directory :=
  (p.splitOn 47).foldl Directory.follow (if p.head? = some 47 then [] else cwd)

/-- The last of some names, the empty ones apart, is `.` or `..`. -/
def EndInDots (names : List Bytes) : Prop :=
  (names.filter (· ≠ [])).getLast? ∈ [some (ascii "."), some (ascii "..")]

instance (names : List Bytes) : Decidable (EndInDots names) :=
  inferInstanceAs (Decidable (_ ∈ _))

/-- `rm` does nothing with this operand. -/
def Directory.Refused (cwd : Directory) (operand : Bytes) : Prop :=
  operand = [] ∨ EndInDots (operand.splitOn 47) ∨ cwd.resolve operand = []

instance (cwd : Directory) (operand : Bytes) : Decidable (cwd.Refused operand) :=
  inferInstanceAs (Decidable (_ ∨ _ ∨ _))

/-- What a word expands to; patterns and `~` outside quotes are not covered. -/
def expandWord (home : Directory) : Word → Option Bytes
  | [] => some []
  | .plain byte :: rest =>
    if byte ∈ ascii "*?[~" then none else (byte :: ·) <$> expandWord home rest
  | .quoted byte :: rest => (byte :: ·) <$> expandWord home rest
  | .parameter name inQuotes :: rest =>
    if name = ascii "HOME" ∧ inQuotes then (home.path ++ ·) <$> expandWord home rest else none

/-- The directory that a line with one `rm -rf` removes. -/
def removedBy (home cwd : Directory) (line : Bytes) : Option Directory :=
  match parse line with
  | some [⟨[⟨[], [rm, options, dashes, operand], []⟩], false⟩] =>
    if rm = plainWord "rm" ∧ options = plainWord "-rf" ∧ dashes = plainWord "--" then
      match expandWord home operand with
      | some operand => if cwd.Refused operand then none else some (cwd.resolve operand)
      | none => none
    else
      none
  | _ => none

/-- Neither the login home nor a directory above it, the root included, nor one above the directory
the command runs in. -/
def Spared (home cwd target : Directory) : Prop :=
  ¬ target <+: home ∧ ¬ (target <+: cwd ∧ target ≠ cwd)

instance (home cwd target : Directory) : Decidable (Spared home cwd target) :=
  inferInstanceAs (Decidable (_ ∧ _))

/-- The path with a leading `~` or `~/` replaced by the login home. -/
def expandPath (home : Directory) (p : Bytes) : Bytes :=
  if p = ascii "~" then
    home.path
  else if ascii "~/" <+: p then
    home.path ++ 47 :: p.drop 2
  else
    p

theorem expandWord_quotedWord (home : Directory) (s : Bytes) :
    expandWord home (quotedWord s) = some s := by
  induction s with
  | nil => rfl
  | cons byte rest ih => simpa [quotedWord, expandWord] using ih

theorem expandWord_pathWord (home : Directory) (p : Bytes) :
    expandWord home (pathWord p) = some (expandPath home p) := by
  unfold pathWord expandPath
  split
  · simp [expandWord]
  split
  · have slash : (47 : UInt8) ∉ ascii "*?[~" := by decide
    simp [expandWord, slash, expandWord_quotedWord]
  · exact expandWord_quotedWord home p

theorem parse_removeAll (p : Bytes) :
    parse (ascii "rm -rf -- " ++ remotePathExpr p) =
      some [⟨[⟨[], [plainWord "rm", plainWord "-rf", plainWord "--", pathWord p], []⟩],
        false⟩] := by
  have command : Lexer.start.Reads (ascii "rm -rf -- ") ⟨.unquoted, none,
      [.word (plainWord "rm"), .word (plainWord "-rf"), .word (plainWord "--")]⟩ := rfl
  have whole := command.append (reads_remotePathExpr _ p)
  have first : SimpleCommand.add {} (plainWord "rm") = some ⟨[], [plainWord "rm"], []⟩ := by decide
  rw [parse, tokenize, show Lexer.start.feed _ = _ from whole]
  change parseTokens [] [] {} (.word (plainWord "rm") ::
    ([plainWord "-rf", plainWord "--", pathWord p].map .word ++ [])) = _
  rw [parseTokens, first]
  dsimp only
  rw [parseTokens_words _ _ _ (by simp)]
  simp [parseTokens]

/-! ## The form of a path -/

/-- What is left of the names of a path when each `..` has taken back the name before it. -/
structure Route where
  /-- The `..` that found no name before them. -/
  climbs : Nat
  names : List Bytes

def Route.follow (route : Route) (name : Bytes) : Route :=
  if name = [] ∨ name = ascii "." then
    route
  else if name = ascii ".." then
    if route.names = [] then
      { route with climbs := route.climbs + 1 }
    else
      { route with names := route.names.dropLast }
  else
    { route with names := route.names ++ [name] }

def route (names : List Bytes) : Route :=
  names.foldl Route.follow ⟨0, []⟩

/-- Where a route leads from a directory. -/
def Route.reach (route : Route) (start : Directory) : Directory :=
  start.take (start.length - route.climbs) ++ route.names

theorem Route.follow_reach (route : Route) (start : Directory) (name : Bytes) :
    (route.reach start).follow name = (route.follow name).reach start := by
  unfold Directory.follow Route.follow
  split
  · rfl
  split
  · by_cases none : route.names = []
    · have fewer : min (start.length - route.climbs - 1) (start.length - route.climbs) =
          start.length - (route.climbs + 1) := by
        omega
      rw [if_pos none]
      unfold Route.reach
      rw [none, List.append_nil, List.append_nil, List.dropLast_eq_take, List.take_take,
        List.length_take, Nat.min_eq_left (Nat.sub_le _ _), fewer]
    · simp [Route.reach, none, List.dropLast_append_of_ne_nil]
  · simp [Route.reach]

theorem foldl_follow (names : List Bytes) (start : Directory) :
    names.foldl Directory.follow start = (route names).reach start := by
  have whole (before : Route) :
      names.foldl Directory.follow (before.reach start) =
        (names.foldl Route.follow before).reach start := by
    induction names generalizing before with
    | nil => rfl
    | cons name rest ih => rw [List.foldl_cons, List.foldl_cons, Route.follow_reach, ih]
  simpa [Route.reach, route] using whole ⟨0, []⟩

theorem EndInDots.concat_nil (names : List Bytes) :
    EndInDots (names ++ [[]]) ↔ EndInDots names := by
  simp [EndInDots]

/-- A route without names ends in `.` or `..`, or the path had none but empty names. -/
theorem all_nil_of_route {names : List Bytes} (none : (route names).names = [])
    (named : ¬ EndInDots names) : ∀ name ∈ names, name = [] := by
  induction names using List.reverseRecOn with
  | nil => simp
  | append_singleton before name ih =>
    rw [route, List.foldl_append] at none
    by_cases empty : name = []
    · subst empty
      rw [EndInDots.concat_nil] at named
      intro other member
      rcases List.mem_append.mp member with member | member
      · exact ih none named other member
      · exact List.mem_singleton.mp member
    · have plain : name ≠ ascii "." ∧ name ≠ ascii ".." := by
        simpa [EndInDots, empty] using named
      simp [Route.follow, empty, plain] at none

theorem route_all_nil {names : List Bytes} (empty : ∀ name ∈ names, name = []) :
    route names = ⟨0, []⟩ := by
  unfold route
  induction names with
  | nil => rfl
  | cons name rest ih =>
    obtain ⟨rfl, others⟩ := List.forall_mem_cons.mp empty
    exact ih others

/-- A path without a name is empty or a number of slashes. -/
theorem eq_replicate_of_all_nil {p : Bytes} (empty : ∀ name ∈ p.splitOn 47, name = []) :
    p = List.replicate p.length 47 := by
  have joined : [47].intercalate (p.splitOn 47) = p := List.intercalate_splitOn 47
  rw [List.eq_replicate_iff]
  refine ⟨rfl, ?_⟩
  rw [← joined, List.eq_replicate_iff.mpr ⟨rfl, empty⟩]
  generalize (p.splitOn 47).length = n
  cases n with
  | zero => simp
  | succ n =>
    induction n with
    | zero => simp
    | succ n ih =>
      intro byte member
      rw [List.replicate_succ, List.replicate_succ, List.intercalate_cons_cons] at member
      simp only [List.nil_append, List.mem_append, List.mem_singleton] at member
      exact member.elim id (ih byte)

/-- Names as a file system has them. -/
def Directory.Proper (dir : Directory) : Prop :=
  ∀ name ∈ dir, name ≠ [] ∧ 47 ∉ name ∧ name ≠ ascii "." ∧ name ≠ ascii ".."

instance (dir : Directory) : Decidable dir.Proper :=
  inferInstanceAs (Decidable (∀ name ∈ dir, _))

section

variable {home : Directory}

theorem splitOn_path (proper : home.Proper) (rest : Bytes) :
    (home.path ++ 47 :: rest).splitOn 47 = [] :: (home ++ rest.splitOn 47) := by
  have behind (name : Bytes) (whole : 47 ∉ name) :
      (name ++ (home.path ++ 47 :: rest)).splitOn 47 = name :: (home ++ rest.splitOn 47) := by
    induction home generalizing name with
    | nil => exact splitOn_line whole
    | cons next others ih =>
      obtain ⟨⟨_, nextWhole, _⟩, proper⟩ := List.forall_mem_cons.mp proper
      have shape : name ++ (Directory.path (next :: others) ++ 47 :: rest) =
          name ++ 47 :: (next ++ (Directory.path others ++ 47 :: rest)) := by
        simp [Directory.path]
      rw [shape, splitOn_line whole, ih proper next nextWhole, List.cons_append]
  exact behind [] (by simp)

theorem Directory.Proper.foldl_follow (proper : home.Proper) (before : Directory) :
    home.foldl Directory.follow before = before ++ home := by
  induction home generalizing before with
  | nil => simp
  | cons name rest ih =>
    obtain ⟨⟨named, _, notDot, notDots⟩, proper⟩ := List.forall_mem_cons.mp proper
    have step : before.follow name = before ++ [name] := by
      simp [Directory.follow, named, notDot, notDots]
    rw [List.foldl_cons, step, ih proper, List.append_assoc, List.singleton_append]

theorem Directory.Proper.endInDots_append (proper : home.Proper) (names : List Bytes) :
    EndInDots (home ++ names) ↔ EndInDots names := by
  have named : home.filter (· ≠ []) = home :=
    List.filter_eq_self.mpr fun name member => by simpa using (proper name member).1
  unfold EndInDots
  rw [List.filter_append, named, List.getLast?_append]
  cases last : (names.filter (· ≠ [])).getLast? with
  | some name => simp
  | none =>
    cases lastOfHome : home.getLast? with
    | none => simp
    | some name =>
      obtain ⟨_, _, notDot, notDots⟩ := proper name (List.mem_of_getLast? lastOfHome)
      simp [notDot, notDots]

/-- The names of a path behind the login home, the root or the current directory. -/
def pathNames (p : Bytes) : List Bytes :=
  (if ascii "~/" <+: p then p.drop 2 else p).splitOn 47

/-- Where the names of a path are followed from, in a command that runs in the login home. -/
def startOf (home : Directory) (p : Bytes) : Directory :=
  if p.head? = some 47 then [] else home

theorem resolve_expandPath (proper : home.Proper) {p : Bytes} (notHome : p ≠ ascii "~") :
    home.resolve (expandPath home p) = (route (pathNames p)).reach (startOf home p) := by
  unfold expandPath pathNames startOf
  rw [if_neg notHome]
  split
  · rename_i tilde
    obtain ⟨rest, rfl⟩ := tilde
    have absolute : (home.path ++ 47 :: rest).head? = some 47 := by
      cases home <;> rfl
    have relative : (ascii "~/" ++ rest).head? ≠ some 47 := by
      simp [ascii]
    have remainder : (ascii "~/" ++ rest).drop 2 = rest := rfl
    have ignored : Directory.follow [] [] = [] := rfl
    rw [remainder, Directory.resolve, if_pos absolute, splitOn_path proper, List.foldl_cons,
      ignored, List.foldl_append, proper.foldl_follow, List.nil_append, foldl_follow,
      if_neg relative]
  · rw [Directory.resolve, foldl_follow]

theorem endInDots_expandPath (proper : home.Proper) {p : Bytes} (notHome : p ≠ ascii "~") :
    EndInDots ((expandPath home p).splitOn 47) ↔ EndInDots (pathNames p) := by
  unfold expandPath pathNames
  rw [if_neg notHome]
  split
  · have ignored (names : List Bytes) : EndInDots ([] :: names) ↔ EndInDots names := by
      simp [EndInDots]
    rw [splitOn_path proper, ignored, proper.endInDots_append]
  · rfl

end

theorem trimLeft_replicate {texts : List Bytes} (other : ∀ text ∈ texts, text ≠ [] ∧ 47 ∉ text)
    (fuel n : Nat) : trimLeft texts fuel (List.replicate n 47) = List.replicate n 47 := by
  cases fuel with
  | zero => rfl
  | succ fuel =>
    have none : texts.find? (·.isPrefixOf (List.replicate n 47)) = none := by
      rw [List.find?_eq_none]
      intro text member starts
      obtain ⟨nonempty, noSlash⟩ := other text member
      obtain ⟨byte, isByte⟩ := List.exists_mem_of_ne_nil text nonempty
      have isSlash :=
        List.eq_of_mem_replicate ((List.isPrefixOf_iff_prefix.mp starts).subset isByte)
      exact noSlash (isSlash ▸ isByte)
    rw [trimLeft, none]

theorem clean_of_all_nil {p : Bytes} (rooted : p.head? = some 47)
    (empty : ∀ name ∈ p.splitOn 47, name = []) : clean p = ascii "/" := by
  have none : (p.splitOn 47).foldl (cleanName true) [] = [] := by
    generalize p.splitOn 47 = names at empty
    induction names with
    | nil => rfl
    | cons name rest ih =>
      obtain ⟨rfl, others⟩ := List.forall_mem_cons.mp empty
      exact ih others
  simp only [clean, rooted, decide_true, none]
  rfl

/-- An accepted path has a name. -/
theorem exists_name_of_accepted {p : Bytes} (accepted : rejectUnsafeRemoveAll p = .ok ()) :
    ¬ ∀ name ∈ p.splitOn 47, name = [] := by
  intro empty
  have slashes := eq_replicate_of_all_nil empty
  have trimmed : trimSpace p = p := by
    rw [slashes]
    simp only [trimSpace]
    rw [trimLeft_replicate (by decide), List.reverse_replicate, trimLeft_replicate (by decide),
      List.reverse_replicate]
  unfold rejectUnsafeRemoveAll at accepted
  rw [trimmed] at accepted
  cases p with
  | nil => exact absurd accepted (by decide)
  | cons byte rest =>
    have isSlash : byte = 47 := List.eq_of_mem_replicate (slashes ▸ List.mem_cons_self)
    subst isSlash
    simp [clean_of_all_nil rfl empty] at accepted

/-- Of the accepted paths only those that end in `.` or `..` lead to the root. -/
theorem endInDots_of_reach_eq_nil {home : Directory} (notRoot : home ≠ []) {p : Bytes}
    (accepted : rejectUnsafeRemoveAll p = .ok ())
    (root : (route (pathNames p)).reach (startOf home p) = []) : EndInDots (pathNames p) := by
  by_contra named
  have empty := all_nil_of_route (List.append_eq_nil_iff.mp root).2 named
  by_cases tilde : ascii "~/" <+: p
  · rw [route_all_nil empty] at root
    obtain ⟨rest, rfl⟩ := tilde
    exact notRoot (by simpa [Route.reach, startOf, ascii] using root)
  · rw [pathNames, if_neg tilde] at empty
    exact exists_name_of_accepted accepted empty

/-- The path leads to names that are not the first of those it has climbed over, or `rm` refuses it.
An absolute path climbs over all names of the login home. -/
def Harmless (home : Directory) (p : Bytes) : Prop :=
  let route := route (pathNames p)
  let climbed :=
    if p.head? = some 47 then home else home.drop (home.length - route.climbs)
  EndInDots (pathNames p) ∨ ¬ route.names <+: climbed

instance (home : Directory) (p : Bytes) : Decidable (Harmless home p) :=
  inferInstanceAs (Decidable (_ ∨ _))

theorem harmless_iff (home : Directory) (p : Bytes) :
    Harmless home p ↔ EndInDots (pathNames p) ∨
      ¬ (route (pathNames p)).reach (startOf home p) <+: home := by
  unfold Harmless startOf Route.reach
  dsimp only
  split
  · simp
  · rw [← List.prefix_append_right_inj (home.take (home.length - (route (pathNames p)).climbs)),
      List.take_append_drop]

/-- A path that does not climb is harmful only as `~/` with nothing but slashes behind it. -/
theorem harmless_iff_of_climbs_eq_zero {home : Directory} {p : Bytes}
    (relative : p.head? ≠ some 47) (level : (route (pathNames p)).climbs = 0) :
    Harmless home p ↔ ∃ name ∈ pathNames p, name ≠ [] := by
  simp only [Harmless, relative, level, if_false, Nat.sub_zero, List.drop_length, List.prefix_nil]
  constructor
  · intro harmless
    by_contra! empty
    rw [route_all_nil empty] at harmless
    have noDots : ¬ EndInDots (pathNames p) := by
      rw [EndInDots, List.filter_eq_nil_iff.mpr (by simpa using empty)]
      simp
    exact harmless.elim noDots fun named => named rfl
  · rintro ⟨name, member, nonempty⟩
    by_contra! harmful
    exact nonempty (all_nil_of_route harmful.2 harmful.1 name member)

theorem removedBy_removeAll (home cwd : Directory) (p : Bytes) :
    removedBy home cwd (ascii "rm -rf -- " ++ remotePathExpr p) =
      if cwd.Refused (expandPath home p) then none
      else some (cwd.resolve (expandPath home p)) := by
  unfold removedBy
  rw [parse_removeAll]
  simp [expandWord_pathWord]

/--
In the login home, where `sshd` starts it, the command for an accepted path spares the home and all
directories above it exactly if the names of the path, when each `..` has taken back the name before
it, are not the first of those it has climbed over, or end in `.` or `..`.
-/
theorem removeAll_spares_iff (home : Directory) (proper : home.Proper) (notRoot : home ≠ [])
    (remotePath line : Bytes) (accepted : removeAll remotePath = .ok line) :
    (∀ target, removedBy home home line = some target → Spared home home target) ↔
      Harmless home remotePath := by
  unfold removeAll at accepted
  split at accepted
  · cases accepted
  rename_i passes
  obtain rfl := Except.ok.inj accepted
  have notHome : remotePath ≠ ascii "~" := by
    rintro rfl
    exact absurd passes (by decide +kernel)
  have nonempty : expandPath home remotePath ≠ [] := by
    unfold expandPath
    rw [if_neg notHome]
    split
    · simp
    · rintro rfl
      exact absurd passes (by decide +kernel)
  have refusesRoot := endInDots_of_reach_eq_nil notRoot passes
  rw [removedBy_removeAll, harmless_iff]
  rw [← endInDots_expandPath proper notHome, ← resolve_expandPath proper notHome] at *
  by_cases refused : home.Refused (expandPath home remotePath)
  · have dots : EndInDots ((expandPath home remotePath).splitOn 47) :=
      refused.elim (absurd · nonempty) (Or.elim · id refusesRoot)
    simp [refused, dots]
  · have noDots : ¬ EndInDots ((expandPath home remotePath).splitOn 47) :=
      fun dots => refused (.inr (.inl dots))
    simp only [refused, noDots, if_false, Option.some.injEq, forall_eq', false_or, Spared]
    exact ⟨And.left, fun above => ⟨above, fun between => above between.1⟩⟩

/-- The directory of the login. -/
def loginHome : Directory :=
  [ascii "home", ascii "tpcc"]

/-- The path `~/` is accepted, and the line removes the login home. -/
theorem home_removed :
    removeAll (ascii "~/") = .ok (ascii "rm -rf -- \"$HOME\"/''") ∧
      removedBy loginHome loginHome (ascii "rm -rf -- \"$HOME\"/''") = some loginHome ∧
      ¬ Spared loginHome loginHome loginHome := by
  decide +kernel

/-- The path climbs over the last name of the home, and another name follows. -/
theorem removeAll_spares_sibling :
    removeAll (ascii "~/../old/./run") = .ok (ascii "rm -rf -- \"$HOME\"/'../old/./run'") ∧
      removedBy loginHome loginHome (ascii "rm -rf -- \"$HOME\"/'../old/./run'") =
        some [ascii "home", ascii "old", ascii "run"] ∧
      ∀ target,
        removedBy loginHome loginHome (ascii "rm -rf -- \"$HOME\"/'../old/./run'") = some target →
          Spared loginHome loginHome target := by
  have accepted : removeAll (ascii "~/../old/./run") =
      .ok (ascii "rm -rf -- \"$HOME\"/'../old/./run'") := by
    decide +kernel
  refine ⟨accepted, by decide +kernel, ?_⟩
  rw [removeAll_spares_iff loginHome (by decide +kernel) (by decide) _ _ accepted]
  decide +kernel

end Remote

end PortableTpcc
