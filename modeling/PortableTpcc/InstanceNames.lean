import PortableTpcc.ProfileValidation

namespace PortableTpcc

/-!
# Names of instances

`AssignInstanceNames` of `profile.go` appends a number to the sanitized host.
The numbers are counted for each host as it is written, so that two spellings
with the same sanitized text get the same names.
-/

namespace RunProfile

variable (lib : GoLibrary)

/-- The characters of a name behind the first one. -/
def isNameChar (c : Char) : Bool :=
  ('a' ≤ c && c ≤ 'z') || isDigit c || c = '-'

theorem isNameChar_sanitizeRune {progress : List Char × Bool} (r : Char)
    (named : ∀ c ∈ progress.1, isNameChar c = true) :
    ∀ c ∈ (sanitizeRune progress r).1, isNameChar c = true := by
  unfold sanitizeRune
  split
  next kept =>
    simp only [List.forall_mem_append, List.forall_mem_singleton]
    refine ⟨named, ?_⟩
    simpa [isNameChar, isDigit] using Or.inl kept
  next =>
    split
    · simp only [List.forall_mem_append, List.forall_mem_singleton]
      exact ⟨named, rfl⟩
    · exact named

theorem isNameChar_foldl {runes : List Char} {progress : List Char × Bool}
    (named : ∀ c ∈ progress.1, isNameChar c = true) :
    ∀ c ∈ (runes.foldl sanitizeRune progress).1, isNameChar c = true := by
  induction runes generalizing progress with
  | nil =>
    exact named
  | cons r rest ih =>
    exact ih (isNameChar_sanitizeRune r named)

theorem mem_of_mem_trim {drops : Char → Bool} {text : List Char} {c : Char}
    (member : c ∈ trim drops text) : c ∈ text := by
  rw [trim, List.mem_reverse] at member
  have inDropped := (List.dropWhile_sublist drops).subset member
  rw [List.mem_reverse] at inDropped
  exact (List.dropWhile_sublist drops).subset inDropped

theorem head_trim {drops : Char → Bool} {text rest : List Char} {first : Char}
    (starts : trim drops text = first :: rest) : drops first = false := by
  -- What is cut off at the end does not change the first character that is left.
  have ends : (text.dropWhile drops).head? = some first := by
    have kept : (text.dropWhile drops).reverse.dropWhile drops = rest.reverse ++ [first] := by
      rw [← List.reverse_reverse (List.dropWhile _ _), ← trim, starts, List.reverse_cons]
    have suffix := List.dropWhile_suffix drops (l := (text.dropWhile drops).reverse)
    rcases suffix with ⟨cut, whole⟩
    rw [kept, ← List.append_assoc] at whole
    have forwards := congrArg List.reverse whole
    rw [List.reverse_append, List.reverse_reverse] at forwards
    rw [← forwards]
    rfl
  have notDropped := List.head?_dropWhile_not drops text
  rw [ends] at notDropped
  simpa using notDropped

/-- A sanitized host starts with a letter. -/
theorem sanitizeHostForName_matches (host : String) :
    ∃ first rest, sanitizeHostForName lib host = first :: rest ∧
      ('a' ≤ first ∧ first ≤ 'z') ∧ ∀ c ∈ rest, isNameChar c = true := by
  simp only [sanitizeHostForName]
  generalize (trim lib.isSpace host.toList).map lib.toLower = runes
  have named : ∀ c ∈ (runes.foldl sanitizeRune ([], false)).1, isNameChar c = true :=
    isNameChar_foldl (by simp)
  generalize trimmed : trim (fun c => decide (c = '-')) (runes.foldl sanitizeRune ([], false)).1 = s
  cases s with
  | nil =>
    refine ⟨'h', ['o', 's', 't'], ?_, by decide, List.all_eq_true.mp rfl⟩
    simp [isDigit]
  | cons first rest =>
    have inText : ∀ c ∈ first :: rest, isNameChar c = true := by
      intro c member
      rw [← trimmed] at member
      exact named c (mem_of_mem_trim member)
    have notDash := head_trim trimmed
    simp only [reduceCtorEq, ↓reduceIte, List.head?_cons, Option.any_some]
    by_cases digit : isDigit first = true
    · rw [if_pos digit]
      refine ⟨'h', '-' :: first :: rest, rfl, by decide, ?_⟩
      intro c member
      rcases List.mem_cons.mp member with rfl | later
      · rfl
      · exact inText c later
    · rw [if_neg digit]
      refine ⟨first, rest, rfl, ?_, fun c member => inText c (List.mem_cons_of_mem first member)⟩
      have isName := inText first List.mem_cons_self
      simp only [isNameChar, Bool.or_eq_true, Bool.and_eq_true, decide_eq_true_eq] at isName
      simp only [decide_eq_false_iff_not] at notDash
      rcases isName with (letter | isDigit) | isDash
      · exact letter
      · exact absurd isDigit digit
      · exact absurd isDash notDash

theorem toList_instanceNameFromHost (host : String) (index : Nat) :
    (instanceNameFromHost lib host index).toList =
      sanitizeHostForName lib host ++ '-' :: Nat.toDigits 10 index := by
  simp [instanceNameFromHost, toString]

theorem validateInstanceName_ok (host : String) (index : Nat) :
    validateInstanceName (instanceNameFromHost lib host index) = .ok () := by
  rcases sanitizeHostForName_matches lib host with ⟨first, rest, shape, letter, named⟩
  have text := toList_instanceNameFromHost lib host index
  rw [shape, List.cons_append] at text
  rw [validateInstanceName, text]
  simp only [rejectIf_eq_ok, Bool.not_eq_false, Bool.and_eq_true, decide_eq_true_eq,
    List.all_eq_true]
  refine ⟨letter, fun c member => ?_⟩
  rcases List.mem_append.mp member with inRest | inNumber
  · exact named c inRest
  · rcases List.mem_cons.mp inNumber with rfl | isIn
    · rfl
    · simp [isDigit_toDigits isIn]

/-- The number stands behind the last dash. -/
theorem append_dash_inj {first second firstDigits secondDigits : List Char}
    (noDash : '-' ∉ firstDigits) (noDash' : '-' ∉ secondDigits)
    (same : first ++ '-' :: firstDigits = second ++ '-' :: secondDigits) :
    first = second ∧ firstDigits = secondDigits := by
  rcases List.append_eq_append_iff.mp same with ⟨between, rfl, tail⟩ | ⟨between, rfl, tail⟩
  · cases between with
    | nil =>
      exact ⟨(List.append_nil first).symm, (List.cons.inj tail).2⟩
    | cons c later =>
      have inDigits : firstDigits = later ++ '-' :: secondDigits := (List.cons.inj tail).2
      simp [inDigits] at noDash
  · cases between with
    | nil =>
      exact ⟨List.append_nil second, (List.cons.inj tail).2.symm⟩
    | cons c later =>
      have inDigits : secondDigits = later ++ '-' :: firstDigits := (List.cons.inj tail).2
      simp [inDigits] at noDash'

theorem instanceNameFromHost_eq_iff {host host' : String} {index index' : Nat} :
    instanceNameFromHost lib host index = instanceNameFromHost lib host' index' ↔
      sanitizeHostForName lib host = sanitizeHostForName lib host' ∧ index = index' := by
  constructor
  · intro same
    have texts := congrArg String.toList same
    rw [toList_instanceNameFromHost, toList_instanceNameFromHost] at texts
    have noDash : ∀ n, '-' ∉ Nat.toDigits 10 n :=
      fun n member => absurd (isDigit_toDigits member) (by decide)
    rcases append_dash_inj (noDash index) (noDash index') texts with ⟨hosts, digits⟩
    have numbers := congrArg (fun digits => Nat.ofDigitChars 10 digits 0) digits
    simp only [Nat.ofDigitChars_toDigits (by decide : 1 < 10) (by decide)] at numbers
    exact ⟨hosts, numbers⟩
  · rintro ⟨hosts, rfl⟩
    rw [instanceNameFromHost, instanceNameFromHost, hosts]

/-- The hosts of a list with their numbers. -/
def numberHosts (counts : String → Nat) : List String → List (String × Nat)
  | [] => []
  | host :: rest =>
    (host, counts host + 1) :: numberHosts (Function.update counts host (counts host + 1)) rest

theorem names_assignNames (counts : String → Nat) {entries : List NamedHost}
    (unnamed : ∀ entry ∈ entries, entry.name = "") :
    (assignNames lib counts entries).2.map NamedHost.name =
      (numberHosts counts (entries.map NamedHost.host)).map fun numbered =>
        instanceNameFromHost lib numbered.1 numbered.2 := by
  induction entries generalizing counts with
  | nil =>
    rfl
  | cons entry rest ih =>
    have first : entry.name = "" := unnamed entry List.mem_cons_self
    have later := ih (Function.update counts entry.host (counts entry.host + 1))
      fun other member => unnamed other (List.mem_cons_of_mem entry member)
    simp only [assignNames, assignName, first, ne_eq, not_true_eq_false, ↓reduceIte, List.map_cons,
      numberHosts, later]

theorem assignNames_append (counts : String → Nat) (loaders workers : List NamedHost) :
    (assignNames lib counts (loaders ++ workers)).2 = (assignNames lib counts loaders).2 ++
        (assignNames lib (assignNames lib counts loaders).1 workers).2 := by
  induction loaders generalizing counts with
  | nil =>
    rfl
  | cons entry rest ih =>
    simp only [List.cons_append, assignNames, ih]

theorem host_mem_of_mem {counts : String → Nat} {hosts : List String} {numbered : String × Nat}
    (member : numbered ∈ numberHosts counts hosts) : numbered.1 ∈ hosts := by
  induction hosts generalizing counts with
  | nil =>
    simp [numberHosts] at member
  | cons first rest ih =>
    rcases List.mem_cons.mp member with rfl | later
    · exact List.mem_cons_self
    · exact List.mem_cons_of_mem first (ih later)

theorem count_lt_of_mem {counts : String → Nat} {hosts : List String} {host : String} {index : Nat}
    (member : (host, index) ∈ numberHosts counts hosts) : counts host < index := by
  induction hosts generalizing counts with
  | nil =>
    simp [numberHosts] at member
  | cons first rest ih =>
    rcases List.mem_cons.mp member with same | later
    · obtain ⟨rfl, rfl⟩ := Prod.mk.inj same
      exact Nat.lt_succ_self _
    · have above := ih later
      by_cases same : host = first
      · subst same
        rw [Function.update_self] at above
        omega
      · rwa [Function.update_of_ne same] at above

theorem nodup_numberHosts (counts : String → Nat) (hosts : List String) :
    (numberHosts counts hosts).Nodup := by
  induction hosts generalizing counts with
  | nil =>
    exact List.nodup_nil
  | cons host rest ih =>
    refine List.nodup_cons.mpr ⟨fun again => ?_, ih _⟩
    have above := count_lt_of_mem again
    rw [Function.update_self] at above
    exact lt_irrefl _ above

/-- The first occurrence of a host has the next number. -/
theorem next_mem_numberHosts (counts : String → Nat) {hosts : List String} {host : String}
    (member : host ∈ hosts) : (host, counts host + 1) ∈ numberHosts counts hosts := by
  induction hosts generalizing counts with
  | nil =>
    simp at member
  | cons first rest ih =>
    by_cases same : host = first
    · subst same
      exact List.mem_cons_self
    · have later := ih (Function.update counts first (counts first + 1))
        ((List.mem_cons.mp member).resolve_left same)
      rw [Function.update_of_ne same] at later
      exact List.mem_cons_of_mem _ later

/-- The instances of both lists, with the names that they are given. -/
def namedInstances (loaders workers : List NamedHost) : List NamedHost :=
  (assignInstanceNames lib loaders workers).1 ++ (assignInstanceNames lib loaders workers).2

/-- Different hosts of the lists are still different when they are sanitized.  Hosts collide that
differ in case only, in what separates their letters and digits, in an `h-` before a digit, or if
one has no letter or digit and the other is `host`. -/
def SanitizesApart (loaders workers : List NamedHost) : Prop :=
  ∀ first ∈ (loaders ++ workers).map NamedHost.host,
    ∀ second ∈ (loaders ++ workers).map NamedHost.host,
      sanitizeHostForName lib first = sanitizeHostForName lib second → first = second

/--
The names match the pattern; they are distinct exactly when no two hosts that
are written differently have the same sanitized text.
-/
theorem assignInstanceNames_distinct_iff (loaders workers : List NamedHost)
    (unnamed : ∀ entry ∈ loaders ++ workers, entry.name = "") :
    ((∀ entry ∈ namedInstances lib loaders workers, validateInstanceName entry.name = .ok ()) ∧
        ((namedInstances lib loaders workers).map NamedHost.name).Nodup) ↔
      SanitizesApart lib loaders workers := by
  have names : (namedInstances lib loaders workers).map NamedHost.name =
      (numberHosts (fun _ => 0) ((loaders ++ workers).map NamedHost.host)).map fun numbered =>
        instanceNameFromHost lib numbered.1 numbered.2 := by
    rw [← names_assignNames lib _ unnamed, assignNames_append]
    rfl
  have matched : ∀ entry ∈ namedInstances lib loaders workers,
      validateInstanceName entry.name = .ok () := by
    intro entry member
    have isName := List.mem_map_of_mem (f := NamedHost.name) member
    rw [names] at isName
    rcases List.mem_map.mp isName with ⟨numbered, _, same⟩
    rw [← same]
    exact validateInstanceName_ok lib numbered.1 numbered.2
  rw [and_iff_right matched, names]
  constructor
  · intro distinct first isFirst second isSecond same
    have firstNumbered := next_mem_numberHosts (fun _ => 0) isFirst
    have secondNumbered := next_mem_numberHosts (fun _ => 0) isSecond
    have equal := List.inj_on_of_nodup_map distinct firstNumbered secondNumbered
      ((instanceNameFromHost_eq_iff lib).mpr ⟨same, rfl⟩)
    exact (Prod.mk.inj equal).1
  · intro apart
    refine List.Nodup.map_on ?_ (nodup_numberHosts _ _)
    intro first isFirst second isSecond same
    rcases (instanceNameFromHost_eq_iff lib).mp same with ⟨sanitized, numbers⟩
    have hosts :=
      apart first.1 (host_mem_of_mem isFirst) second.1 (host_mem_of_mem isSecond) sanitized
    exact Prod.ext hosts numbers

/-- A loader on `db.a` and a worker on `db-a` share a name. -/
theorem dotted_host_collides :
    (∀ entry ∈ [(⟨"", "db.a"⟩ : NamedHost)] ++ [⟨"", "db-a"⟩], entry.name = "") ∧
      (namedInstances plainLibrary [⟨"", "db.a"⟩] [⟨"", "db-a"⟩]).map NamedHost.name =
        ["db-a-1", "db-a-1"] := by
  refine ⟨by simp, ?_⟩
  decide

/-- Hosts that are written as they are sanitized do not collide. -/
theorem sanitizesApart_of_sanitized {loaders workers : List NamedHost}
    (sanitized : ∀ host ∈ (loaders ++ workers).map NamedHost.host,
      sanitizeHostForName lib host = host.toList) : SanitizesApart lib loaders workers := by
  intro first isFirst second isSecond same
  rw [sanitized first isFirst, sanitized second isSecond] at same
  exact String.toList_inj.mp same

/-- Two loaders on one host and a worker on another have distinct names. -/
theorem assignInstanceNames_distinct_twoHosts :
    (namedInstances plainLibrary [⟨"", "db-1"⟩, ⟨"", "db-1"⟩] [⟨"", "db-2"⟩]).map NamedHost.name =
        ["db-1-1", "db-1-2", "db-2-1"] ∧
      ((namedInstances plainLibrary [⟨"", "db-1"⟩, ⟨"", "db-1"⟩] [⟨"", "db-2"⟩]).map
        NamedHost.name).Nodup := by
  have unnamed :
      ∀ entry ∈ [(⟨"", "db-1"⟩ : NamedHost), ⟨"", "db-1"⟩] ++ [⟨"", "db-2"⟩], entry.name = "" := by
    simp
  refine ⟨by decide, ((assignInstanceNames_distinct_iff plainLibrary _ _ unnamed).mpr ?_).2⟩
  apply sanitizesApart_of_sanitized
  decide

end RunProfile

end PortableTpcc
