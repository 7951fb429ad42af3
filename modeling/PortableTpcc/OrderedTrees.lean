import Mathlib.Data.List.Pairwise
import Mathlib.Data.List.Sort
import Mathlib.Data.List.Perm.Subperm

namespace PortableTpcc

/-!
# Trees with named members and their texts

A tree has leaves, arrays and objects, whose members have keys.  Functions on
trees are folds.  Sorting the members of all objects forgets their order, and
nothing else; and the text of a tree, in brackets and with commas, determines
the tree when the texts of its leaves and keys can be told apart.
-/

inductive KeyedTree (κ α : Type) where
  | leaf (value : α)
  | arr (items : List (KeyedTree κ α))
  | obj (members : List (κ × KeyedTree κ α))

namespace KeyedTree

variable {κ α β γ : Type}

@[elab_as_elim]
theorem induct {motive : KeyedTree κ α → Prop} (leaf : ∀ value, motive (.leaf value))
    (arr : ∀ items, (∀ item ∈ items, motive item) → motive (.arr items))
    (obj : ∀ members, (∀ member ∈ members, motive member.2) → motive (.obj members))
    (tree : KeyedTree κ α) : motive tree :=
  @KeyedTree.rec κ α motive (fun items => ∀ item ∈ items, motive item)
    (fun members => ∀ member ∈ members, motive member.2) (fun member => motive member.2)
    leaf arr obj
    (fun _ isMember => nomatch isMember)
    (fun _ _ first rest => List.forall_mem_cons.mpr ⟨first, rest⟩)
    (fun _ isMember => nomatch isMember)
    (fun _ _ first rest => List.forall_mem_cons.mpr ⟨first, rest⟩)
    (fun _ _ value => value) tree

section

variable (leaf : α → β) (arr : List β → β) (obj : List (κ × β) → β)

mutual

/-- Replace the leaves, arrays and objects of a tree, from the leaves up. -/
def fold : KeyedTree κ α → β
  | .leaf value => leaf value
  | .arr items => arr (foldItems items)
  | .obj members => obj (foldMembers members)

def foldItems : List (KeyedTree κ α) → List β
  | [] => []
  | item :: rest => fold item :: foldItems rest

def foldMembers : List (κ × KeyedTree κ α) → List (κ × β)
  | [] => []
  | (key, value) :: rest => (key, fold value) :: foldMembers rest

end

@[simp] theorem fold_leaf (value : α) :
    fold leaf arr obj (.leaf value : KeyedTree κ α) = leaf value :=
  rfl

@[simp] theorem fold_arr (items : List (KeyedTree κ α)) :
    fold leaf arr obj (.arr items) = arr (items.map (fold leaf arr obj)) := by
  have each : foldItems leaf arr obj items = items.map (fold leaf arr obj) := by
    induction items with
    | nil => rfl
    | cons item rest ih => exact congrArg (_ :: ·) ih
  exact congrArg arr each

@[simp] theorem fold_obj (members : List (κ × KeyedTree κ α)) :
    fold leaf arr obj (.obj members) =
      obj (members.map fun member => (member.1, fold leaf arr obj member.2)) := by
  have each : foldMembers leaf arr obj members =
      members.map fun member => (member.1, fold leaf arr obj member.2) := by
    induction members with
    | nil => rfl
    | cons member rest ih => exact congrArg (_ :: ·) ih
  exact congrArg obj each

end

/-- The keys of every object are distinct. -/
def Distinct : KeyedTree κ α → Prop :=
  fold (fun _ => True) (fun items => ∀ item ∈ items, item)
    fun members => (members.map Prod.fst).Nodup ∧ ∀ member ∈ members, member.2

theorem distinct_arr {items : List (KeyedTree κ α)} :
    (KeyedTree.arr items).Distinct ↔ ∀ item ∈ items, item.Distinct := by
  unfold Distinct
  rw [fold_arr, List.forall_mem_map]

theorem distinct_obj {members : List (κ × KeyedTree κ α)} :
    (KeyedTree.obj members).Distinct ↔
      (members.map Prod.fst).Nodup ∧ ∀ member ∈ members, member.2.Distinct := by
  unfold Distinct
  rw [fold_obj, List.forall_mem_map, List.map_map]
  rfl

/-- Put trees in the place of the leaves. -/
def bind (tree : KeyedTree κ α) (change : α → KeyedTree κ β) : KeyedTree κ β :=
  fold change .arr .obj tree

theorem bind_arr (items : List (KeyedTree κ α)) (change : α → KeyedTree κ β) :
    bind (.arr items) change = .arr (items.map (bind · change)) :=
  fold_arr ..

theorem bind_obj (members : List (κ × KeyedTree κ α)) (change : α → KeyedTree κ β) :
    bind (.obj members) change =
      .obj (members.map fun member => (member.1, bind member.2 change)) :=
  fold_obj ..

/-- Folding after a substitution. -/
theorem fold_bind (leaf : β → γ) (arr : List γ → γ) (obj : List (κ × γ) → γ)
    (change : α → KeyedTree κ β) (tree : KeyedTree κ α) :
    fold leaf arr obj (tree.bind change) =
      fold (fun value => fold leaf arr obj (change value)) arr obj tree := by
  induction tree using induct with
  | leaf value =>
    rfl
  | arr items ih =>
    rw [bind_arr, fold_arr, fold_arr, List.map_map]
    exact congrArg arr (List.map_congr_left ih)
  | obj members ih =>
    rw [bind_obj, fold_obj, fold_obj, List.map_map]
    exact congrArg obj (List.map_congr_left fun member isMember =>
      Prod.ext rfl (ih member isMember))

theorem Distinct.bind {tree : KeyedTree κ α} (distinct : tree.Distinct) {change : α → KeyedTree κ β}
    (each : ∀ value, (change value).Distinct) : (tree.bind change).Distinct := by
  have always : (fun value => (change value).Distinct) = fun _ => True :=
    funext fun value => eq_true (each value)
  unfold Distinct
  rw [fold_bind]
  change fold (fun value => (change value).Distinct) _ _ tree
  rw [always]
  exact distinct

/-! ## Sorting the members -/

section

variable (le : κ → κ → Prop) [DecidableRel le]

/-- The members in the order of their keys. -/
def sortByKey (members : List (κ × β)) : List (κ × β) :=
  members.insertionSort fun first second => le first.1 second.1

/-- Sort the members of every object, and replace the leaves. -/
def arrange (change : α → β) : KeyedTree κ α → KeyedTree κ β :=
  fold (fun value => .leaf (change value)) .arr fun members => .obj (sortByKey le members)

theorem arrange_arr (change : α → β) (items : List (KeyedTree κ α)) :
    arrange le change (.arr items) = .arr (items.map (arrange le change)) :=
  fold_arr ..

theorem arrange_obj (change : α → β) (members : List (κ × KeyedTree κ α)) :
    arrange le change (.obj members) =
      .obj (sortByKey le (members.map fun member => (member.1, arrange le change member.2))) :=
  fold_obj ..

theorem sortByKey_perm (members : List (κ × β)) : (sortByKey le members).Perm members :=
  List.perm_insertionSort ..

/-- Sorting looks at the keys only. -/
theorem sortByKey_map (change : β → γ) (members : List (κ × β)) :
    sortByKey le (members.map fun member => (member.1, change member.2)) =
      (sortByKey le members).map fun member => (member.1, change member.2) :=
  (List.map_insertionSort (fun first second : κ × β => le first.1 second.1)
    (fun first second : κ × γ => le first.1 second.1)
    (fun member => (member.1, change member.2)) members fun _ _ _ _ => Iff.rfl).symm

theorem keys_sortByKey (members : List (κ × β)) :
    (sortByKey le members).map Prod.fst = (members.map Prod.fst).insertionSort le :=
  List.map_insertionSort _ _ _ _ fun _ _ _ _ => Iff.rfl

variable [Std.Total le] [IsTrans κ le] [Std.Antisymm le]

/-- With distinct keys, sorting forgets exactly the order. -/
theorem sortByKey_eq_iff {members others : List (κ × β)}
    (distinct : (members.map Prod.fst).Nodup) :
    sortByKey le members = sortByKey le others ↔ members.Perm others := by
  have total : Std.Total fun first second : κ × β => le first.1 second.1 :=
    ⟨fun first second => Std.Total.total first.1 second.1⟩
  have trans : IsTrans (κ × β) fun first second => le first.1 second.1 :=
    ⟨fun _ _ _ => IsTrans.trans _ _ _⟩
  constructor
  · intro same
    exact (sortByKey_perm le members).symm.trans (same ▸ sortByKey_perm le others)
  · intro perm
    refine List.Perm.eq_of_pairwise ?_ (List.pairwise_insertionSort ..)
      (List.pairwise_insertionSort ..)
      ((sortByKey_perm le members).trans (perm.trans (sortByKey_perm le others).symm))
    intro first second isFirst isSecond before after
    have sameKey := Std.Antisymm.antisymm _ _ before after
    have firstMember := (sortByKey_perm le members).mem_iff.mp isFirst
    have secondMember := perm.mem_iff.mpr ((sortByKey_perm le others).mem_iff.mp isSecond)
    exact List.inj_on_of_nodup_map distinct firstMember secondMember sameKey

end

/-! ## Trees that differ in the order of members -/

/-- The trees are equal, apart from the order of the members of objects. -/
def Same : KeyedTree κ α → KeyedTree κ α → Prop :=
  fold (fun value other => other = .leaf value)
    (fun items other => ∃ others, other = .arr others ∧
      List.Forall₂ (fun same item => same item) items others)
    fun members other => ∃ others, other = .obj others ∧ members.length = others.length ∧
      ∀ member ∈ members, ∃ value, (member.1, value) ∈ others ∧ member.2 value

theorem same_arr {items : List (KeyedTree κ α)} {other : KeyedTree κ α} :
    Same (.arr items) other ↔ ∃ others, other = .arr others ∧ List.Forall₂ Same items others := by
  unfold Same
  rw [fold_arr]
  simp only [List.forall₂_map_left_iff]

theorem same_obj {members : List (κ × KeyedTree κ α)} {other : KeyedTree κ α} :
    Same (.obj members) other ↔ ∃ others, other = .obj others ∧ members.length = others.length ∧
      ∀ member ∈ members, ∃ value, (member.1, value) ∈ others ∧ Same member.2 value := by
  unfold Same
  rw [fold_obj]
  simp only [List.length_map, List.forall_mem_map]

section

variable (le : κ → κ → Prop) [DecidableRel le] {change : α → β}

theorem map_arrange_eq_iff {items others : List (KeyedTree κ α)}
    (each : ∀ item ∈ items, ∀ other ∈ others,
      arrange le change item = arrange le change other ↔ Same item other) :
    items.map (arrange le change) = others.map (arrange le change) ↔
      List.Forall₂ Same items others := by
  induction items generalizing others with
  | nil =>
    rw [List.map_nil, eq_comm, List.map_eq_nil_iff, List.forall₂_nil_left_iff]
  | cons item rest ih =>
    cases others with
    | nil =>
      simp
    | cons other more =>
      rw [List.map_cons, List.map_cons, List.cons.injEq, List.forall₂_cons,
        each item List.mem_cons_self other List.mem_cons_self,
        ih fun item inRest other inMore =>
          each item (List.mem_cons_of_mem _ inRest) other (List.mem_cons_of_mem _ inMore)]

variable [Std.Total le] [IsTrans κ le] [Std.Antisymm le]

/-- Sorting forgets the order of members, and nothing else. -/
theorem arrange_eq_iff (injective : Function.Injective change) {first second : KeyedTree κ α}
    (distinct : first.Distinct) (otherDistinct : second.Distinct) :
    arrange le change first = arrange le change second ↔ Same first second := by
  induction first using induct generalizing second with
  | leaf value =>
    cases second with
    | leaf other =>
      constructor
      · intro same
        exact congrArg KeyedTree.leaf (injective (KeyedTree.leaf.inj same).symm)
      · intro same
        rw [show KeyedTree.leaf other = .leaf value from same]
    | arr others =>
      exact iff_of_false (by rw [arrange_arr]; nofun) nofun
    | obj others =>
      exact iff_of_false (by rw [arrange_obj]; nofun) nofun
  | arr items ih =>
    rw [same_arr, arrange_arr]
    cases second with
    | leaf other =>
      exact iff_of_false nofun (by rintro ⟨_, ⟨⟩, _⟩)
    | arr others =>
      rw [distinct_arr] at distinct otherDistinct
      rw [arrange_arr, KeyedTree.arr.injEq, map_arrange_eq_iff le fun item isItem other isOther =>
        ih item isItem (distinct item isItem) (otherDistinct other isOther)]
      simp
    | obj others =>
      exact iff_of_false (by rw [arrange_obj]; nofun) (by rintro ⟨_, ⟨⟩, _⟩)
  | obj members ih =>
    rw [same_obj, arrange_obj]
    cases second with
    | leaf other =>
      exact iff_of_false nofun (by rintro ⟨_, ⟨⟩, _⟩)
    | arr others =>
      exact iff_of_false (by rw [arrange_arr]; nofun) (by rintro ⟨_, ⟨⟩, _⟩)
    | obj others =>
      rw [distinct_obj] at distinct otherDistinct
      have keys : ((members.map fun member =>
          (member.1, arrange le change member.2)).map Prod.fst).Nodup := by
        rw [List.map_map]
        exact distinct.1
      have sameValue {member : κ × KeyedTree κ α} (isMember : member ∈ members)
          {other : κ × KeyedTree κ α} (isOther : other ∈ others) :=
        ih member isMember (distinct.2 member isMember) (otherDistinct.2 other isOther)
      rw [arrange_obj, KeyedTree.obj.injEq, sortByKey_eq_iff le keys]
      constructor
      · intro perm
        refine ⟨others, rfl, by simpa using perm.length_eq, fun member isMember => ?_⟩
        have moved := perm.mem_iff.mp (List.mem_map_of_mem isMember)
        rcases List.mem_map.mp moved with ⟨other, isOther, same⟩
        rcases Prod.mk.inj same with ⟨sameKey, sorted⟩
        exact ⟨other.2, sameKey ▸ isOther, (sameValue isMember isOther).mp sorted.symm⟩
      · rintro ⟨_, ⟨⟩, sameLength, each⟩
        refine (List.Nodup.subperm (List.Nodup.of_map _ keys) ?_).perm_of_length_le
          (by simp [sameLength])
        intro entry isEntry
        rcases List.mem_map.mp isEntry with ⟨member, isMember, rfl⟩
        rcases each member isMember with ⟨value, isOther, same⟩
        refine List.mem_map.mpr ⟨_, isOther, ?_⟩
        rw [(sameValue isMember isOther).mpr same]

end

/-! ## Two orders of the keys -/

section

variable (le le' : κ → κ → Prop) [DecidableRel le] [DecidableRel le']

/-- Both orders sort the keys of every object alike, and the leaves are replaced alike. -/
def Agrees (change change' : α → β) : KeyedTree κ α → Prop :=
  fold (fun value => change value = change' value) (fun items => ∀ item ∈ items, item)
    fun members => (members.map Prod.fst).insertionSort le =
      (members.map Prod.fst).insertionSort le' ∧ ∀ member ∈ members, member.2

variable {change change' : α → β}

theorem agrees_arr {items : List (KeyedTree κ α)} :
    Agrees le le' change change' (.arr items) ↔
      ∀ item ∈ items, Agrees le le' change change' item := by
  unfold Agrees
  rw [fold_arr, List.forall_mem_map]

theorem agrees_obj {members : List (κ × KeyedTree κ α)} :
    Agrees le le' change change' (.obj members) ↔
      (members.map Prod.fst).insertionSort le = (members.map Prod.fst).insertionSort le' ∧
        ∀ member ∈ members, Agrees le le' change change' member.2 := by
  unfold Agrees
  rw [fold_obj, List.forall_mem_map, List.map_map]
  rfl

/-- Two orders sort the keys alike if and only if the first one implies the second one. -/
theorem insertionSort_eq_iff
    [Std.Total le] [IsTrans κ le] [Std.Antisymm le]
    [Std.Total le'] [IsTrans κ le'] [Std.Antisymm le']
    (keys : List κ) :
    keys.insertionSort le = keys.insertionSort le' ↔
      ∀ key ∈ keys, ∀ other ∈ keys, le key other → le' key other := by
  have sorted : (keys.insertionSort le).Pairwise le := List.pairwise_insertionSort ..
  constructor
  · intro same key isKey other isOther before
    have both : (keys.insertionSort le).Pairwise fun key other =>
        le key other ∧ le' key other ∨ le other key ∧ le' other key :=
      sorted.imp₂ (fun _ _ before after => .inl ⟨before, after⟩)
        (same ▸ List.pairwise_insertionSort ..)
    have symmetric : Std.Symm fun key other =>
        le key other ∧ le' key other ∨ le other key ∧ le' other key := ⟨fun _ _ => Or.symm⟩
    by_cases isSame : key = other
    · subst isSame
      exact (Std.Total.total key key).elim id id
    · have ordered := both.forall ((List.mem_insertionSort le).mpr isKey)
        ((List.mem_insertionSort le).mpr isOther) isSame
      rcases ordered with ⟨_, after⟩ | ⟨after, _⟩
      · exact after
      · exact absurd (Std.Antisymm.antisymm _ _ before after) isSame
  · intro implies
    have alsoSorted : (keys.insertionSort le).Pairwise le' :=
      sorted.imp_of_mem fun isKey isOther => implies _ ((List.mem_insertionSort le).mp isKey) _
        ((List.mem_insertionSort le).mp isOther)
    exact List.Perm.eq_of_pairwise (fun _ _ _ _ => Std.Antisymm.antisymm _ _) alsoSorted
      (List.pairwise_insertionSort ..)
      ((List.perm_insertionSort le keys).trans (List.perm_insertionSort le' keys).symm)

/-- Two orders that sort the keys alike sort the members alike. -/
theorem sortByKey_eq_of_keys {members : List (κ × β)} (distinct : (members.map Prod.fst).Nodup)
    (sameKeys : (members.map Prod.fst).insertionSort le =
      (members.map Prod.fst).insertionSort le') : sortByKey le members = sortByKey le' members := by
  have same := (keys_sortByKey le members).trans (sameKeys.trans (keys_sortByKey le' members).symm)
  refine List.ext_getElem (by simpa using congrArg List.length same) fun i isIndex isIndex' => ?_
  have first := (sortByKey_perm le members).mem_iff.mp (List.getElem_mem isIndex)
  have second := (sortByKey_perm le' members).mem_iff.mp (List.getElem_mem isIndex')
  refine List.inj_on_of_nodup_map distinct first second ?_
  have sameKey := List.getElem_of_eq same (i := i) (by simpa using isIndex)
  rwa [List.getElem_map, List.getElem_map] at sameKey

/-- Arranged by two orders, a tree is the same exactly when they agree on it. -/
theorem arrange_eq_arrange_iff {tree : KeyedTree κ α} (distinct : tree.Distinct) :
    arrange le change tree = arrange le' change' tree ↔ Agrees le le' change change' tree := by
  induction tree using induct with
  | leaf value =>
    exact ⟨fun same => KeyedTree.leaf.inj same, fun same => congrArg KeyedTree.leaf same⟩
  | arr items ih =>
    rw [distinct_arr] at distinct
    rw [arrange_arr, arrange_arr, agrees_arr, KeyedTree.arr.injEq, List.map_inj_left]
    exact forall₂_congr fun item isItem => ih item isItem (distinct item isItem)
  | obj members ih =>
    rw [distinct_obj] at distinct
    have sameValue (member) (isMember : member ∈ members) :=
      ih member isMember (distinct.2 member isMember)
    rw [arrange_obj, arrange_obj, agrees_obj, KeyedTree.obj.injEq, sortByKey_map, sortByKey_map]
    constructor
    · intro same
      have sameKeys := congrArg (List.map Prod.fst) same
      rw [List.map_map, List.map_map] at sameKeys
      refine ⟨?_, fun member isMember => (sameValue member isMember).mp ?_⟩
      · rw [← keys_sortByKey, ← keys_sortByKey]
        exact sameKeys
      · have isSorted := (sortByKey_perm le members).mem_iff.mpr isMember
        have moved := same ▸ List.mem_map_of_mem isSorted
        rcases List.mem_map.mp moved with ⟨other, isOther, isSame⟩
        rcases Prod.mk.inj isSame with ⟨sameKey, arranged⟩
        have isMember' := (sortByKey_perm le' members).mem_iff.mp isOther
        rw [← arranged, List.inj_on_of_nodup_map distinct.1 isMember' isMember sameKey]
    · rintro ⟨sameKeys, each⟩
      rw [sortByKey_eq_of_keys le le' distinct.1 sameKeys]
      refine List.map_congr_left fun member isSorted => ?_
      have isMember := (sortByKey_perm le' members).mem_iff.mp isSorted
      rw [(sameValue member isMember).mpr (each member isMember)]

end

/-! ## The text of a tree -/

/-- The texts with commas between them. -/
def separate (texts : List (List Char)) : List Char :=
  [','].intercalate texts

def bracketed (items : List (List Char)) : List Char :=
  '[' :: separate items ++ [']']

/-- A member is written as its key, a colon and its value. -/
def memberText (key : κ → List Char) (member : κ × List Char) : List Char :=
  key member.1 ++ ':' :: member.2

def braced (key : κ → List Char) (members : List (κ × List Char)) : List Char :=
  '\x7b' :: separate (members.map (memberText key)) ++ ['\x7d']

/-- The text of a tree, given the texts of keys and leaves. -/
def text (key : κ → List Char) (leaf : α → List Char) : KeyedTree κ α → List Char :=
  fold leaf bracketed (braced key)

theorem text_arr (key : κ → List Char) (leaf : α → List Char) (items : List (KeyedTree κ α)) :
    text key leaf (.arr items) = '[' :: separate (items.map (text key leaf)) ++ [']'] :=
  fold_arr ..

theorem text_obj (key : κ → List Char) (leaf : α → List Char) (members : List (κ × KeyedTree κ α)) :
    text key leaf (.obj members) = '\x7b' :: separate (members.map fun member =>
        memberText key (member.1, text key leaf member.2)) ++ ['\x7d'] := by
  unfold text
  rw [fold_obj, braced, List.map_map]
  rfl

/-- What can follow a value. -/
def Ends (rest : List Char) : Prop :=
  ∀ c ∈ rest.head?, c = ',' ∨ c = ']' ∨ c = '\x7d'

/-- What a value or a key starts with. -/
def Opens (text : List Char) : Prop :=
  ∃ c rest, text = c :: rest ∧ c ≠ ',' ∧ c ≠ ']' ∧ c ≠ '\x7d'

/-- The texts of keys and of leaves can be told apart. -/
structure Legible (key : κ → List Char) (leaf : α → List Char) : Prop where
  key_inj : ∀ {k k' rest rest'}, key k ++ rest = key k' ++ rest' → k = k' ∧ rest = rest'
  leaf_inj : ∀ {a a' rest rest'}, Ends rest → Ends rest' →
    leaf a ++ rest = leaf a' ++ rest' → a = a' ∧ rest = rest'
  key_opens : ∀ k, Opens (key k)
  leaf_opens : ∀ a, Opens (leaf a) ∧ (leaf a).head? ≠ some '[' ∧ (leaf a).head? ≠ some '\x7b'

section

variable {code : α → List Char} {close : Char}

theorem separate_cons (x : α) (xs : List α) (rest : List Char) :
    separate ((x :: xs).map code) ++ rest =
      code x ++ if xs = [] then rest else ',' :: (separate (xs.map code) ++ rest) := by
  cases xs with
  | nil => simp [separate]
  | cons y ys => simp [separate, List.intercalate_cons_cons]

/-- A list of texts that end at commas is determined by its text. -/
theorem separate_inj (closes : close = ']' ∨ close = '\x7d') (opens : ∀ x, Opens (code x))
    {xs ys : List α} {rest rest' : List Char}
    (each : ∀ x ∈ xs, ∀ y rest rest', Ends rest → Ends rest' →
      code x ++ rest = code y ++ rest' → x = y ∧ rest = rest')
    (same : separate (xs.map code) ++ close :: rest = separate (ys.map code) ++ close :: rest') :
    xs = ys ∧ rest = rest' := by
  have notComma : close ≠ ',' := by rcases closes with rfl | rfl <;> decide
  have ends (zs : List α) (rest : List Char) :
      Ends (if zs = [] then close :: rest
        else ',' :: (separate (zs.map code) ++ close :: rest)) := by
    intro c isHead
    split at isHead
    · exact Option.some.inj isHead ▸ .inr closes
    · exact .inl (Option.some.inj isHead).symm
  -- An item does not start with the bracket that closes an empty list.
  have notClosed (z : α) (zs : List α) (rest rest' : List Char) :
      close :: rest ≠ separate ((z :: zs).map code) ++ close :: rest' := by
    rw [separate_cons]
    rcases opens z with ⟨c, more, isCode, _, notBracket, notBrace⟩
    intro closed
    rw [isCode, List.cons_append, List.cons.injEq] at closed
    rcases closes with rfl | rfl
    · exact notBracket closed.1.symm
    · exact notBrace closed.1.symm
  induction xs generalizing ys with
  | nil =>
    cases ys with
    | nil => exact ⟨rfl, (List.cons.inj same).2⟩
    | cons y ys => exact absurd same (notClosed y ys _ _)
  | cons x xs ih =>
    cases ys with
    | nil =>
      exact absurd same.symm (notClosed x xs _ _)
    | cons y ys =>
      rw [separate_cons, separate_cons] at same
      rcases each x List.mem_cons_self y _ _ (ends xs rest) (ends ys rest') same with
        ⟨rfl, sameRest⟩
      cases xs with
      | nil =>
        cases ys with
        | nil => exact ⟨rfl, (List.cons.inj sameRest).2⟩
        | cons => exact absurd (List.cons.inj sameRest).1 notComma
      | cons =>
        cases ys with
        | nil => exact absurd (List.cons.inj sameRest).1.symm notComma
        | cons =>
          rcases ih (fun x inRest => each x (List.mem_cons_of_mem _ inRest))
            (List.cons.inj sameRest).2 with ⟨sameItems, sameEnd⟩
          exact ⟨congrArg (x :: ·) sameItems, sameEnd⟩

end

section

variable {key : κ → List Char} {leaf : α → List Char}

theorem Legible.text_opens (legible : Legible key leaf) (tree : KeyedTree κ α) :
    Opens (text key leaf tree) := by
  cases tree with
  | leaf value =>
    exact (legible.leaf_opens value).1
  | arr items =>
    rw [text_arr]
    exact ⟨_, _, rfl, by decide, by decide, by decide⟩
  | obj members =>
    rw [text_obj]
    exact ⟨_, _, rfl, by decide, by decide, by decide⟩

theorem Opens.append {text : List Char} (opens : Opens text) (rest : List Char) :
    Opens (text ++ rest) := by
  rcases opens with ⟨c, more, rfl, properties⟩
  exact ⟨c, more ++ rest, rfl, properties⟩

/-- The text determines the tree, also in front of what can follow a value. -/
theorem Legible.text_inj (legible : Legible key leaf) {first second : KeyedTree κ α}
    {rest rest' : List Char} (ends : Ends rest) (ends' : Ends rest')
    (same : text key leaf first ++ rest = text key leaf second ++ rest') :
    first = second ∧ rest = rest' := by
  have leafHead {value : α} {rest other : List Char} {c : Char}
      (isBracket : c = '[' ∨ c = '\x7b') :
      leaf value ++ rest ≠ c :: other := by
    rcases legible.leaf_opens value with ⟨⟨d, more, isText, _⟩, notBracket, notBrace⟩
    intro same
    rw [isText, List.cons_append, List.cons.injEq] at same
    rw [isText, same.1] at notBracket notBrace
    rcases isBracket with rfl | rfl
    · exact notBracket rfl
    · exact notBrace rfl
  induction first using induct generalizing second rest rest' with
  | leaf value =>
    cases second with
    | leaf other =>
      rcases legible.leaf_inj ends ends' same with ⟨rfl, sameRest⟩
      exact ⟨rfl, sameRest⟩
    | arr others =>
      rw [text_arr] at same
      exact absurd same (leafHead (.inl rfl))
    | obj others =>
      rw [text_obj] at same
      exact absurd same (leafHead (.inr rfl))
  | arr items ih =>
    rw [text_arr] at same
    cases second with
    | leaf other =>
      exact absurd same.symm (leafHead (.inl rfl))
    | arr others =>
      rw [text_arr, List.cons_append, List.cons_append, List.append_assoc,
        List.append_assoc] at same
      rcases separate_inj (.inl rfl) legible.text_opens
        (fun item isItem other _ _ ends ends' => ih item isItem ends ends')
        (List.cons.inj same).2 with ⟨rfl, sameRest⟩
      exact ⟨rfl, sameRest⟩
    | obj others =>
      rw [text_obj] at same
      exact absurd (List.cons.inj same).1 (by decide)
  | obj members ih =>
    rw [text_obj] at same
    cases second with
    | leaf other =>
      exact absurd same.symm (leafHead (.inr rfl))
    | arr others =>
      rw [text_arr] at same
      exact absurd (List.cons.inj same).1 (by decide)
    | obj others =>
      rw [text_obj, List.cons_append, List.cons_append, List.append_assoc,
        List.append_assoc] at same
      have opens (member : κ × KeyedTree κ α) :
          Opens (memberText key (member.1, text key leaf member.2)) :=
        (legible.key_opens member.1).append _
      have each : ∀ member ∈ members, ∀ other rest rest', Ends rest → Ends rest' →
          memberText key (member.1, text key leaf member.2) ++ rest =
            memberText key (other.1, text key leaf other.2) ++ rest' →
          member = other ∧ rest = rest' := by
        intro member isMember other rest rest' ends ends' same
        unfold memberText at same
        rw [List.append_assoc, List.append_assoc] at same
        rcases legible.key_inj same with ⟨sameKey, sameValue⟩
        rcases ih member isMember ends ends' (List.cons.inj sameValue).2 with ⟨value, sameRest⟩
        exact ⟨Prod.ext sameKey value, sameRest⟩
      rcases separate_inj (.inr rfl) opens each (List.cons.inj same).2 with ⟨rfl, sameRest⟩
      exact ⟨rfl, sameRest⟩

/-- Different trees have different texts. -/
theorem Legible.text_injective (legible : Legible key leaf) :
    Function.Injective (text key leaf) := by
  intro first second same
  have noRest : Ends [] := nofun
  exact (legible.text_inj noRest noRest (congrArg (· ++ []) same)).1

/-- Writing the members in the order of their keys is writing the arranged tree. -/
theorem fold_braced_sortByKey (le : κ → κ → Prop) [DecidableRel le] (change : β → α)
    (tree : KeyedTree κ β) : fold (fun value => leaf (change value)) bracketed
        (fun members => braced key (sortByKey le members)) tree =
      text key leaf (arrange le change tree) := by
  induction tree using induct with
  | leaf value =>
    rfl
  | arr items ih =>
    rw [fold_arr, arrange_arr, text_arr, List.map_map, List.map_congr_left ih]
    rfl
  | obj members ih =>
    have written : (members.map fun member => (member.1, fold (fun value => leaf (change value))
          bracketed (fun members => braced key (sortByKey le members)) member.2)) =
        (members.map fun member => (member.1, arrange le change member.2)).map
          fun member => (member.1, text key leaf member.2) := by
      rw [List.map_map]
      exact List.map_congr_left fun member isMember => Prod.ext rfl (ih member isMember)
    rw [fold_obj, arrange_obj, text_obj, written, sortByKey_map, braced, List.map_map]
    rfl

end

end KeyedTree

end PortableTpcc
