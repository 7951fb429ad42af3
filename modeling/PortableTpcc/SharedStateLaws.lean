import PortableTpcc.SharedState

namespace PortableTpcc

/-!
# The first set attempt wins, and callbacks run once

A callback that was added is, at any time, in one place: it waits in the shared
state, it is to be called by the set attempt that took effect, it is to be called
by the call that adds it, or it has run.
-/

namespace FutureRun

variable {V E Id : Type} [DecidableEq Id]

section

variable {run : FutureRun V E Id}

theorem lockSet_of_unset (unset : run.shared.isSet = false) (id : Id) (call : SetCall V E) :
    run.lockSet id call =
      { shared := { run.shared.store call with isSet := true, callbacks := [] }
        setters := Function.update run.setters id (.calls run.shared.callbacks)
        adders := run.adders
        attempted := run.attempted ++ [(id, call)]
        ran := run.ran } := by
  simp only [lockSet, TSharedState.set, unset]
  rfl

theorem lockSet_of_set (isSet : run.shared.isSet = true) (id : Id) (call : SetCall V E) :
    run.lockSet id call =
      { run with
        setters := Function.update run.setters id (.threw call.alreadySet)
        attempted := run.attempted ++ [(id, call)] } := by
  simp only [lockSet, TSharedState.set, isSet]
  rfl

theorem lockAdd_of_unset (unset : run.shared.isSet = false) (id : Id) :
    run.lockAdd id =
      { run with
        shared := { run.shared with callbacks := run.shared.callbacks ++ [id] }
        adders := Function.update run.adders id .returned } := by
  simp only [lockAdd, TSharedState.addCallback, unset]
  rfl

theorem lockAdd_of_set (isSet : run.shared.isSet = true) (id : Id) :
    run.lockAdd id = { run with adders := Function.update run.adders id .calls } := by
  simp only [lockAdd, TSharedState.addCallback, isSet]
  rfl

end

/-- The callbacks that a set attempt has still to call. -/
def SetPlace.toCall : SetPlace V E Id → List Id
  | .calls toCall => toCall
  | _ => []

/-- The callbacks that the first set attempt has still to call. -/
def toCall (run : FutureRun V E Id) : List Id :=
  match run.attempted with
  | [] => []
  | (first, _) :: _ => SetPlace.toCall (run.setters first)

/-- The first attempt has set the result, and the others have thrown. -/
def Decided (run : FutureRun V E Id) : Prop :=
  match run.attempted with
  | [] =>
    run.shared.isSet = false ∧ run.shared.value = none ∧ run.shared.exception = none
  | (first, call) :: others =>
    run.shared =
        { (TSharedState.fresh : TSharedState V E Id).store call with isSet := true } ∧
      ((∃ toCall, run.setters first = .calls toCall) ∨ run.setters first = .returned) ∧
      ∀ other ∈ others, run.setters other.1 = .threw other.2.alreadySet

/-- The set attempt has taken the mutex. -/
def SetPlace.Locked : SetPlace V E Id → Prop
  | .notCalled | .entered _ => False
  | _ => True

/-- The places of a callback, counted. -/
def places (run : FutureRun V E Id) (cb : Id) : Nat :=
  (run.ran ++ run.toCall ++ run.shared.callbacks).count cb +
    if run.adders cb = .calls then 1 else 0

/-- The call that adds the callback has taken the mutex. -/
def Added (run : FutureRun V E Id) (cb : Id) : Prop :=
  run.adders cb = .calls ∨ run.adders cb = .returned

instance (run : FutureRun V E Id) (cb : Id) : Decidable (run.Added cb) :=
  inferInstanceAs (Decidable (_ ∨ _))

structure Consistent (run : FutureRun V E Id) : Prop where
  decided : run.Decided
  locked : ∀ id, SetPlace.Locked (run.setters id) →
    id ∈ run.attempted.map (·.1)
  ready : ∀ id, run.adders id = .calls → run.shared.isSet = true
  ran_after : run.ran ≠ [] → run.shared.isSet = true
  counted : ∀ cb, run.places cb = if run.Added cb then 1 else 0

section

variable {run : FutureRun V E Id}

omit [DecidableEq Id] in
theorem Decided.isSet_iff (decided : run.Decided) :
    run.shared.isSet = true ↔ run.attempted ≠ [] := by
  unfold Decided at decided
  cases attempts : run.attempted with
  | nil =>
    rw [attempts] at decided
    simp [decided.1]
  | cons first others =>
    rw [attempts] at decided
    simp [decided.1]

omit [DecidableEq Id] in
theorem Decided.callbacks_eq_nil (decided : run.Decided) (isSet : run.shared.isSet = true) :
    run.shared.callbacks = [] := by
  have someAttempt := decided.isSet_iff.mp isSet
  unfold Decided at decided
  cases attempts : run.attempted with
  | nil =>
    exact absurd attempts someAttempt
  | cons first others =>
    rw [attempts] at decided
    rw [decided.1]
    cases first.2 <;> rfl

variable {id : Id}

/-- A set attempt that has not taken the mutex decides nothing. -/
theorem Decided.putSetter (decided : run.Decided) (notAttempted : id ∉ run.attempted.map (·.1))
    (place : SetPlace V E Id) :
    (run.putSetter id place).Decided ∧ (run.putSetter id place).toCall = run.toCall := by
  unfold Decided toCall at *
  cases attempts : run.attempted with
  | nil =>
    rw [attempts] at decided
    simp only [FutureRun.putSetter, attempts]
    exact ⟨decided, trivial⟩
  | cons first others =>
    rw [attempts] at decided notAttempted
    rw [List.map_cons, List.mem_cons, not_or] at notAttempted
    rcases decided with ⟨stored, winner, losers⟩
    have same : (run.putSetter id place).setters first.1 =
        run.setters first.1 :=
      Function.update_of_ne (Ne.symm notAttempted.1) _ _
    have sameOther (other : Id × SetCall V E) (member : other ∈ others) :
        (run.putSetter id place).setters other.1 = run.setters other.1 := by
      apply Function.update_of_ne
      rintro rfl
      exact notAttempted.2 (List.mem_map_of_mem member)
    have sameAttempts : (run.putSetter id place).attempted = first :: others := attempts
    rw [sameAttempts]
    simp only [same]
    refine ⟨⟨stored, winner, ?_⟩, trivial⟩
    intro other member
    rw [sameOther other member]
    exact losers other member

/-- Only the first attempt calls callbacks. -/
theorem Consistent.first_of_calls (consistent : run.Consistent) {callbacks : List Id}
    (place : run.setters id = .calls callbacks) :
    ∃ call others, run.attempted = (id, call) :: others ∧ run.toCall = callbacks ∧
      ∀ other ∈ others, other.1 ≠ id := by
  have decided := consistent.decided
  have attempted : id ∈ run.attempted.map (·.1) := by
    apply consistent.locked
    rw [place]
    trivial
  unfold Decided toCall at *
  cases attempts : run.attempted with
  | nil =>
    rw [attempts] at attempted
    exact absurd attempted List.not_mem_nil
  | cons first others =>
    rw [attempts] at decided attempted
    rcases decided with ⟨_, _, losers⟩
    have notOther (other : Id × SetCall V E) (member : other ∈ others) : other.1 ≠ id := by
      rintro rfl
      have threw := losers other member
      rw [place] at threw
      exact absurd threw (by simp)
    rw [List.map_cons, List.mem_cons] at attempted
    rcases attempted with rfl | isOther
    · exact ⟨first.2, others, rfl, by simp only [place, SetPlace.toCall], notOther⟩
    · rcases List.mem_map.mp isOther with ⟨other, member, same⟩
      exact absurd same (notOther other member)

theorem Decided.putFirst (decided : run.Decided) {call : SetCall V E}
    {others : List (Id × SetCall V E)} (attempts : run.attempted = (id, call) :: others)
    (notOther : ∀ other ∈ others, other.1 ≠ id) {place : SetPlace V E Id}
    (goesOn : (∃ toCall, place = .calls toCall) ∨ place = .returned) :
    (run.putSetter id place).Decided := by
  unfold Decided at *
  have sameAttempts : (run.putSetter id place).attempted = (id, call) :: others := attempts
  rw [attempts] at decided
  rw [sameAttempts]
  rcases decided with ⟨stored, _, losers⟩
  refine ⟨stored, ?_, ?_⟩
  · show (∃ toCall, Function.update run.setters id place id = .calls toCall) ∨
      Function.update run.setters id place id = .returned
    rw [Function.update_self]
    exact goesOn
  · intro other member
    rw [← losers other member]
    exact Function.update_of_ne (notOther other member) _ _

theorem toCall_putFirst {call : SetCall V E} {others : List (Id × SetCall V E)}
    (attempts : run.attempted = (id, call) :: others) (place : SetPlace V E Id) :
    (run.putSetter id place).toCall = SetPlace.toCall place := by
  unfold toCall
  have sameAttempts : (run.putSetter id place).attempted = (id, call) :: others := attempts
  rw [sameAttempts]
  exact congrArg SetPlace.toCall (Function.update_self _ _ _)

namespace Consistent

variable (consistent : run.Consistent)

include consistent

variable {id : Id}

/-- A set attempt that moves on is counted among the attempted ones. -/
theorem locked_update {place : SetPlace V E Id} {attempted : List Id}
    (kept : ∀ other ∈ run.attempted.map (·.1), other ∈ attempted)
    (here : SetPlace.Locked place → id ∈ attempted) (other : Id)
    (locked : SetPlace.Locked (Function.update run.setters id place other)) :
    other ∈ attempted := by
  by_cases isSame : other = id
  · rw [isSame, Function.update_self] at locked
    rw [isSame]
    exact here locked
  · rw [Function.update_of_ne isSame] at locked
    exact kept other (consistent.locked other locked)

theorem not_attempted (waits : ¬ SetPlace.Locked (run.setters id)) :
    id ∉ run.attempted.map (·.1) := by
  intro attempted
  have decided := consistent.decided
  unfold Decided at decided
  cases attempts : run.attempted with
  | nil =>
    rw [attempts] at attempted
    exact absurd attempted List.not_mem_nil
  | cons first others =>
    rw [attempts] at decided attempted
    rcases decided with ⟨_, winner, losers⟩
    apply waits
    rw [List.map_cons, List.mem_cons] at attempted
    rcases attempted with rfl | isOther
    · rcases winner with ⟨toCall, place⟩ | place
      all_goals
        rw [place]
        trivial
    · rcases List.mem_map.mp isOther with ⟨other, member, rfl⟩
      rw [losers other member]
      trivial

theorem callSet (place : run.setters id = .notCalled) (call : SetCall V E) :
    (run.putSetter id (.entered call)).Consistent := by
  have notAttempted : id ∉ run.attempted.map (·.1) := by
    apply consistent.not_attempted
    rw [place]
    exact not_false
  rcases consistent.decided.putSetter notAttempted (.entered call) with ⟨decided, sameToCall⟩
  constructor
  · exact decided
  · exact consistent.locked_update (fun _ member => member) False.elim
  · exact consistent.ready
  · exact consistent.ran_after
  · intro other
    unfold places
    rw [sameToCall]
    exact consistent.counted other

/-- An attempt sets the result if it is the first, and throws otherwise. -/
theorem lockSet {call : SetCall V E} (place : run.setters id = .entered call) :
    (run.lockSet id call).Consistent := by
  have decided := consistent.decided
  have nowAttempted (other : Id) (member : other ∈ run.attempted.map (·.1)) :
      other ∈ (run.attempted ++ [(id, call)]).map (·.1) := by
    rw [List.map_append]
    exact List.mem_append_left _ member
  have isAttempted : id ∈ (run.attempted ++ [(id, call)]).map (·.1) := by
    simp
  cases isSet : run.shared.isSet with
  | false =>
    have none : run.attempted = [] := by
      by_contra someAttempt
      rw [decided.isSet_iff.mpr someAttempt] at isSet
      exact absurd isSet (by decide)
    rw [lockSet_of_unset isSet]
    constructor
    · unfold Decided at *
      rw [none] at decided ⊢
      rcases decided with ⟨_, noValue, noException⟩
      refine ⟨?_, .inl ⟨run.shared.callbacks, Function.update_self _ _ _⟩, by simp⟩
      cases call with
      | setValue value =>
        simp only [TSharedState.store, TSharedState.fresh, noException]
      | setException ex =>
        simp only [TSharedState.store, TSharedState.fresh, noValue]
    · exact consistent.locked_update nowAttempted fun _ => isAttempted
    · exact fun _ _ => rfl
    · exact fun _ => rfl
    · intro cb
      have counted := consistent.counted cb
      unfold places toCall at *
      rw [none] at counted ⊢
      simp only [List.nil_append, Function.update_self, SetPlace.toCall,
        List.append_nil] at counted ⊢
      exact counted
  | true =>
    have notAttempted : id ∉ run.attempted.map (·.1) := by
      apply consistent.not_attempted
      rw [place]
      exact not_false
    have someAttempt := decided.isSet_iff.mp isSet
    rcases decided.putSetter notAttempted (.threw call.alreadySet) with ⟨nowDecided, sameToCall⟩
    rw [lockSet_of_set isSet]
    cases attempts : run.attempted with
    | nil =>
      exact absurd attempts someAttempt
    | cons first others =>
      have sameAttempts : (run.putSetter id (.threw call.alreadySet)).attempted =
          first :: others :=
        attempts
      rw [attempts] at isAttempted
      constructor
      · unfold Decided at nowDecided ⊢
        rw [sameAttempts] at nowDecided
        rcases nowDecided with ⟨stored, winner, losers⟩
        refine ⟨stored, winner, ?_⟩
        intro other member
        rcases List.mem_append.mp member with isOther | isLast
        · exact losers other isOther
        · rw [List.mem_singleton.mp isLast]
          exact Function.update_self _ _ _
      · rw [attempts] at nowAttempted
        apply consistent.locked_update _ fun _ => isAttempted
        rw [attempts]
        exact nowAttempted
      · exact consistent.ready
      · exact consistent.ran_after
      · intro cb
        have counted := consistent.counted cb
        unfold places toCall at *
        rw [sameAttempts, attempts] at sameToCall
        rw [attempts, ← sameToCall] at counted
        exact counted

theorem callBack {cb : Id} {rest : List Id} (place : run.setters id = .calls (cb :: rest)) :
    ((run.runCallback cb).putSetter id (.calls rest)).Consistent := by
  rcases consistent.first_of_calls place with ⟨call, others, attempts, isToCall, notOther⟩
  have isSet : run.shared.isSet = true := by
    rw [consistent.decided.isSet_iff, attempts]
    exact List.cons_ne_nil _ _
  have nowToCall : ((run.runCallback cb).putSetter id (.calls rest)).toCall = rest :=
    toCall_putFirst attempts (.calls rest)
  constructor
  · exact Decided.putFirst consistent.decided attempts notOther (.inl ⟨rest, rfl⟩)
  · apply consistent.locked_update (fun _ member => member)
    intro _
    apply consistent.locked
    rw [place]
    trivial
  · exact consistent.ready
  · intro _
    exact isSet
  · intro other
    have counted := consistent.counted other
    have sameList : (run.ran ++ [cb]) ++ rest ++ run.shared.callbacks =
        run.ran ++ (cb :: rest) ++ run.shared.callbacks := by
      rw [List.append_assoc run.ran, List.singleton_append]
    unfold places at *
    rw [isToCall, ← sameList] at counted
    rw [nowToCall]
    exact counted

theorem returnSet (place : run.setters id = .calls []) :
    (run.putSetter id .returned).Consistent := by
  rcases consistent.first_of_calls place with ⟨call, others, attempts, isToCall, notOther⟩
  have nowToCall : (run.putSetter id .returned).toCall = run.toCall := by
    rw [toCall_putFirst attempts, isToCall]
    rfl
  constructor
  · exact Decided.putFirst consistent.decided attempts notOther (.inr rfl)
  · apply consistent.locked_update (fun _ member => member)
    intro _
    apply consistent.locked
    rw [place]
    trivial
  · exact consistent.ready
  · exact consistent.ran_after
  · intro other
    unfold places
    rw [nowToCall]
    exact consistent.counted other

/-- A call of `AddCallback` changes the places of its own callback only. -/
theorem putAdder {place : AddPlace} {callbacks ran : List Id}
    (nothingWaits : run.shared.isSet = true → callbacks = [])
    (isReady : place = .calls → run.shared.isSet = true)
    (ranAfter : ran ≠ [] → run.shared.isSet = true)
    (others : ∀ cb ≠ id,
      (ran ++ run.toCall ++ callbacks).count cb =
        (run.ran ++ run.toCall ++ run.shared.callbacks).count cb)
    (here :
      (ran ++ run.toCall ++ callbacks).count id +
          (if place = .calls then 1 else 0) =
        if place = .calls ∨ place = .returned then 1 else 0) :
    Consistent
      { run with
        shared := { run.shared with callbacks }
        adders := Function.update run.adders id place
        ran } := by
  constructor
  · have decided := consistent.decided
    have isSetIff := decided.isSet_iff
    have sameCallbacks (isSet : run.shared.isSet = true) :
        { run.shared with callbacks } = run.shared := by
      rw [nothingWaits isSet, ← decided.callbacks_eq_nil isSet]
    unfold Decided at *
    cases attempts : run.attempted with
    | nil =>
      rw [attempts] at decided
      exact decided
    | cons first others =>
      rw [attempts] at decided
      have isSet : run.shared.isSet = true := isSetIff.mpr (attempts ▸ List.cons_ne_nil _ _)
      exact ⟨(sameCallbacks isSet).trans decided.1, decided.2⟩
  · exact consistent.locked
  · intro cb calls
    have nowCalls : Function.update run.adders id place cb = .calls := calls
    by_cases isSame : cb = id
    · rw [isSame, Function.update_self] at nowCalls
      exact isReady nowCalls
    · rw [Function.update_of_ne isSame] at nowCalls
      exact consistent.ready cb nowCalls
  · exact ranAfter
  · intro cb
    unfold places Added
    show (ran ++ run.toCall ++ callbacks).count cb +
        (if Function.update run.adders id place cb = .calls then 1 else 0) =
      if Function.update run.adders id place cb = .calls ∨
        Function.update run.adders id place cb = .returned then 1 else 0
    by_cases isSame : cb = id
    · rw [isSame, Function.update_self]
      exact here
    · rw [Function.update_of_ne isSame, others cb isSame]
      exact consistent.counted cb

theorem places_of_not_added (notAdded : ¬ run.Added id) :
    (run.ran ++ run.toCall ++ run.shared.callbacks).count id = 0 := by
  have counted := consistent.counted id
  rw [if_neg notAdded] at counted
  exact Nat.eq_zero_of_add_eq_zero_right counted

theorem callAdd (place : run.adders id = .notCalled) : (run.putAdder id .entered).Consistent := by
  have notAdded : ¬ run.Added id := by
    simp [Added, place]
  apply consistent.putAdder consistent.decided.callbacks_eq_nil
  · intro isCalls
    exact absurd isCalls (by decide)
  · exact consistent.ran_after
  · exact fun _ _ => rfl
  · rw [consistent.places_of_not_added notAdded]
    rfl

/-- A callback waits if the result is not set, and is to be called otherwise. -/
theorem lockAdd (place : run.adders id = .entered) : (run.lockAdd id).Consistent := by
  have notAdded : ¬ run.Added id := by
    simp [Added, place]
  have none := consistent.places_of_not_added notAdded
  cases isSet : run.shared.isSet with
  | false =>
    rw [lockAdd_of_unset isSet]
    apply consistent.putAdder
    · intro wasSet
      rw [isSet] at wasSet
      exact absurd wasSet (by decide)
    · intro isCalls
      exact absurd isCalls (by decide)
    · exact consistent.ran_after
    · intro cb different
      rw [← List.append_assoc, List.count_append,
        List.count_singleton, if_neg (by simpa using different.symm), Nat.add_zero]
    · rw [← List.append_assoc, List.count_append, none, List.count_singleton_self]
      rfl
  | true =>
    rw [lockAdd_of_set isSet]
    apply consistent.putAdder consistent.decided.callbacks_eq_nil
    · exact fun _ => isSet
    · exact consistent.ran_after
    · exact fun _ _ => rfl
    · rw [none]
      rfl

theorem callReady (place : run.adders id = .calls) :
    ((run.runCallback id).putAdder id .returned).Consistent := by
  have isSet := consistent.ready id place
  have added : run.Added id := .inl place
  have counted := consistent.counted id
  unfold places at counted
  rw [if_pos place, if_pos added] at counted
  have moved (cb : Id) : ((run.runCallback id).ran ++ run.toCall ++ run.shared.callbacks).count cb =
      (run.ran ++ run.toCall ++ run.shared.callbacks).count cb + [id].count cb := by
    simp only [runCallback, List.count_append]
    omega
  apply consistent.putAdder consistent.decided.callbacks_eq_nil
  · intro isCalls
    exact absurd isCalls (by decide)
  · exact fun _ => isSet
  · intro cb different
    rw [moved, List.count_singleton, if_neg (by simpa using different.symm), Nat.add_zero]
  · rw [moved, List.count_singleton_self]
    simp only [reduceCtorEq, if_false, or_true, if_true]
    omega

end Consistent

theorem Step.consistent {next : FutureRun V E Id} (stepped : Step run next)
    (consistent : run.Consistent) : next.Consistent := by
  cases stepped with
  | callSet id call place =>
    exact consistent.callSet place call
  | lockSet id call place =>
    exact consistent.lockSet place
  | callBack id cb rest place =>
    exact consistent.callBack place
  | returnSet id place =>
    exact consistent.returnSet place
  | callAdd id place =>
    exact consistent.callAdd place
  | lockAdd id place =>
    exact consistent.lockAdd place
  | callReady id place =>
    exact consistent.callReady place

theorem Reachable.consistent (reachable : run.Reachable) : run.Consistent := by
  induction reachable with
  | refl =>
    constructor
    · exact ⟨rfl, rfl, rfl⟩
    · exact fun _ => False.elim
    · intro id calls
      exact absurd calls (by simp [initial])
    · exact fun someRan => absurd rfl someRan
    · intro cb
      simp [places, Added, initial, toCall, TSharedState.fresh]
  | tail _ stepped ih =>
    exact stepped.consistent ih

/-- The set attempt is over. -/
def SetPlace.Finished : SetPlace V E Id → Prop
  | .returned | .threw _ => True
  | _ => False

theorem setter_calls_finish {run : FutureRun V E Id} {callbacks : List Id}
    (place : run.setters id = .calls callbacks) :
    ∃ next, Relation.ReflTransGen Step run next ∧ SetPlace.Finished (next.setters id) := by
  induction callbacks generalizing run with
  | nil =>
    refine ⟨_, .single (.returnSet id place), ?_⟩
    simp [FutureRun.putSetter, SetPlace.Finished]
  | cons cb rest ih =>
    have nowPlace : ((run.runCallback cb).putSetter id (.calls rest)).setters id =
          .calls rest :=
      Function.update_self _ _ _
    rcases ih nowPlace with ⟨next, reached, finished⟩
    exact ⟨next, .head (.callBack id cb rest place) reached, finished⟩

theorem setter_finishes (begun : run.setters id ≠ .notCalled) :
    ∃ next, Relation.ReflTransGen Step run next ∧ SetPlace.Finished (next.setters id) := by
  cases place : run.setters id with
  | notCalled =>
    exact absurd place begun
  | entered call =>
    have stepped := Step.lockSet id call place
    cases isSet : run.shared.isSet with
    | false =>
      have nowPlace : (run.lockSet id call).setters id =
            .calls run.shared.callbacks := by
        rw [lockSet_of_unset isSet]
        exact Function.update_self _ _ _
      rcases setter_calls_finish nowPlace with ⟨next, reached, finished⟩
      exact ⟨next, .head stepped reached, finished⟩
    | true =>
      refine ⟨_, .single stepped, ?_⟩
      rw [lockSet_of_set isSet]
      simp [SetPlace.Finished]
  | calls callbacks =>
    exact setter_calls_finish place
  | returned =>
    exact ⟨run, .refl, by rw [place]; trivial⟩
  | threw text =>
    exact ⟨run, .refl, by rw [place]; trivial⟩

theorem adder_finishes (begun : run.adders id ≠ .notCalled) :
    ∃ next, Relation.ReflTransGen Step run next ∧ next.adders id = .returned := by
  have ofCalls {run : FutureRun V E Id} (place : run.adders id = .calls) :
      ∃ next, Relation.ReflTransGen Step run next ∧ next.adders id = .returned :=
    ⟨_, .single (.callReady id place), Function.update_self _ _ _⟩
  cases place : run.adders id with
  | notCalled =>
    exact absurd place begun
  | entered =>
    have stepped := Step.lockAdd id place
    cases isSet : run.shared.isSet with
    | false =>
      refine ⟨_, .single stepped, ?_⟩
      rw [lockAdd_of_unset isSet]
      exact Function.update_self _ _ _
    | true =>
      have nowPlace : (run.lockAdd id).adders id = .calls := by
        rw [lockAdd_of_set isSet]
        exact Function.update_self _ _ _
      rcases ofCalls nowPlace with ⟨next, reached, finished⟩
      exact ⟨next, .head stepped reached, finished⟩
  | calls =>
    exact ofCalls place
  | returned =>
    exact ⟨run, .refl, place⟩

theorem Consistent.ran_count_le (consistent : run.Consistent) (cb : Id) :
    run.ran.count cb ≤ if run.Added cb then 1 else 0 := by
  rw [← consistent.counted cb]
  simp only [places, List.count_append]
  omega

theorem Consistent.isSet_of_runs (consistent : run.Consistent) {next : FutureRun V E Id}
    (stepped : Step run next) (runs : next.ran ≠ run.ran) : run.shared.isSet = true := by
  cases stepped with
  | callBack id cb rest place =>
    rcases consistent.first_of_calls place with ⟨call, others, attempts, _⟩
    rw [consistent.decided.isSet_iff, attempts]
    exact List.cons_ne_nil _ _
  | callReady id place =>
    exact consistent.ready id place
  | lockSet id call place =>
    cases isSet : run.shared.isSet with
    | true =>
      rfl
    | false =>
      rw [lockSet_of_unset isSet] at runs
      exact absurd rfl runs
  | lockAdd id place =>
    cases isSet : run.shared.isSet with
    | true =>
      rfl
    | false =>
      rw [lockAdd_of_unset isSet] at runs
      exact absurd rfl runs
  | callSet id call place =>
    exact absurd rfl runs
  | returnSet id place =>
    exact absurd rfl runs
  | callAdd id place =>
    exact absurd rfl runs

/-- When both calls are over, the callback has run. -/
theorem Consistent.ran_count_eq (consistent : run.Consistent) {first : Id × SetCall V E}
    (isFirst : run.attempted.head? = some first) (setOver : run.setters first.1 = .returned)
    {cb : Id} (addOver : run.adders cb = .returned) : run.ran.count cb = 1 := by
  have counted := consistent.counted cb
  have added : run.Added cb := .inr addOver
  have decided := consistent.decided
  rcases List.head?_eq_some_iff.mp isFirst with ⟨others, attempts⟩
  have nothingWaits : run.shared.callbacks = [] := by
    apply decided.callbacks_eq_nil
    rw [decided.isSet_iff, attempts]
    exact List.cons_ne_nil _ _
  have nothingToCall : run.toCall = [] := by
    unfold toCall
    rw [attempts]
    simp only [setOver, SetPlace.toCall]
  unfold places at counted
  rw [if_pos added, nothingWaits, nothingToCall, addOver] at counted
  simpa using counted

end

end FutureRun

/--
In every interleaving of calls on one shared state the first set attempt takes
effect and each other throws, with the result and the callbacks as they were.  A
callback runs at most once and only while the result is set; it has run once when
the set attempt and the call that adds it are over.  Every call that has begun
can go on to its end.
-/
theorem sharedState_exactly_once {V E Id : Type} [DecidableEq Id] {run : FutureRun V E Id}
    (reachable : run.Reachable) :
    run.Decided ∧ (∀ id call, run.setters id = .entered call → run.attempted ≠ [] →
      (run.lockSet id call).setters id = .threw call.alreadySet ∧
      (run.lockSet id call).shared = run.shared ∧ (run.lockSet id call).ran = run.ran) ∧
      (∀ cb, run.ran.count cb ≤ 1 ∧ (cb ∈ run.ran → run.Added cb)) ∧
      (∀ next, FutureRun.Step run next → next.ran ≠ run.ran → run.shared.isSet = true) ∧
      (∀ first cb, run.attempted.head? = some first →
      run.setters first.1 = .returned → run.adders cb = .returned → run.ran.count cb = 1) ∧ ∀ id,
      (run.setters id ≠ .notCalled → ∃ next, Relation.ReflTransGen FutureRun.Step run next ∧
      FutureRun.SetPlace.Finished (next.setters id)) ∧ (run.adders id ≠ .notCalled → ∃ next,
      Relation.ReflTransGen FutureRun.Step run next ∧ next.adders id = .returned) := by
  have consistent := reachable.consistent
  refine ⟨consistent.decided, ?_, ?_, ?_, ?_, ?_⟩
  · intro id call place someAttempt
    rw [FutureRun.lockSet_of_set (consistent.decided.isSet_iff.mpr someAttempt)]
    exact ⟨Function.update_self _ _ _, rfl, rfl⟩
  · intro cb
    have counted := consistent.ran_count_le cb
    by_cases added : run.Added cb
    · rw [if_pos added] at counted
      exact ⟨counted, fun _ => added⟩
    · rw [if_neg added, Nat.le_zero, List.count_eq_zero] at counted
      refine ⟨?_, fun ran => absurd ran counted⟩
      rw [List.count_eq_zero.mpr counted]
      exact Nat.zero_le 1
  · intro next stepped runs
    exact consistent.isSet_of_runs stepped runs
  · intro first cb isFirst setOver addOver
    exact consistent.ran_count_eq isFirst setOver addOver
  · intro id
    exact ⟨FutureRun.setter_finishes, FutureRun.adder_finishes⟩

/-- A callback waits, a value is set, another callback comes late, and a second call wants to set an
exception. -/
theorem sharedState_exactly_once_contended :
    ∃ run : FutureRun Nat String Nat, run.Reachable ∧
      run.attempted.head? = some (0, .setValue 7) ∧ run.setters 0 = .returned ∧
      run.ran = [2, 3] ∧ run.ran.count 2 = 1 ∧ run.ran.count 3 = 1 ∧
      run.setters 1 = .entered (.setException "late") ∧
      (run.lockSet 1 (.setException "late")).setters 1 =
        .threw (SetCall.alreadySet (.setException "late" : SetCall Nat String)) ∧
      (run.lockSet 1 (.setException "late")).shared = run.shared := by
  let waiting : FutureRun Nat String Nat := (FutureRun.initial.putAdder 2 .entered).lockAdd 2
  let called :=
    (waiting.putSetter 0 (.entered (.setValue 7))).putSetter 1 (.entered (.setException "late"))
  let afterSet :=
    (((called.lockSet 0 (.setValue 7)).runCallback 2).putSetter 0 (.calls [])).putSetter 0 .returned
  let afterAdd := (afterSet.putAdder 3 .entered).lockAdd 3
  have added : waiting.Reachable :=
    (Relation.ReflTransGen.single (.callAdd 2 rfl)).tail (.lockAdd 2 rfl)
  have set : afterSet.Reachable :=
    ((((added.tail (.callSet 0 (.setValue 7) rfl)).tail
      (.callSet 1 (.setException "late") rfl)).tail (.lockSet 0 (.setValue 7) rfl)).tail
      (.callBack 0 2 [] rfl)).tail (.returnSet 0 rfl)
  have reachable : ((afterAdd.runCallback 3).putAdder 3 .returned).Reachable :=
    ((set.tail (.callAdd 3 rfl)).tail (.lockAdd 3 rfl)).tail (.callReady 3 rfl)
  have once := sharedState_exactly_once reachable
  have refused := once.2.1 1 (.setException "late") rfl (List.cons_ne_nil _ _)
  exact ⟨_, reachable, rfl, rfl, rfl, once.2.2.2.2.1 (0, .setValue 7) 2 rfl rfl rfl,
    once.2.2.2.2.1 (0, .setValue 7) 3 rfl rfl rfl, rfl, refused.1, refused.2.1⟩

end PortableTpcc
