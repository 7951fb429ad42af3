import Mathlib.Data.List.Count
import Mathlib.Logic.Relation

namespace PortableTpcc

/-!
# The shared state of promises and futures

`TSharedState` (`future.h`) holds the result of a promise and the callbacks that
wait for it.  What a call does under the mutex is one step.  Callbacks run
outside of the mutex, one after another, while other calls go on.
-/

/-- A set attempt with its argument. -/
inductive SetCall (V E : Type) where
  | setValue (value : V)
  | setException (ex : E)
deriving Repr, DecidableEq

/-- The text of the `std::logic_error`. -/
def SetCall.alreadySet {V E : Type} : SetCall V E → String
  | .setValue _ => "TSharedState::SetValue called on already-set state"
  | .setException _ => "TSharedState::SetException called on already-set state"

/-- `TSharedState`; for `void` the value is a unit. -/
structure TSharedState (V E C : Type) where
  value : Option V
  exception : Option E
  isSet : Bool
  callbacks : List C
deriving Repr, DecidableEq

namespace TSharedState

variable {V E C : Type}

/-- A state as it is constructed. -/
def fresh : TSharedState V E C :=
  ⟨none, none, false, []⟩

/-- The result that a set attempt stores. -/
def store (state : TSharedState V E C) : SetCall V E → TSharedState V E C
  | .setValue value => { state with value := some value }
  | .setException ex => { state with exception := some ex }

/--
`SetValue` and `SetException` under the mutex: the callbacks are swapped out, to
be called after it.
-/
def set (state : TSharedState V E C) (call : SetCall V E) :
    Except String (TSharedState V E C × List C) :=
  if state.isSet then
    .error call.alreadySet
  else
    .ok ({ state.store call with isSet := true, callbacks := [] }, state.callbacks)

/-- `AddCallback` under the mutex; the flag is `ready`. -/
def addCallback (state : TSharedState V E C) (cb : C) : TSharedState V E C × Bool :=
  if state.isSet then
    (state, true)
  else
    ({ state with callbacks := state.callbacks ++ [cb] }, false)

/--
`Get`, once the result is set: the value is moved out of the state.  Before that
the call waits.
-/
def get (movedFrom : V → V) (state : TSharedState V E C) :
    Option (Except E V × TSharedState V E C) :=
  if state.isSet then
    match state.exception, state.value with
    | some ex, _ => some (.error ex, state)
    | none, some value =>
      some (.ok value, { state with value := some (movedFrom value) })
    -- The optional value is read without a check.
    | none, none => none
  else
    none

end TSharedState

/-- How far a set attempt has come. -/
inductive SetPlace (V E Id : Type) where
  | notCalled
  | entered (call : SetCall V E)
  /-- The result is set; these callbacks are still to be called. -/
  | calls (toCall : List Id)
  | returned
  | threw (text : String)
deriving Repr, DecidableEq

/-- How far an `AddCallback` has come. -/
inductive AddPlace where
  | notCalled
  | entered
  /-- The result was set, and the callback is to be called by this call. -/
  | calls
  | returned
deriving Repr, DecidableEq

/--
One shared state and the calls on it.  A callback is named by the call that adds
it.  The set attempts are kept in the order in which they took the mutex, and the
callbacks in the order in which they ran.
-/
structure FutureRun (V E Id : Type) where
  shared : TSharedState V E Id
  setters : Id → SetPlace V E Id
  adders : Id → AddPlace
  attempted : List (Id × SetCall V E)
  ran : List Id

namespace FutureRun

variable {V E Id : Type} [DecidableEq Id]

/-- A fresh state, before any call. -/
def initial : FutureRun V E Id :=
  ⟨.fresh, fun _ => .notCalled, fun _ => .notCalled, [], []⟩

def putSetter (run : FutureRun V E Id) (id : Id) (place : SetPlace V E Id) : FutureRun V E Id :=
  { run with setters := Function.update run.setters id place }

def putAdder (run : FutureRun V E Id) (id : Id) (place : AddPlace) : FutureRun V E Id :=
  { run with adders := Function.update run.adders id place }

/-- A set attempt takes the mutex. -/
def lockSet (run : FutureRun V E Id) (id : Id) (call : SetCall V E) : FutureRun V E Id :=
  let run := { run with attempted := run.attempted ++ [(id, call)] }
  match run.shared.set call with
  | .ok (shared, toCall) => { run with shared }.putSetter id (.calls toCall)
  | .error text => run.putSetter id (.threw text)

/-- An `AddCallback` takes the mutex. -/
def lockAdd (run : FutureRun V E Id) (id : Id) : FutureRun V E Id :=
  let (shared, ready) := run.shared.addCallback id
  { run with shared }.putAdder id (if ready then .calls else .returned)

/-- A callback runs. -/
def runCallback (run : FutureRun V E Id) (id : Id) : FutureRun V E Id :=
  { run with ran := run.ran ++ [id] }

/-- A step of one of the calls. -/
inductive Step : FutureRun V E Id → FutureRun V E Id → Prop where
  | callSet {run : FutureRun V E Id} (id : Id) (call : SetCall V E)
      (place : run.setters id = .notCalled) : Step run (run.putSetter id (.entered call))
  | lockSet {run : FutureRun V E Id} (id : Id) (call : SetCall V E)
      (place : run.setters id = .entered call) : Step run (run.lockSet id call)
  | callBack {run : FutureRun V E Id} (id cb : Id) (rest : List Id)
      (place : run.setters id = .calls (cb :: rest)) :
      Step run ((run.runCallback cb).putSetter id (.calls rest))
  | returnSet {run : FutureRun V E Id} (id : Id) (place : run.setters id = .calls []) :
      Step run (run.putSetter id .returned)
  | callAdd {run : FutureRun V E Id} (id : Id) (place : run.adders id = .notCalled) :
      Step run (run.putAdder id .entered)
  | lockAdd {run : FutureRun V E Id} (id : Id) (place : run.adders id = .entered) :
      Step run (run.lockAdd id)
  | callReady {run : FutureRun V E Id} (id : Id) (place : run.adders id = .calls) :
      Step run ((run.runCallback id).putAdder id .returned)

/-- What the calls can reach together. -/
def Reachable (run : FutureRun V E Id) : Prop :=
  Relation.ReflTransGen Step initial run

end FutureRun

end PortableTpcc
