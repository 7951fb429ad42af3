import PortableTpcc.ObConnectionPool
import Mathlib.Algebra.Order.BigOperators.Group.Multiset
import Mathlib.Tactic.Abel

namespace PortableTpcc

namespace Ob.ConnectionPool

/-!
# The accounts of the OceanBase connection pool

Before shutdown every connection of the pool is free, checked out, inside a
release or to be replaced.  A connection is in one place only, waiters are
parked only while nothing is free, and they are served in their order.
-/

variable {Connection : Type}

/-- The connection of an operation that is still on `CheckedOut_`. -/
def Operation.out : Operation Connection → Multiset Connection
  | .resolving _ (some connection) => {connection}
  | .releasing connection _ => {connection}
  | .handing _ connection => {connection}
  | .handingReplacement _ connection => {connection}
  | _ => 0

/-- The operation has taken a connection off `CheckedOut_` and not yet placed it. -/
def Operation.releases : Operation Connection → Nat
  | .returning _ _ => 1
  | .dropped => 1
  | _ => 0

/-- The promises that an operation is about to set. -/
def Operation.promises : Operation Connection → Multiset Nat
  | .resolving promise _ => {promise}
  | .handing promise _ => {promise}
  | .handingReplacement promise _ => {promise}
  | .cancelling promises => promises
  | _ => 0

namespace State

variable (s : State Connection)

/-- The connections inside a release. -/
def inRelease : Nat :=
  (s.operations.map Operation.releases).sum

/-- The connections that callers have, or are about to get or give back. -/
def out : Multiset Connection :=
  s.sessions + (s.operations.map Operation.out).sum

/-- The promises that were made to callers who wait or waited. -/
def promises : Multiset Nat :=
  (s.pool.waiters : Multiset Nat) + (s.operations.map Operation.promises).sum + s.fulfilled

/-- Every promise was made once. -/
structure Promised : Prop where
  once : s.promises.Nodup
  issued : ∀ promise ∈ s.promises, promise < s.nextPromise

section

variable {s} (operation : Operation Connection)

theorem live_start : (s.start operation).live = operation.hand + s.live := by
  simp only [live, start, Multiset.map_cons, Multiset.sum_cons]
  abel

theorem out_start : (s.start operation).out = operation.out + s.out := by
  simp only [out, start, Multiset.map_cons, Multiset.sum_cons]
  abel

theorem inRelease_start : (s.start operation).inRelease = operation.releases + s.inRelease := by
  simp only [inRelease, start, Multiset.map_cons, Multiset.sum_cons]

theorem promises_start : (s.start operation).promises = operation.promises + s.promises := by
  simp only [promises, start, Multiset.map_cons, Multiset.sum_cons]
  abel

end

end State

/-- The accounts. -/
structure Sound (poolSize : Nat) (s : State Connection) : Prop where
  distinct : s.live.Nodup
  listed : (s.pool.checkedOut : Multiset Connection) = s.out
  sized : s.pool.connections.length + s.pool.checkedOut.length + s.inRelease +
    s.pool.pendingReplacements = poolSize
  eager : s.pool.waiters ≠ [] → s.pool.connections = []
  promised : s.Promised
  fifo : s.parked = s.picked ++ s.pool.waiters

section

variable {s next : State Connection} {poolSize : Nat}

theorem Operation.out_le_hand (operation : Operation Connection) :
    operation.out ≤ operation.hand := by
  cases operation with
  | resolving promise connection =>
    cases connection <;> exact le_rfl
  | _ =>
    first
    | exact le_rfl
    | exact Multiset.zero_le _

/-- What is checked out exists. -/
theorem State.out_le_live (s : State Connection) : s.out ≤ s.live := by
  have operations : (s.operations.map Operation.out).sum ≤ (s.operations.map Operation.hand).sum :=
    Multiset.sum_map_le_sum_map _ _ fun operation _ => operation.out_le_hand
  calc
    s.out ≤ s.sessions + (s.operations.map Operation.hand).sum :=
      add_le_add_right operations s.sessions
    _ ≤ s.pool.connections + (s.sessions + (s.operations.map Operation.hand).sum) :=
      Multiset.le_add_left _ _
    _ = s.live := by
      rw [State.live, add_assoc]

theorem State.Promised.mono (promised : s.Promised) (promises : next.promises ≤ s.promises)
    (issued : next.nextPromise = s.nextPromise) : next.Promised where
  once := Multiset.nodup_of_le promises promised.once
  issued promise isIn := by
    rw [issued]
    exact promised.issued promise (Multiset.mem_of_le promises isIn)

theorem State.Promised.issue (promised : s.Promised)
    (promises : next.promises = s.nextPromise ::ₘ s.promises)
    (issued : next.nextPromise = s.nextPromise + 1) : next.Promised where
  once := by
    rw [promises, Multiset.nodup_cons]
    refine ⟨?_, promised.once⟩
    intro isIn
    exact absurd (promised.issued _ isIn) (lt_irrefl _)
  issued promise isIn := by
    rw [promises, Multiset.mem_cons] at isIn
    rcases isIn with rfl | isIn
    · omega
    · have earlier := promised.issued promise isIn
      omega

/-- A step that neither connects nor makes a promise keeps the accounts. -/
theorem Sound.keep (sound : Sound poolSize s) (live : next.live ≤ s.live)
    (listed : (next.pool.checkedOut : Multiset Connection) = next.out)
    (sized : next.pool.connections.length + next.pool.checkedOut.length +
      next.inRelease + next.pool.pendingReplacements =
      s.pool.connections.length + s.pool.checkedOut.length + s.inRelease +
      s.pool.pendingReplacements)
    (eager : next.pool.waiters ≠ [] → next.pool.connections = []) (promised : next.Promised)
    (fifo : next.parked = next.picked ++ next.pool.waiters) : Sound poolSize next where
  distinct := Multiset.nodup_of_le live sound.distinct
  listed := listed
  sized := sized.trans sound.sized
  eager := eager
  promised := promised
  fifo := fifo

variable {connection : Connection} {pool : Pool Connection}

/-- The first free connection is taken, when nobody waits. -/
theorem Pool.acquireSession_eq_some {next : Pool Connection}
    (taken : pool.acquireSession = some (connection, next)) :
    ∃ rest, pool.connections = connection :: rest ∧ next =
        { pool with
          connections := rest
          checkedOut := pool.checkedOut ++ [connection] } := by
  unfold Pool.acquireSession at taken
  split at taken
  · cases taken
  · rename_i first rest connections
    split at taken
    · cases taken
    · cases taken
      exact ⟨rest, connections, rfl⟩

theorem Pool.acquireSession_eq_none (running : pool.shutdown = false)
    (none : pool.acquireSession = none) : pool.connections = [] := by
  unfold Pool.acquireSession at none
  split at none
  · assumption
  · simp [running] at none

theorem Sound.acquires (sound : Sound poolSize s)
    (taken : s.pool.acquireSession = some (connection, pool)) :
    Sound poolSize { s with pool, sessions := connection ::ₘ s.sessions } := by
  obtain ⟨rest, connections, rfl⟩ := Pool.acquireSession_eq_some taken
  apply sound.keep
  · apply le_of_eq
    simp only [State.live, connections, ← Multiset.cons_coe, ← Multiset.singleton_add]
    abel
  · simp only [State.out, ← Multiset.coe_add, sound.listed,
      Multiset.coe_singleton, ← Multiset.singleton_add]
    abel
  · simp only [connections, State.inRelease, List.length_append, List.length_cons, List.length_nil]
    omega
  · intro waits
    simp [sound.eager waits] at connections
  · exact sound.promised.mono le_rfl rfl
  · exact sound.fifo

theorem Sound.acquiresAsync (sound : Sound poolSize s) (running : s.pool.shutdown = false) :
    Sound poolSize s.acquireSessionAsync := by
  unfold State.acquireSessionAsync
  simp only [running, Bool.false_eq_true, if_false]
  split
  · rename_i connection pool taken
    obtain ⟨rest, connections, rfl⟩ := Pool.acquireSession_eq_some taken
    apply sound.keep
    · apply le_of_eq
      rw [State.live_start]
      simp only [Operation.hand, State.live, connections, ← Multiset.cons_coe,
        ← Multiset.singleton_add]
      abel
    · rw [State.out_start]
      simp only [Operation.out, State.start, ← Multiset.coe_add, sound.listed,
        Multiset.coe_singleton, State.out]
      abel
    · rw [State.inRelease_start]
      simp only [connections, Operation.releases, State.inRelease, State.start,
        List.length_append, List.length_cons, List.length_nil]
      omega
    · intro waits
      simp [sound.eager waits] at connections
    · apply sound.promised.issue
      · rw [State.promises_start, ← Multiset.singleton_add]
        rfl
      · rfl
    · exact sound.fifo
  · rename_i none
    have connections := Pool.acquireSession_eq_none running none
    apply sound.keep
    · exact le_rfl
    · exact sound.listed
    · rfl
    · intro _
      exact connections
    · apply sound.promised.issue
      · simp only [State.promises, ← Multiset.coe_add, Multiset.coe_singleton,
          ← Multiset.singleton_add]
        abel
      · rfl
    · simp [sound.fifo]

theorem Sound.releases (sound : Sound poolSize s) {sessions : Multiset Connection}
    (held : s.sessions = connection ::ₘ sessions) (reusable : Bool) :
    Sound poolSize ({ s with sessions }.start (.releasing connection reusable)) := by
  apply sound.keep
  · apply le_of_eq
    rw [State.live_start]
    simp only [Operation.hand, State.live, held, ← Multiset.singleton_add]
    abel
  · rw [State.out_start]
    simp only [State.start, sound.listed, State.out, held, Operation.out, ← Multiset.singleton_add]
    abel
  · rw [State.inRelease_start]
    simp [State.inRelease, State.start, Operation.releases]
  · exact sound.eager
  · apply sound.promised.mono
    · rw [State.promises_start]
      simp [State.promises, Operation.promises]
    · rfl
  · exact sound.fifo

theorem Sound.cancelsAll (sound : Sound poolSize s) : Sound poolSize s.cancelAll := by
  apply sound.keep
  · rw [State.cancelAll, State.live_start]
    simp [Operation.hand, State.live]
  · rw [State.cancelAll, State.out_start]
    simpa [Operation.out, State.out, State.start] using sound.listed
  · rw [State.cancelAll, State.inRelease_start]
    simp [Operation.releases, State.inRelease, State.start]
  · simp [State.cancelAll, State.start]
  · apply sound.promised.mono
    · apply le_of_eq
      rw [State.cancelAll, State.promises_start]
      simp only [Operation.promises, State.promises, Multiset.coe_nil]
      abel
    · rfl
  · simpa [State.cancelAll, State.start] using sound.fifo

/-- The operation holds nothing that is accounted for. -/
structure Operation.Idle (operation : Operation Connection) : Prop where
  hand : operation.hand = 0
  releases : operation.releases = 0
  promises : operation.promises = 0

variable {operation : Operation Connection}

theorem Operation.out_eq_zero (hand : operation.hand = 0) : operation.out = 0 := by
  have within := operation.out_le_hand
  rw [hand] at within
  exact Multiset.le_zero.mp within

/-- An operation that holds nothing may come and go. -/
theorem sound_start_iff (idle : operation.Idle) :
    Sound poolSize (s.start operation) ↔ Sound poolSize s := by
  have live : (s.start operation).live = s.live := by
    rw [State.live_start, idle.hand, zero_add]
  have out : (s.start operation).out = s.out := by
    rw [State.out_start, Operation.out_eq_zero idle.hand, zero_add]
  have inRelease : (s.start operation).inRelease = s.inRelease := by
    rw [State.inRelease_start, idle.releases, zero_add]
  have promises : (s.start operation).promises = s.promises := by
    rw [State.promises_start, idle.promises, zero_add]
  constructor
  · intro sound
    apply sound.keep
    · rw [live]
    · rw [← out]
      exact sound.listed
    · rw [inRelease]
      rfl
    · exact sound.eager
    · exact sound.promised.mono promises.ge rfl
    · exact sound.fifo
  · intro sound
    apply sound.keep
    · rw [live]
    · rw [out]
      exact sound.listed
    · rw [inRelease]
      rfl
    · exact sound.eager
    · exact sound.promised.mono promises.le rfl
    · exact sound.fifo

/-- The operation is about to set a promise with a connection. -/
structure Operation.Hands (operation : Operation Connection) (promise : Nat)
    (connection : Connection) : Prop where
  hand : operation.hand = {connection}
  out : operation.out = {connection}
  releases : operation.releases = 0
  promises : operation.promises = {promise}

/-- The session passes from the operation to the caller. -/
theorem Sound.fulfil {promise : Nat} (sound : Sound poolSize (s.start operation))
    (hands : operation.Hands promise connection) :
    Sound poolSize (s.fulfil promise connection) := by
  apply sound.keep
  · apply le_of_eq
    rw [State.live_start, hands.hand]
    simp only [State.fulfil, State.live, ← Multiset.singleton_add]
    abel
  · have listed := sound.listed
    rw [State.out_start, hands.out] at listed
    simp only [State.fulfil, State.out, ← Multiset.singleton_add]
    rw [add_assoc]
    exact listed
  · rw [State.inRelease_start, hands.releases, zero_add]
    rfl
  · exact sound.eager
  · apply sound.promised.mono
    · apply le_of_eq
      rw [State.promises_start, hands.promises]
      simp only [State.fulfil, State.promises, ← Multiset.coe_add, Multiset.coe_singleton]
      abel
    · rfl
  · exact sound.fifo

theorem Sound.reject {after : Operation Connection} {promise : Nat}
    (sound : Sound poolSize (s.start operation)) (hand : operation.hand = 0)
    (handAfter : after.hand = 0) (releases : after.releases = operation.releases)
    (promises : operation.promises = promise ::ₘ after.promises) :
    Sound poolSize ((s.reject promise).start after) := by
  apply sound.keep
  · rw [State.live_start, State.live_start, hand, handAfter]
    exact le_rfl
  · have listed := sound.listed
    rw [State.out_start, Operation.out_eq_zero hand] at listed
    rw [State.out_start, Operation.out_eq_zero handAfter]
    exact listed
  · rw [State.inRelease_start, State.inRelease_start, releases]
    rfl
  · exact sound.eager
  · apply sound.promised.mono
    · apply le_of_eq
      rw [State.promises_start, State.promises_start, promises]
      simp only [State.reject, State.promises, ← Multiset.coe_add,
        Multiset.coe_singleton, ← Multiset.singleton_add]
      abel
    · rfl
  · exact sound.fifo

theorem Sound.erase [DecidableEq Connection] {reusable : Bool}
    (sound : Sound poolSize (s.start (.releasing connection reusable))) :
    Sound poolSize
      ({ s with
          pool := { s.pool with checkedOut := s.pool.checkedOut.filter (· ≠ connection) } }.start
        (.returning connection reusable)) := by
  have listed := sound.listed
  rw [State.out_start] at listed
  have listed : (s.pool.checkedOut : Multiset Connection) = connection ::ₘ s.out := by
    rw [← Multiset.singleton_add]
    exact listed
  have different : (connection ::ₘ s.out).Nodup := by
    rw [← listed]
    apply Multiset.nodup_of_le _ sound.distinct
    exact sound.listed.trans_le (State.out_le_live _)
  have notIn : connection ∉ s.out := (Multiset.nodup_cons.mp different).1
  have erased : ((s.pool.checkedOut.filter (· ≠ connection) : List Connection) :
      Multiset Connection) = s.out := by
    rw [← Multiset.filter_coe, listed,
      Multiset.filter_cons_of_neg _ (by simp), Multiset.filter_eq_self]
    intro other isIn same
    exact notIn (same ▸ isIn)
  apply sound.keep
  · rw [State.live_start, State.live_start]
    exact le_rfl
  · rw [State.out_start]
    simpa [State.start, Operation.out, State.out] using erased
  · have before := congrArg Multiset.card listed
    have after := congrArg Multiset.card erased
    rw [Multiset.card_cons, Multiset.coe_card] at before
    rw [Multiset.coe_card] at after
    rw [State.inRelease_start, State.inRelease_start]
    simp only [State.start, Operation.releases, State.inRelease]
    omega
  · exact sound.eager
  · apply sound.promised.mono
    · rw [State.promises_start, State.promises_start]
      exact le_rfl
    · rfl
  · exact sound.fifo

/-- The connection of a release goes to a waiter or becomes free. -/
theorem Sound.giveBack (sound : Sound poolSize (s.start (.returning connection true)))
    (handing : Nat → Operation Connection)
    (hands : ∀ promise, (handing promise).Hands promise connection)
    (placed : Option (Operation Connection)) (idle : ∀ operation ∈ placed, operation.Idle) :
    Sound poolSize ((s.giveBack connection handing placed).1.resume
      (s.giveBack connection handing placed).2) := by
  have listed := sound.listed
  rw [State.out_start] at listed
  have listed : (s.pool.checkedOut : Multiset Connection) = s.out := by
    simpa [State.start, Operation.out] using listed
  have fifo := sound.fifo
  cases waiters : s.pool.waiters with
  | nil =>
    have given : s.giveBack connection handing placed =
          ({ s with pool := { s.pool with connections := s.pool.connections ++ [connection] } },
            placed) := by
      simp only [State.giveBack, Pool.giveBack, waiters]
    rw [given]
    have free : Sound poolSize
          { s with pool := { s.pool with connections := s.pool.connections ++ [connection] } } := by
      apply sound.keep
      · apply le_of_eq
        rw [State.live_start]
        simp only [Operation.hand, State.live, ← Multiset.coe_add, Multiset.coe_singleton]
        abel
      · exact listed
      · rw [State.inRelease_start]
        simp only [State.start, Operation.releases, State.inRelease,
          List.length_append, List.length_cons, List.length_nil]
        omega
      · intro waits
        exact absurd waiters waits
      · apply sound.promised.mono
        · rw [State.promises_start]
          simp [Operation.promises, State.promises]
        · rfl
      · exact fifo
    cases placed with
    | none =>
      exact free
    | some operation =>
      exact (sound_start_iff (idle operation rfl)).mpr free
  | cons waiter rest =>
    have given : s.giveBack connection handing placed =
          ({ s with
              pool :=
                { s.pool with
                  waiters := rest
                  checkedOut := s.pool.checkedOut ++ [connection] }
              picked := s.picked ++ [waiter] },
            some (handing waiter)) := by
      simp only [State.giveBack, Pool.giveBack, waiters]
    have noneFree : s.pool.connections = [] := sound.eager (by simp [State.start, waiters])
    rw [given]
    apply sound.keep
    · apply le_of_eq
      rw [State.resume, State.live_start, State.live_start, (hands waiter).hand]
      rfl
    · rw [State.resume, State.out_start, (hands waiter).out]
      simp only [State.start, ← Multiset.coe_add, listed, Multiset.coe_singleton, State.out]
      abel
    · rw [State.resume, State.inRelease_start, State.inRelease_start, (hands waiter).releases]
      simp only [State.start, Operation.releases, State.inRelease,
        List.length_append, List.length_cons, List.length_nil]
      omega
    · intro _
      exact noneFree
    · apply sound.promised.mono
      · apply le_of_eq
        rw [State.resume, State.promises_start, State.promises_start, (hands waiter).promises]
        simp only [Operation.promises, State.promises, waiters,
          ← Multiset.cons_coe, ← Multiset.singleton_add]
        abel
      · rfl
    · simpa [State.resume, State.start, waiters] using fifo

/-- An operation is followed by one that holds no more, and the counts still add up. -/
theorem Sound.exchange (sound : Sound poolSize (s.start operation))
    (later : Operation Connection) (pending : Nat) (hand : later.hand ≤ operation.hand)
    (out : later.out = operation.out) (promises : later.promises = operation.promises)
    (counts : later.releases + pending =
      operation.releases + s.pool.pendingReplacements) :
    Sound poolSize
      ({ s with pool := { s.pool with pendingReplacements := pending } }.start later) := by
  apply sound.keep
  · rw [State.live_start, State.live_start]
    exact add_le_add_left hand _
  · have listed := sound.listed
    rw [State.out_start] at listed
    rw [State.out_start, out]
    exact listed
  · rw [State.inRelease_start, State.inRelease_start]
    simp only [State.start, State.inRelease]
    omega
  · exact sound.eager
  · apply sound.promised.mono
    · rw [State.promises_start, State.promises_start, promises]
      exact le_rfl
    · rfl
  · exact sound.fifo

theorem Sound.connect (sound : Sound poolSize s) (new : connection ∉ s.live) :
    Sound poolSize (s.start (.connected connection)) where
  distinct := by
    rw [State.live_start]
    exact Multiset.nodup_cons.mpr ⟨new, sound.distinct⟩
  listed := by
    rw [State.out_start]
    simpa [State.start, Operation.out] using sound.listed
  sized := by
    rw [State.inRelease_start]
    simpa [State.start, Operation.releases] using sound.sized
  eager := sound.eager
  promised := by
    apply sound.promised.mono
    · rw [State.promises_start]
      simp [Operation.promises]
    · rfl
  fifo := sound.fifo

theorem Sound.setReconnectMutex (sound : Sound poolSize s) (held : Bool) :
    Sound poolSize { s with pool := { s.pool with reconnectMutex := held } } :=
  ⟨sound.distinct, sound.listed, sound.sized, sound.eager,
    ⟨sound.promised.once, sound.promised.issued⟩, sound.fifo⟩

/-- A step of an operation keeps the pool sound. -/
theorem Sound.advance [DecidableEq Connection] {attempt : Option Connection}
    {after : Option (Operation Connection)} (sound : Sound poolSize (s.start operation))
    (running : s.pool.shutdown = false)
    (new : ∀ connection ∈ attempt, connection ∉ (s.start operation).live)
    (advanced : s.advance attempt operation = some (next, after)) :
    Sound poolSize (next.resume after) := by
  have notDown : ¬s.pool.shutdown = true := by
    simp [running]
  unfold State.advance at advanced
  cases operation with
  | resolving promise connection =>
    cases connection with
    | some connection =>
      cases advanced
      exact sound.fulfil ⟨rfl, rfl, rfl, rfl⟩
    | none =>
      cases advanced
      have rejected : Sound poolSize ((s.reject promise).start (.cancelling [])) :=
        sound.reject rfl rfl rfl rfl
      exact (sound_start_iff ⟨rfl, rfl, rfl⟩).mp rejected
  | releasing connection reusable =>
    dsimp only at advanced
    rw [if_neg notDown] at advanced
    cases advanced
    exact sound.erase
  | returning connection reusable =>
    cases reusable with
    | true =>
      dsimp only at advanced
      rw [if_neg notDown] at advanced
      have given := Option.some.inj advanced
      have placed :=
        sound.giveBack (.handing · connection) (fun _ => ⟨rfl, rfl, rfl, rfl⟩) none (by simp)
      rw [given] at placed
      exact placed
    | false =>
      cases advanced
      exact sound.exchange .dropped _ (Multiset.zero_le _) rfl rfl rfl
  | handing promise connection =>
    cases advanced
    exact sound.fulfil ⟨rfl, rfl, rfl, rfl⟩
  | dropped =>
    dsimp only at advanced
    rw [if_neg notDown] at advanced
    cases advanced
    exact sound.exchange .submitting _ le_rfl rfl rfl (Nat.zero_add _ |>.trans (Nat.add_comm _ _))
  | submitting =>
    cases advanced
    have sound := (sound_start_iff ⟨rfl, rfl, rfl⟩).mp sound
    exact (sound_start_iff ⟨rfl, rfl, rfl⟩).mpr sound
  | replacing =>
    have sound := (sound_start_iff ⟨rfl, rfl, rfl⟩).mp sound
    dsimp only at advanced
    split at advanced
    · cases advanced
    · cases advanced
      exact (sound_start_iff ⟨rfl, rfl, rfl⟩).mpr (sound.setReconnectMutex true)
  | checking =>
    have sound := (sound_start_iff ⟨rfl, rfl, rfl⟩).mp sound
    dsimp only at advanced
    split at advanced
    · cases advanced
      exact sound.setReconnectMutex false
    · cases advanced
      exact (sound_start_iff ⟨rfl, rfl, rfl⟩).mpr sound
  | connecting =>
    have sound := (sound_start_iff ⟨rfl, rfl, rfl⟩).mp sound
    cases attempt with
    | some connection =>
      cases advanced
      apply sound.connect
      have notIn := new connection rfl
      rw [State.live_start] at notIn
      simpa [Operation.hand] using notIn
    | none =>
      cases advanced
      exact (sound_start_iff ⟨rfl, rfl, rfl⟩).mpr sound
  | connected connection =>
    dsimp only at advanced
    split at advanced
    · cases advanced
      have given := sound.exchange .backingOff _ (Multiset.zero_le _) rfl rfl rfl
      exact ((sound_start_iff ⟨rfl, rfl, rfl⟩).mp given).setReconnectMutex false
    · rename_i pending
      rw [not_or] at pending
      have given := Option.some.inj advanced
      have idle : ∀ operation ∈ some (Operation.checking : Operation Connection),
            operation.Idle := by
        rintro operation ⟨⟩
        exact ⟨rfl, rfl, rfl⟩
      have counts : 1 + (s.pool.pendingReplacements - 1) = 0 + s.pool.pendingReplacements := by
        omega
      have placed :=
        (sound.exchange (.returning connection true) _ le_rfl rfl rfl counts).giveBack
          (.handingReplacement · connection) (fun _ => ⟨rfl, rfl, rfl, rfl⟩) (some .checking) idle
      rw [given] at placed
      exact placed
  | handingReplacement promise connection =>
    cases advanced
    have fulfilled : Sound poolSize (s.fulfil promise connection) :=
      sound.fulfil ⟨rfl, rfl, rfl, rfl⟩
    exact (sound_start_iff ⟨rfl, rfl, rfl⟩).mpr fulfilled
  | backingOff =>
    have sound := (sound_start_iff ⟨rfl, rfl, rfl⟩).mp sound
    dsimp only at advanced
    rw [if_neg notDown] at advanced
    cases advanced
    exact (sound_start_iff ⟨rfl, rfl, rfl⟩).mpr sound
  | cancelling promises =>
    cases promises with
    | nil =>
      cases advanced
      exact (sound_start_iff ⟨rfl, rfl, rfl⟩).mp sound
    | cons promise promises =>
      cases advanced
      exact sound.reject rfl rfl rfl rfl

theorem sound_initial {connections : List Connection} (different : connections.Nodup) :
    Sound connections.length (initial connections) where
  distinct := by
    simpa [initial, State.live] using different
  listed := by
    simp [initial, State.out]
  sized := by
    simp [initial, State.inRelease]
  eager waits := absurd rfl waits
  promised := by
    constructor <;> simp [initial, State.promises]
  fifo := rfl

theorem pool_resume (operation : Option (Operation Connection)) :
    (s.resume operation).pool = s.pool := by
  cases operation <;> rfl

theorem shutdown_giveBack (s : State Connection) (connection : Connection)
    (handing : Nat → Operation Connection) (placed : Option (Operation Connection)) :
    (s.giveBack connection handing placed).1.pool.shutdown = s.pool.shutdown := by
  unfold State.giveBack Pool.giveBack
  cases s.pool.waiters <;> rfl

theorem shutdown_advance [DecidableEq Connection] {attempt : Option Connection}
    {after : Option (Operation Connection)}
    (advanced : s.advance attempt operation = some (next, after)) :
    next.pool.shutdown = s.pool.shutdown := by
  cases operation with
  | returning connection reusable =>
    cases reusable with
    | false =>
      cases advanced
      rfl
    | true =>
      simp only [State.advance] at advanced
      split at advanced
      · cases advanced
        rfl
      · have given := Option.some.inj advanced
        have kept := shutdown_giveBack s connection (.handing · connection) none
        rw [given] at kept
        exact kept
  | connected connection =>
    simp only [State.advance] at advanced
    split at advanced
    · cases advanced
      rfl
    · have given := Option.some.inj advanced
      have kept :=
        shutdown_giveBack
          { s with pool := { s.pool with pendingReplacements := s.pool.pendingReplacements - 1 } }
          connection (.handingReplacement · connection) (some .checking)
      rw [given] at kept
      exact kept
  | resolving promise connection =>
    cases connection <;> cases advanced <;> rfl
  | cancelling promises =>
    cases promises <;> cases advanced <;> rfl
  | connecting =>
    cases attempt <;> cases advanced <;> rfl
  | handing promise connection =>
    cases advanced
    rfl
  | submitting =>
    cases advanced
    rfl
  | handingReplacement promise connection =>
    cases advanced
    rfl
  | _ =>
    simp only [State.advance] at advanced
    split at advanced <;> cases advanced <;> rfl

/-- The step lemma. -/
theorem Step.sound [DecidableEq Connection] (stepped : Step s next)
    (sound : s.pool.shutdown = false → Sound poolSize s) (running : next.pool.shutdown = false) :
    Sound poolSize next := by
  cases stepped with
  | acquires taken =>
    obtain ⟨_, _, rfl⟩ := Pool.acquireSession_eq_some taken
    exact (sound running).acquires taken
  | acquiresAsync =>
    have before : s.pool.shutdown = false := by
      by_contra down
      have down : s.pool.shutdown = true := by
        simpa using down
      simp [State.acquireSessionAsync, down, State.start] at running
    exact (sound before).acquiresAsync before
  | releases held reusable =>
    exact (sound running).releases held reusable
  | @advances advancedState operation others after attempt new operations advanced =>
    have before : s.pool.shutdown = false := by
      rw [← running, pool_resume, shutdown_advance advanced]
    have same : s = { s with operations := others }.start operation := by
      rw [State.start, ← operations]
    rw [same] at new
    have sound := sound before
    rw [same] at sound
    exact sound.advance before new advanced
  | cancelsAll =>
    exact (sound running).cancelsAll
  | shutsDown =>
    cases running

/-- The pool is sound until it is shut down. -/
theorem sound_of_reached [DecidableEq Connection] (reached : Reached poolSize s)
    (running : s.pool.shutdown = false) : Sound poolSize s := by
  induction reached with
  | initial different size =>
    rw [← size]
    exact sound_initial different
  | step reached stepped ih =>
    exact stepped.sound ih running

/--
Before shutdown the pool's connections are free, checked out, inside a release
or pending replacement.  No connection is in two places and so in two sessions;
waiters are parked only while nothing is free, picked in the order they were
parked, and their promises are set once at most.
-/
theorem connectionPool_accounts [DecidableEq Connection] (reached : Reached poolSize s)
    (running : s.pool.shutdown = false) :
    s.pool.connections.length + s.pool.checkedOut.length + s.inRelease +
      s.pool.pendingReplacements = poolSize ∧ (s.pool.checkedOut : Multiset Connection) = s.out ∧
      s.live.Nodup ∧ s.sessions.Nodup ∧ (s.pool.waiters ≠ [] → s.pool.connections = []) ∧
      s.parked = s.picked ++ s.pool.waiters ∧
      s.fulfilled.Nodup := by
  have sound := sound_of_reached reached running
  refine ⟨sound.sized, sound.listed, sound.distinct, ?_, sound.eager, sound.fifo, ?_⟩
  · apply Multiset.nodup_of_le _ sound.distinct
    apply le_trans _ (State.out_le_live s)
    exact Multiset.le_add_right _ _
  · rw [← Multiset.coe_nodup]
    exact Multiset.nodup_of_le (Multiset.le_add_left _ _) sound.promised.once

end

/-- The second of two callers of a pool of one connection is parked. -/
def secondCallerParks : State Nat :=
  (initial [0]).acquireSessionAsync.acquireSessionAsync

/-- A pool of one connection, with a second caller that waits. -/
theorem parkedCaller_accounted :
    secondCallerParks.pool.waiters = [1] ∧ (secondCallerParks.pool.connections.length +
      secondCallerParks.pool.checkedOut.length + secondCallerParks.inRelease +
      secondCallerParks.pool.pendingReplacements = 1 ∧ (secondCallerParks.pool.waiters ≠ [] →
      secondCallerParks.pool.connections = [])) := by
  have first : Reached 1 (initial [0]) := .initial (by decide) rfl
  have reached : Reached 1 secondCallerParks := .step (.step first .acquiresAsync) .acquiresAsync
  obtain ⟨sized, _, _, _, eager, _⟩ := connectionPool_accounts reached rfl
  exact ⟨rfl, sized, eager⟩

end Ob.ConnectionPool

end PortableTpcc
