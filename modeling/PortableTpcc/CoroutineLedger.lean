import Mathlib.Algebra.Order.Group.Multiset

namespace PortableTpcc

/-!
# Where coroutines are

A coroutine that is suspended goes on when its handle is resumed, and a handle
must not be resumed twice.  A ledger says for each coroutine whether it runs,
waits in a queue or waits for a promise, and lists the handles in queues and the
frames on stacks.  The moves are those of a scheduler whose coroutines suspend
themselves; a scheduler that makes only such moves has each handle once.
-/

namespace CoroutineLedger

/-- What a coroutine is doing. -/
inductive Status where
  /-- Not started, or ended. -/
  | absent
  | running
  /-- Suspended, with its handle in a queue. -/
  | enqueued
  /-- Suspended, with its handle in the callback of a promise. -/
  | subscribed
  deriving Repr, DecidableEq

variable {Handle : Type} [DecidableEq Handle]

/-- The coroutines, the handles in queues and the frames on stacks. -/
structure Ledger (Handle : Type) where
  status : Handle → Status
  queued : Multiset Handle
  frames : Multiset Handle

/-- What a scheduler and its coroutines may do. -/
inductive Move : Ledger Handle → Ledger Handle → Prop where
  /-- Handles are moved from queue to queue, and may be lost. -/
  | keeps {ledger : Ledger Handle} {queued : Multiset Handle} (fewer : queued ≤ ledger.queued) :
      Move ledger { ledger with queued }
  | resumes {ledger : Ledger Handle} {handle : Handle} {queued : Multiset Handle}
      (popped : handle ::ₘ queued ≤ ledger.queued) :
      Move ledger
        { status := Function.update ledger.status handle .running
          queued
          frames := handle ::ₘ ledger.frames }
  /-- A running coroutine puts itself into a queue. -/
  | suspends {ledger : Ledger Handle} {handle : Handle} {frames : Multiset Handle}
      (left : ledger.frames = handle ::ₘ frames) :
      Move ledger
        { status := Function.update ledger.status handle .enqueued
          queued := handle ::ₘ ledger.queued
          frames }
  | subscribes {ledger : Ledger Handle} {handle : Handle} {frames : Multiset Handle}
      (left : ledger.frames = handle ::ₘ frames) :
      Move ledger
        { ledger with
          status := Function.update ledger.status handle .subscribed
          frames }
  /-- A promise is kept, or a coroutine is started from outside. -/
  | wakes {ledger : Ledger Handle} {handle : Handle}
      (waits : ledger.status handle = .subscribed ∨ ledger.status handle = .absent) :
      Move ledger
        { ledger with
          status := Function.update ledger.status handle .enqueued
          queued := handle ::ₘ ledger.queued }
  /-- A running coroutine calls another one. -/
  | calls {ledger : Ledger Handle} {handle : Handle} (fresh : ledger.status handle = .absent) :
      Move ledger
        { ledger with
          status := Function.update ledger.status handle .running
          frames := handle ::ₘ ledger.frames }
  | ends {ledger : Ledger Handle} {handle : Handle} {frames : Multiset Handle}
      (left : ledger.frames = handle ::ₘ frames) :
      Move ledger
        { ledger with
          status := Function.update ledger.status handle .absent
          frames }

/--
A handle is queued at most once and only while its coroutine waits for it, and
just the coroutines that run have a frame.
-/
structure Ledger.Sound (ledger : Ledger Handle) : Prop where
  queuedOnce :
    ∀ handle, ledger.queued.count handle ≤
      if ledger.status handle = .enqueued then 1 else 0
  framedOnce :
    ∀ handle, ledger.frames.count handle = if ledger.status handle = .running then 1 else 0

section

variable {ledger : Ledger Handle} {handle : Handle}

theorem Ledger.Sound.enqueued_of_mem (sound : ledger.Sound) (isIn : handle ∈ ledger.queued) :
    ledger.status handle = .enqueued := by
  by_contra notEnqueued
  have once := sound.queuedOnce handle
  rw [if_neg notEnqueued] at once
  exact absurd (Multiset.count_pos.mpr isIn) (Nat.not_lt.mpr once)

theorem Ledger.Sound.running_of_mem (sound : ledger.Sound) (isIn : handle ∈ ledger.frames) :
    ledger.status handle = .running := by
  by_contra notRunning
  have once := sound.framedOnce handle
  rw [if_neg notRunning] at once
  exact absurd isIn (Multiset.count_eq_zero.mp once)

/-- What runs has a frame. -/
theorem Ledger.Sound.mem_of_running (sound : ledger.Sound)
    (running : ledger.status handle = .running) : handle ∈ ledger.frames := by
  have once := sound.framedOnce handle
  rw [if_pos running] at once
  exact Multiset.count_pos.mp (once ▸ Nat.one_pos)

/-- A coroutine that is not enqueued has no handle in a queue. -/
theorem Ledger.Sound.count_queued (sound : ledger.Sound)
    (notEnqueued : ledger.status handle ≠ .enqueued) : ledger.queued.count handle = 0 := by
  have once := sound.queuedOnce handle
  rw [if_neg notEnqueued] at once
  exact Nat.le_zero.mp once

theorem Ledger.Sound.count_frames (sound : ledger.Sound)
    (notRunning : ledger.status handle ≠ .running) : ledger.frames.count handle = 0 := by
  rw [sound.framedOnce handle, if_neg notRunning]

/-- A handle is in one queue at most. -/
theorem Ledger.Sound.queued_le_one (sound : ledger.Sound) (handle : Handle) :
    ledger.queued.count handle ≤ 1 := by
  apply (sound.queuedOnce handle).trans
  split
  · exact le_rfl
  · exact Nat.zero_le 1

theorem count_cons_eq_one {handles : Multiset Handle} (none : handles.count handle = 0) :
    (handle ::ₘ handles).count handle = 1 := by
  rw [Multiset.count_cons_self, none]

/-- One coroutine changes, and the others are queued and run as before. -/
theorem Ledger.Sound.change (sound : ledger.Sound) {status : Status}
    {queued frames : Multiset Handle}
    (others : ∀ other, other ≠ handle → queued.count other ≤ ledger.queued.count other ∧
      frames.count other = ledger.frames.count other)
    (ownQueued : queued.count handle ≤ if status = .enqueued then 1 else 0)
    (ownFrames : frames.count handle = if status = .running then 1 else 0) : Ledger.Sound
      { status := Function.update ledger.status handle status
        queued
        frames } := by
  constructor <;> intro other <;> by_cases same : other = handle
  · subst same
    simpa using ownQueued
  · simpa [same] using (others other same).1.trans (sound.queuedOnce other)
  · subst same
    simpa using ownFrames
  · simpa [same] using (others other same).2.trans (sound.framedOnce other)

/-- The frame that is left was the only one of its coroutine. -/
theorem Ledger.Sound.of_left (sound : ledger.Sound) {frames : Multiset Handle}
    (left : ledger.frames = handle ::ₘ frames) :
    ledger.status handle = .running ∧ frames.count handle = 0 ∧ ∀ other, other ≠ handle →
      frames.count other = ledger.frames.count other := by
  have running : ledger.status handle = .running := by
    apply sound.running_of_mem
    rw [left]
    exact Multiset.mem_cons_self handle frames
  have once := sound.framedOnce handle
  rw [if_pos running, left, Multiset.count_cons_self] at once
  refine ⟨running, by omega, ?_⟩
  intro other different
  rw [left, Multiset.count_cons_of_ne different]

end

/-- A move keeps a ledger sound. -/
theorem Move.sound {before after : Ledger Handle} (move : Move before after)
    (sound : before.Sound) : after.Sound := by
  cases move with
  | keeps fewer =>
    exact ⟨fun handle =>
        (Multiset.count_le_of_le handle fewer).trans (sound.queuedOnce handle),
        sound.framedOnce⟩
  | @resumes handle queued popped =>
    have enqueued : before.status handle = .enqueued :=
      sound.enqueued_of_mem (Multiset.subset_of_le popped (Multiset.mem_cons_self handle queued))
    have fewer (other : Handle) := Multiset.count_le_of_le other popped
    apply sound.change
    · intro other different
      have same := Multiset.count_cons_of_ne different before.frames
      have less := fewer other
      rw [Multiset.count_cons_of_ne different] at less
      exact ⟨less, same⟩
    · have less := fewer handle
      have once := sound.queued_le_one handle
      rw [Multiset.count_cons_self] at less
      rw [if_neg (by decide)]
      omega
    · have none := sound.count_frames (ne_of_eq_of_ne enqueued (by decide))
      exact count_cons_eq_one none
  | @suspends handle frames left =>
    obtain ⟨running, ownFrames, others⟩ := sound.of_left left
    have none := sound.count_queued (ne_of_eq_of_ne running (by decide))
    apply sound.change
    · intro other different
      exact ⟨(Multiset.count_cons_of_ne different before.queued).le, others other different⟩
    · exact (count_cons_eq_one none).le
    · exact ownFrames
  | @subscribes handle frames left =>
    obtain ⟨running, ownFrames, others⟩ := sound.of_left left
    have none := sound.count_queued (ne_of_eq_of_ne running (by decide))
    apply sound.change
    · intro other different
      exact ⟨le_rfl, others other different⟩
    · exact none.le
    · exact ownFrames
  | @wakes handle waits =>
    have noneQueued : before.queued.count handle = 0 := by
      apply sound.count_queued
      rcases waits with subscribed | absent
      · simp [subscribed]
      · simp [absent]
    have noneFramed : before.frames.count handle = 0 := by
      apply sound.count_frames
      rcases waits with subscribed | absent
      · simp [subscribed]
      · simp [absent]
    apply sound.change
    · intro other different
      exact ⟨(Multiset.count_cons_of_ne different before.queued).le, rfl⟩
    · exact (count_cons_eq_one noneQueued).le
    · exact noneFramed
  | @calls handle fresh =>
    have noneQueued := sound.count_queued (ne_of_eq_of_ne fresh (by decide))
    have noneFramed := sound.count_frames (ne_of_eq_of_ne fresh (by decide))
    apply sound.change
    · intro other different
      exact ⟨le_rfl, Multiset.count_cons_of_ne different before.frames⟩
    · exact noneQueued.le
    · exact count_cons_eq_one noneFramed
  | @ends handle frames left =>
    obtain ⟨running, ownFrames, others⟩ := sound.of_left left
    have none := sound.count_queued (ne_of_eq_of_ne running (by decide))
    apply sound.change
    · intro other different
      exact ⟨le_rfl, others other different⟩
    · exact none.le
    · exact ownFrames

end CoroutineLedger

end PortableTpcc
