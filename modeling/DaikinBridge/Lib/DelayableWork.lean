import Mathlib.Logic.Function.Basic
import Mathlib.Data.List.Basic

/-!
# DaikinBridge.Lib.DelayableWork

A work queue with delayable items.

An item is scheduled with a delay; when its deadline has passed it is submitted, and the
thread of the queue runs the submitted items one at a time, first come first served.
Scheduling an item again replaces its deadline, but does not take it out of the queue; and
submitting a submitted item leaves it where it is. An item can be scheduled while it runs.

* `Pending q w t` — the item will run, and at the earliest at the time `t`;
* `waiting q w` — how often the item will still run: twice, if it is submitted and delayed;
* `Sole q L w` — of the items of a family `L` the queue holds only `w`, and only once. A
  family whose handlers each schedule exactly one item of the family keeps this
  (`Sole.handOver`): its items are never lost and never doubled.

Nothing here refers to the bridge.
-/

namespace DaikinBridge.Lib

/-- The state of the queue: the time, the deadlines of the delayed items, the submitted
items and the one that runs. -/
structure WorkQueue (W : Type*) where
  now : Nat
  deadline : W → Option Nat
  submitted : List W
  running : Option W

namespace WorkQueue

variable {W : Type*} [DecidableEq W] (q : WorkQueue W)

/-- A queue that holds nothing. -/
def empty : WorkQueue W where
  now := 0
  deadline _ := none
  submitted := []
  running := none

/-! ### Operations -/

/-- Time passes. -/
def elapse (d : Nat) : WorkQueue W := { q with now := q.now + d }

/-- Put an item at the end of the queue, once. -/
def submit (w : W) : WorkQueue W :=
  if w ∈ q.submitted then q else { q with submitted := q.submitted ++ [w] }

/-- Schedule an item anew. -/
def reschedule (w : W) (delay : Nat) : WorkQueue W :=
  if delay = 0 then submit { q with deadline := Function.update q.deadline w none } w
  else { q with deadline := Function.update q.deadline w (some (q.now + delay)) }

/-- The deadline of an item has passed. -/
def expire (w : W) : Option (WorkQueue W) :=
  match q.deadline w with
  | none => none
  | some t =>
      if t ≤ q.now then some (submit { q with deadline := Function.update q.deadline w none } w)
      else none

/-- The thread of the queue takes the next item. -/
def start : Option (WorkQueue W) :=
  match q.running, q.submitted with
  | none, w :: rest => some { q with submitted := rest, running := some w }
  | _, _ => none

/-- The item that runs is done. -/
def finish : WorkQueue W := { q with running := none }

/-! ### What the operations leave alone -/

section Frame

variable {q} {q' : WorkQueue W} (v w : W) (delay : Nat)

@[simp] theorem submit_now : (q.submit w).now = q.now := by
  unfold submit
  split <;> rfl

@[simp] theorem submit_deadline : (q.submit w).deadline = q.deadline := by
  unfold submit
  split <;> rfl

@[simp] theorem submit_running : (q.submit w).running = q.running := by
  unfold submit
  split <;> rfl

theorem mem_submit_self : w ∈ (q.submit w).submitted := by
  unfold submit
  split
  · assumption
  · exact List.mem_append_right _ (List.mem_singleton.mpr rfl)

theorem mem_submit_of_mem {v w : W} (h : v ∈ q.submitted) : v ∈ (q.submit w).submitted := by
  unfold submit
  split
  · exact h
  · exact List.mem_append_left _ h

theorem count_submit_of_ne {v w : W} (hne : v ≠ w) :
    (q.submit w).submitted.count v = q.submitted.count v := by
  unfold submit
  split
  · rfl
  · rw [List.count_append, List.count_singleton, if_neg (by simpa using hne.symm), Nat.add_zero]

theorem count_submit_self {w : W} (h : w ∉ q.submitted) :
    (q.submit w).submitted.count w = 1 := by
  rw [submit, if_neg h, List.count_append, List.count_eq_zero_of_not_mem h,
    List.count_singleton_self]

@[simp] theorem reschedule_now : (q.reschedule w delay).now = q.now := by
  unfold reschedule
  split
  · exact submit_now w
  · rfl

@[simp] theorem reschedule_running : (q.reschedule w delay).running = q.running := by
  unfold reschedule
  split
  · exact submit_running w
  · rfl

theorem reschedule_deadline_of_ne {v w : W} (hne : v ≠ w) :
    (q.reschedule w delay).deadline v = q.deadline v := by
  unfold reschedule
  split
  · rw [submit_deadline]
    exact Function.update_of_ne hne _ _
  · exact Function.update_of_ne hne _ _

theorem reschedule_deadline_self {delay : Nat} (hdelay : delay ≠ 0) :
    (q.reschedule w delay).deadline w = some (q.now + delay) := by
  rw [reschedule, if_neg hdelay]
  exact Function.update_self _ _ _

/-- An item expires when its deadline has passed. -/
theorem expire_eq_some {w : W} (h : q.expire w = some q') : ∃ t, q.deadline w = some t ∧ t ≤ q.now ∧
    q' = submit { q with deadline := Function.update q.deadline w none } w := by
  unfold expire at h
  split at h
  · cases h
  · rename_i t hdeadline
    obtain ⟨hpast, heq⟩ := Option.ite_some_none_eq_some.mp h
    exact ⟨t, hdeadline, hpast, heq.symm⟩

omit [DecidableEq W] in
theorem start_eq_some (h : q.start = some q') : ∃ w rest, q.running = none ∧
    q.submitted = w :: rest ∧ q' = { q with submitted := rest, running := some w } := by
  unfold start at h
  split at h
  · rename_i w rest hrunning hsubmitted
    exact ⟨w, rest, hrunning, hsubmitted, (Option.some.inj h).symm⟩
  · cases h

end Frame

/-! ### Items that will run -/

/-- The item will run, and at the earliest at the time `t`. -/
def Pending (w : W) (t : Nat) : Prop :=
  q.deadline w = some t ∨ (w ∈ q.submitted ∧ t ≤ q.now)

section Pending

variable {q} {q' : WorkQueue W} {v w : W} {t delay : Nat}

/-- A scheduled item runs after its delay. -/
theorem pending_reschedule (q : WorkQueue W) (w : W) (delay : Nat) :
    (q.reschedule w delay).Pending w (q.now + delay) := by
  unfold reschedule
  split
  · rename_i hzero
    refine Or.inr ⟨mem_submit_self w, ?_⟩
    rw [submit_now, hzero]
    exact Nat.le_refl _
  · exact Or.inl (Function.update_self _ _ _)

omit [DecidableEq W] in
theorem Pending.elapse (h : q.Pending w t) (d : Nat) : (q.elapse d).Pending w t :=
  h.imp_right fun hsubmitted => ⟨hsubmitted.1, Nat.le_add_right_of_le hsubmitted.2⟩

theorem Pending.reschedule_of_ne (h : q.Pending w t) (hne : w ≠ v) :
    (q.reschedule v delay).Pending w t := by
  rcases h with hdelayed | ⟨hmem, hnow⟩
  · exact Or.inl ((reschedule_deadline_of_ne delay hne).trans hdelayed)
  · refine Or.inr ⟨?_, (reschedule_now (q := q) v delay).symm ▸ hnow⟩
    unfold reschedule
    split
    · exact mem_submit_of_mem hmem
    · exact hmem

theorem Pending.expire (h : q.Pending w t) (hstep : q.expire v = some q') : q'.Pending w t := by
  obtain ⟨t', hdeadline, hpast, rfl⟩ := expire_eq_some hstep
  rcases h with hdelayed | ⟨hmem, hnow⟩
  · by_cases hvw : w = v
    · -- the deadline of the item itself
      subst hvw
      obtain rfl : t = t' := Option.some.inj (hdelayed.symm.trans hdeadline)
      refine Or.inr ⟨mem_submit_self w, ?_⟩
      rw [submit_now]
      exact hpast
    · left
      rw [submit_deadline]
      exact (Function.update_of_ne hvw _ _).trans hdelayed
  · refine Or.inr ⟨mem_submit_of_mem hmem, ?_⟩
    rw [submit_now]
    exact hnow

omit [DecidableEq W] in
/-- The next item is not the one that is pending, or starts when it may. -/
theorem Pending.start (h : q.Pending w t) (hstep : q.start = some q') :
    q'.Pending w t ∨ (q'.running = some w ∧ t ≤ q'.now) := by
  obtain ⟨v, rest, hrunning, hsubmitted, rfl⟩ := start_eq_some hstep
  rcases h with hdelayed | ⟨hmem, hnow⟩
  · exact Or.inl (Or.inl hdelayed)
  · rw [hsubmitted] at hmem
    rcases List.mem_cons.mp hmem with rfl | hrest
    · exact Or.inr ⟨rfl, hnow⟩
    · exact Or.inl (Or.inr ⟨hrest, hnow⟩)

omit [DecidableEq W] in
theorem Pending.finish (h : q.Pending w t) : q.finish.Pending w t := h

end Pending

/-! ### How often an item is held -/

/-- How often the queue will still run an item. -/
def waiting (w : W) : Nat :=
  (if (q.deadline w).isSome then 1 else 0) + q.submitted.count w

/-- How often the queue holds an item, the run that is under way included. -/
def load (w : W) : Nat := q.waiting w + if q.running = some w then 1 else 0

section Load

variable {q} {q' : WorkQueue W} {v w : W} {delay : Nat}

theorem waiting_reschedule_of_ne (hne : v ≠ w) :
    (q.reschedule w delay).waiting v = q.waiting v := by
  have hcount : (q.reschedule w delay).submitted.count v = q.submitted.count v := by
    unfold reschedule
    split
    · exact count_submit_of_ne hne
    · rfl
  rw [waiting, waiting, reschedule_deadline_of_ne delay hne, hcount]

/-- A delayed item is scheduled once all the same. -/
theorem waiting_reschedule_self (hdelay : delay ≠ 0) :
    (q.reschedule w delay).waiting w = q.submitted.count w + 1 := by
  simp only [waiting, reschedule, if_neg hdelay, Function.update_self, Option.isSome_some,
    if_true]
  exact Nat.add_comm _ _

/-- What does not wait is held once when it is scheduled. -/
theorem waiting_reschedule_of_zero (h : q.waiting w = 0) :
    (q.reschedule w delay).waiting w = 1 := by
  have hcount : q.submitted.count w = 0 := (Nat.add_eq_zero_iff.mp h).2
  by_cases hdelay : delay = 0
  · have hsubmit :=
      count_submit_self (q := { q with deadline := Function.update q.deadline w none })
        (List.count_eq_zero.mp hcount)
    simp only [waiting, reschedule, if_pos hdelay, submit_deadline, hsubmit,
      Function.update_self, Option.isSome_none, Bool.false_eq_true, if_false]
  · rw [waiting_reschedule_self hdelay, hcount]

theorem waiting_expire_of_ne (hstep : q.expire w = some q') (hne : v ≠ w) :
    q'.waiting v = q.waiting v := by
  obtain ⟨t, -, -, rfl⟩ := expire_eq_some hstep
  simp only [waiting, submit_deadline, count_submit_of_ne hne, Function.update_of_ne hne]

/-- The deadline of an item turns into its submission, if it is not submitted already. -/
theorem waiting_expire_self (hstep : q.expire w = some q') :
    q'.waiting w = if w ∈ q.submitted then q.waiting w - 1 else q.waiting w := by
  obtain ⟨t, hdeadline, -, rfl⟩ := expire_eq_some hstep
  simp only [waiting, submit_deadline, Function.update_self, hdeadline, Option.isSome_none,
    Option.isSome_some, Bool.false_eq_true, if_false, if_true]
  split
  · rename_i hmem
    rw [submit, if_pos hmem]
    exact (Nat.zero_add _).trans (Nat.add_sub_cancel_left 1 _).symm
  · rename_i hmem
    have hsubmit :=
      count_submit_self (q := { q with deadline := Function.update q.deadline w none }) hmem
    rw [hsubmit, List.count_eq_zero.mpr hmem]

theorem running_expire (hstep : q.expire w = some q') :
    q'.running = q.running := by
  obtain ⟨t, -, -, rfl⟩ := expire_eq_some hstep
  exact submit_running w

/-- The item that starts waits no longer. -/
theorem waiting_start (hstep : q.start = some q') (v : W) :
    q'.waiting v + (if q'.running = some v then 1 else 0) = q.waiting v := by
  obtain ⟨w, rest, hrunning, hsubmitted, rfl⟩ := start_eq_some hstep
  simp only [waiting, hsubmitted, List.count_cons, Option.some.injEq, beq_iff_eq]
  omega

theorem load_start (hstep : q.start = some q') (v : W) : q'.load v = q.load v := by
  obtain ⟨w, rest, hrunning, hsubmitted, -⟩ := start_eq_some hstep
  rw [load, load, waiting_start hstep v, hrunning]
  simp

theorem load_finish_of_ne (hne : q.running ≠ some w) : q.finish.load w = q.load w := by
  rw [load, load, if_neg hne]
  rfl

/-- An item that runs and does not wait is gone when it is done. -/
theorem load_finish (w : W) : q.finish.load w = q.waiting w := by
  rw [load, finish, if_neg nofun]
  rfl

end Load

/-! ### Families with one item in the queue -/

/-- Of the items of the family, the queue holds only this one, and only once. -/
structure Sole (L : W → Prop) (w : W) : Prop where
  mem : L w
  once : q.load w = 1
  others : ∀ v, L v → v ≠ w → q.load v = 0

namespace Sole

variable {q} {q' : WorkQueue W} {L : W → Prop} {v w : W} {t delay : Nat}

theorem of_load (h : q.Sole L w) (hload : ∀ v, L v → q'.load v = q.load v) : q'.Sole L w where
  mem := h.mem
  once := (hload w h.mem).trans h.once
  others v hv hne := (hload v hv).trans (h.others v hv hne)

theorem elapse (h : q.Sole L w) (d : Nat) : (q.elapse d).Sole L w :=
  h.of_load fun _ _ => rfl

theorem load_le (h : q.Sole L w) (hv : L v) : q.load v ≤ 1 := by
  by_cases hvw : v = w
  · subst hvw
    exact Nat.le_of_eq h.once
  · rw [h.others v hv hvw]
    exact Nat.zero_le 1

theorem expire (h : q.Sole L w) (hstep : q.expire v = some q') : q'.Sole L w := by
  refine h.of_load fun u hu => ?_
  rw [load, load, running_expire hstep]
  by_cases huv : u = v
  · subst huv
    obtain ⟨t, hdeadline, -, -⟩ := expire_eq_some hstep
    have hload := h.load_le hu
    have hmem : u ∉ q.submitted := by
      intro hmem
      have hcount := List.count_pos_iff.mpr hmem
      simp only [load, waiting, hdeadline, Option.isSome_some, if_true] at hload
      omega
    rw [waiting_expire_self hstep, if_neg hmem]
  · rw [waiting_expire_of_ne hstep huv]

theorem start (h : q.Sole L w) (hstep : q.start = some q') : q'.Sole L w :=
  h.of_load fun v _ => load_start hstep v

/-- Scheduling an item outside the family, and finishing one. -/
theorem reschedule_outside (h : q.Sole L w) (hv : ¬ L v) : (q.reschedule v delay).Sole L w := by
  refine h.of_load fun u hu => ?_
  have hne : u ≠ v := fun heq => hv (heq ▸ hu)
  rw [load, load, waiting_reschedule_of_ne hne, reschedule_running]

theorem finish_outside (h : q.Sole L w) (hv : ¬ L v) (hrunning : q.running = some v) :
    q.finish.Sole L w := by
  refine h.of_load fun u hu => load_finish_of_ne fun heq => hv ?_
  obtain rfl : v = u := Option.some.inj (hrunning.symm.trans heq)
  exact hu

/-- An item of the family that runs is the one. -/
theorem eq_of_running (h : q.Sole L w) (hv : L v) (hrunning : q.running = some v) : v = w := by
  by_contra hvw
  have hload := h.others v hv hvw
  rw [load, if_pos hrunning] at hload
  exact Nat.succ_ne_zero _ hload

/-- While it runs, it does not wait. -/
theorem waiting_eq_zero (h : q.Sole L w) (hrunning : q.running = some w) : q.waiting w = 0 := by
  have hload := h.once
  rw [load, if_pos hrunning] at hload
  exact Nat.succ.inj hload

/-- The running item hands over to an item of the family, possibly itself. -/
theorem handOver (h : q.Sole L w) {r : W} (hr : L r) (hrunning : q.running = some r)
    (hv : L v) : (q.reschedule v delay).finish.Sole L v := by
  obtain rfl := h.eq_of_running hr hrunning
  have hzero : ∀ u, L u → q.waiting u = 0 := by
    intro u hu
    by_cases hur : u = r
    · subst hur
      exact h.waiting_eq_zero hrunning
    · have hload := h.others u hu hur
      exact (Nat.add_eq_zero_iff.mp hload).1
  refine ⟨hv, ?_, fun u hu hne => ?_⟩
  · rw [load_finish, waiting_reschedule_of_zero (hzero v hv)]
  · rw [load_finish, waiting_reschedule_of_ne hne, hzero u hu]

/-- The item starts when it may. -/
theorem start_of_pending (h : q.Sole L w) (hpending : q.Pending w t)
    (hstep : q.start = some q') (hrunning : q'.running = some w) : t ≤ q'.now := by
  rcases hpending.start hstep with hstill | ⟨-, hnow⟩
  · have hzero := (h.start hstep).waiting_eq_zero hrunning
    unfold waiting at hzero
    rcases hstill with hdelayed | ⟨hsubmitted, -⟩
    · rw [hdelayed] at hzero
      simp at hzero
    · have hcount := List.count_pos_iff.mpr hsubmitted
      omega
  · exact hnow

end Sole

end WorkQueue

end DaikinBridge.Lib
