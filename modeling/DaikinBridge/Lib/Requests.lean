import Mathlib.Data.List.Basic
import Mathlib.Tactic.Common

/-!
# DaikinBridge.Lib.Requests

Requests served one at a time through a one-slot mailbox.

A server accepts a request when it is free, works on it, posts the result in a
mailbox of depth one, raises a notification, and answers the notification by taking
the result out and replying. An observer records what happens in a log of `Event`s,
each with the number of the request it belongs to; the number of a request is its
position among the accepted ones. The log also has events for what must not happen.

* `Lifecycle log phase k` — the logs of a well-behaved server: `k` requests accepted,
  the last of them in the given phase;
* `ExactlyOnce log` — what an outsider wants to know of a log, with no mention of
  phases;
* `Lifecycle.exactlyOnce` — the first implies the second.

Nothing here refers to the bridge.
-/

namespace DaikinBridge.Lib

variable {α : Type*}

/-- What is recorded; `α` is the type of replies. -/
inductive Event (α : Type*)
  /-- The request with this number was accepted. -/
  | accepted (n : Nat)
  /-- A request was turned away. -/
  | rejected (reply : α)
  /-- The mailbox was cleared; did it hold a result? -/
  | cleared (lost : Bool)
  /-- The result of a request was posted; was the mailbox full? -/
  | posted (n : Nat) (refused : Bool)
  /-- The notification for a request was raised. -/
  | notified (n : Nat)
  /-- The callback of request `owner` was called with the result of request `n`. -/
  | replied (owner n : Nat) (reply : α)
  /-- A notification found the mailbox empty. -/
  | mailboxEmpty
  /-- A notification found no request. -/
  | noRequest
  /-- A notification found no callback. -/
  | noCallback
  deriving DecidableEq, Repr

namespace Event

/-- Was a result posted for request `n`? -/
def isPosted (n : Nat) : Event α → Bool
  | posted m _ => m = n
  | _ => false

/-- Was a notification raised for request `n`? -/
def isNotified (n : Nat) : Event α → Bool
  | notified m => m = n
  | _ => false

/-- Was the callback of request `n` called? -/
def isReplyTo (n : Nat) : Event α → Bool
  | replied m _ _ => m = n
  | _ => false

/-- The event is one that may happen: nothing is refused, lost or missing, and a
callback is called with its own result. -/
def Proper : Event α → Prop
  | cleared lost => lost = false
  | posted _ refused => refused = false
  | replied owner n _ => owner = n
  | mailboxEmpty => False
  | noRequest => False
  | noCallback => False
  | _ => True

end Event

/-- **Exactly once.** For every request at most one post, one notification and one
reply; the post before the notification; never a full mailbox, a lost result, an
empty mailbox or a missing request; and no callback called for another request. -/
structure ExactlyOnce (log : List (Event α)) : Prop where
  postedOnce : ∀ n, log.countP (Event.isPosted n) ≤ 1
  notifiedOnce : ∀ n, log.countP (Event.isNotified n) ≤ 1
  postedFirst : ∀ n pre post, log = pre ++ .notified n :: post → .posted n false ∈ pre
  neverRefused : ∀ n, .posted n true ∉ log
  nothingLost : .cleared true ∉ log
  mailboxNeverEmpty : .mailboxEmpty ∉ log
  alwaysRequested : .noRequest ∉ log
  repliedOnce : ∀ n, log.countP (Event.isReplyTo n) ≤ 1
  ownReply : ∀ owner n reply, .replied owner n reply ∈ log → owner = n

/-! ### The life of a request -/

/-- Where the last accepted request stands; before the first one the server is free. -/
inductive Phase
  | free
  | running
  | posted
  | notified
  deriving DecidableEq, Repr

/-- The logs of a well-behaved server. -/
inductive Lifecycle : List (Event α) → Phase → Nat → Prop
  | start : Lifecycle [] .free 0
  | accept {log : List (Event α)} {k : Nat} : Lifecycle log .free k →
      Lifecycle (log ++ [.accepted (k + 1)]) .running (k + 1)
  | clear {log : List (Event α)} {k : Nat} : Lifecycle log .running k →
      Lifecycle (log ++ [.cleared false]) .running k
  | reject {log : List (Event α)} {p : Phase} {k : Nat} (reply : α) : Lifecycle log p k →
      Lifecycle (log ++ [.rejected reply]) p k
  | post {log : List (Event α)} {k : Nat} : Lifecycle log .running k →
      Lifecycle (log ++ [.posted k false]) .posted k
  | notify {log : List (Event α)} {k : Nat} : Lifecycle log .posted k →
      Lifecycle (log ++ [.notified k]) .notified k
  | reply {log : List (Event α)} {k : Nat} (reply : α) : Lifecycle log .notified k →
      Lifecycle (log ++ [.replied k k reply]) .free k

/-! ### Budgets

How often something may have happened for request `n` when `k` requests have been
accepted: once for the earlier ones, `own` times for the last, never for later ones. -/

/-- The bound for request `n`. -/
def budget (k own n : Nat) : Nat := if n < k then 1 else if n = k then own else 0

theorem budget_le_one {own : Nat} (h : own ≤ 1) (k n : Nat) : budget k own n ≤ 1 := by
  unfold budget
  split
  · exact Nat.le_refl 1
  · split
    · exact h
    · exact Nat.zero_le 1

/-- Accepting a request opens its budget. -/
theorem budget_accept (k n : Nat) : budget k 1 n = budget (k + 1) 0 n := by
  rcases Nat.lt_trichotomy n k with hlt | rfl | hgt
  · simp [budget, hlt, Nat.lt_succ_of_lt hlt]
  · simp [budget]
  · have hne : ¬ n < k := by omega
    have hne' : ¬ n < k + 1 := by omega
    simp [budget, hne, hne', Nat.ne_of_gt hgt]

/-- Spending the budget of the last request. -/
theorem budget_spend (k n : Nat) : budget k 0 n + (if k = n then 1 else 0) = budget k 1 n := by
  rcases Nat.lt_trichotomy n k with hlt | rfl | hgt
  · simp [budget, hlt, Nat.ne_of_gt hlt]
  · simp [budget]
  · have hne : ¬ n < k := by omega
    simp [budget, hne, Nat.ne_of_gt hgt, Nat.ne_of_lt hgt]

/-- How many posts, notifications and replies the last request has had. -/
def Phase.posts : Phase → Nat
  | .running => 0
  | _ => 1

def Phase.notifications : Phase → Nat
  | .running => 0
  | .posted => 0
  | _ => 1

def Phase.replies : Phase → Nat
  | .free => 1
  | _ => 0

/-- The tally of a log in a phase. -/
structure Tally (log : List (Event α)) (p : Phase) (k : Nat) : Prop where
  posts : ∀ n, log.countP (Event.isPosted n) ≤ budget k p.posts n
  notifications : ∀ n, log.countP (Event.isNotified n) ≤ budget k p.notifications n
  replies : ∀ n, log.countP (Event.isReplyTo n) ≤ budget k p.replies n
  hasPost : p = .posted → .posted k false ∈ log
  proper : ∀ e ∈ log, e.Proper
  postedFirst : ∀ n pre post, log = pre ++ .notified n :: post → .posted n false ∈ pre

section Append

variable {log : List (Event α)} {e : Event α}

theorem proper_concat (h : ∀ a ∈ log, a.Proper) (he : e.Proper) : ∀ a ∈ log ++ [e], a.Proper := by
  intro a ha
  rcases List.mem_append.mp ha with hlog | hlast
  · exact h a hlog
  · obtain rfl := List.mem_singleton.mp hlast
    exact he

/-- The order of posts and notifications survives an event, provided a notification
finds its post in the log. -/
theorem postedFirst_concat
    (h : ∀ n pre post, log = pre ++ .notified n :: post → .posted n false ∈ pre)
    (he : ∀ n, e = .notified n → .posted n false ∈ log) :
    ∀ n pre post, log ++ [e] = pre ++ .notified n :: post → .posted n false ∈ pre := by
  intro n pre post heq
  rcases List.eq_nil_or_concat post with rfl | ⟨post', last, rfl⟩
  · -- the notification is the new event
    obtain ⟨rfl, hlast⟩ := List.append_inj' heq rfl
    exact he n (List.cons.inj hlast).1
  · rw [List.concat_eq_append, ← List.cons_append, ← List.append_assoc] at heq
    obtain ⟨hlog, -⟩ := List.append_inj' heq rfl
    exact h n pre post' hlog

end Append

/-- An event that is none of the counted ones adds nothing to a count. -/
theorem countP_concat_of_false {f : Event α → Bool} {log : List (Event α)} {e : Event α}
    (h : f e = false) : (log ++ [e]).countP f = log.countP f := by
  rw [List.countP_append, List.countP_singleton, h, if_neg Bool.false_ne_true, Nat.add_zero]

/-- So it keeps every bound on the counts. -/
theorem countP_concat_le_of_false {f : Nat → Event α → Bool} {log : List (Event α)} {e : Event α}
    {bound : Nat → Nat} (h : ∀ n, log.countP (f n) ≤ bound n) (he : ∀ n, f n e = false) (n : Nat) :
    (log ++ [e]).countP (f n) ≤ bound n := by
  rw [countP_concat_of_false (he n)]
  exact h n

/-- A counted event for the last request spends its budget. -/
theorem countP_concat_le {f : Nat → Event α → Bool} {log : List (Event α)} {e : Event α} {k : Nat}
    (h : ∀ n, log.countP (f n) ≤ budget k 0 n) (he : ∀ n, f n e = decide (k = n)) (n : Nat) :
    (log ++ [e]).countP (f n) ≤ budget k 1 n := by
  rw [List.countP_append, List.countP_singleton, he n, ← budget_spend k n]
  simp only [decide_eq_true_eq]
  exact Nat.add_le_add_right (h n) _

/-- The logs of a well-behaved server keep the tally. -/
theorem Lifecycle.tally {log : List (Event α)} {p : Phase} {k : Nat} (h : Lifecycle log p k) :
    Tally log p k := by
  induction h with
  | start =>
      refine ⟨fun n => Nat.zero_le _, fun n => Nat.zero_le _, fun n => Nat.zero_le _, nofun, nofun,
        fun n pre post heq => ?_⟩
      exact absurd heq (by simp)
  | @accept log k _ ih =>
      refine ⟨fun n => ?_, fun n => ?_, fun n => ?_, nofun, proper_concat ih.proper trivial,
        postedFirst_concat ih.postedFirst nofun⟩
      · show _ ≤ budget (k + 1) 0 n
        rw [countP_concat_of_false rfl, ← budget_accept]
        exact ih.posts n
      · show _ ≤ budget (k + 1) 0 n
        rw [countP_concat_of_false rfl, ← budget_accept]
        exact ih.notifications n
      · show _ ≤ budget (k + 1) 0 n
        rw [countP_concat_of_false rfl, ← budget_accept]
        exact ih.replies n
  | @clear log k _ ih =>
      refine ⟨?_, ?_, ?_, nofun, proper_concat ih.proper rfl,
        postedFirst_concat ih.postedFirst nofun⟩
      · exact countP_concat_le_of_false ih.posts fun _ => rfl
      · exact countP_concat_le_of_false ih.notifications fun _ => rfl
      · exact countP_concat_le_of_false ih.replies fun _ => rfl
  | @reject log p k reply _ ih =>
      refine ⟨?_, ?_, ?_, fun hp => ?_, proper_concat ih.proper trivial,
        postedFirst_concat ih.postedFirst nofun⟩
      · exact countP_concat_le_of_false ih.posts fun _ => rfl
      · exact countP_concat_le_of_false ih.notifications fun _ => rfl
      · exact countP_concat_le_of_false ih.replies fun _ => rfl
      · exact List.mem_append_left _ (ih.hasPost hp)
  | @post log k _ ih =>
      refine ⟨countP_concat_le ih.posts fun n => rfl, ?_, ?_, fun _ => ?_,
        proper_concat ih.proper rfl, postedFirst_concat ih.postedFirst nofun⟩
      · exact countP_concat_le_of_false ih.notifications fun _ => rfl
      · exact countP_concat_le_of_false ih.replies fun _ => rfl
      · exact List.mem_append_right _ (List.mem_singleton.mpr rfl)
  | @notify log k _ ih =>
      refine ⟨?_, countP_concat_le ih.notifications fun n => rfl, ?_, nofun,
        proper_concat ih.proper trivial, postedFirst_concat ih.postedFirst fun n hn => ?_⟩
      · exact countP_concat_le_of_false ih.posts fun _ => rfl
      · exact countP_concat_le_of_false ih.replies fun _ => rfl
      · obtain rfl : k = n := Event.notified.inj hn
        exact ih.hasPost rfl
  | @reply log k reply _ ih =>
      refine ⟨?_, ?_, countP_concat_le ih.replies fun n => rfl, nofun,
        proper_concat ih.proper rfl, postedFirst_concat ih.postedFirst nofun⟩
      · exact countP_concat_le_of_false ih.posts fun _ => rfl
      · exact countP_concat_le_of_false ih.notifications fun _ => rfl

theorem Phase.posts_le (p : Phase) : p.posts ≤ 1 := by cases p <;> decide

theorem Phase.notifications_le (p : Phase) : p.notifications ≤ 1 := by cases p <;> decide

theorem Phase.replies_le (p : Phase) : p.replies ≤ 1 := by cases p <;> decide

/-- A well-behaved server serves every request exactly once. -/
theorem Lifecycle.exactlyOnce {log : List (Event α)} {p : Phase} {k : Nat}
    (h : Lifecycle log p k) : ExactlyOnce log where
  postedOnce n := Nat.le_trans (h.tally.posts n) (budget_le_one p.posts_le k n)
  notifiedOnce n := Nat.le_trans (h.tally.notifications n) (budget_le_one p.notifications_le k n)
  repliedOnce n := Nat.le_trans (h.tally.replies n) (budget_le_one p.replies_le k n)
  postedFirst := h.tally.postedFirst
  neverRefused _ hmem := Bool.noConfusion (h.tally.proper _ hmem : true = false)
  nothingLost hmem := Bool.noConfusion (h.tally.proper _ hmem : true = false)
  mailboxNeverEmpty := h.tally.proper _
  alwaysRequested := h.tally.proper _
  ownReply owner n reply := h.tally.proper (.replied owner n reply)

end DaikinBridge.Lib
