import DaikinBridge.Lib.Runs
import Mathlib.Data.List.Nodup

/-!
# DaikinBridge.Sync.ChangePublisher

The listener registry of the coordinator (`src/sync/change_publisher.{h,cpp}`).

A registry holds no listener twice and never more than `kMaxListeners` of them. Both are
fields of the structure: `snapshot` copies the listeners into an array of that size and
does not check again. A listener is a pointer in the source, so the calls take an
`Option`; the pump handler is a function pointer, of which only its presence matters.

`heard_once` says who is in the snapshot after any history of calls.
-/

namespace DaikinBridge.Sync

/-- The room for listeners. -/
def kMaxListeners : Nat := 4

/-- `ChangePublisher`, over the listeners `L` and the pump handlers `H`. -/
structure ChangePublisher (L H : Type) where
  listeners : List L
  pump : Option H
  nodup : listeners.Nodup
  bounded : listeners.length ≤ kMaxListeners

/-- What `Add` answers. -/
inductive ChangePublisher.Status
  | ok
  | alreadyRegistered
  | full
  | invalidArgument
  deriving DecidableEq, Repr

/-- The listeners at the time of a mutation; the array they are copied to has room for
them. -/
structure Snapshot (L : Type) where
  slots : List L
  fits : slots.length ≤ kMaxListeners

namespace ChangePublisher

variable {L H : Type}

/-- As constructed. -/
def new : ChangePublisher L H := ⟨[], none, List.nodup_nil, Nat.zero_le _⟩

/-- `SetCommandPumpHandler`: there is one, and the last one set is it. -/
def setCommandPumpHandler (p : ChangePublisher L H) (h : Option H) : ChangePublisher L H :=
  { p with pump := h }

/-- `snapshot`: the listeners there are now. -/
def snapshot (p : ChangePublisher L H) : Snapshot L := ⟨p.listeners, p.bounded⟩

/-- `Reset`: back to the constructed shape. -/
def reset (_ : ChangePublisher L H) : ChangePublisher L H := new

variable [DecidableEq L]

/-- `Add`; idempotent for the same pointer. -/
def add (p : ChangePublisher L H) : Option L → ChangePublisher L H × Status
  | none => (p, .invalidArgument)
  | some listener =>
      if hmem : listener ∈ p.listeners then (p, .alreadyRegistered)
      else if hroom : p.listeners.length < kMaxListeners then
        ({ p with
          listeners := p.listeners ++ [listener]
          nodup := by rw [← List.concat_eq_append]; exact p.nodup.concat hmem
          bounded := by rw [List.length_append]; exact hroom }, .ok)
      else (p, .full)

/-- `Remove`; a null or unknown pointer is ignored. -/
def remove (p : ChangePublisher L H) : Option L → ChangePublisher L H
  | none => p
  | some listener => { p with
      listeners := p.listeners.filter (· ≠ listener)
      nodup := p.nodup.filter _
      bounded := Nat.le_trans (List.length_filter_le _ _) p.bounded }

/-- A listener that was turned away found four others registered. -/
theorem add_full_iff (p : ChangePublisher L H) (listener : Option L) :
    (p.add listener).2 = .full ↔
      p.listeners.length = kMaxListeners ∧ ∃ l, listener = some l ∧ l ∉ p.listeners := by
  cases listener with
  | none => simp [add]
  | some l =>
      simp only [add]
      by_cases hmem : l ∈ p.listeners
      · simp [hmem]
      · by_cases hroom : p.listeners.length < kMaxListeners
        · simp [hmem, hroom, Nat.ne_of_lt hroom]
        · have hlen : p.listeners.length = kMaxListeners :=
            Nat.le_antisymm p.bounded (Nat.not_lt.mp hroom)
          simp [hmem, hlen]

/-! ### Histories of calls -/

/-- The calls that change the listeners. -/
inductive Call (L : Type)
  | add (listener : Option L)
  | remove (listener : Option L)
  | reset
  deriving DecidableEq

/-- The call takes the listener out, if it is in. -/
def Call.Drops (l : L) : Call L → Prop
  | .add _ => False
  | .remove listener => listener = some l
  | .reset => True

/-- One call. -/
def call (p : ChangePublisher L H) : Call L → ChangePublisher L H
  | .add listener => (p.add listener).1
  | .remove listener => p.remove listener
  | .reset => p.reset

/-- The listener has been added and not turned away, and has not been taken out since. -/
def Registered (H : Type) (calls : List (Call L)) (l : L) : Prop :=
  ∃ before after, calls = before ++ .add (some l) :: after ∧
    ((Lib.run call (new : ChangePublisher L H) before).add (some l)).2 ≠ .full ∧
    ∀ c ∈ after, ¬ c.Drops l

theorem mem_add_iff (p : ChangePublisher L H) (listener : Option L) (l : L) :
    l ∈ (p.add listener).1.listeners ↔
      l ∈ p.listeners ∨ (listener = some l ∧ (p.add (some l)).2 ≠ .full) := by
  cases listener with
  | none => simp [add]
  | some l' =>
      by_cases hmem : l' ∈ p.listeners
      · simp only [add, dif_pos hmem, Option.some.injEq]
        refine ⟨Or.inl, ?_⟩
        rintro (h | ⟨rfl, -⟩)
        · exact h
        · exact hmem
      · by_cases hroom : p.listeners.length < kMaxListeners
        · simp only [add, dif_neg hmem, dif_pos hroom, List.mem_append, List.mem_singleton,
            Option.some.injEq]
          refine or_congr_right ⟨?_, fun h => h.1.symm⟩
          rintro rfl
          exact ⟨rfl, by simp [hmem]⟩
        · simp only [add, dif_neg hmem, dif_neg hroom, Option.some.injEq]
          refine ⟨Or.inl, ?_⟩
          rintro (h | ⟨rfl, hfull⟩)
          · exact h
          · simp [hmem] at hfull

theorem mem_remove_iff (p : ChangePublisher L H) (listener : Option L) (l : L) :
    l ∈ (p.remove listener).listeners ↔ l ∈ p.listeners ∧ listener ≠ some l := by
  cases listener with
  | none => simp [remove]
  | some l' =>
      show l ∈ p.listeners.filter (· ≠ l') ↔ _
      rw [List.mem_filter, decide_eq_true_eq, ne_comm, ne_eq, ne_eq, Option.some.injEq]

/-- What one more call makes of it. -/
theorem registered_concat (calls : List (Call L)) (c : Call L) (l : L) :
    Registered H (calls ++ [c]) l ↔
      (Registered H calls l ∧ ¬ c.Drops l) ∨ (c = .add (some l) ∧
        ((Lib.run call (new : ChangePublisher L H) calls).add (some l)).2 ≠ .full) := by
  constructor
  · rintro ⟨before, after, heq, hstatus, hkept⟩
    rcases List.eq_nil_or_concat after with rfl | ⟨after, c', rfl⟩
    · obtain ⟨rfl, hc⟩ := List.append_inj' heq rfl
      exact Or.inr ⟨List.singleton_inj.mp hc, hstatus⟩
    · rw [List.concat_eq_append, ← List.cons_append, ← List.append_assoc] at heq
      obtain ⟨rfl, hc⟩ := List.append_inj' heq rfl
      obtain rfl := List.singleton_inj.mp hc
      refine Or.inl ⟨⟨before, after, rfl, hstatus, fun c' hmem => hkept c' ?_⟩, hkept c ?_⟩
      · simp [hmem]
      · simp
  · rintro (⟨⟨before, after, rfl, hstatus, hkept⟩, hc⟩ | ⟨rfl, hstatus⟩)
    · refine ⟨before, after ++ [c], by simp, hstatus, fun c' hmem => ?_⟩
      rcases List.mem_append.mp hmem with hmem | hmem
      · exact hkept c' hmem
      · obtain rfl := List.mem_singleton.mp hmem
        exact hc
    · exact ⟨calls, [], rfl, hstatus, nofun⟩

theorem mem_run_iff (calls : List (Call L)) (l : L) :
    l ∈ (Lib.run call (new : ChangePublisher L H) calls).listeners ↔ Registered H calls l := by
  induction calls using List.reverseRecOn with
  | nil =>
      refine iff_of_false List.not_mem_nil ?_
      rintro ⟨before, after, heq, -⟩
      simp at heq
  | append_singleton calls c ih =>
      rw [Lib.run_concat, registered_concat, ← ih]
      cases c with
      | add listener =>
          show l ∈ ((Lib.run call new calls).add listener).1.listeners ↔ _
          rw [mem_add_iff]
          simp [Call.Drops]
      | remove listener =>
          show l ∈ ((Lib.run call new calls).remove listener).listeners ↔ _
          rw [mem_remove_iff]
          simp [Call.Drops]
      | reset => simp [call, reset, new, Call.Drops]

/-- **Every listener hears a change once, or not at all.** After any history of calls, the
snapshot has at most four listeners, each of them once, and they are those that have been added
and not turned away, and neither removed nor lost to a reset since. -/
theorem heard_once (calls : List (Call L)) (l : L) :
    let slots := (Lib.run call (new : ChangePublisher L H) calls).snapshot.slots
    slots.length ≤ kMaxListeners ∧ slots.count l ≤ 1 ∧
      (slots.count l = 1 ↔ Registered H calls l) := by
  have hnodup := (Lib.run call (new : ChangePublisher L H) calls).nodup
  refine ⟨(Lib.run call new calls).bounded, List.nodup_iff_count_le_one.mp hnodup l, ?_⟩
  rw [← mem_run_iff]
  constructor
  · intro hcount
    exact List.count_pos_iff.mp (hcount ▸ Nat.one_pos)
  · exact List.count_eq_one_of_mem hnodup

end ChangePublisher

end DaikinBridge.Sync
