import DaikinBridge.Lib.Runs
import Mathlib.Data.Set.Insert
import Mathlib.Logic.Relation

/-!
# DaikinBridge.Lib.Publication

Values published by notices.

A writer changes a family of values and puts up a notice of each value it may have
changed; a reader keeps a copy of the family and, some time later, looks up what it finds
a notice of. `Board` is that in the abstract: no queues and no threads, only the values,
the copy, and the set of names a notice of which is under way.

`Board.Step` lets notices be added at any time, but taken away only with the lookup they
ask for. `Board.Exact` says that a name without a notice is copied exactly; steps keep it
(`Exact.steps`), so a board whose notices have all been dealt with is copied exactly.

A guarded machine publishes when its steps, seen through an abstraction, are steps of a
board; `runGuarded_simulates` lifts that to runs.

Nothing here refers to the bridge.
-/

namespace DaikinBridge.Lib

/-! ### Simulation -/

/-- **Forward simulation.** Let `I` be kept by the enabled steps that meet the condition
`C`, and let each of them be a step of `R` when seen through `abs`. Then a run that meets
the condition is, seen through `abs`, a sequence of steps of `R`. -/
theorem runGuarded_simulates {σ ι β : Type*} {step : σ → ι → Option σ} {R : β → β → Prop}
    (abs : σ → β) {I : σ → Prop} {C : σ → ι → Prop}
    (hsim : ∀ s i t, I s → C s i → step s i = some t → I t ∧ R (abs s) (abs t))
    {s u : σ} {is : List ι} (hs : I s) (hC : AlongGuarded step C s is)
    (hrun : runGuarded step s is = some u) :
    I u ∧ Relation.ReflTransGen R (abs s) (abs u) := by
  induction is generalizing s with
  | nil =>
      obtain rfl : s = u := by simpa using hrun
      exact ⟨hs, .refl⟩
  | cons i is ih =>
      obtain ⟨t, hst, htu⟩ := runGuarded_cons_eq_some.mp hrun
      obtain ⟨ht, hR⟩ := hsim s i t hs hC.1 hst
      obtain ⟨hu, hsteps⟩ := ih ht (hC.2 t hst) htu
      exact ⟨hu, .head hR hsteps⟩

/-! ### Boards -/

section Board

variable {A : Type*} {V : A → Type*}

/-- The published values, a reader's copy of them, and the names under notice. -/
structure Board (V : A → Type*) where
  current : ∀ a, V a
  copy : ∀ a, V a
  noticed : Set A

variable [DecidableEq A]

/-- What can happen to a board. -/
inductive Board.Step : Board V → Board V → Prop
  /-- The values change. What may have changed is under notice afterwards, and so is what
  was under notice before. -/
  | publish {b : Board V} (values : ∀ a, V a) (noticed : Set A)
      (hkept : b.noticed ⊆ noticed) (hrest : ∀ a, a ∉ noticed → values a = b.current a) :
      Step b ⟨values, b.copy, noticed⟩
  /-- The reader looks one name up, and its notice may go. -/
  | lookUp {b : Board V} (a : A) (noticed : Set A) (hkept : b.noticed ⊆ insert a noticed) :
      Step b ⟨b.current, Function.update b.copy a (b.current a), noticed⟩

/-- What is not under notice is copied exactly. -/
def Board.Exact (b : Board V) : Prop := ∀ a, a ∉ b.noticed → b.copy a = b.current a

theorem Board.Exact.step {b b' : Board V} (h : b.Exact) (hstep : Board.Step b b') : b'.Exact := by
  cases hstep with
  | publish values noticed hkept hrest =>
      intro a ha
      have hbefore : a ∉ b.noticed := fun hmem => ha (hkept hmem)
      show b.copy a = values a
      rw [hrest a ha, h a hbefore]
  | lookUp a₀ noticed hkept =>
      intro a ha
      show Function.update b.copy a₀ (b.current a₀) a = b.current a
      by_cases heq : a = a₀
      · subst heq
        exact Function.update_self a _ _
      · rw [Function.update_of_ne heq]
        refine h a fun hmem => ?_
        exact (hkept hmem).elim heq ha

/-- Whatever happens to a board, what is not under notice stays copied exactly. -/
theorem Board.Exact.steps {b b' : Board V} (h : b.Exact)
    (hsteps : Relation.ReflTransGen Board.Step b b') : b'.Exact := by
  induction hsteps with
  | refl => exact h
  | tail _ hstep ih => exact ih.step hstep

end Board

end DaikinBridge.Lib
