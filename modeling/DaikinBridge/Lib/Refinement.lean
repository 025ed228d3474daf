import DaikinBridge.Lib.Runs

/-!
# DaikinBridge.Lib.Refinement

Two levels of one design, both of them guarded machines.

A concrete machine refines an abstract one when every concrete step is matched by a run of
the abstract machine, from a related state to a related one. The run is empty where the
abstract machine does not see the step, and longer than one where the step is a coarse one.
`emitted` strings the runs of the single steps together:

* `Refines.run` — a concrete run is matched by an abstract one;
* `Refines.along` — a condition on the concrete steps that gives one on the abstract steps
  does so along the run, so that a theorem about abstract runs can be used on concrete ones.

Nothing here refers to the bridge.
-/

namespace DaikinBridge.Lib

variable {σ ι τ κ : Type*}

/-- What the abstract machine takes while the concrete one takes `is`. -/
def emitted (step : σ → ι → Option σ) (emits : σ → ι → List κ) : σ → List ι → List κ
  | _, [] => []
  | s, i :: is =>
      match step s i with
      | some t => emits s i ++ emitted step emits t is
      | none => emits s i

/-- **Refinement**, in the states of an invariant and under a condition on the steps. -/
structure Refines (step : σ → ι → Option σ) (step' : τ → κ → Option τ) (I : σ → Prop)
    (C : σ → ι → Prop) (R : σ → τ → Prop) (emits : σ → ι → List κ) : Prop where
  keeps : ∀ s i t, I s → C s i → step s i = some t → I t
  simulates : ∀ s i t a, I s → C s i → R s a → step s i = some t →
    ∃ b, runGuarded step' a (emits s i) = some b ∧ R t b

section Emitted

variable {step : σ → ι → Option σ} {emits : σ → ι → List κ} {s t u : σ} {i : ι} {is : List ι}

theorem emitted_cons (hstep : step s i = some t) :
    emitted step emits s (i :: is) = emits s i ++ emitted step emits t is := by
  simp only [emitted, hstep]

/-- What the last step adds. -/
theorem emitted_concat (hrun : runGuarded step s is = some u) :
    emitted step emits s (is ++ [i]) = emitted step emits s is ++ emits u i := by
  induction is generalizing s with
  | nil =>
      obtain rfl : s = u := by simpa using hrun
      simp only [List.nil_append, emitted]
      cases step s i <;> simp
  | cons j is ih =>
      obtain ⟨t, hst, htu⟩ := runGuarded_cons_eq_some.mp hrun
      rw [List.cons_append, emitted_cons hst, emitted_cons hst, ih htu, List.append_assoc]

/-- Where it does not depend on the state, it is read off the inputs. -/
theorem emitted_eq_flatMap {emits : ι → List κ} (hrun : runGuarded step s is = some u) :
    emitted step (fun _ => emits) s is = is.flatMap emits := by
  induction is generalizing s with
  | nil => rfl
  | cons i is ih =>
      obtain ⟨t, hst, htu⟩ := runGuarded_cons_eq_some.mp hrun
      rw [emitted_cons hst, ih htu, List.flatMap_cons]

/-- A condition on a run and one on what follows. -/
theorem AlongGuarded.append {C : σ → ι → Prop} {js : List ι} (his : AlongGuarded step C s is)
    (hjs : ∀ t, runGuarded step s is = some t → AlongGuarded step C t js) :
    AlongGuarded step C s (is ++ js) := by
  induction is generalizing s with
  | nil => exact hjs s rfl
  | cons i is ih =>
      refine ⟨his.1, fun t hst => ih (his.2 t hst) fun u hu => hjs u ?_⟩
      exact runGuarded_cons_eq_some.mpr ⟨t, hst, hu⟩

theorem AlongGuarded.left {C : σ → ι → Prop} {js : List ι}
    (h : AlongGuarded step C s (is ++ js)) : AlongGuarded step C s is := by
  induction is generalizing s with
  | nil => trivial
  | cons i is ih => exact ⟨h.1, fun t hst => ih (h.2 t hst)⟩

end Emitted

namespace Refines

variable {step : σ → ι → Option σ} {step' : τ → κ → Option τ} {I : σ → Prop}
  {C : σ → ι → Prop} {R : σ → τ → Prop} {emits : σ → ι → List κ} {s u : σ} {a : τ}
  {is : List ι}

/-- **A run is matched by a run.** -/
theorem run (h : Refines step step' I C R emits) (hs : I s) (hR : R s a)
    (hC : AlongGuarded step C s is) (hrun : runGuarded step s is = some u) :
    I u ∧ ∃ b, runGuarded step' a (emitted step emits s is) = some b ∧ R u b := by
  induction is generalizing s a with
  | nil =>
      obtain rfl : s = u := by simpa using hrun
      exact ⟨hs, a, rfl, hR⟩
  | cons i is ih =>
      obtain ⟨t, hst, htu⟩ := runGuarded_cons_eq_some.mp hrun
      obtain ⟨b, hab, hRtb⟩ := h.simulates s i t a hs hC.1 hR hst
      obtain ⟨hu, c, hbc, hRuc⟩ := ih (h.keeps s i t hs hC.1 hst) hRtb (hC.2 t hst) htu
      rw [emitted_cons hst]
      exact ⟨hu, c, runGuarded_append_eq_some.mpr ⟨b, hab, hbc⟩, hRuc⟩

/-- **A condition along the run**, in terms of the abstract machine. -/
theorem along (h : Refines step step' I C R emits) {D : σ → ι → Prop} {E : τ → κ → Prop}
    (hD : ∀ s i a, I s → C s i → R s a → D s i → AlongGuarded step' E a (emits s i))
    (hs : I s) (hR : R s a) (hC : AlongGuarded step C s is) (hDs : AlongGuarded step D s is) :
    AlongGuarded step' E a (emitted step emits s is) := by
  induction is generalizing s a with
  | nil => trivial
  | cons i is ih =>
      have hhere := hD s i a hs hC.1 hR hDs.1
      cases hst : step s i with
      | none =>
          simp only [emitted, hst]
          exact hhere
      | some t =>
          rw [emitted_cons hst]
          obtain ⟨b, hab, hRtb⟩ := h.simulates s i t a hs hC.1 hR hst
          refine hhere.append fun b' hab' => ?_
          obtain rfl : b = b' := Option.some.inj (hab.symm.trans hab')
          exact ih (h.keeps s i t hs hC.1 hst) hRtb (hC.2 t hst) (hDs.2 t hst)

end Refines

end DaikinBridge.Lib
