import Mathlib.Data.List.Basic
import Mathlib.Data.List.Induction

/-!
# DaikinBridge.Lib.Runs

Runs of deterministic machines, and the mirrors a subscriber keeps of them.

Two kinds of machine occur. A *total* machine `step : σ → ι → σ` takes every
input in every state; a *guarded* machine `step : σ → ι → Option σ` refuses the
inputs that are not enabled (`none`). For both, a run is a list of inputs, and
what the development needs of a run comes in two forms:

* `Along step C s is` — the *condition* `C` holds at every step of the run, of
  the state before the step and of the input taken there;
* `Throughout step P s is` — the *property* `P` holds in every state the run
  passes through, the first and the last included.

`throughout_of_along` is the usual invariant rule. `throughout_iff_along` is its
exact form: when, from a state that has the property, a step keeps it *if and
only if* the condition holds there, the runs that have the property throughout
are precisely the runs that meet the condition along the way.

Nothing here refers to the bridge.
-/

namespace DaikinBridge.Lib

/-! ### Total machines -/

section Total

variable {σ ι : Type*} (step : σ → ι → σ)

/-- The state a total machine reaches from `s` on the inputs `is`. -/
def run (s : σ) (is : List ι) : σ := is.foldl step s

@[simp] theorem run_nil (s : σ) : run step s [] = s := rfl

@[simp] theorem run_cons (s : σ) (i : ι) (is : List ι) :
    run step s (i :: is) = run step (step s i) is := rfl

theorem run_append (s : σ) (is js : List ι) :
    run step s (is ++ js) = run step (run step s is) js := by
  simp [run, List.foldl_append]

@[simp] theorem run_concat (s : σ) (is : List ι) (i : ι) :
    run step s (is ++ [i]) = step (run step s is) i := by
  rw [run_append, run_cons, run_nil]

/-- The condition `C` holds at every step of the run: of the state before the
step and the input taken there. -/
def Along (C : σ → ι → Prop) : σ → List ι → Prop
  | _, [] => True
  | s, i :: is => C s i ∧ Along C (step s i) is

/-- The property `P` holds in every state the run passes through. -/
def Throughout (P : σ → Prop) (s : σ) (is : List ι) : Prop :=
  ∀ pre, pre <+: is → P (run step s pre)

variable {step}

theorem Along.mono {C D : σ → ι → Prop} (hCD : ∀ s i, C s i → D s i) {s : σ} {is : List ι}
    (h : Along step C s is) : Along step D s is := by
  induction is generalizing s with
  | nil => trivial
  | cons i is ih => exact ⟨hCD s i h.1, ih h.2⟩

/-- A condition on the inputs alone. -/
theorem along_of_forall {P : ι → Prop} {s : σ} {is : List ι} (hP : ∀ i ∈ is, P i) :
    Along step (fun _ i => P i) s is := by
  induction is generalizing s with
  | nil => trivial
  | cons i is ih =>
      obtain ⟨hi, his⟩ := List.forall_mem_cons.mp hP
      exact ⟨hi, ih his⟩

/-- A condition on the inputs alone, added to one along the run. -/
theorem Along.and_forall {C : σ → ι → Prop} {P : ι → Prop} {s : σ} {is : List ι}
    (hP : ∀ i ∈ is, P i) (h : Along step C s is) :
    Along step (fun s i => P i ∧ C s i) s is := by
  induction is generalizing s with
  | nil => trivial
  | cons i is ih =>
      obtain ⟨hi, his⟩ := List.forall_mem_cons.mp hP
      exact ⟨⟨hi, h.1⟩, ih his h.2⟩

theorem along_congr {C D : σ → ι → Prop} (hCD : ∀ s i, C s i ↔ D s i) {s : σ} {is : List ι} :
    Along step C s is ↔ Along step D s is :=
  ⟨.mono fun s i => (hCD s i).mp, .mono fun s i => (hCD s i).mpr⟩

/-- Two conditions that agree in the states of an invariant, which they keep, are met by the
same runs. -/
theorem along_congr_of_invariant {I : σ → Prop} {P : ι → Prop} {C D : σ → ι → Prop}
    (hCD : ∀ s i, I s → P i → (C s i ↔ D s i))
    (hstep : ∀ s i, I s → P i → C s i → I (step s i)) {s : σ} {is : List ι} (hs : I s)
    (hP : ∀ i ∈ is, P i) : Along step C s is ↔ Along step D s is := by
  induction is generalizing s with
  | nil => exact Iff.rfl
  | cons i is ih =>
      obtain ⟨hi, his⟩ := List.forall_mem_cons.mp hP
      constructor
      · rintro ⟨hC, hrest⟩
        exact ⟨(hCD s i hs hi).mp hC, (ih (hstep s i hs hi hC) his).mp hrest⟩
      · rintro ⟨hD, hrest⟩
        have hC := (hCD s i hs hi).mpr hD
        exact ⟨hC, (ih (hstep s i hs hi hC) his).mpr hrest⟩

/-- What an invariant and a condition give at a step, they give along the run. -/
theorem Along.of_invariant {I : σ → Prop} {C D : σ → ι → Prop}
    (hstep : ∀ s i, I s → C s i → D s i ∧ I (step s i)) {s : σ} {is : List ι} (hs : I s)
    (h : Along step C s is) : Along step D s is := by
  induction is generalizing s with
  | nil => trivial
  | cons i is ih =>
      obtain ⟨hD, hnext⟩ := hstep s i hs h.1
      exact ⟨hD, ih hnext h.2⟩

theorem along_append {C : σ → ι → Prop} {s : σ} {is js : List ι} :
    Along step C s (is ++ js) ↔ Along step C s is ∧ Along step C (run step s is) js := by
  induction is generalizing s with
  | nil => simp [Along]
  | cons i is ih => simp [Along, ih, and_assoc]

theorem along_concat {C : σ → ι → Prop} {s : σ} {is : List ι} {i : ι} :
    Along step C s (is ++ [i]) ↔ Along step C s is ∧ C (run step s is) i := by
  rw [along_append]
  simp [Along]

theorem throughout_nil {P : σ → Prop} {s : σ} : Throughout step P s [] ↔ P s := by
  constructor
  · intro h
    exact h [] (List.prefix_refl [])
  · intro h pre hpre
    obtain rfl : pre = [] := List.prefix_nil.mp hpre
    exact h

theorem throughout_cons {P : σ → Prop} {s : σ} {i : ι} {is : List ι} :
    Throughout step P s (i :: is) ↔ P s ∧ Throughout step P (step s i) is := by
  constructor
  · intro h
    refine ⟨h [] (List.nil_prefix), fun pre hpre => ?_⟩
    exact h (i :: pre) (List.cons_prefix_cons.mpr ⟨rfl, hpre⟩)
  · rintro ⟨hs, ht⟩ pre hpre
    rcases List.prefix_cons_iff.mp hpre with rfl | ⟨t, rfl, htail⟩
    · exact hs
    · exact ht t htail

/-- A run that has the property throughout has it at its end. -/
theorem Throughout.last {P : σ → Prop} {s : σ} {is : List ι}
    (h : Throughout step P s is) : P (run step s is) :=
  h is (List.prefix_refl is)

theorem Throughout.mono {P Q : σ → Prop} {s : σ} {is : List ι}
    (h : Throughout step P s is) (hPQ : ∀ t, P t → Q t) : Throughout step Q s is :=
  fun pre hpre => hPQ _ (h pre hpre)

theorem throughout_congr {P Q : σ → Prop} (hPQ : ∀ t, P t ↔ Q t) {s : σ} {is : List ι} :
    Throughout step P s is ↔ Throughout step Q s is :=
  ⟨fun h => h.mono fun t => (hPQ t).mp, fun h => h.mono fun t => (hPQ t).mpr⟩

/-- **Invariant rule.** A property that holds at the start, and that every step
meeting the condition keeps, holds throughout. -/
theorem throughout_of_along {I : σ → Prop} {C : σ → ι → Prop}
    (hstep : ∀ s i, I s → C s i → I (step s i)) {s : σ} {is : List ι}
    (hs : I s) (hC : Along step C s is) : Throughout step I s is := by
  induction is generalizing s with
  | nil => exact throughout_nil.mpr hs
  | cons i is ih =>
      exact throughout_cons.mpr ⟨hs, ih (hstep s i hs hC.1) hC.2⟩

/-- A property that every step keeps holds throughout. -/
theorem throughout_of_step {I : σ → Prop} (hstep : ∀ s i, I s → I (step s i)) {s : σ}
    {is : List ι} (hs : I s) : Throughout step I s is := by
  induction is generalizing s with
  | nil => exact throughout_nil.mpr hs
  | cons i is ih => exact throughout_cons.mpr ⟨hs, ih (hstep s i hs)⟩

/-- What holds of every state of a run holds at each of its steps, of the state
before and of the state after. -/
theorem Throughout.along {P : σ → Prop} {C : σ → ι → Prop}
    (hC : ∀ s i, P s → P (step s i) → C s i) {s : σ} {is : List ι}
    (h : Throughout step P s is) : Along step C s is := by
  induction is generalizing s with
  | nil => trivial
  | cons i is ih =>
      obtain ⟨hs, htail⟩ := throughout_cons.mp h
      exact ⟨hC s i hs (htail [] List.nil_prefix), ih htail⟩

/-- **Exact invariant rule.** When the condition is exactly what a step needs to
keep the property, the runs that have it throughout are the runs that meet the
condition along the way. -/
theorem throughout_iff_along {I : σ → Prop} {C : σ → ι → Prop}
    (hstep : ∀ s i, I s → (I (step s i) ↔ C s i)) {s : σ} {is : List ι} (hs : I s) :
    Throughout step I s is ↔ Along step C s is := by
  induction is generalizing s with
  | nil => exact iff_of_true (throughout_nil.mpr hs) trivial
  | cons i is ih =>
      rw [throughout_cons]
      constructor
      · rintro ⟨-, ht⟩
        have hnext : I (step s i) := ht [] List.nil_prefix
        exact ⟨(hstep s i hs).mp hnext, (ih hnext).mp ht⟩
      · rintro ⟨hC, hrest⟩
        exact ⟨hs, (ih ((hstep s i hs).mpr hC)).mpr hrest⟩

/-! ### Views that inputs set

Some inputs carry a report, and a view of the state shows the latest one. -/

/-- The latest report of a run. -/
def latest {β : Type*} (report : ι → Option β) (is : List ι) : Option β :=
  (is.filterMap report).getLast?

theorem latest_concat {β : Type*} (report : ι → Option β) (is : List ι) (i : ι) :
    latest report (is ++ [i]) = (report i).or (latest report is) := by
  unfold latest
  rw [List.filterMap_append]
  cases h : report i with
  | none => simp [h]
  | some b => simp [h]

/-- Inputs without a report can be left out. -/
theorem latest_filter {β : Type*} {report : ι → Option β} {p : ι → Bool}
    (h : ∀ i, p i = false → report i = none) (is : List ι) :
    latest report (is.filter p) = latest report is := by
  unfold latest
  rw [List.filterMap_filter]
  congr 2
  funext i
  cases hi : p i with
  | true => rfl
  | false => rw [h i hi]; rfl

/-- The latest report was brought by an input of the run. -/
theorem exists_mem_of_latest {β : Type*} {report : ι → Option β} {is : List ι} {b : β}
    (h : latest report is = some b) : ∃ i ∈ is, report i = some b :=
  List.mem_filterMap.mp (List.mem_of_getLast? h)

/-- Where the latest report has a part of interest, that part is the latest of its kind. -/
theorem latest_bind {β γ : Type*} {report : ι → Option β} {part : β → Option γ} {is : List ι}
    {b : β} {c : γ} (h : latest report is = some b) (hpart : part b = some c) :
    latest (fun i => (report i).bind part) is = some c := by
  induction is using List.reverseRecOn with
  | nil => cases h
  | append_singleton is i ih =>
      rw [latest_concat] at h ⊢
      cases hi : report i with
      | none =>
          rw [hi, Option.none_or] at h
          rw [Option.bind_none, Option.none_or]
          exact ih h
      | some b' =>
          rw [hi, Option.some_or, Option.some.injEq] at h
          rw [Option.bind_some, h, hpart, Option.some_or]

/-- **Latest report.** A view that every input either sets from its report or leaves
alone shows the latest report of the run, or the view of the start if there is none. -/
theorem run_view {α β : Type*} (view : σ → α) (report : ι → Option β) (f : β → α)
    (hstep : ∀ s i, view (step s i) = ((report i).map f).getD (view s)) (s : σ) (is : List ι) :
    view (run step s is) = ((latest report is).map f).getD (view s) := by
  induction is using List.reverseRecOn with
  | nil => rfl
  | append_singleton is i ih =>
      rw [run_concat, hstep, latest_concat, ih]
      cases report i with
      | none => rfl
      | some b => rfl

/-! ### Inputs without influence

Some inputs are *hidden*. They have no influence when what is seen of the machine does
not tell whether, where and which hidden inputs a run contains. -/

/-- What the other inputs of a run show. -/
def shown {ω : Type*} (step : σ → ι → σ) (hidden : ι → Bool) (display : σ → ι → ω) :
    σ → List ι → List ω
  | _, [] => []
  | s, i :: is =>
      if hidden i then shown step hidden display (step s i) is
      else display s i :: shown step hidden display (step s i) is

/-- **Unwinding.** Let a view of the state be left alone by hidden inputs, and determine
what the others show and the view after them. Then a run shows what it shows without its
hidden inputs, from any start with the same view, and ends with the same view. -/
theorem shown_eq_filter {ω ν : Type*} {hidden : ι → Bool} {display : σ → ι → ω} {view : σ → ν}
    (hhidden : ∀ s i, hidden i = true → view (step s i) = view s)
    (hopen : ∀ s t i, hidden i = false → view s = view t →
      display s i = display t i ∧ view (step s i) = view (step t i))
    {s t : σ} (hview : view s = view t) (is : List ι) :
    shown step hidden display s is = shown step hidden display t (is.filter fun i => !hidden i) ∧
      view (run step s is) = view (run step t (is.filter fun i => !hidden i)) := by
  induction is generalizing s t with
  | nil => exact ⟨rfl, hview⟩
  | cons i is ih =>
      cases hi : hidden i with
      | true =>
          obtain ⟨hshown, hlast⟩ := ih ((hhidden s i hi).trans hview)
          rw [List.filter_cons_of_neg (by simp [hi]), shown, if_pos hi]
          exact ⟨hshown, hlast⟩
      | false =>
          obtain ⟨hshow, hnext⟩ := hopen s t i hi hview
          obtain ⟨hshown, hlast⟩ := ih hnext
          rw [List.filter_cons_of_pos (by simp [hi]), shown, shown, hi, if_neg Bool.false_ne_true,
            if_neg Bool.false_ne_true, hshow, hshown]
          exact ⟨rfl, hlast⟩

/-- Two runs that differ only in their hidden inputs show the same. -/
theorem shown_congr {ω ν : Type*} {hidden : ι → Bool} {display : σ → ι → ω} {view : σ → ν}
    (hhidden : ∀ s i, hidden i = true → view (step s i) = view s)
    (hopen : ∀ s t i, hidden i = false → view s = view t →
      display s i = display t i ∧ view (step s i) = view (step t i))
    (s : σ) {is js : List ι}
    (h : (is.filter fun i => !hidden i) = js.filter fun i => !hidden i) :
    shown step hidden display s is = shown step hidden display s js ∧
      view (run step s is) = view (run step s js) := by
  obtain ⟨hshown, hlast⟩ := shown_eq_filter hhidden hopen (rfl : view s = view s) is
  obtain ⟨hshown', hlast'⟩ := shown_eq_filter hhidden hopen (rfl : view s = view s) js
  rw [h] at hshown hlast
  exact ⟨hshown.trans hshown'.symm, hlast.trans hlast'.symm⟩

end Total

/-! ### Guarded machines -/

section Guarded

variable {σ ι : Type*} (step : σ → ι → Option σ)

/-- The state a guarded machine reaches from `s` on the inputs `is`; `none` as
soon as an input is not enabled. -/
def runGuarded (s : σ) : List ι → Option σ
  | [] => some s
  | i :: is => (step s i).bind fun t => runGuarded t is

/-- The condition `C` holds at every enabled step of the run. -/
def AlongGuarded (C : σ → ι → Prop) : σ → List ι → Prop
  | _, [] => True
  | s, i :: is => C s i ∧ ∀ t, step s i = some t → AlongGuarded C t is

variable {step}

@[simp] theorem runGuarded_nil {s : σ} : runGuarded step s [] = some s := rfl

theorem runGuarded_cons_eq_some {s u : σ} {i : ι} {is : List ι} :
    runGuarded step s (i :: is) = some u ↔
      ∃ t, step s i = some t ∧ runGuarded step t is = some u := by
  rw [runGuarded, Option.bind_eq_some_iff]

theorem runGuarded_append_eq_some {s u : σ} {is js : List ι} :
    runGuarded step s (is ++ js) = some u ↔
      ∃ t, runGuarded step s is = some t ∧ runGuarded step t js = some u := by
  induction is generalizing s with
  | nil => simp
  | cons i is ih =>
      simp only [List.cons_append, runGuarded_cons_eq_some, ih]
      constructor
      · rintro ⟨t, hst, v, htv, hvu⟩
        exact ⟨v, ⟨t, hst, htv⟩, hvu⟩
      · rintro ⟨v, ⟨t, hst, htv⟩, hvu⟩
        exact ⟨t, hst, v, htv, hvu⟩

theorem AlongGuarded.cons {C : σ → ι → Prop} {s t : σ} {i : ι} {is : List ι} (hC : C s i)
    (hstep : step s i = some t) (h : AlongGuarded step C t is) :
    AlongGuarded step C s (i :: is) := by
  refine ⟨hC, fun u hu => ?_⟩
  obtain rfl : t = u := Option.some.inj (hstep.symm.trans hu)
  exact h

/-- A condition that the inputs meet in every state. -/
theorem alongGuarded_of_forall {C : σ → ι → Prop} {s : σ} {is : List ι}
    (hC : ∀ i ∈ is, ∀ t, C t i) : AlongGuarded step C s is := by
  induction is generalizing s with
  | nil => trivial
  | cons i is ih =>
      obtain ⟨hi, his⟩ := List.forall_mem_cons.mp hC
      exact ⟨hi s, fun t _ => ih his⟩

/-- The invariant rule for guarded machines. -/
theorem runGuarded_invariant {I : σ → Prop} {C : σ → ι → Prop}
    (hstep : ∀ s i t, I s → C s i → step s i = some t → I t) {s u : σ} {is : List ι}
    (hs : I s) (hC : AlongGuarded step C s is) (hrun : runGuarded step s is = some u) : I u := by
  induction is generalizing s with
  | nil =>
      obtain rfl : s = u := by simpa using hrun
      exact hs
  | cons i is ih =>
      obtain ⟨t, hst, htu⟩ := runGuarded_cons_eq_some.mp hrun
      exact ih (hstep s i t hs hC.1 hst) (hC.2 t hst) htu

/-- What every enabled step keeps, a run keeps. -/
theorem runGuarded_of_step {I : σ → Prop} (hstep : ∀ s i t, I s → step s i = some t → I t)
    {s u : σ} {is : List ι} (hs : I s) (hrun : runGuarded step s is = some u) : I u := by
  induction is generalizing s with
  | nil =>
      obtain rfl : s = u := by simpa using hrun
      exact hs
  | cons i is ih =>
      obtain ⟨t, hst, htu⟩ := runGuarded_cons_eq_some.mp hrun
      exact ih (hstep s i t hs hst) htu

/-- The property `P` holds in every state the run passes through. -/
def ThroughoutGuarded (step : σ → ι → Option σ) (P : σ → Prop) (s : σ) (is : List ι) : Prop :=
  ∀ pre t, pre <+: is → runGuarded step s pre = some t → P t

theorem ThroughoutGuarded.last {P : σ → Prop} {s t : σ} {is : List ι}
    (h : ThroughoutGuarded step P s is) (hrun : runGuarded step s is = some t) : P t :=
  h is t (List.prefix_refl is) hrun

theorem throughoutGuarded_cons {P : σ → Prop} {s : σ} {i : ι} {is : List ι} :
    ThroughoutGuarded step P s (i :: is) ↔
      P s ∧ ∀ t, step s i = some t → ThroughoutGuarded step P t is := by
  constructor
  · intro h
    refine ⟨h [] s List.nil_prefix rfl, fun t hst pre u hpre hrun => ?_⟩
    exact h (i :: pre) u (List.cons_prefix_cons.mpr ⟨rfl, hpre⟩)
      (runGuarded_cons_eq_some.mpr ⟨t, hst, hrun⟩)
  · rintro ⟨hs, ht⟩ pre u hpre hrun
    rcases List.prefix_cons_iff.mp hpre with rfl | ⟨rest, rfl, hrest⟩
    · obtain rfl : s = u := by simpa using hrun
      exact hs
    · obtain ⟨t, hst, htu⟩ := runGuarded_cons_eq_some.mp hrun
      exact ht t hst rest u hrest htu

/-- **Exact invariant rule for guarded machines.** When, in the states of an invariant `I`,
the condition is exactly what an enabled step needs to keep the property, the runs that have
it throughout are the runs that meet the condition along the way. -/
theorem throughoutGuarded_iff_along {I P : σ → Prop} {C : σ → ι → Prop}
    (hI : ∀ s i t, I s → step s i = some t → I t)
    (hstep : ∀ s i t, I s → P s → step s i = some t → (P t ↔ C s i))
    (hoff : ∀ s i, step s i = none → C s i) {s : σ} {is : List ι} (hs : I s) (hP : P s) :
    ThroughoutGuarded step P s is ↔ AlongGuarded step C s is := by
  induction is generalizing s with
  | nil =>
      refine iff_of_true (fun pre t hpre hrun => ?_) trivial
      obtain rfl := List.prefix_nil.mp hpre
      obtain rfl : s = t := by simpa using hrun
      exact hP
  | cons i is ih =>
      rw [throughoutGuarded_cons]
      cases hst : step s i with
      | none =>
          refine iff_of_true ⟨hP, nofun⟩ ⟨hoff s i hst, fun t ht => ?_⟩
          rw [hst] at ht
          cases ht
      | some t =>
          have hkeep := hstep s i t hs hP hst
          have hnext := hI s i t hs hst
          constructor
          · rintro ⟨-, hthrough⟩
            have hPt : P t := hthrough t rfl [] t List.nil_prefix rfl
            refine ⟨hkeep.mp hPt, fun u hu => ?_⟩
            obtain rfl : t = u := Option.some.inj (hst.symm.trans hu)
            exact (ih hnext hPt).mp (hthrough t rfl)
          · rintro ⟨hC, hrest⟩
            refine ⟨hP, fun u hu => ?_⟩
            obtain rfl : t = u := Option.some.inj hu
            exact (ih hnext (hkeep.mpr hC)).mpr (hrest t hst)

/-- **Turning point.** Let a run start where `I` holds, let `I` last until an input marked
as a turning point, let that input establish `J`, and let every step keep `J`. Then a run
that passes a turning point ends where `J` holds. -/
theorem runGuarded_turn {I J : σ → Prop} {turns : ι → Bool}
    (hI : ∀ s i t, I s → turns i = false → step s i = some t → I t)
    (hturn : ∀ s i t, I s → turns i = true → step s i = some t → J t)
    (hJ : ∀ s i t, J s → step s i = some t → J t)
    {s u : σ} {is : List ι} (hs : I s) (hany : is.any turns = true)
    (hrun : runGuarded step s is = some u) : J u := by
  induction is generalizing s with
  | nil => cases hany
  | cons i is ih =>
      obtain ⟨t, hst, htu⟩ := runGuarded_cons_eq_some.mp hrun
      cases hi : turns i with
      | true => exact runGuarded_of_step hJ (hturn s i t hs hi hst) htu
      | false =>
          rw [List.any_cons, hi, Bool.false_or] at hany
          exact ih (hI s i t hs hi hst) hany htu

end Guarded

/-! ### Mirrors

A subscriber holds a copy of a family of attribute values and replaces only the
attributes it is told about. -/

section Mirror

variable {A : Type*} [DecidableEq A] {V : A → Type*}

/-- Replace the mirrored values of the reported attributes by the current ones. -/
def refresh (reported : List A) (current mirror : ∀ a, V a) : ∀ a, V a :=
  fun a => if a ∈ reported then current a else mirror a

/-- A refreshed mirror is exact if and only if every attribute that went
unreported was already exact. -/
theorem refresh_eq_iff {reported : List A} {current mirror : ∀ a, V a} :
    refresh reported current mirror = current ↔ ∀ a, a ∉ reported → mirror a = current a := by
  constructor
  · intro h a ha
    have hval := congrFun h a
    rwa [refresh, if_neg ha] at hval
  · intro h
    funext a
    by_cases ha : a ∈ reported
    · rw [refresh, if_pos ha]
    · rw [refresh, if_neg ha]
      exact h a ha

end Mirror

end DaikinBridge.Lib
