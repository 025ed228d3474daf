import DaikinBridge.Sync.Wishes
import DaikinBridge.Lib.Midpoint

/-!
# DaikinBridge.Sync.Bundles

Bundles of intents (`Reconciler::applyIntentBundle`).

A bundle is its intents one after the other, with one exception: in Auto, a heat and a cool
edge in one bundle are taken together, and the centre is set to their midpoint before the other
intents are applied. `bundle_spec` states both cases in terms of `applyIntent`, the last of the
heat and cool values, and the list without them.

The second case rests on two facts: lists of intents that write no setpoint leave
the Auto setpoint alone (`autoSetpoint_applyIntents`), and the midpoint of two values that are a
band apart has exactly them as its edges (`Lib.edges_of_midpoint`).
-/

namespace DaikinBridge.Sync.Reconciler

/-! ### The edges of a bundle -/

/-- The value of a heat-edge write. -/
def heatEdge : WriteIntent → Option Int16
  | .setOccupiedHeatingSetpoint value => some value
  | _ => none

/-- The value of a cool-edge write. -/
def coolEdge : WriteIntent → Option Int16
  | .setOccupiedCoolingSetpoint value => some value
  | _ => none

theorem lastHeat_eq (intents : List WriteIntent) :
    lastHeat intents = Lib.latest heatEdge intents := by
  refine (Lib.run_view id heatEdge some ?_ none intents).trans ?_
  · intro last i
    cases i <;> rfl
  · cases Lib.latest heatEdge intents <;> rfl

theorem lastCool_eq (intents : List WriteIntent) :
    lastCool intents = Lib.latest coolEdge intents := by
  refine (Lib.run_view id coolEdge some ?_ none intents).trans ?_
  · intro last i
    cases i <;> rfl
  · cases Lib.latest coolEdge intents <;> rfl

/-- The bundle without its setpoint writes. -/
def withoutEdges (intents : List WriteIntent) : List WriteIntent :=
  intents.filter fun i => (heatEdge i).isNone && (coolEdge i).isNone

theorem withoutEdges_eq (intents : List WriteIntent) :
    withoutEdges intents = intents.filter fun i => !isSetpointEdge i := by
  unfold withoutEdges
  congr 1
  funext i
  cases i <;> rfl

/-! ### The two cases -/

section Cases

variable (r : Reconciler) (now : Int)

/-- The intents applied one by one. -/
def applyIntents (intents : List WriteIntent) : Reconciler :=
  intents.foldl (fun acc i => (acc.applyIntent now i).1) r

/-- Set the desired centre, if the guard window admits it. -/
def moveCentre (centre : Int16) : Reconciler :=
  if r.admitsCentre now centre then
    { r with state := { r.state with autoSetpoint := r.state.autoSetpoint.setDesired centre } }
  else r

/-- Does the bundle hold a pair of edges to be taken together? -/
def EdgePair (intents : List WriteIntent) : Prop :=
  r.state.mode.observed = .auto ∧ (∃ v, .setOccupiedHeatingSetpoint v ∈ intents) ∧
    ∃ v, .setOccupiedCoolingSetpoint v ∈ intents

theorem lastHeat_eq_none_iff {intents : List WriteIntent} :
    lastHeat intents = none ↔ ¬ ∃ v, .setOccupiedHeatingSetpoint v ∈ intents := by
  rw [lastHeat_eq, Lib.latest, List.getLast?_eq_none_iff, List.filterMap_eq_nil_iff]
  constructor
  · rintro h ⟨v, hv⟩
    exact absurd (h _ hv) (by simp [heatEdge])
  · intro h i hi
    cases i with
    | setOccupiedHeatingSetpoint v => exact absurd ⟨v, hi⟩ h
    | _ => rfl

theorem lastCool_eq_none_iff {intents : List WriteIntent} :
    lastCool intents = none ↔ ¬ ∃ v, .setOccupiedCoolingSetpoint v ∈ intents := by
  rw [lastCool_eq, Lib.latest, List.getLast?_eq_none_iff, List.filterMap_eq_nil_iff]
  constructor
  · rintro h ⟨v, hv⟩
    exact absurd (h _ hv) (by simp [coolEdge])
  · intro h i hi
    cases i with
    | setOccupiedCoolingSetpoint v => exact absurd ⟨v, hi⟩ h
    | _ => rfl

/-- Without a pair of edges, a bundle is its intents one by one. -/
theorem applyBundle_of_no_pair {intents : List WriteIntent} (h : ¬ r.EdgePair intents) :
    r.applyBundle now intents = r.applyIntents now intents := by
  unfold applyBundle
  cases hheat : lastHeat intents with
  | none => rfl
  | some heat =>
      cases hcool : lastCool intents with
      | none => rfl
      | some cool =>
          refine if_neg fun hauto => h ⟨hauto, ?_, ?_⟩
          · by_contra hnone
            rw [lastHeat_eq_none_iff.mpr hnone] at hheat
            cases hheat
          · by_contra hnone
            rw [lastCool_eq_none_iff.mpr hnone] at hcool
            cases hcool

/-- With one, the centre is moved first, and the rest follows. -/
theorem applyBundle_of_pair {intents : List WriteIntent} {heat cool : Int16}
    (hauto : r.state.mode.observed = .auto)
    (hheat : Lib.latest heatEdge intents = some heat)
    (hcool : Lib.latest coolEdge intents = some cool) :
    r.applyBundle now intents =
      (r.moveCentre now (Int16.ofInt ((heat.toInt + cool.toInt).tdiv 2))).applyIntents now
        (withoutEdges intents) := by
  rw [← lastHeat_eq] at hheat
  rw [← lastCool_eq] at hcool
  simp only [applyBundle, hheat, hcool, if_pos hauto, withoutEdges_eq]
  rfl

/-- Intents that write no setpoint leave the Auto setpoint alone. -/
theorem autoSetpoint_apply {i : WriteIntent} (h : isSetpointEdge i = false) :
    (r.apply now i).state.autoSetpoint = r.state.autoSetpoint := by
  have hwish : (r.wish now r.state.wishes i).autoSetpoint = r.state.autoSetpoint.desired := by
    have hfan : ∀ f, (r.wishFan now r.state.wishes f).autoSetpoint =
        r.state.autoSetpoint.desired := by
      intro f
      unfold wishFan
      split <;> rfl
    cases i with
    | setOnOff value =>
        simp only [wish]
        split <;> rfl
    | setSystemMode power mode => rfl
    | setOccupiedHeatingSetpoint value => cases h
    | setOccupiedCoolingSetpoint value => cases h
    | setSpeedSetting value => exact hfan value
    | setPercentSetting value =>
        cases value with
        | none => rfl
        | some percent => exact hfan _
  rw [state_apply]
  show r.state.autoSetpoint.setDesired _ = _
  rw [hwish, TwinField.setDesired_self]

theorem autoSetpoint_applyIntents {intents : List WriteIntent}
    (h : ∀ i ∈ intents, isSetpointEdge i = false) :
    (r.applyIntents now intents).state.autoSetpoint = r.state.autoSetpoint := by
  induction intents generalizing r with
  | nil => rfl
  | cons i intents ih =>
      obtain ⟨hi, hrest⟩ := List.forall_mem_cons.mp h
      exact (ih (r.apply now i) hrest).trans (autoSetpoint_apply r now hi)

theorem edgeFree_withoutEdges (intents : List WriteIntent) :
    ∀ i ∈ withoutEdges intents, isSetpointEdge i = false := by
  intro i hi
  rw [withoutEdges_eq] at hi
  simpa using (List.mem_filter.mp hi).2

end Cases

/-- The edges of a centre set to the midpoint of two values that are a band apart. -/
theorem edges_of_collapse {cfg : ProjectorConfig} {s : LogicalACState} {heat cool : Int16}
    (hcentre : s.autoSetpoint.desired = Int16.ofInt ((heat.toInt + cool.toInt).tdiv 2))
    (hmode : Projector.projectedMode s = .auto) (hfly : s.autoSetpoint.inFlight = none)
    (hwidth : cool.toInt - heat.toInt = 2 * cfg.autoBandHalfWidthCentiC.toInt) :
    Projector.projectedOccupiedHeatingSetpoint cfg s = heat ∧
      Projector.projectedOccupiedCoolingSetpoint cfg s = cool := by
  have hmode' : projectedValue s.mode = .auto := hmode
  have hshown : projectedValue s.autoSetpoint =
      Int16.ofInt ((heat.toInt + cool.toInt).tdiv 2) := by
    simp [projectedValue, hfly, hcentre]
  unfold Projector.projectedOccupiedHeatingSetpoint Projector.projectedOccupiedCoolingSetpoint
  rw [if_pos hmode', if_pos hmode', hshown]
  exact Lib.edges_of_midpoint hwidth

/-- **Bundles.** Outside Auto, or without both a heat and a cool write, a bundle is its intents
applied one by one, and it reports the difference of the first and the last projection. In Auto
with both, it sets the centre to the midpoint of the last two, if the guard window admits that,
and applies the others one by one, wherever the setpoint writes stand; and two edges that are
a band apart are then shown as they were written, while Auto is shown and the centre is not in
flight. -/
theorem bundle_spec (r : Reconciler) (now : Int) (intents : List WriteIntent) :
    (¬ r.EdgePair intents →
      (r.applyIntentBundle now intents).1 = r.applyIntents now intents ∧
      (r.applyIntentBundle now intents).2.sendCommand =
        (r.applyIntents now intents).pendingCommand ∧
      (r.applyIntentBundle now intents).2.dirtyAttributes =
        diffProjections (Projector.project r.config.projector r.state)
          (Projector.project (r.applyIntents now intents).config.projector
            (r.applyIntents now intents).state)) ∧
    (∀ heat cool : Int16, r.state.mode.observed = .auto →
      Lib.latest heatEdge intents = some heat → Lib.latest coolEdge intents = some cool →
      let centre := Int16.ofInt ((heat.toInt + cool.toInt).tdiv 2)
      let r' := (r.applyIntentBundle now intents).1
      r' = (r.moveCentre now centre).applyIntents now (withoutEdges intents) ∧
      (∀ intents', Lib.latest heatEdge intents' = some heat →
        Lib.latest coolEdge intents' = some cool → withoutEdges intents' = withoutEdges intents →
        (r.applyIntentBundle now intents').1 = r') ∧
      (cool.toInt - heat.toInt = 2 * r.config.projector.autoBandHalfWidthCentiC.toInt →
        r.admitsCentre now centre = true → Projector.projectedMode r'.state = .auto →
        r'.state.autoSetpoint.inFlight = none →
        Projector.projectedOccupiedHeatingSetpoint r.config.projector r'.state = heat ∧
          Projector.projectedOccupiedCoolingSetpoint r.config.projector r'.state = cool)) := by
  constructor
  · intro hpair
    have hbundle := applyBundle_of_no_pair r now hpair
    refine ⟨hbundle, congrArg pendingCommand hbundle, ?_⟩
    rw [← hbundle]
    rfl
  · intro heat cool hauto hheat hcool
    have hbundle := applyBundle_of_pair r now hauto hheat hcool
    refine ⟨hbundle, ?_, ?_⟩
    · intro intents' hheat' hcool' hothers
      have hbundle' := applyBundle_of_pair r now hauto hheat' hcool'
      rw [hothers] at hbundle'
      exact hbundle'.trans hbundle.symm
    · intro hwidth hadmits hmode hfly
      refine edges_of_collapse ?_ hmode hfly hwidth
      show (r.applyBundle now intents).state.autoSetpoint.desired = _
      rw [hbundle, autoSetpoint_applyIntents _ _ (edgeFree_withoutEdges intents), moveCentre,
        if_pos hadmits]
      exact TwinField.setDesired_desired _ _

/-- Edges of 22 °C and 23 °C, written around a power-on, are shown as written. -/
theorem edges_around_power_on :
    let r' := (boot.applyIntentBundle 0 [.setOccupiedCoolingSetpoint 2300, .setOnOff true,
      .setOccupiedHeatingSetpoint 2200]).1
    Projector.projectedOccupiedHeatingSetpoint {} r'.state = 2200 ∧
      Projector.projectedOccupiedCoolingSetpoint {} r'.state = 2300 :=
  ((bundle_spec boot 0 _).2 2200 2300 rfl rfl rfl).2.2 (by decide) (by decide) (by decide)
    (by decide)

end DaikinBridge.Sync.Reconciler
