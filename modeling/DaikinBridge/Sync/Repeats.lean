import DaikinBridge.Sync.Intents
import DaikinBridge.Lib.Midpoint

/-!
# DaikinBridge.Sync.Repeats

Repeated intents.

A controller may send a write again. Five of the six kinds of intents, and setpoint writes
outside Auto, set values that do not depend on the desired ones, so that a second application
finds its own result and changes nothing. In Auto a setpoint write moves the centre to the
midpoint of the opposite edge and the written value, and the opposite edge goes with the
centre: a second application is a second edit. `repeat_silent_iff` says when that one is
silent too.
-/

namespace DaikinBridge.Sync.Reconciler

/-! ### The second application -/

section Again

variable (r : Reconciler) (now : Int) (i : WriteIntent)

/-- A second application of the intent changes neither a twin nor the remembered percent, and
reports nothing. -/
structure RepeatSilent : Prop where
  untouched : Untouched (r.applyIntent now i).1.state
    ((r.applyIntent now i).1.applyIntent now i).1.state
  unreported : ((r.applyIntent now i).1.applyIntent now i).2.dirtyAttributes = []

/-- The percent is remembered once. -/
theorem rememberedPercent_again :
    (r.apply now i).rememberedPercent now i = (r.apply now i).state.fanPercentSetting := by
  have hpercent : (r.apply now i).state.fanPercentSetting = r.rememberedPercent now i := by
    rw [state_apply]
    rfl
  have hjudge := SameJudge.apply r now i
  have hfan : (r.apply now i).admitsFan now = r.admitsFan now := by
    rw [admitsFan, hjudge.times, hjudge.admits now _ hjudge.views.fan, admitsFan]
  cases i with
  | setSpeedSetting value =>
      simp only [rememberedPercent, hfan, hpercent]
      split <;> rfl
  | setPercentSetting value =>
      cases value with
      | none => rfl
      | some percent =>
          simp only [rememberedPercent, hfan, hpercent]
          split <;> rfl
  | _ => rfl

/-- Whether a repeat is silent is a question about the wishes. -/
theorem repeatSilent_iff_wish :
    RepeatSilent r now i ↔
      r.wish now (r.wish now r.state.wishes i) i = r.wish now r.state.wishes i := by
  have hstate : ((r.apply now i).apply now i).state =
      (r.apply now i).state.withWishes (r.wish now (r.wish now r.state.wishes i) i)
        (r.apply now i).state.fanPercentSetting := by
    rw [state_apply (r.apply now i), (SameJudge.apply r now i).wish now, wishes_apply,
      rememberedPercent_again]
  constructor
  · intro h
    have huntouched : Untouched (r.apply now i).state ((r.apply now i).apply now i).state :=
      h.untouched
    rw [hstate] at huntouched
    rw [← (untouched_withWishes_iff.mp huntouched).1, wishes_apply]
  · intro h
    rw [h, ← wishes_apply, LogicalACState.withWishes_self] at hstate
    constructor
    · show Untouched (r.apply now i).state ((r.apply now i).apply now i).state
      rw [hstate]
      exact ⟨⟨rfl, rfl, rfl, rfl, rfl, rfl⟩, rfl⟩
    · show diffProjections (Projector.project r.config.projector (r.apply now i).state)
        (Projector.project r.config.projector ((r.apply now i).apply now i).state) = []
      rw [hstate]
      exact diffProjections_eq_nil_iff.mpr rfl

end Again

/-! ### Which wishes repeat -/

section Centre

variable (r : Reconciler) (now : Int)

/-- Two moves of the centre by the same rule. The guard window, while it is closed, admits only
the reported centre, so that a second move is made only where the first one was not. -/
theorem wishCentre_again_iff (rule : Int16 → Int16) (w : Wishes) :
    r.wishCentre now (r.wishCentre now w (rule w.autoSetpoint))
        (rule (r.wishCentre now w (rule w.autoSetpoint)).autoSetpoint) =
      r.wishCentre now w (rule w.autoSetpoint) ↔
      (r.OutOfWindow now r.lastDeviceObserved.autoSetpoint →
        rule (rule w.autoSetpoint) = rule w.autoSetpoint) := by
  by_cases hopen : r.OutOfWindow now r.lastDeviceObserved.autoSetpoint
  · have hadmits : ∀ v, r.admitsCentre now v = true := fun v => hopen.admits _ v
    simp [wishCentre, hadmits, hopen]
  · have hadmits : ∀ v, r.admitsCentre now v = true ↔ v = r.state.autoSetpoint.observed := by
      intro v
      exact admits_eq_true_iff.trans (or_iff_left hopen)
    refine iff_of_true ?_ (fun h => absurd h hopen)
    by_cases hfirst : rule w.autoSetpoint = r.state.autoSetpoint.observed
    · have hw : r.wishCentre now w (rule w.autoSetpoint) =
          { w with autoSetpoint := rule w.autoSetpoint } := if_pos ((hadmits _).mpr hfirst)
      rw [hw]
      by_cases hsecond : rule (rule w.autoSetpoint) = r.state.autoSetpoint.observed
      · rw [wishCentre, if_pos ((hadmits _).mpr hsecond)]
        simp only
        rw [hsecond, hfirst]
      · exact if_neg (mt (hadmits _).mp hsecond)
    · have hw : r.wishCentre now w (rule w.autoSetpoint) = w :=
        if_neg (mt (hadmits _).mp hfirst)
      rw [hw, hw]

/-- A fan level is asked for once. -/
theorem wishFan_again (w : Wishes) (f : FanSpeed) :
    r.wishFan now (r.wishFan now w f) f = r.wishFan now w f := by
  unfold wishFan
  cases r.admitsFan now f with
  | false => rfl
  | true =>
      simp only [if_true]
      split <;> rfl

/-- In Auto with the guard window open, the centre that a setpoint write leaves is midway
between the opposite edge of the band around it and the written value, up to truncation. -/
def EdgeRests (r : Reconciler) (now : Int) : WriteIntent → Prop
  | .setOccupiedHeatingSetpoint value =>
      r.state.mode.observed = .auto → r.OutOfWindow now r.lastDeviceObserved.autoSetpoint →
        let centre := r.centreForHeatEdge r.state.autoSetpoint.desired value
        Lib.Midway (Int16.ofInt
          (centre.toInt + r.config.projector.autoBandHalfWidthCentiC.toInt)).toInt
          value.toInt centre.toInt
  | .setOccupiedCoolingSetpoint value =>
      r.state.mode.observed = .auto → r.OutOfWindow now r.lastDeviceObserved.autoSetpoint →
        let centre := r.centreForCoolEdge r.state.autoSetpoint.desired value
        Lib.Midway value.toInt (Int16.ofInt
          (centre.toInt - r.config.projector.autoBandHalfWidthCentiC.toInt)).toInt centre.toInt
  | _ => True

/-- **Repeated intents.** Applied a second time at once, an intent changes no twin and no
remembered percent, and reports nothing; except that a setpoint write in Auto, outside the
guard window, moves the centre again unless that is midway already. -/
theorem repeat_silent_iff (r : Reconciler) (now : Int) (i : WriteIntent) :
    RepeatSilent r now i ↔ EdgeRests r now i := by
  rw [repeatSilent_iff_wish]
  cases i with
  | setOnOff value =>
      refine iff_of_true ?_ trivial
      simp only [wish]
      split <;> rfl
  | setSystemMode power mode =>
      refine iff_of_true ?_ trivial
      simp only [wish]
      cases r.admitsOnOff now power <;> cases (power && r.admitsMode now mode) <;> rfl
  | setOccupiedHeatingSetpoint value =>
      cases hobserved : r.state.mode.observed with
      | auto =>
          have hcentre := wishCentre_again_iff r now
            (fun c => r.centreForHeatEdge c value) r.state.wishes
          simp only [wish, hobserved, EdgeRests, ← Lib.midpoint_eq_iff, forall_const]
          exact hcentre
      | heat =>
          refine iff_of_true ?_ (by simp [EdgeRests, hobserved])
          simp only [wish, hobserved]
          split <;> rfl
      | _ => exact iff_of_true (by simp [wish, hobserved]) (by simp [EdgeRests, hobserved])
  | setOccupiedCoolingSetpoint value =>
      cases hobserved : r.state.mode.observed with
      | auto =>
          have hcentre := wishCentre_again_iff r now
            (fun c => r.centreForCoolEdge c value) r.state.wishes
          simp only [wish, hobserved, EdgeRests, ← Lib.midpoint_eq_iff, forall_const]
          exact hcentre
      | cool =>
          refine iff_of_true ?_ (by simp [EdgeRests, hobserved])
          simp only [wish, hobserved]
          split <;> rfl
      | _ => exact iff_of_true (by simp [wish, hobserved]) (by simp [EdgeRests, hobserved])
  | setSpeedSetting value => exact iff_of_true (wishFan_again r now _ _) trivial
  | setPercentSetting value =>
      cases value with
      | none => exact iff_of_true rfl trivial
      | some percent => exact iff_of_true (wishFan_again r now _ _) trivial

/-- A heat edge of 19 °C, written twice to the band around 22 °C, moves the centre to
20.75 °C and then to 20.12 °C. -/
theorem heat_edge_repeat_moves :
    ¬ ∀ (r : Reconciler) (now : Int) (i : WriteIntent), Reachable r → RepeatSilent r now i := by
  intro hclaim
  have hsilent := hclaim boot 0 (.setOccupiedHeatingSetpoint 1900) ⟨{}, {}, [], rfl⟩
  exact absurd (congrArg TwinField.desired hsilent.untouched.twins.autoSetpoint) (by decide)

end Centre

end DaikinBridge.Sync.Reconciler
