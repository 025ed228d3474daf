import DaikinBridge.Sync.ReconcilerSpec

/-!
# DaikinBridge.Sync.RunningMode

The running-mode fusion of `Reconciler::fuseRunningMode`, as a function of the *gap*
between the indoor temperature and the setpoint.

The fusion reads one of three setpoint twins, after the same observation has updated it.
An update always ends with the reported setpoint observed, so which twin is read does not
matter: the fusion compares the indoor temperature with the reported setpoint
(`fused_eq`), and every comparison is one of their difference with a bound. So the result
moves in one direction with the gap (`byGap_mono`), up with the temperature and down with
the setpoint.
-/

namespace DaikinBridge.Sync

open S21 (OperatingMode)

/-- Running modes in the order of the heat they take out of the room. -/
def RunningMode.rank : RunningMode → Int
  | .heating => -1
  | .off => 0
  | .cooling => 1

namespace Reconciler

/-- The fusion, from the gap between indoor temperature and setpoint, if the indoor
temperature is known. -/
def byGap (onOff : Bool) (s21OperatingMode : OperatingMode) (refrigerantValveOpen : Option Bool)
    (hyst : Int) (gap : Option Int) : RunningMode :=
  if !onOff then .off
  else
    match s21OperatingModeDirectionHint s21OperatingMode with
    | some hint => hint
    | none =>
      match refrigerantValveOpen, s21OperatingModeToOperationalMode s21OperatingMode, gap with
      | some true, .cool, _ => .cooling
      | some true, .heat, _ => .heating
      | some true, .auto, some g => if g < 0 then .heating else .cooling
      | some true, .auto, none => .cooling
      | none, .cool, some g => if g ≤ hyst then .off else .cooling
      | none, .heat, some g => if -hyst ≤ g then .off else .heating
      | none, .auto, some g => if g > hyst then .cooling else if g < -hyst then .heating else .off
      | _, _, _ => .off

/-- The gap the fusion reads: against the setpoint twin of the reported mode. -/
def gapTo (indoor : Option Int16) (setpoint : Int16) : Option Int :=
  indoor.map fun t => t.toInt - setpoint.toInt

theorem fuseRunningMode_eq_byGap (s : LogicalACState) (cfg : ReconcilerConfig) (onOff : Bool)
    (m : OperatingMode) (valve : Option Bool) :
    fuseRunningMode s cfg onOff m valve =
      byGap onOff m valve cfg.runningModeHysteresisCentiC.toInt
        (gapTo s.indoorTemp.observed
          (s.activeSetpoint (s21OperatingModeToOperationalMode m)).observed) := by
  unfold fuseRunningMode byGap gapTo
  cases onOff with
  | false => rfl
  | true =>
      cases s21OperatingModeDirectionHint m with
      | some hint => rfl
      | none =>
          cases s21OperatingModeToOperationalMode m <;> cases s.indoorTemp.observed <;>
            rcases valve with _ | _ | _ <;>
            simp only [LogicalACState.activeSetpoint, Option.map_some, Option.map_none,
              Bool.not_true, Bool.false_eq_true, if_false]
          all_goals grind

/-- Off, dry and fan-only never run the compressor. -/
theorem byGap_off {onOff : Bool} {m : OperatingMode} (valve : Option Bool) (hyst : Int)
    (gap : Option Int)
    (h : onOff = false ∨ (s21OperatingModeToOperationalMode m).bearsSetpoint = false) :
    byGap onOff m valve hyst gap = .off := by
  obtain rfl | hmode := h
  · rfl
  · have hhint : s21OperatingModeDirectionHint m = none := by
      unfold s21OperatingModeDirectionHint
      split
      · rename_i hm
        exact absurd hmode (by subst hm; decide)
      · split
        · rename_i hm
          exact absurd hmode (by subst hm; decide)
        · rfl
    unfold byGap
    rw [hhint]
    cases hm : s21OperatingModeToOperationalMode m <;>
      simp [hm, OperationalMode.bearsSetpoint] at hmode ⊢

/-- The two spellings of Auto with a direction are Auto. -/
theorem mode_of_hint {m : OperatingMode} {hint : RunningMode}
    (h : s21OperatingModeDirectionHint m = some hint) :
    s21OperatingModeToOperationalMode m = .auto := by
  unfold s21OperatingModeDirectionHint at h
  split at h
  · rename_i hm
    subst hm
    rfl
  · split at h
    · rename_i hm
      subst hm
      rfl
    · cases h

theorem mode_of_byGap {onOff : Bool} {m : OperatingMode} {valve : Option Bool} {hyst : Int}
    {gap : Option Int} :
    (byGap onOff m valve hyst gap = .cooling →
      s21OperatingModeToOperationalMode m = .cool ∨
        s21OperatingModeToOperationalMode m = .auto) ∧
      (byGap onOff m valve hyst gap = .heating →
        s21OperatingModeToOperationalMode m = .heat ∨
          s21OperatingModeToOperationalMode m = .auto) := by
  cases onOff with
  | false => simp [byGap]
  | true =>
      cases hhint : s21OperatingModeDirectionHint m with
      | some hint => exact ⟨fun _ => .inr (mode_of_hint hhint), fun _ => .inr (mode_of_hint hhint)⟩
      | none =>
          simp only [byGap, hhint]
          cases s21OperatingModeToOperationalMode m <;> rcases valve with _ | _ | _ <;>
            cases gap <;> grind

/-- **The fusion is monotone in the gap**, for a hysteresis of either sign. -/
theorem byGap_mono (onOff : Bool) (m : OperatingMode) (valve : Option Bool) (hyst : Int)
    {g g' : Int} (h : g ≤ g') :
    (byGap onOff m valve hyst (some g)).rank ≤ (byGap onOff m valve hyst (some g')).rank := by
  cases onOff with
  | false => exact Int.le_refl _
  | true =>
      unfold byGap
      cases s21OperatingModeDirectionHint m with
      | some hint => exact Int.le_refl _
      | none =>
          cases s21OperatingModeToOperationalMode m <;> rcases valve with _ | _ | _ <;>
            simp only [RunningMode.rank] <;> grind

theorem byGap_gapTo_anti (onOff : Bool) (m : OperatingMode) (valve : Option Bool) (hyst : Int)
    (indoor : Option Int16) {low high : Int16} (h : low.toInt ≤ high.toInt) :
    (byGap onOff m valve hyst (gapTo indoor high)).rank ≤
      (byGap onOff m valve hyst (gapTo indoor low)).rank := by
  cases indoor with
  | none => simp [gapTo]
  | some t => exact byGap_mono onOff m valve hyst (Int.sub_le_sub_left h t.toInt)

/-! ### What an observation fuses -/

/-- The running mode an operational observation leaves. -/
def fused (r : Reconciler) (now : Int) (obs : S21OperationalObservation) : RunningMode :=
  (r.applyOperationalObservation now obs).1.state.runningMode.observed

/-- The reconciler with a given indoor temperature observed. -/
def withIndoor (r : Reconciler) (indoor : Int16) : Reconciler :=
  { r with state := { r.state with indoorTemp := r.state.indoorTemp.applyObservation indoor } }

/-- The state the fusion reads is the observed one, up to the fields it writes itself. -/
theorem observe_runningMode (s : LogicalACState) (cfg : ReconcilerConfig)
    (obs : S21OperationalObservation) :
    (observeOperational s cfg obs).runningMode.observed =
      fuseRunningMode (observeOperational s cfg obs) cfg obs.onOff obs.operatingMode
        obs.refrigerantValveOpen := by
  simp only [observeOperational, SensorField.applyObservation_observed, fuseRunningMode]

theorem observe_indoorTemp (s : LogicalACState) (cfg : ReconcilerConfig)
    (obs : S21OperationalObservation) :
    (observeOperational s cfg obs).indoorTemp = s.indoorTemp := by
  simp [observeOperational]

/-- The fusion sees the reported setpoint, whichever twin it reads. -/
theorem fused_eq (r : Reconciler) (now : Int) (obs : S21OperationalObservation) :
    r.fused now obs =
      byGap obs.onOff obs.operatingMode obs.refrigerantValveOpen
        r.config.runningModeHysteresisCentiC.toInt
        (gapTo r.state.indoorTemp.observed obs.setpointCelsius) := by
  have hfused : r.fused now obs =
      (observeOperational r.state r.config obs).runningMode.observed := rfl
  rw [hfused, observe_runningMode, fuseRunningMode_eq_byGap, observe_indoorTemp]
  cases hbears : (s21OperatingModeToOperationalMode obs.operatingMode).bearsSetpoint with
  | false => rw [byGap_off _ _ _ (.inr hbears), byGap_off _ _ _ (.inr hbears)]
  | true =>
      rw [observe_activeSetpoint _ _ _ hbears, if_pos rfl, TwinField.applyObservation_observed]

theorem fused_withIndoor (r : Reconciler) (now : Int) (obs : S21OperationalObservation)
    (indoor : Int16) :
    (r.withIndoor indoor).fused now obs =
      byGap obs.onOff obs.operatingMode obs.refrigerantValveOpen
        r.config.runningModeHysteresisCentiC.toInt
        (some (indoor.toInt - obs.setpointCelsius.toInt)) := by
  rw [fused_eq]
  rfl

/-- **The running-mode fusion is direction-consistent and monotone.** It is Off for a unit
that is off or in dry or fan-only mode, cools only in Cool and Auto and heats only in Heat
and Auto. A higher indoor temperature never lowers it and a higher reported setpoint never
raises it, in the order Heating, Off, Cooling; the hysteresis may have either sign. -/
theorem runningMode_consistent_and_monotone (r : Reconciler) (now : Int)
    (obs : S21OperationalObservation) :
    (obs.onOff = false ∨ s21OperatingModeToOperationalMode obs.operatingMode = .dry ∨
        s21OperatingModeToOperationalMode obs.operatingMode = .fanOnly →
      r.fused now obs = .off) ∧
      (r.fused now obs = .cooling →
        s21OperatingModeToOperationalMode obs.operatingMode = .cool ∨
          s21OperatingModeToOperationalMode obs.operatingMode = .auto) ∧
      (r.fused now obs = .heating →
        s21OperatingModeToOperationalMode obs.operatingMode = .heat ∨
          s21OperatingModeToOperationalMode obs.operatingMode = .auto) ∧
      (∀ cold warm : Int16, cold ≤ warm →
        ((r.withIndoor cold).fused now obs).rank ≤ ((r.withIndoor warm).fused now obs).rank) ∧
      ∀ low high : Int16, low ≤ high →
        (r.fused now { obs with setpointCelsius := high }).rank ≤
          (r.fused now { obs with setpointCelsius := low }).rank := by
  refine ⟨?_, ?_, ?_, ?_, ?_⟩
  · intro h
    rw [fused_eq]
    apply byGap_off
    obtain hoff | hmode | hmode := h
    · exact .inl hoff
    · exact .inr (by rw [hmode]; rfl)
    · exact .inr (by rw [hmode]; rfl)
  · intro h
    rw [fused_eq] at h
    exact mode_of_byGap.1 h
  · intro h
    rw [fused_eq] at h
    exact mode_of_byGap.2 h
  · intro cold warm h
    have htemp : cold.toInt ≤ warm.toInt := Int16.le_iff_toInt_le.mp h
    rw [fused_withIndoor, fused_withIndoor]
    exact byGap_mono _ _ _ _ (Int.sub_le_sub_right htemp _)
  · intro low high h
    have hset : low.toInt ≤ high.toInt := Int16.le_iff_toInt_le.mp h
    rw [fused_eq, fused_eq]
    exact byGap_gapTo_anti _ _ _ _ _ hset

/-- From boot, in Auto at 22 °C without valve information: warming the room from 20 °C to
25 °C moves the result from Heating to Cooling, and lowering the setpoint does too. -/
theorem runningMode_consistent_and_monotone_boot :
    (boot.fused 0 ⟨false, .cool, 2200, .auto, some true⟩ = .off) ∧
      ((boot.withIndoor 2000).fused 0 ⟨true, .auto, 2200, .auto, none⟩).rank ≤
        ((boot.withIndoor 2500).fused 0 ⟨true, .auto, 2200, .auto, none⟩).rank ∧
      ((boot.withIndoor 2200).fused 0 ⟨true, .auto, 2500, .auto, none⟩).rank ≤
        ((boot.withIndoor 2200).fused 0 ⟨true, .auto, 2000, .auto, none⟩).rank :=
  ⟨(runningMode_consistent_and_monotone boot 0 ⟨false, .cool, 2200, .auto, some true⟩).1
      (.inl rfl),
    (runningMode_consistent_and_monotone boot 0 ⟨true, .auto, 2200, .auto, none⟩).2.2.2.1
      2000 2500 (by decide),
    (runningMode_consistent_and_monotone (boot.withIndoor 2200) 0
      ⟨true, .auto, 2200, .auto, none⟩).2.2.2.2 2000 2500 (by decide)⟩

end Reconciler

end DaikinBridge.Sync
