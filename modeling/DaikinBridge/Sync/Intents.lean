import DaikinBridge.Sync.Guard

/-!
# DaikinBridge.Sync.Intents

What a single intent achieves.

The reconciler decides by what the device last reported: the routing of a setpoint write
looks at the observed mode, the power-on of a fan write at the observed power, and the guard
window judges each twin by its own report. Commands and projections are made of the desired
values. The two agree except while a write is pending, and the three results of this module
say what follows:

* `setpoint_write_lands_iff`: a setpoint write may miss the mode that will be commanded;
* `fan_write_runs_iff`: a fan write may leave the unit commanded off;
* `all_or_nothing_iff`: an intent on two twins may move one and drop the other.

All three are read off `state_apply`, through the wishes of an intent.
-/

namespace DaikinBridge.Sync

/-- The twin is left exactly as it was, if it is set to what it already desires. -/
theorem TwinField.setDesired_eq_self_iff {T : Type} [DecidableEq T] {t : TwinField T} {v : T} :
    t.setDesired v = t ↔ t.desired = v := by
  constructor
  · intro h
    rw [← h, setDesired_desired]
  · rintro rfl
    exact t.setDesired_self

/-- The setpoint twin a write names, and the value written. -/
def WriteIntent.setpoint : WriteIntent → Option (OperationalMode × Int16)
  | .setOccupiedHeatingSetpoint value => some (.heat, value)
  | .setOccupiedCoolingSetpoint value => some (.cool, value)
  | _ => none

theorem WriteIntent.setpoint_cases {i : WriteIntent} {m : OperationalMode} {v : Int16}
    (h : i.setpoint = some (m, v)) :
    (i = .setOccupiedHeatingSetpoint v ∧ m = .heat) ∨
      (i = .setOccupiedCoolingSetpoint v ∧ m = .cool) := by
  cases i with
  | setOccupiedHeatingSetpoint w =>
      cases h
      exact .inl ⟨rfl, rfl⟩
  | setOccupiedCoolingSetpoint w =>
      cases h
      exact .inr ⟨rfl, rfl⟩
  | _ => cases h

namespace Reconciler

open LogicalACState

section WindowOpen

variable {r : Reconciler} {now : Int}

/-- A report is out of the guard window: there was none, or it is old enough. -/
def OutOfWindow (r : Reconciler) (now reported : Int) : Prop :=
  reported = 0 ∨ r.config.deviceWinsWindowMs ≤ now - reported

/-- The guard window is open for every twin. -/
structure WindowOpen (r : Reconciler) (now : Int) : Prop where
  onOff : r.OutOfWindow now r.lastDeviceObserved.onOff
  mode : r.OutOfWindow now r.lastDeviceObserved.mode
  heatSetpoint : r.OutOfWindow now r.lastDeviceObserved.heatSetpoint
  coolSetpoint : r.OutOfWindow now r.lastDeviceObserved.coolSetpoint
  autoSetpoint : r.OutOfWindow now r.lastDeviceObserved.autoSetpoint
  fan : r.OutOfWindow now r.lastDeviceObserved.fan

theorem OutOfWindow.admits {T : Type} [DecidableEq T] {reported : Int}
    (h : r.OutOfWindow now reported) (t : TwinField T) (v : T) :
    r.admits now reported t v = true :=
  admits_eq_true_iff.mpr (.inr h)

variable (h : WindowOpen r now)
include h

theorem WindowOpen.admitsOnOff (v : Bool) : r.admitsOnOff now v = true :=
  h.onOff.admits _ v

theorem WindowOpen.admitsHeat (v : Int16) : r.admitsHeat now v = true :=
  h.heatSetpoint.admits _ v

theorem WindowOpen.admitsCool (v : Int16) : r.admitsCool now v = true :=
  h.coolSetpoint.admits _ v

theorem WindowOpen.admitsCentre (v : Int16) : r.admitsCentre now v = true :=
  h.autoSetpoint.admits _ v

theorem WindowOpen.admitsFan (v : FanSpeed) : r.admitsFan now v = true :=
  h.fan.admits _ v

end WindowOpen

/-! ### Setpoint writes -/

section Setpoint

variable {r : Reconciler} {now : Int}

/-- What a heating write leaves to be commanded and shown, as wishes. -/
theorem wish_setHeating (h : WindowOpen r now) (w : Wishes) (v : Int16) :
    (r.wish now w (.setOccupiedHeatingSetpoint v)).mode = w.mode ∧
      (r.wish now w (.setOccupiedHeatingSetpoint v)).heatSetpoint =
        if r.state.mode.observed = .auto then w.heatSetpoint else v := by
  simp only [wish, wishCentre, h.admitsHeat, h.admitsCentre, if_true]
  cases r.state.mode.observed <;> exact ⟨rfl, rfl⟩

theorem wish_setCooling (h : WindowOpen r now) (w : Wishes) (v : Int16) :
    (r.wish now w (.setOccupiedCoolingSetpoint v)).mode = w.mode ∧
      (r.wish now w (.setOccupiedCoolingSetpoint v)).coolSetpoint =
        if r.state.mode.observed = .auto then w.coolSetpoint else v := by
  simp only [wish, wishCentre, h.admitsCool, h.admitsCentre, if_true]
  cases r.state.mode.observed <;> exact ⟨rfl, rfl⟩

/-- The value is shown as the heating setpoint and is the setpoint to be commanded. -/
def HeatLands (r : Reconciler) (v : Int16) : Prop :=
  Projector.projectedOccupiedHeatingSetpoint r.config.projector r.state = v ∧
    (desiredCommand r.state).setpointCelsius = v

/-- The value is shown as the cooling setpoint and is the setpoint to be commanded. -/
def CoolLands (r : Reconciler) (v : Int16) : Prop :=
  Projector.projectedOccupiedCoolingSetpoint r.config.projector r.state = v ∧
    (desiredCommand r.state).setpointCelsius = v

theorem heatLands_iff {r : Reconciler} (hmode : r.state.mode.inFlight = none)
    (hheat : r.state.heatSetpoint.inFlight = none) (h : r.state.mode.desired = .heat) {v : Int16} :
    HeatLands r v ↔ r.state.heatSetpoint.desired = v := by
  simp [HeatLands, Projector.projectedOccupiedHeatingSetpoint, projectedValue, hmode, hheat, h,
    desiredCommand]

theorem coolLands_iff {r : Reconciler} (hmode : r.state.mode.inFlight = none)
    (hcool : r.state.coolSetpoint.inFlight = none) (h : r.state.mode.desired = .cool) {v : Int16} :
    CoolLands r v ↔ r.state.coolSetpoint.desired = v := by
  simp [CoolLands, Projector.projectedOccupiedCoolingSetpoint, projectedValue, hmode, hcool, h,
    desiredCommand]

/-- **A setpoint write.** With nothing in flight and the guard window open, a heating write
made while Heat is shown is shown and commanded if and only if the unit was not last seen in
Auto, or the value was desired already; and a cooling write made while Cool is shown likewise. -/
theorem setpoint_write_lands_iff (r : Reconciler) (now : Int) (hopen : WindowOpen r now)
    (hfly : r.state.noneInFlight) (v : Int16) :
    (Projector.projectedMode r.state = .heat →
      (HeatLands (r.applyIntent now (.setOccupiedHeatingSetpoint v)).1 v ↔
        r.state.mode.observed ≠ .auto ∨ r.state.heatSetpoint.desired = v)) ∧
    (Projector.projectedMode r.state = .cool →
      (CoolLands (r.applyIntent now (.setOccupiedCoolingSetpoint v)).1 v ↔
        r.state.mode.observed ≠ .auto ∨ r.state.coolSetpoint.desired = v)) := by
  have hshown : Projector.projectedMode r.state = r.state.mode.desired := by
    simp [Projector.projectedMode, projectedValue, hfly.2.1]
  rw [hshown]
  constructor
  · intro hheat
    let i := WriteIntent.setOccupiedHeatingSetpoint v
    have hviews := apply_deviceViews r now i
    obtain ⟨hmode, hvalue⟩ := wish_setHeating hopen r.state.wishes v
    rw [← wishes_apply] at hmode hvalue
    have hlands : HeatLands (r.apply now i) v ↔ (r.apply now i).state.heatSetpoint.desired = v :=
      heatLands_iff (hviews.mode.2.trans hfly.2.1) (hviews.heatSetpoint.2.trans hfly.2.2.1)
        (hmode.trans hheat)
    refine hlands.trans ?_
    rw [show (r.apply now i).state.heatSetpoint.desired = _ from hvalue]
    by_cases hauto : r.state.mode.observed = .auto
    · simp [hauto, LogicalACState.wishes]
    · simp [hauto]
  · intro hcool
    let i := WriteIntent.setOccupiedCoolingSetpoint v
    have hviews := apply_deviceViews r now i
    obtain ⟨hmode, hvalue⟩ := wish_setCooling hopen r.state.wishes v
    rw [← wishes_apply] at hmode hvalue
    have hlands : CoolLands (r.apply now i) v ↔ (r.apply now i).state.coolSetpoint.desired = v :=
      coolLands_iff (hviews.mode.2.trans hfly.2.1) (hviews.coolSetpoint.2.trans hfly.2.2.2.1)
        (hmode.trans hcool)
    refine hlands.trans ?_
    rw [show (r.apply now i).state.coolSetpoint.desired = _ from hvalue]
    by_cases hauto : r.state.mode.observed = .auto
    · simp [hauto, LogicalACState.wishes]
    · simp [hauto]

/-- A poll that finds the unit cooling to 24 °C. -/
def coolingObservation : S21OperationalObservation where
  onOff := true
  operatingMode := .cool
  setpointCelsius := 2400
  fanMode := .high
  refrigerantValveOpen := none

/-- A unit found cooling. -/
def coolingPolled : Reconciler :=
  Lib.run kernelStep boot [.applyOperationalObservation 1000 coolingObservation]

theorem windowOpen_coolingPolled : WindowOpen coolingPolled 3000 := by
  refine ⟨.inr ?_, .inr ?_, .inl rfl, .inr ?_, .inl rfl, .inr ?_⟩ <;> decide

/-- A unit last seen cooling, with the mode set to Heat but not sent yet. -/
def heatFromCool : Reconciler :=
  Lib.run kernelStep boot [.applyOperationalObservation 1000 coolingObservation,
    .applyIntent 3000 (.setSystemMode true .heat)]

/-- After a pending switch from Cool to Heat, a heating write lands. -/
theorem heatFromCool_lands :
    HeatLands (heatFromCool.applyIntent 3000 (.setOccupiedHeatingSetpoint 2300)).1 2300 := by
  have hopen : WindowOpen heatFromCool 3000 := by
    refine ⟨.inr ?_, .inr ?_, .inl rfl, .inr ?_, .inl rfl, .inr ?_⟩ <;> decide
  exact ((setpoint_write_lands_iff heatFromCool 3000 hopen (by decide) 2300).1
    (by decide)).mpr (.inl (by decide))

theorem windowOpen_boot (now : Int) : WindowOpen boot now :=
  ⟨.inl rfl, .inl rfl, .inl rfl, .inl rfl, .inl rfl, .inl rfl⟩

/-- From boot, with the mode set to Heat but not sent yet. -/
def heatPending : Reconciler :=
  (boot.applyIntent 0 (.setSystemMode true .heat)).1

/-- A heating write after a pending switch from Auto to Heat moves the Auto centre. -/
theorem heatPending_misses :
    ¬ ∀ (r : Reconciler) (now : Int) (v : Int16), Reachable r → WindowOpen r now →
      r.state.noneInFlight → Projector.projectedMode r.state = .heat →
      HeatLands (r.applyIntent now (.setOccupiedHeatingSetpoint v)).1 v := by
  intro hclaim
  have hreach : Reachable heatPending := ⟨{}, {}, [.applyIntent 0 (.setSystemMode true .heat)], rfl⟩
  have hopen : WindowOpen heatPending 0 :=
    ⟨.inl rfl, .inl rfl, .inl rfl, .inl rfl, .inl rfl, .inl rfl⟩
  have hlands := hclaim heatPending 0 2300 hreach hopen (by decide) (by decide)
  exact absurd hlands.1 (by decide)

end Setpoint

/-! ### Fan writes -/

section Fan

variable {r : Reconciler} {now : Int}

/-- An intent that asks the fan to run, and the setting it asks for. -/
inductive RunsFan : WriteIntent → FanSpeed → Prop
  | speed (f : FanSpeed) : RunsFan (.setSpeedSetting f) f
  | percent (p : UInt8) (hlo : 1 ≤ p) (hhi : p ≤ 100) :
      RunsFan (.setPercentSetting (some p)) (some (percentToSpeedLevel p))

/-- The unit is to be commanded on with the setting, and it is shown where nothing hides it. -/
structure FanRuns (s : LogicalACState) (f : FanSpeed) : Prop where
  onOff : s.onOff.desired = true
  commandOnOff : (desiredCommand s).onOff = true
  commandFan : (desiredCommand s).fanMode = fanSpeedToS21FanMode f
  shown : s.onOff.inFlight = none → s.fan.inFlight = none →
    Projector.projectedSpeedSetting s = f.map FanLevel.toUInt8 ∧
      Projector.projectedFanMode s = fanModeOf f

/-- All of it follows from the two desired values. -/
theorem fanRuns_iff {s : LogicalACState} {f : FanSpeed} (hfan : s.fan.desired = f) :
    FanRuns s f ↔ s.onOff.desired = true := by
  refine ⟨FanRuns.onOff, fun hon => ⟨hon, hon, ?_, ?_⟩⟩
  · rw [← hfan]
    rfl
  · intro hon' hfan'
    simp [Projector.projectedSpeedSetting, Projector.projectedFanMode, Projector.projectedOnOff,
      projectedValue, hon', hfan', hon, hfan]

theorem wish_fan (h : WindowOpen r now) (w : Wishes) {i : WriteIntent} {f : FanSpeed}
    (hi : RunsFan i f) :
    (r.wish now w i).fan = f ∧ (r.wish now w i).onOff = (!r.state.onOff.observed || w.onOff) := by
  have hwish : (r.wishFan now w f).fan = f ∧
      (r.wishFan now w f).onOff = (!r.state.onOff.observed || w.onOff) := by
    simp only [wishFan, h.admitsFan, h.admitsOnOff, if_true, Bool.and_true, true_and]
    cases r.state.onOff.observed <;> rfl
  cases hi with
  | speed => exact hwish
  | percent => exact hwish

/-- **A fan write.** With the guard window open, a write that asks the fan to run leaves the
unit commanded on, with the written setting, if and only if the unit was last seen off or is
desired on already. -/
theorem fan_write_runs_iff (r : Reconciler) (now : Int) (hopen : WindowOpen r now)
    {i : WriteIntent} {f : FanSpeed} (hi : RunsFan i f) :
    FanRuns (r.applyIntent now i).1.state f ↔
      r.state.onOff.observed = false ∨ r.state.onOff.desired = true := by
  obtain ⟨hfan, hon⟩ := wish_fan hopen r.state.wishes hi
  rw [← wishes_apply] at hfan hon
  rw [show (r.applyIntent now i).1 = r.apply now i from rfl, fanRuns_iff hfan,
    show (r.apply now i).state.onOff.desired = _ from hon]
  simp [LogicalACState.wishes]

/-- A running unit whose power-off is not sent yet. -/
def offPending : Reconciler :=
  Lib.run kernelStep boot [.applyOperationalObservation 1000 coolingObservation,
    .applyIntent 3000 (.setOnOff false)]

/-- From boot a fan write turns the unit on. -/
theorem boot_fan_runs : FanRuns (boot.applyIntent 0 (.setSpeedSetting (some .high))).1.state
    (some .high) :=
  (fan_write_runs_iff boot 0 (windowOpen_boot 0) (.speed (some .high))).mpr (.inl rfl)

/-- A fan write after a pending power-off leaves the unit commanded off. -/
theorem offPending_fan_stays_off :
    ¬ ∀ (r : Reconciler) (now : Int) (i : WriteIntent) (f : FanSpeed), Reachable r →
      WindowOpen r now → RunsFan i f → FanRuns (r.applyIntent now i).1.state f := by
  intro hclaim
  have hopen : WindowOpen offPending 3100 := by
    refine ⟨.inr ?_, .inr ?_, .inl rfl, .inr ?_, .inl rfl, .inr ?_⟩ <;> decide
  have hruns := hclaim offPending 3100 (.setSpeedSetting (some .low)) (some .low)
    ⟨{}, {}, _, rfl⟩ hopen (.speed _)
  exact absurd hruns.onOff (by decide)

end Fan

/-! ### Intents on two twins -/

section AllOrNothing

variable {r : Reconciler} {now : Int}

/-- All that a fan write is to set is set. -/
structure FanSet (s s' : LogicalACState) (f : FanSpeed) (percent : Option UInt8) : Prop where
  fan : s'.fan.desired = f
  fanPercentSetting : s'.fanPercentSetting = percent
  onOff : s.onOff.observed = false → s'.onOff.desired = true

/-- All that an intent is to set is set. A null percent is to set nothing. -/
def FullEffect (r : Reconciler) (s' : LogicalACState) : WriteIntent → Prop
  | .setOnOff value => s'.onOff.desired = value
  | .setSystemMode power mode =>
      s'.onOff.desired = power ∧ (power = true → s'.mode.desired = mode)
  | .setOccupiedHeatingSetpoint value =>
      if r.state.mode.observed = .auto then
        s'.autoSetpoint.desired = r.centreForHeatEdge r.state.autoSetpoint.desired value
      else s'.heatSetpoint.desired = value
  | .setOccupiedCoolingSetpoint value =>
      if r.state.mode.observed = .auto then
        s'.autoSetpoint.desired = r.centreForCoolEdge r.state.autoSetpoint.desired value
      else s'.coolSetpoint.desired = value
  | .setSpeedSetting value =>
      FanSet r.state s' value (value.map fun level => speedLevelToPercent level.toUInt8)
  | .setPercentSetting none => s' = r.state
  | .setPercentSetting (some percent) =>
      FanSet r.state s' (some (percentToSpeedLevel percent)) (some percent)

/-- The twins and the remembered percent are exactly as they were. -/
structure Untouched (s s' : LogicalACState) : Prop where
  twins : EachTwin (fun t t' => t' = t) s s'
  fanPercentSetting : s'.fanPercentSetting = s.fanPercentSetting

theorem untouched_withWishes_iff {s : LogicalACState} {w : Wishes} {percent : Option UInt8} :
    Untouched s (s.withWishes w percent) ↔ s.wishes = w ∧ s.fanPercentSetting = percent := by
  constructor
  · rintro ⟨⟨hon, hmode, hheat, hcool, hauto, hfan⟩, hpercent⟩
    refine ⟨?_, hpercent.symm⟩
    cases w
    simp only [Wishes.mk.injEq, LogicalACState.wishes]
    exact ⟨TwinField.setDesired_eq_self_iff.mp hon, TwinField.setDesired_eq_self_iff.mp hmode,
      TwinField.setDesired_eq_self_iff.mp hheat, TwinField.setDesired_eq_self_iff.mp hcool,
      TwinField.setDesired_eq_self_iff.mp hauto, TwinField.setDesired_eq_self_iff.mp hfan⟩
  · rintro ⟨rfl, rfl⟩
    exact ⟨⟨TwinField.setDesired_self _, TwinField.setDesired_self _, TwinField.setDesired_self _,
      TwinField.setDesired_self _, TwinField.setDesired_self _, TwinField.setDesired_self _⟩, rfl⟩

/-- The intent takes full effect or none. -/
def AllOrNothing (r : Reconciler) (now : Int) (i : WriteIntent) : Prop :=
  FullEffect r (r.applyIntent now i).1.state i ∨
    Untouched r.state (r.applyIntent now i).1.state

/-- A fan write is not divided: it is dropped, it needs no power-on or gets one, or it writes
what is there already. -/
def FanUndivided (r : Reconciler) (now : Int) (f : FanSpeed) (percent : Option UInt8) : Prop :=
  r.admitsFan now f = false ∨ r.state.onOff.observed = true ∨ r.admitsOnOff now true = true ∨
    r.state.onOff.desired = true ∨
    (r.state.fan.desired = f ∧ r.state.fanPercentSetting = percent)

/-- The guard window does not divide the intent. Only mode and fan writes are on two twins: a
mode write is not divided if it is a power-off, if one of the two values is desired already,
or if the window admits both or neither. So a window that admits the axis whose write changes
nothing and drops the other counts as undivided: the intent leaves everything alone. -/
def Undivided (r : Reconciler) (now : Int) : WriteIntent → Prop
  | .setSystemMode power mode =>
      power = false ∨ r.state.onOff.desired = true ∨ r.state.mode.desired = mode ∨
        r.admitsOnOff now true = r.admitsMode now mode
  | .setSpeedSetting value =>
      r.FanUndivided now value (value.map fun level => speedLevelToPercent level.toUInt8)
  | .setPercentSetting (some percent) =>
      r.FanUndivided now (some (percentToSpeedLevel percent)) (some percent)
  | _ => True

/-- An intent on one twin, which the guard window admits or drops as a whole. -/
theorem allOrNothing_of_wish {i : WriteIntent} {w : Wishes} (admitted : Bool)
    (hwish : r.wish now r.state.wishes i = if admitted then w else r.state.wishes)
    (hpercent : r.rememberedPercent now i = r.state.fanPercentSetting)
    (hfull : ∀ s' : LogicalACState, s'.wishes = w → FullEffect r s' i) :
    AllOrNothing r now i := by
  cases admitted with
  | true => exact .inl (hfull _ ((wishes_apply r now i).trans hwish))
  | false =>
      refine .inr ?_
      show Untouched r.state (r.apply now i).state
      rw [state_apply]
      exact untouched_withWishes_iff.mpr ⟨hwish.symm, hpercent.symm⟩

/-- A mode write, as two independent axes. -/
theorem allOrNothing_setSystemMode_iff (mode : OperationalMode) :
    AllOrNothing r now (.setSystemMode true mode) ↔
      r.state.onOff.desired = true ∨ r.state.mode.desired = mode ∨
        r.admitsOnOff now true = r.admitsMode now mode := by
  show FullEffect r (r.apply now _).state _ ∨ Untouched r.state (r.apply now _).state ↔ _
  rw [state_apply, untouched_withWishes_iff]
  simp only [FullEffect, LogicalACState.withWishes, TwinField.setDesired_desired, wish,
    rememberedPercent, LogicalACState.wishes, Wishes.mk.injEq]
  cases r.admitsOnOff now true <;> cases r.admitsMode now mode <;> simp [or_comm]

/-- A fan write: power-on, level and percent, once the level is admitted. -/
theorem allOrNothing_fan_iff {i : WriteIntent} {f : FanSpeed} {percent : Option UInt8}
    (hfull : ∀ s', FullEffect r s' i ↔ FanSet r.state s' f percent)
    (hstate : (r.apply now i).state = r.writeFan now f percent) :
    AllOrNothing r now i ↔ r.FanUndivided now f percent := by
  show FullEffect r (r.apply now i).state i ∨ Untouched r.state (r.apply now i).state ↔ _
  rw [hfull, hstate, state_writeFan, untouched_withWishes_iff]
  unfold FanUndivided wishFan
  cases r.admitsFan now f with
  | false => simp
  | true =>
      rw [if_pos rfl, if_pos rfl]
      -- the level and the percent are set; what is left is whether power-on was needed
      have hset : ∀ w : Wishes, w.fan = f →
          (FanSet r.state (r.state.withWishes w percent) f percent ↔
            (r.state.onOff.observed = false → w.onOff = true)) := by
        rintro w rfl
        refine ⟨fun h hoff => ?_, fun h => ⟨TwinField.setDesired_desired _ _, rfl, fun hoff => ?_⟩⟩
        · rw [← h.onOff hoff]
          exact (TwinField.setDesired_desired _ _).symm
        · rw [← h hoff]
          exact TwinField.setDesired_desired _ _
      rw [hset _ rfl]
      simp only [LogicalACState.wishes, Wishes.mk.injEq, Bool.true_eq_false, false_or]
      cases r.state.onOff.observed <;> cases r.admitsOnOff now true <;>
        cases r.state.onOff.desired <;> simp

/-- A heating write is on one twin, whichever mode the unit was last seen in. -/
theorem allOrNothing_setHeating (v : Int16) :
    AllOrNothing r now (.setOccupiedHeatingSetpoint v) := by
  let centre := r.centreForHeatEdge r.state.autoSetpoint.desired v
  cases hobserved : r.state.mode.observed with
  | auto =>
      refine allOrNothing_of_wish (w := { r.state.wishes with autoSetpoint := centre })
        (r.admitsCentre now centre) ?_ rfl fun s' h => ?_
      · simp only [wish, hobserved]
        rfl
      · simp only [FullEffect, if_pos hobserved]
        exact congrArg Wishes.autoSetpoint h
  | heat =>
      refine allOrNothing_of_wish (w := { r.state.wishes with heatSetpoint := v })
        (r.admitsHeat now v) ?_ rfl fun s' h => ?_
      · simp only [wish, hobserved]
      · simp only [FullEffect, hobserved, reduceCtorEq, if_false]
        exact congrArg Wishes.heatSetpoint h
  | _ =>
      refine allOrNothing_of_wish (w := { r.state.wishes with heatSetpoint := v }) true ?_ rfl
        fun s' h => ?_
      · simp [wish, hobserved]
      · simp only [FullEffect, hobserved, reduceCtorEq, if_false]
        exact congrArg Wishes.heatSetpoint h

theorem allOrNothing_setCooling (v : Int16) :
    AllOrNothing r now (.setOccupiedCoolingSetpoint v) := by
  let centre := r.centreForCoolEdge r.state.autoSetpoint.desired v
  cases hobserved : r.state.mode.observed with
  | auto =>
      refine allOrNothing_of_wish (w := { r.state.wishes with autoSetpoint := centre })
        (r.admitsCentre now centre) ?_ rfl fun s' h => ?_
      · simp only [wish, hobserved]
        rfl
      · simp only [FullEffect, if_pos hobserved]
        exact congrArg Wishes.autoSetpoint h
  | cool =>
      refine allOrNothing_of_wish (w := { r.state.wishes with coolSetpoint := v })
        (r.admitsCool now v) ?_ rfl fun s' h => ?_
      · simp only [wish, hobserved]
      · simp only [FullEffect, hobserved, reduceCtorEq, if_false]
        exact congrArg Wishes.coolSetpoint h
  | _ =>
      refine allOrNothing_of_wish (w := { r.state.wishes with coolSetpoint := v }) true ?_ rfl
        fun s' h => ?_
      · simp [wish, hobserved]
      · simp only [FullEffect, hobserved, reduceCtorEq, if_false]
        exact congrArg Wishes.coolSetpoint h

/-- **All or nothing.** An intent takes full effect or leaves the twins and the remembered
percent alone if and only if the guard window does not divide it. -/
theorem all_or_nothing_iff (r : Reconciler) (now : Int) (i : WriteIntent) :
    AllOrNothing r now i ↔ Undivided r now i := by
  cases i with
  | setOnOff value =>
      refine iff_of_true ?_ trivial
      refine allOrNothing_of_wish (w := { r.state.wishes with onOff := value })
        (r.admitsOnOff now value) rfl rfl fun s' h => ?_
      exact congrArg Wishes.onOff h
  | setSystemMode power mode =>
      cases power with
      | true => simpa [Undivided] using allOrNothing_setSystemMode_iff mode
      | false =>
          refine iff_of_true ?_ (.inl rfl)
          refine allOrNothing_of_wish (w := { r.state.wishes with onOff := false })
            (r.admitsOnOff now false) ?_ rfl fun s' h => ⟨congrArg Wishes.onOff h, ?_⟩
          · simp only [wish]
            split <;> rfl
          · intro hpower
            cases hpower
  | setOccupiedHeatingSetpoint value => exact iff_of_true (allOrNothing_setHeating value) trivial
  | setOccupiedCoolingSetpoint value => exact iff_of_true (allOrNothing_setCooling value) trivial
  | setSpeedSetting value => exact allOrNothing_fan_iff (fun _ => Iff.rfl) rfl
  | setPercentSetting value =>
      cases value with
      | none => exact iff_of_true (.inl rfl) trivial
      | some percent => exact allOrNothing_fan_iff (fun _ => Iff.rfl) rfl

/-- A running unit with a power-off pending, which a poll has just found cooling. -/
def offPendingPolled : Reconciler :=
  Lib.run kernelStep boot [.applyOperationalObservation 1000 coolingObservation,
    .applyIntent 3000 (.setOnOff false), .applyOperationalObservation 3100 coolingObservation]

/-- Switched to Heat within the guard window, it is turned on again, and keeps cooling. -/
theorem heat_write_divided :
    ¬ ∀ (r : Reconciler) (now : Int) (i : WriteIntent), Reachable r → AllOrNothing r now i := by
  intro hclaim
  have hreach : Reachable offPendingPolled := ⟨{}, {}, _, rfl⟩
  rcases hclaim offPendingPolled 3200 (.setSystemMode true .heat) hreach with hfull | hnone
  · exact absurd (hfull.2 rfl) (by decide)
  · exact absurd (congrArg TwinField.desired hnone.twins.onOff) (by decide)

end AllOrNothing

end Reconciler

end DaikinBridge.Sync
