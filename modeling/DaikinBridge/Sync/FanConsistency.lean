import DaikinBridge.Sync.Attribution

/-!
# DaikinBridge.Sync.FanConsistency

FanMode, SpeedSetting and PercentSetting are three readings of one fan.

The first two are projected from the fan twin, which shows its desired level, or the observed
one while a level is in flight. The third is a field of its own, set by every fan write and
derived from the level when a new one arrives from the device. A unit shown off reads zero
throughout; of one shown on they agree exactly when the remembered percent *belongs* to the
level shown (`fanConsistent_iff`).

Every operation that moves what the twin shows without touching the percent, or the reverse,
can part the two, and so can one that shows the power again after they were parted out of
sight. `PercentKept` says of each operation, by the state before it, when the percent belongs
afterwards, and `powerShown` what power is shown then; `FanKept` asks for the first only where
the second is on. It is exact for the three readings along every run (`fan_readings_agree`).
A fan write that powers a unit on, for one, is sent while the unit is shown off, so nothing is
asked of that send; the poll that confirms it finds the percent in its place.
-/

namespace DaikinBridge.Sync

/-- A fan level with a percent that stands for it. -/
structure FanSetting where
  level : FanSpeed
  percent : Option UInt8
  belongs : percent.map percentToSpeedLevel = level

theorem percentToSpeedLevel_speedLevelToPercent (level : FanLevel) :
    percentToSpeedLevel (speedLevelToPercent level.toUInt8) = level := by
  cases level <;> decide

theorem derived_belongs (level : FanSpeed) :
    (level.map fun l => speedLevelToPercent l.toUInt8).map percentToSpeedLevel = level := by
  cases level with
  | none => rfl
  | some l => simp [percentToSpeedLevel_speedLevelToPercent]

/-- The setting of a level: the percent is derived from it. -/
def FanSetting.ofLevel (level : FanSpeed) : FanSetting where
  level := level
  percent := level.map fun l => speedLevelToPercent l.toUInt8
  belongs := by rw [derived_belongs]

/-- The setting of a percent. -/
def FanSetting.ofPercent (percent : UInt8) : FanSetting where
  level := some (percentToSpeedLevel percent)
  percent := some percent
  belongs := Option.map_some _ _

/-- The remembered percent belongs to the level shown. -/
def LogicalACState.PercentBelongs (s : LogicalACState) : Prop :=
  s.fanPercentSetting.map percentToSpeedLevel = projectedValue s.fan

/-- The three readings of the fan agree. -/
structure LogicalACState.FanConsistent (s : LogicalACState) : Prop where
  off : Projector.projectedOnOff s = false →
    Projector.projectedFanMode s = .off ∧ Projector.projectedSpeedSetting s = some 0 ∧
      Projector.projectedPercentSetting s = some 0
  null : Projector.projectedOnOff s = true →
    (Projector.projectedPercentSetting s = none ↔ Projector.projectedSpeedSetting s = none) ∧
      (Projector.projectedSpeedSetting s = none ↔ Projector.projectedFanMode s = .auto)
  level : Projector.projectedOnOff s = true →
    ∀ percent, Projector.projectedPercentSetting s = some percent →
      Projector.projectedSpeedSetting s = some (percentToSpeedLevel percent).toUInt8 ∧
        Projector.projectedFanMode s = fanModeOf (some (percentToSpeedLevel percent))

theorem fanModeOf_eq_auto_iff {f : FanSpeed} : fanModeOf f = .auto ↔ f = none := by
  cases f with
  | none => simp [fanModeOf]
  | some l => cases l <;> simp [fanModeOf]

/-- A unit shown off reads zero throughout; of one shown on, the readings agree exactly if the
remembered percent belongs to the level shown. -/
theorem fanConsistent_iff {s : LogicalACState} :
    s.FanConsistent ↔ (Projector.projectedOnOff s = true → s.PercentBelongs) := by
  constructor
  · intro h hon
    have hspeed : Projector.projectedSpeedSetting s =
        (projectedValue s.fan).map FanLevel.toUInt8 := by
      simp [Projector.projectedSpeedSetting, hon]
    have hpercent : Projector.projectedPercentSetting s = s.fanPercentSetting := by
      simp [Projector.projectedPercentSetting, hon]
    unfold LogicalACState.PercentBelongs
    cases hp : s.fanPercentSetting with
    | none =>
        have hnone := (h.null hon).1.mp (hpercent.trans hp)
        rw [hspeed, Option.map_eq_none_iff] at hnone
        rw [hnone]
        rfl
    | some percent =>
        have hsome := (h.level hon percent (hpercent.trans hp)).1
        rw [hspeed, Option.map_eq_some_iff] at hsome
        obtain ⟨l, hl, hcode⟩ := hsome
        rw [hl, Option.map_some, FanLevel.toUInt8_inj.mp hcode]
  · intro h
    refine ⟨?_, ?_, ?_⟩
    · intro hoff
      simp [Projector.projectedFanMode, Projector.projectedSpeedSetting,
        Projector.projectedPercentSetting, hoff]
    · intro hon
      have hshown : s.fanPercentSetting.map percentToSpeedLevel = projectedValue s.fan := h hon
      simp [Projector.projectedPercentSetting, Projector.projectedSpeedSetting,
        Projector.projectedFanMode, hon, fanModeOf_eq_auto_iff, ← hshown]
    · intro hon percent hpercent
      have hshown := h hon
      have hp : s.fanPercentSetting = some percent := by
        simpa [Projector.projectedPercentSetting, hon] using hpercent
      rw [LogicalACState.PercentBelongs, hp, Option.map_some] at hshown
      simp [Projector.projectedSpeedSetting, Projector.projectedFanMode, hon, ← hshown]

/-! ### What a twin shows -/

namespace TwinField

variable {T : Type}

/-- What the twin shows once `value` is desired. -/
def shownAsking (t : TwinField T) (value : T) : T :=
  if t.inFlight.isSome then t.observed else value

/-- What the twin shows once `value` is reported: news shows itself, unless it ends a flight,
which shows what is desired; and a report that repeats the observed value changes nothing,
unless it confirms. -/
def shownReporting [DecidableEq T] (t : TwinField T) (value : T) : T :=
  match t.inFlight with
  | some sent => if value = t.observed ∧ value ≠ sent then value else t.desired
  | none => if value = t.observed then t.desired else value

end TwinField

theorem projectedValue_applyObservation {T : Type} [DecidableEq T] (t : TwinField T) (v : T)
    (src : ObservationSource) :
    projectedValue (t.applyObservation v src) = t.shownReporting v := by
  unfold projectedValue TwinField.shownReporting
  rw [TwinField.applyObservation_observed, TwinField.applyObservation_desired,
    TwinField.applyObservation_inFlight]
  cases t.inFlight with
  | none => by_cases hold : v = t.observed <;> simp [hold]
  | some sent =>
      by_cases hsent : v = sent
      · simp [hsent, Option.filter]
      · by_cases hold : v = t.observed
        · simp [← hold, Ne.symm hsent, hsent, Option.filter]
        · simp [hold]

/-- News is attributed to its source, unless it confirms what is in flight. -/
theorem TwinField.applyObservation_attribution {T : Type} [DecidableEq T] {t : TwinField T} {v : T}
    (src : ObservationSource) (hnew : v ≠ t.observed) :
    (t.applyObservation v src).attribution =
      if t.inFlight = some v then t.attribution else src := by
  cases hfly : t.inFlight with
  | none => simp [applyObservation_external _ hfly hnew]
  | some sent =>
      by_cases hsent : v = sent
      · subst hsent
        rw [applyObservation_confirm _ hfly, if_pos rfl]
      · rw [applyObservation_disconfirm _ hfly hsent hnew,
          if_neg fun heq => hsent (Option.some.inj heq).symm]

namespace Reconciler

open LogicalACState

/-! ### Fan writes -/

section Writes

variable (r : Reconciler) (now : Int)

/-- The fan setting an intent makes, if the guard window admits it. -/
def fanWrite : WriteIntent → Option FanSetting
  | .setSpeedSetting level => if r.admitsFan now level then some (.ofLevel level) else none
  | .setPercentSetting (some percent) =>
      if r.admitsFan now (some (percentToSpeedLevel percent)) then some (.ofPercent percent)
      else none
  | _ => none

/-- The desired level and the percent after a fan setting was made, or none was. -/
def setFan (fan : FanSpeed × Option UInt8) : Option FanSetting → FanSpeed × Option UInt8
  | some setting => (setting.level, setting.percent)
  | none => fan

/-- What intents move of the fan. -/
def fanWished : FanSpeed × Option UInt8 := (r.state.fan.desired, r.state.fanPercentSetting)

theorem fanWished_apply (i : WriteIntent) :
    (r.apply now i).fanWished = setFan r.fanWished (r.fanWrite now i) := by
  have hstate : (r.apply now i).fanWished =
      ((r.wish now r.state.wishes i).fan, r.rememberedPercent now i) := by
    rw [fanWished, state_apply]
    simp [withWishes]
  have hfan : ∀ level, (r.wishFan now r.state.wishes level).fan =
      if r.admitsFan now level then level else r.state.fan.desired := by
    intro level
    unfold wishFan
    split <;> rfl
  rw [hstate]
  cases i with
  | setOnOff value =>
      simp only [wish]
      split <;> rfl
  | setSystemMode power mode => rfl
  | setOccupiedHeatingSetpoint value =>
      have hwish : (r.wish now r.state.wishes (.setOccupiedHeatingSetpoint value)).fan =
          r.state.fan.desired := by
        simp only [wish, wishCentre]
        repeat' split
        all_goals rfl
      rw [hwish]
      rfl
  | setOccupiedCoolingSetpoint value =>
      have hwish : (r.wish now r.state.wishes (.setOccupiedCoolingSetpoint value)).fan =
          r.state.fan.desired := by
        simp only [wish, wishCentre]
        repeat' split
        all_goals rfl
      rw [hwish]
      rfl
  | setSpeedSetting level =>
      simp only [wish, hfan, rememberedPercent, fanWrite]
      split <;> rfl
  | setPercentSetting value =>
      cases value with
      | none => rfl
      | some percent =>
          simp only [wish, hfan, rememberedPercent, fanWrite]
          split <;> rfl

theorem SameJudge.fanWrite {r r' : Reconciler} (h : SameJudge r r') (now : Int) :
    r'.fanWrite now = r.fanWrite now := by
  have hadmits : r'.admitsFan now = r.admitsFan now := by
    rw [admitsFan, h.times, h.admits now _ h.views.fan, admitsFan]
  funext i
  cases i with
  | setPercentSetting value =>
      cases value with
      | none => rfl
      | some percent => simp only [Reconciler.fanWrite, hadmits]
  | _ => simp only [Reconciler.fanWrite, hadmits]

theorem SameJudge.applyEach (intents : List WriteIntent) :
    SameJudge r (r.applyEach now intents) :=
  applyEach_keeps (P := SameJudge r) r now
    (fun r' i h => h.trans (SameJudge.apply r' now i)) ⟨.refl _, rfl, rfl⟩ intents

/-- Of several intents the last fan write counts. -/
theorem fanWished_applyEach (intents : List WriteIntent) :
    (r.applyEach now intents).fanWished =
      setFan r.fanWished (Lib.latest (r.fanWrite now) intents) := by
  induction intents using List.reverseRecOn with
  | nil => rfl
  | append_singleton intents i ih =>
      have hlast : r.applyEach now (intents ++ [i]) = (r.applyEach now intents).apply now i := by
        simp [Reconciler.applyEach]
      rw [hlast, fanWished_apply, (SameJudge.applyEach r now intents).fanWrite, ih,
        Lib.latest_concat]
      cases r.fanWrite now i with
      | none => rfl
      | some setting => rfl

/-- A bundle is its fan writes, to the fan. -/
theorem fanWished_applyBundle (intents : List WriteIntent) :
    (r.applyBundle now intents).fanWished =
      setFan r.fanWished (Lib.latest (r.fanWrite now) intents) := by
  have hedge : ∀ i, (!isSetpointEdge i) = false → r.fanWrite now i = none := by
    intro i hi
    cases i <;> simp [isSetpointEdge] at hi <;> rfl
  have hcollapse : ∀ heat cool : Int16,
      (r.collapseAutoBand now heat cool).fanWished = r.fanWished := by
    intro heat cool
    unfold collapseAutoBand
    dsimp only
    split <;> rfl
  unfold applyBundle
  split
  · rename_i heat cool _ _
    split
    · rw [fanWished_applyEach, hcollapse, (SameJudge.collapseAutoBand r now heat cool).fanWrite,
        Lib.latest_filter hedge]
    · exact fanWished_applyEach r now intents
  · exact fanWished_applyEach r now intents

end Writes

/-! ### Every operation -/

/-- Power as it is shown after the operation. -/
def powerShown (r : Reconciler) : KernelOp → Bool
  | .applyIntent now i => r.state.onOff.shownAsking (r.wish now r.state.wishes i).onOff
  | .applyIntentBundle now is =>
      r.state.onOff.shownAsking (r.wishBundle now r.state.wishes is).onOff
  | .applyOperationalObservation _ obs => r.state.onOff.shownReporting obs.onOff
  | .onCommandSent _ => r.state.onOff.observed
  | _ => Projector.projectedOnOff r.state

/-- Of the intents, the last fan write that is admitted asks for the level shown: any level
while none is in flight, and otherwise the observed one. Where there is no such write, the
percent belongs already. -/
def WritesShown (r : Reconciler) (now : Int) (intents : List WriteIntent) : Prop :=
  match Lib.latest (r.fanWrite now) intents with
  | some setting => r.state.fan.inFlight = none ∨ setting.level = r.state.fan.observed
  | none => r.state.PercentBelongs

/-- A report that repeats the observed level, or confirms a write of the controller, leaves the
percent alone, which belongs to the level shown then; any other derives it from the reported
level, which is then shown. -/
def ReportKeeps (fan : TwinField FanSpeed) (percent : Option UInt8) (level : FanSpeed) : Prop :=
  if level = fan.observed ∨ (fan.inFlight = some level ∧ fan.attribution ≠ .device) then
    percent.map percentToSpeedLevel = fan.shownReporting level
  else fan.inFlight = none ∨ fan.desired = level

/-- The operation leaves the remembered percent with the level shown. -/
def PercentKept (r : Reconciler) : KernelOp → Prop
  | .applyIntent now i => r.WritesShown now [i]
  | .applyIntentBundle now is => r.WritesShown now is
  | .applyOperationalObservation _ obs =>
      ReportKeeps r.state.fan r.state.fanPercentSetting (s21FanModeToSpeedSetting obs.fanMode)
  -- a send shows the observed level in the place of the desired one
  | .onCommandSent _ =>
      r.state.fanPercentSetting.map percentToSpeedLevel = r.state.fan.observed
  | _ => True

/-- If it leaves the unit shown on, the operation leaves the remembered percent with the level
shown. -/
def FanKept (r : Reconciler) (op : KernelOp) : Prop :=
  r.powerShown op = true → r.PercentKept op

theorem projectedOnOff_kernelStep (r : Reconciler) (op : KernelOp) :
    Projector.projectedOnOff (kernelStep r op).state = r.powerShown op := by
  -- writes move the desired power only
  have hwrites : ∀ {s : LogicalACState} {w : Wishes}, SameDeviceViews r.state s → s.wishes = w →
      Projector.projectedOnOff s = r.state.onOff.shownAsking w.onOff := by
    rintro s w hviews rfl
    obtain ⟨hobserved, hinFlight⟩ := hviews.onOff
    rw [Projector.projectedOnOff, projectedValue, hobserved, hinFlight]
    rfl
  cases op with
  | applyIntent now i => exact hwrites (apply_deviceViews r now i) (wishes_apply r now i)
  | applyIntentBundle now is =>
      exact hwrites (applyBundle_spec r now is).1 (wishes_applyBundle r now is)
  | applyOperationalObservation now obs =>
      have honOff : (pollStep r ⟨now, obs⟩).state.onOff =
          r.state.onOff.applyObservation obs.onOff .device := observe_onOff r.state r.config obs
      show projectedValue (pollStep r ⟨now, obs⟩).state.onOff = _
      rw [honOff, projectedValue_applyObservation]
      rfl
  | onCommandSent c =>
      show projectedValue (r.onCommandSent c).state.onOff = _
      rw [sent_onOff]
      rfl
  | _ => rfl

section Belongs

variable {r r' : Reconciler}

theorem belongs_writes_iff {now : Int} {intents : List WriteIntent}
    (hfan : r.state.fan.SameDevice r'.state.fan)
    (hwished : r'.fanWished = setFan r.fanWished (Lib.latest (r.fanWrite now) intents)) :
    r'.state.PercentBelongs ↔ r.WritesShown now intents := by
  unfold PercentBelongs projectedValue WritesShown
  rw [hfan.1, hfan.2]
  cases hlast : Lib.latest (r.fanWrite now) intents with
  | none =>
      rw [hlast] at hwished
      obtain ⟨hdesired, hpercent⟩ := Prod.mk.inj hwished
      rw [hdesired, hpercent]
      exact Iff.rfl
  | some setting =>
      rw [hlast] at hwished
      obtain ⟨hdesired, hpercent⟩ := Prod.mk.inj hwished
      rw [hdesired, hpercent, setting.belongs]
      cases hfly : r.state.fan.inFlight with
      | none => simp
      | some sent => simp

theorem belongs_sent_iff (c : S21OperationCommand) :
    (r.onCommandSent c).state.PercentBelongs ↔
      r.state.fanPercentSetting.map percentToSpeedLevel = r.state.fan.observed := by
  have hpercent : (r.onCommandSent c).state.fanPercentSetting = r.state.fanPercentSetting := by
    simp [onCommandSent]
  rw [PercentBelongs, hpercent, sent_fan]
  rfl

/-- What a report does to a twin and a percent. -/
theorem belongs_report_iff (fan : TwinField FanSpeed) (percent : Option UInt8)
    (level : FanSpeed) :
    (rederivePercent fan (fan.applyObservation level .device) percent).map percentToSpeedLevel =
        projectedValue (fan.applyObservation level .device) ↔
      ReportKeeps fan percent level := by
  rw [projectedValue_applyObservation]
  unfold ReportKeeps rederivePercent
  rw [TwinField.applyObservation_observed]
  by_cases hold : level = fan.observed
  · rw [if_neg fun hnew => hnew.1 hold, if_pos (.inl hold)]
  · rw [TwinField.applyObservation_attribution _ hold]
    by_cases hkept : fan.inFlight = some level ∧ fan.attribution ≠ .device
    · rw [if_pos hkept.1, if_neg fun hnew => hkept.2 hnew.2, if_pos (.inr hkept)]
    · have hdevice : (if fan.inFlight = some level then fan.attribution else .device) =
          .device := by
        by_cases hfly : fan.inFlight = some level
        · rw [if_pos hfly]
          exact not_not.mp fun hmatter => hkept ⟨hfly, hmatter⟩
        · exact if_neg hfly
      rw [hdevice, if_pos ⟨hold, rfl⟩, if_neg (not_or.mpr ⟨hold, hkept⟩), derived_belongs]
      unfold TwinField.shownReporting
      cases hfly : fan.inFlight with
      | none => simp [hold]
      | some sent => simp [hold, eq_comm]

theorem belongs_poll_iff (now : Int) (obs : S21OperationalObservation) :
    (pollStep r ⟨now, obs⟩).state.PercentBelongs ↔
      ReportKeeps r.state.fan r.state.fanPercentSetting (s21FanModeToSpeedSetting obs.fanMode) := by
  have hfan : (pollStep r ⟨now, obs⟩).state.fan =
      r.state.fan.applyObservation (s21FanModeToSpeedSetting obs.fanMode) .device :=
    observe_fan r.state r.config obs
  rw [PercentBelongs, pollStep_fanPercentSetting, hfan]
  exact belongs_report_iff _ _ _

end Belongs

/-- **One operation** leaves the percent with the level shown exactly if `PercentKept` says so.
That the percent belonged before counts only where the shown power stays as it was. -/
theorem belongs_kernelStep_iff (r : Reconciler) (op : KernelOp)
    (h : Projector.projectedOnOff r.state = r.powerShown op → r.state.PercentBelongs) :
    (kernelStep r op).state.PercentBelongs ↔ r.PercentKept op := by
  cases op with
  | applyIntent now i =>
      exact belongs_writes_iff (apply_deviceViews r now i).fan (fanWished_applyEach r now [i])
  | applyIntentBundle now is =>
      exact belongs_writes_iff (applyBundle_spec r now is).1.fan (fanWished_applyBundle r now is)
  | applyOperationalObservation now obs => exact belongs_poll_iff now obs
  | applyEnvironmentalObservation obs => exact iff_of_true (h rfl) trivial
  | onCommandSent c => exact belongs_sent_iff c
  | onCommandFailed => exact iff_of_true (h rfl) trivial
  | notifyLinkDown => exact iff_of_true (h rfl) trivial

/-- One operation leaves the readings in agreement exactly if `FanKept` says so. -/
theorem fanConsistent_kernelStep_iff (r : Reconciler) (op : KernelOp)
    (h : r.state.FanConsistent) :
    (kernelStep r op).state.FanConsistent ↔ r.FanKept op := by
  rw [fanConsistent_iff, projectedOnOff_kernelStep]
  refine imp_congr_right fun hon => belongs_kernelStep_iff r op fun hsame => ?_
  exact fanConsistent_iff.mp h (hsame.trans hon)

/-- **The readings of the fan agree.** From boot defaults whose percent belongs to their fan
level, FanMode, SpeedSetting and PercentSetting agree in every state of a run if and only if
every operation of the run is `FanKept`; and the remembered percent belongs to the level of the
fan twin in every state, those shown off included, if and only if every operation is
`PercentKept`. -/
theorem fan_readings_agree (config : ReconcilerConfig) (d : LogicalACStateDefaults)
    (hd : d.fanPercentSetting.map percentToSpeedLevel = d.fan) (ops : List KernelOp) :
    (Lib.Throughout kernelStep (fun r => r.state.FanConsistent) (.new config d) ops ↔
      Lib.Along kernelStep FanKept (.new config d) ops) ∧
    (Lib.Throughout kernelStep (fun r => r.state.PercentBelongs) (.new config d) ops ↔
      Lib.Along kernelStep PercentKept (.new config d) ops) := by
  have hboot : (Reconciler.new config d).state.PercentBelongs := hd
  constructor
  · exact Lib.throughout_iff_along fanConsistent_kernelStep_iff
      (fanConsistent_iff.mpr fun _ => hboot)
  · exact Lib.throughout_iff_along
      (fun r op h => belongs_kernelStep_iff r op fun _ => h) hboot

/-- A unit found off is asked for 40 percent, which turns it on; a poll still finds it off, and
the next one at level 3. -/
def poweredOnByFan : List KernelOp :=
  [.applyOperationalObservation 1000 { coolingObservation with onOff := false },
    .applyIntent 3000 (.setPercentSetting (some 40)),
    .onCommandSent ⟨true, .cool, 2400, .midLow⟩,
    .applyOperationalObservation 3100 { coolingObservation with onOff := false },
    .applyOperationalObservation 4000 { coolingObservation with fanMode := .midLow }]

/-- A percent that is written and not sent agrees, and so does one that is sent to turn the
unit on: it is out of sight until it is confirmed. -/
theorem unsent_percent_agrees :
    Lib.Throughout kernelStep (fun r => r.state.FanConsistent) boot
      [.applyOperationalObservation 1000 coolingObservation,
        .applyIntent 3000 (.setPercentSetting (some 40))] ∧
    Lib.Throughout kernelStep (fun r => r.state.FanConsistent) boot poweredOnByFan := by
  constructor
  · refine (fan_readings_agree {} {} rfl _).1.mpr ⟨fun _ => ?_, fun _ => ?_, trivial⟩
    · exact .inl (by decide)
    · exact .inl (by decide)
  · refine (fan_readings_agree {} {} rfl poweredOnByFan).1.mpr ⟨?_, ?_, ?_, ?_, ?_, trivial⟩
    · exact fun hon => absurd hon (by decide)
    · exact fun _ => .inl (by decide)
    · exact fun hon => absurd hon (by decide)
    · exact fun hon => absurd hon (by decide)
    · exact fun _ => show _ = _ by decide

/-- Sending it parts the readings: 40 percent stands for level 3, and level 6 is shown. -/
theorem sent_percent_contradicts :
    let sent := calmerRequested.onCommandSent ⟨true, .cool, 2400, .midLow⟩
    Reachable sent ∧ calmerRequested.pendingCommand = some ⟨true, .cool, 2400, .midLow⟩ ∧
      Projector.projectedOnOff sent.state = true ∧
      Projector.projectedPercentSetting sent.state = some 40 ∧
      Projector.projectedSpeedSetting sent.state = some 6 ∧
      ¬ sent.state.FanConsistent := by
  intro sent
  have hreach : Reachable coolingPolled := ⟨_, _, _, rfl⟩
  have hon : Projector.projectedOnOff sent.state = true := by decide +kernel
  have hpercent : Projector.projectedPercentSetting sent.state = some 40 := by decide +kernel
  have hspeed : Projector.projectedSpeedSetting sent.state = some 6 := by decide +kernel
  refine ⟨hreach.run [.applyIntent 3000 (.setPercentSetting (some 40)), .onCommandSent _],
    by decide +kernel, hon, hpercent, hspeed, ?_⟩
  intro h
  have hlevel := (h.level hon 40 hpercent).1
  rw [hspeed] at hlevel
  exact absurd hlevel (by decide)

end Reconciler

end DaikinBridge.Sync
