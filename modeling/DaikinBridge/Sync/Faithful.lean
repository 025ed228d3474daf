import DaikinBridge.Sync.Dedup

/-!
# DaikinBridge.Sync.Faithful

What subscribers see when the kernel is at rest, with nothing in flight and nothing
left to send. The projector shows `desired` there, so the view is the device's own
exactly when desired and observed agree on what the view shows.

At rest the two can disagree in one way only: the desired command is the one last
sent, which `pendingCommand` does not send again (`faithfulAtRest_iff`). The run
theorem `faithful_iff` says which steps lead there: a report that ends the flight
with another value than the command's, and a write that asks again for the
remembered command after the device has left it.
-/

namespace DaikinBridge.Sync

/-! ### The acknowledged view -/

/-- The twin with the device's report in all views. -/
def TwinField.acknowledged {T : Type} (t : TwinField T) : TwinField T :=
  { t with desired := t.observed, inFlight := none }

/-- The state with every twin acknowledged. -/
def LogicalACState.acknowledged (s : LogicalACState) : LogicalACState :=
  { s with
    onOff := s.onOff.acknowledged
    mode := s.mode.acknowledged
    heatSetpoint := s.heatSetpoint.acknowledged
    coolSetpoint := s.coolSetpoint.acknowledged
    autoSetpoint := s.autoSetpoint.acknowledged
    fan := s.fan.acknowledged }

@[simp] theorem projectedValue_acknowledged {T : Type} (t : TwinField T) :
    projectedValue t.acknowledged = t.observed := rfl

theorem projectedValue_of_landed {T : Type} {t : TwinField T} (h : t.inFlight = none) :
    projectedValue t = t.desired := by
  simp [projectedValue, h]

namespace Reconciler

/-- Power, mode, the fan level of a running unit and the setpoint edges of the shown
mode are projected as they would be from the observed values. -/
def SeenAsObserved (cfg : ProjectorConfig) (s : LogicalACState) : Prop :=
  let seen := Projector.project cfg s
  let real := Projector.project cfg s.acknowledged
  seen.onOff = real.onOff ∧ seen.mode = real.mode ∧
    (seen.onOff = true → seen.speedSetting = real.speedSetting) ∧
    (seen.mode = .heat → seen.occupiedHeatingSetpoint = real.occupiedHeatingSetpoint) ∧
    (seen.mode = .cool → seen.occupiedCoolingSetpoint = real.occupiedCoolingSetpoint) ∧
    (seen.mode = .auto → seen.occupiedHeatingSetpoint = real.occupiedHeatingSetpoint ∧
      seen.occupiedCoolingSetpoint = real.occupiedCoolingSetpoint)

/-- At rest, the view is the device's own. -/
def FaithfulAtRest (r : Reconciler) : Prop :=
  r.state.noneInFlight → r.pendingCommand = none →
    SeenAsObserved r.config.projector r.state

/-- Two commands look the same to a subscriber: the fan level does not show on a unit
that is off, nor the setpoint in a mode without one. -/
def ShowsSame (c d : S21OperationCommand) : Prop :=
  c.onOff = d.onOff ∧ c.operatingMode = d.operatingMode ∧
    (c.onOff = true → c.fanMode = d.fanMode) ∧
    ((s21OperatingModeToOperationalMode c.operatingMode).bearsSetpoint = true →
      c.setpointCelsius = d.setpointCelsius)

theorem ShowsSame.refl (c : S21OperationCommand) : ShowsSame c c :=
  ⟨rfl, rfl, fun _ => rfl, fun _ => rfl⟩

/-- The level shown by a running unit determines the fan setting. -/
theorem map_toUInt8_inj {f g : FanSpeed} :
    f.map FanLevel.toUInt8 = g.map FanLevel.toUInt8 ↔ f = g := by
  refine ⟨fun h => ?_, fun h => h ▸ rfl⟩
  exact Option.map_injective (fun _ _ => FanLevel.toUInt8_inj.mp) h

/-- At rest the view shows the desired command, and the acknowledged one the observed
command. -/
theorem seenAsObserved_iff {s : LogicalACState} (h : s.noneInFlight) (cfg : ProjectorConfig) :
    SeenAsObserved cfg s ↔ ShowsSame (desiredCommand s) (observedCommand s) := by
  obtain ⟨hon, hmode, hheat, hcool, hauto, hfan⟩ := h
  simp only [SeenAsObserved, Projector.project, Projector.projectedOnOff,
    Projector.projectedMode, Projector.projectedSpeedSetting,
    Projector.projectedOccupiedHeatingSetpoint, Projector.projectedOccupiedCoolingSetpoint,
    LogicalACState.acknowledged, projectedValue_acknowledged, projectedValue_of_landed hon,
    projectedValue_of_landed hmode, projectedValue_of_landed hheat,
    projectedValue_of_landed hcool, projectedValue_of_landed hauto,
    projectedValue_of_landed hfan]
  simp only [ShowsSame, desiredCommand_setpoint]
  simp only [desiredCommand, observedCommand, operationalModeToS21OperatingMode_inj,
    fanSpeedToS21FanMode_inj, s21OperatingMode_roundtrip]
  refine and_congr_right fun ho => and_congr_right fun hm => ?_
  simp only [← ho, ← hm]
  refine and_congr ?_ ?_
  · refine forall_congr' fun hpow => ?_
    simp only [hpow, Bool.not_true, Bool.false_eq_true, if_false, map_toUInt8_inj]
  · cases s.mode.desired <;>
      simp [OperationalMode.bearsSetpoint, LogicalACState.activeSetpoint]

/-- At rest, the only obstacle is a desired command that is remembered as sent. -/
theorem faithfulAtRest_iff (r : Reconciler) :
    FaithfulAtRest r ↔
      (r.state.noneInFlight → r.lastSentCommand = some (desiredCommand r.state) →
        ShowsSame (desiredCommand r.state) (observedCommand r.state)) := by
  unfold FaithfulAtRest
  refine forall_congr' fun hfly => ?_
  rw [seenAsObserved_iff hfly, pendingCommand_eq_none_iff]
  constructor
  · intro h hlast
    exact h (Or.inr hlast)
  · rintro h (hclean | hlast)
    · rw [desiredCommand_of_clean hfly hclean]
      exact .refl _
    · exact h hlast

/-! ### Runs -/

/-- A report as a command. -/
def reportedCommand (obs : S21OperationalObservation) : S21OperationCommand where
  onOff := obs.onOff
  operatingMode := operationalModeToS21OperatingMode
    (s21OperatingModeToOperationalMode obs.operatingMode)
  setpointCelsius := obs.setpointCelsius
  fanMode := fanSpeedToS21FanMode (s21FanModeToSpeedSetting obs.fanMode)

/-- The step does not leave the remembered command standing against the device: a
write that asks for it again finds the device showing it, and so does a report that
ends the flight and leaves it desired. -/
def MemoryAcknowledged (r : Reconciler) : KernelOp → Prop
  | .applyIntent now i =>
      r.state.noneInFlight →
        r.lastSentCommand = some (r.requestedCommand now i) →
        ShowsSame (r.requestedCommand now i) (observedCommand r.state)
  | .applyIntentBundle now is =>
      r.state.noneInFlight →
        r.lastSentCommand = some (r.requestedByBundle now is) →
        ShowsSame (r.requestedByBundle now is) (observedCommand r.state)
  | .applyOperationalObservation _ obs =>
      LandsAll r.state obs → r.lastSentCommand = some (commandAdopting r.state obs) →
        ShowsSame (commandAdopting r.state obs) (reportedCommand obs)
  | _ => True

/-- A report is observed as it stands, up to the setpoint of a mode without one. -/
theorem showsSame_observe (s : LogicalACState) (cfg : ReconcilerConfig)
    (obs : S21OperationalObservation) (c : S21OperationCommand) :
    ShowsSame c (observedCommand (observeOperational s cfg obs)) ↔
      ShowsSame c (reportedCommand obs) := by
  simp only [ShowsSame, observedCommand, reportedCommand, observe_onOff, observe_mode,
    observe_fan, TwinField.applyObservation_observed]
  refine and_congr_right fun _ => and_congr_right fun hm => and_congr_right fun _ => ?_
  rw [hm, s21OperatingMode_roundtrip]
  refine forall_congr' fun hb => ?_
  rw [observe_activeSetpoint s cfg obs hb, if_pos rfl, TwinField.applyObservation_observed]

/-- An operation that leaves the device views and the memory alone. -/
theorem faithfulAtRest_of_views {r r' : Reconciler}
    (hviews : LogicalACState.SameDeviceViews r.state r'.state)
    (hlast : r'.lastSentCommand = r.lastSentCommand) :
    FaithfulAtRest r' ↔
      (r.state.noneInFlight → r.lastSentCommand = some (desiredCommand r'.state) →
        ShowsSame (desiredCommand r'.state) (observedCommand r.state)) := by
  rw [faithfulAtRest_iff, noneInFlight_of_deviceViews hviews,
    observedCommand_of_deviceViews hviews, hlast]

/-- One step from a faithful state: the condition is exactly what it takes. -/
theorem faithfulAtRest_step (r : Reconciler) (op : KernelOp) (h : FaithfulAtRest r) :
    FaithfulAtRest (kernelStep r op) ↔ MemoryAcknowledged r op := by
  cases op with
  | applyIntent now i =>
      have hstep : FaithfulAtRest (r.apply now i) ↔ _ :=
        faithfulAtRest_of_views (apply_deviceViews r now i) rfl
      rw [desiredCommand_apply] at hstep
      exact hstep
  | applyIntentBundle now is =>
      obtain ⟨hviews, hlast⟩ := applyBundle_spec r now is
      have hstep := faithfulAtRest_of_views hviews hlast
      rw [desiredCommand_applyBundle] at hstep
      exact hstep
  | applyOperationalObservation now obs =>
      have hstate : (kernelStep r (.applyOperationalObservation now obs)).state =
          observeOperational r.state r.config obs := rfl
      have hlast : (kernelStep r (.applyOperationalObservation now obs)).lastSentCommand =
          r.lastSentCommand := rfl
      rw [faithfulAtRest_iff, hstate, hlast, noneInFlight_observe, desiredCommand_observe,
        showsSame_observe]
      exact Iff.rfl
  | applyEnvironmentalObservation obs =>
      -- sensors only
      exact iff_of_true ((faithfulAtRest_iff _).mpr ((faithfulAtRest_iff r).mp h)) trivial
  | notifyLinkDown =>
      exact iff_of_true ((faithfulAtRest_iff _).mpr ((faithfulAtRest_iff r).mp h)) trivial
  | onCommandSent cmd =>
      -- the power twin is in flight now
      refine iff_of_true (fun hfly => ?_) trivial
      have hon := hfly.1
      simp only [kernelStep, sent_onOff, TwinField.promote_inFlight] at hon
      cases hon
  | onCommandFailed =>
      refine iff_of_true ((faithfulAtRest_iff _).mpr fun _ hlast => ?_) trivial
      cases hlast

/-- The kernel starts out faithful: nothing has been sent. -/
theorem faithfulAtRest_new (config : ReconcilerConfig) (d : LogicalACStateDefaults) :
    FaithfulAtRest (.new config d) := by
  refine (faithfulAtRest_iff _).mpr fun _ hlast => ?_
  cases hlast

/-- **Faithful at rest.** From any boot, the subscribers' view is the device's own in
every state of rest a run passes through if and only if no step of the run leaves the
remembered command standing against the device. -/
theorem faithful_iff (config : ReconcilerConfig) (d : LogicalACStateDefaults)
    (ops : List KernelOp) :
    Lib.Throughout kernelStep FaithfulAtRest (.new config d) ops ↔
      Lib.Along kernelStep MemoryAcknowledged (.new config d) ops :=
  Lib.throughout_iff_along faithfulAtRest_step (faithfulAtRest_new config d)

/-- A unit that takes 31 °C for 30 °C: nothing is in flight, nothing is pending, and the
controller goes on seeing 31 °C. -/
theorem clamped_setpoint_not_faithful :
    let r := Lib.run kernelStep boot
      [.applyOperationalObservation 1 ⟨true, .cool, 2400, .auto, none⟩,
       .applyIntent 2000 (.setOccupiedCoolingSetpoint 3100),
       .onCommandSent ⟨true, .cool, 3100, .auto⟩,
       .applyOperationalObservation 2300 ⟨true, .cool, 3000, .auto, none⟩]
    Reachable r ∧ r.state.noneInFlight ∧ r.pendingCommand = none ∧
      Projector.projectedOccupiedCoolingSetpoint r.config.projector r.state = 3100 ∧
      ¬ FaithfulAtRest r := by
  intro r
  have hfly : r.state.noneInFlight := by decide +kernel
  have hpend : r.pendingCommand = none := by decide +kernel
  refine ⟨⟨_, _, _, rfl⟩, hfly, hpend, by decide +kernel, ?_⟩
  intro h
  obtain ⟨-, -, -, -, hcool, -⟩ := h hfly hpend
  exact absurd (hcool (by decide +kernel)) (by decide +kernel)

end Reconciler

end DaikinBridge.Sync
