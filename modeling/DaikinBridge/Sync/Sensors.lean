import DaikinBridge.Sync.ReconcilerSpec

/-!
# DaikinBridge.Sync.Sensors

Environmental observations have no influence on commands.

They write the temperature and humidity sensors. The indoor temperature does flow on,
into the fused running mode, at the next operational observation; it goes no further.
`withoutSensors` blanks the three sensors and the running mode. What is left of the
state determines, at every other operation, the command returned, the pending command,
the twins, the remembered percent and the projection up to those four attributes
(`kernelStep_withoutSensors`), and an environmental observation leaves it alone. The
statement about two runs (`sensors_have_no_influence`) is the unwinding rule of
`Lib.Runs`.
-/

namespace DaikinBridge.Sync

/-- The state with the environmental sensors and the running mode blanked. -/
def LogicalACState.withoutSensors (s : LogicalACState) : LogicalACState :=
  { s with
    runningMode := ⟨.off⟩
    indoorTemp := ⟨none⟩
    outdoorTemp := ⟨none⟩
    humidity := ⟨none⟩ }

/-- The projection with the four sensor attributes blanked. -/
def ProjectedClusterState.withoutSensors (p : ProjectedClusterState) : ProjectedClusterState :=
  { p with
    runningMode := .off
    localTemperature := none
    outdoorTemperature := none
    humidityCentiPercent := none }

namespace Reconciler

/-- The kernel with the sensors of its state blanked. -/
def withoutSensors (r : Reconciler) : Reconciler := { r with state := r.state.withoutSensors }

/-- An environmental observation? -/
def KernelOp.isEnvironmental : KernelOp → Bool
  | .applyEnvironmentalObservation _ => true
  | _ => false

/-! ### Every operation commutes with blanking -/

section Commute

variable (r : Reconciler) (now : Int)

theorem writeFan_withoutSensors (fan : FanSpeed) (percent : Option UInt8) :
    (r.writeFan now fan percent).withoutSensors = r.withoutSensors.writeFan now fan percent := by
  have hpower : (r.powerOnForFanWrite now).withoutSensors =
      r.withoutSensors.powerOnForFanWrite now := by
    unfold powerOnForFanWrite
    rw [apply_ite LogicalACState.withoutSensors, apply_ite LogicalACState.withoutSensors]
    rfl
  unfold writeFan
  rw [apply_ite LogicalACState.withoutSensors]
  rw [← hpower]
  rfl

theorem applySetSystemMode_withoutSensors (power : Bool) (mode : OperationalMode) :
    (r.applySetSystemMode now power mode).withoutSensors =
      r.withoutSensors.applySetSystemMode now power mode := by
  unfold applySetSystemMode
  dsimp only
  rw [apply_ite LogicalACState.withoutSensors]
  by_cases hon : r.intentPassesGuard now r.lastDeviceObserved.onOff
      (power ≠ r.state.onOff.observed) = true
  · have hon' : r.withoutSensors.intentPassesGuard now r.withoutSensors.lastDeviceObserved.onOff
        (power ≠ r.withoutSensors.state.onOff.observed) = true := hon
    rw [if_pos hon, if_pos hon']
    rfl
  · have hon' : ¬ r.withoutSensors.intentPassesGuard now
        r.withoutSensors.lastDeviceObserved.onOff
        (power ≠ r.withoutSensors.state.onOff.observed) = true := hon
    rw [if_neg hon, if_neg hon']
    rfl

theorem apply_withoutSensors (i : WriteIntent) :
    (r.apply now i).withoutSensors = r.withoutSensors.apply now i := by
  have hstate : (r.apply now i).state.withoutSensors =
      (r.withoutSensors.apply now i).state := by
    cases i with
    | setOnOff value =>
        show (r.applySetOnOff now value).withoutSensors = _
        unfold applySetOnOff
        rw [apply_ite LogicalACState.withoutSensors]
        rfl
    | setSystemMode power mode => exact applySetSystemMode_withoutSensors r now power mode
    | setOccupiedHeatingSetpoint value =>
        have hmode : r.withoutSensors.state.mode.observed = r.state.mode.observed := rfl
        simp only [apply, applySetOccupiedHeatingSetpoint, hmode]
        cases r.state.mode.observed with
        | heat => rw [apply_ite LogicalACState.withoutSensors]; rfl
        | auto => rw [apply_ite LogicalACState.withoutSensors]; rfl
        | _ => rfl
    | setOccupiedCoolingSetpoint value =>
        have hmode : r.withoutSensors.state.mode.observed = r.state.mode.observed := rfl
        simp only [apply, applySetOccupiedCoolingSetpoint, hmode]
        cases r.state.mode.observed with
        | cool => rw [apply_ite LogicalACState.withoutSensors]; rfl
        | auto => rw [apply_ite LogicalACState.withoutSensors]; rfl
        | _ => rfl
    | setSpeedSetting value => exact writeFan_withoutSensors r now _ _
    | setPercentSetting value =>
        cases value with
        | none => rfl
        | some percent => exact writeFan_withoutSensors r now _ _
  unfold withoutSensors
  rw [hstate]
  rfl

theorem applyEach_withoutSensors (intents : List WriteIntent) :
    (r.applyEach now intents).withoutSensors = r.withoutSensors.applyEach now intents := by
  induction intents generalizing r with
  | nil => rfl
  | cons i rest ih =>
      have hrest := ih (r.apply now i)
      rw [apply_withoutSensors] at hrest
      exact hrest

theorem collapseAutoBand_withoutSensors (heat cool : Int16) :
    (r.collapseAutoBand now heat cool).withoutSensors =
      r.withoutSensors.collapseAutoBand now heat cool := by
  unfold collapseAutoBand
  dsimp only
  rw [apply_ite Reconciler.withoutSensors]
  rfl

theorem applyBundle_withoutSensors (intents : List WriteIntent) :
    (r.applyBundle now intents).withoutSensors = r.withoutSensors.applyBundle now intents := by
  have hmode : r.withoutSensors.state.mode.observed = r.state.mode.observed := rfl
  unfold applyBundle
  rw [hmode]
  cases lastHeat intents with
  | none => exact applyEach_withoutSensors r now intents
  | some heat =>
      cases lastCool intents with
      | none => exact applyEach_withoutSensors r now intents
      | some cool =>
          dsimp only
          split
          · rw [applyEach_withoutSensors, collapseAutoBand_withoutSensors]
          · exact applyEach_withoutSensors r now intents

end Commute

/-- The running mode is the only thing an operational observation takes from the
sensors. -/
theorem observeOperational_withoutSensors (s : LogicalACState) (cfg : ReconcilerConfig)
    (obs : S21OperationalObservation) :
    (observeOperational s cfg obs).withoutSensors =
      (observeOperational s.withoutSensors cfg obs).withoutSensors := by
  unfold observeOperational
  cases s21OperatingModeToOperationalMode obs.operatingMode <;> rfl

theorem onCommandSent_withoutSensors (r : Reconciler) (c : S21OperationCommand) :
    (r.onCommandSent c).withoutSensors = (r.withoutSensors.onCommandSent c).withoutSensors := by
  have hmode : r.withoutSensors.state.mode.desired = r.state.mode.desired := rfl
  simp only [onCommandSent, TwinField.promote_desired, hmode]
  cases r.state.mode.desired <;> rfl

/-- What is left of the state after any operation depends on what was left before. -/
theorem kernelStep_withoutSensors (r : Reconciler) (op : KernelOp) :
    (kernelStep r op).withoutSensors = (kernelStep r.withoutSensors op).withoutSensors := by
  cases op with
  | applyIntent now i =>
      show (r.apply now i).withoutSensors = (r.withoutSensors.apply now i).withoutSensors
      rw [apply_withoutSensors, apply_withoutSensors]
      rfl
  | applyIntentBundle now is =>
      show (r.applyBundle now is).withoutSensors =
        (r.withoutSensors.applyBundle now is).withoutSensors
      rw [applyBundle_withoutSensors, applyBundle_withoutSensors]
      rfl
  | applyOperationalObservation now obs =>
      have hstate := observeOperational_withoutSensors r.state r.config obs
      simp only [kernelStep, applyOperationalObservation, withoutSensors, hstate]
  | applyEnvironmentalObservation obs => rfl
  | onCommandSent cmd => exact onCommandSent_withoutSensors r cmd
  | onCommandFailed => rfl
  | notifyLinkDown => rfl

/-! ### What the other operations show -/

/-- The command an operation returns, if it is one that can. -/
def sendResult (r : Reconciler) : KernelOp → Option S21OperationCommand
  | .applyIntent now i => (r.applyIntent now i).2.sendCommand
  | .applyIntentBundle now is => (r.applyIntentBundle now is).2.sendCommand
  | .applyOperationalObservation now obs => (r.applyOperationalObservation now obs).2.sendCommand
  | _ => none

/-- The part of a state that sensors must not reach: the pending command, the twins,
the remembered percent, and the projection up to the sensor attributes. -/
structure CommandView where
  pending : Option S21OperationCommand
  onOff : TwinField Bool
  mode : TwinField OperationalMode
  heatSetpoint : TwinField Int16
  coolSetpoint : TwinField Int16
  autoSetpoint : TwinField Int16
  fan : TwinField FanSpeed
  fanPercentSetting : Option UInt8
  projection : ProjectedClusterState

/-- That part of a kernel. -/
def commandView (r : Reconciler) : CommandView where
  pending := r.pendingCommand
  onOff := r.state.onOff
  mode := r.state.mode
  heatSetpoint := r.state.heatSetpoint
  coolSetpoint := r.state.coolSetpoint
  autoSetpoint := r.state.autoSetpoint
  fan := r.state.fan
  fanPercentSetting := r.state.fanPercentSetting
  projection := (Projector.project r.config.projector r.state).withoutSensors

theorem commandView_withoutSensors (r : Reconciler) :
    r.withoutSensors.commandView = r.commandView := rfl

/-- An operation returns a command only if it is pending afterwards. -/
theorem sendResult_withoutSensors (r : Reconciler) (op : KernelOp) :
    r.sendResult op = r.withoutSensors.sendResult op := by
  have hpending : (kernelStep r op).pendingCommand =
      (kernelStep r.withoutSensors op).pendingCommand := by
    have hstep := congrArg commandView (kernelStep_withoutSensors r op)
    exact congrArg CommandView.pending hstep
  cases op with
  | applyIntent now i => exact hpending
  | applyIntentBundle now is => exact hpending
  | applyOperationalObservation now obs => exact hpending
  | _ => rfl

/-- What an operation shows: the command it returns, and the view it leaves. -/
def displayed (r : Reconciler) (op : KernelOp) : Option S21OperationCommand × CommandView :=
  (r.sendResult op, (kernelStep r op).commandView)

/-- **Sensors have no influence on commands.** Two runs from one state that differ only
in their environmental observations return the same commands, and agree, after every
common operation and at the end, on the pending command, the twins, the remembered
percent, and the projection up to running mode, temperatures and humidity. -/
theorem sensors_have_no_influence (r : Reconciler) {ops ops' : List KernelOp}
    (hsame : (ops.filter fun op => !op.isEnvironmental) =
      ops'.filter fun op => !op.isEnvironmental) :
    Lib.shown kernelStep KernelOp.isEnvironmental displayed r ops =
        Lib.shown kernelStep KernelOp.isEnvironmental displayed r ops' ∧
      (Lib.run kernelStep r ops).commandView = (Lib.run kernelStep r ops').commandView := by
  have hhidden : ∀ (r : Reconciler) (op : KernelOp), op.isEnvironmental = true →
      (kernelStep r op).withoutSensors = r.withoutSensors := by
    intro r op hop
    cases op <;> first | rfl | cases hop
  have hopen : ∀ (r t : Reconciler) (op : KernelOp), op.isEnvironmental = false →
      r.withoutSensors = t.withoutSensors →
      displayed r op = displayed t op ∧
        (kernelStep r op).withoutSensors = (kernelStep t op).withoutSensors := by
    intro r t op _ hview
    have hnext : (kernelStep r op).withoutSensors = (kernelStep t op).withoutSensors := by
      rw [kernelStep_withoutSensors r, kernelStep_withoutSensors t, hview]
    refine ⟨?_, hnext⟩
    unfold displayed
    rw [sendResult_withoutSensors r, sendResult_withoutSensors t, hview,
      ← commandView_withoutSensors (kernelStep r op), hnext, commandView_withoutSensors]
  obtain ⟨hshown, hend⟩ := Lib.shown_congr hhidden hopen r hsame
  refine ⟨hshown, ?_⟩
  rw [← commandView_withoutSensors, hend, commandView_withoutSensors]

/-- A poll in Auto with the valve open, in a cold room and with no room temperature: the
running modes differ, the commands do not. -/
theorem cold_room_does_not_change_commands :
    let report : KernelOp := .applyOperationalObservation 1 ⟨true, .auto, 2200, .auto, some true⟩
    let cold : KernelOp := .applyEnvironmentalObservation ⟨1000, 500, 40⟩
    (Lib.run kernelStep boot [cold, report]).state.runningMode ≠
        (Lib.run kernelStep boot [report]).state.runningMode ∧
      (Lib.run kernelStep boot [cold, report]).commandView =
        (Lib.run kernelStep boot [report]).commandView := by
  intro report cold
  exact ⟨by decide +kernel, (sensors_have_no_influence boot rfl).2⟩

end Reconciler

end DaikinBridge.Sync
