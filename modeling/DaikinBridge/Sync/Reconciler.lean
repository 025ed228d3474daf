import DaikinBridge.Sync.Projector

/-!
# DaikinBridge.Sync.Reconciler

The policy engine of the bridge (`src/sync/reconciler.{h,cpp}`) and the thin
kernel around it (`bridge_kernel.h`).

The source holds the canonical state by reference; the model keeps it as a field,
so that a `Reconciler` value is the whole state of the kernel. Every entry point
becomes a function to the next value, paired with the change record the source
returns. The source reads the clock (`TimeSource::millis`) at every guard check, so an
entry point may read it several times; the model takes one reading, `now`, for the whole
call.
-/

namespace DaikinBridge.Sync

open S21 (OperatingMode FanMode)

/-- What the policies depend on. -/
structure ReconcilerConfig where
  /-- Guard window, in milliseconds. -/
  deviceWinsWindowMs : Int := 1000
  projector : ProjectorConfig := {}
  /-- Hysteresis of the temperature fallback of the running-mode fusion. -/
  runningModeHysteresisCentiC : Int16 := 50
  deriving DecidableEq, Repr

/-- Time of the last device observation of each twin; 0 before the first one. -/
structure LastDeviceTimes where
  onOff : Int := 0
  mode : Int := 0
  heatSetpoint : Int := 0
  coolSetpoint : Int := 0
  autoSetpoint : Int := 0
  fan : Int := 0
  deriving DecidableEq, Repr

/-- Returned by the mutation paths that can produce a command. -/
structure OperationalChange where
  dirtyAttributes : List LogicalAttribute
  sendCommand : Option S21OperationCommand
  deriving DecidableEq, Repr

/-- Returned by environmental observations, which cannot produce one. -/
structure EnvironmentalChange where
  dirtyAttributes : List LogicalAttribute
  deriving DecidableEq, Repr

/-- The reconciler with the state it keeps: the command last sent, for the dedup, and the times
of the last observations, for the guard window. -/
structure Reconciler where
  state : LogicalACState
  config : ReconcilerConfig
  lastSentCommand : Option S21OperationCommand
  lastDeviceObserved : LastDeviceTimes
  deriving DecidableEq, Repr

namespace Reconciler

/-- The constructor, over a state built from boot defaults. -/
def new (config : ReconcilerConfig) (d : LogicalACStateDefaults) : Reconciler where
  state := .new d
  config := config
  lastSentCommand := none
  lastDeviceObserved := {}

/-- The kernel as production builds it. -/
def boot : Reconciler := .new {} {}

/-! ### Running-mode fusion -/

/-- `Reconciler::fuseRunningMode`. -/
def fuseRunningMode (s : LogicalACState) (config : ReconcilerConfig) (onOff : Bool)
    (s21OperatingMode : OperatingMode) (refrigerantValveOpen : Option Bool) : RunningMode :=
  if !onOff then .off
  else
    match s21OperatingModeDirectionHint s21OperatingMode with
    | some hint => hint
    | none =>
      let opMode := s21OperatingModeToOperationalMode s21OperatingMode
      match refrigerantValveOpen with
      | some false => .off
      | some true =>
          match opMode with
          | .cool => .cooling
          | .heat => .heating
          | .auto =>
              match s.indoorTemp.observed with
              | some indoor =>
                  if indoor.toInt < s.autoSetpoint.observed.toInt then .heating else .cooling
              | none => .cooling
          | .dry => .off
          | .fanOnly => .off
      | none =>
          match s.indoorTemp.observed with
          | none => .off
          | some indoor =>
              let hyst := config.runningModeHysteresisCentiC.toInt
              match opMode with
              | .cool =>
                  if s.coolSetpoint.observed.toInt + hyst ≥ indoor.toInt then .off else .cooling
              | .heat =>
                  if s.heatSetpoint.observed.toInt - hyst ≤ indoor.toInt then .off else .heating
              | .auto =>
                  if indoor.toInt > s.autoSetpoint.observed.toInt + hyst then .cooling
                  else if indoor.toInt < s.autoSetpoint.observed.toInt - hyst then .heating
                  else .off
              | .dry => .off
              | .fanOnly => .off

/-! ### Guard window and intents -/

/-- `Reconciler::intentPassesGuard`. -/
def intentPassesGuard (r : Reconciler) (now lastDeviceObservationMs : Int)
    (valueDiffersFromObserved : Bool) : Bool :=
  if !valueDiffersFromObserved then true
  else if lastDeviceObservationMs = 0 then true
  else now - lastDeviceObservationMs ≥ r.config.deviceWinsWindowMs

section Intents

variable (r : Reconciler) (now : Int)

/-- `apply(SetOnOffIntent)`; like its siblings, the state it leaves. -/
def applySetOnOff (value : Bool) : LogicalACState :=
  if r.intentPassesGuard now r.lastDeviceObserved.onOff (value ≠ r.state.onOff.observed) then
    { r.state with onOff := r.state.onOff.setDesired value }
  else r.state

/-- `apply(SetSystemModeIntent)`: power first; the mode follows only on power-on,
and each axis has its own guard check. -/
def applySetSystemMode (power : Bool) (mode : OperationalMode) : LogicalACState :=
  let s :=
    if r.intentPassesGuard now r.lastDeviceObserved.onOff (power ≠ r.state.onOff.observed) then
      { r.state with onOff := r.state.onOff.setDesired power }
    else r.state
  if power && r.intentPassesGuard now r.lastDeviceObserved.mode (mode ≠ s.mode.observed) then
    { s with mode := s.mode.setDesired mode }
  else s

/-- `apply(SetOccupiedHeatingSetpointIntent)`. In Auto the heat edge moves the
centre to the midpoint of the projected cool edge and the written value. -/
def applySetOccupiedHeatingSetpoint (value : Int16) : LogicalACState :=
  let s := r.state
  match s.mode.observed with
  | .heat =>
      if r.intentPassesGuard now r.lastDeviceObserved.heatSetpoint
          (value ≠ s.heatSetpoint.observed) then
        { s with heatSetpoint := s.heatSetpoint.setDesired value }
      else s
  | .auto =>
      let projectedCool := Int16.ofInt
        (s.autoSetpoint.desired.toInt + r.config.projector.autoBandHalfWidthCentiC.toInt)
      let newCentre := Int16.ofInt ((projectedCool.toInt + value.toInt).tdiv 2)
      if r.intentPassesGuard now r.lastDeviceObserved.autoSetpoint
          (newCentre ≠ s.autoSetpoint.observed) then
        { s with autoSetpoint := s.autoSetpoint.setDesired newCentre }
      else s
  -- inactive-mode shadow write, unguarded
  | _ => { s with heatSetpoint := s.heatSetpoint.setDesired value }

/-- `apply(SetOccupiedCoolingSetpointIntent)`. -/
def applySetOccupiedCoolingSetpoint (value : Int16) : LogicalACState :=
  let s := r.state
  match s.mode.observed with
  | .cool =>
      if r.intentPassesGuard now r.lastDeviceObserved.coolSetpoint
          (value ≠ s.coolSetpoint.observed) then
        { s with coolSetpoint := s.coolSetpoint.setDesired value }
      else s
  | .auto =>
      let projectedHeat := Int16.ofInt
        (s.autoSetpoint.desired.toInt - r.config.projector.autoBandHalfWidthCentiC.toInt)
      let newCentre := Int16.ofInt ((value.toInt + projectedHeat.toInt).tdiv 2)
      if r.intentPassesGuard now r.lastDeviceObserved.autoSetpoint
          (newCentre ≠ s.autoSetpoint.observed) then
        { s with autoSetpoint := s.autoSetpoint.setDesired newCentre }
      else s
  | _ => { s with coolSetpoint := s.coolSetpoint.setDesired value }

/-- `Reconciler::powerOnForFanWrite`. -/
def powerOnForFanWrite : LogicalACState :=
  if r.state.onOff.observed then r.state
  else if r.intentPassesGuard now r.lastDeviceObserved.onOff true then
    { r.state with onOff := r.state.onOff.setDesired true }
  else r.state

/-- The common part of the two fan writes: power on, set the level, and remember
the percent that goes with it. -/
def writeFan (fan : FanSpeed) (percent : Option UInt8) : LogicalACState :=
  if r.intentPassesGuard now r.lastDeviceObserved.fan (fan ≠ r.state.fan.observed) then
    let s := r.powerOnForFanWrite now
    { s with fan := s.fan.setDesired fan, fanPercentSetting := percent }
  else r.state

/-- `apply(SetSpeedSettingIntent)`: the percent is re-derived from the level. -/
def applySetSpeedSetting (value : FanSpeed) : LogicalACState :=
  r.writeFan now value (value.map fun level => speedLevelToPercent level.toUInt8)

/-- `apply(SetPercentSettingIntent)`: a null write changes nothing, and otherwise
the exact percent is remembered. -/
def applySetPercentSetting (value : Option UInt8) : LogicalACState :=
  match value with
  | none => r.state
  | some percent => r.writeFan now (some (percentToSpeedLevel percent)) (some percent)

/-- `std::visit` over the intent: apply it to the state. -/
def apply (intent : WriteIntent) : Reconciler :=
  { r with
    state :=
      match intent with
      | .setOnOff value => r.applySetOnOff now value
      | .setSystemMode power mode => r.applySetSystemMode now power mode
      | .setOccupiedHeatingSetpoint value => r.applySetOccupiedHeatingSetpoint now value
      | .setOccupiedCoolingSetpoint value => r.applySetOccupiedCoolingSetpoint now value
      | .setSpeedSetting value => r.applySetSpeedSetting now value
      | .setPercentSetting value => r.applySetPercentSetting now value }

end Intents

/-! ### Pending command -/

/-- The command the reconciler builds from the desired values. -/
def desiredCommand (s : LogicalACState) : S21OperationCommand where
  onOff := s.onOff.desired
  operatingMode := operationalModeToS21OperatingMode s.mode.desired
  setpointCelsius :=
    match s.mode.desired with
    | .cool => s.coolSetpoint.desired
    | .heat => s.heatSetpoint.desired
    | .auto => s.autoSetpoint.desired
    | .dry => s.autoSetpoint.desired
    | .fanOnly => s.autoSetpoint.desired
  fanMode := fanSpeedToS21FanMode s.fan.desired

/-- Is any of the six twins dirty? -/
def anyDirty (s : LogicalACState) : Bool :=
  s.onOff.dirty || s.mode.dirty || s.heatSetpoint.dirty || s.coolSetpoint.dirty ||
    s.autoSetpoint.dirty || s.fan.dirty

/-- `Reconciler::pendingCommand`: nothing when nothing is dirty, or when the
command is the one last sent. -/
def pendingCommand (r : Reconciler) : Option S21OperationCommand :=
  if !anyDirty r.state then none
  else
    let cmd := desiredCommand r.state
    if r.lastSentCommand = some cmd then none else some cmd

/-! ### Entry points -/

/-- `Reconciler::applyIntent`. -/
def applyIntent (r : Reconciler) (now : Int) (intent : WriteIntent) :
    Reconciler × OperationalChange :=
  let before := Projector.project r.config.projector r.state
  let r' := r.apply now intent
  let after := Projector.project r'.config.projector r'.state
  (r', { dirtyAttributes := diffProjections before after, sendCommand := r'.pendingCommand })

/-- The last heat-edge write of a bundle. -/
def lastHeat (intents : List WriteIntent) : Option Int16 :=
  intents.foldl (fun last intent =>
    match intent with
    | .setOccupiedHeatingSetpoint value => some value
    | _ => last) none

/-- The last cool-edge write of a bundle. -/
def lastCool (intents : List WriteIntent) : Option Int16 :=
  intents.foldl (fun last intent =>
    match intent with
    | .setOccupiedCoolingSetpoint value => some value
    | _ => last) none

/-- Does the intent write a setpoint edge? -/
def isSetpointEdge : WriteIntent → Bool
  | .setOccupiedHeatingSetpoint _ => true
  | .setOccupiedCoolingSetpoint _ => true
  | _ => false

/-- Apply intents one after the other. -/
def applyEach (r : Reconciler) (now : Int) (intents : List WriteIntent) : Reconciler :=
  intents.foldl (fun acc intent => acc.apply now intent) r

/-- The collapsed Auto-band edit of a bundle: one guarded move of the centre. -/
def collapseAutoBand (r : Reconciler) (now : Int) (heat cool : Int16) : Reconciler :=
  let newCentre := Int16.ofInt ((heat.toInt + cool.toInt).tdiv 2)
  if r.intentPassesGuard now r.lastDeviceObserved.autoSetpoint
      (newCentre ≠ r.state.autoSetpoint.observed) then
    { r with state := { r.state with autoSetpoint := r.state.autoSetpoint.setDesired newCentre } }
  else r

/-- The state part of `applyIntentBundle`: in Auto, a heat and a cool write
collapse to one, and the other intents are applied one by one. -/
def applyBundle (r : Reconciler) (now : Int) (intents : List WriteIntent) : Reconciler :=
  match lastHeat intents, lastCool intents with
  | some heat, some cool =>
      if r.state.mode.observed = .auto then
        (r.collapseAutoBand now heat cool).applyEach now
          (intents.filter fun intent => !isSetpointEdge intent)
      else r.applyEach now intents
  | _, _ => r.applyEach now intents

/-- `Reconciler::applyIntentBundle`. -/
def applyIntentBundle (r : Reconciler) (now : Int) (intents : List WriteIntent) :
    Reconciler × OperationalChange :=
  let before := Projector.project r.config.projector r.state
  let r' := r.applyBundle now intents
  let after := Projector.project r'.config.projector r'.state
  (r', { dirtyAttributes := diffProjections before after, sendCommand := r'.pendingCommand })

/-- The remembered percent after an observation: re-derived only when the observed
level changed and the change is attributed to the device. -/
def rederivePercent (before after : TwinField FanSpeed) (percent : Option UInt8) :
    Option UInt8 :=
  if after.observed ≠ before.observed ∧ after.attribution = .device then
    after.observed.map fun level => speedLevelToPercent level.toUInt8
  else percent

/-- The state part of `Reconciler::applyOperationalObservation`. -/
def observeOperational (s : LogicalACState) (config : ReconcilerConfig)
    (obs : S21OperationalObservation) : LogicalACState :=
  let s := { s with onOff := s.onOff.applyObservation obs.onOff .device }
  let observedMode := s21OperatingModeToOperationalMode obs.operatingMode
  let s := { s with mode := s.mode.applyObservation observedMode .device }
  -- the setpoint goes to the twin of the *observed* mode
  let s := s.routeSetpoint observedMode fun t => t.applyObservation obs.setpointCelsius .device
  let fan := s.fan.applyObservation (s21FanModeToSpeedSetting obs.fanMode) .device
  let s := { s with
    fan := fan
    fanPercentSetting := rederivePercent s.fan fan s.fanPercentSetting }
  let s := { s with
    refrigerantValveOpen := s.refrigerantValveOpen.applyObservation obs.refrigerantValveOpen }
  let s := { s with
    runningMode := s.runningMode.applyObservation
      (fuseRunningMode s config obs.onOff obs.operatingMode obs.refrigerantValveOpen) }
  { s with reachable := s.reachable.applyObservation true }

/-- The timestamps an operational observation refreshes. -/
def stampObservation (t : LastDeviceTimes) (observedMode : OperationalMode) (now : Int) :
    LastDeviceTimes :=
  let t := { t with onOff := now, mode := now, fan := now }
  match observedMode with
  | .cool => { t with coolSetpoint := now }
  | .heat => { t with heatSetpoint := now }
  | .auto => { t with autoSetpoint := now }
  | .dry => t
  | .fanOnly => t

/-- `Reconciler::applyOperationalObservation`. -/
def applyOperationalObservation (r : Reconciler) (now : Int) (obs : S21OperationalObservation) :
    Reconciler × OperationalChange :=
  let before := Projector.project r.config.projector r.state
  let r' := { r with
    state := observeOperational r.state r.config obs
    lastDeviceObserved := stampObservation r.lastDeviceObserved
      (s21OperatingModeToOperationalMode obs.operatingMode) now }
  let after := Projector.project r'.config.projector r'.state
  (r', { dirtyAttributes := diffProjections before after, sendCommand := r'.pendingCommand })

/-- `Reconciler::applyEnvironmentalObservation`. -/
def applyEnvironmentalObservation (r : Reconciler) (obs : S21EnvironmentalObservation) :
    Reconciler × EnvironmentalChange :=
  let before := Projector.project r.config.projector r.state
  let r' := { r with state := { r.state with
    indoorTemp := r.state.indoorTemp.applyObservation (some obs.indoorTemperatureCelsius)
    outdoorTemp := r.state.outdoorTemp.applyObservation (some obs.outdoorTemperatureCelsius)
    humidity := r.state.humidity.applyObservation (some obs.indoorRelativeHumidityPercent) } }
  let after := Projector.project r'.config.projector r'.state
  (r', { dirtyAttributes := diffProjections before after })

/-- `Reconciler::onCommandSent`: remember the command, and promote what is desired
*now*, whatever the command says. -/
def onCommandSent (r : Reconciler) (cmd : S21OperationCommand) : Reconciler :=
  let s := r.state
  let s := { s with
    onOff := s.onOff.promoteDesiredToInFlight
    mode := s.mode.promoteDesiredToInFlight }
  let s := s.routeSetpoint s.mode.desired fun t => t.promoteDesiredToInFlight
  let s := { s with fan := s.fan.promoteDesiredToInFlight }
  { r with state := s, lastSentCommand := some cmd }

/-- `Reconciler::onCommandFailed`: only the dedup memory is cleared. -/
def onCommandFailed (r : Reconciler) : Reconciler :=
  { r with lastSentCommand := none }

/-- `BridgeKernel::notifyLinkDown`. -/
def notifyLinkDown (r : Reconciler) : Reconciler :=
  { r with state := { r.state with reachable := r.state.reachable.applyObservation false } }

end Reconciler

end DaikinBridge.Sync
