import DaikinBridge.S21.Presentation
import DaikinBridge.Sync.TwinField

/-!
# DaikinBridge.Sync.State

The data the bridge kernel works on: `LogicalACState` with its boot defaults
(`src/sync/logical_ac_state.h`), the operating modes (`operational_mode.h`), the
fan mapping (`fan_mapping.h`), and the three message types that flow through it,
`S21OperationCommand` (`s21_command.h`), the two observations
(`s21_observation.h`) and `WriteIntent` (`write_intent.h`).

The static routing helpers of `Reconciler` between S21 codes and the kernel's own
modes and fan levels sit here too, next to the types they relate.

Temperatures are `Int16` in 0.01 °C; the source computes on them in `int` and
narrows the result back, which the model writes as `Int16.ofInt` of an integer
expression over `toInt`.
-/

namespace DaikinBridge.Sync

open S21 (OperatingMode FanMode)

/-! ### Modes -/

/-- The modes the device can be driven to; power is a separate axis. -/
inductive OperationalMode
  | auto
  | cool
  | heat
  | dry
  | fanOnly
  deriving DecidableEq, Repr

/-- What the device is currently doing. -/
inductive RunningMode
  | off
  | cooling
  | heating
  deriving DecidableEq, Repr

/-- Does the mode have a setpoint twin of its own? The cases of the `switch`
statements that route setpoints; dry and fan-only carry no setpoint. -/
def OperationalMode.bearsSetpoint : OperationalMode → Bool
  | .cool => true
  | .heat => true
  | .auto => true
  | .dry => false
  | .fanOnly => false

/-- `Reconciler::operationalModeToS21OperatingMode`. -/
def operationalModeToS21OperatingMode : OperationalMode → OperatingMode
  | .cool => .cool
  | .heat => .heat
  | .dry => .dry
  | .fanOnly => .fanOnly
  | .auto => .auto

/-- `Reconciler::s21OperatingModeToOperationalMode`. The three spellings of Auto
and, through the return after the `switch`, every undeclared byte give Auto. -/
def s21OperatingModeToOperationalMode (m : OperatingMode) : OperationalMode :=
  if m = .cool then .cool
  else if m = .heat then .heat
  else if m = .dry then .dry
  else if m = .fanOnly then .fanOnly
  else .auto

/-- `Reconciler::s21OperatingModeDirectionHint`. -/
def s21OperatingModeDirectionHint (m : OperatingMode) : Option RunningMode :=
  if m = .autoCooling then some .cooling
  else if m = .autoHeating then some .heating
  else none

@[simp] theorem s21OperatingMode_roundtrip (m : OperationalMode) :
    s21OperatingModeToOperationalMode (operationalModeToS21OperatingMode m) = m := by
  cases m <;> decide

theorem operationalModeToS21OperatingMode_inj {m n : OperationalMode} :
    operationalModeToS21OperatingMode m = operationalModeToS21OperatingMode n ↔ m = n := by
  refine ⟨fun h => ?_, fun h => h ▸ rfl⟩
  rw [← s21OperatingMode_roundtrip m, h, s21OperatingMode_roundtrip]

/-! ### Fan levels -/

/-- Named S21 fan-speed levels. -/
inductive FanLevel
  | quiet
  | low
  | midLow
  | medium
  | midHigh
  | high
  deriving DecidableEq, Repr

/-- The underlying value, which is the Matter `SpeedSetting` (1..6). -/
def FanLevel.toUInt8 : FanLevel → UInt8
  | .quiet => 1
  | .low => 2
  | .midLow => 3
  | .medium => 4
  | .midHigh => 5
  | .high => 6

theorem FanLevel.toUInt8_inj {l k : FanLevel} : l.toUInt8 = k.toUInt8 ↔ l = k := by
  cases l <;> cases k <;> decide

/-- A fan setting; `none` is Auto. -/
abbrev FanSpeed := Option FanLevel

/-- `Reconciler::fanSpeedToS21FanMode`. -/
def fanSpeedToS21FanMode : FanSpeed → FanMode
  | none => .auto
  | some .quiet => .quiet
  | some .low => .low
  | some .midLow => .midLow
  | some .medium => .medium
  | some .midHigh => .midHigh
  | some .high => .high

/-- `Reconciler::s21FanModeToSpeedSetting`; an undeclared byte gives Auto. -/
def s21FanModeToSpeedSetting (m : FanMode) : FanSpeed :=
  if m = .auto then none
  else if m = .quiet then some .quiet
  else if m = .low then some .low
  else if m = .midLow then some .midLow
  else if m = .medium then some .medium
  else if m = .midHigh then some .midHigh
  else if m = .high then some .high
  else none

@[simp] theorem s21FanMode_roundtrip (f : FanSpeed) :
    s21FanModeToSpeedSetting (fanSpeedToS21FanMode f) = f := by
  rcases f with _ | l
  · decide
  · cases l <;> decide

theorem fanSpeedToS21FanMode_inj {f g : FanSpeed} :
    fanSpeedToS21FanMode f = fanSpeedToS21FanMode g ↔ f = g := by
  refine ⟨fun h => ?_, fun h => h ▸ rfl⟩
  rw [← s21FanMode_roundtrip f, h, s21FanMode_roundtrip]

/-- The coarse fan mode of the FanControl cluster. -/
inductive FanModeCategory
  | off
  | low
  | medium
  | high
  | auto
  deriving DecidableEq, Repr

/-- The highest level, SpeedMax. -/
def kFanSpeedMax : Nat := 6

/-- `speedLevelToPercent` on the underlying value of a level. The projector also
applies it to the value 0 of a powered-off fan, which no enumerator has. -/
def speedLevelToPercent (level : UInt8) : UInt8 :=
  UInt8.ofNat (level.toNat * 100 / kFanSpeedMax)

/-- `percentToSpeedLevel`: the rounded-up level, clamped to 1..6. -/
def percentToSpeedLevel (percent : UInt8) : FanLevel :=
  match (kFanSpeedMax * percent.toNat + 99) / 100 with
  | 0 => .quiet
  | 1 => .quiet
  | 2 => .low
  | 3 => .midLow
  | 4 => .medium
  | 5 => .midHigh
  | _ => .high

/-- `fanModeOf`: the range of levels a running fan setting falls in. -/
def fanModeOf : FanSpeed → FanModeCategory
  | none => .auto
  | some .quiet => .low
  | some .low => .low
  | some .midLow => .medium
  | some .medium => .medium
  | some .midHigh => .high
  | some .high => .high

/-! ### Messages -/

/-- The device command the reconciler emits. -/
structure S21OperationCommand where
  onOff : Bool
  operatingMode : OperatingMode
  setpointCelsius : Int16
  fanMode : FanMode
  deriving DecidableEq, Repr

/-- The operational half of a poll. -/
structure S21OperationalObservation where
  onOff : Bool
  operatingMode : OperatingMode
  setpointCelsius : Int16
  fanMode : FanMode
  refrigerantValveOpen : Option Bool
  deriving DecidableEq, Repr

/-- The environmental half of a poll. -/
structure S21EnvironmentalObservation where
  indoorTemperatureCelsius : Int16
  outdoorTemperatureCelsius : Int16
  indoorRelativeHumidityPercent : UInt8
  deriving DecidableEq, Repr

/-- The cluster-attribute writes the bridge accepts from controllers. -/
inductive WriteIntent
  | setOnOff (value : Bool)
  | setSystemMode (power : Bool) (mode : OperationalMode)
  | setOccupiedHeatingSetpoint (value : Int16)
  | setOccupiedCoolingSetpoint (value : Int16)
  | setSpeedSetting (value : FanSpeed)
  | setPercentSetting (value : Option UInt8)
  deriving DecidableEq, Repr

/-! ### The canonical state -/

/-- Boot-time defaults. -/
structure LogicalACStateDefaults where
  onOff : Bool := false
  mode : OperationalMode := .auto
  heatSetpoint : Int16 := 2000
  coolSetpoint : Int16 := 2500
  autoSetpoint : Int16 := 2200
  fan : FanSpeed := none
  fanPercentSetting : Option UInt8 := none
  runningMode : RunningMode := .off
  indoorTemp : Option Int16 := none
  outdoorTemp : Option Int16 := none
  humidity : Option UInt8 := none
  refrigerantValveOpen : Option Bool := none
  reachable : Bool := false
  deriving DecidableEq, Repr

/-- The bridge's canonical air-conditioner state. -/
structure LogicalACState where
  onOff : TwinField Bool
  mode : TwinField OperationalMode
  heatSetpoint : TwinField Int16
  coolSetpoint : TwinField Int16
  autoSetpoint : TwinField Int16
  fan : TwinField FanSpeed
  fanPercentSetting : Option UInt8
  runningMode : SensorField RunningMode
  indoorTemp : SensorField (Option Int16)
  outdoorTemp : SensorField (Option Int16)
  humidity : SensorField (Option UInt8)
  refrigerantValveOpen : SensorField (Option Bool)
  reachable : SensorField Bool
  deriving DecidableEq, Repr

namespace LogicalACState

/-- The constructor from boot defaults. -/
def new (d : LogicalACStateDefaults) : LogicalACState where
  onOff := .new d.onOff
  mode := .new d.mode
  heatSetpoint := .new d.heatSetpoint
  coolSetpoint := .new d.coolSetpoint
  autoSetpoint := .new d.autoSetpoint
  fan := .new d.fan
  fanPercentSetting := d.fanPercentSetting
  runningMode := ⟨d.runningMode⟩
  indoorTemp := ⟨d.indoorTemp⟩
  outdoorTemp := ⟨d.outdoorTemp⟩
  humidity := ⟨d.humidity⟩
  refrigerantValveOpen := ⟨d.refrigerantValveOpen⟩
  reachable := ⟨d.reachable⟩

/-- The setpoint twin in charge of the device's target in a mode. Dry and
fan-only have none and fall back to the Auto twin. -/
def activeSetpoint (s : LogicalACState) : OperationalMode → TwinField Int16
  | .cool => s.coolSetpoint
  | .heat => s.heatSetpoint
  | .auto => s.autoSetpoint
  | .dry => s.autoSetpoint
  | .fanOnly => s.autoSetpoint

/-- Update the setpoint twin that belongs to a mode: the `switch` by which both
observations and sent commands route to a setpoint twin, which does nothing in
dry and fan-only mode. -/
def routeSetpoint (s : LogicalACState) (m : OperationalMode)
    (update : TwinField Int16 → TwinField Int16) : LogicalACState :=
  match m with
  | .cool => { s with coolSetpoint := update s.coolSetpoint }
  | .heat => { s with heatSetpoint := update s.heatSetpoint }
  | .auto => { s with autoSetpoint := update s.autoSetpoint }
  | .dry => s
  | .fanOnly => s

section Route

variable (s : LogicalACState) (m : OperationalMode) (update : TwinField Int16 → TwinField Int16)

@[simp] theorem routeSetpoint_onOff : (s.routeSetpoint m update).onOff = s.onOff := by
  cases m <;> rfl
@[simp] theorem routeSetpoint_mode : (s.routeSetpoint m update).mode = s.mode := by
  cases m <;> rfl
@[simp] theorem routeSetpoint_fan : (s.routeSetpoint m update).fan = s.fan := by
  cases m <;> rfl
@[simp] theorem routeSetpoint_fanPercentSetting :
    (s.routeSetpoint m update).fanPercentSetting = s.fanPercentSetting := by
  cases m <;> rfl
@[simp] theorem routeSetpoint_runningMode :
    (s.routeSetpoint m update).runningMode = s.runningMode := by
  cases m <;> rfl
@[simp] theorem routeSetpoint_indoorTemp :
    (s.routeSetpoint m update).indoorTemp = s.indoorTemp := by
  cases m <;> rfl
@[simp] theorem routeSetpoint_outdoorTemp :
    (s.routeSetpoint m update).outdoorTemp = s.outdoorTemp := by
  cases m <;> rfl
@[simp] theorem routeSetpoint_humidity :
    (s.routeSetpoint m update).humidity = s.humidity := by
  cases m <;> rfl
@[simp] theorem routeSetpoint_reachable :
    (s.routeSetpoint m update).reachable = s.reachable := by
  cases m <;> rfl

@[simp] theorem routeSetpoint_coolSetpoint : (s.routeSetpoint m update).coolSetpoint =
    if m = .cool then update s.coolSetpoint else s.coolSetpoint := by
  cases m <;> rfl
@[simp] theorem routeSetpoint_heatSetpoint : (s.routeSetpoint m update).heatSetpoint =
    if m = .heat then update s.heatSetpoint else s.heatSetpoint := by
  cases m <;> rfl
@[simp] theorem routeSetpoint_autoSetpoint : (s.routeSetpoint m update).autoSetpoint =
    if m = .auto then update s.autoSetpoint else s.autoSetpoint := by
  cases m <;> rfl

end Route

end LogicalACState

end DaikinBridge.Sync
