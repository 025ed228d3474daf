import DaikinBridge.Sync.CommandRouter
import DaikinBridge.Sync.Reports

/-!
# DaikinBridge.Sync.AttributeAccess

What controllers read: the `Read` methods of the four attribute access objects
(`aai_thermostat.cpp`, `aai_onoff.cpp`, `aai_fan_control.cpp`, `aai_humidity.cpp`), with the
tables and the addresses of `aai_translation.h`.

A read is dispatched on the cluster and then on the attribute, and takes its values from
one state of the kernel. `readAttribute_toMatterAddress` connects the two coordinate
systems: a read of the address of an attribute encodes the projected value of that
attribute and of no other (`toMatterAddress_inj`), so a change report leads a subscriber
to the value that changed. `Reachable` is the one attribute without an address.
-/

namespace DaikinBridge.Sync

/-! ### Addresses -/

/-- The id of a cluster. -/
abbrev ClusterId := UInt32

/-- The id of an attribute within its cluster. -/
abbrev AttributeId := UInt32

namespace Clusters

/-! The ids of the clusters and, under the abbreviations of the source, of their
attributes. They are those of endpoint 1 in `endpoint_config.h`. The endpoint does not have
SetpointChangeSource, whose id is that of the host tests (`tests/sync/chip_stubs`). -/

/-- Power. -/
def OnOff.Id : ClusterId := 0x0006
def OOAttr.OnOff : AttributeId := 0x0000

/-- Temperatures, setpoints and the mode of operation. -/
def Thermostat.Id : ClusterId := 0x0201
def TAttr.LocalTemperature : AttributeId := 0x0000
def TAttr.OutdoorTemperature : AttributeId := 0x0001
def TAttr.OccupiedCoolingSetpoint : AttributeId := 0x0011
def TAttr.OccupiedHeatingSetpoint : AttributeId := 0x0012
/-- The mode the controllers set, off among them. -/
def TAttr.SystemMode : AttributeId := 0x001C
/-- What the unit does at the moment: cool, heat, or neither. -/
def TAttr.ThermostatRunningMode : AttributeId := 0x001E
/-- Who set the setpoint. -/
def TAttr.SetpointChangeSource : AttributeId := 0x0030

/-- The fan, as a mode, as a percent and as a speed; the Setting of a percent or a speed is
null in Auto, its Current is not. SpeedMax, which is 0x0004, is left to the cluster server. -/
def FanControl.Id : ClusterId := 0x0202
def FCAttr.FanMode : AttributeId := 0x0000
def FCAttr.PercentSetting : AttributeId := 0x0002
def FCAttr.PercentCurrent : AttributeId := 0x0003
def FCAttr.SpeedSetting : AttributeId := 0x0005
def FCAttr.SpeedCurrent : AttributeId := 0x0006

/-- Humidity, in 0.01 %. -/
def RelativeHumidityMeasurement.Id : ClusterId := 0x0405
def RHAttr.MeasuredValue : AttributeId := 0x0000

end Clusters

open Clusters

/-- `toMatterAddress`: where a subscriber finds the attribute. `Reachable` has no address yet
and gives the sentinel (0, 0). -/
def toMatterAddress : LogicalAttribute → ClusterId × AttributeId
  | .onOff => (OnOff.Id, OOAttr.OnOff)
  | .systemMode => (Thermostat.Id, TAttr.SystemMode)
  | .occupiedHeatingSetpoint => (Thermostat.Id, TAttr.OccupiedHeatingSetpoint)
  | .occupiedCoolingSetpoint => (Thermostat.Id, TAttr.OccupiedCoolingSetpoint)
  | .runningMode => (Thermostat.Id, TAttr.ThermostatRunningMode)
  | .localTemperature => (Thermostat.Id, TAttr.LocalTemperature)
  | .outdoorTemperature => (Thermostat.Id, TAttr.OutdoorTemperature)
  | .setpointSource => (Thermostat.Id, TAttr.SetpointChangeSource)
  | .speedSetting => (FanControl.Id, FCAttr.SpeedSetting)
  | .fanMode => (FanControl.Id, FCAttr.FanMode)
  | .speedCurrent => (FanControl.Id, FCAttr.SpeedCurrent)
  | .percentSetting => (FanControl.Id, FCAttr.PercentSetting)
  | .percentCurrent => (FanControl.Id, FCAttr.PercentCurrent)
  | .humidity => (RelativeHumidityMeasurement.Id, RHAttr.MeasuredValue)
  | .reachable => (0, 0)

/-- The sentinel is the address of `Reachable` only. -/
theorem toMatterAddress_eq_sentinel_iff {a : LogicalAttribute} :
    toMatterAddress a = (0, 0) ↔ a = .reachable := by
  cases a <;> decide

/-- No two attributes share an address. -/
theorem toMatterAddress_inj {a b : LogicalAttribute} :
    toMatterAddress a = toMatterAddress b ↔ a = b := by
  refine ⟨fun h => ?_, fun h => h ▸ rfl⟩
  cases a <;> cases b <;> first | rfl | exact absurd h (by decide)

/-! ### Translation tables -/

/-- `ThermostatRunningModeEnum`. -/
inductive ThermostatRunningModeEnum
  | kOff
  | kCool
  | kHeat
  deriving DecidableEq, Repr

/-- `SetpointChangeSourceEnum`: who changed the setpoint. -/
inductive SetpointChangeSourceEnum
  | kManual
  | kSchedule
  | kExternal
  deriving DecidableEq, Repr

/-- `toMatterRunningMode`: the three running modes one by one. -/
def toMatterRunningMode : RunningMode → ThermostatRunningModeEnum
  | .off => .kOff
  | .cooling => .kCool
  | .heating => .kHeat

/-- `toMatterSetpointSource`: a controller is external, the unit itself (its remote control)
is manual; a setpoint from boot counts as set by hand. -/
def toMatterSetpointSource : ObservationSource → SetpointChangeSourceEnum
  | .matter => .kExternal
  | .device => .kManual
  | .boot => .kManual

/-- `toMatterFanMode`: the five categories one by one; On and Smart are written only, never
read. -/
def toMatterFanMode : FanModeCategory → FanModeEnum
  | .off => .kOff
  | .low => .kLow
  | .medium => .kMedium
  | .high => .kHigh
  | .auto => .kAuto

/-! ### Reads -/

/-- What the encoder is given, by the type it is encoded as; `none` of an option is the null of
the data model. -/
inductive Encoded
  | bool (v : Bool)
  | int16 (v : Int16)
  | uint8 (v : UInt8)
  | nullableInt16 (v : Option Int16)
  | nullableUInt8 (v : Option UInt8)
  | nullableUInt16 (v : Option UInt16)
  | systemMode (v : SystemModeEnum)
  | runningMode (v : ThermostatRunningModeEnum)
  | setpointChangeSource (v : SetpointChangeSourceEnum)
  | fanMode (v : FanModeEnum)
  deriving DecidableEq, Repr

namespace Reconciler

variable (r : Reconciler)

/-- `OnOffBridgeAttributeAccess::Read`; `none` is success without encoding, which leaves
the attribute to the fallback of the cluster server. -/
def onOffRead (attributeId : AttributeId) : Option Encoded :=
  if attributeId = OOAttr.OnOff then some (.bool (Projector.projectedOnOff r.state)) else none

/-- `ThermostatBridgeAttributeAccess::Read`. SystemMode takes power and mode from one
snapshot. -/
def thermostatRead (attributeId : AttributeId) : Option Encoded :=
  if attributeId = TAttr.LocalTemperature then
    some (.nullableInt16 r.state.indoorTemp.observed)
  else if attributeId = TAttr.OutdoorTemperature then
    some (.nullableInt16 r.state.outdoorTemp.observed)
  else if attributeId = TAttr.OccupiedHeatingSetpoint then
    some (.int16 (Projector.projectedOccupiedHeatingSetpoint r.config.projector r.state))
  else if attributeId = TAttr.OccupiedCoolingSetpoint then
    some (.int16 (Projector.projectedOccupiedCoolingSetpoint r.config.projector r.state))
  else if attributeId = TAttr.SystemMode then
    let p := Projector.project r.config.projector r.state
    some (.systemMode (toMatterSystemMode p.onOff p.mode))
  else if attributeId = TAttr.ThermostatRunningMode then
    some (.runningMode (toMatterRunningMode (Projector.projectedRunningMode r.state)))
  else if attributeId = TAttr.SetpointChangeSource then
    some (.setpointChangeSource
      (toMatterSetpointSource (Projector.projectedSetpointSource r.state)))
  -- SetpointChangeSourceTimestamp among them
  else none

/-- `FanControlBridgeAttributeAccess::Read`. -/
def fanControlRead (attributeId : AttributeId) : Option Encoded :=
  if attributeId = FCAttr.SpeedSetting then
    some (.nullableUInt8 (Projector.projectedSpeedSetting r.state))
  else if attributeId = FCAttr.FanMode then
    some (.fanMode (toMatterFanMode (Projector.projectedFanMode r.state)))
  else if attributeId = FCAttr.SpeedCurrent then
    some (.uint8 (Projector.projectedSpeedCurrent r.state))
  else if attributeId = FCAttr.PercentSetting then
    some (.nullableUInt8 (Projector.projectedPercentSetting r.state))
  else if attributeId = FCAttr.PercentCurrent then
    some (.uint8 (Projector.projectedPercentCurrent r.state))
  else none

/-- `HumidityBridgeAttributeAccess::Read`. -/
def humidityRead (attributeId : AttributeId) : Option Encoded :=
  if attributeId = RHAttr.MeasuredValue then
    some (.nullableUInt16 (Projector.projectedHumidityCentiPercent r.state))
  else none

/-- A read of an address: the access objects are registered by cluster. -/
def readAttribute (address : ClusterId × AttributeId) : Option Encoded :=
  if address.1 = OnOff.Id then r.onOffRead address.2
  else if address.1 = Thermostat.Id then r.thermostatRead address.2
  else if address.1 = FanControl.Id then r.fanControlRead address.2
  else if address.1 = RelativeHumidityMeasurement.Id then r.humidityRead address.2
  else none

end Reconciler

/-! ### Reads against the projection -/

/-- How a projected value is encoded; `Reachable` is not. -/
def LogicalAttribute.encode : (a : LogicalAttribute) → a.Value → Option Encoded
  | .onOff, v => some (.bool v)
  | .systemMode, v => some (.systemMode (toMatterSystemMode v.1 v.2))
  | .occupiedHeatingSetpoint, v => some (.int16 v)
  | .occupiedCoolingSetpoint, v => some (.int16 v)
  | .runningMode, v => some (.runningMode (toMatterRunningMode v))
  | .localTemperature, v => some (.nullableInt16 v)
  | .outdoorTemperature, v => some (.nullableInt16 v)
  | .setpointSource, v => some (.setpointChangeSource (toMatterSetpointSource v))
  | .speedSetting, v => some (.nullableUInt8 v)
  | .fanMode, v => some (.fanMode (toMatterFanMode v))
  | .speedCurrent, v => some (.uint8 v)
  | .percentSetting, v => some (.nullableUInt8 v)
  | .percentCurrent, v => some (.uint8 v)
  | .humidity, v => some (.nullableUInt16 v)
  | .reachable, _ => none

namespace Reconciler

/-- **A read of the address of an attribute** encodes the projected value of that
attribute. -/
theorem readAttribute_toMatterAddress (r : Reconciler) (a : LogicalAttribute) :
    r.readAttribute (toMatterAddress a) =
      a.encode ((Projector.project r.config.projector r.state).value a) := by
  cases a <;> rfl

section Answered

variable {r : Reconciler} {attributeId : AttributeId} {v : Encoded}

theorem exists_of_onOffRead (h : r.onOffRead attributeId = some v) :
    ∃ a, toMatterAddress a = (OnOff.Id, attributeId) := by
  unfold onOffRead at h
  split_ifs at h with h₁
  exact ⟨.onOff, by rw [h₁]; rfl⟩

theorem exists_of_thermostatRead (h : r.thermostatRead attributeId = some v) :
    ∃ a, toMatterAddress a = (Thermostat.Id, attributeId) := by
  unfold thermostatRead at h
  split_ifs at h with h₁ h₂ h₃ h₄ h₅ h₆ h₇
  · exact ⟨.localTemperature, by rw [h₁]; rfl⟩
  · exact ⟨.outdoorTemperature, by rw [h₂]; rfl⟩
  · exact ⟨.occupiedHeatingSetpoint, by rw [h₃]; rfl⟩
  · exact ⟨.occupiedCoolingSetpoint, by rw [h₄]; rfl⟩
  · exact ⟨.systemMode, by rw [h₅]; rfl⟩
  · exact ⟨.runningMode, by rw [h₆]; rfl⟩
  · exact ⟨.setpointSource, by rw [h₇]; rfl⟩

theorem exists_of_fanControlRead (h : r.fanControlRead attributeId = some v) :
    ∃ a, toMatterAddress a = (FanControl.Id, attributeId) := by
  unfold fanControlRead at h
  split_ifs at h with h₁ h₂ h₃ h₄ h₅
  · exact ⟨.speedSetting, by rw [h₁]; rfl⟩
  · exact ⟨.fanMode, by rw [h₂]; rfl⟩
  · exact ⟨.speedCurrent, by rw [h₃]; rfl⟩
  · exact ⟨.percentSetting, by rw [h₄]; rfl⟩
  · exact ⟨.percentCurrent, by rw [h₅]; rfl⟩

theorem exists_of_humidityRead (h : r.humidityRead attributeId = some v) :
    ∃ a, toMatterAddress a = (RelativeHumidityMeasurement.Id, attributeId) := by
  unfold humidityRead at h
  split_ifs at h with h₁
  exact ⟨.humidity, by rw [h₁]; rfl⟩

/-- Only addresses of attributes are answered. -/
theorem exists_of_readAttribute {address : ClusterId × AttributeId}
    (h : r.readAttribute address = some v) : ∃ a, toMatterAddress a = address := by
  obtain ⟨cluster, attributeId⟩ := address
  unfold readAttribute at h
  dsimp only at h
  split_ifs at h with h₁ h₂ h₃ h₄
  · rw [h₁]
    exact exists_of_onOffRead h
  · rw [h₂]
    exact exists_of_thermostatRead h
  · rw [h₃]
    exact exists_of_fanControlRead h
  · rw [h₄]
    exact exists_of_humidityRead h

end Answered

/-- Two kernels answer a read alike when they encode the attribute of its address alike. -/
theorem readAttribute_congr {r r' : Reconciler} {address : ClusterId × AttributeId}
    (h : ∀ a, toMatterAddress a = address → a.encode (r.view a) = a.encode (r'.view a)) :
    r.readAttribute address = r'.readAttribute address := by
  by_cases hsome : ∃ a, toMatterAddress a = address
  · obtain ⟨a, rfl⟩ := hsome
    rw [readAttribute_toMatterAddress, readAttribute_toMatterAddress]
    exact h a rfl
  · have hnone : ∀ r : Reconciler, r.readAttribute address = none := fun r =>
      Option.eq_none_iff_forall_ne_some.mpr fun v hv => hsome (exists_of_readAttribute hv)
    rw [hnone r, hnone r']

end Reconciler

end DaikinBridge.Sync
