import DaikinBridge.Sync.Reconciler

/-!
# DaikinBridge.Sync.CommandRouter

How controllers reach the kernel: attribute writes of the Thermostat, OnOff and FanControl
clusters (`aai_thermostat.cpp`, `aai_onoff.cpp`, `aai_fan_control.cpp`, with the tables of
`aai_translation.h`), and the commands the bridge answers itself (`command_router.cpp`,
`setpoint_math.h`).

The value of a write comes from the decoder of the Matter stack, which is not part of this
repository; a write takes the outcome of decoding as its argument. So does the
SetpointRaiseLower handler with the limits it finds in the attribute store.

Each handler becomes a function from the kernel to the kernel and the status it answers.
Whatever a handler does to the kernel is one intent or nothing (`Routes`), and the writes
of the OnOff and FanControl clusters never route a setpoint.
-/

namespace DaikinBridge.Sync

/-! ### Attribute writes -/

/-- The error of the decoder. -/
structure DecodeError where
  code : Nat
  deriving DecidableEq, Repr

/-- What a write answers. -/
inductive WriteStatus
  | noError
  | decodeError (e : DecodeError)
  | constraintError
  | unsupportedWrite
  deriving DecidableEq, Repr

/-- `fromMatterSystemMode`. -/
def fromMatterSystemMode : SystemModeEnum → Option (Bool × OperationalMode)
  | .kOff => some (false, .auto)
  | .kAuto => some (true, .auto)
  | .kCool => some (true, .cool)
  | .kHeat => some (true, .heat)
  | .kEmergencyHeat => some (true, .heat)
  | .kPrecooling => some (true, .cool)
  | .kDry => some (true, .dry)
  | .kFanOnly => some (true, .fanOnly)
  | .kSleep => none
  | .unknown => none

/-- `FanModeEnum`, with one constructor for the values it does not declare. -/
inductive FanModeEnum
  | kOff
  | kLow
  | kMedium
  | kHigh
  | kOn
  | kAuto
  | kSmart
  | unknown
  deriving DecidableEq, Repr

/-- `representativeSpeed`. -/
def representativeSpeed : FanModeCategory → FanLevel
  | .low => .low
  | .medium => .medium
  | .high => .high
  | .off => .low
  | .auto => .low

/-- `FanModeWrite`: how to act on a FanMode write. -/
inductive FanModeWrite
  | powerOff
  | setSpeed (speed : FanSpeed)
  | reject
  deriving DecidableEq, Repr

/-- `fromMatterFanMode`. -/
def fromMatterFanMode : FanModeEnum → FanModeWrite
  | .kOff => .powerOff
  | .kLow => .setSpeed (some (representativeSpeed .low))
  | .kMedium => .setSpeed (some (representativeSpeed .medium))
  | .kHigh => .setSpeed (some (representativeSpeed .high))
  | .kOn => .setSpeed (some (representativeSpeed .high))
  | .kAuto => .setSpeed none
  | .kSmart => .setSpeed none
  | .unknown => .reject

/-- `static_cast<FanLevel>` of a value the caller has checked to be in 1..6. -/
def fanLevelOfRaw (raw : UInt8) : FanLevel :=
  match raw.toNat with
  | 1 => .quiet
  | 2 => .low
  | 3 => .midLow
  | 4 => .medium
  | 5 => .midHigh
  | _ => .high

/-- A write to an attribute of the Thermostat cluster, with the decoded value where the
handler decodes one. -/
inductive ThermostatWrite
  | occupiedHeatingSetpoint (value : Except DecodeError Int16)
  | occupiedCoolingSetpoint (value : Except DecodeError Int16)
  | systemMode (value : Except DecodeError SystemModeEnum)
  | localTemperature
  | outdoorTemperature
  | thermostatRunningMode
  | setpointChangeSource
  | setpointChangeSourceTimestamp
  | other

/-- A write to an attribute of the FanControl cluster. -/
inductive FanControlWrite
  | speedSetting (value : Except DecodeError (Option UInt8))
  | percentSetting (value : Except DecodeError (Option UInt8))
  | fanMode (value : Except DecodeError FanModeEnum)
  | other

namespace Reconciler

section Writes

variable (r : Reconciler) (now : Int)

/-- Decode, then go on with the value. -/
def withDecoded {α : Type} (value : Except DecodeError α)
    (handle : α → Reconciler × WriteStatus) : Reconciler × WriteStatus :=
  match value with
  | .error e => (r, .decodeError e)
  | .ok v => handle v

/-- `ThermostatBridgeAttributeAccess::Write`. Setpoints are passed on as decoded. -/
def thermostatWrite : ThermostatWrite → Reconciler × WriteStatus
  | .occupiedHeatingSetpoint value => r.withDecoded value fun v =>
      ((r.applyIntent now (.setOccupiedHeatingSetpoint v)).1, .noError)
  | .occupiedCoolingSetpoint value => r.withDecoded value fun v =>
      ((r.applyIntent now (.setOccupiedCoolingSetpoint v)).1, .noError)
  | .systemMode value => r.withDecoded value fun v =>
      match fromMatterSystemMode v with
      | none => (r, .constraintError)
      | some (power, mode) => ((r.applyIntent now (.setSystemMode power mode)).1, .noError)
  -- read-only from a controller's perspective
  | .localTemperature => (r, .unsupportedWrite)
  | .outdoorTemperature => (r, .unsupportedWrite)
  | .thermostatRunningMode => (r, .unsupportedWrite)
  | .setpointChangeSource => (r, .unsupportedWrite)
  | .setpointChangeSourceTimestamp => (r, .unsupportedWrite)
  | .other => (r, .noError)

/-- `OnOffBridgeAttributeAccess::Write` to the OnOff attribute. -/
def onOffWrite (value : Except DecodeError Bool) : Reconciler × WriteStatus :=
  r.withDecoded value fun v => ((r.applyIntent now (.setOnOff v)).1, .noError)

/-- `FanControlBridgeAttributeAccess::Write`. A null changes nothing and 0 powers the unit
off, since the indoor fan cannot stop on its own. -/
def fanControlWrite : FanControlWrite → Reconciler × WriteStatus
  | .speedSetting value => r.withDecoded value fun v =>
      match v with
      | none => (r, .noError)
      | some raw =>
          if raw = 0 then ((r.applyIntent now (.setOnOff false)).1, .noError)
          else if raw.toNat > kFanSpeedMax then (r, .constraintError)
          else ((r.applyIntent now (.setSpeedSetting (some (fanLevelOfRaw raw)))).1, .noError)
  | .percentSetting value => r.withDecoded value fun v =>
      match v with
      | none => (r, .noError)
      | some pct =>
          if pct = 0 then ((r.applyIntent now (.setOnOff false)).1, .noError)
          else if pct > 100 then (r, .constraintError)
          else ((r.applyIntent now (.setPercentSetting (some pct))).1, .noError)
  | .fanMode value => r.withDecoded value fun mode =>
      match fromMatterFanMode mode with
      | .powerOff => ((r.applyIntent now (.setOnOff false)).1, .noError)
      | .setSpeed speed => ((r.applyIntent now (.setSpeedSetting speed)).1, .noError)
      | .reject => (r, .constraintError)
  | .other => (r, .noError)

end Writes

end Reconciler

/-! ### Commands -/

/-- The status a command answers. -/
inductive InvokeStatus
  | success
  | invalidCommand
  deriving DecidableEq, Repr

/-- The commands of the OnOff cluster. -/
inductive OnOffCommand
  | on
  | off
  | toggle
  | other
  deriving DecidableEq, Repr

/-- `SetpointRaiseLowerModeEnum`, with one constructor for the values it does not
declare. -/
inductive SetpointMode
  | kHeat
  | kCool
  | kBoth
  | unknown
  deriving DecidableEq, Repr

/-- The limits of SetpointRaiseLower. The defaults are those the handler falls back to
where the attribute store has none. -/
structure SetpointLimits where
  minHeat : Int16 := 1000
  maxHeat : Int16 := 3000
  minCool : Int16 := 1600
  maxCool : Int16 := 3200
  deriving DecidableEq, Repr

/-- `applySetpointDelta`: the amount is in 0.1 °C, and the sum is clamped before it is
narrowed. -/
def applySetpointDelta (current : Int16) (amount : Int8) (lo hi : Int16) : Int16 :=
  let desired := current.toInt + amount.toInt * 10
  let desired := if desired < lo.toInt then lo.toInt else desired
  let desired := if desired > hi.toInt then hi.toInt else desired
  Int16.ofInt desired

/-- The clamped sum is narrowed without loss. -/
theorem toInt_applySetpointDelta (current : Int16) (amount : Int8) (lo hi : Int16) :
    (applySetpointDelta current amount lo hi).toInt =
      let desired := current.toInt + amount.toInt * 10
      let desired := if desired < lo.toInt then lo.toInt else desired
      if desired > hi.toInt then hi.toInt else desired := by
  have hlo := lo.le_toInt
  have hlo' := lo.toInt_lt
  have hhi := hi.le_toInt
  have hhi' := hi.toInt_lt
  unfold applySetpointDelta
  dsimp only
  refine Int16.toInt_ofInt_of_le ?_ ?_
  · split <;> split <;> omega
  · split <;> split <;> omega

namespace Reconciler

section Commands

variable (r : Reconciler) (now : Int)

/-- `OnOffCommandHandler::InvokeCommand`; `none` leaves the command to the fallback. -/
def invokeOnOff : OnOffCommand → Option (Reconciler × InvokeStatus)
  | .on => some ((r.applyIntent now (.setOnOff true)).1, .success)
  | .off => some ((r.applyIntent now (.setOnOff false)).1, .success)
  | .toggle =>
      some ((r.applyIntent now (.setOnOff (!Projector.projectedOnOff r.state))).1, .success)
  | .other => none

/-- The heat half of SetpointRaiseLower, from the setpoint it has read. -/
def raiseLowerHeat (limits : SetpointLimits) (current : Int16) (amount : Int8) : Reconciler :=
  (r.applyIntent now (.setOccupiedHeatingSetpoint
    (applySetpointDelta current amount limits.minHeat limits.maxHeat))).1

/-- The cool half of SetpointRaiseLower, from the setpoint it has read. -/
def raiseLowerCool (limits : SetpointLimits) (current : Int16) (amount : Int8) : Reconciler :=
  (r.applyIntent now (.setOccupiedCoolingSetpoint
    (applySetpointDelta current amount limits.minCool limits.maxCool))).1

/-- `ThermostatCommandHandler::HandleSetpointRaiseLower`. The cool half reads its setpoint
after the heat half is applied. -/
def handleSetpointRaiseLower (limits : SetpointLimits) (mode : SetpointMode) (amount : Int8) :
    Reconciler × InvokeStatus :=
  let doHeat := mode = .kBoth || mode = .kHeat
  let doCool := mode = .kBoth || mode = .kCool
  if !doHeat && !doCool then (r, .invalidCommand)
  else
    let r :=
      if doHeat then
        r.raiseLowerHeat now limits
          (Projector.projectedOccupiedHeatingSetpoint r.config.projector r.state) amount
      else r
    let r :=
      if doCool then
        r.raiseLowerCool now limits
          (Projector.projectedOccupiedCoolingSetpoint r.config.projector r.state) amount
      else r
    (r, .success)

end Commands

/-! ### What handlers do to the kernel -/

/-- The kernel is left alone, or it is given one intent that satisfies `P`. -/
def Routes (P : WriteIntent → Prop) (r : Reconciler) (now : Int) (r' : Reconciler) : Prop :=
  r' = r ∨ ∃ i, P i ∧ r' = (r.applyIntent now i).1

theorem Routes.intent {P : WriteIntent → Prop} {r : Reconciler} {now : Int} (i : WriteIntent)
    (h : P i) : Routes P r now (r.applyIntent now i).1 :=
  .inr ⟨i, h, rfl⟩

section Routed

variable (r : Reconciler) (now : Int)

theorem withDecoded_routes {α : Type} {P : WriteIntent → Prop} {value : Except DecodeError α}
    {handle : α → Reconciler × WriteStatus}
    (h : ∀ v, value = .ok v → Routes P r now (handle v).1) :
    Routes P r now (r.withDecoded value handle).1 := by
  cases value with
  | error e => exact .inl rfl
  | ok v => exact h v rfl

/-- Intents that write no setpoint. -/
def EdgeFree (i : WriteIntent) : Prop := isSetpointEdge i = false

/-- A setpoint write passes on the decoded value. -/
theorem thermostatWrite_routes (w : ThermostatWrite) :
    Routes (fun i => EdgeFree i ∨
      (∃ v, w = .occupiedHeatingSetpoint (.ok v) ∧ i = .setOccupiedHeatingSetpoint v) ∨
      (∃ v, w = .occupiedCoolingSetpoint (.ok v) ∧ i = .setOccupiedCoolingSetpoint v))
      r now (r.thermostatWrite now w).1 := by
  cases w with
  | occupiedHeatingSetpoint value =>
      refine withDecoded_routes r now fun v hv => ?_
      exact .intent (.setOccupiedHeatingSetpoint v) (Or.inr (.inl ⟨v, by rw [hv], rfl⟩))
  | occupiedCoolingSetpoint value =>
      refine withDecoded_routes r now fun v hv => ?_
      exact .intent (.setOccupiedCoolingSetpoint v) (Or.inr (.inr ⟨v, by rw [hv], rfl⟩))
  | systemMode value =>
      refine withDecoded_routes r now fun v _ => ?_
      cases fromMatterSystemMode v with
      | none => exact .inl rfl
      | some translated =>
          exact .intent (.setSystemMode translated.1 translated.2) (Or.inl rfl)
  | _ => exact .inl rfl

theorem onOffWrite_routes (value : Except DecodeError Bool) :
    Routes EdgeFree r now (r.onOffWrite now value).1 :=
  withDecoded_routes r now fun v _ => .intent (.setOnOff v) rfl

theorem fanControlWrite_routes (w : FanControlWrite) :
    Routes EdgeFree r now (r.fanControlWrite now w).1 := by
  cases w with
  | speedSetting value =>
      refine withDecoded_routes r now fun v _ => ?_
      cases v with
      | none => exact .inl rfl
      | some raw =>
          dsimp only
          split
          · exact .intent (.setOnOff false) rfl
          · split
            · exact .inl rfl
            · exact .intent (.setSpeedSetting (some (fanLevelOfRaw raw))) rfl
  | percentSetting value =>
      refine withDecoded_routes r now fun v _ => ?_
      cases v with
      | none => exact .inl rfl
      | some pct =>
          dsimp only
          split
          · exact .intent (.setOnOff false) rfl
          · split
            · exact .inl rfl
            · exact .intent (.setPercentSetting (some pct)) rfl
  | fanMode value =>
      refine withDecoded_routes r now fun v _ => ?_
      cases fromMatterFanMode v with
      | powerOff => exact .intent (.setOnOff false) rfl
      | setSpeed speed => exact .intent (.setSpeedSetting speed) rfl
      | reject => exact .inl rfl
  | other => exact .inl rfl

theorem invokeOnOff_routes {c : OnOffCommand} {r' : Reconciler} {status : InvokeStatus}
    (h : r.invokeOnOff now c = some (r', status)) : Routes EdgeFree r now r' := by
  cases c with
  | on =>
      obtain ⟨rfl, -⟩ := Prod.mk.inj (Option.some.inj h)
      exact .intent (.setOnOff true) rfl
  | off =>
      obtain ⟨rfl, -⟩ := Prod.mk.inj (Option.some.inj h)
      exact .intent (.setOnOff false) rfl
  | toggle =>
      obtain ⟨rfl, -⟩ := Prod.mk.inj (Option.some.inj h)
      exact .intent (.setOnOff (!Projector.projectedOnOff r.state)) rfl
  | other => cases h

end Routed

end Reconciler

end DaikinBridge.Sync
