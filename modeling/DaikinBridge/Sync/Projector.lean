import DaikinBridge.Sync.State

/-!
# DaikinBridge.Sync.Projector

The projection of the canonical state to what subscribers see, and the diff of
two projections (`src/sync/projector.{h,cpp}`, `logical_attribute.h`).

`ProjectedClusterState.value` reads a projection attribute by attribute, with
SystemMode as the pair (onOff, mode) it is derived from. Field by field and with its
emit-once lambda, the diff is a filter of all attributes by whether their value changed
(`diffProjections_eq_filter`); its laws are read off that. `mem_diffProjections` is the
one the rest of the development uses: an attribute is reported if and only if its value
changed.
-/

namespace DaikinBridge.Sync

/-- What changed in the bridge's view, independent of any wire address. -/
inductive LogicalAttribute
  | onOff
  | systemMode
  | occupiedHeatingSetpoint
  | occupiedCoolingSetpoint
  | runningMode
  | localTemperature
  | outdoorTemperature
  | setpointSource
  | speedSetting
  | fanMode
  | speedCurrent
  | percentSetting
  | percentCurrent
  | humidity
  | reachable
  deriving DecidableEq, Repr

/-- What a projection needs to know besides the state. -/
structure ProjectorConfig where
  /-- Half width of the Auto band, in 0.01 °C. -/
  autoBandHalfWidthCentiC : Int16 := 50
  deriving DecidableEq, Repr

/-- The complete projection. -/
structure ProjectedClusterState where
  onOff : Bool
  mode : OperationalMode
  occupiedHeatingSetpoint : Int16
  occupiedCoolingSetpoint : Int16
  runningMode : RunningMode
  localTemperature : Option Int16
  outdoorTemperature : Option Int16
  setpointSource : ObservationSource
  speedSetting : Option UInt8
  fanMode : FanModeCategory
  speedCurrent : UInt8
  percentSetting : Option UInt8
  percentCurrent : UInt8
  humidityCentiPercent : Option UInt16
  reachable : Bool
  deriving DecidableEq, Repr

/-- The value projected from a twin: the observed one while a write is in flight,
the desired one otherwise. -/
def projectedValue {T : Type} (t : TwinField T) : T :=
  if t.inFlight.isSome then t.observed else t.desired

/-! ### Per-attribute projections -/

namespace Projector

variable (cfg : ProjectorConfig) (s : LogicalACState)

/-- Power, as shown. -/
def projectedOnOff : Bool := projectedValue s.onOff

/-- The mode shown of a unit that is on; `toMatterSystemMode` makes SystemMode of the two. -/
def projectedMode : OperationalMode := projectedValue s.mode

/-- The heating setpoint; while Auto is shown, the lower edge of the band around the shown
centre. -/
def projectedOccupiedHeatingSetpoint : Int16 :=
  if projectedValue s.mode = .auto then
    Int16.ofInt ((projectedValue s.autoSetpoint).toInt - cfg.autoBandHalfWidthCentiC.toInt)
  else projectedValue s.heatSetpoint

/-- The cooling setpoint; while Auto is shown, the upper edge of the band. -/
def projectedOccupiedCoolingSetpoint : Int16 :=
  if projectedValue s.mode = .auto then
    Int16.ofInt ((projectedValue s.autoSetpoint).toInt + cfg.autoBandHalfWidthCentiC.toInt)
  else projectedValue s.coolSetpoint

/-- What the unit does at the moment. A unit shown off does nothing, whatever was last fused. -/
def projectedRunningMode : RunningMode :=
  if !projectedValue s.onOff then .off else s.runningMode.observed

/-- Who the setpoint of the observed mode is attributed to. A write of a controller that a
report confirms stays the controller's. -/
def projectedSetpointSource : ObservationSource :=
  (s.activeSetpoint s.mode.observed).attribution

/-- The fan level as its number, 0 of a unit shown off and null in Auto. -/
def projectedSpeedSetting : Option UInt8 :=
  if !projectedOnOff s then some 0
  else (projectedValue s.fan).map FanLevel.toUInt8

/-- The coarse fan mode: Off comes from the power, the rest from the level. -/
def projectedFanMode : FanModeCategory :=
  if !projectedOnOff s then .off else fanModeOf (projectedValue s.fan)

/-- The speed indicated; in Auto a middle one, so that it is never null. -/
def projectedSpeedCurrent : UInt8 :=
  if !projectedOnOff s then 0
  else ((projectedValue s.fan).getD .midLow).toUInt8

/-- The remembered percent, which stays the controller's own while it counts, and 0 of a unit
shown off. It does not look at the fan twin. -/
def projectedPercentSetting : Option UInt8 :=
  if !projectedOnOff s then some 0 else s.fanPercentSetting

/-- The percent of the speed indicated. -/
def projectedPercentCurrent : UInt8 := speedLevelToPercent (projectedSpeedCurrent s)

/-- The humidity in 0.01 %, null before the first report. -/
def projectedHumidityCentiPercent : Option UInt16 :=
  s.humidity.observed.map fun v => UInt16.ofNat (v.toNat * 100)

/-- `Projector::project`: all attributes, of one state. -/
def project : ProjectedClusterState where
  onOff := projectedOnOff s
  mode := projectedMode s
  occupiedHeatingSetpoint := projectedOccupiedHeatingSetpoint cfg s
  occupiedCoolingSetpoint := projectedOccupiedCoolingSetpoint cfg s
  runningMode := projectedRunningMode s
  localTemperature := s.indoorTemp.observed
  outdoorTemperature := s.outdoorTemp.observed
  setpointSource := projectedSetpointSource s
  speedSetting := projectedSpeedSetting s
  fanMode := projectedFanMode s
  speedCurrent := projectedSpeedCurrent s
  percentSetting := projectedPercentSetting s
  percentCurrent := projectedPercentCurrent s
  humidityCentiPercent := projectedHumidityCentiPercent s
  reachable := s.reachable.observed

end Projector

/-! ### Diff -/

/-- The emit-once lambda of the diff: the list so far, and whether SystemMode is
already in it. -/
def emitSystemMode : List LogicalAttribute × Bool → List LogicalAttribute × Bool
  | (out, true) => (out, true)
  | (out, false) => (out ++ [.systemMode], true)

/-- One field comparison of the diff. -/
def emitIf (differs : Bool) (attr : LogicalAttribute) : List LogicalAttribute :=
  if differs then [attr] else []

/-- `diffProjections`: the attributes whose values differ, in a fixed order. -/
def diffProjections (before after : ProjectedClusterState) : List LogicalAttribute :=
  let acc : List LogicalAttribute × Bool := ([], false)
  let acc := if before.onOff ≠ after.onOff then emitSystemMode (acc.1 ++ [.onOff], acc.2) else acc
  let acc := if before.mode ≠ after.mode then emitSystemMode acc else acc
  acc.1
    ++ emitIf (before.occupiedHeatingSetpoint ≠ after.occupiedHeatingSetpoint)
        .occupiedHeatingSetpoint
    ++ emitIf (before.occupiedCoolingSetpoint ≠ after.occupiedCoolingSetpoint)
        .occupiedCoolingSetpoint
    ++ emitIf (before.runningMode ≠ after.runningMode) .runningMode
    ++ emitIf (before.localTemperature ≠ after.localTemperature) .localTemperature
    ++ emitIf (before.outdoorTemperature ≠ after.outdoorTemperature) .outdoorTemperature
    ++ emitIf (before.setpointSource ≠ after.setpointSource) .setpointSource
    ++ emitIf (before.speedSetting ≠ after.speedSetting) .speedSetting
    ++ emitIf (before.fanMode ≠ after.fanMode) .fanMode
    ++ emitIf (before.speedCurrent ≠ after.speedCurrent) .speedCurrent
    ++ emitIf (before.percentSetting ≠ after.percentSetting) .percentSetting
    ++ emitIf (before.percentCurrent ≠ after.percentCurrent) .percentCurrent
    ++ emitIf (before.humidityCentiPercent ≠ after.humidityCentiPercent) .humidity
    ++ emitIf (before.reachable ≠ after.reachable) .reachable

/-! ### Attribute values -/

/-- The type of an attribute's projected value. -/
def LogicalAttribute.Value : LogicalAttribute → Type
  | .onOff => Bool
  | .systemMode => Bool × OperationalMode
  | .occupiedHeatingSetpoint => Int16
  | .occupiedCoolingSetpoint => Int16
  | .runningMode => RunningMode
  | .localTemperature => Option Int16
  | .outdoorTemperature => Option Int16
  | .setpointSource => ObservationSource
  | .speedSetting => Option UInt8
  | .fanMode => FanModeCategory
  | .speedCurrent => UInt8
  | .percentSetting => Option UInt8
  | .percentCurrent => UInt8
  | .humidity => Option UInt16
  | .reachable => Bool

/-- The value a projection gives an attribute. -/
def ProjectedClusterState.value (p : ProjectedClusterState) : (a : LogicalAttribute) → a.Value
  | .onOff => p.onOff
  | .systemMode => (p.onOff, p.mode)
  | .occupiedHeatingSetpoint => p.occupiedHeatingSetpoint
  | .occupiedCoolingSetpoint => p.occupiedCoolingSetpoint
  | .runningMode => p.runningMode
  | .localTemperature => p.localTemperature
  | .outdoorTemperature => p.outdoorTemperature
  | .setpointSource => p.setpointSource
  | .speedSetting => p.speedSetting
  | .fanMode => p.fanMode
  | .speedCurrent => p.speedCurrent
  | .percentSetting => p.percentSetting
  | .percentCurrent => p.percentCurrent
  | .humidity => p.humidityCentiPercent
  | .reachable => p.reachable

/-- The attribute values determine the projection. -/
theorem ProjectedClusterState.value_inj {p q : ProjectedClusterState} :
    p.value = q.value ↔ p = q := by
  refine ⟨fun h => ?_, fun h => h ▸ rfl⟩
  have hv := fun a => congrFun h a
  obtain ⟨h1, h2⟩ := Prod.mk.inj (hv .systemMode)
  cases p
  cases q
  simp only [ProjectedClusterState.mk.injEq]
  exact ⟨h1, h2, hv .occupiedHeatingSetpoint, hv .occupiedCoolingSetpoint, hv .runningMode,
    hv .localTemperature, hv .outdoorTemperature, hv .setpointSource, hv .speedSetting,
    hv .fanMode, hv .speedCurrent, hv .percentSetting, hv .percentCurrent, hv .humidity,
    hv .reachable⟩

instance LogicalAttribute.decEqValue : (a : LogicalAttribute) → DecidableEq a.Value
  | .onOff => inferInstanceAs (DecidableEq Bool)
  | .systemMode => inferInstanceAs (DecidableEq (Bool × OperationalMode))
  | .occupiedHeatingSetpoint => inferInstanceAs (DecidableEq Int16)
  | .occupiedCoolingSetpoint => inferInstanceAs (DecidableEq Int16)
  | .runningMode => inferInstanceAs (DecidableEq RunningMode)
  | .localTemperature => inferInstanceAs (DecidableEq (Option Int16))
  | .outdoorTemperature => inferInstanceAs (DecidableEq (Option Int16))
  | .setpointSource => inferInstanceAs (DecidableEq ObservationSource)
  | .speedSetting => inferInstanceAs (DecidableEq (Option UInt8))
  | .fanMode => inferInstanceAs (DecidableEq FanModeCategory)
  | .speedCurrent => inferInstanceAs (DecidableEq UInt8)
  | .percentSetting => inferInstanceAs (DecidableEq (Option UInt8))
  | .percentCurrent => inferInstanceAs (DecidableEq UInt8)
  | .humidity => inferInstanceAs (DecidableEq (Option UInt16))
  | .reachable => inferInstanceAs (DecidableEq Bool)

/-! ### The diff as a filter -/

/-- All attributes, in the order the diff lists them. -/
def LogicalAttribute.all : List LogicalAttribute :=
  [.onOff, .systemMode, .occupiedHeatingSetpoint, .occupiedCoolingSetpoint, .runningMode,
    .localTemperature, .outdoorTemperature, .setpointSource, .speedSetting, .fanMode,
    .speedCurrent, .percentSetting, .percentCurrent, .humidity, .reachable]

theorem LogicalAttribute.mem_all (a : LogicalAttribute) : a ∈ all := by
  cases a <;> decide

theorem LogicalAttribute.nodup_all : all.Nodup := by
  decide

/-- The part of the diff the emit-once lambda is about. -/
theorem emitted_eq {on md : Prop} [Decidable on] [Decidable md] :
    (if md then emitSystemMode
        (if on then emitSystemMode ([] ++ [.onOff], false) else ([], false))
      else if on then emitSystemMode ([] ++ [.onOff], false) else ([], false)).1 =
      emitIf (decide on) .onOff ++ emitIf (decide (on ∨ md)) .systemMode := by
  by_cases hon : on <;> by_cases hmd : md <;> simp [hon, hmd, emitSystemMode, emitIf]

theorem filter_cons_emitIf (p : LogicalAttribute → Bool) (a : LogicalAttribute)
    (rest : List LogicalAttribute) : (a :: rest).filter p = emitIf (p a) a ++ rest.filter p := by
  rw [List.filter_cons, emitIf]
  split <;> rfl

/-- **The diff is a filter**: of all attributes in their order, it keeps the ones whose
projected value changed. -/
theorem diffProjections_eq_filter (before after : ProjectedClusterState) :
    diffProjections before after =
      LogicalAttribute.all.filter fun a => before.value a ≠ after.value a := by
  have hpair : decide (before.value .systemMode ≠ after.value .systemMode) =
      decide (before.onOff ≠ after.onOff ∨ before.mode ≠ after.mode) := by
    rw [decide_eq_decide]
    show (before.onOff, before.mode) ≠ (after.onOff, after.mode) ↔ _
    rw [Ne, Prod.mk.injEq, not_and_or]
  simp only [diffProjections, emitted_eq, LogicalAttribute.all, filter_cons_emitIf, hpair,
    List.filter_nil, List.append_nil, List.append_assoc]
  rfl

/-- **The diff is sound and complete**: it lists exactly the attributes whose
projected value changed. -/
theorem mem_diffProjections {before after : ProjectedClusterState} {a : LogicalAttribute} :
    a ∈ diffProjections before after ↔ before.value a ≠ after.value a := by
  rw [diffProjections_eq_filter, List.mem_filter, decide_eq_true_iff]
  exact and_iff_right a.mem_all

/-! ### SystemMode as Matter shows it -/

/-- `SystemModeEnum`, with one constructor for the values it does not declare. -/
inductive SystemModeEnum
  | kOff
  | kAuto
  | kCool
  | kHeat
  | kEmergencyHeat
  | kPrecooling
  | kFanOnly
  | kDry
  | kSleep
  | unknown
  deriving DecidableEq, Repr

/-- `toMatterSystemMode`: a unit that is off shows no mode. -/
def toMatterSystemMode (onOff : Bool) (m : OperationalMode) : SystemModeEnum :=
  if !onOff then .kOff
  else
    match m with
    | .auto => .kAuto
    | .cool => .kCool
    | .heat => .kHeat
    | .dry => .kDry
    | .fanOnly => .kFanOnly

/-! ### The laws of the diff -/

section Laws

variable {b a : ProjectedClusterState}

theorem systemMode_mem_diffProjections :
    .systemMode ∈ diffProjections b a ↔ b.onOff ≠ a.onOff ∨ b.mode ≠ a.mode := by
  rw [mem_diffProjections]
  show (b.onOff, b.mode) ≠ (a.onOff, a.mode) ↔ _
  rw [Ne, Prod.mk.injEq, not_and_or]

/-- The order of the diff does not depend on its direction. -/
theorem diffProjections_comm (b a : ProjectedClusterState) :
    diffProjections b a = diffProjections a b := by
  rw [diffProjections_eq_filter, diffProjections_eq_filter]
  refine List.filter_congr fun attr _ => ?_
  rw [decide_eq_decide]
  exact ne_comm

theorem diffProjections_eq_nil_iff : diffProjections b a = [] ↔ b = a := by
  rw [List.eq_nil_iff_forall_not_mem, ← ProjectedClusterState.value_inj, funext_iff]
  refine forall_congr' fun attr => ?_
  rw [mem_diffProjections, not_not]

/-- What changed by way of `c` changed on the way to it or on the way from it. -/
theorem mem_diffProjections_through (c : ProjectedClusterState) {attr : LogicalAttribute}
    (h : attr ∈ diffProjections b a) :
    attr ∈ diffProjections b c ∨ attr ∈ diffProjections c a := by
  simp only [mem_diffProjections] at h ⊢
  by_contra hsame
  rw [not_or, not_not, not_not] at hsame
  exact h (hsame.1.trans hsame.2)

end Laws

/-- What the diff of two projections lists. -/
structure DiffLaw (b a : ProjectedClusterState) : Prop where
  nodup : (diffProjections b a).Nodup
  listed_iff : ∀ attr : LogicalAttribute, attr ≠ .systemMode →
    (attr ∈ diffProjections b a ↔ b.value attr ≠ a.value attr)
  systemMode_iff : .systemMode ∈ diffProjections b a ↔ b.onOff ≠ a.onOff ∨ b.mode ≠ a.mode
  systemMode_shown : toMatterSystemMode b.onOff b.mode ≠ toMatterSystemMode a.onOff a.mode →
    .systemMode ∈ diffProjections b a
  comm : diffProjections b a = diffProjections a b
  nil_iff : diffProjections b a = [] ↔ b = a
  through : ∀ (c : ProjectedClusterState) (attr : LogicalAttribute),
    attr ∈ diffProjections b a → attr ∈ diffProjections b c ∨ attr ∈ diffProjections c a

/-- **The diff** of any two projections lists no attribute twice; it lists an attribute if and
only if its own field differs, and SystemMode if and only if onOff or mode does, so whenever the
value Matter shows changed; it is the same in both directions and empty only between equal
projections; and by way of any third projection nothing is lost. -/
theorem diffProjections_law (b a : ProjectedClusterState) : DiffLaw b a where
  nodup := by
    rw [diffProjections_eq_filter]
    exact LogicalAttribute.nodup_all.filter _
  listed_iff attr _ := mem_diffProjections
  systemMode_iff := systemMode_mem_diffProjections
  systemMode_shown hshown := by
    rw [systemMode_mem_diffProjections]
    by_contra hsame
    rw [not_or, not_not, not_not] at hsame
    rw [hsame.1, hsame.2] at hshown
    exact hshown rfl
  comm := diffProjections_comm b a
  nil_iff := diffProjections_eq_nil_iff
  through c _ := mem_diffProjections_through c

end DaikinBridge.Sync
