import DaikinBridge.Sync.ReconcilerSpec

/-!
# DaikinBridge.Sync.Wishes

What the controllers ask for, as plain values. Of the state an intent only moves
desired values (`apply_deviceViews`); how it moves them depends on the desired values,
on what the device last reported, and on the guard window, and on nothing else. This
module says so with a model of its own: `Wishes` is the vector of desired values,
`wish` the effect of one intent on it, `wishBundle` that of a bundle.

`state_apply` connects it to the reconciler: an intent sets each twin to the wish computed
from the state before it, and the remembered percent, and leaves everything else alone.
`wishes_apply` and `wishes_applyBundle` are the same in terms of desired values, for intents
and for bundles.
-/

namespace DaikinBridge.Sync

/-- The desired values of the six twins. -/
structure Wishes where
  onOff : Bool
  mode : OperationalMode
  heatSetpoint : Int16
  coolSetpoint : Int16
  autoSetpoint : Int16
  fan : FanSpeed
  deriving DecidableEq, Repr

/-- The setpoint wished for in a mode. -/
def Wishes.activeSetpoint (w : Wishes) : OperationalMode → Int16
  | .cool => w.coolSetpoint
  | .heat => w.heatSetpoint
  | .auto => w.autoSetpoint
  | .dry => w.autoSetpoint
  | .fanOnly => w.autoSetpoint

/-- The command that carries the wishes out. -/
def Wishes.command (w : Wishes) : S21OperationCommand where
  onOff := w.onOff
  operatingMode := operationalModeToS21OperatingMode w.mode
  setpointCelsius := w.activeSetpoint w.mode
  fanMode := fanSpeedToS21FanMode w.fan

/-- The wishes of a state. -/
def LogicalACState.wishes (s : LogicalACState) : Wishes where
  onOff := s.onOff.desired
  mode := s.mode.desired
  heatSetpoint := s.heatSetpoint.desired
  coolSetpoint := s.coolSetpoint.desired
  autoSetpoint := s.autoSetpoint.desired
  fan := s.fan.desired

/-- Set the six twins to the wishes. -/
def LogicalACState.withWishes (s : LogicalACState) (w : Wishes) (percent : Option UInt8) :
    LogicalACState :=
  { s with
    onOff := s.onOff.setDesired w.onOff
    mode := s.mode.setDesired w.mode
    heatSetpoint := s.heatSetpoint.setDesired w.heatSetpoint
    coolSetpoint := s.coolSetpoint.setDesired w.coolSetpoint
    autoSetpoint := s.autoSetpoint.setDesired w.autoSetpoint
    fan := s.fan.setDesired w.fan
    fanPercentSetting := percent }

@[simp] theorem LogicalACState.wishes_withWishes (s : LogicalACState) (w : Wishes)
    (percent : Option UInt8) : (s.withWishes w percent).wishes = w := by
  simp [withWishes, wishes]

@[simp] theorem LogicalACState.withWishes_self (s : LogicalACState) :
    s.withWishes s.wishes s.fanPercentSetting = s := by
  simp [withWishes, wishes]

/-- A write that is made or dropped as a whole. -/
theorem LogicalACState.ite_eq_withWishes {s s' : LogicalACState} {w : Wishes} (admitted : Bool)
    (h : s' = s.withWishes w s.fanPercentSetting) :
    (if admitted then s' else s) =
      s.withWishes (if admitted then w else s.wishes) s.fanPercentSetting := by
  cases admitted with
  | true => exact h
  | false => exact s.withWishes_self.symm

theorem LogicalACState.wishes_activeSetpoint (s : LogicalACState) (m : OperationalMode) :
    s.wishes.activeSetpoint m = (s.activeSetpoint m).desired := by
  cases m <;> rfl

theorem desiredCommand_eq_command (s : LogicalACState) :
    Reconciler.desiredCommand s = s.wishes.command := by
  rw [Reconciler.desiredCommand_eq_iff]
  exact ⟨rfl, rfl, (s.wishes_activeSetpoint s.mode.desired).symm, rfl⟩

namespace Reconciler

section Wish

variable (r : Reconciler) (now : Int)

/-! ### The guard window, field by field -/

/-- The guard window admits a value for a twin last reported at `reported`. -/
def admits {T : Type} [DecidableEq T] (reported : Int) (t : TwinField T) (v : T) : Bool :=
  r.intentPassesGuard now reported (v ≠ t.observed)

def admitsOnOff : Bool → Bool :=
  r.admits now r.lastDeviceObserved.onOff r.state.onOff

def admitsMode : OperationalMode → Bool :=
  r.admits now r.lastDeviceObserved.mode r.state.mode

def admitsHeat : Int16 → Bool :=
  r.admits now r.lastDeviceObserved.heatSetpoint r.state.heatSetpoint

def admitsCool : Int16 → Bool :=
  r.admits now r.lastDeviceObserved.coolSetpoint r.state.coolSetpoint

def admitsCentre : Int16 → Bool :=
  r.admits now r.lastDeviceObserved.autoSetpoint r.state.autoSetpoint

def admitsFan : FanSpeed → Bool :=
  r.admits now r.lastDeviceObserved.fan r.state.fan

/-! ### One intent -/

/-- The Auto centre a heat-edge write asks for: midway between the cool edge of the
current centre and the written value. -/
def centreForHeatEdge (centre value : Int16) : Int16 :=
  let projectedCool := Int16.ofInt
    (centre.toInt + r.config.projector.autoBandHalfWidthCentiC.toInt)
  Int16.ofInt ((projectedCool.toInt + value.toInt).tdiv 2)

/-- The Auto centre a cool-edge write asks for. -/
def centreForCoolEdge (centre value : Int16) : Int16 :=
  let projectedHeat := Int16.ofInt
    (centre.toInt - r.config.projector.autoBandHalfWidthCentiC.toInt)
  Int16.ofInt ((value.toInt + projectedHeat.toInt).tdiv 2)

/-- Ask for another Auto centre. -/
def wishCentre (w : Wishes) (centre : Int16) : Wishes :=
  if r.admitsCentre now centre then { w with autoSetpoint := centre } else w

/-- Ask for a fan level, and for power if the unit was reported off. -/
def wishFan (w : Wishes) (fan : FanSpeed) : Wishes :=
  if r.admitsFan now fan then
    { w with
      onOff := if !r.state.onOff.observed && r.admitsOnOff now true then true else w.onOff
      fan := fan }
  else w

/-- The wishes after an intent. -/
def wish (w : Wishes) : WriteIntent → Wishes
  | .setOnOff value => if r.admitsOnOff now value then { w with onOff := value } else w
  | .setSystemMode power mode =>
      { w with
        onOff := if r.admitsOnOff now power then power else w.onOff
        mode := if power && r.admitsMode now mode then mode else w.mode }
  | .setOccupiedHeatingSetpoint value =>
      match r.state.mode.observed with
      | .auto => r.wishCentre now w (r.centreForHeatEdge w.autoSetpoint value)
      | .heat => if r.admitsHeat now value then { w with heatSetpoint := value } else w
      | _ => { w with heatSetpoint := value }
  | .setOccupiedCoolingSetpoint value =>
      match r.state.mode.observed with
      | .auto => r.wishCentre now w (r.centreForCoolEdge w.autoSetpoint value)
      | .cool => if r.admitsCool now value then { w with coolSetpoint := value } else w
      | _ => { w with coolSetpoint := value }
  | .setSpeedSetting value => r.wishFan now w value
  | .setPercentSetting none => w
  | .setPercentSetting (some percent) => r.wishFan now w (some (percentToSpeedLevel percent))

/-- The percent remembered after an intent. -/
def rememberedPercent : WriteIntent → Option UInt8
  | .setSpeedSetting value =>
      if r.admitsFan now value then value.map fun level => speedLevelToPercent level.toUInt8
      else r.state.fanPercentSetting
  | .setPercentSetting (some percent) =>
      if r.admitsFan now (some (percentToSpeedLevel percent)) then some percent
      else r.state.fanPercentSetting
  | _ => r.state.fanPercentSetting

theorem state_writeFan (fan : FanSpeed) (percent : Option UInt8) :
    r.writeFan now fan percent = r.state.withWishes (r.wishFan now r.state.wishes fan)
      (if r.admitsFan now fan then percent else r.state.fanPercentSetting) := by
  unfold writeFan wishFan
  by_cases hfan : r.admitsFan now fan = true
  · have hguard : r.intentPassesGuard now r.lastDeviceObserved.fan
        (fan ≠ r.state.fan.observed) = true := hfan
    rw [if_pos hguard, if_pos hfan, if_pos hfan]
    unfold powerOnForFanWrite
    cases hon : r.state.onOff.observed with
    | true => simp [LogicalACState.withWishes, LogicalACState.wishes]
    | false =>
        have hpower : r.admitsOnOff now true =
            r.intentPassesGuard now r.lastDeviceObserved.onOff true := by
          simp [admitsOnOff, admits, hon]
        cases hadmits : r.admitsOnOff now true with
        | true => simp [LogicalACState.withWishes, LogicalACState.wishes, ← hpower, hadmits]
        | false => simp [LogicalACState.withWishes, LogicalACState.wishes, ← hpower, hadmits]
  · have hguard : ¬ r.intentPassesGuard now r.lastDeviceObserved.fan
        (fan ≠ r.state.fan.observed) = true := hfan
    rw [if_neg hguard, if_neg hfan, if_neg hfan, LogicalACState.withWishes_self]

/-- A guarded move of the Auto centre. -/
theorem state_centre (centre : Int16) :
    (if r.admitsCentre now centre then
        { r.state with autoSetpoint := r.state.autoSetpoint.setDesired centre }
      else r.state) =
      r.state.withWishes (r.wishCentre now r.state.wishes centre) r.state.fanPercentSetting := by
  refine LogicalACState.ite_eq_withWishes _ ?_
  simp [LogicalACState.withWishes, LogicalACState.wishes]

theorem state_setHeating (value : Int16) :
    r.applySetOccupiedHeatingSetpoint now value =
      r.state.withWishes (r.wish now r.state.wishes (.setOccupiedHeatingSetpoint value))
        r.state.fanPercentSetting := by
  simp only [applySetOccupiedHeatingSetpoint, wish]
  cases r.state.mode.observed with
  | auto => exact state_centre r now (r.centreForHeatEdge r.state.autoSetpoint.desired value)
  | heat =>
      refine LogicalACState.ite_eq_withWishes (r.admitsHeat now value) ?_
      simp [LogicalACState.withWishes, LogicalACState.wishes]
  | _ => simp [LogicalACState.withWishes, LogicalACState.wishes]

theorem state_setCooling (value : Int16) :
    r.applySetOccupiedCoolingSetpoint now value =
      r.state.withWishes (r.wish now r.state.wishes (.setOccupiedCoolingSetpoint value))
        r.state.fanPercentSetting := by
  simp only [applySetOccupiedCoolingSetpoint, wish]
  cases r.state.mode.observed with
  | auto => exact state_centre r now (r.centreForCoolEdge r.state.autoSetpoint.desired value)
  | cool =>
      refine LogicalACState.ite_eq_withWishes (r.admitsCool now value) ?_
      simp [LogicalACState.withWishes, LogicalACState.wishes]
  | _ => simp [LogicalACState.withWishes, LogicalACState.wishes]

theorem state_setSystemMode (power : Bool) (mode : OperationalMode) :
    r.applySetSystemMode now power mode =
      r.state.withWishes (r.wish now r.state.wishes (.setSystemMode power mode))
        r.state.fanPercentSetting := by
  -- the two axes are independent: the mode is judged by its own report
  have hmode : ∀ s : LogicalACState, s.mode = r.state.mode →
      (if power && r.intentPassesGuard now r.lastDeviceObserved.mode (mode ≠ s.mode.observed) then
          { s with mode := s.mode.setDesired mode } else s) =
        { s with
          mode := s.mode.setDesired
            (if power && r.admitsMode now mode then mode else s.mode.desired) } := by
    intro s hs
    rw [hs]
    show (if power && r.admitsMode now mode then _ else s) = _
    by_cases hpass : (power && r.admitsMode now mode) = true
    · rw [if_pos hpass, if_pos hpass]
    · rw [if_neg hpass, if_neg hpass, ← hs]
      simp
  simp only [applySetSystemMode, wish]
  by_cases hpass : r.admitsOnOff now power = true
  · have hguard : r.intentPassesGuard now r.lastDeviceObserved.onOff
        (power ≠ r.state.onOff.observed) = true := hpass
    rw [if_pos hguard, if_pos hpass]
    refine (hmode { r.state with onOff := r.state.onOff.setDesired power } rfl).trans ?_
    simp [LogicalACState.withWishes, LogicalACState.wishes]
  · have hguard : ¬ r.intentPassesGuard now r.lastDeviceObserved.onOff
        (power ≠ r.state.onOff.observed) = true := hpass
    rw [if_neg hguard, if_neg hpass]
    refine (hmode r.state rfl).trans ?_
    simp [LogicalACState.withWishes, LogicalACState.wishes]

/-- **One intent.** It sets the twins to the wishes computed before it, remembers a percent,
and leaves the rest of the state alone. -/
theorem state_apply (i : WriteIntent) :
    (r.apply now i).state =
      r.state.withWishes (r.wish now r.state.wishes i) (r.rememberedPercent now i) := by
  cases i with
  | setOnOff value =>
      refine LogicalACState.ite_eq_withWishes (r.admitsOnOff now value) ?_
      simp [LogicalACState.withWishes, LogicalACState.wishes]
  | setSystemMode power mode => exact state_setSystemMode r now power mode
  | setOccupiedHeatingSetpoint value => exact state_setHeating r now value
  | setOccupiedCoolingSetpoint value => exact state_setCooling r now value
  | setSpeedSetting value => exact state_writeFan r now value _
  | setPercentSetting value =>
      cases value with
      | none => exact r.state.withWishes_self.symm
      | some percent => exact state_writeFan r now _ _

/-- The desired values an intent leaves are the wishes computed before it. -/
theorem wishes_apply (i : WriteIntent) :
    (r.apply now i).state.wishes = r.wish now r.state.wishes i := by
  rw [state_apply, LogicalACState.wishes_withWishes]

/-- The command an intent asks for, computed before it. -/
def requestedCommand (i : WriteIntent) : S21OperationCommand :=
  (r.wish now r.state.wishes i).command

theorem desiredCommand_apply (i : WriteIntent) :
    desiredCommand (r.apply now i).state = r.requestedCommand now i := by
  rw [desiredCommand_eq_command, wishes_apply]
  rfl

/-! ### Bundles -/

/-- The wishes after several intents. -/
def wishEach (w : Wishes) (intents : List WriteIntent) : Wishes :=
  intents.foldl (fun acc i => r.wish now acc i) w

/-- The wishes after a bundle: in Auto, a heat and a cool write collapse to one move of
the centre, made before the rest. -/
def wishBundle (w : Wishes) (intents : List WriteIntent) : Wishes :=
  match lastHeat intents, lastCool intents with
  | some heat, some cool =>
      if r.state.mode.observed = .auto then
        let centre := Int16.ofInt ((heat.toInt + cool.toInt).tdiv 2)
        r.wishEach now (r.wishCentre now w centre) (intents.filter fun i => !isSetpointEdge i)
      else r.wishEach now w intents
  | _, _ => r.wishEach now w intents

/-- The command a bundle asks for, computed before it. -/
def requestedByBundle (intents : List WriteIntent) : S21OperationCommand :=
  (r.wishBundle now r.state.wishes intents).command

end Wish

/-- Wishes are judged by the device views, the configuration and the timestamps
only. -/
structure SameJudge (r r' : Reconciler) : Prop where
  views : LogicalACState.SameDeviceViews r.state r'.state
  config : r'.config = r.config
  times : r'.lastDeviceObserved = r.lastDeviceObserved

theorem SameJudge.apply (r : Reconciler) (now : Int) (i : WriteIntent) :
    SameJudge r (r.apply now i) :=
  ⟨apply_deviceViews r now i, rfl, rfl⟩

/-- The guard window judges a twin by its report alone. -/
theorem SameJudge.admits {T : Type} [DecidableEq T] {r r' : Reconciler} (h : SameJudge r r')
    (now reported : Int) {t t' : TwinField T} (ht : t.SameDevice t') :
    r'.admits now reported t' = r.admits now reported t := by
  funext v
  unfold Reconciler.admits intentPassesGuard
  rw [h.config, ht.1]

theorem SameJudge.wish {r r' : Reconciler} (h : SameJudge r r') (now : Int) :
    r'.wish now = r.wish now := by
  have hon : r'.admitsOnOff now = r.admitsOnOff now := by
    rw [admitsOnOff, h.times, h.admits now _ h.views.onOff, admitsOnOff]
  have hmode : r'.admitsMode now = r.admitsMode now := by
    rw [admitsMode, h.times, h.admits now _ h.views.mode, admitsMode]
  have hheat : r'.admitsHeat now = r.admitsHeat now := by
    rw [admitsHeat, h.times, h.admits now _ h.views.heatSetpoint, admitsHeat]
  have hcool : r'.admitsCool now = r.admitsCool now := by
    rw [admitsCool, h.times, h.admits now _ h.views.coolSetpoint, admitsCool]
  have hcentre : r'.wishCentre now = r.wishCentre now := by
    funext w v
    rw [wishCentre, admitsCentre, h.times, h.admits now _ h.views.autoSetpoint, wishCentre,
      admitsCentre]
  have hfan : r'.wishFan now = r.wishFan now := by
    funext w f
    rw [wishFan, admitsFan, h.times, h.admits now _ h.views.fan, hon, h.views.onOff.1, wishFan,
      admitsFan]
  funext w i
  cases i with
  | setPercentSetting value =>
      cases value with
      | none => rfl
      | some percent => simp only [Reconciler.wish, hfan]
  | _ =>
      simp only [Reconciler.wish, hon, hmode, hheat, hcool, hcentre, hfan, centreForHeatEdge,
        centreForCoolEdge, h.config, h.views.mode.1]

theorem wishes_applyEach (r : Reconciler) (now : Int) (intents : List WriteIntent) :
    (r.applyEach now intents).state.wishes = r.wishEach now r.state.wishes intents := by
  induction intents generalizing r with
  | nil => rfl
  | cons i rest ih =>
      have hnext := ih (r.apply now i)
      simp only [wishEach, (SameJudge.apply r now i).wish now, wishes_apply] at hnext
      exact hnext

theorem SameJudge.collapseAutoBand (r : Reconciler) (now : Int) (heat cool : Int16) :
    SameJudge r (r.collapseAutoBand now heat cool) := by
  refine ⟨(collapseAutoBand_spec r now heat cool).1, ?_, ?_⟩ <;>
    (unfold Reconciler.collapseAutoBand; dsimp only; split <;> rfl)

theorem wishes_collapseAutoBand (r : Reconciler) (now : Int) (heat cool : Int16) :
    (r.collapseAutoBand now heat cool).state.wishes =
      r.wishCentre now r.state.wishes (Int16.ofInt ((heat.toInt + cool.toInt).tdiv 2)) := by
  have hstate := congrArg LogicalACState.wishes
    (state_centre r now (Int16.ofInt ((heat.toInt + cool.toInt).tdiv 2)))
  rw [LogicalACState.wishes_withWishes] at hstate
  rw [← hstate]
  unfold collapseAutoBand admitsCentre admits
  dsimp only
  split <;> rfl

/-- **A bundle.** The desired values it leaves are the wishes computed before it. -/
theorem wishes_applyBundle (r : Reconciler) (now : Int) (intents : List WriteIntent) :
    (r.applyBundle now intents).state.wishes = r.wishBundle now r.state.wishes intents := by
  -- the collapse is one guarded move of the centre, judged as the rest is
  have hcollapse : ∀ heat cool : Int16, ((r.collapseAutoBand now heat cool).applyEach now
        (intents.filter fun i => !isSetpointEdge i)).state.wishes =
      r.wishEach now
        (r.wishCentre now r.state.wishes (Int16.ofInt ((heat.toInt + cool.toInt).tdiv 2)))
        (intents.filter fun i => !isSetpointEdge i) := by
    intro heat cool
    rw [wishes_applyEach, wishes_collapseAutoBand]
    simp only [wishEach, (SameJudge.collapseAutoBand r now heat cool).wish now]
  unfold applyBundle wishBundle
  cases lastHeat intents with
  | none => exact wishes_applyEach r now intents
  | some heat =>
      cases lastCool intents with
      | none => exact wishes_applyEach r now intents
      | some cool =>
          dsimp only
          split
          · exact hcollapse heat cool
          · exact wishes_applyEach r now intents

theorem desiredCommand_applyBundle (r : Reconciler) (now : Int) (intents : List WriteIntent) :
    desiredCommand (r.applyBundle now intents).state = r.requestedByBundle now intents := by
  rw [desiredCommand_eq_command, wishes_applyBundle]
  rfl

end Reconciler

end DaikinBridge.Sync
