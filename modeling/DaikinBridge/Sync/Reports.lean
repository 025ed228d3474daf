import DaikinBridge.Sync.Faithful

/-!
# DaikinBridge.Sync.Reports

Completeness of the change reports. A subscriber keeps a mirror of all logical
attributes and refreshes the ones named in `dirtyAttributes`; four of the seven
operations report, the other three tell nobody.

The reporting operations keep an exact mirror exact whatever they do, because the
diff is complete (`mem_diffProjections`). The silent ones keep it exact only when
they change no projected value: a send because it puts twins in flight, which
switches their projection from desired to observed, and the loss of the link because
it clears `reachable`. `mirror_exact_iff` is the run theorem.
-/

namespace DaikinBridge.Sync

/-! ### Twins -/

/-- The observed value is what the twin shows: it is in flight, or agrees with the
device. -/
def TwinField.ShowsObserved {T : Type} (t : TwinField T) : Prop :=
  t.inFlight ≠ none ∨ t.desired = t.observed

@[simp] theorem projectedValue_promote {T : Type} (t : TwinField T) :
    projectedValue t.promoteDesiredToInFlight = t.observed := rfl

theorem projectedValue_eq_observed_iff {T : Type} {t : TwinField T} :
    t.observed = projectedValue t ↔ t.ShowsObserved := by
  unfold projectedValue TwinField.ShowsObserved
  cases t.inFlight with
  | none => simp [eq_comm]
  | some sent => simp

namespace Reconciler

/-! ### The mirror -/

/-- The attributes an operation reports. -/
def reported (r : Reconciler) : KernelOp → List LogicalAttribute
  | .applyIntent now i => (r.applyIntent now i).2.dirtyAttributes
  | .applyIntentBundle now is => (r.applyIntentBundle now is).2.dirtyAttributes
  | .applyOperationalObservation now obs =>
      (r.applyOperationalObservation now obs).2.dirtyAttributes
  | .applyEnvironmentalObservation obs => (r.applyEnvironmentalObservation obs).2.dirtyAttributes
  | .onCommandSent _ => []
  | .onCommandFailed => []
  | .notifyLinkDown => []

/-- The projection as a family of attribute values. -/
def view (r : Reconciler) : ∀ a : LogicalAttribute, a.Value :=
  (Projector.project r.config.projector r.state).value

/-- The kernel with a subscriber. -/
structure Mirrored where
  kernel : Reconciler
  mirror : ∀ a : LogicalAttribute, a.Value

/-- A subscriber that has just read everything. -/
def subscribe (r : Reconciler) : Mirrored := ⟨r, r.view⟩

/-- One operation, and the refresh of the attributes it reports. -/
def mirrorStep (m : Mirrored) (op : KernelOp) : Mirrored where
  kernel := kernelStep m.kernel op
  mirror := Lib.refresh (m.kernel.reported op) (kernelStep m.kernel op).view m.mirror

/-- The mirror equals the projection. -/
def MirrorExact (m : Mirrored) : Prop := m.mirror = m.kernel.view

/-! ### Silent operations -/

/-- The setpoint twin of mode `n` is shown when the projected mode is `shown`: Auto
shows its own twin for both edges, every other mode the heat and the cool twin. -/
def ShowsSetpoint (n shown : OperationalMode) : Prop :=
  n.bearsSetpoint = true ∧ (n = .auto ↔ shown = .auto)

/-- A send that changes no projected value: the twins it puts in flight already show
their observed value, or are not shown. -/
def SendShowsNothing (s : LogicalACState) : Prop :=
  s.onOff.ShowsObserved ∧ s.mode.ShowsObserved ∧
    (Projector.projectedOnOff s = true → s.fan.ShowsObserved) ∧
    (ShowsSetpoint s.mode.desired (Projector.projectedMode s) →
      (s.activeSetpoint s.mode.desired).ShowsObserved)

/-- The operation reports what it changes, or changes nothing that shows. -/
def ChangesReported (m : Mirrored) : KernelOp → Prop
  | .onCommandSent _ => SendShowsNothing m.kernel.state
  | .notifyLinkDown => m.kernel.state.reachable.observed = false
  | _ => True

section Sent

variable (r : Reconciler) (c : S21OperationCommand)

theorem sent_heatSetpoint : (r.onCommandSent c).state.heatSetpoint =
    if r.state.mode.desired = .heat then r.state.heatSetpoint.promoteDesiredToInFlight
    else r.state.heatSetpoint :=
  sent_activeSetpoint r c (n := .heat) rfl

theorem sent_coolSetpoint : (r.onCommandSent c).state.coolSetpoint =
    if r.state.mode.desired = .cool then r.state.coolSetpoint.promoteDesiredToInFlight
    else r.state.coolSetpoint :=
  sent_activeSetpoint r c (n := .cool) rfl

theorem sent_autoSetpoint : (r.onCommandSent c).state.autoSetpoint =
    if r.state.mode.desired = .auto then r.state.autoSetpoint.promoteDesiredToInFlight
    else r.state.autoSetpoint :=
  sent_activeSetpoint r c (n := .auto) rfl

@[simp] theorem sent_fanPercentSetting :
    (r.onCommandSent c).state.fanPercentSetting = r.state.fanPercentSetting := by
  simp [onCommandSent]
@[simp] theorem sent_runningMode :
    (r.onCommandSent c).state.runningMode = r.state.runningMode := by
  simp [onCommandSent]
@[simp] theorem sent_indoorTemp : (r.onCommandSent c).state.indoorTemp = r.state.indoorTemp := by
  simp [onCommandSent]
@[simp] theorem sent_outdoorTemp :
    (r.onCommandSent c).state.outdoorTemp = r.state.outdoorTemp := by
  simp [onCommandSent]
@[simp] theorem sent_humidity : (r.onCommandSent c).state.humidity = r.state.humidity := by
  simp [onCommandSent]
@[simp] theorem sent_reachable : (r.onCommandSent c).state.reachable = r.state.reachable := by
  simp [onCommandSent]

theorem sent_projectedOnOff_iff :
    Projector.projectedOnOff (r.onCommandSent c).state = Projector.projectedOnOff r.state ↔
      r.state.onOff.ShowsObserved := by
  rw [Projector.projectedOnOff, Projector.projectedOnOff, sent_onOff, projectedValue_promote]
  exact projectedValue_eq_observed_iff

theorem sent_projectedMode_iff :
    Projector.projectedMode (r.onCommandSent c).state = Projector.projectedMode r.state ↔
      r.state.mode.ShowsObserved := by
  rw [Projector.projectedMode, Projector.projectedMode, sent_mode, projectedValue_promote]
  exact projectedValue_eq_observed_iff

/-- The setpoint edges after a send, when the shown mode stays. -/
theorem sent_edges_iff (cfg : ProjectorConfig)
    (hmode : Projector.projectedMode (r.onCommandSent c).state =
      Projector.projectedMode r.state) :
    (Projector.projectedOccupiedHeatingSetpoint cfg (r.onCommandSent c).state =
        Projector.projectedOccupiedHeatingSetpoint cfg r.state ∧
      Projector.projectedOccupiedCoolingSetpoint cfg (r.onCommandSent c).state =
        Projector.projectedOccupiedCoolingSetpoint cfg r.state) ↔
      (ShowsSetpoint r.state.mode.desired (Projector.projectedMode r.state) →
        (r.state.activeSetpoint r.state.mode.desired).ShowsObserved) := by
  simp only [Projector.projectedMode] at hmode
  simp only [Projector.projectedOccupiedHeatingSetpoint,
    Projector.projectedOccupiedCoolingSetpoint, Projector.projectedMode, hmode,
    sent_heatSetpoint, sent_coolSetpoint, sent_autoSetpoint, ShowsSetpoint]
  by_cases hshown : projectedValue r.state.mode = .auto
  · cases r.state.mode.desired <;>
      simp [hshown, OperationalMode.bearsSetpoint, LogicalACState.activeSetpoint,
        projectedValue_eq_observed_iff]
  · cases r.state.mode.desired <;>
      simp [hshown, OperationalMode.bearsSetpoint, LogicalACState.activeSetpoint,
        projectedValue_eq_observed_iff]

/-- The level shown after a send, when the shown power state stays. -/
theorem sent_speedSetting_iff
    (hon : Projector.projectedOnOff (r.onCommandSent c).state =
      Projector.projectedOnOff r.state) :
    Projector.projectedSpeedSetting (r.onCommandSent c).state =
        Projector.projectedSpeedSetting r.state ↔
      (Projector.projectedOnOff r.state = true → r.state.fan.ShowsObserved) := by
  simp only [Projector.projectedSpeedSetting, hon, sent_fan, projectedValue_promote]
  cases Projector.projectedOnOff r.state with
  | false => simp
  | true => simp [map_toUInt8_inj, projectedValue_eq_observed_iff]

/-- The rest of the fan view: off, it shows as constants; on, by the observed level
before and after. -/
theorem sent_fan_view
    (hon : Projector.projectedOnOff (r.onCommandSent c).state =
      Projector.projectedOnOff r.state)
    (hfan : Projector.projectedOnOff r.state = true → r.state.fan.ShowsObserved) :
    Projector.projectedSpeedCurrent (r.onCommandSent c).state =
        Projector.projectedSpeedCurrent r.state ∧
      Projector.projectedFanMode (r.onCommandSent c).state =
        Projector.projectedFanMode r.state := by
  simp only [Projector.projectedSpeedCurrent, Projector.projectedFanMode, hon]
  cases h : Projector.projectedOnOff r.state with
  | false => exact ⟨rfl, rfl⟩
  | true =>
      have hlevel : projectedValue (r.onCommandSent c).state.fan =
          projectedValue r.state.fan := by
        rw [sent_fan, projectedValue_promote]
        exact projectedValue_eq_observed_iff.mpr (hfan h)
      rw [hlevel]
      exact ⟨rfl, rfl⟩

/-- A send leaves the attribution of every setpoint alone. -/
theorem sent_setpointSource : Projector.projectedSetpointSource (r.onCommandSent c).state =
    Projector.projectedSetpointSource r.state := by
  unfold Projector.projectedSetpointSource
  rw [sent_mode, TwinField.promote_observed, ← LogicalACState.activeSetpoint_setpointMode,
    sent_activeSetpoint r c (OperationalMode.bearsSetpoint_setpointMode _),
    r.state.activeSetpoint_setpointMode]
  split <;> rfl

/-- **A silent send.** A send changes no projected value if and only if every twin it
puts in flight already shows its observed value or is not shown. -/
theorem project_sent_iff (cfg : ProjectorConfig) :
    Projector.project cfg (r.onCommandSent c).state = Projector.project cfg r.state ↔
      SendShowsNothing r.state := by
  constructor
  · intro h
    have hon : Projector.projectedOnOff (r.onCommandSent c).state = _ :=
      congrArg ProjectedClusterState.onOff h
    have hmode : Projector.projectedMode (r.onCommandSent c).state = _ :=
      congrArg ProjectedClusterState.mode h
    refine ⟨(sent_projectedOnOff_iff r c).mp hon, (sent_projectedMode_iff r c).mp hmode, ?_, ?_⟩
    · exact (sent_speedSetting_iff r c hon).mp (congrArg ProjectedClusterState.speedSetting h)
    · exact (sent_edges_iff r c cfg hmode).mp
        ⟨congrArg ProjectedClusterState.occupiedHeatingSetpoint h,
          congrArg ProjectedClusterState.occupiedCoolingSetpoint h⟩
  · intro ⟨hshowsOn, hshowsMode, hfan, hsp⟩
    have hon := (sent_projectedOnOff_iff r c).mpr hshowsOn
    have hmode := (sent_projectedMode_iff r c).mpr hshowsMode
    have hspeed := (sent_speedSetting_iff r c hon).mpr hfan
    obtain ⟨hheat, hcool⟩ := (sent_edges_iff r c cfg hmode).mpr hsp
    obtain ⟨hcurrent, hfanMode⟩ := sent_fan_view r c hon hfan
    have hrunning : Projector.projectedRunningMode (r.onCommandSent c).state =
        Projector.projectedRunningMode r.state := by
      have hpower : projectedValue (r.onCommandSent c).state.onOff =
          projectedValue r.state.onOff := hon
      simp only [Projector.projectedRunningMode, hpower, sent_runningMode]
    have hpercent : Projector.projectedPercentSetting (r.onCommandSent c).state =
        Projector.projectedPercentSetting r.state := by
      simp only [Projector.projectedPercentSetting, hon, sent_fanPercentSetting]
    simp only [Projector.project, Projector.projectedPercentCurrent,
      Projector.projectedHumidityCentiPercent, hon, hmode, hheat, hcool, hrunning,
      sent_setpointSource, hspeed, hfanMode, hcurrent, hpercent, sent_indoorTemp,
      sent_outdoorTemp, sent_humidity, sent_reachable]

end Sent

/-! ### Runs -/

/-- From an exact mirror, an operation that reports its diff leads to an exact one. -/
theorem mirrorExact_of_diff {m : Mirrored} {op : KernelOp} (h : MirrorExact m)
    (hdiff : m.kernel.reported op =
      diffProjections (Projector.project m.kernel.config.projector m.kernel.state)
        (Projector.project (kernelStep m.kernel op).config.projector
          (kernelStep m.kernel op).state)) :
    MirrorExact (mirrorStep m op) := by
  refine Lib.refresh_eq_iff.mpr fun a ha => ?_
  rw [h]
  by_contra hne
  rw [hdiff] at ha
  exact ha (mem_diffProjections.mpr hne)

/-- From an exact mirror, an operation that reports nothing leads to an exact one if
and only if it changes no projected value. -/
theorem mirrorExact_of_silent {m : Mirrored} {op : KernelOp} (h : MirrorExact m)
    (hsilent : m.kernel.reported op = [])
    (hconfig : (kernelStep m.kernel op).config = m.kernel.config) :
    MirrorExact (mirrorStep m op) ↔
      Projector.project m.kernel.config.projector (kernelStep m.kernel op).state =
        Projector.project m.kernel.config.projector m.kernel.state := by
  have hviews : MirrorExact (mirrorStep m op) ↔ (kernelStep m.kernel op).view = m.kernel.view := by
    unfold MirrorExact mirrorStep
    rw [hsilent, Lib.refresh_eq_iff, h]
    constructor
    · intro heq
      funext a
      exact (heq a List.not_mem_nil).symm
    · intro heq a _
      rw [heq]
  rw [hviews, view, view, hconfig, ProjectedClusterState.value_inj]

/-- Losing the link shows unless the device was already unreachable. -/
theorem project_notifyLinkDown_iff (r : Reconciler) (cfg : ProjectorConfig) :
    Projector.project cfg r.notifyLinkDown.state = Projector.project cfg r.state ↔
      r.state.reachable.observed = false := by
  constructor
  · intro h
    exact (congrArg ProjectedClusterState.reachable h).symm
  · intro h
    simp [Projector.project, notifyLinkDown, Projector.projectedOnOff, Projector.projectedMode,
      Projector.projectedOccupiedHeatingSetpoint, Projector.projectedOccupiedCoolingSetpoint,
      Projector.projectedRunningMode, Projector.projectedSetpointSource,
      LogicalACState.activeSetpoint, Projector.projectedSpeedSetting, Projector.projectedFanMode,
      Projector.projectedSpeedCurrent, Projector.projectedPercentSetting,
      Projector.projectedPercentCurrent, Projector.projectedHumidityCentiPercent, h]

/-- One operation from an exact mirror. -/
theorem mirrorExact_step (m : Mirrored) (op : KernelOp) (h : MirrorExact m) :
    MirrorExact (mirrorStep m op) ↔ ChangesReported m op := by
  cases op with
  | applyIntent now i => exact iff_of_true (mirrorExact_of_diff h rfl) trivial
  | applyIntentBundle now is => exact iff_of_true (mirrorExact_of_diff h rfl) trivial
  | applyOperationalObservation now obs => exact iff_of_true (mirrorExact_of_diff h rfl) trivial
  | applyEnvironmentalObservation obs => exact iff_of_true (mirrorExact_of_diff h rfl) trivial
  | onCommandSent c =>
      rw [mirrorExact_of_silent h rfl rfl]
      exact project_sent_iff m.kernel c _
  | onCommandFailed =>
      rw [mirrorExact_of_silent h rfl rfl]
      exact iff_of_true rfl trivial
  | notifyLinkDown =>
      rw [mirrorExact_of_silent h rfl rfl]
      exact project_notifyLinkDown_iff m.kernel _

/-- **Change reports over runs.** A subscriber's mirror equals the projection in every
state a run passes through if and only if the sends and link losses of the run change
nothing that shows. -/
theorem mirror_exact_iff (r : Reconciler) (ops : List KernelOp) :
    Lib.Throughout mirrorStep MirrorExact (subscribe r) ops ↔
      Lib.Along mirrorStep ChangesReported (subscribe r) ops :=
  Lib.throughout_iff_along mirrorExact_step rfl

/-- Switching on a unit that is off: the write showed it on, the send shows it off again
until the device confirms, and the subscriber is not told. -/
theorem send_unreported :
    let m := Lib.run mirrorStep (subscribe boot)
      [.applyIntent 1 (.setOnOff true), .onCommandSent ⟨true, .auto, 2200, .auto⟩]
    m.mirror .onOff = true ∧ m.kernel.view .onOff = false ∧ ¬ MirrorExact m := by
  intro m
  have hmirror : m.mirror .onOff = true := rfl
  have hview : m.kernel.view .onOff = false := rfl
  refine ⟨hmirror, hview, ?_⟩
  intro h
  rw [h, hview] at hmirror
  exact Bool.false_ne_true hmirror

end Reconciler

end DaikinBridge.Sync
