import DaikinBridge.Sync.Echo
import DaikinBridge.Sync.Wishes

/-!
# DaikinBridge.Sync.Dedup

The retry suppression of `pendingCommand`: a command equal to the one last sent is
not sent again. The memory is written by a send and cleared by a failure, never by
an observation, so it can outlive the agreement it stands for.

* `observations_silent_iff` — after a send, reports alone stay silent exactly when
  each of them settles the twins or leaves the sent command as the desired one;
* `freshWrites_sent_iff` — once the last send is confirmed, a write is sent exactly
  when it does not ask for the remembered command.

What a report does is read off the state before it, by `commandAdopting`, the desired
command it leaves, and `leavesUnsettled`, whether it leaves a twin dirty; what a write
asks for, by `requestedCommand`.
-/

namespace DaikinBridge.Sync

open S21 (OperatingMode FanMode)

/-! ### What a report leaves -/

namespace TwinField

variable {T : Type} [DecidableEq T]

/-- The desired value a report leaves: a new value is adopted out of flight only. -/
def desiredAfter (t : TwinField T) (v : T) : T :=
  if t.inFlight = none ∧ v ≠ t.observed then v else t.desired

/-- Does a report leave the twin dirty? -/
def dirtyAfter (t : TwinField T) (v : T) : Bool :=
  if v = t.observed then t.dirty else t.inFlight.isSome && decide (t.desired ≠ v)

/-- A report leaves nothing in flight: it is new, or there was nothing, or it is the
confirmation. -/
def LandsOn (t : TwinField T) (v : T) : Prop :=
  v ≠ t.observed ∨ t.inFlight = none ∨ t.inFlight = some v

instance (t : TwinField T) (v : T) : Decidable (t.LandsOn v) := by
  unfold LandsOn; infer_instance

/-- A report ends the flight with another value than the one sent. -/
def disconfirms (t : TwinField T) (v : T) : Bool :=
  t.inFlight.any fun sent => decide (v ≠ sent) && decide (v ≠ t.observed)

theorem desired_applyObservation (t : TwinField T) (v : T) (src : ObservationSource) :
    (t.applyObservation v src).desired = t.desiredAfter v :=
  applyObservation_desired t v src

theorem inFlight_applyObservation_eq_none_iff (t : TwinField T) (v : T)
    (src : ObservationSource) : (t.applyObservation v src).inFlight = none ↔ t.LandsOn v := by
  unfold LandsOn
  rw [applyObservation_inFlight]
  by_cases hv : v = t.observed
  · cases hf : t.inFlight with
    | none => simp
    | some sent => simp [hv, Option.filter]
  · simp [hv]

end TwinField

namespace Reconciler

section Report

variable (s : LogicalACState) (cfg : ReconcilerConfig) (obs : S21OperationalObservation)

/-- The desired setpoint a report leaves in the twin in charge in mode `n`. -/
def setpointAfter (n : OperationalMode) : Int16 :=
  if s21OperatingModeToOperationalMode obs.operatingMode = n.setpointMode then
    (s.activeSetpoint n).desiredAfter obs.setpointCelsius
  else (s.activeSetpoint n).desired

/-- The desired command a report leaves. -/
def commandAdopting : S21OperationCommand :=
  let mode := s.mode.desiredAfter (s21OperatingModeToOperationalMode obs.operatingMode)
  { onOff := s.onOff.desiredAfter obs.onOff
    operatingMode := operationalModeToS21OperatingMode mode
    setpointCelsius := setpointAfter s obs mode
    fanMode := fanSpeedToS21FanMode (s.fan.desiredAfter (s21FanModeToSpeedSetting obs.fanMode)) }

/-- Does a report leave the setpoint twin of mode `n` dirty? -/
def setpointDirtyAfter (n : OperationalMode) : Bool :=
  if s21OperatingModeToOperationalMode obs.operatingMode = n then
    (s.activeSetpoint n).dirtyAfter obs.setpointCelsius
  else (s.activeSetpoint n).dirty

/-- Does a report leave some twin dirty? -/
def leavesUnsettled : Bool :=
  s.onOff.dirtyAfter obs.onOff ||
    s.mode.dirtyAfter (s21OperatingModeToOperationalMode obs.operatingMode) ||
    setpointDirtyAfter s obs .heat || setpointDirtyAfter s obs .cool ||
    setpointDirtyAfter s obs .auto ||
    s.fan.dirtyAfter (s21FanModeToSpeedSetting obs.fanMode)

/-- A report leaves nothing in flight in the setpoint twin of mode `n`. -/
def SetpointLands (n : OperationalMode) : Prop :=
  if s21OperatingModeToOperationalMode obs.operatingMode = n then
    (s.activeSetpoint n).LandsOn obs.setpointCelsius
  else (s.activeSetpoint n).inFlight = none

/-- A report leaves nothing in flight. -/
def LandsAll : Prop :=
  s.onOff.LandsOn obs.onOff ∧
    s.mode.LandsOn (s21OperatingModeToOperationalMode obs.operatingMode) ∧
    SetpointLands s obs .heat ∧ SetpointLands s obs .cool ∧ SetpointLands s obs .auto ∧
    s.fan.LandsOn (s21FanModeToSpeedSetting obs.fanMode)

/-- The setpoint twin in charge in a mode, after a report. -/
theorem observe_charge (n : OperationalMode) :
    (observeOperational s cfg obs).activeSetpoint n =
      if s21OperatingModeToOperationalMode obs.operatingMode = n.setpointMode then
        (s.activeSetpoint n).applyObservation obs.setpointCelsius .device
      else s.activeSetpoint n := by
  rw [← LogicalACState.activeSetpoint_setpointMode,
    observe_activeSetpoint s cfg obs n.bearsSetpoint_setpointMode,
    s.activeSetpoint_setpointMode]

theorem desiredCommand_observe :
    desiredCommand (observeOperational s cfg obs) = commandAdopting s obs := by
  rw [desiredCommand_eq_iff, observe_onOff, observe_mode, observe_fan, observe_charge]
  simp only [TwinField.desired_applyObservation]
  refine ⟨rfl, rfl, ?_, rfl⟩
  simp only [commandAdopting, setpointAfter]
  split
  · rw [TwinField.desired_applyObservation]
  · rfl

theorem setpoint_dirty_observe {n : OperationalMode} (hn : n.bearsSetpoint = true) :
    ((observeOperational s cfg obs).activeSetpoint n).dirty = setpointDirtyAfter s obs n := by
  rw [observe_activeSetpoint s cfg obs hn]
  unfold setpointDirtyAfter
  split
  · exact TwinField.dirty_applyObservation _ _ _
  · rfl

theorem anyDirty_observe :
    anyDirty (observeOperational s cfg obs) = leavesUnsettled s obs := by
  have hheat := setpoint_dirty_observe s cfg obs (n := .heat) rfl
  have hcool := setpoint_dirty_observe s cfg obs (n := .cool) rfl
  have hauto := setpoint_dirty_observe s cfg obs (n := .auto) rfl
  simp only [LogicalACState.activeSetpoint] at hheat hcool hauto
  unfold anyDirty leavesUnsettled
  rw [observe_onOff, observe_mode, observe_fan, hheat, hcool, hauto]
  simp only [TwinField.dirty_applyObservation]
  rfl

theorem setpoint_lands_observe {n : OperationalMode} (hn : n.bearsSetpoint = true) :
    ((observeOperational s cfg obs).activeSetpoint n).inFlight = none ↔ SetpointLands s obs n := by
  rw [observe_activeSetpoint s cfg obs hn]
  unfold SetpointLands
  split
  · exact TwinField.inFlight_applyObservation_eq_none_iff _ _ _
  · exact Iff.rfl

theorem noneInFlight_observe :
    (observeOperational s cfg obs).noneInFlight ↔ LandsAll s obs := by
  have hheat := setpoint_lands_observe s cfg obs (n := .heat) rfl
  have hcool := setpoint_lands_observe s cfg obs (n := .cool) rfl
  have hauto := setpoint_lands_observe s cfg obs (n := .auto) rfl
  simp only [LogicalACState.activeSetpoint] at hheat hcool hauto
  unfold LogicalACState.noneInFlight LandsAll
  rw [observe_onOff, observe_mode, observe_fan, hheat, hcool, hauto]
  simp only [TwinField.inFlight_applyObservation_eq_none_iff]

/-- The two reasons for a report to ask for nothing. -/
theorem pendingCommand_observe (r : Reconciler) (now : Int) :
    (r.applyOperationalObservation now obs).1.pendingCommand = none ↔
      leavesUnsettled r.state obs = false ∨
        r.lastSentCommand = some (commandAdopting r.state obs) := by
  rw [pendingCommand_eq_none_iff]
  have hstate : (r.applyOperationalObservation now obs).1.state =
      observeOperational r.state r.config obs := rfl
  rw [hstate, anyDirty_observe, desiredCommand_observe]
  exact Iff.rfl

end Report

/-! ### Reports alone -/

/-- The two kinds of report a poll produces. -/
inductive Observation
  | operational (now : Int) (obs : S21OperationalObservation)
  | environmental (obs : S21EnvironmentalObservation)

/-- The state after a report. -/
def observe (r : Reconciler) : Observation → Reconciler
  | .operational now obs => (r.applyOperationalObservation now obs).1
  | .environmental obs => (r.applyEnvironmentalObservation obs).1

/-- The command a report returns; environmental ones cannot return any. -/
def observeSends (r : Reconciler) : Observation → Option S21OperationCommand
  | .operational now obs => (r.applyOperationalObservation now obs).2.sendCommand
  | .environmental _ => none

/-- A report that settles the twins, or leaves `c` as the desired command. -/
def SettlesOrKeeps (c : S21OperationCommand) (r : Reconciler) : Observation → Prop
  | .operational _ obs => leavesUnsettled r.state obs = false ∨ commandAdopting r.state obs = c
  | .environmental _ => True

@[simp] theorem observe_lastSentCommand (r : Reconciler) (o : Observation) :
    (r.observe o).lastSentCommand = r.lastSentCommand := by
  cases o <;> rfl

/-- With `c` remembered, one report stays silent exactly under the condition. -/
theorem observe_silent_iff {r : Reconciler} {c : S21OperationCommand}
    (hlast : r.lastSentCommand = some c) (hpend : r.pendingCommand = none) (o : Observation) :
    (r.observe o).pendingCommand = none ↔ SettlesOrKeeps c r o := by
  cases o with
  | operational now obs =>
      have h := pendingCommand_observe obs r now
      rw [hlast, Option.some.injEq, eq_comm (a := c)] at h
      exact h
  | environmental obs => exact iff_of_true hpend trivial

/-- **Observations alone.** After a send, a sequence of reports stays silent, in
every state and in every returned change, if and only if every operational report in
it settles the twins or leaves the command just sent as the desired one. -/
theorem observations_silent_iff {r : Reconciler} {c : S21OperationCommand}
    (hpend : r.pendingCommand = some c) (reports : List Observation) :
    (Lib.Throughout observe (fun r' => r'.pendingCommand = none) (r.onCommandSent c) reports ∧
        Lib.Along observe (fun r' o => r'.observeSends o = none) (r.onCommandSent c) reports) ↔
      Lib.Along observe (SettlesOrKeeps c) (r.onCommandSent c) reports := by
  -- the memory of the send is part of the invariant
  have hexact : Lib.Throughout observe
        (fun r' => r'.lastSentCommand = some c ∧ r'.pendingCommand = none)
        (r.onCommandSent c) reports ↔
      Lib.Along observe (SettlesOrKeeps c) (r.onCommandSent c) reports := by
    refine Lib.throughout_iff_along (fun r' o h => ?_) ⟨rfl, pendingCommand_sent hpend⟩
    rw [observe_lastSentCommand, and_iff_right h.1]
    exact observe_silent_iff h.1 h.2 o
  have hlast : Lib.Throughout observe (fun r' => r'.lastSentCommand = some c)
      (r.onCommandSent c) reports :=
    Lib.throughout_of_step (fun r' o h => (observe_lastSentCommand r' o).trans h) rfl
  rw [← hexact]
  constructor
  · intro h pre hpre
    exact ⟨hlast pre hpre, h.1 pre hpre⟩
  · intro h
    have hsilent := h.mono fun _ hr => hr.2
    refine ⟨hsilent, hsilent.along fun r' o _ hnext => ?_⟩
    cases o with
    | operational now obs => exact hnext
    | environmental obs => rfl

/-- The poll that shows the new setpoint settles everything. -/
theorem coolingRequested_silent :
    Lib.Throughout observe (fun r => r.pendingCommand = none)
      (coolingRequested.onCommandSent coolTo26)
      [.operational 2300 ⟨true, .cool, 2600, .auto, none⟩] := by
  have hpend : coolingRequested.pendingCommand = some coolTo26 := by decide +kernel
  have hsettles : Lib.Along observe (SettlesOrKeeps coolTo26)
      (coolingRequested.onCommandSent coolTo26)
      [.operational 2300 ⟨true, .cool, 2600, .auto, none⟩] :=
    ⟨Or.inl (by decide +kernel), trivial⟩
  exact ((observations_silent_iff hpend _).mpr hsettles).1

/-- A panel change of the mode disconfirms the send and leaves the mode dirty; a later
panel change of the fan is adopted, and the mixture of both is sent to the device. -/
theorem panel_changes_written_back :
    Reachable coolingRequested ∧ coolingRequested.pendingCommand = some coolTo26 ∧
      (Lib.run observe (coolingRequested.onCommandSent coolTo26)
        [.operational 2100 ⟨true, .heat, 2000, .auto, none⟩,
         .operational 2200 ⟨true, .heat, 2000, .high, none⟩]).pendingCommand =
          some ⟨true, .cool, 2600, .high⟩ :=
  ⟨reachable_coolingRequested, by decide +kernel, by decide +kernel⟩

/-! ### Fresh writes -/

section Requests

variable (r : Reconciler) (now : Int)

/-- The guard window lets a fan write through, with the power-on it may imply. -/
def FanWritePasses (fan : FanSpeed) : Prop :=
  r.admitsFan now fan = true ∧
    (r.state.onOff.observed = false → r.admitsOnOff now true = true)

/-- The guard window lets through every write the intent makes. -/
def PassesGuard : WriteIntent → Prop
  | .setOnOff value => r.admitsOnOff now value = true
  | .setSystemMode power mode =>
      r.admitsOnOff now power = true ∧ (power = true → r.admitsMode now mode = true)
  | .setOccupiedHeatingSetpoint value =>
      (r.state.mode.observed = .heat → r.admitsHeat now value = true) ∧
        (r.state.mode.observed = .auto →
          r.admitsCentre now
            (r.centreForHeatEdge r.state.autoSetpoint.desired value) = true)
  | .setOccupiedCoolingSetpoint value =>
      (r.state.mode.observed = .cool → r.admitsCool now value = true) ∧
        (r.state.mode.observed = .auto →
          r.admitsCentre now
            (r.centreForCoolEdge r.state.autoSetpoint.desired value) = true)
  | .setSpeedSetting value => r.FanWritePasses now value
  | .setPercentSetting none => True
  | .setPercentSetting (some percent) =>
      r.FanWritePasses now (some (percentToSpeedLevel percent))

end Requests

/-- With nothing in flight, a clean state desires what it observes. -/
theorem desiredCommand_of_clean {s : LogicalACState} (hfly : s.noneInFlight)
    (hclean : anyDirty s = false) : desiredCommand s = observedCommand s := by
  obtain ⟨fon, fmode, fheat, fcool, fauto, ffan⟩ := hfly
  obtain ⟨hon, hmode, -, -, -, hfan⟩ := anyDirty_eq_false_iff.mp hclean
  have hsp := activeSetpoint_dirty_of_anyDirty hclean s.mode.desired
  have fsp : (s.activeSetpoint s.mode.desired).inFlight = none := by
    cases s.mode.desired <;> assumption
  rw [TwinField.dirty_eq_false_iff] at hon hmode hfan hsp
  rw [fon] at hon
  rw [fmode] at hmode
  rw [ffan] at hfan
  rw [fsp] at hsp
  simp only [Option.getD_none] at hon hmode hfan hsp
  rw [desiredCommand_eq_iff]
  refine ⟨hon, ?_, ?_, ?_⟩
  · rw [hmode]; rfl
  · rw [hsp, hmode]; rfl
  · rw [hfan]; rfl

/-- An intent puts nothing in flight and takes nothing out of it. -/
theorem noneInFlight_of_deviceViews {s s' : LogicalACState}
    (h : LogicalACState.SameDeviceViews s s') : s'.noneInFlight ↔ s.noneInFlight := by
  unfold LogicalACState.noneInFlight
  rw [h.onOff.2, h.mode.2, h.heatSetpoint.2, h.coolSetpoint.2, h.autoSetpoint.2, h.fan.2]

theorem observedCommand_of_deviceViews {s s' : LogicalACState}
    (h : LogicalACState.SameDeviceViews s s') : observedCommand s' = observedCommand s := by
  unfold observedCommand
  rw [h.onOff.1, h.mode.1, (LogicalACState.EachTwin.activeSetpoint h _).1, h.fan.1]

/-! ### Runs that remember confirmations -/

/-- The kernel, and whether no component of the command last sent has been
disconfirmed. With nothing in flight, they were all confirmed. -/
structure Watched where
  kernel : Reconciler
  confirmed : Bool

/-- Does a report disconfirm a component of the command last sent? -/
def disconfirms (r : Reconciler) (obs : S21OperationalObservation) : Bool :=
  let mode := s21OperatingModeToOperationalMode obs.operatingMode
  match r.lastSentCommand with
  | none => false
  | some c =>
      r.state.onOff.disconfirms obs.onOff || r.state.mode.disconfirms mode ||
        r.state.fan.disconfirms (s21FanModeToSpeedSetting obs.fanMode) ||
        (mode.bearsSetpoint && s21OperatingModeToOperationalMode c.operatingMode == mode &&
          (r.state.activeSetpoint mode).disconfirms obs.setpointCelsius)

/-- One operation, watched. -/
def watchStep (m : Watched) (op : KernelOp) : Watched where
  kernel := kernelStep m.kernel op
  confirmed :=
    match op with
    | .onCommandSent _ => true
    | .applyOperationalObservation _ obs => m.confirmed && !m.kernel.disconfirms obs
    | _ => m.confirmed

/-- Watching does not interfere. -/
theorem run_watchStep_kernel (m : Watched) (ops : List KernelOp) :
    (Lib.run watchStep m ops).kernel = Lib.run kernelStep m.kernel ops := by
  induction ops generalizing m with
  | nil => rfl
  | cons op ops ih => exact ih (watchStep m op)

/-- Every fresh write is answered with the command it makes desired. -/
def SendsFreshWrite (m : Watched) : KernelOp → Prop
  | .applyIntent now i =>
      let after := (m.kernel.applyIntent now i).1.state
      m.kernel.state.noneInFlight → m.confirmed = true → m.kernel.PassesGuard now i →
        desiredCommand after ≠ observedCommand after →
        (m.kernel.applyIntent now i).2.sendCommand = some (desiredCommand after)
  | _ => True

/-- No fresh write asks for the remembered command. -/
def AsksForSomethingElse (m : Watched) : KernelOp → Prop
  | .applyIntent now i =>
      m.kernel.state.noneInFlight → m.confirmed = true → m.kernel.PassesGuard now i →
        m.kernel.requestedCommand now i ≠ observedCommand m.kernel.state →
        m.kernel.lastSentCommand ≠ some (m.kernel.requestedCommand now i)
  | _ => True

/-- A write that asks for what the device does not report goes out unless it asks for
the remembered command. -/
theorem applyIntent_sends_iff {r : Reconciler} {now : Int} {i : WriteIntent}
    (hfly : r.state.noneInFlight)
    (hne : r.requestedCommand now i ≠ observedCommand r.state) :
    (r.applyIntent now i).2.sendCommand = some (r.requestedCommand now i) ↔
      r.lastSentCommand ≠ some (r.requestedCommand now i) := by
  have hviews := apply_deviceViews r now i
  have hdesired := desiredCommand_apply r now i
  -- with nothing in flight, such a request dirties a twin
  have hdirty : anyDirty (r.apply now i).state = true := by
    rw [← Bool.not_eq_false]
    intro hclean
    apply hne
    rw [← hdesired, ← observedCommand_of_deviceViews hviews]
    exact desiredCommand_of_clean ((noneInFlight_of_deviceViews hviews).mpr hfly) hclean
  have hsent : (r.applyIntent now i).2.sendCommand = (r.apply now i).pendingCommand := rfl
  rw [hsent, pendingCommand_eq_some_iff]
  constructor
  · intro h
    exact h.2.2
  · intro h
    exact ⟨hdirty, hdesired, h⟩

/-- One step: the fresh write goes out unless it asks for the remembered command. -/
theorem sendsFreshWrite_iff (m : Watched) (op : KernelOp) :
    SendsFreshWrite m op ↔ AsksForSomethingElse m op := by
  cases op with
  | applyIntent now i =>
      have hstate : (m.kernel.applyIntent now i).1.state = (m.kernel.apply now i).state := rfl
      simp only [SendsFreshWrite, AsksForSomethingElse]
      refine forall_congr' fun hfly => forall_congr' fun _ => forall_congr' fun _ => ?_
      rw [hstate, desiredCommand_apply,
        observedCommand_of_deviceViews (apply_deviceViews m.kernel now i)]
      exact forall_congr' fun hne => applyIntent_sends_iff hfly hne
  | _ => exact Iff.rfl

/-- **Fresh writes.** In every run, every fresh write is sent if and only if none of
them asks for the command last sent. -/
theorem freshWrites_sent_iff (m : Watched) (ops : List KernelOp) :
    Lib.Along watchStep SendsFreshWrite m ops ↔
      Lib.Along watchStep AsksForSomethingElse m ops :=
  Lib.along_congr sendsFreshWrite_iff

/-- The controller's 26 °C was sent and confirmed, and the panel has since gone back to
24 °C. -/
def panelWentBack : Watched :=
  Lib.run watchStep ⟨coolingRequested, true⟩
    [.onCommandSent coolTo26,
     .applyOperationalObservation 2300 ⟨true, .cool, 2600, .auto, none⟩,
     .applyOperationalObservation 9000 ⟨true, .cool, 2400, .auto, none⟩]

/-- The same write again, long after, is swallowed. -/
theorem repeated_write_swallowed :
    Reachable panelWentBack.kernel ∧ panelWentBack.kernel.state.noneInFlight ∧
      panelWentBack.confirmed = true ∧
      ¬ SendsFreshWrite panelWentBack
        (.applyIntent 20000 (.setOccupiedCoolingSetpoint 2600)) := by
  have hreach : Reachable panelWentBack.kernel := by
    rw [panelWentBack, run_watchStep_kernel]
    exact reachable_coolingRequested.run _
  have hfly : panelWentBack.kernel.state.noneInFlight := by decide +kernel
  have hconf : panelWentBack.confirmed = true := by decide +kernel
  refine ⟨hreach, hfly, hconf, ?_⟩
  intro h
  have hguard : panelWentBack.kernel.PassesGuard 20000 (.setOccupiedCoolingSetpoint 2600) :=
    ⟨by decide +kernel, by decide +kernel⟩
  exact absurd (h hfly hconf hguard (by decide +kernel)) (by decide +kernel)

end Reconciler

end DaikinBridge.Sync
