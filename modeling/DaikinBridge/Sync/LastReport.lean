import DaikinBridge.Sync.ReconcilerSpec

/-!
# DaikinBridge.Sync.LastReport

The observed views of the kernel are exactly what the device last reported.

Only an operational observation moves an `observed` value (`kernelStep_sameObserved`),
and it moves those of power, mode and fan to what it reports, and that of the setpoint
twin of the reported mode. So after any run the views are the latest reports
(`observed_is_last_report`), for each setpoint twin the latest one in its own mode.
-/

namespace DaikinBridge.Sync

/-- The observed value is untouched. -/
def TwinField.SameObserved {T : Type} (t t' : TwinField T) : Prop := t'.observed = t.observed

/-- The boot default of the setpoint twin in charge in a mode. -/
def LogicalACStateDefaults.setpoint (d : LogicalACStateDefaults) : OperationalMode → Int16
  | .cool => d.coolSetpoint
  | .heat => d.heatSetpoint
  | .auto => d.autoSetpoint
  | .dry => d.autoSetpoint
  | .fanOnly => d.autoSetpoint

namespace LogicalACState

/-- No observed value is touched. -/
def SameObserved (s s' : LogicalACState) : Prop := EachTwin TwinField.SameObserved s s'

theorem SameObserved.refl (s : LogicalACState) : SameObserved s s :=
  EachTwin.refl (R := TwinField.SameObserved) (fun _ => rfl) s

theorem SameDeviceViews.sameObserved {s s' : LogicalACState} (h : SameDeviceViews s s') :
    SameObserved s s' :=
  ⟨h.onOff.1, h.mode.1, h.heatSetpoint.1, h.coolSetpoint.1, h.autoSetpoint.1, h.fan.1⟩

theorem new_activeSetpoint (d : LogicalACStateDefaults) (n : OperationalMode) :
    (LogicalACState.new d).activeSetpoint n = .new (d.setpoint n) := by
  cases n <;> rfl

end LogicalACState

namespace Reconciler

open LogicalACState (SameObserved)

/-- The operational report an operation brings. -/
def KernelOp.report : KernelOp → Option S21OperationalObservation
  | .applyOperationalObservation _ obs => some obs
  | _ => none

/-- The report, if it is one of mode `n`. -/
def KernelOp.reportIn (n : OperationalMode) (op : KernelOp) : Option S21OperationalObservation :=
  op.report.filter fun obs => s21OperatingModeToOperationalMode obs.operatingMode = n

/-- A send moves no observed value. -/
theorem sent_sameObserved (r : Reconciler) (c : S21OperationCommand) :
    SameObserved r.state (r.onCommandSent c).state := by
  have hsp : ∀ {n : OperationalMode}, n.bearsSetpoint = true →
      (r.state.activeSetpoint n).SameObserved ((r.onCommandSent c).state.activeSetpoint n) := by
    intro n hn
    rw [sent_activeSetpoint r c hn]
    split <;> rfl
  refine ⟨?_, ?_, hsp (n := .heat) rfl, hsp (n := .cool) rfl, hsp (n := .auto) rfl, ?_⟩
  · rw [sent_onOff]; rfl
  · rw [sent_mode]; rfl
  · rw [sent_fan]; rfl

/-- An operation that brings no report moves no observed value. -/
theorem kernelStep_sameObserved (r : Reconciler) {op : KernelOp} (h : op.report = none) :
    SameObserved r.state (kernelStep r op).state := by
  cases op with
  | applyIntent now i => exact (apply_deviceViews r now i).sameObserved
  | applyIntentBundle now is => exact (applyBundle_spec r now is).1.sameObserved
  | applyOperationalObservation now obs => cases h
  | applyEnvironmentalObservation obs => exact ⟨rfl, rfl, rfl, rfl, rfl, rfl⟩
  | onCommandSent cmd => exact sent_sameObserved r cmd
  | onCommandFailed => exact .refl _
  | notifyLinkDown => exact ⟨rfl, rfl, rfl, rfl, rfl, rfl⟩

theorem onOff_observed_step (r : Reconciler) (op : KernelOp) :
    (kernelStep r op).state.onOff.observed =
      (op.report.map S21OperationalObservation.onOff).getD r.state.onOff.observed := by
  cases h : op.report with
  | none => exact (kernelStep_sameObserved r h).onOff
  | some obs =>
      cases op <;> cases h
      show (observeOperational r.state r.config obs).onOff.observed = _
      rw [observe_onOff, TwinField.applyObservation_observed]
      rfl

theorem mode_observed_step (r : Reconciler) (op : KernelOp) :
    (kernelStep r op).state.mode.observed =
      (op.report.map fun obs => s21OperatingModeToOperationalMode obs.operatingMode).getD
        r.state.mode.observed := by
  cases h : op.report with
  | none => exact (kernelStep_sameObserved r h).mode
  | some obs =>
      cases op <;> cases h
      show (observeOperational r.state r.config obs).mode.observed = _
      rw [observe_mode, TwinField.applyObservation_observed]
      rfl

theorem fan_observed_step (r : Reconciler) (op : KernelOp) :
    (kernelStep r op).state.fan.observed =
      (op.report.map fun obs => s21FanModeToSpeedSetting obs.fanMode).getD
        r.state.fan.observed := by
  cases h : op.report with
  | none => exact (kernelStep_sameObserved r h).fan
  | some obs =>
      cases op <;> cases h
      show (observeOperational r.state r.config obs).fan.observed = _
      rw [observe_fan, TwinField.applyObservation_observed]
      rfl

theorem setpoint_observed_step {n : OperationalMode} (hn : n.bearsSetpoint = true)
    (r : Reconciler) (op : KernelOp) :
    ((kernelStep r op).state.activeSetpoint n).observed =
      ((op.reportIn n).map S21OperationalObservation.setpointCelsius).getD
        (r.state.activeSetpoint n).observed := by
  unfold KernelOp.reportIn
  cases h : op.report with
  | none => exact LogicalACState.EachTwin.activeSetpoint (kernelStep_sameObserved r h) n
  | some obs =>
      cases op <;> cases h
      show ((observeOperational r.state r.config obs).activeSetpoint n).observed = _
      rw [observe_activeSetpoint r.state r.config obs hn]
      by_cases hmode : s21OperatingModeToOperationalMode obs.operatingMode = n
      · rw [if_pos hmode, TwinField.applyObservation_observed]
        simp [Option.filter, hmode]
      · rw [if_neg hmode]
        simp [Option.filter, hmode]

/-- **Observed is the last report.** After any run from boot, power, mode and fan are
observed as the latest report has them, each setpoint as the latest report in its mode
has it, and as booted where there is no such report; and a further report leaves the
setpoint twins of the other modes as they are, in every component. -/
theorem observed_is_last_report (config : ReconcilerConfig) (d : LogicalACStateDefaults)
    (ops : List KernelOp) :
    let s := (Lib.run kernelStep (.new config d) ops).state
    let last := Lib.latest KernelOp.report ops
    s.onOff.observed = (last.map fun obs => obs.onOff).getD d.onOff ∧
      s.mode.observed =
        (last.map fun obs => s21OperatingModeToOperationalMode obs.operatingMode).getD d.mode ∧
      s.fan.observed = (last.map fun obs => s21FanModeToSpeedSetting obs.fanMode).getD d.fan ∧
      (∀ n : OperationalMode, n.bearsSetpoint = true →
        (s.activeSetpoint n).observed =
          ((Lib.latest (KernelOp.reportIn n) ops).map fun obs => obs.setpointCelsius).getD
            (d.setpoint n)) ∧
      (∀ (now : Int) (obs : S21OperationalObservation) (n : OperationalMode),
        n.bearsSetpoint = true → n ≠ s21OperatingModeToOperationalMode obs.operatingMode →
        (Lib.run kernelStep (.new config d)
          (ops ++ [.applyOperationalObservation now obs])).state.activeSetpoint n =
            s.activeSetpoint n) := by
  refine ⟨?_, ?_, ?_, ?_, ?_⟩
  · exact Lib.run_view (fun r : Reconciler => r.state.onOff.observed) KernelOp.report _
      onOff_observed_step _ ops
  · exact Lib.run_view (fun r : Reconciler => r.state.mode.observed) KernelOp.report _
      mode_observed_step _ ops
  · exact Lib.run_view (fun r : Reconciler => r.state.fan.observed) KernelOp.report _
      fan_observed_step _ ops
  · intro n hn
    have hrun := Lib.run_view (fun r : Reconciler => (r.state.activeSetpoint n).observed)
      (KernelOp.reportIn n) _ (setpoint_observed_step hn) (.new config d) ops
    have hboot : ((Reconciler.new config d).state.activeSetpoint n).observed = d.setpoint n := by
      rw [Reconciler.new, LogicalACState.new_activeSetpoint]
      rfl
    rw [hboot] at hrun
    exact hrun
  · intro now obs n hn hne
    rw [Lib.run_concat]
    exact (observe_activeSetpoint _ _ obs hn).trans (if_neg (Ne.symm hne))

end Reconciler

end DaikinBridge.Sync
