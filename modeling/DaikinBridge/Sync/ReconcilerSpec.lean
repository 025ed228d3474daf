import DaikinBridge.Lib.Runs
import DaikinBridge.Sync.Reconciler

/-!
# DaikinBridge.Sync.ReconcilerSpec

What each entry point of the reconciler does to the state, stated once per entry
point so that nothing below unfolds one:

* `pendingCommand_eq_none_iff` / `pendingCommand_eq_some_iff` — the two reasons to
  stay silent, and what is sent otherwise;
* `observe_*` — an operational observation acts on each twin separately;
* `sent_*` — a send promotes on/off, mode, fan and the setpoint twin of the
  desired mode;
* `apply_deviceViews` — an intent touches no `observed` and no in-flight value.

The seven operations of the kernel are collected in `KernelOp`, and a run of the
kernel is a run (`Lib.run`) of `kernelStep`.
-/

namespace DaikinBridge.Sync

namespace TwinField

variable {T : Type}

/-- Same report and same value in flight. -/
def SameDevice (t t' : TwinField T) : Prop :=
  t'.observed = t.observed ∧ t'.inFlight = t.inFlight

theorem SameDevice.refl (t : TwinField T) : SameDevice t t := ⟨rfl, rfl⟩

theorem SameDevice.trans {t u v : TwinField T} (h₁ : SameDevice t u) (h₂ : SameDevice u v) :
    SameDevice t v :=
  ⟨h₂.1.trans h₁.1, h₂.2.trans h₁.2⟩

end TwinField

/-- The mode whose setpoint twin is in charge in a mode. -/
def OperationalMode.setpointMode : OperationalMode → OperationalMode
  | .cool => .cool
  | .heat => .heat
  | .auto => .auto
  | .dry => .auto
  | .fanOnly => .auto

theorem OperationalMode.bearsSetpoint_setpointMode (m : OperationalMode) :
    m.setpointMode.bearsSetpoint = true := by
  cases m <;> rfl

namespace LogicalACState

theorem activeSetpoint_setpointMode (s : LogicalACState) (m : OperationalMode) :
    s.activeSetpoint m.setpointMode = s.activeSetpoint m := by
  cases m <;> rfl

/-- The setpoint twin of a mode after routing an update. -/
theorem routeSetpoint_activeSetpoint (s : LogicalACState) (m : OperationalMode)
    {n : OperationalMode} (hn : n.bearsSetpoint = true)
    (update : TwinField Int16 → TwinField Int16) :
    (s.routeSetpoint m update).activeSetpoint n =
      if m = n then update (s.activeSetpoint n) else s.activeSetpoint n := by
  cases n <;> simp [activeSetpoint, OperationalMode.bearsSetpoint] at hn ⊢

/-- Is no twin in flight? -/
def noneInFlight (s : LogicalACState) : Prop :=
  s.onOff.inFlight = none ∧ s.mode.inFlight = none ∧ s.heatSetpoint.inFlight = none ∧
    s.coolSetpoint.inFlight = none ∧ s.autoSetpoint.inFlight = none ∧ s.fan.inFlight = none

instance (s : LogicalACState) : Decidable s.noneInFlight := by
  unfold noneInFlight; infer_instance

/-- A relation between twins, lifted to the six twins of two states. -/
structure EachTwin (R : ∀ {T : Type}, TwinField T → TwinField T → Prop)
    (s s' : LogicalACState) : Prop where
  onOff : R s.onOff s'.onOff
  mode : R s.mode s'.mode
  heatSetpoint : R s.heatSetpoint s'.heatSetpoint
  coolSetpoint : R s.coolSetpoint s'.coolSetpoint
  autoSetpoint : R s.autoSetpoint s'.autoSetpoint
  fan : R s.fan s'.fan

section EachTwin

variable {R : ∀ {T : Type}, TwinField T → TwinField T → Prop}

theorem EachTwin.refl (hR : ∀ {T : Type} (t : TwinField T), R t t) (s : LogicalACState) :
    EachTwin R s s :=
  ⟨hR _, hR _, hR _, hR _, hR _, hR _⟩

theorem EachTwin.trans
    (hR : ∀ {T : Type} {t u v : TwinField T}, R t u → R u v → R t v)
    {s t u : LogicalACState} (h₁ : EachTwin R s t) (h₂ : EachTwin R t u) : EachTwin R s u where
  onOff := hR h₁.onOff h₂.onOff
  mode := hR h₁.mode h₂.mode
  heatSetpoint := hR h₁.heatSetpoint h₂.heatSetpoint
  coolSetpoint := hR h₁.coolSetpoint h₂.coolSetpoint
  autoSetpoint := hR h₁.autoSetpoint h₂.autoSetpoint
  fan := hR h₁.fan h₂.fan

theorem EachTwin.activeSetpoint {s s' : LogicalACState} (h : EachTwin R s s')
    (m : OperationalMode) : R (s.activeSetpoint m) (s'.activeSetpoint m) := by
  cases m with
  | cool => exact h.coolSetpoint
  | heat => exact h.heatSetpoint
  | auto => exact h.autoSetpoint
  | dry => exact h.autoSetpoint
  | fanOnly => exact h.autoSetpoint

end EachTwin

/-- Two states agree on what the device reported and on what is in flight. -/
def SameDeviceViews (s s' : LogicalACState) : Prop := EachTwin TwinField.SameDevice s s'

theorem SameDeviceViews.refl (s : LogicalACState) : SameDeviceViews s s :=
  EachTwin.refl (R := TwinField.SameDevice) TwinField.SameDevice.refl s

theorem SameDeviceViews.trans {s t u : LogicalACState} (h₁ : SameDeviceViews s t)
    (h₂ : SameDeviceViews t u) : SameDeviceViews s u :=
  EachTwin.trans (R := TwinField.SameDevice) TwinField.SameDevice.trans h₁ h₂

end LogicalACState

namespace Reconciler

open LogicalACState (SameDeviceViews)

/-! ### Commands -/

theorem desiredCommand_setpoint (s : LogicalACState) :
    (desiredCommand s).setpointCelsius = (s.activeSetpoint s.mode.desired).desired := by
  unfold desiredCommand LogicalACState.activeSetpoint
  cases s.mode.desired <;> rfl

/-- The command built from the observed values in the way `desiredCommand` is
built from the desired ones: what the device last reported, as a command. -/
def observedCommand (s : LogicalACState) : S21OperationCommand where
  onOff := s.onOff.observed
  operatingMode := operationalModeToS21OperatingMode s.mode.observed
  setpointCelsius := (s.activeSetpoint s.mode.observed).observed
  fanMode := fanSpeedToS21FanMode s.fan.observed

/-- The desired command is determined by the four commanded values. -/
theorem desiredCommand_eq_iff {s : LogicalACState} {c : S21OperationCommand} :
    desiredCommand s = c ↔
      s.onOff.desired = c.onOff ∧
        operationalModeToS21OperatingMode s.mode.desired = c.operatingMode ∧
        (s.activeSetpoint s.mode.desired).desired = c.setpointCelsius ∧
        fanSpeedToS21FanMode s.fan.desired = c.fanMode := by
  rw [← desiredCommand_setpoint]
  constructor
  · rintro rfl
    exact ⟨rfl, rfl, rfl, rfl⟩
  · rintro ⟨h1, h2, h3, h4⟩
    cases c
    simp only at h1 h2 h3 h4
    subst h1 h2 h3 h4
    rfl

theorem anyDirty_eq_false_iff {s : LogicalACState} :
    anyDirty s = false ↔
      s.onOff.dirty = false ∧ s.mode.dirty = false ∧ s.heatSetpoint.dirty = false ∧
        s.coolSetpoint.dirty = false ∧ s.autoSetpoint.dirty = false ∧ s.fan.dirty = false := by
  simp [anyDirty, and_assoc]

/-- A clean state has a clean setpoint twin for every mode. -/
theorem activeSetpoint_dirty_of_anyDirty {s : LogicalACState} (h : anyDirty s = false)
    (m : OperationalMode) : (s.activeSetpoint m).dirty = false := by
  obtain ⟨-, -, hheat, hcool, hauto, -⟩ := anyDirty_eq_false_iff.mp h
  cases m with
  | cool => exact hcool
  | heat => exact hheat
  | auto => exact hauto
  | dry => exact hauto
  | fanOnly => exact hauto

/-- The two reasons to send nothing. -/
theorem pendingCommand_eq_none_iff {r : Reconciler} :
    r.pendingCommand = none ↔
      anyDirty r.state = false ∨ r.lastSentCommand = some (desiredCommand r.state) := by
  unfold pendingCommand
  cases anyDirty r.state with
  | false => simp
  | true => simp

/-- What is sent is the desired command, and it differs from the last one. -/
theorem pendingCommand_eq_some_iff {r : Reconciler} {c : S21OperationCommand} :
    r.pendingCommand = some c ↔
      anyDirty r.state = true ∧ desiredCommand r.state = c ∧ r.lastSentCommand ≠ some c := by
  unfold pendingCommand
  cases anyDirty r.state with
  | false => simp
  | true =>
      by_cases hd : r.lastSentCommand = some (desiredCommand r.state)
      · simp only [Bool.not_true, Bool.false_eq_true, if_false, if_pos hd, true_and]
        constructor
        · intro h
          exact absurd h (by simp)
        · rintro ⟨rfl, hne⟩
          exact absurd hd hne
      · simp only [Bool.not_true, Bool.false_eq_true, if_false, if_neg hd, true_and,
          Option.some.injEq]
        constructor
        · rintro rfl
          exact ⟨rfl, hd⟩
        · exact fun h => h.1

/-- With the desired command remembered as sent, nothing is pending. -/
theorem pendingCommand_eq_none_of_sent {r : Reconciler}
    (h : r.lastSentCommand = some (desiredCommand r.state)) : r.pendingCommand = none :=
  pendingCommand_eq_none_iff.mpr (Or.inr h)

/-! ### Operational observations -/

section Observe

variable (s : LogicalACState) (cfg : ReconcilerConfig) (obs : S21OperationalObservation)

@[simp] theorem observe_onOff : (observeOperational s cfg obs).onOff =
    s.onOff.applyObservation obs.onOff .device := by
  simp [observeOperational]

@[simp] theorem observe_mode : (observeOperational s cfg obs).mode =
    s.mode.applyObservation (s21OperatingModeToOperationalMode obs.operatingMode) .device := by
  simp [observeOperational]

@[simp] theorem observe_fan : (observeOperational s cfg obs).fan =
    s.fan.applyObservation (s21FanModeToSpeedSetting obs.fanMode) .device := by
  simp [observeOperational]

/-- The setpoint twins are those of the routed state: the twin of the observed
mode has seen the setpoint, the others are untouched. -/
theorem observe_activeSetpoint {n : OperationalMode} (hn : n.bearsSetpoint = true) :
    (observeOperational s cfg obs).activeSetpoint n =
      if s21OperatingModeToOperationalMode obs.operatingMode = n then
        (s.activeSetpoint n).applyObservation obs.setpointCelsius .device
      else s.activeSetpoint n := by
  rw [← LogicalACState.routeSetpoint_activeSetpoint s _ hn
    (fun t => t.applyObservation obs.setpointCelsius .device)]
  cases n <;> simp [LogicalACState.activeSetpoint, observeOperational]

end Observe

/-! ### Sends -/

section Sent

variable (r : Reconciler) (c : S21OperationCommand)

@[simp] theorem sent_lastSentCommand : (r.onCommandSent c).lastSentCommand = some c := rfl

@[simp] theorem sent_onOff :
    (r.onCommandSent c).state.onOff = r.state.onOff.promoteDesiredToInFlight := by
  simp [onCommandSent]

@[simp] theorem sent_mode :
    (r.onCommandSent c).state.mode = r.state.mode.promoteDesiredToInFlight := by
  simp [onCommandSent]

@[simp] theorem sent_fan :
    (r.onCommandSent c).state.fan = r.state.fan.promoteDesiredToInFlight := by
  simp [onCommandSent]

theorem sent_activeSetpoint {n : OperationalMode} (hn : n.bearsSetpoint = true) :
    (r.onCommandSent c).state.activeSetpoint n =
      if r.state.mode.desired = n then (r.state.activeSetpoint n).promoteDesiredToInFlight
      else r.state.activeSetpoint n := by
  rw [← LogicalACState.routeSetpoint_activeSetpoint r.state _ hn
    TwinField.promoteDesiredToInFlight]
  cases n <;> simp [LogicalACState.activeSetpoint, onCommandSent]

/-- A send moves no desired value. -/
theorem sent_desiredCommand :
    desiredCommand (r.onCommandSent c).state = desiredCommand r.state := by
  have hsp : ∀ n : OperationalMode, ((r.onCommandSent c).state.activeSetpoint n).desired =
      (r.state.activeSetpoint n).desired := by
    intro n
    rw [← LogicalACState.activeSetpoint_setpointMode, ← r.state.activeSetpoint_setpointMode,
      sent_activeSetpoint r c n.bearsSetpoint_setpointMode]
    split <;> rfl
  rw [desiredCommand_eq_iff]
  refine ⟨?_, ?_, ?_, ?_⟩
  · rw [sent_onOff]; rfl
  · rw [sent_mode]; rfl
  · rw [sent_mode, TwinField.promote_desired, hsp, desiredCommand_setpoint]
  · rw [sent_fan]; rfl

/-- Sending the pending command leaves nothing pending. -/
theorem pendingCommand_sent {r : Reconciler} {c : S21OperationCommand}
    (h : r.pendingCommand = some c) : (r.onCommandSent c).pendingCommand = none := by
  apply pendingCommand_eq_none_of_sent
  rw [sent_lastSentCommand, sent_desiredCommand, (pendingCommand_eq_some_iff.mp h).2.1]

end Sent

/-! ### Intents -/

section Intent

variable (r : Reconciler) (now : Int)

theorem powerOnForFanWrite_deviceViews :
    SameDeviceViews r.state (r.powerOnForFanWrite now) := by
  unfold powerOnForFanWrite
  split
  · exact .refl _
  · split
    · constructor <;> simp [TwinField.SameDevice]
    · exact .refl _

theorem writeFan_deviceViews (fan : FanSpeed) (percent : Option UInt8) :
    SameDeviceViews r.state (r.writeFan now fan percent) := by
  unfold writeFan
  split
  · refine (powerOnForFanWrite_deviceViews r now).trans ?_
    constructor <;> simp [TwinField.SameDevice]
  · exact .refl _

theorem applySetSystemMode_deviceViews (power : Bool) (mode : OperationalMode) :
    SameDeviceViews r.state (r.applySetSystemMode now power mode) := by
  unfold applySetSystemMode
  dsimp only
  split <;> split <;> constructor <;> simp [TwinField.SameDevice]

/-- An intent leaves what the device reported, and what is in flight, alone. -/
theorem apply_deviceViews (i : WriteIntent) : SameDeviceViews r.state (r.apply now i).state := by
  cases i with
  | setOnOff v =>
      simp only [apply, applySetOnOff]
      split
      · constructor <;> simp [TwinField.SameDevice]
      · exact .refl _
  | setSystemMode p m => exact applySetSystemMode_deviceViews r now p m
  | setOccupiedHeatingSetpoint v =>
      simp only [apply, applySetOccupiedHeatingSetpoint]
      split
      · split
        · constructor <;> simp [TwinField.SameDevice]
        · exact .refl _
      · split
        · constructor <;> simp [TwinField.SameDevice]
        · exact .refl _
      · constructor <;> simp [TwinField.SameDevice]
  | setOccupiedCoolingSetpoint v =>
      simp only [apply, applySetOccupiedCoolingSetpoint]
      split
      · split
        · constructor <;> simp [TwinField.SameDevice]
        · exact .refl _
      · split
        · constructor <;> simp [TwinField.SameDevice]
        · exact .refl _
      · constructor <;> simp [TwinField.SameDevice]
  | setSpeedSetting v => exact writeFan_deviceViews r now _ _
  | setPercentSetting v =>
      cases v with
      | none => exact .refl _
      | some p => exact writeFan_deviceViews r now _ _

/-- What single intents keep, many intents keep. -/
theorem applyEach_keeps {P : Reconciler → Prop} (hintent : ∀ r i, P r → P (r.apply now i))
    (h : P r) (is : List WriteIntent) : P (r.applyEach now is) := by
  induction is generalizing r with
  | nil => exact h
  | cons i is ih => exact ih (r.apply now i) (hintent r i h)

/-- What single intents and the collapse of the edges keep, a bundle keeps. -/
theorem applyBundle_keeps {P : Reconciler → Prop} (hintent : ∀ r i, P r → P (r.apply now i))
    (hcollapse : ∀ r heat cool, P r → P (r.collapseAutoBand now heat cool)) (h : P r)
    (is : List WriteIntent) : P (r.applyBundle now is) := by
  unfold applyBundle
  split
  · rename_i heat cool _ _
    split
    · exact applyEach_keeps _ now hintent (hcollapse r heat cool h) _
    · exact applyEach_keeps r now hintent h is
  · exact applyEach_keeps r now hintent h is

theorem collapseAutoBand_spec (heat cool : Int16) :
    SameDeviceViews r.state (r.collapseAutoBand now heat cool).state ∧
      (r.collapseAutoBand now heat cool).lastSentCommand = r.lastSentCommand := by
  unfold collapseAutoBand
  dsimp only
  split
  · exact ⟨by constructor <;> simp [TwinField.SameDevice], rfl⟩
  · exact ⟨.refl _, rfl⟩

/-- Bundles are as harmless to the device views as single intents. -/
theorem applyBundle_spec (is : List WriteIntent) :
    SameDeviceViews r.state (r.applyBundle now is).state ∧
      (r.applyBundle now is).lastSentCommand = r.lastSentCommand := by
  refine applyBundle_keeps (P := fun r' => SameDeviceViews r.state r'.state ∧
    r'.lastSentCommand = r.lastSentCommand) r now ?_ ?_ ⟨.refl _, rfl⟩ is
  · rintro r' i ⟨hviews, hlast⟩
    exact ⟨hviews.trans (apply_deviceViews r' now i), hlast⟩
  · rintro r' heat cool ⟨hviews, hlast⟩
    obtain ⟨hviews', hlast'⟩ := collapseAutoBand_spec r' now heat cool
    exact ⟨hviews.trans hviews', hlast'.trans hlast⟩

end Intent

/-! ### The kernel as a machine -/

/-- The operations of the kernel, each with the clock it reads. -/
inductive KernelOp
  | applyIntent (now : Int) (intent : WriteIntent)
  | applyIntentBundle (now : Int) (intents : List WriteIntent)
  | applyOperationalObservation (now : Int) (obs : S21OperationalObservation)
  | applyEnvironmentalObservation (obs : S21EnvironmentalObservation)
  | onCommandSent (cmd : S21OperationCommand)
  | onCommandFailed
  | notifyLinkDown

/-- The state after one operation. -/
def kernelStep (r : Reconciler) : KernelOp → Reconciler
  | .applyIntent now i => (r.applyIntent now i).1
  | .applyIntentBundle now is => (r.applyIntentBundle now is).1
  | .applyOperationalObservation now obs => (r.applyOperationalObservation now obs).1
  | .applyEnvironmentalObservation obs => (r.applyEnvironmentalObservation obs).1
  | .onCommandSent cmd => r.onCommandSent cmd
  | .onCommandFailed => r.onCommandFailed
  | .notifyLinkDown => r.notifyLinkDown

/-- The states some run of the kernel reaches, from any configuration and any
boot defaults. -/
def Reachable (r : Reconciler) : Prop :=
  ∃ config d ops, r = Lib.run kernelStep (.new config d) ops

theorem Reachable.run {r : Reconciler} (h : Reachable r) (ops : List KernelOp) :
    Reachable (Lib.run kernelStep r ops) := by
  obtain ⟨config, d, before, rfl⟩ := h
  exact ⟨config, d, before ++ ops, (Lib.run_append kernelStep _ before ops).symm⟩

end Reconciler

end DaikinBridge.Sync
