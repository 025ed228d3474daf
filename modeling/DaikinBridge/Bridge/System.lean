import DaikinBridge.Sync.Dedup

/-!
# DaikinBridge.Bridge.System

The kernel, the device and the command pump between them.

`AirConditionerManager::CommandWorkHandler` takes the pending command under the lock
of the coordinator, talks to the device without it, and reports the send under the
lock again. Intents arrive at any moment, also between the two; polls run on the work
queue of the pump and never fall in between. `onCommandSent` promotes what is desired
*when the send is reported*, which need not be what was sent.

A write that arrives in between is safe as long as the device's value will not look
like a stale poll to the twin it went to. `SentStillWanted` says so of the state in
which the pump finishes; runs that meet it end every poll either with more to send or
with a device that does what is desired (`poll_agrees`). The invariant is
`DeviceLands`: the device's next report takes every twin it concerns out of flight.
-/

namespace DaikinBridge.Bridge

open S21 Sync
open Sync.Reconciler (desiredCommand)

/-- The kernel, the values the device holds, and the command the pump has taken. -/
structure System where
  kernel : Reconciler
  device : S21OperationCommand
  pumping : Option S21OperationCommand
  deriving DecidableEq, Repr

/-- What can happen next. -/
inductive Label
  | intent (now : Int) (i : WriteIntent)
  | pumpStart
  | pumpFinish
  | poll (now : Int) (valve : Option Bool)
  deriving DecidableEq, Repr

/-- The device's exact state as an operational observation. -/
def reportOf (device : S21OperationCommand) (valve : Option Bool) : S21OperationalObservation where
  onOff := device.onOff
  operatingMode := device.operatingMode
  setpointCelsius := device.setpointCelsius
  fanMode := device.fanMode
  refrigerantValveOpen := valve

/-- One step; `none` where the work queue rules it out. -/
def step (sys : System) : Label → Option System
  | .intent now i => some { sys with kernel := (sys.kernel.applyIntent now i).1 }
  | .pumpStart =>
      match sys.pumping with
      | some _ => none
      -- without a pending command the handler returns and the pump stays idle
      | none => some { sys with pumping := sys.kernel.pendingCommand }
  | .pumpFinish =>
      match sys.pumping with
      | some c => some { kernel := sys.kernel.onCommandSent c, device := c, pumping := none }
      | none => none
  | .poll now valve =>
      match sys.pumping with
      | some _ => none
      | none => some { sys with
          kernel := (sys.kernel.applyOperationalObservation now (reportOf sys.device valve)).1 }

/-- A booted kernel, an arbitrary device, and an idle pump. -/
def start (config : ReconcilerConfig) (d : LogicalACStateDefaults)
    (device : S21OperationCommand) : System :=
  ⟨.new config d, device, none⟩

/-- The device does what is desired; its setpoint matters in the modes that have one. -/
def DeviceAgrees (sys : System) : Prop :=
  let s := sys.kernel.state
  let mode := s21OperatingModeToOperationalMode sys.device.operatingMode
  sys.device.onOff = s.onOff.desired ∧ mode = s.mode.desired ∧
    s21FanModeToSpeedSetting sys.device.fanMode = s.fan.desired ∧
    (mode.bearsSetpoint = true →
      sys.device.setpointCelsius = (s.activeSetpoint mode).desired)

instance (sys : System) : Decidable (DeviceAgrees sys) := by
  unfold DeviceAgrees; infer_instance

/-! ### The condition on the pump -/

/-- What was sent for a twin is still desired, or differs from what the device last
reported. -/
def StillWanted {T : Type} (t : TwinField T) (sent : T) : Prop :=
  sent ≠ t.observed ∨ t.desired = sent

/-- Every component of a command is still wanted; if the mode has been changed meanwhile,
the setpoint twin of the sent mode is not promoted, and what it has in flight already
must land on the setpoint sent. -/
def CommandStillWanted (s : LogicalACState) (c : S21OperationCommand) : Prop :=
  let mode := s21OperatingModeToOperationalMode c.operatingMode
  StillWanted s.onOff c.onOff ∧ StillWanted s.mode mode ∧
    StillWanted s.fan (s21FanModeToSpeedSetting c.fanMode) ∧
    (mode.bearsSetpoint = true →
      if s.mode.desired = mode then StillWanted (s.activeSetpoint mode) c.setpointCelsius
      else (s.activeSetpoint mode).LandsOn c.setpointCelsius)

/-- A finishing pump finds its command still wanted. -/
def SentStillWanted (sys : System) : Label → Prop
  | .pumpFinish => ∀ c ∈ sys.pumping, CommandStillWanted sys.kernel.state c
  | _ => True

instance {T : Type} [DecidableEq T] (t : TwinField T) (sent : T) :
    Decidable (StillWanted t sent) := by
  unfold StillWanted; infer_instance

instance (s : LogicalACState) (c : S21OperationCommand) : Decidable (CommandStillWanted s c) := by
  unfold CommandStillWanted; infer_instance

instance (sys : System) (l : Label) : Decidable (SentStillWanted sys l) :=
  match l with
  | .pumpFinish =>
      inferInstanceAs (Decidable (∀ c ∈ sys.pumping, CommandStillWanted sys.kernel.state c))
  | .intent _ _ => isTrue trivial
  | .pumpStart => isTrue trivial
  | .poll _ _ => isTrue trivial

theorem landsOn_promote_iff {T : Type} [DecidableEq T] {t : TwinField T} {v : T} :
    t.promoteDesiredToInFlight.LandsOn v ↔ StillWanted t v := by
  simp [TwinField.LandsOn, StillWanted]

/-! ### The invariant -/

/-- The device's next report takes every twin it concerns out of flight, and the
command remembered as sent is what the device holds. -/
structure DeviceLands (sys : System) : Prop where
  onOff : sys.kernel.state.onOff.LandsOn sys.device.onOff
  mode : sys.kernel.state.mode.LandsOn
    (s21OperatingModeToOperationalMode sys.device.operatingMode)
  fan : sys.kernel.state.fan.LandsOn (s21FanModeToSpeedSetting sys.device.fanMode)
  setpoint : (s21OperatingModeToOperationalMode sys.device.operatingMode).bearsSetpoint = true →
    (sys.kernel.state.activeSetpoint
      (s21OperatingModeToOperationalMode sys.device.operatingMode)).LandsOn
        sys.device.setpointCelsius
  remembered : ∀ c, sys.kernel.lastSentCommand = some c → sys.device = c

theorem landsOn_of_landed {T : Type} {t : TwinField T} (h : t.inFlight = none) (v : T) :
    t.LandsOn v :=
  Or.inr (Or.inl h)

theorem landsOn_of_sameDevice {T : Type} {t t' : TwinField T} {v : T} (h : t.SameDevice t')
    (hlands : t.LandsOn v) : t'.LandsOn v := by
  unfold TwinField.LandsOn at hlands ⊢
  rw [h.1, h.2]
  exact hlands

theorem deviceLands_start (config : ReconcilerConfig) (d : LogicalACStateDefaults)
    (device : S21OperationCommand) : DeviceLands (start config d device) where
  onOff := landsOn_of_landed rfl _
  mode := landsOn_of_landed rfl _
  fan := landsOn_of_landed rfl _
  setpoint := by
    intro _
    refine landsOn_of_landed ?_ _
    cases s21OperatingModeToOperationalMode (start config d device).device.operatingMode <;> rfl
  remembered := fun _ h => nomatch h

/-- Intents do not touch what the invariant is about. -/
theorem DeviceLands.intent {sys : System} (h : DeviceLands sys) (now : Int) (i : WriteIntent) :
    DeviceLands { sys with kernel := (sys.kernel.applyIntent now i).1 } := by
  have hviews := Reconciler.apply_deviceViews sys.kernel now i
  refine ⟨landsOn_of_sameDevice hviews.onOff h.onOff, landsOn_of_sameDevice hviews.mode h.mode,
    landsOn_of_sameDevice hviews.fan h.fan, fun hb => ?_, h.remembered⟩
  exact landsOn_of_sameDevice (LogicalACState.EachTwin.activeSetpoint hviews _) (h.setpoint hb)

/-- A finishing pump that meets the condition. -/
theorem DeviceLands.pumpFinish {sys : System} {c : S21OperationCommand}
    (hpump : sys.pumping = some c) (hwanted : SentStillWanted sys .pumpFinish) :
    DeviceLands ⟨sys.kernel.onCommandSent c, c, none⟩ := by
  obtain ⟨hon, hmode, hfan, hsp⟩ := hwanted c hpump
  refine ⟨?_, ?_, ?_, fun hb => ?_, fun c' hc' => Option.some.inj hc'⟩
  · rw [Reconciler.sent_onOff]
    exact landsOn_promote_iff.mpr hon
  · rw [Reconciler.sent_mode]
    exact landsOn_promote_iff.mpr hmode
  · rw [Reconciler.sent_fan]
    exact landsOn_promote_iff.mpr hfan
  · have hcase := hsp hb
    rw [Reconciler.sent_activeSetpoint _ _ hb]
    split at hcase
    · rename_i heq
      rw [if_pos heq]
      exact landsOn_promote_iff.mpr hcase
    · rename_i hne
      rw [if_neg hne]
      exact hcase

/-! ### Polls -/

/-- A twin has taken in the device's value: it is observed, and nothing is in
flight. -/
def TakenIn {T : Type} (t : TwinField T) (v : T) : Prop := t.inFlight = none ∧ t.observed = v

theorem takenIn_of_landsOn {T : Type} [DecidableEq T] {t : TwinField T} {v : T}
    (h : t.LandsOn v) (src : ObservationSource) : TakenIn (t.applyObservation v src) v :=
  ⟨(TwinField.inFlight_applyObservation_eq_none_iff t v src).mpr h,
    TwinField.applyObservation_observed t v src⟩

theorem desired_of_takenIn {T : Type} [DecidableEq T] {t : TwinField T} {v : T}
    (h : TakenIn t v) (hclean : t.dirty = false) : v = t.desired := by
  rw [TwinField.dirty_eq_false_iff, h.1, Option.getD_none, h.2] at hclean
  exact hclean.symm

/-- The twins the device's report concerns have taken it in. -/
structure Polled (sys : System) : Prop where
  onOff : TakenIn sys.kernel.state.onOff sys.device.onOff
  mode : TakenIn sys.kernel.state.mode
    (s21OperatingModeToOperationalMode sys.device.operatingMode)
  fan : TakenIn sys.kernel.state.fan (s21FanModeToSpeedSetting sys.device.fanMode)
  setpoint : (s21OperatingModeToOperationalMode sys.device.operatingMode).bearsSetpoint = true →
    TakenIn (sys.kernel.state.activeSetpoint
      (s21OperatingModeToOperationalMode sys.device.operatingMode)) sys.device.setpointCelsius
  remembered : ∀ c, sys.kernel.lastSentCommand = some c → sys.device = c

theorem DeviceLands.poll {sys : System} (h : DeviceLands sys) (now : Int) (valve : Option Bool) :
    Polled { sys with
      kernel := (sys.kernel.applyOperationalObservation now (reportOf sys.device valve)).1 } := by
  let mode := s21OperatingModeToOperationalMode sys.device.operatingMode
  let after := Reconciler.observeOperational sys.kernel.state sys.kernel.config
    (reportOf sys.device valve)
  have hon : after.onOff = sys.kernel.state.onOff.applyObservation sys.device.onOff .device :=
    Reconciler.observe_onOff _ _ _
  have hmode : after.mode = sys.kernel.state.mode.applyObservation mode .device :=
    Reconciler.observe_mode _ _ _
  have hfan : after.fan = sys.kernel.state.fan.applyObservation
      (s21FanModeToSpeedSetting sys.device.fanMode) .device :=
    Reconciler.observe_fan _ _ _
  have hsp : mode.bearsSetpoint = true → after.activeSetpoint mode =
      (sys.kernel.state.activeSetpoint mode).applyObservation sys.device.setpointCelsius
        .device := by
    intro hb
    exact (Reconciler.observe_activeSetpoint _ _ (reportOf sys.device valve) hb).trans (if_pos rfl)
  refine ⟨?_, ?_, ?_, fun hb => ?_, h.remembered⟩
  · show TakenIn after.onOff _
    rw [hon]
    exact takenIn_of_landsOn h.onOff .device
  · show TakenIn after.mode mode
    rw [hmode]
    exact takenIn_of_landsOn h.mode .device
  · show TakenIn after.fan _
    rw [hfan]
    exact takenIn_of_landsOn h.fan .device
  · show TakenIn (after.activeSetpoint mode) sys.device.setpointCelsius
    rw [hsp hb]
    exact takenIn_of_landsOn (h.setpoint hb) .device

theorem Polled.deviceLands {sys : System} (h : Polled sys) : DeviceLands sys where
  onOff := landsOn_of_landed h.onOff.1 _
  mode := landsOn_of_landed h.mode.1 _
  fan := landsOn_of_landed h.fan.1 _
  setpoint := fun hb => landsOn_of_landed (h.setpoint hb).1 _
  remembered := h.remembered

/-- After a poll, silence means agreement: a clean twin desires what it has taken in,
and a suppressed command is one the device holds. -/
theorem Polled.agrees {sys : System} (h : Polled sys) (hquiet : sys.kernel.pendingCommand = none) :
    DeviceAgrees sys := by
  rcases Reconciler.pendingCommand_eq_none_iff.mp hquiet with hclean | hsent
  · obtain ⟨hon, hmode, -, -, -, hfan⟩ := Reconciler.anyDirty_eq_false_iff.mp hclean
    refine ⟨desired_of_takenIn h.onOff hon, desired_of_takenIn h.mode hmode,
      desired_of_takenIn h.fan hfan, fun hb => ?_⟩
    exact desired_of_takenIn (h.setpoint hb)
      (Reconciler.activeSetpoint_dirty_of_anyDirty hclean _)
  · have hdevice : desiredCommand sys.kernel.state = sys.device := (h.remembered _ hsent).symm
    obtain ⟨hon, hmode, hsp, hfan⟩ := Reconciler.desiredCommand_eq_iff.mp hdevice
    have hm : s21OperatingModeToOperationalMode sys.device.operatingMode =
        sys.kernel.state.mode.desired := by
      rw [← hmode, s21OperatingMode_roundtrip]
    refine ⟨hon.symm, hm, ?_, fun _ => ?_⟩
    · rw [← hfan, s21FanMode_roundtrip]
    · rw [hm, hsp]

/-! ### Runs -/

/-- One step that meets the condition keeps the invariant. -/
theorem deviceLands_step (sys : System) (l : Label) (sys' : System) (h : DeviceLands sys)
    (hwanted : SentStillWanted sys l) (hstep : step sys l = some sys') : DeviceLands sys' := by
  cases l with
  | intent now i =>
      obtain rfl := Option.some.inj hstep
      exact h.intent now i
  | pumpStart =>
      simp only [step] at hstep
      split at hstep
      · cases hstep
      · obtain rfl := Option.some.inj hstep
        exact ⟨h.onOff, h.mode, h.fan, h.setpoint, h.remembered⟩
  | pumpFinish =>
      simp only [step] at hstep
      split at hstep
      · rename_i c hpump
        obtain rfl := Option.some.inj hstep
        exact .pumpFinish hpump hwanted
      · cases hstep
  | poll now valve =>
      simp only [step] at hstep
      split at hstep
      · cases hstep
      · obtain rfl := Option.some.inj hstep
        exact (h.poll now valve).deviceLands

/-- **No lost write.** Take any run from boot, with any device and any interleaving,
in which every finishing pump finds its command still wanted. Whenever the last step
was a poll and nothing is pending, the device does what is desired. -/
theorem poll_agrees {config : ReconcilerConfig} {d : LogicalACStateDefaults}
    {device : S21OperationCommand} {labels : List Label} {now : Int} {valve : Option Bool}
    {sys : System}
    (hrun : Lib.runGuarded step (start config d device) (labels ++ [.poll now valve]) = some sys)
    (hwanted : Lib.AlongGuarded step SentStillWanted (start config d device) labels)
    (hquiet : sys.kernel.pendingCommand = none) :
    sys.pumping = none ∧ DeviceAgrees sys := by
  obtain ⟨before, hbefore, hpoll⟩ := Lib.runGuarded_append_eq_some.mp hrun
  obtain ⟨after, hstep, hnil⟩ := Lib.runGuarded_cons_eq_some.mp hpoll
  obtain rfl : after = sys := Option.some.inj hnil
  have hlands : DeviceLands before :=
    Lib.runGuarded_invariant deviceLands_step (deviceLands_start config d device) hwanted hbefore
  simp only [step] at hstep
  split at hstep
  · cases hstep
  · rename_i hidle
    obtain rfl := Option.some.inj hstep
    exact ⟨hidle, (hlands.poll now valve).agrees hquiet⟩

/-- A unit that is off, in Auto at 22 °C. -/
def offInAuto : S21OperationCommand := ⟨false, .auto, 2200, .auto⟩

/-- A fan write that is sent and polled back. -/
theorem fan_write_agrees :
    ∃ sys, Lib.runGuarded step (start {} {} offInAuto)
        ([.intent 1 (.setSpeedSetting (some .high)), .pumpStart, .pumpFinish] ++
          [.poll 3000 none]) = some sys ∧
      sys.kernel.pendingCommand = none ∧ DeviceAgrees sys := by
  have hwanted : Lib.AlongGuarded step SentStillWanted (start {} {} offInAuto)
      [.intent 1 (.setSpeedSetting (some .high)), .pumpStart, .pumpFinish] :=
    .cons trivial rfl (.cons trivial rfl (.cons (by decide +kernel) rfl trivial))
  refine ⟨_, rfl, by decide +kernel, ?_⟩
  exact (poll_agrees rfl hwanted (by decide +kernel)).2

/-- A setpoint write that arrives while the fan write is being sent: the send that is
reported afterwards promotes it, the poll shows the setpoint unchanged and is taken for
a stale one, and the write is never sent. No report has arrived before, so the guard
window is open. -/
theorem write_during_send_lost :
    ∃ sys, Lib.runGuarded step (start {} {} offInAuto)
        [.intent 1 (.setSpeedSetting (some .high)), .pumpStart,
         .intent 2 (.setOccupiedCoolingSetpoint 2500), .pumpFinish, .poll 3000 none] = some sys ∧
      sys.pumping = none ∧ sys.kernel.pendingCommand = none ∧
      sys.device.setpointCelsius = 2200 ∧ sys.kernel.state.autoSetpoint.desired = 2325 ∧
      ¬ DeviceAgrees sys :=
  ⟨_, rfl, by decide +kernel, by decide +kernel, by decide +kernel, by decide +kernel,
    by decide +kernel⟩

end DaikinBridge.Bridge
