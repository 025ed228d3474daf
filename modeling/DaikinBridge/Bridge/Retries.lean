import DaikinBridge.Bridge.Shadows

/-!
# DaikinBridge.Bridge.Retries

The bridge over a link that fails.

A send that is reported failed has left the device as it was or, when only the answer got
lost, as commanded. The kernel only forgets that it has sent something, so the command is
pending again, and a poll may meanwhile show the device as it is.

* `poll_agrees_despite_failures` — no write is lost, under the condition of `poll_agrees`
  and one more, on sends whose answer gets lost;
* `one_round_suffices` — from any state whatsoever, one undisturbed send of the pending
  command brings the device to what is desired, and it stays there;
* `keeps_trying` — while nobody writes, the bridge sends one command and no other, and it
  has it pending until the device does what is desired.

What the last two rest on is that the device's value and the twin that desires another one
can meet in two ways only (`Settling`), whatever the link does.
-/

namespace DaikinBridge.Bridge

open S21 Sync
open Sync.Reconciler (desiredCommand)

/-- One step over a link that fails. -/
def linkStep (sys : System) : TrafficLabel → Option System
  | .bridge l => step sys l
  | .pumpFail applied =>
      match sys.pumping with
      | some c => some
          { kernel := sys.kernel.onCommandFailed
            device := if applied then c else sys.device
            pumping := none }
      | none => none

theorem linkStep_pumpFail {sys sys' : System} {applied : Bool}
    (h : linkStep sys (.pumpFail applied) = some sys') :
    ∃ c, sys.pumping = some c ∧
      sys' = ⟨sys.kernel.onCommandFailed, if applied then c else sys.device, none⟩ := by
  simp only [linkStep] at h
  split at h
  · rename_i c hpump
    exact ⟨c, hpump, (Option.some.inj h).symm⟩
  · cases h

/-! ### No write is lost -/

/-- A report of the command would take every twin it concerns out of flight. -/
structure CommandLands (s : LogicalACState) (c : S21OperationCommand) : Prop where
  onOff : s.onOff.LandsOn c.onOff
  mode : s.mode.LandsOn (s21OperatingModeToOperationalMode c.operatingMode)
  fan : s.fan.LandsOn (s21FanModeToSpeedSetting c.fanMode)
  setpoint : (s21OperatingModeToOperationalMode c.operatingMode).bearsSetpoint = true →
    (s.activeSetpoint (s21OperatingModeToOperationalMode c.operatingMode)).LandsOn
      c.setpointCelsius

/-- A finishing pump finds its command still wanted, and a command whose answer gets lost
will not look like a stale poll. -/
def SendsLand (sys : System) : TrafficLabel → Prop
  | .bridge l => SentStillWanted sys l
  | .pumpFail applied =>
      applied = true → ∀ c ∈ sys.pumping, CommandLands sys.kernel.state c

theorem deviceLands_linkStep (sys : System) (l : TrafficLabel) (sys' : System)
    (h : DeviceLands sys) (hlands : SendsLand sys l) (hstep : linkStep sys l = some sys') :
    DeviceLands sys' := by
  cases l with
  | bridge l => exact deviceLands_step sys l sys' h hlands hstep
  | pumpFail applied =>
      obtain ⟨c, hpump, rfl⟩ := linkStep_pumpFail hstep
      cases applied with
      | false => exact ⟨h.onOff, h.mode, h.fan, h.setpoint, nofun⟩
      | true =>
          obtain ⟨hon, hmode, hfan, hsp⟩ := hlands rfl c hpump
          exact ⟨hon, hmode, hfan, hsp, nofun⟩

/-- After a poll the twins that its report concerns have taken it in. -/
theorem polled_despite_failures {config : ReconcilerConfig} {d : LogicalACStateDefaults}
    {device : S21OperationCommand} {labels : List TrafficLabel} {now : Int}
    {valve : Option Bool} {sys : System}
    (hrun : Lib.runGuarded linkStep (start config d device)
      (labels ++ [.bridge (.poll now valve)]) = some sys)
    (hlands : Lib.AlongGuarded linkStep SendsLand (start config d device) labels) :
    sys.pumping = none ∧ Polled sys := by
  obtain ⟨before, hbefore, hpoll⟩ := Lib.runGuarded_append_eq_some.mp hrun
  obtain ⟨after, hstep, hnil⟩ := Lib.runGuarded_cons_eq_some.mp hpoll
  obtain rfl : after = sys := Option.some.inj hnil
  have hdevice : DeviceLands before := Lib.runGuarded_invariant deviceLands_linkStep
    (deviceLands_start config d device) hlands hbefore
  simp only [linkStep, step] at hstep
  split at hstep
  · cases hstep
  · rename_i hidle
    obtain rfl := Option.some.inj hstep
    exact ⟨hidle, hdevice.poll now valve⟩

/-- **No lost write over a failing link.** Take any run from boot, with any device, any
interleaving and any failures, in which every finishing pump finds its command still wanted
and no command whose answer gets lost looks like a stale poll. Whenever the last step was a
poll and nothing is pending, the device does what is desired. -/
theorem poll_agrees_despite_failures {config : ReconcilerConfig} {d : LogicalACStateDefaults}
    {device : S21OperationCommand} {labels : List TrafficLabel} {now : Int}
    {valve : Option Bool} {sys : System}
    (hrun : Lib.runGuarded linkStep (start config d device)
      (labels ++ [.bridge (.poll now valve)]) = some sys)
    (hlands : Lib.AlongGuarded linkStep SendsLand (start config d device) labels)
    (hquiet : sys.kernel.pendingCommand = none) :
    sys.pumping = none ∧ DeviceAgrees sys := by
  obtain ⟨hidle, hpolled⟩ := polled_despite_failures hrun hlands
  exact ⟨hidle, hpolled.agrees hquiet⟩

/-- A fan write whose answer is lost: the next poll shows the device on the new speed. -/
theorem poll_agrees_despite_failures_of_lostAnswer :
    ∃ sys, Lib.runGuarded linkStep (start {} {} offInAuto)
        ([.bridge (.intent 1 (.setSpeedSetting (some .high))), .bridge .pumpStart,
          .pumpFail true] ++ [.bridge (.poll 3000 none)]) = some sys ∧
      sys.kernel.pendingCommand = none ∧ DeviceAgrees sys := by
  have hlands : Lib.AlongGuarded linkStep SendsLand (start {} {} offInAuto)
      [.bridge (.intent 1 (.setSpeedSetting (some .high))), .bridge .pumpStart,
        .pumpFail true] := by
    refine .cons trivial rfl (.cons trivial rfl (.cons ?_ rfl trivial))
    rintro - c hc
    exact ⟨landsOn_of_landed rfl _, landsOn_of_landed rfl _, landsOn_of_landed rfl _, fun _ => by
      cases s21OperatingModeToOperationalMode c.operatingMode <;> exact landsOn_of_landed rfl _⟩
  refine ⟨_, rfl, by decide +kernel, ?_⟩
  exact (poll_agrees_despite_failures rfl hlands (by decide +kernel)).2

/-! ### Settling twins -/

/-- The twin has nothing in flight, and knows the device's value or desires it; or it has its
desired value in flight, and the device has that value. -/
def Settling {T : Type} (t : TwinField T) (v : T) : Prop :=
  (t.inFlight = none ∧ (t.observed = v ∨ t.desired = v)) ∨
    (t.inFlight = some t.desired ∧ t.desired = v)

section Settling

variable {T : Type} [DecidableEq T] {t : TwinField T} {v : T}

/-- A report takes the twin out of flight and moves no desired value. -/
theorem Settling.observe (h : Settling t v) (src : ObservationSource) :
    TakenIn (t.applyObservation v src) v ∧ (t.applyObservation v src).desired = t.desired := by
  have hlands : t.LandsOn v := by
    rcases h with ⟨hnone, -⟩ | ⟨hsome, rfl⟩
    · exact Or.inr (Or.inl hnone)
    · exact Or.inr (Or.inr hsome)
  refine ⟨takenIn_of_landsOn hlands src, ?_⟩
  rw [TwinField.desired_applyObservation, TwinField.desiredAfter]
  split
  · rename_i hnew
    rcases h with ⟨-, hseen | hdesired⟩ | ⟨-, hdesired⟩
    · exact absurd hseen.symm hnew.2
    · exact hdesired.symm
    · exact hdesired.symm
  · rfl

omit [DecidableEq T] in
theorem Settling.of_takenIn (h : TakenIn t v) : Settling t v := Or.inl ⟨h.1, Or.inl h.2⟩

omit [DecidableEq T] in
theorem settling_promote (t : TwinField T) : Settling t.promoteDesiredToInFlight t.desired :=
  Or.inr ⟨rfl, rfl⟩

omit [DecidableEq T] in
/-- The device may move to the desired value by itself. -/
theorem Settling.to_desired (h : Settling t v) : Settling t t.desired :=
  h.imp (And.imp_right fun _ => Or.inr rfl) (And.imp_right fun _ => rfl)

/-- A settling twin that is clean desires the device's value. -/
theorem Settling.desired_eq (h : Settling t v) (hclean : t.dirty = false) : t.desired = v := by
  rw [TwinField.dirty_eq_false_iff] at hclean
  rcases h with ⟨hnone, hseen | hdesired⟩ | ⟨-, hdesired⟩
  · rw [hnone, Option.getD_none] at hclean
    exact hclean.trans hseen
  · exact hdesired
  · exact hdesired

end Settling

/-! ### A command that is owed -/

/-- The desired command is `c`, and the device settles on it, or on what it was before. -/
structure Owed (c : S21OperationCommand) (sys : System) : Prop where
  desired : desiredCommand sys.kernel.state = c
  onOff : Settling sys.kernel.state.onOff sys.device.onOff
  mode : Settling sys.kernel.state.mode (s21OperatingModeToOperationalMode sys.device.operatingMode)
  fan : Settling sys.kernel.state.fan (s21FanModeToSpeedSetting sys.device.fanMode)
  setpoint : (s21OperatingModeToOperationalMode sys.device.operatingMode).bearsSetpoint = true →
    Settling (sys.kernel.state.activeSetpoint
      (s21OperatingModeToOperationalMode sys.device.operatingMode)) sys.device.setpointCelsius
  /-- The setpoint of the desired mode has nothing else in flight. -/
  target : sys.kernel.state.mode.desired.bearsSetpoint = true →
    Settling (sys.kernel.state.activeSetpoint sys.kernel.state.mode.desired) c.setpointCelsius
  pumping : ∀ c', sys.pumping = some c' → c' = c
  remembered : sys.kernel.lastSentCommand = some c → sys.device = c

theorem agrees_of_desired {sys : System} (h : desiredCommand sys.kernel.state = sys.device) :
    DeviceAgrees sys := by
  obtain ⟨hon, hmode, hsp, hfan⟩ := Reconciler.desiredCommand_eq_iff.mp h
  have hm : s21OperatingModeToOperationalMode sys.device.operatingMode =
      sys.kernel.state.mode.desired := by
    rw [← hmode, s21OperatingMode_roundtrip]
  refine ⟨hon.symm, hm, ?_, fun _ => ?_⟩
  · rw [← hfan, s21FanMode_roundtrip]
  · rw [hm, hsp]

namespace Owed

variable {c : S21OperationCommand} {sys : System}

/-- Silence means agreement. -/
theorem agrees (h : Owed c sys) (hquiet : sys.kernel.pendingCommand = none) :
    DeviceAgrees sys := by
  rcases Reconciler.pendingCommand_eq_none_iff.mp hquiet with hclean | hsent
  · obtain ⟨hon, hmode, -, -, -, hfan⟩ := Reconciler.anyDirty_eq_false_iff.mp hclean
    have hm := h.mode.desired_eq hmode
    refine ⟨(h.onOff.desired_eq hon).symm, hm.symm, (h.fan.desired_eq hfan).symm, fun hb => ?_⟩
    exact ((h.setpoint hb).desired_eq
      (Reconciler.activeSetpoint_dirty_of_anyDirty hclean _)).symm
  · rw [h.desired] at hsent
    exact agrees_of_desired (h.desired.trans (h.remembered hsent).symm)

/-- What is pending is the command that is owed. -/
theorem pending_or_agrees (h : Owed c sys) :
    sys.kernel.pendingCommand = some c ∨
      sys.kernel.pendingCommand = none ∧ DeviceAgrees sys := by
  cases hpending : sys.kernel.pendingCommand with
  | none => exact Or.inr ⟨rfl, h.agrees hpending⟩
  | some c' =>
      left
      rw [← (Reconciler.pendingCommand_eq_some_iff.mp hpending).2.1, h.desired]

/-- A send of the desired command, from any state. -/
theorem sent (kernel : Reconciler) :
    Owed (desiredCommand kernel.state)
      ⟨kernel.onCommandSent (desiredCommand kernel.state), desiredCommand kernel.state, none⟩ := by
  have hmode : s21OperatingModeToOperationalMode (desiredCommand kernel.state).operatingMode =
      kernel.state.mode.desired := s21OperatingMode_roundtrip _
  have hfan : s21FanModeToSpeedSetting (desiredCommand kernel.state).fanMode =
      kernel.state.fan.desired := s21FanMode_roundtrip _
  have hsetpoint : kernel.state.mode.desired.bearsSetpoint = true → Settling
      ((kernel.onCommandSent (desiredCommand kernel.state)).state.activeSetpoint
        kernel.state.mode.desired) (desiredCommand kernel.state).setpointCelsius := by
    intro hb
    rw [Reconciler.sent_activeSetpoint _ _ hb, if_pos rfl, Reconciler.desiredCommand_setpoint]
    exact settling_promote _
  refine ⟨Reconciler.sent_desiredCommand _ _, ?_, ?_, ?_, ?_, ?_, nofun, fun _ => rfl⟩
  · rw [Reconciler.sent_onOff]
    exact settling_promote _
  · dsimp only
    rw [Reconciler.sent_mode, hmode]
    exact settling_promote _
  · dsimp only
    rw [Reconciler.sent_fan, hfan]
    exact settling_promote _
  · dsimp only
    rw [hmode]
    exact hsetpoint
  · dsimp only
    rw [Reconciler.sent_mode, TwinField.promote_desired]
    exact hsetpoint

/-- A failed send leaves the twins as they are. -/
theorem failed (h : Owed c sys) : Owed c ⟨sys.kernel.onCommandFailed, sys.device, none⟩ :=
  ⟨h.desired, h.onOff, h.mode, h.fan, h.setpoint, h.target, nofun, nofun⟩

/-- Its answer may be all that is lost. -/
theorem answerLost (h : Owed c sys) : Owed c ⟨sys.kernel.onCommandFailed, c, none⟩ := by
  obtain ⟨hon, hmode, -, hfan⟩ := Reconciler.desiredCommand_eq_iff.mp h.desired
  have hm : s21OperatingModeToOperationalMode c.operatingMode =
      sys.kernel.state.mode.desired := by
    rw [← hmode, s21OperatingMode_roundtrip]
  have hf : s21FanModeToSpeedSetting c.fanMode = sys.kernel.state.fan.desired := by
    rw [← hfan, s21FanMode_roundtrip]
  refine ⟨h.desired, ?_, ?_, ?_, ?_, h.target, nofun, nofun⟩
  · dsimp only
    rw [← hon]
    exact h.onOff.to_desired
  · dsimp only
    rw [hm]
    exact h.mode.to_desired
  · dsimp only
    rw [hf]
    exact h.fan.to_desired
  · dsimp only
    rw [hm]
    exact h.target

/-- The setpoint twin of a mode, after a poll: it has taken the device's value in, or has not
been touched; its desired value has not moved. -/
theorem setpoint_polled (h : Owed c sys) (valve : Option Bool) (n : OperationalMode) :
    let after := Reconciler.observeOperational sys.kernel.state sys.kernel.config
      (reportOf sys.device valve)
    (after.activeSetpoint n).desired = (sys.kernel.state.activeSetpoint n).desired ∧
      ((after.activeSetpoint n).inFlight = none ∨
        after.activeSetpoint n = sys.kernel.state.activeSetpoint n) := by
  dsimp only
  rw [Reconciler.observe_charge]
  split
  · rename_i hm
    have hdevice : s21OperatingModeToOperationalMode sys.device.operatingMode =
        n.setpointMode := hm
    have hsettling := h.setpoint (by rw [hdevice]; exact n.bearsSetpoint_setpointMode)
    rw [hdevice, LogicalACState.activeSetpoint_setpointMode] at hsettling
    obtain ⟨htaken, hdesired⟩ := hsettling.observe .device
    exact ⟨hdesired, Or.inl htaken.1⟩
  · exact ⟨rfl, Or.inr rfl⟩

/-- A poll moves no desired value, and the twins settle on what it shows. -/
theorem poll (h : Owed c sys) (hidle : sys.pumping = none) (now : Int) (valve : Option Bool) :
    Owed c { sys with
      kernel := (sys.kernel.applyOperationalObservation now (reportOf sys.device valve)).1 } := by
  let mode := s21OperatingModeToOperationalMode sys.device.operatingMode
  let after := Reconciler.observeOperational sys.kernel.state sys.kernel.config
    (reportOf sys.device valve)
  obtain ⟨honOff, honDesired⟩ := h.onOff.observe .device
  obtain ⟨hmode, hmodeDesired⟩ := h.mode.observe .device
  obtain ⟨hfan, hfanDesired⟩ := h.fan.observe .device
  have hon' : after.onOff = _ := Reconciler.observe_onOff _ _ _
  have hmode' : after.mode = _ := Reconciler.observe_mode _ _ _
  have hfan' : after.fan = _ := Reconciler.observe_fan _ _ _
  have hmd : after.mode.desired = sys.kernel.state.mode.desired := by
    rw [hmode']
    exact hmodeDesired
  obtain ⟨hspDesired, hspFlight⟩ := h.setpoint_polled valve sys.kernel.state.mode.desired
  obtain ⟨con, cmode, csp, cfan⟩ := Reconciler.desiredCommand_eq_iff.mp h.desired
  -- a settling twin desires after the report what it desired before
  have hcommand : desiredCommand after = c := by
    rw [Reconciler.desiredCommand_eq_iff, hmd, hon', hfan']
    refine ⟨honDesired.trans con, cmode, hspDesired.trans csp, ?_⟩
    rw [← cfan]
    exact congrArg fanSpeedToS21FanMode hfanDesired
  refine ⟨hcommand, ?_, ?_, ?_, fun hb => ?_, ?_, fun c' hc' => ?_, h.remembered⟩
  · show Settling after.onOff _
    rw [hon']
    exact .of_takenIn honOff
  · show Settling after.mode _
    rw [hmode']
    exact .of_takenIn hmode
  · show Settling after.fan _
    rw [hfan']
    exact .of_takenIn hfan
  · show Settling (after.activeSetpoint mode) sys.device.setpointCelsius
    have hroute : after.activeSetpoint mode =
        (sys.kernel.state.activeSetpoint mode).applyObservation sys.device.setpointCelsius
          .device :=
      (Reconciler.observe_activeSetpoint _ _ (reportOf sys.device valve) hb).trans (if_pos rfl)
    rw [hroute]
    exact .of_takenIn ((h.setpoint hb).observe .device).1
  · show after.mode.desired.bearsSetpoint = true →
      Settling (after.activeSetpoint after.mode.desired) c.setpointCelsius
    rw [hmd]
    intro hb
    rcases hspFlight with hnone | hsame
    · exact Or.inl ⟨hnone, Or.inr (hspDesired.trans csp)⟩
    · rw [hsame]
      exact h.target hb
  · cases hidle.symm.trans hc'

end Owed

/-! ### Trying on -/

/-- Nobody writes. -/
def TrafficLabel.quiet : TrafficLabel → Bool
  | .bridge (.intent _ _) => false
  | _ => true

/-- Without writes the command stays owed, whatever the link does. -/
theorem owed_step {c : S21OperationCommand} {sys sys' : System} {l : TrafficLabel}
    (h : Owed c sys) (hquiet : l.quiet = true) (hstep : linkStep sys l = some sys') :
    Owed c sys' := by
  cases l with
  | pumpFail applied =>
      obtain ⟨c', hpump, rfl⟩ := linkStep_pumpFail hstep
      obtain rfl := h.pumping c' hpump
      cases applied with
      | false => exact h.failed
      | true => exact h.answerLost
  | bridge l =>
      cases l with
      | intent now i => cases hquiet
      | pumpStart =>
          simp only [linkStep, step] at hstep
          split at hstep
          · cases hstep
          · obtain rfl := Option.some.inj hstep
            refine ⟨h.desired, h.onOff, h.mode, h.fan, h.setpoint, h.target, fun c' hc' => ?_,
              h.remembered⟩
            rw [← (Reconciler.pendingCommand_eq_some_iff.mp hc').2.1, h.desired]
      | pumpFinish =>
          simp only [linkStep, step] at hstep
          split at hstep
          · rename_i c' hpump
            obtain rfl := Option.some.inj hstep
            obtain rfl := h.pumping c' hpump
            have hsent := Owed.sent sys.kernel
            rw [h.desired] at hsent
            exact hsent
          · cases hstep
      | poll now valve =>
          simp only [linkStep, step] at hstep
          split at hstep
          · cases hstep
          · rename_i hidle
            obtain rfl := Option.some.inj hstep
            exact h.poll hidle now valve

/-- The device only ever moves to the command that is owed. -/
theorem device_step {c before : S21OperationCommand} {sys sys' : System} {l : TrafficLabel}
    (h : Owed c sys) (hdevice : sys.device = before ∨ sys.device = c)
    (hstep : linkStep sys l = some sys') : sys'.device = before ∨ sys'.device = c := by
  cases l with
  | pumpFail applied =>
      obtain ⟨c', hpump, rfl⟩ := linkStep_pumpFail hstep
      cases applied with
      | false => exact hdevice
      | true => exact Or.inr (h.pumping c' hpump)
  | bridge l =>
      cases l with
      | intent now i =>
          obtain rfl := Option.some.inj hstep
          exact hdevice
      | pumpFinish =>
          simp only [linkStep, step] at hstep
          split at hstep
          · rename_i c' hpump
            obtain rfl := Option.some.inj hstep
            exact Or.inr (h.pumping c' hpump)
          · cases hstep
      | _ =>
          simp only [linkStep, step] at hstep
          split at hstep
          · cases hstep
          · obtain rfl := Option.some.inj hstep
            exact hdevice

/-- Nothing is in flight, and the bridge has seen what the device holds. -/
structure SeesDevice (sys : System) : Prop where
  landed : sys.kernel.state.noneInFlight
  onOff : sys.kernel.state.onOff.observed = sys.device.onOff
  mode : sys.kernel.state.mode.observed =
    s21OperatingModeToOperationalMode sys.device.operatingMode
  fan : sys.kernel.state.fan.observed = s21FanModeToSpeedSetting sys.device.fanMode
  setpoint : (s21OperatingModeToOperationalMode sys.device.operatingMode).bearsSetpoint = true →
    (sys.kernel.state.activeSetpoint
      (s21OperatingModeToOperationalMode sys.device.operatingMode)).observed =
        sys.device.setpointCelsius

/-- A pending command is owed from then on. -/
theorem SeesDevice.owed {c : S21OperationCommand} {sys : System} (h : SeesDevice sys)
    (hidle : sys.pumping = none) (hpending : sys.kernel.pendingCommand = some c) :
    Owed c sys := by
  obtain ⟨-, hdesired, hnew⟩ := Reconciler.pendingCommand_eq_some_iff.mp hpending
  obtain ⟨hon, hmode, hheat, hcool, hauto, hfan⟩ := h.landed
  have hsp : ∀ n, (sys.kernel.state.activeSetpoint n).inFlight = none := by
    intro n
    cases n <;> assumption
  refine ⟨hdesired, Or.inl ⟨hon, Or.inl h.onOff⟩, Or.inl ⟨hmode, Or.inl h.mode⟩,
    Or.inl ⟨hfan, Or.inl h.fan⟩, fun hb => Or.inl ⟨hsp _, Or.inl (h.setpoint hb)⟩, fun _ => ?_,
    fun c' hc' => ?_, fun hlast => absurd hlast hnew⟩
  · exact Or.inl ⟨hsp _, Or.inr (Reconciler.desiredCommand_eq_iff.mp hdesired).2.2.1⟩
  · cases hidle.symm.trans hc'

/-- **The bridge keeps trying.** Let a command be pending when the bridge has seen what the
device holds, has nothing in flight, and the pump is idle. As long as nobody writes, whatever
the link does with the sends and however the polls fall in between: that command stays the
desired one, the pump takes no other, the device is as before or as commanded, and the command
is pending until the device does what is desired. -/
theorem keeps_trying {c : S21OperationCommand} {sys sys' : System} {labels : List TrafficLabel}
    (hsees : SeesDevice sys) (hidle : sys.pumping = none)
    (hpending : sys.kernel.pendingCommand = some c)
    (hquiet : ∀ l ∈ labels, l.quiet = true)
    (hrun : Lib.runGuarded linkStep sys labels = some sys') :
    desiredCommand sys'.kernel.state = c ∧ (∀ c', sys'.pumping = some c' → c' = c) ∧
      (sys'.device = sys.device ∨ sys'.device = c) ∧
      (sys'.kernel.pendingCommand = some c ∨
        sys'.kernel.pendingCommand = none ∧ DeviceAgrees sys') := by
  obtain ⟨howed, hdevice⟩ := Lib.runGuarded_invariant
    (I := fun s => Owed c s ∧ (s.device = sys.device ∨ s.device = c))
    (C := fun _ l => l.quiet = true)
    (fun s l t h hl hstep => ⟨owed_step h.1 hl hstep, device_step h.1 h.2 hstep⟩)
    ⟨hsees.owed hidle hpending, Or.inl rfl⟩
    (Lib.alongGuarded_of_forall fun l hl _ => hquiet l hl) hrun
  exact ⟨howed.desired, howed.pumping, hdevice, howed.pending_or_agrees⟩

/-- A fan write that fails twice, the second time only for its answer. -/
theorem keeps_trying_of_two_failures :
    ∃ sys sys', Lib.runGuarded linkStep (start {} {} offInAuto)
        [.bridge (.poll 100 none), .bridge (.intent 3000 (.setSpeedSetting (some .high)))] =
          some sys ∧
      Lib.runGuarded linkStep sys [.bridge .pumpStart, .pumpFail false, .bridge (.poll 13000 none),
        .bridge .pumpStart, .pumpFail true] = some sys' ∧
      (sys'.kernel.pendingCommand = some ⟨true, .auto, 2200, .high⟩ ∨
        sys'.kernel.pendingCommand = none ∧ DeviceAgrees sys') := by
  obtain ⟨sys, hbefore, hsees, hidle, hpending, sys', hrun⟩ :
      ∃ sys, Lib.runGuarded linkStep (start {} {} offInAuto)
          [.bridge (.poll 100 none), .bridge (.intent 3000 (.setSpeedSetting (some .high)))] =
            some sys ∧ SeesDevice sys ∧ sys.pumping = none ∧
        sys.kernel.pendingCommand = some ⟨true, .auto, 2200, .high⟩ ∧
        ∃ sys', Lib.runGuarded linkStep sys [.bridge .pumpStart, .pumpFail false,
          .bridge (.poll 13000 none), .bridge .pumpStart, .pumpFail true] = some sys' :=
    ⟨_, rfl, ⟨⟨rfl, rfl, rfl, rfl, rfl, rfl⟩, rfl, rfl, rfl, fun _ => rfl⟩, rfl,
      by decide +kernel, _, rfl⟩
  exact ⟨sys, sys', hbefore, hrun, (keeps_trying hsees hidle hpending (by decide) hrun).2.2.2⟩

/-- **One round suffices.** From any state whatsoever, however it came about, with a command
pending and the pump idle: if the pump sends it and nobody writes meanwhile, the device is as
commanded and does what is desired, nothing is pending, and any number of polls leaves it so. -/
theorem one_round_suffices (sys : System) {c : S21OperationCommand} (hidle : sys.pumping = none)
    (hpending : sys.kernel.pendingCommand = some c) (polls : List (Int × Option Bool)) :
    ∃ sys', Lib.runGuarded step sys
        ([.pumpStart, .pumpFinish] ++ polls.map fun p => .poll p.1 p.2) = some sys' ∧
      sys'.device = c ∧ sys'.kernel.pendingCommand = none ∧ DeviceAgrees sys' := by
  obtain ⟨-, rfl, -⟩ := Reconciler.pendingCommand_eq_some_iff.mp hpending
  let c := desiredCommand sys.kernel.state
  -- the state after the send, and what the polls keep of it
  have hpolls : ∀ (before : System), Owed c before → before.pumping = none →
      before.device = c → before.kernel.lastSentCommand = some c →
      ∃ after, Lib.runGuarded step before (polls.map fun p => .poll p.1 p.2) = some after ∧
        Owed c after ∧ after.device = c ∧ after.kernel.lastSentCommand = some c := by
    induction polls with
    | nil => exact fun before howed _ hdevice hlast => ⟨before, rfl, howed, hdevice, hlast⟩
    | cons p polls ih =>
        intro before howed hfree hdevice hlast
        obtain ⟨after, hrun, hafter⟩ := ih _ (howed.poll hfree p.1 p.2) hfree hdevice hlast
        refine ⟨after, Lib.runGuarded_cons_eq_some.mpr ⟨_, ?_, hrun⟩, hafter⟩
        simp only [step, hfree]
  obtain ⟨after, hrun, howed, hdevice, hlast⟩ :=
    hpolls ⟨sys.kernel.onCommandSent c, c, none⟩ (.sent sys.kernel) rfl rfl rfl
  have hquiet : after.kernel.pendingCommand = none := by
    refine Reconciler.pendingCommand_eq_none_of_sent ?_
    rw [howed.desired, hlast]
  refine ⟨after, ?_, hdevice, hquiet, howed.agrees hquiet⟩
  refine Lib.runGuarded_cons_eq_some.mpr ⟨{ sys with pumping := some c }, ?_, ?_⟩
  · simp only [step, hidle, hpending]
    rfl
  · exact Lib.runGuarded_cons_eq_some.mpr ⟨_, rfl, hrun⟩

/-- A kernel that has never heard of the device brings it to its own boot defaults. -/
theorem one_round_suffices_from_boot :
    ∃ sys', Lib.runGuarded step
        ⟨(Reconciler.boot.applyIntent 1 (.setSpeedSetting (some .high))).1, offInAuto, none⟩
        [.pumpStart, .pumpFinish, .poll 3000 none, .poll 13000 none] = some sys' ∧
      sys'.kernel.pendingCommand = none ∧ DeviceAgrees sys' := by
  have hpending : (Reconciler.boot.applyIntent 1
      (.setSpeedSetting (some .high))).1.pendingCommand = some ⟨true, .auto, 2200, .high⟩ := by
    decide +kernel
  obtain ⟨sys', hrun, -, hquiet, hagrees⟩ :=
    one_round_suffices ⟨_, offInAuto, none⟩ rfl hpending [(3000, none), (13000, none)]
  exact ⟨sys', hrun, hquiet, hagrees⟩

end DaikinBridge.Bridge
