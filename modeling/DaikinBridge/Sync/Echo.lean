import DaikinBridge.Sync.ReconcilerSpec

/-!
# DaikinBridge.Sync.Echo

How the twins absorb what the device reports after a command went out.

* **Convergence.** While the device has not caught up yet, a poll repeats the
  values already observed; once it has, a poll echoes the command. From any state
  with a pending command, sending it and then seeing any number of stale polls and
  one echo settles the commanded twins on the command, without a further send
  (`sent_then_polled_settles`). The invariant is `AwaitsEcho`: the commanded twins
  either carry their desired value in flight or have it confirmed, and the desired
  command is the one remembered as sent.
* **External changes.** A twin the controller left alone follows a change made at
  the device exactly when it is not in flight (`leftAlone_follow_iff`). A send
  puts all commanded twins in flight, so the two meet.
-/

namespace DaikinBridge.Sync

open S21 (OperatingMode FanMode)

/-! ### Twins -/

namespace TwinField

variable {T : Type} [DecidableEq T]

/-- Same desired and same observed value. -/
def SameValues (t t' : TwinField T) : Prop :=
  t'.desired = t.desired ∧ t'.observed = t.observed

omit [DecidableEq T] in
theorem SameValues.refl (t : TwinField T) : SameValues t t := ⟨rfl, rfl⟩

/-- The desired value is on its way to the device, or confirmed by it. -/
def Awaiting (t : TwinField T) : Prop :=
  t.inFlight = some t.desired ∨ (t.inFlight = none ∧ t.observed = t.desired)

/-- Nothing outstanding, with `v` both desired and observed. -/
def SettledOn (t : TwinField T) (v : T) : Prop :=
  t.inFlight = none ∧ t.desired = v ∧ t.observed = v

/-- No outstanding controller intent: the desired value is the observed one, and
what is in flight, if anything, is that same value. -/
def LeftAlone (t : TwinField T) : Prop :=
  t.desired = t.observed ∧ (t.inFlight = none ∨ t.inFlight = some t.desired)

instance (t : TwinField T) (v : T) : Decidable (t.SettledOn v) := by
  unfold SettledOn; infer_instance

instance (t : TwinField T) : Decidable t.LeftAlone := by
  unfold LeftAlone; infer_instance

omit [DecidableEq T] in
theorem awaiting_promote (t : TwinField T) : t.promoteDesiredToInFlight.Awaiting :=
  Or.inl rfl

/-- A stale poll moves no value. -/
theorem sameValues_repeat {t : TwinField T} {v : T} (src : ObservationSource)
    (hv : v = t.observed) : SameValues t (t.applyObservation v src) :=
  applyObservation_repeat src hv

/-- A stale poll keeps the twin waiting, or is itself the confirmation. -/
theorem Awaiting.repeat {t : TwinField T} {v : T} (src : ObservationSource)
    (h : t.Awaiting) (hv : v = t.observed) : (t.applyObservation v src).Awaiting := by
  obtain ⟨hdes, hobs⟩ := applyObservation_repeat src hv
  unfold Awaiting
  rw [hdes, hobs, applyObservation_inFlight, if_pos hv]
  rcases h with hf | ⟨hf, ho⟩
  · by_cases hd : t.desired = v
    · exact Or.inr ⟨by simp [hf, hd, Option.filter], hv.symm.trans hd.symm⟩
    · exact Or.inl (by simp [hf, hd, Option.filter])
  · exact Or.inr ⟨by simp [hf], ho⟩

/-- The echo settles a waiting twin. -/
theorem Awaiting.echo {t : TwinField T} {v : T} (src : ObservationSource) (h : t.Awaiting)
    (hv : v = t.desired) : (t.applyObservation v src).SettledOn v := by
  subst hv
  obtain ⟨hdes, hobs, hf⟩ := applyObservation_echo src h
  exact ⟨hf, hdes, hobs⟩

/-- A twin left alone agrees with the device after a report if and only if it was
not in flight, or the report brought nothing new. -/
theorem LeftAlone.follows_iff {t : TwinField T} (h : t.LeftAlone) (v : T)
    (src : ObservationSource) :
    (t.applyObservation v src).desired = (t.applyObservation v src).observed ↔
      t.inFlight = none ∨ v = t.observed := by
  rw [applyObservation_observed, applyObservation_desired, h.1]
  by_cases hv : v = t.observed
  · simp [hv]
  · by_cases hf : t.inFlight = none
    · simp [hv, hf]
    · simp [hv, hf, Ne.symm hv]

end TwinField

namespace Reconciler

open LogicalACState (EachTwin)
open TwinField (SameValues)

/-! ### Polls -/

/-- One operational poll and the time it arrives. -/
structure Poll where
  now : Int
  obs : S21OperationalObservation
  deriving DecidableEq, Repr

/-- The state after a poll. -/
def pollStep (r : Reconciler) (p : Poll) : Reconciler :=
  (r.applyOperationalObservation p.now p.obs).1

/-- The poll asks for no command. -/
def SendsNothing (r : Reconciler) (p : Poll) : Prop :=
  (r.applyOperationalObservation p.now p.obs).2.sendCommand = none

/-- The poll moves no desired and no observed value. -/
def KeepsValues (r : Reconciler) (p : Poll) : Prop :=
  EachTwin SameValues r.state (pollStep r p).state

/-- The poll reports the values of a command: the same power state, any spelling of
the same mode and fan level, and the same setpoint if the mode has one. The valve
is free. -/
def Reports (obs : S21OperationalObservation) (c : S21OperationCommand) : Prop :=
  obs.onOff = c.onOff ∧
    s21OperatingModeToOperationalMode obs.operatingMode =
      s21OperatingModeToOperationalMode c.operatingMode ∧
    ((s21OperatingModeToOperationalMode c.operatingMode).bearsSetpoint = true →
      obs.setpointCelsius = c.setpointCelsius) ∧
    s21FanModeToSpeedSetting obs.fanMode = s21FanModeToSpeedSetting c.fanMode

/-- The poll repeats what is already observed. -/
def StalePoll (r : Reconciler) (p : Poll) : Prop := Reports p.obs (observedCommand r.state)

/-- The commanded twins are settled on the command. -/
def Settled (s : LogicalACState) (c : S21OperationCommand) : Prop :=
  s.onOff.SettledOn c.onOff ∧
    s.mode.SettledOn (s21OperatingModeToOperationalMode c.operatingMode) ∧
    s.fan.SettledOn (s21FanModeToSpeedSetting c.fanMode) ∧
    ((s21OperatingModeToOperationalMode c.operatingMode).bearsSetpoint = true →
      (s.activeSetpoint (s21OperatingModeToOperationalMode c.operatingMode)).SettledOn
        c.setpointCelsius)

instance (obs : S21OperationalObservation) (c : S21OperationCommand) :
    Decidable (Reports obs c) := by
  unfold Reports; infer_instance

instance (r : Reconciler) (p : Poll) : Decidable (StalePoll r p) := by
  unfold StalePoll; infer_instance

instance (s : LogicalACState) (c : S21OperationCommand) : Decidable (Settled s c) := by
  unfold Settled; infer_instance

@[simp] theorem pollStep_state (r : Reconciler) (p : Poll) :
    (pollStep r p).state = observeOperational r.state r.config p.obs := rfl

@[simp] theorem pollStep_lastSentCommand (r : Reconciler) (p : Poll) :
    (pollStep r p).lastSentCommand = r.lastSentCommand := rfl

theorem sendsNothing_iff {r : Reconciler} {p : Poll} :
    SendsNothing r p ↔ (pollStep r p).pendingCommand = none := Iff.rfl

/-! ### Convergence -/

/-- What holds between the send of `c` and its echo. -/
structure AwaitsEcho (c : S21OperationCommand) (r : Reconciler) : Prop where
  remembered : r.lastSentCommand = some c
  desired : desiredCommand r.state = c
  onOff : r.state.onOff.Awaiting
  mode : r.state.mode.Awaiting
  fan : r.state.fan.Awaiting
  setpoint : r.state.mode.desired.bearsSetpoint = true →
    (r.state.activeSetpoint r.state.mode.desired).Awaiting

theorem AwaitsEcho.pending {c : S21OperationCommand} {r : Reconciler} (h : AwaitsEcho c r) :
    r.pendingCommand = none :=
  pendingCommand_eq_none_of_sent (by rw [h.remembered, h.desired])

/-- Sending the pending command starts the wait. -/
theorem awaitsEcho_sent {r : Reconciler} {c : S21OperationCommand}
    (h : r.pendingCommand = some c) : AwaitsEcho c (r.onCommandSent c) where
  remembered := rfl
  desired := by rw [sent_desiredCommand, (pendingCommand_eq_some_iff.mp h).2.1]
  onOff := by rw [sent_onOff]; exact TwinField.awaiting_promote _
  mode := by rw [sent_mode]; exact TwinField.awaiting_promote _
  fan := by rw [sent_fan]; exact TwinField.awaiting_promote _
  setpoint := by
    rw [sent_mode, TwinField.promote_desired]
    intro hb
    rw [sent_activeSetpoint r c hb, if_pos rfl]
    exact TwinField.awaiting_promote _

/-- What a stale poll tells each twin. -/
theorem StalePoll.values {r : Reconciler} {p : Poll} (h : StalePoll r p) :
    p.obs.onOff = r.state.onOff.observed ∧
      s21OperatingModeToOperationalMode p.obs.operatingMode = r.state.mode.observed ∧
      (r.state.mode.observed.bearsSetpoint = true →
        p.obs.setpointCelsius = (r.state.activeSetpoint r.state.mode.observed).observed) ∧
      s21FanModeToSpeedSetting p.obs.fanMode = r.state.fan.observed := by
  simpa only [StalePoll, Reports, observedCommand, s21OperatingMode_roundtrip,
    s21FanMode_roundtrip] using h

/-- A stale poll repeats the observed value of whichever setpoint twin it reaches. -/
theorem StalePoll.activeSetpoint {r : Reconciler} {p : Poll} (h : StalePoll r p)
    {n : OperationalMode} (hn : n.bearsSetpoint = true) :
    (pollStep r p).state.activeSetpoint n = r.state.activeSetpoint n ∨
      ∃ v, v = (r.state.activeSetpoint n).observed ∧
        (pollStep r p).state.activeSetpoint n =
          (r.state.activeSetpoint n).applyObservation v .device := by
  obtain ⟨-, hmode, hsp, -⟩ := h.values
  rw [pollStep_state, observe_activeSetpoint _ _ _ hn, hmode]
  by_cases hm : r.state.mode.observed = n
  · subst hm
    rw [if_pos rfl]
    exact Or.inr ⟨_, hsp hn, rfl⟩
  · rw [if_neg hm]
    exact Or.inl rfl

theorem StalePoll.keepsValues {r : Reconciler} {p : Poll} (h : StalePoll r p) :
    KeepsValues r p := by
  obtain ⟨hon, hmode, -, hfan⟩ := h.values
  have hsp : ∀ {n : OperationalMode}, n.bearsSetpoint = true →
      SameValues (r.state.activeSetpoint n) ((pollStep r p).state.activeSetpoint n) := by
    intro n hn
    rcases h.activeSetpoint hn with heq | ⟨v, hv, heq⟩
    · rw [heq]; exact .refl _
    · rw [heq]; exact TwinField.sameValues_repeat _ hv
  unfold KeepsValues
  refine ⟨?_, ?_, hsp (n := .heat) rfl, hsp (n := .cool) rfl, hsp (n := .auto) rfl, ?_⟩
  · rw [pollStep_state, observe_onOff]
    exact TwinField.sameValues_repeat _ hon
  · rw [pollStep_state, observe_mode]
    exact TwinField.sameValues_repeat _ hmode
  · rw [pollStep_state, observe_fan]
    exact TwinField.sameValues_repeat _ hfan

/-- Unmoved desired values give an unmoved command. -/
theorem desiredCommand_of_sameValues {s s' : LogicalACState} (h : EachTwin SameValues s s') :
    desiredCommand s' = desiredCommand s := by
  rw [desiredCommand_eq_iff]
  refine ⟨h.onOff.1, ?_, ?_, ?_⟩
  · rw [h.mode.1]; rfl
  · rw [h.mode.1, (h.activeSetpoint _).1, desiredCommand_setpoint]
  · rw [h.fan.1]; rfl

/-- One stale poll keeps the wait going. -/
theorem AwaitsEcho.stale {c : S21OperationCommand} {r : Reconciler} {p : Poll}
    (h : AwaitsEcho c r) (hp : StalePoll r p) : AwaitsEcho c (pollStep r p) where
  remembered := h.remembered
  desired := by rw [desiredCommand_of_sameValues hp.keepsValues, h.desired]
  onOff := by
    rw [pollStep_state, observe_onOff]
    exact h.onOff.repeat _ hp.values.1
  mode := by
    rw [pollStep_state, observe_mode]
    exact h.mode.repeat _ hp.values.2.1
  fan := by
    rw [pollStep_state, observe_fan]
    exact h.fan.repeat _ hp.values.2.2.2
  setpoint := by
    have hmode : (pollStep r p).state.mode.desired = r.state.mode.desired :=
      (EachTwin.mode hp.keepsValues).1
    rw [hmode]
    intro hb
    rcases hp.activeSetpoint hb with heq | ⟨v, hv, heq⟩
    · rw [heq]; exact h.setpoint hb
    · rw [heq]; exact (h.setpoint hb).repeat _ hv

/-- The echo settles the commanded twins. -/
theorem AwaitsEcho.echo {c : S21OperationCommand} {r : Reconciler} {p : Poll}
    (h : AwaitsEcho c r) (hp : Reports p.obs c) : Settled (pollStep r p).state c := by
  obtain ⟨hon, hmode, hsp, hfan⟩ := desiredCommand_eq_iff.mp h.desired
  obtain ⟨pon, pmode, psp, pfan⟩ := hp
  have hcmode : s21OperatingModeToOperationalMode c.operatingMode = r.state.mode.desired := by
    rw [← hmode, s21OperatingMode_roundtrip]
  have hcfan : s21FanModeToSpeedSetting c.fanMode = r.state.fan.desired := by
    rw [← hfan, s21FanMode_roundtrip]
  rw [hcmode] at pmode psp
  rw [hcfan] at pfan
  unfold Settled
  rw [hcmode, hcfan]
  refine ⟨?_, ?_, ?_, ?_⟩
  · rw [pollStep_state, observe_onOff, ← pon]
    exact h.onOff.echo _ (pon.trans hon.symm)
  · rw [pollStep_state, observe_mode, ← pmode]
    exact h.mode.echo _ pmode
  · rw [pollStep_state, observe_fan, ← pfan]
    exact h.fan.echo _ pfan
  · intro hb
    rw [pollStep_state, observe_activeSetpoint _ _ _ hb, if_pos pmode, ← psp hb]
    exact (h.setpoint hb).echo _ ((psp hb).trans hsp.symm)

/-- Settled twins desire the command; in dry and fan-only mode its setpoint is the
Auto twin's, which no report of such a mode reaches. -/
theorem AwaitsEcho.echo_pending {c : S21OperationCommand} {r : Reconciler} {p : Poll}
    (h : AwaitsEcho c r) (hp : Reports p.obs c) : (pollStep r p).pendingCommand = none := by
  obtain ⟨hon, hmode, hfan, hsp⟩ := h.echo hp
  obtain ⟨-, hcmode, hcsp, hcfan⟩ := desiredCommand_eq_iff.mp h.desired
  have hm : s21OperatingModeToOperationalMode c.operatingMode = r.state.mode.desired := by
    rw [← hcmode, s21OperatingMode_roundtrip]
  have hf : s21FanModeToSpeedSetting c.fanMode = r.state.fan.desired := by
    rw [← hcfan, s21FanMode_roundtrip]
  apply pendingCommand_eq_none_of_sent
  rw [pollStep_lastSentCommand, h.remembered, eq_comm, Option.some.injEq, desiredCommand_eq_iff]
  refine ⟨hon.2.1, ?_, ?_, ?_⟩
  · rw [hmode.2.1, hm, hcmode]
  · rw [hmode.2.1]
    by_cases hb : (s21OperatingModeToOperationalMode c.operatingMode).bearsSetpoint = true
    · exact (hsp hb).2.1
    · have hroute : ¬ s21OperatingModeToOperationalMode p.obs.operatingMode =
          (s21OperatingModeToOperationalMode c.operatingMode).setpointMode := by
        rw [hp.2.1]
        intro heq
        exact hb (by rw [heq]; exact OperationalMode.bearsSetpoint_setpointMode _)
      rw [← hcsp, ← hm, ← LogicalACState.activeSetpoint_setpointMode,
        ← r.state.activeSetpoint_setpointMode, pollStep_state,
        observe_activeSetpoint _ _ _ (OperationalMode.bearsSetpoint_setpointMode _), if_neg hroute]
  · rw [hfan.2.1, hf, hcfan]

/-- **Echo suppression and convergence.** After a send, any number of stale polls
and then the echo of the command: no poll asks for a command, no stale poll moves a
desired or observed value, and the commanded twins end settled on the command. -/
theorem sent_then_polled_settles {r : Reconciler} {c : S21OperationCommand}
    (hpend : r.pendingCommand = some c) {polls : List Poll}
    (hstale : Lib.Along pollStep StalePoll (r.onCommandSent c) polls)
    {echo : Poll} (hecho : Reports echo.obs c) :
    Lib.Along pollStep SendsNothing (r.onCommandSent c) (polls ++ [echo]) ∧
      Lib.Along pollStep KeepsValues (r.onCommandSent c) polls ∧
      Settled (Lib.run pollStep (r.onCommandSent c) (polls ++ [echo])).state c ∧
      (Lib.run pollStep (r.onCommandSent c) (polls ++ [echo])).pendingCommand = none := by
  have hwait : Lib.Throughout pollStep (AwaitsEcho c) (r.onCommandSent c) polls :=
    Lib.throughout_of_along (fun s p hs hp => hs.stale hp) (awaitsEcho_sent hpend) hstale
  have hlast := hwait.last
  rw [Lib.run_concat, Lib.along_concat]
  refine ⟨⟨?_, ?_⟩, ?_, hlast.echo hecho, hlast.echo_pending hecho⟩
  · exact hwait.along fun s p _ hnext => sendsNothing_iff.mpr hnext.pending
  · exact sendsNothing_iff.mpr (hlast.echo_pending hecho)
  · exact Lib.Along.mono (fun s p hp => hp.keepsValues) hstale

/-- A unit found cooling to 24 °C, and a controller that asks for 26 °C. -/
def coolingRequested : Reconciler :=
  Lib.run kernelStep boot
    [.applyOperationalObservation 1 ⟨true, .cool, 2400, .auto, none⟩,
     .applyIntent 2000 (.setOccupiedCoolingSetpoint 2600)]

/-- The command it makes pending. -/
def coolTo26 : S21OperationCommand := ⟨true, .cool, 2600, .auto⟩

theorem reachable_coolingRequested : Reachable coolingRequested := ⟨_, _, _, rfl⟩

/-- Two stale polls and an echo, with the valve reported one way and another. -/
def coolingPolls : List Poll :=
  [⟨2100, ⟨true, .cool, 2400, .auto, none⟩⟩, ⟨2200, ⟨true, .cool, 2400, .auto, some true⟩⟩]

theorem coolingRequested_settles :
    Settled (Lib.run pollStep (coolingRequested.onCommandSent coolTo26)
      (coolingPolls ++ [⟨2300, ⟨true, .cool, 2600, .auto, none⟩⟩])).state coolTo26 := by
  have hpend : coolingRequested.pendingCommand = some coolTo26 := by decide +kernel
  have hstale : Lib.Along pollStep StalePoll (coolingRequested.onCommandSent coolTo26)
      coolingPolls := ⟨by decide +kernel, by decide +kernel, trivial⟩
  exact (sent_then_polled_settles hpend hstale (by decide +kernel)).2.2.1

/-! ### External changes -/

/-- The twins left alone agree with the device after an observation; the setpoint
twin in question is that of the reported mode. -/
def FollowsPanel (r : Reconciler) : KernelOp → Prop
  | .applyOperationalObservation now obs =>
      let s := r.state
      let s' := (r.applyOperationalObservation now obs).1.state
      let mode := s21OperatingModeToOperationalMode obs.operatingMode
      (s.onOff.LeftAlone → s'.onOff.desired = s'.onOff.observed) ∧
        (s.mode.LeftAlone → s'.mode.desired = s'.mode.observed) ∧
        (s.fan.LeftAlone → s'.fan.desired = s'.fan.observed) ∧
        (mode.bearsSetpoint = true → (s.activeSetpoint mode).LeftAlone →
          (s'.activeSetpoint mode).desired = (s'.activeSetpoint mode).observed)
  | _ => True

/-- No observation brings news to a twin left alone that is in flight. -/
def NewsOnlyOutOfFlight (r : Reconciler) : KernelOp → Prop
  | .applyOperationalObservation _ obs =>
      let s := r.state
      let mode := s21OperatingModeToOperationalMode obs.operatingMode
      (s.onOff.LeftAlone → s.onOff.inFlight = none ∨ obs.onOff = s.onOff.observed) ∧
        (s.mode.LeftAlone → s.mode.inFlight = none ∨ mode = s.mode.observed) ∧
        (s.fan.LeftAlone → s.fan.inFlight = none ∨
          s21FanModeToSpeedSetting obs.fanMode = s.fan.observed) ∧
        (mode.bearsSetpoint = true → (s.activeSetpoint mode).LeftAlone →
          (s.activeSetpoint mode).inFlight = none ∨
            obs.setpointCelsius = (s.activeSetpoint mode).observed)
  | _ => True

theorem followsPanel_iff (r : Reconciler) (op : KernelOp) :
    FollowsPanel r op ↔ NewsOnlyOutOfFlight r op := by
  cases op with
  | applyOperationalObservation now obs =>
      have hs' : (r.applyOperationalObservation now obs).1.state =
          observeOperational r.state r.config obs := rfl
      simp only [FollowsPanel, NewsOnlyOutOfFlight]
      rw [hs', observe_onOff, observe_mode, observe_fan]
      refine and_congr ?_ (and_congr ?_ (and_congr ?_ ?_))
      · exact forall_congr' fun h => h.follows_iff _ _
      · exact forall_congr' fun h => h.follows_iff _ _
      · exact forall_congr' fun h => h.follows_iff _ _
      · refine forall_congr' fun hb => ?_
        rw [observe_activeSetpoint _ _ _ hb, if_pos rfl]
        exact forall_congr' fun h => h.follows_iff _ _
  | _ => exact Iff.rfl

/-- **Panel changes.** In every run, the twins left alone follow the device at every
observation if and only if every observation that tells such a twin something new
finds it out of flight. -/
theorem leftAlone_follow_iff (r : Reconciler) (ops : List KernelOp) :
    Lib.Along kernelStep FollowsPanel r ops ↔
      Lib.Along kernelStep NewsOnlyOutOfFlight r ops :=
  Lib.along_congr followsPanel_iff

/-- The send of the new setpoint puts the untouched fan in flight as well, and a fan
change made at the panel before the next poll is then not adopted. -/
theorem fan_change_at_panel_not_adopted :
    let r := coolingRequested.onCommandSent coolTo26
    Reachable r ∧ coolingRequested.pendingCommand = some coolTo26 ∧ r.state.fan.LeftAlone ∧
      ¬ FollowsPanel r (.applyOperationalObservation 2100 ⟨true, .cool, 2600, .high, none⟩) := by
  intro r
  have hreach : Reachable r := reachable_coolingRequested.run [.onCommandSent coolTo26]
  have hpend : coolingRequested.pendingCommand = some coolTo26 := by decide +kernel
  have hfan : r.state.fan.LeftAlone := by decide +kernel
  refine ⟨hreach, hpend, hfan, ?_⟩
  intro h
  exact absurd (h.2.2.1 hfan) (by decide +kernel)

end Reconciler

end DaikinBridge.Sync
