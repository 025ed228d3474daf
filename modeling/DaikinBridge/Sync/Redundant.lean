import DaikinBridge.Sync.Intents

/-!
# DaikinBridge.Sync.Redundant

Commands that ask for nothing.

`pendingCommand` looks at the dirtiness of all three setpoint twins, but the command it
builds carries the setpoint of one. The other two are *shadows*, kept for the next change of
mode; a send promotes only the twin of its mode and a report confirms only the twin of its
mode, so a shadow that was written stays dirty. A settled unit whose desired command is what
it already does is then told to do it once more (`redundant_command_iff`), and only the memory
of the last command sent can prevent that.
-/

namespace DaikinBridge.Sync

/-- The setpoint twins other than the one in charge hold nothing unsent. -/
def LogicalACState.ShadowsClean (s : LogicalACState) : Prop :=
  ∀ n : OperationalMode, n.bearsSetpoint = true → n ≠ s.mode.observed.setpointMode →
    (s.activeSetpoint n).desired = (s.activeSetpoint n).observed

namespace Reconciler

open LogicalACState

/-- Out of flight, a twin is clean when the desired value is observed. -/
theorem dirty_eq_false_of_settled {T : Type} [DecidableEq T] {t : TwinField T}
    (h : t.inFlight = none) : t.dirty = false ↔ t.desired = t.observed := by
  rw [TwinField.dirty_eq_false_iff, h, Option.getD_none]

/-- The same command from the desired and the observed values: the commanded twins agree. -/
theorem settled_of_sameCommand {s : LogicalACState}
    (h : desiredCommand s = observedCommand s) :
    s.onOff.desired = s.onOff.observed ∧ s.mode.desired = s.mode.observed ∧
      (s.activeSetpoint s.mode.observed).desired = (s.activeSetpoint s.mode.observed).observed ∧
      s.fan.desired = s.fan.observed := by
  obtain ⟨hon, hmode, hsetpoint, hfan⟩ := desiredCommand_eq_iff.mp h
  have hmode := operationalModeToS21OperatingMode_inj.mp hmode
  rw [hmode] at hsetpoint
  exact ⟨hon, hmode, hsetpoint, fanSpeedToS21FanMode_inj.mp hfan⟩

/-- Where the commanded twins agree, what can be dirty is a shadow. -/
theorem anyDirty_eq_false_iff_shadowsClean {s : LogicalACState} (hfly : s.noneInFlight)
    (hsame : desiredCommand s = observedCommand s) : anyDirty s = false ↔ s.ShadowsClean := by
  obtain ⟨hon, hmode, hsetpoint, hfan⟩ := settled_of_sameCommand hsame
  obtain ⟨fon, fmode, fheat, fcool, fauto, ffan⟩ := hfly
  rw [anyDirty_eq_false_iff, dirty_eq_false_of_settled fon, dirty_eq_false_of_settled fmode,
    dirty_eq_false_of_settled fheat, dirty_eq_false_of_settled fcool,
    dirty_eq_false_of_settled fauto, dirty_eq_false_of_settled ffan]
  constructor
  · rintro ⟨-, -, hheat, hcool, hauto, -⟩ n hn -
    cases n with
    | cool => exact hcool
    | heat => exact hheat
    | auto => exact hauto
    | dry => cases hn
    | fanOnly => cases hn
  · intro hshadows
    have hclean : ∀ n : OperationalMode, n.bearsSetpoint = true →
        (s.activeSetpoint n).desired = (s.activeSetpoint n).observed := by
      intro n hn
      by_cases hcharge : n = s.mode.observed.setpointMode
      · rw [hcharge, activeSetpoint_setpointMode]
        exact hsetpoint
      · exact hshadows n hn hcharge
    exact ⟨hon, hmode, hclean .heat rfl, hclean .cool rfl, hclean .auto rfl, hfan⟩

theorem pendingCommand_settled_iff {r : Reconciler} (hfly : r.state.noneInFlight)
    (hsame : desiredCommand r.state = observedCommand r.state) :
    r.pendingCommand = none ↔
      r.state.ShadowsClean ∨ r.lastSentCommand = some (observedCommand r.state) := by
  rw [pendingCommand_eq_none_iff, anyDirty_eq_false_iff_shadowsClean hfly hsame, hsame]

section Shadow

variable {r : Reconciler} {m : OperationalMode} {v : Int16}

/-- A write to a setpoint that is not in charge is stored, whatever the guard says. -/
theorem apply_shadow {i : WriteIntent} (now : Int) (hi : i.setpoint = some (m, v))
    (hm : r.state.mode.observed ≠ m) (hauto : r.state.mode.observed ≠ .auto) :
    (r.apply now i).state = r.state.routeSetpoint m fun t => t.setDesired v := by
  obtain ⟨rfl, rfl⟩ | ⟨rfl, rfl⟩ := WriteIntent.setpoint_cases hi
  · simp only [apply, applySetOccupiedHeatingSetpoint]
    cases hmode : r.state.mode.observed <;> simp [hmode, routeSetpoint] at hm hauto ⊢
  · simp only [apply, applySetOccupiedCoolingSetpoint]
    cases hmode : r.state.mode.observed <;> simp [hmode, routeSetpoint] at hm hauto ⊢

/-- Storing a shadow moves no commanded value. -/
theorem commands_routeShadow {s : LogicalACState} (hm : s.mode.observed.setpointMode ≠ m)
    (hsame : desiredCommand s = observedCommand s) :
    desiredCommand (s.routeSetpoint m fun t => t.setDesired v) = desiredCommand s ∧
      observedCommand (s.routeSetpoint m fun t => t.setDesired v) = observedCommand s := by
  have hcharge : (s.routeSetpoint m fun t => t.setDesired v).activeSetpoint s.mode.observed =
      s.activeSetpoint s.mode.observed := by
    rw [← activeSetpoint_setpointMode, routeSetpoint_activeSetpoint _ _
      (OperationalMode.bearsSetpoint_setpointMode _), if_neg (Ne.symm hm),
      activeSetpoint_setpointMode]
  have hmode := (settled_of_sameCommand hsame).2.1
  constructor
  · rw [desiredCommand_eq_iff]
    refine ⟨by rw [routeSetpoint_onOff]; rfl, by rw [routeSetpoint_mode]; rfl, ?_,
      by rw [routeSetpoint_fan]; rfl⟩
    rw [routeSetpoint_mode, hmode, hcharge, desiredCommand_setpoint, hmode]
  · simp only [observedCommand, routeSetpoint_onOff, routeSetpoint_mode, routeSetpoint_fan, hcharge]

/-- The shadows after one of them was stored. -/
theorem shadowsClean_routeShadow {s : LogicalACState} (hb : m.bearsSetpoint = true)
    (hm : s.mode.observed.setpointMode ≠ m) :
    (s.routeSetpoint m fun t => t.setDesired v).ShadowsClean ↔
      v = (s.activeSetpoint m).observed ∧
        ∀ n : OperationalMode, n.bearsSetpoint = true → n ≠ s.mode.observed.setpointMode → n ≠ m →
          (s.activeSetpoint n).desired = (s.activeSetpoint n).observed := by
  unfold ShadowsClean
  rw [routeSetpoint_mode]
  constructor
  · intro h
    constructor
    · have hstored := h m hb (Ne.symm hm)
      rwa [routeSetpoint_activeSetpoint _ _ hb, if_pos rfl, TwinField.setDesired_desired,
        TwinField.setDesired_observed] at hstored
    · intro n hn hcharge hnm
      have hother := h n hn hcharge
      rwa [routeSetpoint_activeSetpoint _ _ hn, if_neg (Ne.symm hnm)] at hother
  · rintro ⟨hv, hothers⟩ n hn hcharge
    rw [routeSetpoint_activeSetpoint _ _ hn]
    by_cases hnm : m = n
    · subst hnm
      rw [if_pos rfl, TwinField.setDesired_desired, TwinField.setDesired_observed, hv]
    · rw [if_neg hnm]
      exact hothers n hn hcharge (Ne.symm hnm)

theorem setpointMode_ne_shadow {i : WriteIntent} (hi : i.setpoint = some (m, v))
    (hm : r.state.mode.observed ≠ m) :
    m.bearsSetpoint = true ∧ r.state.mode.observed.setpointMode ≠ m := by
  obtain ⟨rfl, rfl⟩ | ⟨rfl, rfl⟩ := WriteIntent.setpoint_cases hi
  · cases hmode : r.state.mode.observed <;>
      simp [hmode, OperationalMode.bearsSetpoint, OperationalMode.setpointMode] at hm ⊢
  · cases hmode : r.state.mode.observed <;>
      simp [hmode, OperationalMode.bearsSetpoint, OperationalMode.setpointMode] at hm ⊢

end Shadow

theorem noneInFlight_of_sameDeviceViews {s s' : LogicalACState} (h : SameDeviceViews s s')
    (hfly : s.noneInFlight) : s'.noneInFlight := by
  obtain ⟨hon, hmode, hheat, hcool, hauto, hfan⟩ := hfly
  exact ⟨h.onOff.2.trans hon, h.mode.2.trans hmode, h.heatSetpoint.2.trans hheat,
    h.coolSetpoint.2.trans hcool, h.autoSetpoint.2.trans hauto, h.fan.2.trans hfan⟩

/-- **Redundant commands.** Let nothing be in flight and the desired command be the observed
one. Nothing is pending if and only if the shadows hold nothing unsent or this command was
the last one sent. So a write to a shadow asks for no command if and only if it repeats the
observed shadow with the other shadow clean, or this command was the last one sent. -/
theorem redundant_command_iff (r : Reconciler) (hfly : r.state.noneInFlight)
    (hsame : desiredCommand r.state = observedCommand r.state) :
    (r.pendingCommand = none ↔
      r.state.ShadowsClean ∨ r.lastSentCommand = some (observedCommand r.state)) ∧
    ∀ (now : Int) (i : WriteIntent) (m : OperationalMode) (v : Int16), i.setpoint = some (m, v) →
      r.state.mode.observed ≠ m → r.state.mode.observed ≠ .auto →
      ((r.applyIntent now i).2.sendCommand = none ↔
        (v = (r.state.activeSetpoint m).observed ∧
          ∀ n : OperationalMode, n.bearsSetpoint = true →
            n ≠ r.state.mode.observed.setpointMode → n ≠ m →
            (r.state.activeSetpoint n).desired = (r.state.activeSetpoint n).observed) ∨
        r.lastSentCommand = some (observedCommand r.state)) := by
  refine ⟨pendingCommand_settled_iff hfly hsame, ?_⟩
  intro now i m v hi hm hauto
  obtain ⟨hb, hcharge⟩ := setpointMode_ne_shadow hi hm
  have hstate := apply_shadow now hi hm hauto
  obtain ⟨hdesired, hobserved⟩ := commands_routeShadow (v := v) hcharge hsame
  have hfly' := noneInFlight_of_sameDeviceViews (apply_deviceViews r now i) hfly
  have hsend : (r.applyIntent now i).2.sendCommand = (r.apply now i).pendingCommand := rfl
  have hlast : (r.apply now i).lastSentCommand = r.lastSentCommand := rfl
  rw [hsend, pendingCommand_settled_iff hfly' (by rw [hstate, hdesired, hobserved, hsame]), hlast,
    hstate, hobserved, shadowsClean_routeShadow hb hcharge]

/-- A unit found cooling has nothing pending, and nothing becomes pending by a write that
repeats its heating shadow. -/
theorem coolingPolled_silent :
    coolingPolled.state.noneInFlight ∧
      desiredCommand coolingPolled.state = observedCommand coolingPolled.state ∧
      coolingPolled.pendingCommand = none ∧
      (coolingPolled.applyIntent 3000 (.setOccupiedHeatingSetpoint
        coolingPolled.state.heatSetpoint.observed)).2.sendCommand = none := by
  have hfly : coolingPolled.state.noneInFlight := by decide +kernel
  have hsame : desiredCommand coolingPolled.state = observedCommand coolingPolled.state := by
    decide +kernel
  have hclean : ∀ n : OperationalMode,
      (coolingPolled.state.activeSetpoint n).desired =
        (coolingPolled.state.activeSetpoint n).observed := by
    intro n
    cases n <;> decide +kernel
  obtain ⟨hpending, hwrite⟩ := redundant_command_iff coolingPolled hfly hsame
  refine ⟨hfly, hsame, hpending.mpr (.inl fun n _ _ => hclean n), ?_⟩
  exact (hwrite 3000 _ .heat _ rfl (by decide) (by decide)).mpr
    (.inl ⟨rfl, fun n _ _ _ => hclean n⟩)

/-- Storing a heating setpoint for later sends the unit the command it already follows. -/
theorem heat_shadow_resends :
    let stored := (coolingPolled.applyIntent 3000 (.setOccupiedHeatingSetpoint 2300)).1
    Reachable stored ∧ stored.state.noneInFlight ∧
      desiredCommand stored.state = observedCommand stored.state ∧
      stored.pendingCommand = some (observedCommand stored.state) ∧
      (coolingPolled.applyIntent 3000 (.setOccupiedHeatingSetpoint 2300)).2.sendCommand =
        some (observedCommand coolingPolled.state) := by
  intro stored
  have hreach : Reachable coolingPolled := ⟨_, _, _, rfl⟩
  exact ⟨hreach.run [.applyIntent 3000 (.setOccupiedHeatingSetpoint 2300)], by decide +kernel,
    by decide +kernel, by decide +kernel, by decide +kernel⟩

end Reconciler

end DaikinBridge.Sync
