import DaikinBridge.Sync.Echo
import DaikinBridge.Sync.Intents

/-!
# DaikinBridge.Sync.Attribution

Who a confirmed write is attributed to.

A write attributes its twin to the controller, and the echo of the command keeps that. In
between, polls may repeat what is already observed. Such a poll leaves a twin in flight alone,
but attributes one that is not in flight *to the device*: its round trip ends attributed to
the controller only if no poll fell between the write and the send. Two things hang on it, the
SetpointChangeSource (`confirmed_write_attribution_iff`) and the exact PercentSetting, which
is derived anew from the level when a new one arrives from the device
(`percent_survives_iff`).

Both follow one twin through the round trip: `Repeats` is what a stale poll does to it, and
`attribution_roundTrip` is where it ends.
-/

namespace DaikinBridge.Sync

namespace TwinField

variable {T : Type} [DecidableEq T]

/-- A repeated report touches an idle twin. -/
theorem applyObservation_idle {t : TwinField T} (src : ObservationSource)
    (h : t.inFlight = none) :
    t.applyObservation t.observed src = { t with lastSource := src, attribution := src } := by
  simp [applyObservation, h]

/-- A repeated report passes by a twin in flight. -/
theorem applyObservation_flying {t : TwinField T} {sent : T} (src : ObservationSource)
    (h : t.inFlight = some sent) (hne : sent ≠ t.observed) :
    t.applyObservation t.observed src = { t with lastSource := src } := by
  simp [applyObservation, h, Ne.symm hne]

/-- The confirmation keeps the attribution. -/
theorem applyObservation_confirm {t : TwinField T} {sent : T} (src : ObservationSource)
    (h : t.inFlight = some sent) :
    t.applyObservation sent src =
      { t with lastSource := src, inFlight := none, observed := sent } := by
  simp [applyObservation, h]

/-- A new value out of flight is adopted. -/
theorem applyObservation_external {t : TwinField T} {v : T} (src : ObservationSource)
    (h : t.inFlight = none) (hv : v ≠ t.observed) :
    t.applyObservation v src =
      { t with lastSource := src, observed := v, desired := v, attribution := src } := by
  simp [applyObservation, h, hv]

/-- A value that is neither the old one nor the one sent ends the flight. -/
theorem applyObservation_disconfirm {t : TwinField T} {v sent : T} (src : ObservationSource)
    (h : t.inFlight = some sent) (hsent : v ≠ sent) (hv : v ≠ t.observed) :
    t.applyObservation v src =
      { t with lastSource := src, inFlight := none, observed := v, attribution := src } := by
  simp [applyObservation, h, hsent, hv]

theorem setDesired_attribution (t : TwinField T) (v : T) :
    (t.setDesired v).attribution = if t.desired = v then t.attribution else .matter := by
  unfold setDesired
  split <;> rfl

end TwinField

namespace Reconciler

open LogicalACState

/-! ### One twin through a round trip -/

section RoundTrip

variable {T : Type} [DecidableEq T] (twin : LogicalACState → TwinField T)

/-- The poll reports of the twin what is already observed of it. -/
def Repeats (r : Reconciler) (p : Poll) : Prop :=
  twin (pollStep r p).state = (twin r.state).applyObservation (twin r.state).observed .device

/-- Polls that repeat the observed value leave their mark on an idle twin. -/
theorem run_repeats_idle {r : Reconciler} {polls : List Poll}
    (h : (twin r.state).inFlight = none) (hpolls : Lib.Along pollStep (Repeats twin) r polls) :
    ∃ src, twin (Lib.run pollStep r polls).state =
      { twin r.state with
        lastSource := src
        attribution := if polls = [] then (twin r.state).attribution else .device } := by
  induction polls generalizing r with
  | nil => exact ⟨(twin r.state).lastSource, rfl⟩
  | cons p rest ih =>
      obtain ⟨hp, hrest⟩ := hpolls
      rw [Repeats, TwinField.applyObservation_idle _ h] at hp
      obtain ⟨src, hlast⟩ := ih (by rw [hp]; exact h) hrest
      refine ⟨src, ?_⟩
      rw [Lib.run_cons, hlast, hp]
      simp

/-- They leave a twin in flight alone. -/
theorem run_repeats_flying {r : Reconciler} {polls : List Poll} {sent : T}
    (h : (twin r.state).inFlight = some sent) (hne : sent ≠ (twin r.state).observed)
    (hpolls : Lib.Along pollStep (Repeats twin) r polls) :
    ∃ src, twin (Lib.run pollStep r polls).state = { twin r.state with lastSource := src } := by
  induction polls generalizing r with
  | nil => exact ⟨(twin r.state).lastSource, rfl⟩
  | cons p rest ih =>
      obtain ⟨hp, hrest⟩ := hpolls
      rw [Repeats, TwinField.applyObservation_flying _ h hne] at hp
      obtain ⟨src, hlast⟩ := ih (by rw [hp]; exact h) (by rw [hp]; exact hne) hrest
      refine ⟨src, ?_⟩
      rw [Lib.run_cons, hlast, hp]

/-- **The round trip of a write.** An idle twin is set to a new value, polls repeat the old
one, the value is sent, polls repeat the old one again: what the echo of the value finds. -/
theorem attribution_roundTrip {written sent : Reconciler} {before after : List Poll}
    {t : TwinField T} {v : T} (hidle : t.inFlight = none) (hnew : v ≠ t.observed)
    (hwritten : twin written.state = t.setDesired v)
    (hbefore : Lib.Along pollStep (Repeats twin) written before)
    (hsent : twin sent.state =
      (twin (Lib.run pollStep written before).state).promoteDesiredToInFlight)
    (hafter : Lib.Along pollStep (Repeats twin) sent after) :
    (twin (Lib.run pollStep sent after).state).inFlight = some v ∧
      (twin (Lib.run pollStep sent after).state).observed = t.observed ∧
      (twin (Lib.run pollStep sent after).state).attribution =
        if before = [] then (t.setDesired v).attribution else .device := by
  obtain ⟨src, hwaited⟩ := run_repeats_idle twin
    (by rw [hwritten, TwinField.setDesired_inFlight]; exact hidle) hbefore
  rw [hwritten] at hwaited
  have hflying : (twin sent.state).inFlight = some v := by
    rw [hsent, hwaited, TwinField.promote_inFlight, TwinField.setDesired_desired]
  have hobserved : (twin sent.state).observed = t.observed := by
    rw [hsent, hwaited, TwinField.promote_observed, TwinField.setDesired_observed]
  obtain ⟨src', hlast⟩ := run_repeats_flying twin hflying (by rw [hobserved]; exact hnew) hafter
  rw [hlast]
  refine ⟨hflying, hobserved, ?_⟩
  rw [hsent, hwaited]
  rfl

end RoundTrip

/-! ### Stale polls -/

section Stale

variable {r : Reconciler} {p : Poll} {m : OperationalMode}

theorem StalePoll.repeatsFan (h : StalePoll r p) : Repeats LogicalACState.fan r p := by
  rw [Repeats, pollStep_state, observe_fan, h.values.2.2.2]

theorem StalePoll.repeatsSetpoint (h : StalePoll r p) (hb : m.bearsSetpoint = true)
    (hm : r.state.mode.observed = m) : Repeats (fun s => s.activeSetpoint m) r p := by
  obtain ⟨-, hmode, hsetpoint, -⟩ := h.values
  subst hm
  rw [Repeats, pollStep_state, observe_activeSetpoint _ _ _ hb, if_pos hmode, hsetpoint hb]

theorem along_repeatsSetpoint {polls : List Poll} (hb : m.bearsSetpoint = true)
    (hm : r.state.mode.observed = m) (h : Lib.Along pollStep StalePoll r polls) :
    Lib.Along pollStep (Repeats fun s => s.activeSetpoint m) r polls := by
  induction polls generalizing r with
  | nil => trivial
  | cons p rest ih =>
      exact ⟨h.1.repeatsSetpoint hb hm, ih ((EachTwin.mode h.1.keepsValues).2.trans hm) h.2⟩

/-- A stale poll leaves dirty what was dirty. -/
theorem StalePoll.anyDirty (h : StalePoll r p) :
    Reconciler.anyDirty (pollStep r p).state = Reconciler.anyDirty r.state := by
  obtain ⟨hon, hmode, -, hfan⟩ := h.values
  have hsetpoint : ∀ {n : OperationalMode}, n.bearsSetpoint = true →
      ((pollStep r p).state.activeSetpoint n).dirty = (r.state.activeSetpoint n).dirty := by
    intro n hn
    obtain heq | ⟨v, hv, heq⟩ := h.activeSetpoint hn
    · rw [heq]
    · rw [heq, TwinField.dirty_applyObservation, if_pos hv]
  have hheat := hsetpoint (n := .heat) rfl
  have hcool := hsetpoint (n := .cool) rfl
  have hauto := hsetpoint (n := .auto) rfl
  simp only [LogicalACState.activeSetpoint] at hheat hcool hauto
  unfold Reconciler.anyDirty
  rw [hheat, hcool, hauto, pollStep_state, observe_onOff, observe_mode, observe_fan,
    TwinField.dirty_applyObservation, if_pos hon, TwinField.dirty_applyObservation, if_pos hmode,
    TwinField.dirty_applyObservation, if_pos hfan]

/-- What is pending stays pending over stale polls. -/
theorem run_stale_pendingCommand {polls : List Poll} (h : Lib.Along pollStep StalePoll r polls) :
    (Lib.run pollStep r polls).pendingCommand = r.pendingCommand := by
  induction polls generalizing r with
  | nil => rfl
  | cons p rest ih =>
      rw [Lib.run_cons, ih h.2, pendingCommand, pendingCommand, h.1.anyDirty,
        desiredCommand_of_sameValues h.1.keepsValues, pollStep_lastSentCommand]

/-- Stale polls move no mode. -/
theorem run_stale_mode {polls : List Poll} (h : Lib.Along pollStep StalePoll r polls) :
    TwinField.SameValues r.state.mode (Lib.run pollStep r polls).state.mode := by
  induction polls generalizing r with
  | nil => exact .refl _
  | cons p rest ih =>
      have hfirst := EachTwin.mode h.1.keepsValues
      have hrest := ih h.2
      exact ⟨hrest.1.trans hfirst.1, hrest.2.trans hfirst.2⟩

end Stale

/-! ### Setpoint writes -/

/-- The twin after a write to the active setpoint. -/
theorem activeSetpoint_write {r : Reconciler} {now : Int} {m : OperationalMode} {v : Int16}
    {i : WriteIntent} (hopen : WindowOpen r now) (hi : i.setpoint = some (m, v))
    (hm : r.state.mode.observed = m) :
    (r.apply now i).state.activeSetpoint m = (r.state.activeSetpoint m).setDesired v ∧
      (r.apply now i).state.mode = r.state.mode := by
  rw [state_apply]
  obtain ⟨rfl, rfl⟩ | ⟨rfl, rfl⟩ := WriteIntent.setpoint_cases hi
  · simp [wish, hm, hopen.admitsHeat, withWishes, wishes, LogicalACState.activeSetpoint]
  · simp [wish, hm, hopen.admitsCool, withWishes, wishes, LogicalACState.activeSetpoint]

/-- **Attribution of a confirmed write.** In Cool or Heat, with the guard window open, a new
value is written to the active setpoint and makes a command pending; stale polls come in, the
command, still the pending one, is sent, stale polls come in again, and a poll echoes it.
Then the write is attributed to the controller, in the twin and in the projection, if and
only if no poll came in between the write and the send. -/
theorem confirmed_write_attribution_iff (r : Reconciler) (now : Int) (hopen : WindowOpen r now)
    (i : WriteIntent) (m : OperationalMode) (v : Int16) (hi : i.setpoint = some (m, v))
    (hobserved : r.state.mode.observed = m) (hdesired : r.state.mode.desired = m)
    (hidle : (r.state.activeSetpoint m).inFlight = none)
    (hchange : v ≠ (r.state.activeSetpoint m).desired)
    (hnew : v ≠ (r.state.activeSetpoint m).observed) (c : S21OperationCommand)
    (hpend : (r.applyIntent now i).1.pendingCommand = some c) (hv : c.setpointCelsius = v)
    (before after : List Poll) (echo : Poll)
    (hbefore : Lib.Along pollStep StalePoll (r.applyIntent now i).1 before)
    (hafter : Lib.Along pollStep StalePoll
      ((Lib.run pollStep (r.applyIntent now i).1 before).onCommandSent c) after)
    (hecho : Reports echo.obs c) :
    let waited := Lib.run pollStep (r.applyIntent now i).1 before
    let final := Lib.run pollStep (waited.onCommandSent c) (after ++ [echo])
    waited.pendingCommand = some c ∧
      ((final.state.activeSetpoint m).attribution = .matter ↔ before = []) ∧
      (Projector.projectedSetpointSource final.state = .matter ↔ before = []) := by
  intro waited final
  have hb : m.bearsSetpoint = true := by
    obtain ⟨-, rfl⟩ | ⟨-, rfl⟩ := WriteIntent.setpoint_cases hi
    · rfl
    · rfl
  obtain ⟨htwin, hmode⟩ := activeSetpoint_write hopen hi hobserved
  obtain ⟨hmodeDesired, hmodeObserved⟩ := run_stale_mode hbefore
  have hwaitedMode : waited.state.mode.desired = m ∧ waited.state.mode.observed = m :=
    ⟨hmodeDesired.trans ((congrArg TwinField.desired hmode).trans hdesired),
      hmodeObserved.trans ((congrArg TwinField.observed hmode).trans hobserved)⟩
  have hwaited : waited.pendingCommand = some c := (run_stale_pendingCommand hbefore).trans hpend
  -- what the echo finds
  obtain ⟨hflying, -, hattribution⟩ := attribution_roundTrip
    (fun s => s.activeSetpoint m) hidle hnew htwin
    (along_repeatsSetpoint hb ((congrArg TwinField.observed hmode).trans hobserved) hbefore)
    (sent_activeSetpoint waited c hb |>.trans (if_pos hwaitedMode.1))
    (along_repeatsSetpoint hb (by rw [sent_mode]; exact hwaitedMode.2) hafter)
  have hcmode : s21OperatingModeToOperationalMode c.operatingMode = m := by
    rw [← (desiredCommand_eq_iff.mp (pendingCommand_eq_some_iff.mp hwaited).2.1).2.1,
      s21OperatingMode_roundtrip, hwaitedMode.1]
  obtain ⟨-, hechoMode, hechoSetpoint, -⟩ := hecho
  rw [hcmode] at hechoMode hechoSetpoint
  have hfinal : (final.state.activeSetpoint m).attribution =
      if before = [] then .matter else .device := by
    have hset := TwinField.setDesired_attribution (r.state.activeSetpoint m) v
    rw [if_neg (Ne.symm hchange)] at hset
    simp only [final, Lib.run_concat]
    rw [pollStep_state, observe_activeSetpoint _ _ _ hb, if_pos hechoMode, hechoSetpoint hb, hv,
      TwinField.applyObservation_confirm _ hflying]
    exact hattribution.trans (by rw [hset])
  have hfinalMode : final.state.mode.observed = m := by
    simp only [final, Lib.run_concat]
    rw [pollStep_state, observe_mode, TwinField.applyObservation_observed, hechoMode]
  have hiff : (final.state.activeSetpoint m).attribution = .matter ↔ before = [] := by
    rw [hfinal]
    split <;> simp [*]
  refine ⟨hwaited, hiff, ?_⟩
  rw [Projector.projectedSetpointSource, hfinalMode]
  exact hiff

/-- The unit found cooling, asked for 26 °C. -/
def warmerRequested : Reconciler :=
  (coolingPolled.applyIntent 3000 (.setOccupiedCoolingSetpoint 2600)).1

/-- The command for it. -/
def coolHighTo26 : S21OperationCommand := ⟨true, .cool, 2600, .high⟩

/-- The poll that finds the unit as before, and the one that finds it at 26 °C. -/
def unchangedPoll : Poll := ⟨3100, coolingObservation⟩

def warmerPoll : Poll := ⟨3200, { coolingObservation with setpointCelsius := 2600 }⟩

/-- A poll after the send only: the confirmed write is the controller's. -/
theorem warmerRequested_attributed :
    let final := Lib.run pollStep (warmerRequested.onCommandSent coolHighTo26)
      [unchangedPoll, warmerPoll]
    (final.state.activeSetpoint .cool).attribution = .matter ∧
      Projector.projectedSetpointSource final.state = .matter := by
  intro final
  obtain ⟨-, hattribution, hshown⟩ := confirmed_write_attribution_iff coolingPolled 3000
    windowOpen_coolingPolled (.setOccupiedCoolingSetpoint 2600) .cool 2600 rfl (by decide)
    (by decide) (by decide) (by decide) (by decide) coolHighTo26 (by decide +kernel) rfl []
    [unchangedPoll] warmerPoll trivial ⟨by decide +kernel, trivial⟩ (by decide)
  exact ⟨hattribution.mpr rfl, hshown.mpr rfl⟩

/-- A poll before the send: the confirmed write is attributed to the device. -/
theorem polled_before_send_misattributed :
    let waited := Lib.run pollStep warmerRequested [unchangedPoll]
    let final := Lib.run pollStep (waited.onCommandSent coolHighTo26) [warmerPoll]
    Reachable coolingPolled ∧ WindowOpen coolingPolled 3000 ∧
      (coolingPolled.state.activeSetpoint .cool).inFlight = none ∧
      warmerRequested.pendingCommand = some coolHighTo26 ∧
      StalePoll warmerRequested unchangedPoll ∧ waited.pendingCommand = some coolHighTo26 ∧
      Reports warmerPoll.obs coolHighTo26 ∧
      (final.state.activeSetpoint .cool).attribution = .device ∧
      Projector.projectedSetpointSource final.state = .device := by
  intro waited final
  have hreach : Reachable coolingPolled := ⟨_, _, _, rfl⟩
  exact ⟨hreach, windowOpen_coolingPolled, by decide, by decide +kernel, by decide +kernel,
    by decide +kernel, by decide, by decide +kernel, by decide +kernel⟩

/-! ### Percent writes -/

/-- `onCommandSent` of the pending command, if there is one. -/
def sendPending (r : Reconciler) : Reconciler :=
  match r.pendingCommand with
  | some c => r.onCommandSent c
  | none => r

/-- The unit is on, and meant to be. -/
def Running (r : Reconciler) : Prop :=
  r.state.onOff.observed = true ∧ r.state.onOff.desired = true

section Percent

variable {r : Reconciler} {p : Poll}

@[simp] theorem pollStep_fanPercentSetting (r : Reconciler) (p : Poll) :
    (pollStep r p).state.fanPercentSetting =
      rederivePercent r.state.fan (pollStep r p).state.fan r.state.fanPercentSetting := by
  simp [observeOperational]

theorem Running.poll (h : Running r) (hp : p.obs.onOff = true) : Running (pollStep r p) := by
  rw [Running, pollStep_state, observe_onOff, hp, TwinField.applyObservation_observed,
    TwinField.applyObservation_desired]
  refine ⟨rfl, ?_⟩
  split
  · rfl
  · exact h.2

theorem Running.sendPending (h : Running r) : Running r.sendPending := by
  unfold Reconciler.sendPending
  split
  · rw [Running, sent_onOff]
    exact h
  · exact h

theorem sendPending_percent (r : Reconciler) :
    r.sendPending.state.fanPercentSetting = r.state.fanPercentSetting ∧
      r.sendPending.state.fan.observed = r.state.fan.observed := by
  unfold sendPending
  split
  · exact ⟨by simp [onCommandSent], by rw [sent_fan]; rfl⟩
  · exact ⟨rfl, rfl⟩

/-- The percent is derived anew only when another level is observed. -/
theorem percent_kept (hfan : s21FanModeToSpeedSetting p.obs.fanMode = r.state.fan.observed) :
    (pollStep r p).state.fanPercentSetting = r.state.fanPercentSetting ∧
      (pollStep r p).state.fan.observed = r.state.fan.observed := by
  have hobserved : (pollStep r p).state.fan.observed = r.state.fan.observed := by
    rw [pollStep_state, observe_fan, TwinField.applyObservation_observed, hfan]
  refine ⟨?_, hobserved⟩
  rw [pollStep_fanPercentSetting, rederivePercent, if_neg (fun h => h.1 hobserved)]

/-- Stale polls keep the unit running, the percent and the observed level. -/
theorem run_stale_percent {polls : List Poll} (hrunning : Running r)
    (h : Lib.Along pollStep StalePoll r polls) :
    Running (Lib.run pollStep r polls) ∧
      (Lib.run pollStep r polls).state.fanPercentSetting = r.state.fanPercentSetting ∧
      (Lib.run pollStep r polls).state.fan.observed = r.state.fan.observed := by
  induction polls generalizing r with
  | nil => exact ⟨hrunning, rfl, rfl⟩
  | cons p rest ih =>
      obtain ⟨hon, -, -, hfan⟩ := h.1.values
      obtain ⟨hpercent, hlevel⟩ := percent_kept hfan
      obtain ⟨hrun, hpercent', hlevel'⟩ := ih (hrunning.poll (hon.trans hrunning.1)) h.2
      exact ⟨hrun, hpercent'.trans hpercent, hlevel'.trans hlevel⟩

/-- What a percent write leaves. -/
theorem percent_write {now : Int} (hopen : WindowOpen r now) (hrunning : Running r)
    (percent : UInt8) :
    let written := (r.applyIntent now (.setPercentSetting (some percent))).1
    Running written ∧ written.state.fanPercentSetting = some percent ∧
      written.state.fan = r.state.fan.setDesired (some (percentToSpeedLevel percent)) := by
  intro written
  have hstate : written.state = r.state.withWishes
      (r.wish now r.state.wishes (.setPercentSetting (some percent)))
      (r.rememberedPercent now (.setPercentSetting (some percent))) :=
    state_apply r now (.setPercentSetting (some percent))
  rw [Running, hstate]
  simp [wish, wishFan, rememberedPercent, hopen.admitsFan, withWishes, wishes, hrunning.1,
    hrunning.2]

theorem Running.projectedPercentSetting (h : Running r) :
    Projector.projectedPercentSetting r.state = r.state.fanPercentSetting := by
  have hon : Projector.projectedOnOff r.state = true := by
    rw [Projector.projectedOnOff, projectedValue, h.1, h.2, ite_self]
  rw [Projector.projectedPercentSetting, hon]
  rfl

/-- The round trip of the fan level, when the level is new: the percent the report leaves. -/
theorem percent_roundTrip {written sent : Reconciler} {before after : List Poll} {report : Poll}
    {level : FanLevel} {percent : UInt8} (hidle : r.state.fan.inFlight = none)
    (hnew : some level ≠ r.state.fan.observed)
    (hwritten : written.state.fan = r.state.fan.setDesired (some level))
    (hbefore : Lib.Along pollStep StalePoll written before)
    (hsent : sent.state.fan =
      (Lib.run pollStep written before).state.fan.promoteDesiredToInFlight)
    (hafter : Lib.Along pollStep StalePoll sent after)
    (hpercent : (Lib.run pollStep sent after).state.fanPercentSetting = some percent)
    (hreport : s21FanModeToSpeedSetting report.obs.fanMode = some level) :
    (pollStep (Lib.run pollStep sent after) report).state.fanPercentSetting = some percent ↔
      percent = speedLevelToPercent level.toUInt8 ∨
        (before = [] ∧
          ¬(r.state.fan.desired = some level ∧ r.state.fan.attribution = .device)) := by
  obtain ⟨hflying, hobserved, hattribution⟩ := attribution_roundTrip LogicalACState.fan
    hidle hnew hwritten (hbefore.mono fun _ _ h => h.repeatsFan) hsent
    (hafter.mono fun _ _ h => h.repeatsFan)
  rw [TwinField.setDesired_attribution] at hattribution
  rw [pollStep_fanPercentSetting, pollStep_state, observe_fan, hreport,
    TwinField.applyObservation_confirm _ hflying, rederivePercent, hobserved, hattribution,
    hpercent]
  -- the level is new, so all that counts is the attribution the echo found
  by_cases hfirst : before = []
  · by_cases hsame : r.state.fan.desired = some level
    · by_cases hdevice : r.state.fan.attribution = .device
      · simp [hfirst, hsame, hdevice, hnew, eq_comm]
      · simp [hfirst, hsame, hdevice]
    · simp [hfirst, hsame]
  · simp [hfirst, hnew, eq_comm]

end Percent

/-- **Round trip of a percent.** The unit is on and meant to be, the guard window is open and
the fan not in flight. A percent is written that makes a command pending, or whose level is
already observed; stale polls come in, what is pending is sent, stale polls come in again, and
a poll reports the unit on at the level of the percent. Then the exact percent is still shown
if and only if its level was observed already, or it is the percent its level stands for, or
no poll came in between the write and the send and the level was not desired already on the
device's account. -/
theorem percent_survives_iff (r : Reconciler) (now : Int) (hopen : WindowOpen r now)
    (hrunning : Running r) (hidle : r.state.fan.inFlight = none) (percent : UInt8)
    (hsend : (∃ c, (r.applyIntent now (.setPercentSetting (some percent))).1.pendingCommand =
        some c ∧ s21FanModeToSpeedSetting c.fanMode = some (percentToSpeedLevel percent)) ∨
      some (percentToSpeedLevel percent) = r.state.fan.observed)
    (before after : List Poll) (report : Poll)
    (hbefore : Lib.Along pollStep StalePoll
      (r.applyIntent now (.setPercentSetting (some percent))).1 before)
    (hafter : Lib.Along pollStep StalePoll
      (Lib.run pollStep (r.applyIntent now (.setPercentSetting (some percent))).1
        before).sendPending after)
    (hreport : report.obs.onOff = true ∧
      s21FanModeToSpeedSetting report.obs.fanMode = some (percentToSpeedLevel percent)) :
    let waited := Lib.run pollStep (r.applyIntent now (.setPercentSetting (some percent))).1 before
    let final := Lib.run pollStep waited.sendPending (after ++ [report])
    Projector.projectedPercentSetting final.state = some percent ↔
      some (percentToSpeedLevel percent) = r.state.fan.observed ∨
        percent = speedLevelToPercent (percentToSpeedLevel percent).toUInt8 ∨
        (before = [] ∧ ¬(r.state.fan.desired = some (percentToSpeedLevel percent) ∧
          r.state.fan.attribution = .device)) := by
  intro waited final
  obtain ⟨hwritten, hexact, hfan⟩ := percent_write hopen hrunning percent
  obtain ⟨hwaited, hexact₂, hlevel₂⟩ := run_stale_percent hwritten hbefore
  obtain ⟨hexact₃, hlevel₃⟩ := sendPending_percent waited
  obtain ⟨hlast, hexact₄, hlevel₄⟩ := run_stale_percent hwaited.sendPending hafter
  have hpercent : (Lib.run pollStep waited.sendPending after).state.fanPercentSetting =
      some percent := hexact₄.trans (hexact₃.trans (hexact₂.trans hexact))
  have hlevel : (Lib.run pollStep waited.sendPending after).state.fan.observed =
      r.state.fan.observed := by
    rw [hlevel₄, hlevel₃, hlevel₂, hfan, TwinField.setDesired_observed]
  have hfinal : final = pollStep (Lib.run pollStep waited.sendPending after) report :=
    Lib.run_concat _ _ _ _
  rw [hfinal, (hlast.poll hreport.1).projectedPercentSetting]
  by_cases hnew : some (percentToSpeedLevel percent) = r.state.fan.observed
  · have hkept := (percent_kept (hreport.2.trans (hnew.trans hlevel.symm))).1
    exact iff_of_true (hkept.trans hpercent) (.inl hnew)
  · obtain ⟨c, hpend, -⟩ := hsend.resolve_right hnew
    have hsent : waited.sendPending = waited.onCommandSent c := by
      rw [sendPending, run_stale_pendingCommand hbefore, hpend]
    rw [percent_roundTrip hidle hnew hfan hbefore (by rw [hsent, sent_fan]) hafter hpercent
      hreport.2]
    exact (or_iff_right hnew).symm

/-- The unit found cooling at high fan, asked for 40 percent. -/
def calmerRequested : Reconciler :=
  (coolingPolled.applyIntent 3000 (.setPercentSetting (some 40))).1

def calmerPoll : Poll := ⟨3200, { coolingObservation with fanMode := .midLow }⟩

/-- A poll after the send only. -/
theorem calmerRequested_survives :
    let final := Lib.run pollStep calmerRequested.sendPending [unchangedPoll, calmerPoll]
    Projector.projectedPercentSetting final.state = some 40 :=
  (percent_survives_iff coolingPolled 3000 windowOpen_coolingPolled ⟨by decide, by decide⟩
    (by decide) 40 (.inl ⟨⟨true, .cool, 2400, .midLow⟩, by decide +kernel, by decide⟩) []
    [unchangedPoll] calmerPoll trivial ⟨by decide +kernel, trivial⟩ ⟨by decide, by decide⟩).mpr
    (.inr (.inr ⟨rfl, by decide⟩))

/-- A poll before the send: the exact percent is lost to the one its level stands for. -/
theorem polled_before_send_rounds :
    let waited := Lib.run pollStep calmerRequested [unchangedPoll]
    let final := Lib.run pollStep waited.sendPending [calmerPoll]
    Reachable coolingPolled ∧ WindowOpen coolingPolled 3000 ∧ Running coolingPolled ∧
      coolingPolled.state.fan.inFlight = none ∧
      calmerRequested.pendingCommand = some ⟨true, .cool, 2400, .midLow⟩ ∧
      StalePoll calmerRequested unchangedPoll ∧ calmerPoll.obs.onOff = true ∧
      s21FanModeToSpeedSetting calmerPoll.obs.fanMode = some (percentToSpeedLevel 40) ∧
      Projector.projectedPercentSetting final.state = some 50 := by
  intro waited final
  have hreach : Reachable coolingPolled := ⟨_, _, _, rfl⟩
  exact ⟨hreach, windowOpen_coolingPolled, ⟨by decide, by decide⟩, by decide, by decide +kernel,
    by decide +kernel, by decide, by decide, by decide +kernel⟩

end Reconciler

end DaikinBridge.Sync
