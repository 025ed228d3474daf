import DaikinBridge.Bridge.CommandPump
import DaikinBridge.Bridge.Installation
import DaikinBridge.Bridge.Reporting

/-!
# DaikinBridge.Bridge.Coordinated

The threads and the unit.

`Bridge.Coordinator` has the threads, and its observations are any. `Bridge.System` has the unit,
and takes what happens to the kernel as steps of one machine. Here the coordinator is put next to a
unit whose state the polls report, over a link that fails as in `Bridge.Retries`, and shown to
refine the system: what the threads do outside the lock is nothing to it (`refines`). As no
command is forgotten, nothing has to be said of what is pending: once the pump has come to rest
after a poll, the unit does what is desired (`rest_agrees`), and once the reports have been read,
that is what the subscriber holds (`rest_shows`).
-/

namespace DaikinBridge.Bridge

open S21 Sync
open Installation (coolingUnit)

/-- The event neither takes anything in nor reports a send. -/
def CoordinatorEvent.Quiet {T : Type} : CoordinatorEvent T → Prop
  | .intent _ _ _ => False
  | .operational _ _ => False
  | .commandFinish _ => False
  | _ => True

/-- What is read is what the unit does. The fan shows as off while the unit is, and a setpoint
shows in the modes that have one. -/
structure Shows (cfg : ProjectorConfig) (read : ClusterId × AttributeId → Option Encoded)
    (unit : S21OperationCommand) : Prop where
  onOff : read (toMatterAddress .onOff) = some (.bool unit.onOff)
  systemMode : read (toMatterAddress .systemMode) = some (.systemMode
    (toMatterSystemMode unit.onOff (s21OperatingModeToOperationalMode unit.operatingMode)))
  speedSetting : read (toMatterAddress .speedSetting) = some (.nullableUInt8
    (if unit.onOff then (s21FanModeToSpeedSetting unit.fanMode).map FanLevel.toUInt8 else some 0))
  fanMode : read (toMatterAddress .fanMode) = some (.fanMode (toMatterFanMode
    (if unit.onOff then fanModeOf (s21FanModeToSpeedSetting unit.fanMode) else .off)))
  heat : s21OperatingModeToOperationalMode unit.operatingMode = .heat →
    read (toMatterAddress .occupiedHeatingSetpoint) = some (.int16 unit.setpointCelsius)
  cool : s21OperatingModeToOperationalMode unit.operatingMode = .cool →
    read (toMatterAddress .occupiedCoolingSetpoint) = some (.int16 unit.setpointCelsius)
  auto : s21OperatingModeToOperationalMode unit.operatingMode = .auto →
    read (toMatterAddress .occupiedHeatingSetpoint) = some (.int16
        (Int16.ofInt (unit.setpointCelsius.toInt - cfg.autoBandHalfWidthCentiC.toInt))) ∧
      read (toMatterAddress .occupiedCoolingSetpoint) = some (.int16
        (Int16.ofInt (unit.setpointCelsius.toInt + cfg.autoBandHalfWidthCentiC.toInt)))

/-- A twin that has taken a value in, and desires it, shows it. -/
theorem projectedValue_of_takenIn {α : Type} {t : TwinField α} {v : α} (h : TakenIn t v)
    (hdesired : v = t.desired) : projectedValue t = v := by
  simp [projectedValue, h.1, hdesired]

/-- When the polls have been taken in and the unit does what is desired, it is what shows. -/
theorem shows_of_agrees {r : Reconciler} {unit : S21OperationCommand}
    (hpolled : Polled ⟨r, unit, none⟩) (hagrees : DeviceAgrees ⟨r, unit, none⟩) :
    Shows r.config.projector r.readAttribute unit := by
  obtain ⟨hon, hmode, hfan, hsetpoint⟩ := hagrees
  have hon : projectedValue r.state.onOff = unit.onOff :=
    projectedValue_of_takenIn hpolled.onOff hon
  have hfan : projectedValue r.state.fan = s21FanModeToSpeedSetting unit.fanMode :=
    projectedValue_of_takenIn hpolled.fan hfan
  have hmode : projectedValue r.state.mode = s21OperatingModeToOperationalMode unit.operatingMode :=
    projectedValue_of_takenIn hpolled.mode hmode
  have hsp : ∀ n : OperationalMode, n.bearsSetpoint = true →
      s21OperatingModeToOperationalMode unit.operatingMode = n →
      projectedValue (r.state.activeSetpoint n) = unit.setpointCelsius := by
    rintro n hn rfl
    exact projectedValue_of_takenIn (hpolled.setpoint hn) (hsetpoint hn)
  -- every read is of an attribute, and encodes its projection
  refine ⟨?_, ?_, ?_, ?_, fun hn => ?_, fun hn => ?_, fun hn => ⟨?_, ?_⟩⟩ <;>
    rw [Reconciler.readAttribute_toMatterAddress]
  · show some (Encoded.bool (projectedValue r.state.onOff)) = _
    rw [hon]
  · show some (Encoded.systemMode (toMatterSystemMode (projectedValue r.state.onOff)
      (projectedValue r.state.mode))) = _
    rw [hon, hmode]
  · show some (Encoded.nullableUInt8 (Projector.projectedSpeedSetting r.state)) = _
    rw [Projector.projectedSpeedSetting, Projector.projectedOnOff, hon, hfan]
    cases unit.onOff <;> rfl
  · show some (Encoded.fanMode (toMatterFanMode (Projector.projectedFanMode r.state))) = _
    rw [Projector.projectedFanMode, Projector.projectedOnOff, hon, hfan]
    cases unit.onOff <;> rfl
  · show some (Encoded.int16
      (Projector.projectedOccupiedHeatingSetpoint r.config.projector r.state)) = _
    rw [Projector.projectedOccupiedHeatingSetpoint, hmode, hn, if_neg (by decide)]
    exact congrArg (some ∘ Encoded.int16) (hsp .heat rfl hn)
  · show some (Encoded.int16
      (Projector.projectedOccupiedCoolingSetpoint r.config.projector r.state)) = _
    rw [Projector.projectedOccupiedCoolingSetpoint, hmode, hn, if_neg (by decide)]
    exact congrArg (some ∘ Encoded.int16) (hsp .cool rfl hn)
  · show some (Encoded.int16
      (Projector.projectedOccupiedHeatingSetpoint r.config.projector r.state)) = _
    have hcentre : projectedValue r.state.autoSetpoint = unit.setpointCelsius := hsp .auto rfl hn
    rw [Projector.projectedOccupiedHeatingSetpoint, hmode, hn, if_pos rfl, hcentre]
  · show some (Encoded.int16
      (Projector.projectedOccupiedCoolingSetpoint r.config.projector r.state)) = _
    have hcentre : projectedValue r.state.autoSetpoint = unit.setpointCelsius := hsp .auto rfl hn
    rw [Projector.projectedOccupiedCoolingSetpoint, hmode, hn, if_pos rfl, hcentre]

/-- The coordinator, with all its threads, and the unit. -/
structure Coordinated (T : Type) where
  bridge : Coordinator T
  unit : S21OperationCommand

/-- With the threads done and no command work scheduled, the pump is not due. -/
theorem Coordinator.Idle.not_due {T : Type} {s : Coordinator T} (h : s.Idle)
    (hwork : s.commandWork = false) : ¬ s.PumpDue := by
  rintro (hdue | ⟨w, hmem⟩)
  · rw [hwork] at hdue
    cases hdue
  · rw [h.todo w] at hmem
    cases hmem

namespace Coordinated

variable {T : Type}

/-- What the unit does after an event. It carries out what it acknowledges; the flag says whether
it carries out a command that it does not. -/
def unitAfter (s : Coordinated T) (e : CoordinatorEvent T × Bool) : S21OperationCommand :=
  match e.1, s.bridge.sending with
  | .commandFinish acknowledged, some c => if acknowledged || e.2 then c else s.unit
  | _, _ => s.unit

/-- What the system sees of an event. -/
def traffic (e : CoordinatorEvent T × Bool) : List TrafficLabel :=
  match e.1 with
  | .intent _ now i => [.bridge (.intent now i)]
  | .operational now obs => [.bridge (.poll now obs.refrigerantValveOpen)]
  | .commandStart => [.bridge .pumpStart]
  | .commandFinish true => [.bridge .pumpFinish]
  | .commandFinish false => [.pumpFail e.2]
  | _ => []

/-- A poll reports what the unit does. -/
def Regular (s : Coordinated T) (e : CoordinatorEvent T × Bool) : Prop :=
  match e.1 with
  | .operational _ obs => obs = reportOf s.unit obs.refrigerantValveOpen
  | _ => True

theorem regular_of_quiet {s : Coordinated T} {e : CoordinatorEvent T × Bool} (h : e.1.Quiet) :
    s.Regular e := by
  obtain ⟨event, carriedOut⟩ := e
  cases event with
  | operational now obs => exact h.elim
  | _ => trivial

/-- A finishing send finds its command still wanted, and a command whose answer gets lost will
not look like a stale poll. -/
def SendsLand (s : Coordinated T) (e : CoordinatorEvent T × Bool) : Prop :=
  match e.1 with
  | .commandFinish true => ∀ c ∈ s.bridge.sending, CommandStillWanted s.bridge.kernel.state c
  | .commandFinish false =>
      e.2 = true → ∀ c ∈ s.bridge.sending, CommandLands s.bridge.kernel.state c
  | _ => True

/-- The system that the coordinator and the unit are an instance of. -/
structure Tracks (s : Coordinated T) (sys : System) : Prop where
  kernel : s.bridge.kernel.operationalPart = sys.kernel.operationalPart
  device : sys.device = s.unit
  pumping : sys.pumping = s.bridge.sending

/-- A bridge that boots, and a unit in any state. -/
def boot (config : ReconcilerConfig) (d : LogicalACStateDefaults) (unit : S21OperationCommand) :
    Coordinated T :=
  ⟨.start config d, unit⟩

variable [DecidableEq T]

/-- A step of the coordinator, and what it means to the unit. -/
def step (s : Coordinated T) (e : CoordinatorEvent T × Bool) : Option (Coordinated T) :=
  (s.bridge.step e.1).map fun bridge => { bridge, unit := s.unitAfter e }

variable {s s' : Coordinated T} {e : CoordinatorEvent T × Bool} {sys : System}

/-! ### Refinement -/

theorem simulates_step (hregular : s.Regular e) (htracks : s.Tracks sys)
    (hstep : s.step e = some s') :
    ∃ sys', Lib.runGuarded linkStep sys (traffic e) = some sys' ∧ s'.Tracks sys' := by
  obtain ⟨event, carriedOut⟩ := e
  obtain ⟨hkernel, hdevice, hpumping⟩ := htracks
  obtain ⟨bridge, hbridge, rfl⟩ := Option.map_eq_some_iff.mp hstep
  cases Coordinator.steps_of_step hbridge with
  | intent now i hfree =>
      exact ⟨_, rfl, Reconciler.operationalPart_intent hkernel now i, hdevice, hpumping⟩
  | operational now obs hfree =>
      have hidle : sys.pumping = none := hpumping.trans hfree.2
      have hreport : obs = reportOf sys.device obs.refrigerantValveOpen := by
        rw [hdevice]
        exact hregular
      refine ⟨{ sys with kernel := (sys.kernel.applyOperationalObservation now
        (reportOf sys.device obs.refrigerantValveOpen)).1 }, ?_, ?_, hdevice, hpumping⟩
      · refine Lib.runGuarded_cons_eq_some.mpr ⟨_, ?_, rfl⟩
        simp only [linkStep, Bridge.step, hidle]
      · rw [← hreport]
        exact Reconciler.operationalPart_observation hkernel now obs
  | commandStart hfree hwork =>
      have hidle : sys.pumping = none := hpumping.trans hfree.2
      -- without a pending command, both stay idle
      refine ⟨{ sys with pumping := sys.kernel.pendingCommand }, ?_, hkernel, hdevice, ?_⟩
      · refine Lib.runGuarded_cons_eq_some.mpr ⟨_, ?_, rfl⟩
        simp only [linkStep, Bridge.step, hidle]
      · exact (congrArg Reconciler.pendingCommand hkernel).symm
  | @commandFinish c acknowledged hsending =>
      have hpump : sys.pumping = some c := hpumping.trans hsending
      have hunit : s.unitAfter (.commandFinish acknowledged, carriedOut) =
          if acknowledged || carriedOut then c else s.unit := by
        simp only [unitAfter, hsending]
      cases acknowledged with
      | true =>
          refine ⟨⟨sys.kernel.onCommandSent c, c, none⟩, ?_, ?_, hunit.symm, rfl⟩
          · refine Lib.runGuarded_cons_eq_some.mpr ⟨_, ?_, rfl⟩
            simp only [linkStep, Bridge.step, hpump]
          · exact Reconciler.operationalPart_sent hkernel c
      | false =>
          refine ⟨⟨sys.kernel.onCommandFailed, if carriedOut then c else sys.device, none⟩,
            ?_, ?_, ?_, rfl⟩
          · refine Lib.runGuarded_cons_eq_some.mpr ⟨_, ?_, rfl⟩
            simp only [linkStep, hpump]
          · exact Reconciler.operationalPart_failed hkernel
          · rw [hdevice]
            exact hunit.symm
  | @proceed w action rest htodo =>
      -- outside the lock, nothing that the system has is touched
      have hsame : (s.bridge.perform w rest action).kernel = s.bridge.kernel ∧
          (s.bridge.perform w rest action).sending = s.bridge.sending := by
        cases action <;> exact ⟨rfl, rfl⟩
      refine ⟨sys, rfl, ?_, hdevice, hpumping.trans hsame.2.symm⟩
      rw [hsame.1]
      exact hkernel
  | _ => exact ⟨sys, rfl, hkernel, hdevice, hpumping⟩

/-- **The coordinator with its threads refines the system**, whatever the threads do and
however their steps interleave. -/
theorem refines : Lib.Refines (step (T := T)) linkStep (fun _ => True) Regular Tracks
    fun _ => traffic where
  keeps _ _ _ _ _ _ := trivial
  simulates _ _ _ _ _ hregular htracks hstep := simulates_step hregular htracks hstep

omit [DecidableEq T] in
theorem tracks_boot (config : ReconcilerConfig) (d : LogicalACStateDefaults)
    (unit : S21OperationCommand) :
    (boot config d unit : Coordinated T).Tracks (start config d unit) :=
  ⟨rfl, rfl, rfl⟩

/-- **The threads are one machine.** Take any run from boot, with a unit in any state, any number
of controller threads and any interleaving of their steps with the work queue and the Matter event
loop, in which the polls report what the unit does. The system takes what the threads did under
the lock, in that order, and ends with the same unit and the same command being sent, and with the
same kernel up to the sensors and the state of the link. -/
theorem threads_linearize {config : ReconcilerConfig} {d : LogicalACStateDefaults}
    {unit : S21OperationCommand} {events : List (CoordinatorEvent T × Bool)}
    (hrun : Lib.runGuarded step (boot config d unit) events = some s)
    (hregular : Lib.AlongGuarded step Regular (boot config d unit) events) :
    ∃ sys, Lib.runGuarded linkStep (start config d unit) (events.flatMap traffic) = some sys ∧
      s.bridge.kernel.operationalPart = sys.kernel.operationalPart ∧
      sys.device = s.unit ∧ sys.pumping = s.bridge.sending := by
  obtain ⟨-, sys, hsys, htracks⟩ := refines.run trivial (tracks_boot config d unit) hregular hrun
  rw [Lib.emitted_eq_flatMap hrun] at hsys
  exact ⟨sys, hsys, htracks.kernel, htracks.device, htracks.pumping⟩

/-- The unit of `offInAuto` once it has carried out what the controllers of `twoControllers` ask. -/
def highInAuto : S21OperationCommand := ⟨true, .auto, 2200, .high⟩

/-- Two controllers write while the unit is off, the second before the first has fired the pump.
The unit carries the command out, but its answer is lost. -/
def twoControllers : List (CoordinatorEvent Bool × Bool) :=
  [(.intent true 1 (.setSpeedSetting (some .high)), false),
    (.proceed (.controller true), false), (.intent false 2 (.setOnOff true), false),
    (.proceed (.controller true), false), (.proceed (.controller true), false),
    (.proceed (.controller false), false), (.proceed (.controller true), false),
    (.proceed (.controller true), false), (.commandStart, false), (.commandFinish false, true)]

/-- What comes after the poll: its report is queued, and one drain takes all there is. -/
def reportPoll : List (CoordinatorEvent Bool × Bool) :=
  [(.proceed .s21WorkQueue, false), (.drain, false), (.proceed .s21WorkQueue, false)] ++
    List.replicate 9 (.report, false) ++
    [.onOff, .systemMode, .speedSetting, .fanMode, .speedCurrent, .percentSetting, .percentCurrent,
      .setpointSource].map (fun a => (.lookUp (toMatterAddress a), false)) ++
    [(.drain, false)]

theorem reportPoll_quiet : ∀ e ∈ reportPoll, e.1.Quiet := by
  simp [reportPoll, CoordinatorEvent.Quiet]

theorem twoControllers_regular : Lib.AlongGuarded step Regular (boot {} {} offInAuto)
    (twoControllers ++ (.operational 3000 (reportOf highInAuto none), false) :: reportPoll) := by
  refine .cons trivial rfl <| .cons trivial rfl <| .cons trivial rfl <| .cons trivial rfl <|
    .cons trivial rfl <| .cons trivial rfl <| .cons trivial rfl <| .cons trivial rfl <|
    .cons trivial rfl <| .cons trivial rfl <| .cons ?_ rfl <|
    Lib.alongGuarded_of_forall fun e he t => regular_of_quiet (reportPoll_quiet e he)
  -- the poll
  show reportOf highInAuto none = reportOf _ _
  decide +kernel

/-- The run comes to rest. -/
theorem twoControllers_run :
    ∃ s, Lib.runGuarded step (boot {} {} offInAuto)
        (twoControllers ++ (.operational 3000 (reportOf highInAuto none), false) :: reportPoll) =
          some s ∧
      s.unit = highInAuto ∧ s.bridge.sending = none ∧ s.bridge.commandWork = false ∧
      s.bridge.Idle := by
  refine ⟨_, rfl, by decide +kernel, rfl, rfl, ?_, rfl, rfl, by decide +kernel⟩
  rintro (_ | _ | _) <;> rfl

theorem threads_linearize_of_twoControllers :
    ∃ s sys, Lib.runGuarded step (boot {} {} offInAuto)
        (twoControllers ++ (.operational 3000 (reportOf highInAuto none), false) :: reportPoll) =
          some s ∧
      Lib.runGuarded linkStep (start {} {} offInAuto)
        [.bridge (.intent 1 (.setSpeedSetting (some .high))), .bridge (.intent 2 (.setOnOff true)),
          .bridge .pumpStart, .pumpFail true, .bridge (.poll 3000 none)] = some sys ∧
      sys.device = s.unit ∧ s.unit = highInAuto := by
  obtain ⟨s, hrun, hunit, -⟩ := twoControllers_run
  obtain ⟨sys, hsys, -, hdevice, -⟩ := threads_linearize hrun twoControllers_regular
  exact ⟨s, sys, hrun, hsys, hdevice, hunit⟩

omit [DecidableEq T] in
/-- The conditions on a send are those of the system. -/
theorem sendsLand_traffic (htracks : s.Tracks sys) (h : s.SendsLand e) :
    Lib.AlongGuarded linkStep Bridge.SendsLand sys (traffic e) := by
  obtain ⟨event, carriedOut⟩ := e
  cases event with
  | commandFinish acknowledged =>
      cases acknowledged with
      | true =>
          refine ⟨fun c hc => ?_, fun _ _ => trivial⟩
          rw [htracks.pumping] at hc
          exact Installation.commandStillWanted_congr htracks.kernel (h c hc)
      | false =>
          refine ⟨fun hcarried c hc => ?_, fun _ _ => trivial⟩
          rw [htracks.pumping] at hc
          exact Installation.commandLands_congr htracks.kernel (h hcarried c hc)
  | intent t now i => exact ⟨trivial, fun _ _ => trivial⟩
  | operational now obs => exact ⟨trivial, fun _ _ => trivial⟩
  | commandStart => exact ⟨trivial, fun _ _ => trivial⟩
  | _ => trivial

/-! ### At rest -/

/-- The run of the coordinator. -/
theorem bridge_run {events : List (CoordinatorEvent T × Bool)}
    (hrun : Lib.runGuarded step s events = some s') :
    Lib.runGuarded Coordinator.step s.bridge (events.map Prod.fst) = some s'.bridge := by
  induction events generalizing s with
  | nil =>
      obtain rfl : s = s' := by simpa using hrun
      rfl
  | cons e events ih =>
      obtain ⟨mid, hstep, hrest⟩ := Lib.runGuarded_cons_eq_some.mp hrun
      obtain ⟨bridge, hbridge, rfl⟩ := Option.map_eq_some_iff.mp hstep
      exact Lib.runGuarded_cons_eq_some.mpr ⟨bridge, hbridge, ih hrest⟩

/-- A quiet event changes neither what the commands are made of nor the unit. -/
theorem quiet_step (hquiet : e.1.Quiet) (hstep : s.step e = some s') :
    s'.bridge.kernel.operationalPart = s.bridge.kernel.operationalPart ∧ s'.unit = s.unit := by
  obtain ⟨event, carriedOut⟩ := e
  obtain ⟨bridge, hbridge, rfl⟩ := Option.map_eq_some_iff.mp hstep
  cases Coordinator.steps_of_step hbridge with
  | intent now i hfree => exact hquiet.elim
  | operational now obs hfree => exact hquiet.elim
  | commandFinish acknowledged hsending => exact hquiet.elim
  | @proceed w action rest htodo =>
      refine ⟨?_, rfl⟩
      cases action <;> rfl
  | _ => exact ⟨rfl, rfl⟩

theorem quiet_run {events : List (CoordinatorEvent T × Bool)} (hquiet : ∀ e ∈ events, e.1.Quiet)
    (hrun : Lib.runGuarded step s events = some s') :
    s'.bridge.kernel.operationalPart = s.bridge.kernel.operationalPart ∧ s'.unit = s.unit :=
  Lib.runGuarded_invariant
    (I := fun t => t.bridge.kernel.operationalPart = s.bridge.kernel.operationalPart ∧
      t.unit = s.unit)
    (fun _ _ _ h hquiet hstep =>
      have hsame := quiet_step hquiet hstep
      ⟨hsame.1.trans h.1, hsame.2.trans h.2⟩)
    ⟨rfl, rfl⟩ (Lib.alongGuarded_of_forall fun e he _ => hquiet e he) hrun

omit [DecidableEq T] in
/-- With only quiet events since an observation, no report of a send comes last. -/
theorem not_reportedLast {events after : List (CoordinatorEvent T)} {e : CoordinatorEvent T}
    (htaken : e.TakesIn) (hquiet : ∀ e' ∈ after, e'.Quiet) :
    ¬ Coordinator.ReportedLast (events ++ e :: after) := by
  rintro ⟨before, acknowledged, since, heq, hsince⟩
  -- the report comes after the observation, or before it
  rcases List.append_eq_append_iff.mp heq with ⟨mid, -, hmid⟩ | ⟨mid, -, hmid⟩
  · cases mid with
    | nil =>
        obtain rfl := (List.cons.inj hmid).1
        exact htaken
    | cons e' mid =>
        obtain rfl := (List.cons.inj hmid).2
        exact hquiet (.commandFinish acknowledged) (by simp)
  · cases mid with
    | nil =>
        obtain rfl := (List.cons.inj hmid).1
        exact htaken
    | cons e' mid =>
        obtain rfl := (List.cons.inj hmid).2
        exact hsince e (by simp) htaken

/-- What polls have taken in is in the operational part. -/
theorem polled_congr {r t : Reconciler} (h : r.operationalPart = t.operationalPart)
    {unit : S21OperationCommand} (hpolled : Polled ⟨t, unit, none⟩) : Polled ⟨r, unit, none⟩ := by
  have hpart : Polled ⟨t.operationalPart, unit, none⟩ :=
    ⟨hpolled.onOff, hpolled.mode, hpolled.fan, hpolled.setpoint, hpolled.remembered⟩
  rw [← h] at hpart
  exact ⟨hpart.onOff, hpart.mode, hpart.fan, hpart.setpoint, hpart.remembered⟩

section Rest

variable {config : ReconcilerConfig} {d : LogicalACStateDefaults} {unit : S21OperationCommand}
  {events after : List (CoordinatorEvent T × Bool)} {now : Int} {obs : S21OperationalObservation}
  {carriedOut : Bool}

/-- With only quiet events since a poll, the pump idle and not due, nothing is pending. -/
theorem rest_pending (hrun : Lib.runGuarded step (boot config d unit)
      (events ++ (.operational now obs, carriedOut) :: after) = some s)
    (hquiet : ∀ e ∈ after, e.1.Quiet) (hsending : s.bridge.sending = none)
    (hdue : ¬ s.bridge.PumpDue) : s.bridge.kernel.pendingCommand = none := by
  by_contra hpending
  have hbridge := bridge_run hrun
  rw [List.map_append, List.map_cons] at hbridge
  rcases (Coordinator.notForgotten_run hbridge).2 hpending with hdue' | hsending' | hlast
  · exact hdue hdue'
  · exact hsending' hsending
  · have htaken : (CoordinatorEvent.operational (T := T) now obs).TakesIn := trivial
    exact not_reportedLast htaken (List.forall_mem_map.mpr hquiet) hlast

/-- The twins that the last poll concerns have taken in what the unit does. -/
theorem rest_polled (hrun : Lib.runGuarded step (boot config d unit)
      (events ++ (.operational now obs, carriedOut) :: after) = some s)
    (hregular : Lib.AlongGuarded step Regular (boot config d unit)
      (events ++ (.operational now obs, carriedOut) :: after))
    (hlands : Lib.AlongGuarded step SendsLand (boot config d unit) events)
    (hquiet : ∀ e ∈ after, e.1.Quiet) : Polled ⟨s.bridge.kernel, s.unit, none⟩ := by
  rw [List.append_cons] at hrun hregular
  obtain ⟨polled, hpolled, hafter⟩ := Lib.runGuarded_append_eq_some.mp hrun
  obtain ⟨hkernel, hunit⟩ := quiet_run hquiet hafter
  -- the run up to the poll, as the system sees it
  have hboot : (boot config d unit : Coordinated T).Tracks (start config d unit) :=
    tracks_boot config d unit
  obtain ⟨-, sys, hsys, htracks⟩ := refines.run trivial hboot hregular.left hpolled
  have hsends := refines.along (D := SendsLand) (E := Bridge.SendsLand)
    (fun _ _ _ _ _ htracks h => sendsLand_traffic htracks h) trivial hboot
    hregular.left.left hlands
  obtain ⟨before, hbefore, -⟩ := Lib.runGuarded_append_eq_some.mp hpolled
  rw [Lib.emitted_concat hbefore] at hsys
  obtain ⟨hidle, htaken⟩ := polled_despite_failures hsys hsends
  rw [hunit, ← htracks.device]
  refine polled_congr (hkernel.trans htracks.kernel) ?_
  rw [← hidle]
  exact htaken

/-- **At rest the unit does what is desired.** Take any run from boot, with a unit in any state,
any number of controller threads and any interleaving of their steps with the work queue and the
Matter event loop, and any commands and answers lost, in which the polls report what the unit does
and every send lands. If since the last poll nothing has been taken in and no send reported, and
the pump neither sends nor is due, then nothing is pending, and the unit does what is desired. -/
theorem rest_agrees (hrun : Lib.runGuarded step (boot config d unit)
      (events ++ (.operational now obs, carriedOut) :: after) = some s)
    (hregular : Lib.AlongGuarded step Regular (boot config d unit)
      (events ++ (.operational now obs, carriedOut) :: after))
    (hlands : Lib.AlongGuarded step SendsLand (boot config d unit) events)
    (hquiet : ∀ e ∈ after, e.1.Quiet) (hsending : s.bridge.sending = none)
    (hdue : ¬ s.bridge.PumpDue) :
    s.bridge.kernel.pendingCommand = none ∧ DeviceAgrees ⟨s.bridge.kernel, s.unit, none⟩ := by
  have hnone := rest_pending hrun hquiet hsending hdue
  exact ⟨hnone, (rest_polled hrun hregular hlands hquiet).agrees hnone⟩

theorem twoControllers_lands : Lib.AlongGuarded step SendsLand (boot {} {} offInAuto)
    twoControllers := by
  refine .cons trivial rfl <| .cons trivial rfl <| .cons trivial rfl <| .cons trivial rfl <|
    .cons trivial rfl <| .cons trivial rfl <| .cons trivial rfl <| .cons trivial rfl <|
    .cons trivial rfl <| .cons ?_ rfl trivial
  rintro - c -
  exact ⟨landsOn_of_landed rfl _, landsOn_of_landed rfl _, landsOn_of_landed rfl _, fun _ => by
    cases s21OperatingModeToOperationalMode c.operatingMode <;> exact landsOn_of_landed rfl _⟩

theorem rest_agrees_of_twoControllers :
    ∃ s, Lib.runGuarded step (boot {} {} offInAuto)
        (twoControllers ++ (.operational 3000 (reportOf highInAuto none), false) :: reportPoll) =
          some s ∧
      s.unit = highInAuto ∧ DeviceAgrees ⟨s.bridge.kernel, s.unit, none⟩ := by
  obtain ⟨s, hrun, hunit, hsending, hwork, hidle⟩ := twoControllers_run
  exact ⟨s, hrun, hunit, (rest_agrees hrun twoControllers_regular twoControllers_lands
    reportPoll_quiet hsending (hidle.not_due hwork)).2⟩

/-- **At rest the subscriber holds what the unit does.** In such a run, let no send change anything
that shows. Once the threads, the drains and the reads have caught up as well, the subscriber's
copy of power, system mode, fan and setpoint is what the unit does.

As in `Coordinator.subscriber_exact`, the condition shuts out most ordinary acknowledged sends,
which put a new value in flight and so show the observed one again. It leaves those whose answer
is lost, and those that are no news to the unit. -/
theorem rest_shows (hrun : Lib.runGuarded step (boot config d unit)
      (events ++ (.operational now obs, carriedOut) :: after) = some s)
    (hregular : Lib.AlongGuarded step Regular (boot config d unit)
      (events ++ (.operational now obs, carriedOut) :: after))
    (hlands : Lib.AlongGuarded step SendsLand (boot config d unit) events)
    (hsilent : Lib.AlongGuarded Coordinator.step Coordinator.SendShowsNothing (.start config d)
      ((events ++ (.operational now obs, carriedOut) :: after).map Prod.fst))
    (hquiet : ∀ e ∈ after, e.1.Quiet) (hsending : s.bridge.sending = none)
    (hwork : s.bridge.commandWork = false) (hidle : s.bridge.Idle) :
    Shows s.bridge.kernel.config.projector s.bridge.mirror s.unit := by
  obtain ⟨hexact, hdrain⟩ := Coordinator.board_exact (bridge_run hrun) hsilent
  have hnone := rest_pending hrun hquiet hsending (hidle.not_due hwork)
  have hpolled := rest_polled hrun hregular hlands hquiet
  rw [hidle.mirror_eq hexact hdrain]
  exact shows_of_agrees hpolled (hpolled.agrees hnone)

/-- A setpoint stored for later, next to a unit that cools. The command is acknowledged, and the
next poll finds the unit as it was. -/
def storedShadow : List (CoordinatorEvent Bool × Bool) :=
  Coordinator.storedShadow.map (·, false)

/-- One drain, and the reads it leads to. -/
def readStored : List (CoordinatorEvent Bool × Bool) :=
  Coordinator.readStored.map (·, false)

/-- The poll in between. -/
def confirmingPoll : CoordinatorEvent Bool × Bool :=
  (.operational 5000 (reportOf (coolingUnit .high) none), false)

theorem readStored_quiet : ∀ e ∈ readStored, e.1.Quiet := by
  simp [readStored, Coordinator.readStored, CoordinatorEvent.Quiet]

theorem storedShadow_regular : Lib.AlongGuarded step Regular (boot {} {} (coolingUnit .high))
    (storedShadow ++ confirmingPoll :: readStored) := by
  refine .cons rfl rfl <| .cons trivial rfl <| .cons trivial rfl <| .cons trivial rfl <|
    .cons trivial rfl <| .cons trivial rfl <| .cons trivial rfl <| .cons trivial rfl <|
    .cons trivial rfl <| .cons trivial rfl <| .cons trivial rfl <| .cons ?_ rfl <|
    Lib.alongGuarded_of_forall fun e he t => regular_of_quiet (readStored_quiet e he)
  show reportOf (coolingUnit .high) none = reportOf _ _
  decide +kernel

/-- The command is what is desired still when its acknowledgement arrives. -/
theorem storedShadow_lands : Lib.AlongGuarded step SendsLand (boot {} {} (coolingUnit .high))
    storedShadow := by
  refine .cons trivial rfl <| .cons trivial rfl <| .cons trivial rfl <| .cons trivial rfl <|
    .cons trivial rfl <| .cons trivial rfl <| .cons trivial rfl <| .cons trivial rfl <|
    .cons trivial rfl <| .cons trivial rfl <| .cons ?_ rfl trivial
  rintro c ⟨⟩
  decide +kernel

theorem storedShadow_silent :
    Lib.AlongGuarded Coordinator.step Coordinator.SendShowsNothing (.start {} {})
      ((storedShadow ++ confirmingPoll :: readStored).map Prod.fst) := by
  have hevents : (storedShadow ++ confirmingPoll :: readStored).map Prod.fst =
      Coordinator.storedShadow ++ confirmingPoll.1 :: Coordinator.readStored := by
    simp [storedShadow, readStored, Function.comp_def]
  rw [hevents]
  refine Coordinator.storedShadow_silent.append fun _ _ => Lib.alongGuarded_of_forall ?_
  simp [confirmingPoll, Coordinator.readStored, Coordinator.SendShowsNothing]

/-- The run comes to rest, the command sent and acknowledged. -/
theorem storedShadow_run :
    ∃ s, Lib.runGuarded step (boot {} {} (coolingUnit .high))
        (storedShadow ++ confirmingPoll :: readStored) = some s ∧
      s.bridge.transmissions = [(coolingUnit .high, true)] ∧ s.bridge.sending = none ∧
      s.bridge.commandWork = false ∧ s.bridge.Idle := by
  refine ⟨_, rfl, rfl, rfl, rfl, ?_, rfl, rfl, by decide +kernel⟩
  rintro (_ | _ | _) <;> rfl

/-- A run with a lost answer, and one with an acknowledged send. -/
theorem twoControllers_and_storedShadow_show :
    (∃ s, Lib.runGuarded step (boot {} {} offInAuto)
        (twoControllers ++ (.operational 3000 (reportOf highInAuto none), false) :: reportPoll) =
          some s ∧
      s.unit = highInAuto ∧ Shows s.bridge.kernel.config.projector s.bridge.mirror s.unit) ∧
    ∃ s, Lib.runGuarded step (boot {} {} (coolingUnit .high))
        (storedShadow ++ confirmingPoll :: readStored) = some s ∧
      s.bridge.transmissions = [(coolingUnit .high, true)] ∧
      Shows s.bridge.kernel.config.projector s.bridge.mirror s.unit := by
  constructor
  · obtain ⟨s, hrun, hunit, hsending, hwork, hidle⟩ := twoControllers_run
    have hsilent : Lib.AlongGuarded Coordinator.step Coordinator.SendShowsNothing (.start {} {})
        ((twoControllers ++ (.operational 3000 (reportOf highInAuto none), false) ::
          reportPoll).map Prod.fst) :=
      Lib.alongGuarded_of_forall (by
        simp [twoControllers, reportPoll, Coordinator.SendShowsNothing])
    exact ⟨s, hrun, hunit, rest_shows hrun twoControllers_regular twoControllers_lands hsilent
      reportPoll_quiet hsending hwork hidle⟩
  · obtain ⟨s, hrun, hsent, hsending, hwork, hidle⟩ := storedShadow_run
    exact ⟨s, hrun, hsent, rest_shows hrun storedShadow_regular storedShadow_lands
      storedShadow_silent readStored_quiet hsending hwork hidle⟩

end Rest

end Coordinated

end DaikinBridge.Bridge
