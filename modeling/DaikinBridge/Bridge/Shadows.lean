import DaikinBridge.Bridge.System

/-!
# DaikinBridge.Bridge.Shadows

Setpoint shadows under mode, power and fan traffic.

Each of Heat, Cool and Auto has a setpoint twin of its own, and only the one of the
device's mode is backed by the device; the others are shadows that the bridge keeps for
the next change of mode. An observation overwrites the desired value of a twin that is
not in flight, so what protects a shadow is that the device never shows a setpoint in a
mode other than the one it was sent for.

The machine is the one of `System`, with sends that are reported failed, whether or not
the device carried them out, and without setpoint writes. Up to the first contact, a poll
or a successful send, the twins are as booted (`AsBooted`); from then on the device's
setpoint is the desired one of its mode (`DeviceBacks`), and no step moves a desired
setpoint (`setpoint_shadows_survive`).
-/

namespace DaikinBridge.Bridge

open S21 Sync

/-- The steps of the bridge, and the end of a send that is reported failed. -/
inductive TrafficLabel
  | bridge (l : Label)
  | pumpFail (applied : Bool)
  deriving DecidableEq, Repr

/-- Does the step write a setpoint? -/
def Label.writesSetpoint : Label → Bool
  | .intent _ i => Reconciler.isSetpointEdge i
  | _ => false

/-- One step of mode, power and fan traffic; setpoint writes are ruled out. A failed send
leaves the device as it was or, when only the answer got lost, as commanded. -/
def trafficStep (sys : System) : TrafficLabel → Option System
  | .bridge l => if l.writesSetpoint then none else step sys l
  | .pumpFail applied =>
      match sys.pumping with
      | some c => some
          { kernel := sys.kernel.onCommandFailed
            device := if applied then c else sys.device
            pumping := none }
      | none => none

/-- Polls and successful sends bring the bridge in contact with the device. -/
def TrafficLabel.contact : TrafficLabel → Bool
  | .bridge (.poll _ _) => true
  | .bridge .pumpFinish => true
  | _ => false

/-! ### Desired setpoints -/

/-- The setpoint desired in each mode. -/
def desiredSetpoint (sys : System) (m : OperationalMode) : Int16 :=
  (sys.kernel.state.activeSetpoint m).desired

/-- Nothing is in flight for a setpoint twin but what it desires. -/
def FlightDesired (sys : System) : Prop :=
  ∀ n : OperationalMode, n.bearsSetpoint = true →
    ∀ sent, (sys.kernel.state.activeSetpoint n).inFlight = some sent → sent = desiredSetpoint sys n

/-- The command the pump has taken carries the desired setpoint of its mode. -/
def PumpCarries (sys : System) : Prop :=
  ∀ c, sys.pumping = some c →
    c.setpointCelsius = desiredSetpoint sys (s21OperatingModeToOperationalMode c.operatingMode)

/-- Up to the first contact. -/
structure AsBooted (sys : System) : Prop where
  setpoint : ∀ n : OperationalMode, n.bearsSetpoint = true →
    (sys.kernel.state.activeSetpoint n).inFlight = none ∧
      (sys.kernel.state.activeSetpoint n).observed = desiredSetpoint sys n
  pump : PumpCarries sys

/-- From the first contact on: the device backs the shadow of its mode. -/
structure DeviceBacks (sys : System) : Prop where
  device : (s21OperatingModeToOperationalMode sys.device.operatingMode).bearsSetpoint = true →
    sys.device.setpointCelsius =
      desiredSetpoint sys (s21OperatingModeToOperationalMode sys.device.operatingMode)
  flight : FlightDesired sys
  pump : PumpCarries sys

theorem AsBooted.flight {sys : System} (h : AsBooted sys) : FlightDesired sys := by
  intro n hn sent hsent
  rw [(h.setpoint n hn).1] at hsent
  cases hsent

theorem desiredSetpoint_setpointMode (sys : System) (m : OperationalMode) :
    desiredSetpoint sys m.setpointMode = desiredSetpoint sys m := by
  unfold desiredSetpoint
  rw [LogicalACState.activeSetpoint_setpointMode]

/-- Desired setpoints agree when those of the modes with a twin of their own do. -/
theorem desiredSetpoint_congr {sys sys' : System}
    (h : ∀ n : OperationalMode, n.bearsSetpoint = true →
      desiredSetpoint sys' n = desiredSetpoint sys n) :
    desiredSetpoint sys' = desiredSetpoint sys := by
  funext m
  rw [← desiredSetpoint_setpointMode sys', ← desiredSetpoint_setpointMode sys]
  exact h _ m.bearsSetpoint_setpointMode

/-! ### One step -/

/-- The setpoint twins are untouched. -/
def SameSetpoints (s s' : LogicalACState) : Prop :=
  ∀ n, s'.activeSetpoint n = s.activeSetpoint n

theorem powerOnForFanWrite_sameSetpoints (r : Reconciler) (now : Int) :
    SameSetpoints r.state (r.powerOnForFanWrite now) := by
  intro n
  unfold Reconciler.powerOnForFanWrite
  split
  · rfl
  · split
    · cases n <;> rfl
    · rfl

theorem writeFan_sameSetpoints (r : Reconciler) (now : Int) (fan : FanSpeed)
    (percent : Option UInt8) : SameSetpoints r.state (r.writeFan now fan percent) := by
  intro n
  unfold Reconciler.writeFan
  split
  · rw [← powerOnForFanWrite_sameSetpoints r now n]
    cases n <;> rfl
  · rfl

/-- Power, mode and fan intents leave the setpoint twins alone. -/
theorem apply_sameSetpoints (r : Reconciler) (now : Int) {i : WriteIntent}
    (hi : Reconciler.isSetpointEdge i = false) :
    SameSetpoints r.state (r.apply now i).state := by
  cases i with
  | setOnOff value =>
      intro n
      simp only [Reconciler.apply, Reconciler.applySetOnOff]
      split
      · cases n <;> rfl
      · rfl
  | setSystemMode power mode =>
      intro n
      simp only [Reconciler.apply, Reconciler.applySetSystemMode]
      split <;> split <;> cases n <;> rfl
  | setOccupiedHeatingSetpoint value => cases hi
  | setOccupiedCoolingSetpoint value => cases hi
  | setSpeedSetting value => exact writeFan_sameSetpoints r now value _
  | setPercentSetting value =>
      cases value with
      | none => exact fun _ => rfl
      | some percent => exact writeFan_sameSetpoints r now _ _

/-- The pending command carries the desired setpoint of its mode. -/
theorem pumpCarries_pending (sys : System) :
    PumpCarries { sys with pumping := sys.kernel.pendingCommand } := by
  intro c hc
  obtain ⟨-, hcmd, -⟩ := Reconciler.pendingCommand_eq_some_iff.mp hc
  subst hcmd
  rw [Reconciler.desiredCommand_setpoint]
  show _ = (sys.kernel.state.activeSetpoint
    (s21OperatingModeToOperationalMode (operationalModeToS21OperatingMode _))).desired
  rw [s21OperatingMode_roundtrip]

/-- A send moves no desired setpoint. -/
theorem desiredSetpoint_sent (sys : System) (c device : S21OperationCommand)
    (pumping : Option S21OperationCommand) :
    desiredSetpoint ⟨sys.kernel.onCommandSent c, device, pumping⟩ = desiredSetpoint sys := by
  refine desiredSetpoint_congr fun n hn => ?_
  show ((sys.kernel.onCommandSent c).state.activeSetpoint n).desired = _
  rw [Reconciler.sent_activeSetpoint _ _ hn]
  split <;> rfl

/-- A successful send puts the device behind the shadow of the mode sent. -/
theorem deviceBacks_sent {sys : System} (hflight : FlightDesired sys) (hpump : PumpCarries sys)
    {c : S21OperationCommand} (hc : sys.pumping = some c) :
    DeviceBacks ⟨sys.kernel.onCommandSent c, c, none⟩ where
  device := by
    intro _
    rw [desiredSetpoint_sent]
    exact hpump c hc
  flight := by
    intro n hn sent hsent
    rw [desiredSetpoint_sent]
    simp only [Reconciler.sent_activeSetpoint _ _ hn] at hsent
    split at hsent
    · exact (Option.some.inj hsent).symm
    · exact hflight n hn sent hsent
  pump := fun _ h => nomatch h

section Poll

variable (sys : System) (now : Int) (valve : Option Bool)

/-- The system after a poll. -/
def polled : System :=
  { sys with
    kernel := (sys.kernel.applyOperationalObservation now (reportOf sys.device valve)).1 }

theorem polled_activeSetpoint {n : OperationalMode} (hn : n.bearsSetpoint = true) :
    (polled sys now valve).kernel.state.activeSetpoint n =
      if s21OperatingModeToOperationalMode sys.device.operatingMode = n then
        (sys.kernel.state.activeSetpoint n).applyObservation sys.device.setpointCelsius .device
      else sys.kernel.state.activeSetpoint n :=
  Reconciler.observe_activeSetpoint _ _ (reportOf sys.device valve) hn

/-- What is in flight after a poll was in flight before it. -/
theorem inFlight_of_polled {n : OperationalMode} (hn : n.bearsSetpoint = true) {sent : Int16}
    (h : ((polled sys now valve).kernel.state.activeSetpoint n).inFlight = some sent) :
    (sys.kernel.state.activeSetpoint n).inFlight = some sent := by
  rw [polled_activeSetpoint sys now valve hn] at h
  split at h
  · exact TwinField.inFlight_of_applyObservation h
  · exact h

end Poll

/-- The first poll makes the setpoint of the device's mode the desired one. -/
theorem AsBooted.poll {sys : System} (h : AsBooted sys) (hidle : sys.pumping = none) (now : Int)
    (valve : Option Bool) : DeviceBacks (polled sys now valve) where
  device := by
    intro hb
    have hmode : s21OperatingModeToOperationalMode sys.device.operatingMode =
      s21OperatingModeToOperationalMode (polled sys now valve).device.operatingMode := rfl
    unfold desiredSetpoint
    rw [polled_activeSetpoint sys now valve hb, if_pos hmode, TwinField.applyObservation_desired]
    obtain ⟨hnone, hobserved⟩ := h.setpoint _ hb
    by_cases hnew : sys.device.setpointCelsius =
        (sys.kernel.state.activeSetpoint
          (s21OperatingModeToOperationalMode sys.device.operatingMode)).observed
    · rw [if_neg (fun hand => hand.2 hnew)]
      exact hnew.trans hobserved
    · rw [if_pos ⟨hnone, hnew⟩]
      rfl
  flight := by
    intro n hn sent hsent
    have hbefore := inFlight_of_polled sys now valve hn hsent
    rw [(h.setpoint n hn).1] at hbefore
    cases hbefore
  pump := by
    intro c hc
    exact absurd (hidle.symm.trans hc) (by simp)

/-- Later polls show the desired setpoint, and move nothing. -/
theorem DeviceBacks.desired_polled {sys : System} (h : DeviceBacks sys) (now : Int)
    (valve : Option Bool) : desiredSetpoint (polled sys now valve) = desiredSetpoint sys := by
  refine desiredSetpoint_congr fun n hn => ?_
  unfold desiredSetpoint
  rw [polled_activeSetpoint sys now valve hn]
  split
  · rename_i hmode
    have hdevice : sys.device.setpointCelsius = (sys.kernel.state.activeSetpoint n).desired := by
      rw [← hmode] at hn ⊢
      exact h.device hn
    rw [TwinField.applyObservation_desired, hdevice]
    split <;> rfl
  · rfl

theorem DeviceBacks.poll {sys : System} (h : DeviceBacks sys) (hidle : sys.pumping = none)
    (now : Int) (valve : Option Bool) : DeviceBacks (polled sys now valve) where
  device := by
    rw [h.desired_polled now valve]
    exact h.device
  flight := by
    intro n hn sent hsent
    rw [h.desired_polled now valve]
    exact h.flight n hn sent (inFlight_of_polled sys now valve hn hsent)
  pump := by
    intro c hc
    exact absurd (hidle.symm.trans hc) (by simp)

/-- Steps that leave the setpoint twins and the device alone, and keep the pump's command
in order, keep both invariants. -/
theorem AsBooted.of_same {sys sys' : System} (h : AsBooted sys)
    (hsame : SameSetpoints sys.kernel.state sys'.kernel.state) (hpump : PumpCarries sys') :
    AsBooted sys' := by
  refine ⟨fun n hn => ?_, hpump⟩
  unfold desiredSetpoint
  rw [hsame n]
  exact h.setpoint n hn

theorem desiredSetpoint_of_same {sys sys' : System}
    (hsame : SameSetpoints sys.kernel.state sys'.kernel.state) :
    desiredSetpoint sys' = desiredSetpoint sys := by
  funext m
  unfold desiredSetpoint
  rw [hsame m]

/-- What a step of the traffic does, up to the invariants. -/
theorem trafficStep_cases {sys sys' : System} {l : TrafficLabel}
    (h : trafficStep sys l = some sys') :
    (∃ c, sys.pumping = some c ∧ l.contact = true ∧
      sys' = ⟨sys.kernel.onCommandSent c, c, none⟩) ∨
    (∃ now valve, sys.pumping = none ∧ l.contact = true ∧ sys' = polled sys now valve) ∨
    (l.contact = false ∧ SameSetpoints sys.kernel.state sys'.kernel.state ∧
      (sys'.device = sys.device ∨ sys.pumping = some sys'.device) ∧
      (PumpCarries sys → PumpCarries sys')) := by
  cases l with
  | bridge l =>
      simp only [trafficStep] at h
      split at h
      · cases h
      · rename_i hwrites
        cases l with
        | intent now i =>
            obtain rfl := Option.some.inj h
            have hsame := apply_sameSetpoints sys.kernel now (Bool.not_eq_true _ ▸ hwrites)
            refine .inr (.inr ⟨rfl, hsame, .inl rfl, fun hpump c hc => ?_⟩)
            rw [desiredSetpoint_of_same hsame]
            exact hpump c hc
        | pumpStart =>
            simp only [step] at h
            split at h
            · cases h
            · obtain rfl := Option.some.inj h
              exact .inr (.inr ⟨rfl, fun _ => rfl, .inl rfl, fun _ => pumpCarries_pending sys⟩)
        | pumpFinish =>
            simp only [step] at h
            split at h
            · rename_i c hc
              obtain rfl := Option.some.inj h
              exact .inl ⟨c, hc, rfl, rfl⟩
            · cases h
        | poll now valve =>
            simp only [step] at h
            split at h
            · cases h
            · rename_i hidle
              obtain rfl := Option.some.inj h
              exact .inr (.inl ⟨now, valve, hidle, rfl, rfl⟩)
  | pumpFail applied =>
      simp only [trafficStep] at h
      split at h
      · rename_i c hc
        obtain rfl := Option.some.inj h
        refine .inr (.inr ⟨rfl, fun _ => rfl, ?_, ?_⟩)
        · cases applied with
          | true => exact .inr hc
          | false => exact .inl rfl
        · intro _ c hidle
          cases hidle
      · cases h

/-! ### Runs -/

theorem asBooted_start (config : ReconcilerConfig) (d : LogicalACStateDefaults)
    (device : S21OperationCommand) : AsBooted (start config d device) where
  setpoint := by
    intro n _
    cases n <;> exact ⟨rfl, rfl⟩
  pump := fun _ h => nomatch h

theorem asBooted_step (sys : System) (l : TrafficLabel) (sys' : System) (h : AsBooted sys)
    (hl : l.contact = false) (hstep : trafficStep sys l = some sys') : AsBooted sys' := by
  rcases trafficStep_cases hstep with ⟨c, -, hcontact, -⟩ | ⟨now, valve, -, hcontact, -⟩ |
    ⟨-, hsame, -, hpump⟩
  · exact absurd (hl.symm.trans hcontact) (by simp)
  · exact absurd (hl.symm.trans hcontact) (by simp)
  · exact h.of_same hsame (hpump h.pump)

/-- The first contact. -/
theorem deviceBacks_contact (sys : System) (l : TrafficLabel) (sys' : System) (h : AsBooted sys)
    (hl : l.contact = true) (hstep : trafficStep sys l = some sys') : DeviceBacks sys' := by
  rcases trafficStep_cases hstep with ⟨c, hc, -, rfl⟩ | ⟨now, valve, hidle, -, rfl⟩ | ⟨hquiet, -⟩
  · exact deviceBacks_sent h.flight h.pump hc
  · exact h.poll hidle now valve
  · exact absurd (hl.symm.trans hquiet) (by simp)

/-- After it, a step keeps the device behind the shadow of its mode, and moves no desired
setpoint. -/
theorem deviceBacks_step (sys : System) (l : TrafficLabel) (sys' : System) (h : DeviceBacks sys)
    (hstep : trafficStep sys l = some sys') :
    DeviceBacks sys' ∧ desiredSetpoint sys' = desiredSetpoint sys := by
  rcases trafficStep_cases hstep with ⟨c, hc, -, rfl⟩ | ⟨now, valve, hidle, -, rfl⟩ |
    ⟨-, hsame, hdevice, hpump⟩
  · exact ⟨deviceBacks_sent h.flight h.pump hc, desiredSetpoint_sent sys c c none⟩
  · exact ⟨h.poll hidle now valve, h.desired_polled now valve⟩
  · have hdesired := desiredSetpoint_of_same hsame
    refine ⟨⟨fun hb => ?_, fun n hn sent hsent => ?_, hpump h.pump⟩, hdesired⟩
    · rw [hdesired]
      rcases hdevice with hkept | happlied
      · rw [hkept] at hb ⊢
        exact h.device hb
      · exact h.pump sys'.device happlied
    · rw [hdesired]
      rw [hsame n] at hsent
      exact h.flight n hn sent hsent

/-- **Shadows survive.** Take any run of mode, power and fan traffic from boot, against any
device, with successful sends, sends reported failed and polls in any order. From the first
poll or successful send on, the three desired setpoints never change. -/
theorem setpoint_shadows_survive {config : ReconcilerConfig} {d : LogicalACStateDefaults}
    {device : S21OperationCommand} {before after : List TrafficLabel} {sys sys' : System}
    (hcontact : before.any TrafficLabel.contact = true)
    (hbefore : Lib.runGuarded trafficStep (start config d device) before = some sys)
    (hafter : Lib.runGuarded trafficStep sys after = some sys') :
    sys'.kernel.state.heatSetpoint.desired = sys.kernel.state.heatSetpoint.desired ∧
      sys'.kernel.state.coolSetpoint.desired = sys.kernel.state.coolSetpoint.desired ∧
      sys'.kernel.state.autoSetpoint.desired = sys.kernel.state.autoSetpoint.desired := by
  have hbacks : DeviceBacks sys :=
    Lib.runGuarded_turn asBooted_step deviceBacks_contact
      (fun s l t h hstep => (deviceBacks_step s l t h hstep).1) (asBooted_start config d device)
      hcontact hbefore
  obtain ⟨-, hsame⟩ : DeviceBacks sys' ∧ desiredSetpoint sys' = desiredSetpoint sys := by
    refine Lib.runGuarded_of_step
      (I := fun t => DeviceBacks t ∧ desiredSetpoint t = desiredSetpoint sys)
      (fun s l t h hstep => ?_) ⟨hbacks, rfl⟩ hafter
    obtain ⟨hnext, hkept⟩ := deviceBacks_step s l t h.1 hstep
    exact ⟨hnext, hkept.trans h.2⟩
  exact ⟨congrFun hsame .heat, congrFun hsame .cool, congrFun hsame .auto⟩

/-- A unit that heats to 23 °C. -/
def heatingUnit : S21OperationCommand := ⟨true, .heat, 2300, .auto⟩

/-- A change to Cool whose answer is lost, with a fan write in between, then repeated: the
heat shadow stays at the 23 °C of the first poll. -/
theorem heat_shadow_survives_lost_answer :
    let sys := polled (start {} {} heatingUnit) 1000 none
    let after : List TrafficLabel :=
      [.bridge (.intent 3000 (.setSystemMode true .cool)), .bridge .pumpStart,
        .bridge (.intent 3001 (.setSpeedSetting (some .high))), .pumpFail true,
        .bridge (.poll 11000 none), .bridge .pumpStart, .bridge .pumpFinish,
        .bridge (.poll 21000 none)]
    ∃ sys', Lib.runGuarded trafficStep sys after = some sys' ∧
      sys'.device.operatingMode = .cool ∧ sys'.kernel.state.heatSetpoint.desired = 2300 := by
  intro sys after
  have hbefore : Lib.runGuarded trafficStep (start {} {} heatingUnit)
      [.bridge (.poll 1000 none)] = some sys := rfl
  have hafter : ∃ sys', Lib.runGuarded trafficStep sys after = some sys' ∧
      sys'.device.operatingMode = .cool := ⟨_, rfl, by decide +kernel⟩
  obtain ⟨sys', hrun, hcool⟩ := hafter
  exact ⟨sys', hrun, hcool, (setpoint_shadows_survive rfl hbefore hrun).1⟩

end DaikinBridge.Bridge
