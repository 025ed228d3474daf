import DaikinBridge.Sync.Echo

/-!
# DaikinBridge.Bridge.Wire

The kernel above the wire codec. A command leaves as a D1 payload
(`S21Presentation::setOperation`) and comes back, byte for byte, in the G1 reply that
the next poll decodes (`getOperation`, `AirConditionerManager::PollOperationalPhase`).

Power, mode and fan survive the trip for every command. The setpoint travels in steps
of 0.5 °C while the kernel computes in steps of 0.01 °C and confirms by equality, so
the commanded setpoint twin converges exactly when the setpoint is on the coarser
grid (`converges_over_wire_iff`).
-/

namespace DaikinBridge.Bridge

open S21 Sync

/-- A device that stores the four payload bytes of a D1 and reports them as a G1. -/
def storedReply (payload : Bytes) : Bytes := [0x47, 0x31] ++ payload.drop 2

/-- The operational observation a poll assembles from the decoded reply and the
valve state. -/
def observationOf (op : GetOperationResult) (valve : Option Bool) : S21OperationalObservation where
  onOff := op.onOff
  operatingMode := op.mode
  setpointCelsius := op.setPoint
  fanMode := op.fanMode
  refrigerantValveOpen := valve

/-- `AirConditionerManager::CommandWorkHandler`'s call of `setOperation`. -/
def encodeCommand (c : S21OperationCommand) : Except String Bytes :=
  setOperation c.onOff c.operatingMode c.setpointCelsius c.fanMode

/-- What the poll reads back after the command was stored. -/
def readBack (c : S21OperationCommand) : GetOperationResult where
  onOff := c.onOff
  mode := c.operatingMode
  setPoint := tempByteToSetPoint (setPointToTempByte c.setpointCelsius)
  fanMode := c.fanMode

/-- The trip through the codec: everything but the setpoint comes back as sent. -/
theorem getOperation_storedReply {c : S21OperationCommand} {payload : Bytes}
    (h : encodeCommand c = .ok payload) :
    (getOperation (.ok (storedReply payload))).run = some (.ok (readBack c)) := by
  obtain ⟨-, rfl⟩ := setOperation_eq_ok h
  rw [storedReply, List.drop_succ_cons, List.drop_succ_cons, List.drop_zero]
  have hpower : decide ((if c.onOff then (0x31 : UInt8) else 0x30) ≠ 0x30) = c.onOff := by
    cases c.onOff <;> rfl
  refine (getOperation_g1 _ _ _ _).trans ?_
  rw [hpower]
  rfl

/-! ### Convergence -/

/-- Nothing in flight, and desired agrees with observed. -/
def Landed {T : Type} (t : TwinField T) : Prop := t.inFlight = none ∧ t.desired = t.observed

/-- A twin just sent lands on a report if and only if the report is what it desires. -/
theorem landed_promote_iff {T : Type} [DecidableEq T] (t : TwinField T) (v : T)
    (src : ObservationSource) :
    Landed (t.promoteDesiredToInFlight.applyObservation v src) ↔ v = t.desired := by
  constructor
  · rintro ⟨-, h⟩
    rw [TwinField.applyObservation_desired, TwinField.applyObservation_observed] at h
    simpa using h.symm
  · rintro rfl
    obtain ⟨hf, hd, ho⟩ := (TwinField.awaiting_promote t).echo src rfl
    exact ⟨hf, hd.trans ho.symm⟩

/-- The commanded twins have landed. -/
def CommandLanded (s : LogicalACState) (c : S21OperationCommand) : Prop :=
  Landed s.onOff ∧ Landed s.mode ∧ Landed s.fan ∧
    ((s21OperatingModeToOperationalMode c.operatingMode).bearsSetpoint = true →
      Landed (s.activeSetpoint (s21OperatingModeToOperationalMode c.operatingMode)))

/-- A pending command the codec accepts, sent, stored and polled back, lands. -/
def ConvergesOverWire (r : Reconciler) : Prop :=
  ∀ c payload, r.pendingCommand = some c → encodeCommand c = .ok payload →
    ∃ op, (getOperation (.ok (storedReply payload))).run = some (.ok op) ∧
      ∀ now valve, CommandLanded ((r.onCommandSent c).applyOperationalObservation now
        (observationOf op valve)).1.state c

/-- A pending command the codec accepts has its setpoint, if its mode carries one, on
half degrees. -/
def PendingOnHalfDegrees (r : Reconciler) : Prop :=
  ∀ c payload, r.pendingCommand = some c → encodeCommand c = .ok payload →
    (s21OperatingModeToOperationalMode c.operatingMode).bearsSetpoint = true →
      c.setpointCelsius.toInt % 50 = 0

/-- One command: it lands on what is read back if and only if the setpoint, if there
is one, is read back as sent. -/
theorem commandLanded_iff {r : Reconciler} {c : S21OperationCommand}
    (hpend : r.pendingCommand = some c) (now : Int) (valve : Option Bool) :
    CommandLanded ((r.onCommandSent c).applyOperationalObservation now
        (observationOf (readBack c) valve)).1.state c ↔
      ((s21OperatingModeToOperationalMode c.operatingMode).bearsSetpoint = true →
        (readBack c).setPoint = c.setpointCelsius) := by
  obtain ⟨hon, hmode, hsp, hfan⟩ := Reconciler.desiredCommand_eq_iff.mp
    (Reconciler.pendingCommand_eq_some_iff.mp hpend).2.1
  have hstate : ((r.onCommandSent c).applyOperationalObservation now
      (observationOf (readBack c) valve)).1.state =
        Reconciler.observeOperational (r.onCommandSent c).state (r.onCommandSent c).config
          (observationOf (readBack c) valve) := rfl
  have hcmode : s21OperatingModeToOperationalMode c.operatingMode = r.state.mode.desired := by
    rw [← hmode, s21OperatingMode_roundtrip]
  have hcfan : s21FanModeToSpeedSetting c.fanMode = r.state.fan.desired := by
    rw [← hfan, s21FanMode_roundtrip]
  unfold CommandLanded
  rw [hstate, Reconciler.observe_onOff, Reconciler.observe_mode, Reconciler.observe_fan,
    Reconciler.sent_onOff, Reconciler.sent_mode, Reconciler.sent_fan, landed_promote_iff,
    landed_promote_iff, landed_promote_iff]
  -- the first three always hold
  have hthree : (observationOf (readBack c) valve).onOff = r.state.onOff.desired ∧
      s21OperatingModeToOperationalMode (observationOf (readBack c) valve).operatingMode =
        r.state.mode.desired ∧
      s21FanModeToSpeedSetting (observationOf (readBack c) valve).fanMode =
        r.state.fan.desired :=
    ⟨hon.symm, hcmode, hcfan⟩
  rw [and_iff_right hthree.1, and_iff_right hthree.2.1, and_iff_right hthree.2.2, hcmode]
  refine forall_congr' fun hb => ?_
  rw [Reconciler.observe_activeSetpoint _ _ _ hb, if_pos hthree.2.1,
    Reconciler.sent_activeSetpoint r c hb, if_pos rfl, landed_promote_iff, hsp]
  exact Iff.rfl

theorem convergesOverWire_iff (r : Reconciler) : ConvergesOverWire r ↔ PendingOnHalfDegrees r := by
  refine forall_congr' fun c => forall_congr' fun payload => forall_congr' fun hpend =>
    forall_congr' fun henc => ?_
  have hread := getOperation_storedReply henc
  obtain ⟨⟨hlo, hhi⟩, -⟩ := setOperation_eq_ok henc
  rw [← tempByte_roundtrip_iff hlo hhi]
  constructor
  · rintro ⟨op, hop, hland⟩
    obtain rfl : readBack c = op := by
      rw [hread] at hop
      exact Except.ok.inj (Option.some.inj hop)
    exact (commandLanded_iff hpend 0 none).mp (hland 0 none)
  · intro hgrid
    exact ⟨readBack c, hread, fun now valve => (commandLanded_iff hpend now valve).mpr hgrid⟩

/-- **Convergence through the codec.** In every state of a run the pending command
converges over the wire if and only if in every state of the run the pending command
that the codec accepts has its setpoint on half degrees. -/
theorem converges_over_wire_iff (r : Reconciler) (ops : List Reconciler.KernelOp) :
    Lib.Throughout Reconciler.kernelStep ConvergesOverWire r ops ↔
      Lib.Throughout Reconciler.kernelStep PendingOnHalfDegrees r ops :=
  Lib.throughout_congr convergesOverWire_iff

/-- After boot, in Auto around 22 °C, the cool edge is written to 25 °C. -/
def autoEdgeWritten : Reconciler :=
  Lib.run Reconciler.kernelStep Reconciler.boot
    [.applyIntent 1 (.setOccupiedCoolingSetpoint 2500)]

/-- The new Auto centre is 23.25 °C; the wire carries 23 °C, and the twin does not
land. -/
theorem auto_centre_does_not_land :
    Reconciler.Reachable autoEdgeWritten ∧
      autoEdgeWritten.pendingCommand = some ⟨false, .auto, 2325, .auto⟩ ∧
      ¬ ConvergesOverWire autoEdgeWritten := by
  have hpend : autoEdgeWritten.pendingCommand = some ⟨false, .auto, 2325, .auto⟩ := by
    decide +kernel
  refine ⟨⟨_, _, _, rfl⟩, hpend, ?_⟩
  intro h
  have hgrid := (convergesOverWire_iff _).mp h _ _ hpend rfl rfl
  exact absurd hgrid (by decide)

end DaikinBridge.Bridge
