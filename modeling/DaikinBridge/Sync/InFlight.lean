import DaikinBridge.Sync.ReconcilerSpec

/-!
# DaikinBridge.Sync.InFlight

What an in-flight value stands for. Runs here send atomically: the pending command
is handed to the link and the outcome reported at once. Next to the kernel they keep
the command that was last sent with success.

An in-flight value should be the matching component of that command. Intents and
reports never put a value in flight (`SubFlight`), and a send promotes precisely the
components of the command it sends; but it leaves the setpoint twins of the other
modes alone, and only a report of their own mode takes those out of flight. So the
runs in which in-flight means sent are the runs in which every send finds the other
setpoint twins landed (`inFlight_sent_iff`).
-/

namespace DaikinBridge.Sync

/-- Whatever is in flight afterwards was in flight before. -/
def TwinField.SubFlight {T : Type} (t t' : TwinField T) : Prop :=
  ∀ v, t'.inFlight = some v → t.inFlight = some v

theorem TwinField.SubFlight.refl {T : Type} (t : TwinField T) : t.SubFlight t :=
  fun _ h => h

theorem TwinField.SubFlight.of_sameDevice {T : Type} {t t' : TwinField T}
    (h : t.SameDevice t') : t.SubFlight t' :=
  fun _ hv => h.2 ▸ hv

namespace LogicalACState

/-- No twin has a new value in flight. -/
def SubFlight (s s' : LogicalACState) : Prop := EachTwin TwinField.SubFlight s s'

theorem SubFlight.refl (s : LogicalACState) : SubFlight s s :=
  EachTwin.refl (R := TwinField.SubFlight) TwinField.SubFlight.refl s

theorem SubFlight.of_deviceViews {s s' : LogicalACState} (h : SameDeviceViews s s') :
    SubFlight s s' where
  onOff := .of_sameDevice h.onOff
  mode := .of_sameDevice h.mode
  heatSetpoint := .of_sameDevice h.heatSetpoint
  coolSetpoint := .of_sameDevice h.coolSetpoint
  autoSetpoint := .of_sameDevice h.autoSetpoint
  fan := .of_sameDevice h.fan

end LogicalACState

namespace Reconciler

open LogicalACState (SubFlight)

/-- A report puts nothing in flight. -/
theorem observe_subFlight (s : LogicalACState) (cfg : ReconcilerConfig)
    (obs : S21OperationalObservation) : SubFlight s (observeOperational s cfg obs) := by
  have hsp : ∀ {n : OperationalMode}, n.bearsSetpoint = true →
      (s.activeSetpoint n).SubFlight ((observeOperational s cfg obs).activeSetpoint n) := by
    intro n hn
    rw [observe_activeSetpoint s cfg obs hn]
    split
    · intro v hv
      exact TwinField.inFlight_of_applyObservation hv
    · exact .refl _
  refine ⟨?_, ?_, hsp (n := .heat) rfl, hsp (n := .cool) rfl, hsp (n := .auto) rfl, ?_⟩
  · intro v hv
    rw [observe_onOff] at hv
    exact TwinField.inFlight_of_applyObservation hv
  · intro v hv
    rw [observe_mode] at hv
    exact TwinField.inFlight_of_applyObservation hv
  · intro v hv
    rw [observe_fan] at hv
    exact TwinField.inFlight_of_applyObservation hv

/-! ### Runs with atomic sends -/

/-- The kernel, and the command last sent with success. -/
structure Sender where
  kernel : Reconciler
  sent : Option S21OperationCommand

/-- What can happen between two states of a run. -/
inductive SenderOp
  | intent (now : Int) (i : WriteIntent)
  | bundle (now : Int) (is : List WriteIntent)
  | operational (now : Int) (obs : S21OperationalObservation)
  | environmental (obs : S21EnvironmentalObservation)
  | linkDown
  /-- The pending command, if any, is sent and the send succeeds. -/
  | sendSucceeds
  /-- The pending command, if any, is sent and the send fails. -/
  | sendFails

/-- One operation; a send with nothing pending does nothing. -/
def senderStep (m : Sender) : SenderOp → Sender
  | .intent now i => { m with kernel := (m.kernel.applyIntent now i).1 }
  | .bundle now is => { m with kernel := (m.kernel.applyIntentBundle now is).1 }
  | .operational now obs => { m with kernel := (m.kernel.applyOperationalObservation now obs).1 }
  | .environmental obs => { m with kernel := (m.kernel.applyEnvironmentalObservation obs).1 }
  | .linkDown => { m with kernel := m.kernel.notifyLinkDown }
  | .sendSucceeds =>
      match m.kernel.pendingCommand with
      | none => m
      | some c => { kernel := m.kernel.onCommandSent c, sent := some c }
  | .sendFails =>
      match m.kernel.pendingCommand with
      | none => m
      | some _ => { m with kernel := m.kernel.onCommandFailed }

/-- Nothing sent yet. -/
def startSender (config : ReconcilerConfig) (d : LogicalACStateDefaults) : Sender :=
  ⟨.new config d, none⟩

/-- Every value in flight is the matching component of the command last sent; for the
setpoint twin of mode `n` that includes the mode. -/
structure InFlightIsSent (m : Sender) : Prop where
  onOff : ∀ v, m.kernel.state.onOff.inFlight = some v →
    ∃ c, m.sent = some c ∧ c.onOff = v
  mode : ∀ v, m.kernel.state.mode.inFlight = some v →
    ∃ c, m.sent = some c ∧ c.operatingMode = operationalModeToS21OperatingMode v
  fan : ∀ v, m.kernel.state.fan.inFlight = some v →
    ∃ c, m.sent = some c ∧ c.fanMode = fanSpeedToS21FanMode v
  setpoint : ∀ n v, n.bearsSetpoint = true →
    (m.kernel.state.activeSetpoint n).inFlight = some v →
    ∃ c, m.sent = some c ∧ c.operatingMode = operationalModeToS21OperatingMode n ∧
      c.setpointCelsius = v

/-- A successful send finds the setpoint twins of the modes it does not command out
of flight. -/
def OthersLanded (m : Sender) : SenderOp → Prop
  | .sendSucceeds => ∀ c, m.kernel.pendingCommand = some c →
      ∀ n, n.bearsSetpoint = true → n ≠ m.kernel.state.mode.desired →
        (m.kernel.state.activeSetpoint n).inFlight = none
  | _ => True

/-- With the last send unchanged and nothing new in flight, in-flight still means
sent. -/
theorem InFlightIsSent.of_subFlight {m m' : Sender} (h : InFlightIsSent m)
    (hfly : SubFlight m.kernel.state m'.kernel.state) (hsent : m'.sent = m.sent) :
    InFlightIsSent m' where
  onOff := by rw [hsent]; exact fun v hv => h.onOff v (hfly.onOff v hv)
  mode := by rw [hsent]; exact fun v hv => h.mode v (hfly.mode v hv)
  fan := by rw [hsent]; exact fun v hv => h.fan v (hfly.fan v hv)
  setpoint := by
    rw [hsent]
    exact fun n v hn hv => h.setpoint n v hn (LogicalACState.EachTwin.activeSetpoint hfly n v hv)

/-- A send of the pending command: its own components are promoted, and what else is
in flight must not be a setpoint. -/
theorem inFlightIsSent_sent {r : Reconciler} {c : S21OperationCommand}
    (hc : r.pendingCommand = some c) :
    InFlightIsSent ⟨r.onCommandSent c, some c⟩ ↔
      ∀ n, n.bearsSetpoint = true → n ≠ r.state.mode.desired →
        (r.state.activeSetpoint n).inFlight = none := by
  obtain ⟨hon, hmode, hsp, hfan⟩ := desiredCommand_eq_iff.mp (pendingCommand_eq_some_iff.mp hc).2.1
  constructor
  · intro h n hn hne
    cases hf : (r.state.activeSetpoint n).inFlight with
    | none => rfl
    | some v =>
        have hfly : ((r.onCommandSent c).state.activeSetpoint n).inFlight = some v := by
          rw [sent_activeSetpoint r c hn, if_neg (Ne.symm hne), hf]
        obtain ⟨c', hc', hm, -⟩ := h.setpoint n v hn hfly
        obtain rfl : c = c' := Option.some.inj hc'
        rw [← hmode, operationalModeToS21OperatingMode_inj] at hm
        exact absurd hm.symm hne
  · intro hothers
    refine ⟨?_, ?_, ?_, ?_⟩
    · intro v hv
      simp only [sent_onOff, TwinField.promote_inFlight, Option.some.injEq] at hv
      exact ⟨c, rfl, hon.symm.trans hv⟩
    · intro v hv
      simp only [sent_mode, TwinField.promote_inFlight, Option.some.injEq] at hv
      exact ⟨c, rfl, by rw [← hmode, hv]⟩
    · intro v hv
      simp only [sent_fan, TwinField.promote_inFlight, Option.some.injEq] at hv
      exact ⟨c, rfl, by rw [← hfan, hv]⟩
    · intro n v hn hv
      simp only [sent_activeSetpoint r c hn] at hv
      by_cases hd : r.state.mode.desired = n
      · subst hd
        simp only [if_pos, TwinField.promote_inFlight, Option.some.injEq] at hv
        exact ⟨c, rfl, hmode.symm, hsp.symm.trans hv⟩
      · rw [if_neg hd, hothers n hn (Ne.symm hd)] at hv
        cases hv

/-- One step from a state where in-flight means sent. -/
theorem inFlightIsSent_step (m : Sender) (op : SenderOp) (h : InFlightIsSent m) :
    InFlightIsSent (senderStep m op) ↔ OthersLanded m op := by
  cases op with
  | intent now i =>
      refine iff_of_true (h.of_subFlight ?_ rfl) trivial
      exact .of_deviceViews (apply_deviceViews m.kernel now i)
  | bundle now is =>
      refine iff_of_true (h.of_subFlight ?_ rfl) trivial
      exact .of_deviceViews (applyBundle_spec m.kernel now is).1
  | operational now obs =>
      refine iff_of_true (h.of_subFlight ?_ rfl) trivial
      exact observe_subFlight m.kernel.state m.kernel.config obs
  | environmental obs =>
      refine iff_of_true (h.of_subFlight ?_ rfl) trivial
      exact ⟨.refl _, .refl _, .refl _, .refl _, .refl _, .refl _⟩
  | linkDown =>
      refine iff_of_true (h.of_subFlight ?_ rfl) trivial
      exact ⟨.refl _, .refl _, .refl _, .refl _, .refl _, .refl _⟩
  | sendSucceeds =>
      unfold senderStep OthersLanded
      cases hc : m.kernel.pendingCommand with
      | none => exact iff_of_true h (fun c hc' => nomatch hc')
      | some c =>
          simp only [Option.some.injEq, forall_eq']
          exact inFlightIsSent_sent hc
  | sendFails =>
      unfold senderStep
      cases m.kernel.pendingCommand with
      | none => exact iff_of_true h trivial
      | some c => exact iff_of_true (h.of_subFlight (.refl _) rfl) trivial

theorem inFlightIsSent_start (config : ReconcilerConfig) (d : LogicalACStateDefaults) :
    InFlightIsSent (startSender config d) where
  onOff := fun _ hv => nomatch hv
  mode := fun _ hv => nomatch hv
  fan := fun _ hv => nomatch hv
  setpoint := fun n _ _ hv => by cases n <;> cases hv

/-- **In-flight means sent.** From any boot, a run with atomic sends has every in-flight
value equal to the matching component of the command last sent, in every state, if
and only if each successful send of the run finds the setpoint twins of the other
modes out of flight. -/
theorem inFlight_sent_iff (config : ReconcilerConfig) (d : LogicalACStateDefaults)
    (ops : List SenderOp) :
    Lib.Throughout senderStep InFlightIsSent (startSender config d) ops ↔
      Lib.Along senderStep OthersLanded (startSender config d) ops :=
  Lib.throughout_iff_along inFlightIsSent_step (inFlightIsSent_start config d)

/-- Two sends without a poll between them, the second one into another mode: the cool
setpoint stays in flight under a heat command. -/
theorem superseded_setpoint_stays_in_flight :
    let m := Lib.run senderStep (startSender {} {})
      [.operational 1 ⟨true, .cool, 2400, .auto, none⟩,
       .intent 2000 (.setOccupiedCoolingSetpoint 2600), .sendSucceeds,
       .intent 2100 (.setSystemMode true .heat), .sendSucceeds]
    m.sent = some ⟨true, .heat, 2000, .auto⟩ ∧
      m.kernel.state.coolSetpoint.inFlight = some 2600 ∧ ¬ InFlightIsSent m := by
  intro m
  have hsent : m.sent = some ⟨true, .heat, 2000, .auto⟩ := by decide +kernel
  have hfly : m.kernel.state.coolSetpoint.inFlight = some 2600 := by decide +kernel
  refine ⟨hsent, hfly, ?_⟩
  intro h
  obtain ⟨c, hc, hmode, -⟩ := h.setpoint .cool 2600 rfl hfly
  rw [hsent, Option.some.injEq] at hc
  subst hc
  exact absurd hmode (by decide)

end Reconciler

end DaikinBridge.Sync
