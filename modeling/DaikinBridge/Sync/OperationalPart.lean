import DaikinBridge.Sync.Sensors
import DaikinBridge.Sync.Wishes

/-!
# DaikinBridge.Sync.OperationalPart

The part of the kernel that commands depend on.

`Sync.Sensors` blanks what the environmental observations write. The loss of the link is
of the same kind: it clears a flag that the next operational observation sets again, and that
nothing else reads. `operationalPart` blanks both. An operation takes states with the same
operational part to states with the same operational part; two of the operations do not touch
it at all.
-/

namespace DaikinBridge.Sync.Reconciler

/-- The kernel without its sensors, and with the link taken for lost. -/
def operationalPart (r : Reconciler) : Reconciler := r.notifyLinkDown.withoutSensors

section OperationalPart

variable {r t : Reconciler}

/-- What commands are made of is in the operational part. -/
theorem pendingCommand_operationalPart (r : Reconciler) :
    r.operationalPart.pendingCommand = r.pendingCommand := rfl

theorem operationalPart_linkDown (r : Reconciler) :
    r.notifyLinkDown.operationalPart = r.operationalPart := rfl

theorem operationalPart_environmental (r : Reconciler) (obs : S21EnvironmentalObservation) :
    (r.applyEnvironmentalObservation obs).1.operationalPart = r.operationalPart := rfl

theorem operationalPart_failed (h : r.operationalPart = t.operationalPart) :
    r.onCommandFailed.operationalPart = t.onCommandFailed.operationalPart :=
  congrArg onCommandFailed h

/-! ### Operations commute with blanking -/

theorem operationalPart_apply (r : Reconciler) (now : Int) (i : WriteIntent) :
    (r.apply now i).operationalPart = r.operationalPart.apply now i := by
  have hstate : (r.apply now i).operationalPart.state = (r.operationalPart.apply now i).state := by
    rw [state_apply]
    show LogicalACState.withoutSensors { (r.apply now i).state with reachable := _ } = _
    rw [state_apply]
    rfl
  exact congrArg (fun state => { r.operationalPart with state }) hstate

theorem operationalPart_intent (h : r.operationalPart = t.operationalPart) (now : Int)
    (i : WriteIntent) :
    (r.applyIntent now i).1.operationalPart = (t.applyIntent now i).1.operationalPart := by
  show (r.apply now i).operationalPart = (t.apply now i).operationalPart
  rw [operationalPart_apply, operationalPart_apply, h]

/-- Intents that arrive one after the other. -/
theorem operationalPart_intents (h : r.operationalPart = t.operationalPart)
    (writes : List (Int × WriteIntent)) :
    (writes.foldl (fun r write => (r.applyIntent write.1 write.2).1) r).operationalPart =
      (writes.foldl (fun r write => (r.applyIntent write.1 write.2).1) t).operationalPart := by
  induction writes generalizing r t with
  | nil => exact h
  | cons write rest ih => exact ih (operationalPart_intent h write.1 write.2)

/-- An operational observation sets the flag, whatever it was. -/
theorem observeOperational_reachable (s : LogicalACState) (cfg : ReconcilerConfig)
    (obs : S21OperationalObservation) (reachable : SensorField Bool) :
    observeOperational { s with reachable } cfg obs = observeOperational s cfg obs := by
  unfold observeOperational
  cases s21OperatingModeToOperationalMode obs.operatingMode <;> rfl

theorem operationalPart_observation (h : r.operationalPart = t.operationalPart) (now : Int)
    (obs : S21OperationalObservation) :
    (r.applyOperationalObservation now obs).1.operationalPart =
      (t.applyOperationalObservation now obs).1.operationalPart := by
  have hpart : ∀ r : Reconciler, (r.applyOperationalObservation now obs).1.operationalPart =
      (r.operationalPart.applyOperationalObservation now obs).1.operationalPart := by
    intro r
    have hflag : observeOperational r.notifyLinkDown.state r.config obs =
        observeOperational r.state r.config obs := observeOperational_reachable ..
    have hstate : (observeOperational r.state r.config obs).withoutSensors =
        (observeOperational r.operationalPart.state r.config obs).withoutSensors := by
      rw [← hflag]
      exact observeOperational_withoutSensors ..
    exact congrArg (fun state : LogicalACState => { r with
      state := { state with reachable := state.reachable.applyObservation false }
      lastDeviceObserved := stampObservation r.lastDeviceObserved
        (s21OperatingModeToOperationalMode obs.operatingMode) now }) hstate
  rw [hpart r, hpart t, h]

theorem operationalPart_sent (h : r.operationalPart = t.operationalPart)
    (c : S21OperationCommand) :
    (r.onCommandSent c).operationalPart = (t.onCommandSent c).operationalPart := by
  have hpart : ∀ r : Reconciler,
      (r.onCommandSent c).operationalPart =
        (r.operationalPart.onCommandSent c).operationalPart := by
    intro r
    have hmode : r.operationalPart.state.mode.desired = r.state.mode.desired := rfl
    simp only [onCommandSent, TwinField.promote_desired, hmode]
    cases r.state.mode.desired <;> rfl
  rw [hpart r, hpart t, h]

end OperationalPart

end DaikinBridge.Sync.Reconciler
