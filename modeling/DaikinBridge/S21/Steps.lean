import DaikinBridge.S21.ManagerReads

/-!
# DaikinBridge.S21.Steps

The calls of the manager, taken apart.

A call is made of a few steps, which may depend on each other: a single-field set gets the
operation and then writes it, `getFanMode` gets the operation only where RG fails. `steps`
unrolls a call into them, and `follow_steps` says that they leave the manager the call leaves
and issue the commands it issues, in order. What every step keeps, every call then keeps.
-/

namespace DaikinBridge.S21

namespace S21Manager

/-- One call of a history, without regard to the clock. -/
def performCall (m : S21Manager) (call : ManagerCall × Exchange) : S21Manager :=
  m.perform call.2 call.1

/-- The commands a call issues. -/
def issuedBy (m : S21Manager) (x : Exchange) : ManagerCall → List PresentationCall
  | .init => (m.init x).2.2
  | .getOperation => (m.getOperation x).calls
  | .getOnOff => (m.getOnOff x).calls
  | .getOperatingMode => (m.getOperatingMode x).calls
  | .getSetpoint => (m.getSetpoint x).calls
  | .getFanMode => (m.getFanMode x).calls
  | .getRoomTemperature => (m.getRoomTemperature x).calls
  | .getOutdoorTemperature => (m.getOutdoorTemperature x).calls
  | .getHumidity => (m.getHumidity x).calls
  | .getUnitState => (m.getUnitState x).calls
  | .setOperation op => (m.setOperation x op).calls
  | .setOnOff onOff => (m.setOnOff x onOff).calls
  | .setSetpoint setPoint => (m.setSetpoint x setPoint).calls
  | .setFanMode fanMode => (m.setFanMode x fanMode).calls

/-! ### Calls as steps -/

/-- The steps calls are made of, with the clock readings of those that take one. -/
inductive Step
  | init
  | operation (now : Int)
  | fanMode (now : Int)
  | coarse (now : Int)
  | roomTemperature
  | outdoorTemperature
  | humidity
  | unitState
  | setOperation (now : Int) (op : GetOperationResult)
  deriving DecidableEq, Repr

namespace Step

/-- The clock reading a step takes, if it takes one. -/
def reading : Step → Option Int
  | .operation now => some now
  | .fanMode now => some now
  | .coarse now => some now
  | .setOperation now _ => some now
  | _ => none

/-- The manager after a step, and the commands the step issues. -/
def take (m : S21Manager) (x : Exchange) : Step → S21Manager × List PresentationCall
  | .init => ((m.init x).1, (m.init x).2.2)
  | .operation now => ((m.readOperation x now).manager, (m.readOperation x now).calls)
  | .fanMode now => ((m.readFanMode x now).manager, (m.readFanMode x now).calls)
  | .coarse now =>
      ((m.readCoarseTemperatureAndHumidity x now).manager,
        (m.readCoarseTemperatureAndHumidity x now).calls)
  | .roomTemperature =>
      ({ m with roomTemperatureCapability :=
          (m.roomTemperatureCapability.callWithTracking x.roomTemperature).1 },
        m.roomTemperatureCapability.issued .getRoomTemperature)
  | .outdoorTemperature =>
      ({ m with outdoorTemperatureCapability :=
          (m.outdoorTemperatureCapability.callWithTracking x.outdoorTemperature).1 },
        m.outdoorTemperatureCapability.issued .getOutdoorTemperature)
  | .humidity =>
      ({ m with humidityCapability := (m.humidityCapability.callWithTracking x.humidity).1 },
        m.humidityCapability.issued .getHumidity)
  | .unitState =>
      ({ m with unitStateCapability := (m.unitStateCapability.callWithTracking x.unitState).1 },
        m.unitStateCapability.issued .getUnitState)
  | .setOperation now op => ((m.writeOperation x now op).manager, (m.writeOperation x now op).calls)

end Step

section Steps

variable (m : S21Manager) (x : Exchange)

/-- Before the init sequence no call does anything. -/
def stepsWhenReady (steps : List Step) : List Step := if m.isReady then steps else []

/-- A sensor: its own command, then the coarse reading where that gives no value. -/
def sensorSteps {α : Type} (own : Step) (result : Except String α) : List Step :=
  match result with
  | .ok _ => [own]
  | .error _ => [own, .coarse x.now]

/-- A setter: get the operation, then set it with the change. -/
def setterSteps (change : GetOperationResult → GetOperationResult) : List Step :=
  match (m.readOperation x x.now).result with
  | .ok op => [.operation x.now, .setOperation x.later (change op)]
  | .error _ => [.operation x.now]

/-- The steps of a call. -/
def steps : ManagerCall → List Step
  | .init => [.init]
  | .getOperation => m.stepsWhenReady <|
      match (m.readOperation x x.now).result with
      | .ok op =>
          if op.onOff && op.fanMode = .auto then [.operation x.now, .fanMode x.later]
          else [.operation x.now]
      | .error _ => [.operation x.now]
  | .getOnOff => m.stepsWhenReady [.operation x.now]
  | .getOperatingMode => m.stepsWhenReady [.operation x.now]
  | .getSetpoint => m.stepsWhenReady [.operation x.now]
  | .getFanMode => m.stepsWhenReady <|
      match (m.readFanMode x x.now).result with
      | .ok _ => [.fanMode x.now]
      | .error _ => [.fanMode x.now, .operation x.later]
  | .getRoomTemperature => m.stepsWhenReady <| sensorSteps x .roomTemperature
      (m.roomTemperatureCapability.callWithTracking x.roomTemperature).2
  | .getOutdoorTemperature => m.stepsWhenReady <| sensorSteps x .outdoorTemperature
      (m.outdoorTemperatureCapability.callWithTracking x.outdoorTemperature).2
  | .getHumidity => m.stepsWhenReady <| sensorSteps x .humidity
      (m.humidityCapability.callWithTracking x.humidity).2
  | .getUnitState => m.stepsWhenReady [.unitState]
  | .setOperation op => [.setOperation x.now op]
  | .setOnOff onOff => m.stepsWhenReady (m.setterSteps x fun op => { op with onOff })
  | .setSetpoint setPoint => m.stepsWhenReady (m.setterSteps x fun op => { op with setPoint })
  | .setFanMode fanMode => m.stepsWhenReady (m.setterSteps x fun op => { op with fanMode })

/-- The manager after the steps and all they issued. -/
def follow : S21Manager → List Step → S21Manager × List PresentationCall
  | m, [] => (m, [])
  | m, step :: rest =>
      ((follow (step.take m x).1 rest).1, (step.take m x).2 ++ (follow (step.take m x).1 rest).2)

end Steps

/-- The steps leave and issue what the call does. -/
def Unrolls {α : Type} (x : Exchange) (m : S21Manager) (o : Outcome α) (steps : List Step) : Prop :=
  follow x m steps = (o.manager, o.calls)

section Unrolls

variable {m : S21Manager} {x : Exchange}

theorem Unrolls.whenReady {α : Type} {body : Outcome α} {steps : List Step}
    (h : Unrolls x m body steps) : Unrolls x m (m.whenReady body) (m.stepsWhenReady steps) := by
  unfold S21Manager.whenReady stepsWhenReady
  split
  · exact h
  · rfl

theorem unrolls_getComponent {α : Type} (component : GetOperationResult → α) :
    Unrolls x m (m.getComponent x component) (m.stepsWhenReady [.operation x.now]) := by
  refine .whenReady ?_
  unfold Unrolls Outcome.andThen
  cases (m.readOperation x x.now).result with
  | ok op => rfl
  | error e => simp [follow, Step.take]

theorem unrolls_getSensor {α : Type} {capability : CommandCapability}
    {keep : S21Manager → CommandCapability → S21Manager} {answer : Except String α}
    {call : PresentationCall} {component : GetCoarseTemperatureAndHumidityResult → α} {own : Step}
    (hown : own.take m x =
      (keep m (capability.callWithTracking answer).1, capability.issued call)) :
    Unrolls x m (m.getSensor x capability keep answer call component)
      (m.stepsWhenReady (sensorSteps x own (capability.callWithTracking answer).2)) := by
  refine .whenReady ?_
  unfold Unrolls Outcome.orElse sensorSteps
  dsimp only
  cases (capability.callWithTracking answer).2 with
  | ok v => simp [follow, hown]
  | error e =>
      unfold Outcome.andThen
      simp only [follow, hown]
      cases ((keep m (capability.callWithTracking answer).1
          ).readCoarseTemperatureAndHumidity x x.now).result with
      | ok coarse => simp [Step.take, Outcome.pure]
      | error e => simp [Step.take]

theorem unrolls_setComponent (change : GetOperationResult → GetOperationResult) :
    Unrolls x m (m.setComponent x change) (m.stepsWhenReady (m.setterSteps x change)) := by
  refine .whenReady ?_
  unfold Unrolls Outcome.andThen setterSteps
  cases (m.readOperation x x.now).result with
  | ok op => simp [follow, Step.take]
  | error e => simp [follow, Step.take]

theorem unrolls_getOperation :
    Unrolls x m (m.getOperation x) (m.steps x .getOperation) := by
  refine .whenReady ?_
  unfold Unrolls Outcome.andThen
  cases (m.readOperation x x.now).result with
  | error e => simp [follow, Step.take]
  | ok op =>
      dsimp only
      split
      · cases ((m.readOperation x x.now).manager.readFanMode x x.later).result with
        | ok fanMode => simp [follow, Step.take]
        | error e => simp [follow, Step.take]
      · simp [follow, Step.take, Outcome.pure]

theorem unrolls_getFanMode : Unrolls x m (m.getFanMode x) (m.steps x .getFanMode) := by
  refine .whenReady ?_
  unfold Unrolls Outcome.orElse
  cases (m.readFanMode x x.now).result with
  | ok fan => simp [follow, Step.take]
  | error e =>
      unfold Outcome.andThen
      dsimp only
      cases ((m.readFanMode x x.now).manager.readOperation x x.later).result with
      | ok op => simp [follow, Step.take, Outcome.pure]
      | error e => simp [follow, Step.take]

end Unrolls

/-- **Unrolling.** The steps of a call are all it does. -/
theorem follow_steps (m : S21Manager) (x : Exchange) (call : ManagerCall) :
    follow x m (m.steps x call) = (m.perform x call, m.issuedBy x call) := by
  cases call with
  | init => simp [steps, follow, Step.take, perform, issuedBy]
  | getOperation => exact unrolls_getOperation
  | getOnOff => exact unrolls_getComponent _
  | getOperatingMode => exact unrolls_getComponent _
  | getSetpoint => exact unrolls_getComponent _
  | getFanMode => exact unrolls_getFanMode
  | getRoomTemperature => exact unrolls_getSensor rfl
  | getOutdoorTemperature => exact unrolls_getSensor rfl
  | getHumidity => exact unrolls_getSensor rfl
  | getUnitState =>
      show Unrolls x m (m.getUnitState x) (m.stepsWhenReady [.unitState])
      refine .whenReady ?_
      simp [Unrolls, follow, Step.take]
  | setOperation op => simp [steps, follow, Step.take, perform, issuedBy, setOperation]
  | setOnOff onOff => exact unrolls_setComponent _
  | setSetpoint setPoint => exact unrolls_setComponent _
  | setFanMode fanMode => exact unrolls_setComponent _

end S21Manager

end DaikinBridge.S21
