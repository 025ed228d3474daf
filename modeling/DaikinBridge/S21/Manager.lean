import DaikinBridge.S21.Presentation

/-!
# DaikinBridge.S21.Manager

The orchestration layer above the presentation layer (`src/s21/s21_manager.{h,cpp}`):
per-command capability tracking, read-through caches with a maximal age, and the getters
and setters built on them.

What a call meets while it runs is its `Exchange`: the clock readings it takes, and the
answer of the synchronous presentation layer to each command it may issue. No call issues a
command twice or reads the clock more than twice, so one answer per command and two
readings determine it. A call gives an `Outcome`: the manager after it, what it returns,
and the commands it issued, in order.
-/

namespace DaikinBridge.S21

/-! ### Capability tracking -/

/-- What is known of the support of a command. -/
inductive CommandStatus
  | unknown
  | supported
  | unsupported
  deriving DecidableEq, Repr

/-- The support of a command, and how often it has failed. -/
structure CommandCapability where
  status : CommandStatus := .unknown
  failureCount : Nat := 0
  deriving DecidableEq, Repr

namespace CommandCapability

/-- More failures than that, and a command not known to work is given up. -/
def kThreshold : Nat := 3

/-- The command is not issued any more. -/
def isUnsupported (c : CommandCapability) : Bool := c.status = .unsupported

/-- A command that has succeeded is supported. -/
def recordSuccess (_ : CommandCapability) : CommandCapability :=
  { status := .supported, failureCount := 0 }

/-- Once supported, a command stays supported. -/
def recordFailure (c : CommandCapability) : CommandCapability :=
  if c.status = .supported then c
  else
    { status := if c.failureCount + 1 > kThreshold then .unsupported else c.status
      failureCount := c.failureCount + 1 }

/-- Take an answer down. -/
def record {α : Type} (c : CommandCapability) : Except String α → CommandCapability
  | .ok _ => c.recordSuccess
  | .error _ => c.recordFailure

/-- `callWithTracking`: an unsupported command is not issued; otherwise its answer is
recorded and returned. -/
def callWithTracking {α : Type} (c : CommandCapability) (answer : Except String α) :
    CommandCapability × Except String α :=
  if c.isUnsupported then (c, .error "unsupported") else (c.record answer, answer)

end CommandCapability

/-! ### Read-through caches -/

/-- The state of a `ReadThroughCache`. -/
structure ReadThroughCache (α : Type) where
  value : Option α := none
  timestamp : Int := 0
  deriving DecidableEq, Repr

namespace ReadThroughCache

variable {α : Type}

/-- The cached value, unless it is older than `maxAge`. -/
def fresh (c : ReadThroughCache α) (maxAge now : Int) : Option α :=
  if now - c.timestamp ≤ maxAge then c.value else none

/-- The end of a miss: a fetched value is kept with the time taken before the fetch. -/
def store (c : ReadThroughCache α) (now : Int) : Except String α → ReadThroughCache α
  | .ok v => { value := some v, timestamp := now }
  | .error _ => c

/-- `ReadThroughCache::update`. -/
def update (_ : ReadThroughCache α) (now : Int) (v : α) : ReadThroughCache α :=
  { value := some v, timestamp := now }

theorem value_of_fresh {c : ReadThroughCache α} {maxAge now : Int} {v : α}
    (h : c.fresh maxAge now = some v) : c.value = some v := by
  unfold fresh at h
  split at h
  · exact h
  · cases h

theorem value_store {c : ReadThroughCache α} {now : Int} {result : Except String α} {v : α}
    (h : (c.store now result).value = some v) : result = .ok v ∨ c.value = some v := by
  cases result with
  | error e => exact .inr h
  | ok u => exact .inl (congrArg Except.ok (Option.some.inj h))

/-- What has expired stays expired. -/
theorem fresh_eq_none_mono {c : ReadThroughCache α} {maxAge now later : Int} (hle : now ≤ later)
    (h : c.fresh maxAge now = none) : c.fresh maxAge later = none := by
  unfold fresh at h ⊢
  split
  · rwa [if_pos (by omega)] at h
  · rfl

/-- What is fresh was fresh before. -/
theorem fresh_eq_some_anti {c : ReadThroughCache α} {maxAge now later : Int} (hle : now ≤ later)
    {v : α} (h : c.fresh maxAge later = some v) : c.fresh maxAge now = some v := by
  unfold fresh at h ⊢
  split at h
  · rwa [if_pos (by omega)]
  · cases h

end ReadThroughCache

/-! ### Exchanges and outcomes -/

/-- The commands of the presentation layer. -/
inductive PresentationCall
  | getOperation
  | getRoomTemperature
  | getOutdoorTemperature
  | getHumidity
  | getCoarseTemperatureAndHumidity
  | getFanMode
  | getProtocolVersion
  | getExtendedProtocolVersion
  | getUnitState
  | setOperation (onOff : Bool) (mode : OperatingMode) (setPoint : Int16) (fanMode : FanMode)
  deriving DecidableEq, Repr

/-- The clock readings of a call, in order, and the answers it gets if it asks. -/
structure Exchange where
  now : Int
  later : Int
  operation : Except String GetOperationResult
  roomTemperature : Except String Int16
  outdoorTemperature : Except String Int16
  humidity : Except String UInt8
  coarseTemperatureAndHumidity : Except String GetCoarseTemperatureAndHumidityResult
  fanMode : Except String FanMode
  protocolVersion : Except String (UInt8 × UInt8)
  extendedProtocolVersion : Except String (UInt8 × UInt8)
  unitState : Except String UnitState
  setOperation : Except String Unit

/-- A unit that answers everything, with the fan on the given mode. -/
def Exchange.answering (now : Int) (fan : FanMode) : Exchange where
  now := now
  later := now
  operation := .ok ⟨true, .cool, 2400, fan⟩
  roomTemperature := .ok 2300
  outdoorTemperature := .ok 1500
  humidity := .ok 50
  coarseTemperatureAndHumidity := .ok ⟨2300, 1500, 50⟩
  fanMode := .ok fan
  protocolVersion := .ok (2, 0)
  extendedProtocolVersion := .ok (3, 20)
  unitState := .ok ⟨false, false, true, true⟩
  setOperation := .ok ()

/-- The state of an `S21Manager`. -/
structure S21Manager where
  cacheMaxAge : Int
  isReady : Bool := false
  protocolMajor : UInt8 := 0
  roomTemperatureCapability : CommandCapability := {}
  outdoorTemperatureCapability : CommandCapability := {}
  humidityCapability : CommandCapability := {}
  coarseTemperatureAndHumidityCapability : CommandCapability := {}
  fanModeCapability : CommandCapability := {}
  unitStateCapability : CommandCapability := {}
  operationCache : ReadThroughCache GetOperationResult := {}
  coarseTemperatureAndHumidityCache : ReadThroughCache GetCoarseTemperatureAndHumidityResult := {}
  fanModeCache : ReadThroughCache FanMode := {}
  deriving DecidableEq, Repr

/-- What a call leaves, returns and issues. -/
structure Outcome (α : Type) where
  manager : S21Manager
  result : Except String α
  calls : List PresentationCall

namespace Outcome

variable {α β : Type}

/-- Return a value. -/
def pure (m : S21Manager) (v : α) : Outcome α := ⟨m, .ok v, []⟩

/-- Return an error. -/
def fail (m : S21Manager) (message : String) : Outcome α := ⟨m, .error message, []⟩

/-- Go on after a success; an error is returned as it is. -/
def andThen (o : Outcome α) (f : S21Manager → α → Outcome β) : Outcome β :=
  match o.result with
  | .error e => ⟨o.manager, .error e, o.calls⟩
  | .ok v =>
      let o' := f o.manager v
      { o' with calls := o.calls ++ o'.calls }

/-- Go on after a failure; a success is returned as it is. -/
def orElse (o : Outcome α) (f : S21Manager → Outcome α) : Outcome α :=
  match o.result with
  | .ok _ => o
  | .error _ =>
      let o' := f o.manager
      { o' with calls := o.calls ++ o'.calls }

/-- What both parts of a call keep, the call keeps. -/
theorem andThen_keeps {P : S21Manager → Prop} {o : Outcome α} {f : S21Manager → α → Outcome β}
    (ho : P o.manager) (hf : ∀ m v, P m → P (f m v).manager) : P (o.andThen f).manager := by
  unfold andThen
  split
  · exact ho
  · exact hf _ _ ho

theorem orElse_keeps {P : S21Manager → Prop} {o : Outcome α} {f : S21Manager → Outcome α}
    (ho : P o.manager) (hf : ∀ m, P m → P (f m).manager) : P (o.orElse f).manager := by
  unfold orElse
  split
  · exact ho
  · exact hf _ ho

/-- What a call issues, one of its parts issues. -/
theorem mem_calls_andThen {o : Outcome α} {f : S21Manager → α → Outcome β} {q : PresentationCall}
    (h : q ∈ (o.andThen f).calls) : q ∈ o.calls ∨ ∃ v, q ∈ (f o.manager v).calls := by
  unfold andThen at h
  split at h
  · exact .inl h
  · rename_i v _
    rcases List.mem_append.mp h with hfirst | hthen
    · exact .inl hfirst
    · exact .inr ⟨v, hthen⟩

theorem mem_calls_orElse {o : Outcome α} {f : S21Manager → Outcome α} {q : PresentationCall}
    (h : q ∈ (o.orElse f).calls) : q ∈ o.calls ∨ q ∈ (f o.manager).calls := by
  unfold orElse at h
  split at h
  · exact .inl h
  · exact List.mem_append.mp h

end Outcome

/-- The command a tracked call issues, if the capability lets it. -/
def CommandCapability.issued (c : CommandCapability) (call : PresentationCall) :
    List PresentationCall :=
  if c.isUnsupported then [] else [call]

theorem CommandCapability.eq_of_mem_issued {c : CommandCapability} {call q : PresentationCall}
    (h : q ∈ c.issued call) : q = call := by
  unfold issued at h
  split at h
  · cases h
  · exact List.mem_singleton.mp h

theorem CommandCapability.mem_issued_iff {c : CommandCapability} {call : PresentationCall} :
    call ∈ c.issued call ↔ c.isUnsupported = false := by
  unfold issued
  cases c.isUnsupported <;> simp

namespace S21Manager

/-- The constructor. -/
def new (cacheMaxAge : Int) : S21Manager := { cacheMaxAge }

section Calls

variable (m : S21Manager) (x : Exchange)

/-! ### Cache reads -/

/-- `mOperationCache.get()`, with the clock reading it takes. -/
def readOperation (now : Int) : Outcome GetOperationResult :=
  match m.operationCache.fresh m.cacheMaxAge now with
  | some op => .pure m op
  | none =>
      { manager := { m with operationCache := m.operationCache.store now x.operation }
        result := x.operation
        calls := [.getOperation] }

/-- `mFanModeCache.get()`: a miss goes through the capability of RG. -/
def readFanMode (now : Int) : Outcome FanMode :=
  match m.fanModeCache.fresh m.cacheMaxAge now with
  | some fan => .pure m fan
  | none =>
      let (capability, result) := m.fanModeCapability.callWithTracking x.fanMode
      { manager := { m with
          fanModeCapability := capability
          fanModeCache := m.fanModeCache.store now result }
        result := result
        calls := m.fanModeCapability.issued .getFanMode }

/-- `mCoarseTemperatureAndHumidityCache.get()`: a miss goes through the capability of F9. -/
def readCoarseTemperatureAndHumidity (now : Int) :
    Outcome GetCoarseTemperatureAndHumidityResult :=
  match m.coarseTemperatureAndHumidityCache.fresh m.cacheMaxAge now with
  | some coarse => .pure m coarse
  | none =>
      let (capability, result) :=
        m.coarseTemperatureAndHumidityCapability.callWithTracking x.coarseTemperatureAndHumidity
      { manager := { m with
          coarseTemperatureAndHumidityCapability := capability
          coarseTemperatureAndHumidityCache :=
            m.coarseTemperatureAndHumidityCache.store now result }
        result := result
        calls := m.coarseTemperatureAndHumidityCapability.issued
          .getCoarseTemperatureAndHumidity }

/-! ### Init -/

/-- `S21Manager::Init`, with its return code (0 or `-ENODEV`). A failed query of the
extended version keeps the legacy one. -/
def init : S21Manager × Int × List PresentationCall :=
  if m.isReady then (m, 0, [])
  else
    match x.protocolVersion with
    | .error _ => (m, -19, [.getProtocolVersion])
    | .ok version =>
        if version.1 ≥ 2 then
          let major :=
            match x.extendedProtocolVersion with
            | .ok extVersion => extVersion.1
            | .error _ => version.1
          ({ m with isReady := true, protocolMajor := major }, 0,
            [.getProtocolVersion, .getExtendedProtocolVersion])
        else ({ m with isReady := true, protocolMajor := version.1 }, 0, [.getProtocolVersion])

/-- `if (!isReady()) return notReady();` -/
def whenReady {α : Type} (body : Outcome α) : Outcome α :=
  if m.isReady then body else .fail m "not ready"

/-! ### Getters -/

/-- `S21Manager::getOperation`. F1 may report Auto when the fan is on Quiet, so a running
unit that reports Auto is cross-checked with RG. -/
def getOperation : Outcome GetOperationResult :=
  m.whenReady <| (m.readOperation x x.now).andThen fun m op =>
    if op.onOff && op.fanMode = .auto then
      let fan := m.readFanMode x x.later
      match fan.result with
      | .ok fanMode => { manager := fan.manager, result := .ok { op with fanMode },
                         calls := fan.calls }
      | .error _ => { manager := fan.manager, result := .ok op, calls := fan.calls }
    else .pure m op

/-- The getters that read one component of the operation cache. -/
def getComponent {α : Type} (component : GetOperationResult → α) : Outcome α :=
  m.whenReady <| (m.readOperation x x.now).andThen fun m op => .pure m (component op)

def getOnOff : Outcome Bool := m.getComponent x GetOperationResult.onOff

def getOperatingMode : Outcome OperatingMode := m.getComponent x GetOperationResult.mode

def getSetpoint : Outcome Int16 := m.getComponent x GetOperationResult.setPoint

/-- `S21Manager::getFanMode`: RG, and the operation cache where it fails. -/
def getFanMode : Outcome FanMode :=
  m.whenReady <| (m.readFanMode x x.now).orElse fun m =>
    (m.readOperation x x.later).andThen fun m op => .pure m op.fanMode

/-- A tracked sensor command, and a component of the coarse reading where it fails. Sensor
commands are not cached, so the coarse cache takes the first clock reading. -/
def getSensor {α : Type} (capability : CommandCapability)
    (keep : S21Manager → CommandCapability → S21Manager) (answer : Except String α)
    (call : PresentationCall) (component : GetCoarseTemperatureAndHumidityResult → α) :
    Outcome α :=
  m.whenReady <|
    let tracked := capability.callWithTracking answer
    Outcome.orElse
      { manager := keep m tracked.1, result := tracked.2, calls := capability.issued call }
      fun m => (m.readCoarseTemperatureAndHumidity x x.now).andThen fun m coarse =>
        .pure m (component coarse)

def getRoomTemperature : Outcome Int16 :=
  m.getSensor x m.roomTemperatureCapability
    (fun m capability => { m with roomTemperatureCapability := capability }) x.roomTemperature
    .getRoomTemperature GetCoarseTemperatureAndHumidityResult.indoor

def getOutdoorTemperature : Outcome Int16 :=
  m.getSensor x m.outdoorTemperatureCapability
    (fun m capability => { m with outdoorTemperatureCapability := capability })
    x.outdoorTemperature .getOutdoorTemperature GetCoarseTemperatureAndHumidityResult.outdoor

def getHumidity : Outcome UInt8 :=
  m.getSensor x m.humidityCapability
    (fun m capability => { m with humidityCapability := capability }) x.humidity
    .getHumidity GetCoarseTemperatureAndHumidityResult.humidity

/-- `S21Manager::getUnitState`: tracked, without a fallback. -/
def getUnitState : Outcome UnitState :=
  m.whenReady
    { manager := { m with
        unitStateCapability := (m.unitStateCapability.callWithTracking x.unitState).1 }
      result := (m.unitStateCapability.callWithTracking x.unitState).2
      calls := m.unitStateCapability.issued .getUnitState }

/-! ### Setters -/

/-- `S21Manager::setOperation`, with the clock reading of the cache update: a successful
write refreshes the operation cache. -/
def writeOperation (now : Int) (op : GetOperationResult) : Outcome Unit :=
  m.whenReady
    { manager :=
        match x.setOperation with
        | .ok _ => { m with operationCache := m.operationCache.update now op }
        | .error _ => m
      result := x.setOperation
      calls := [.setOperation op.onOff op.mode op.setPoint op.fanMode] }

/-- `S21Manager::setOperation`, called by itself. -/
def setOperation (op : GetOperationResult) : Outcome Unit := m.writeOperation x x.now op

/-- The setters that change one component of the cached operation. -/
def setComponent (change : GetOperationResult → GetOperationResult) : Outcome Unit :=
  m.whenReady <| (m.readOperation x x.now).andThen fun m op =>
    m.writeOperation x x.later (change op)

def setOnOff (onOff : Bool) : Outcome Unit := m.setComponent x fun op => { op with onOff }

def setSetpoint (setPoint : Int16) : Outcome Unit :=
  m.setComponent x fun op => { op with setPoint }

def setFanMode (fanMode : FanMode) : Outcome Unit :=
  m.setComponent x fun op => { op with fanMode }

end Calls

/-! ### What the calls keep and issue -/

section Spec

variable {m : S21Manager} {x : Exchange}

theorem whenReady_of_ready (hready : m.isReady = true) {α : Type} (body : Outcome α) :
    m.whenReady body = body := by
  rw [whenReady, if_pos hready]

/-- What does not depend on the coarse reading nor on a capability, a sensor call keeps. -/
theorem getSensor_keeps {α : Type} {P : S21Manager → Prop} {capability : CommandCapability}
    {keep : S21Manager → CommandCapability → S21Manager} {answer : Except String α}
    {call : PresentationCall} {component : GetCoarseTemperatureAndHumidityResult → α}
    (h : P m) (hkeep : ∀ c, P (keep m c))
    (hcoarse : ∀ m c cache, P m → P { m with
      coarseTemperatureAndHumidityCapability := c
      coarseTemperatureAndHumidityCache := cache }) :
    P (m.getSensor x capability keep answer call component).manager := by
  have hread : ∀ m, P m → P (m.readCoarseTemperatureAndHumidity x x.now).manager := by
    intro m hm
    unfold readCoarseTemperatureAndHumidity
    cases m.coarseTemperatureAndHumidityCache.fresh m.cacheMaxAge x.now with
    | some coarse => exact hm
    | none => exact hcoarse m _ _ hm
  unfold getSensor whenReady
  split
  · refine Outcome.orElse_keeps (hkeep _) fun m' hm' => ?_
    exact Outcome.andThen_keeps (hread m' hm') fun _ _ hm'' => hm''
  · exact h

/-- Reading the fan mode issues RG or nothing. -/
theorem eq_of_mem_readFanMode {now : Int} {q : PresentationCall}
    (h : q ∈ (m.readFanMode x now).calls) : q = .getFanMode := by
  unfold readFanMode at h
  cases hfresh : m.fanModeCache.fresh m.cacheMaxAge now with
  | some fan =>
      rw [hfresh] at h
      cases h
  | none =>
      rw [hfresh] at h
      exact CommandCapability.eq_of_mem_issued h

/-- Reading the coarse values issues F9 or nothing. -/
theorem eq_of_mem_readCoarse {now : Int} {q : PresentationCall}
    (h : q ∈ (m.readCoarseTemperatureAndHumidity x now).calls) :
    q = .getCoarseTemperatureAndHumidity := by
  unfold readCoarseTemperatureAndHumidity at h
  split at h
  · cases h
  · exact CommandCapability.eq_of_mem_issued h

/-- A sensor call issues its own command or the coarse one. -/
theorem eq_of_mem_getSensor {α : Type} {capability : CommandCapability}
    {keep : S21Manager → CommandCapability → S21Manager} {answer : Except String α}
    {call q : PresentationCall} {component : GetCoarseTemperatureAndHumidityResult → α}
    (h : q ∈ (m.getSensor x capability keep answer call component).calls) :
    q = call ∨ q = .getCoarseTemperatureAndHumidity := by
  unfold getSensor whenReady at h
  split at h
  · rcases Outcome.mem_calls_orElse h with hown | hcoarse
    · exact .inl (CommandCapability.eq_of_mem_issued hown)
    · rcases Outcome.mem_calls_andThen hcoarse with hread | ⟨v, hnone⟩
      · exact .inr (eq_of_mem_readCoarse hread)
      · cases hnone
  · cases h

/-- The unit state is asked for with its own command only. -/
theorem eq_of_mem_getUnitState {q : PresentationCall} (h : q ∈ (m.getUnitState x).calls) :
    q = .getUnitState := by
  unfold getUnitState whenReady at h
  split at h
  · exact CommandCapability.eq_of_mem_issued h
  · cases h

/-- The operation `getOperation` starts from: the cached one while it is fresh, and the
reply otherwise. -/
def startingOperation (m : S21Manager) (x : Exchange) : Option GetOperationResult :=
  match m.operationCache.fresh m.cacheMaxAge x.now with
  | some op => some op
  | none => x.operation.toOption

/-- Reading the operation leaves all that `readFanMode` looks at. -/
theorem readOperation_fan (m : S21Manager) (x : Exchange) (now : Int) :
    (m.readOperation x now).manager.fanModeCache = m.fanModeCache ∧
      (m.readOperation x now).manager.fanModeCapability = m.fanModeCapability ∧
      (m.readOperation x now).manager.cacheMaxAge = m.cacheMaxAge := by
  unfold readOperation
  split
  · exact ⟨rfl, rfl, rfl⟩
  · exact ⟨rfl, rfl, rfl⟩

theorem readOperation_eq_ok_iff {op : GetOperationResult} :
    (m.readOperation x x.now).result = .ok op ↔ m.startingOperation x = some op := by
  unfold readOperation startingOperation
  cases m.operationCache.fresh m.cacheMaxAge x.now with
  | some cached => simp [Outcome.pure]
  | none => cases x.operation <;> simp [Except.toOption]

/-- The cross-check with RG, as `getOperation` makes it. -/
theorem getOperation_crossCheck {op : GetOperationResult} (hready : m.isReady = true)
    (hstart : m.startingOperation x = some op) (hauto : op.onOff = true ∧ op.fanMode = .auto) :
    (m.getOperation x).result =
        (match ((m.readOperation x x.now).manager.readFanMode x x.later).result with
        | .ok fanMode => .ok { op with fanMode }
        | .error _ => .ok op) ∧
      (m.getOperation x).manager =
        ((m.readOperation x x.now).manager.readFanMode x x.later).manager ∧
      (m.getOperation x).calls = (m.readOperation x x.now).calls ++
        ((m.readOperation x x.now).manager.readFanMode x x.later).calls := by
  have hcheck : (op.onOff && decide (op.fanMode = .auto)) = true := by
    simp [hauto.1, hauto.2]
  unfold getOperation whenReady Outcome.andThen
  rw [if_pos hready, readOperation_eq_ok_iff.mpr hstart]
  dsimp only
  rw [if_pos hcheck]
  cases ((m.readOperation x x.now).manager.readFanMode x x.later).result with
  | ok f => exact ⟨rfl, rfl, rfl⟩
  | error e => exact ⟨rfl, rfl, rfl⟩

theorem getOperation_unchecked {op : GetOperationResult} (hready : m.isReady = true)
    (hstart : m.startingOperation x = some op)
    (hauto : ¬ (op.onOff = true ∧ op.fanMode = .auto)) :
    (m.getOperation x).result = .ok op ∧
      (m.getOperation x).manager = (m.readOperation x x.now).manager := by
  have hcheck : ¬ (op.onOff && decide (op.fanMode = .auto)) = true := by
    simpa using hauto
  unfold getOperation whenReady Outcome.andThen
  rw [if_pos hready, readOperation_eq_ok_iff.mpr hstart]
  dsimp only
  rw [if_neg hcheck]
  exact ⟨rfl, rfl⟩

theorem getOperation_not_ready (hready : m.isReady = false) :
    m.getOperation x = .fail m "not ready" := by
  rw [getOperation, whenReady, hready, if_neg Bool.false_ne_true]

/-- A call whose F1 fails gives no operation. -/
theorem getOperation_no_start (hready : m.isReady = true)
    (hstart : m.startingOperation x = none) :
    (∀ op, (m.getOperation x).result ≠ .ok op) ∧
      (m.getOperation x).manager = (m.readOperation x x.now).manager := by
  unfold getOperation whenReady Outcome.andThen
  rw [if_pos hready]
  cases hread : (m.readOperation x x.now).result with
  | error e =>
      refine ⟨fun op hop => ?_, rfl⟩
      cases hop
  | ok op =>
      rw [readOperation_eq_ok_iff.mp hread] at hstart
      cases hstart

/-- With a fresh entry, `getOperation` answers from it, but for the fan mode, and does not
ask the device. -/
theorem getOperation_of_fresh (hready : m.isReady = true) {op : GetOperationResult}
    (hfresh : m.operationCache.fresh m.cacheMaxAge x.now = some op) :
    (∃ fanMode, (m.getOperation x).result = .ok { op with fanMode }) ∧
      PresentationCall.getOperation ∉ (m.getOperation x).calls := by
  rw [getOperation, whenReady_of_ready hready, readOperation, hfresh]
  unfold Outcome.andThen Outcome.pure
  dsimp only
  split
  · have hcalls : PresentationCall.getOperation ∉ (m.readFanMode x x.later).calls :=
      fun h => absurd (eq_of_mem_readFanMode h) (by simp)
    cases (m.readFanMode x x.later).result with
    | ok fanMode => exact ⟨⟨fanMode, rfl⟩, hcalls⟩
    | error e => exact ⟨⟨op.fanMode, rfl⟩, hcalls⟩
  · exact ⟨⟨op.fanMode, rfl⟩, List.not_mem_nil⟩

/-- Without one it asks, and answers what the device says, but for the fan mode. -/
theorem getOperation_of_expired (hready : m.isReady = true)
    (hexpired : m.operationCache.fresh m.cacheMaxAge x.now = none) :
    PresentationCall.getOperation ∈ (m.getOperation x).calls ∧
      ∀ answer, (m.getOperation x).result = .ok answer →
        ∃ op, x.operation = .ok op ∧ answer = { op with fanMode := answer.fanMode } := by
  rw [getOperation, whenReady_of_ready hready, readOperation, hexpired]
  unfold Outcome.andThen
  dsimp only
  cases x.operation with
  | error e =>
      refine ⟨List.mem_singleton.mpr rfl, fun answer hanswer => ?_⟩
      cases hanswer
  | ok op =>
      refine ⟨List.mem_append_left _ (List.mem_singleton.mpr rfl), fun answer hanswer => ?_⟩
      refine ⟨op, rfl, ?_⟩
      dsimp only at hanswer
      split at hanswer
      · split at hanswer
        · rw [← Except.ok.inj hanswer]
        · rw [← Except.ok.inj hanswer]
      · rw [← Except.ok.inj hanswer]

end Spec

end S21Manager

end DaikinBridge.S21
