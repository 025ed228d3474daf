import DaikinBridge.S21.ManagerReads
import DaikinBridge.Sync.Reconciler

/-!
# DaikinBridge.Bridge.AirConditionerManager

The S21 work queue (`src/airconditioner_manager.cpp`): polls in two phases, the command
pump, and the retried init sequence, all of which run one at a time against the same
`S21Manager`.

An operational observation is meant to be a fresh reading of the device
(`s21_observation.h`). The poll takes it from `S21Manager::getOperation`, which answers from
the operation cache while that is fresh, and the cache is refreshed by the bridge's own
writes as well. `poll_fresh_iff` says which polls pass on a reading of their own: those that
find the cache expired. `observations_fresh_iff` lifts it to runs of the queue.
-/

namespace DaikinBridge.Bridge

open S21 Sync

/-- The state of the manager, with the S21 manager and the kernel it drives. -/
structure AirConditionerManager where
  s21Manager : S21Manager
  kernel : Reconciler
  consecutivePollFailures : Nat := 0
  environmentalReadCountdown : Nat := 0
  deriving DecidableEq, Repr

/-- What the calls of a poll meet, and the clock of the kernel when the observation is
applied. -/
structure PollExchange where
  roomTemperature : Exchange
  outdoorTemperature : Exchange
  humidity : Exchange
  operation : Exchange
  unitState : Exchange
  now : Int

/-- The manager after a poll or a phase of it, the operational observation passed to the
kernel, and the commands issued. -/
structure PollResult where
  after : AirConditionerManager
  observation : Option S21OperationalObservation
  calls : List PresentationCall

namespace AirConditionerManager

/-- The sensors are read in every sixth poll. -/
def kS21EnvironmentalSensorReadTicks : Nat := 6

/-- That many polls in a row must fail before the link counts as down. -/
def kReachableFailureThreshold : Nat := 3

/-- As booted, with any maximal cache age and configuration of the kernel. -/
def bootedWith (maxAge : Int) (config : ReconcilerConfig) : AirConditionerManager where
  s21Manager := .new maxAge
  kernel := .new config {}

/-- As booted, with a maximal cache age of 10 s, the default of `S21Manager`. The production
stack (`s21_stack.cpp`) passes 5 s, so results for production are stated of any age; this is
where fixed runs start. -/
def booted : AirConditionerManager where
  s21Manager := .new 10000
  kernel := .boot

section Poll

variable (a : AirConditionerManager) (p : PollExchange)

/-- `PollEnvironmentalPhase`: every sixth poll, and all three sensors or nothing. -/
def pollEnvironmentalPhase : PollResult :=
  if a.environmentalReadCountdown = 0 then
    let indoor := a.s21Manager.getRoomTemperature p.roomTemperature
    let outdoor := indoor.manager.getOutdoorTemperature p.outdoorTemperature
    let humidity := outdoor.manager.getHumidity p.humidity
    { after := { a with
        s21Manager := humidity.manager
        environmentalReadCountdown := kS21EnvironmentalSensorReadTicks - 1
        kernel :=
          match indoor.result, outdoor.result, humidity.result with
          | .ok i, .ok o, .ok h => (a.kernel.applyEnvironmentalObservation
              { indoorTemperatureCelsius := i
                outdoorTemperatureCelsius := o
                indoorRelativeHumidityPercent := h }).1
          | _, _, _ => a.kernel }
      observation := none
      calls := indoor.calls ++ outdoor.calls ++ humidity.calls }
  else
    { after := { a with environmentalReadCountdown := a.environmentalReadCountdown - 1 }
      observation := none
      calls := [] }

/-- The unit state is queried only when the unit is on. -/
def queryValve (m : S21Manager) (x : Exchange) (onOff : Bool) :
    S21Manager × Option Bool × List PresentationCall :=
  if onOff then
    let unitState := m.getUnitState x
    match unitState.result with
    | .ok state => (unitState.manager, some state.refrigerantValveOpen, unitState.calls)
    | .error _ => (unitState.manager, none, unitState.calls)
  else (m, none, [])

/-- `PollOperationalPhase`. A failed read counts towards the link being down; a successful
one is passed on as an observation. -/
def pollOperationalPhase : PollResult :=
  let op := a.s21Manager.getOperation p.operation
  match op.result with
  | .error _ =>
      let failures := a.consecutivePollFailures + 1
      { after := { a with
          s21Manager := op.manager
          consecutivePollFailures := failures
          kernel :=
            if failures ≥ kReachableFailureThreshold then a.kernel.notifyLinkDown else a.kernel }
        observation := none
        calls := op.calls }
  | .ok operation =>
      let valve := queryValve op.manager p.unitState operation.onOff
      let obs : S21OperationalObservation :=
        { onOff := operation.onOff
          operatingMode := operation.mode
          setpointCelsius := operation.setPoint
          fanMode := operation.fanMode
          refrigerantValveOpen := valve.2.1 }
      { after := { a with
          s21Manager := valve.1
          consecutivePollFailures := 0
          kernel := (a.kernel.applyOperationalObservation p.now obs).1 }
        observation := some obs
        calls := op.calls ++ valve.2.2 }

/-- `Poll`: the environmental phase first, so that the operational one sees the indoor
temperature of the same tick. -/
def poll : PollResult :=
  let environmental := a.pollEnvironmentalPhase p
  let operational := environmental.after.pollOperationalPhase p
  { operational with calls := environmental.calls ++ operational.calls }

end Poll

/-- `CommandWorkHandler`: the pending command is taken, sent, and reported sent or failed.
Intents may arrive while it is being sent. -/
def commandWork (a : AirConditionerManager) (x : Exchange) (meanwhile : List (Int × WriteIntent)) :
    AirConditionerManager :=
  match a.kernel.pendingCommand with
  | none => a
  | some c =>
      let sent := a.s21Manager.setOperation x
        ⟨c.onOff, c.operatingMode, c.setpointCelsius, c.fanMode⟩
      let kernel := meanwhile.foldl (fun r write => (r.applyIntent write.1 write.2).1) a.kernel
      { a with
        s21Manager := sent.manager
        kernel :=
          match sent.result with
          | .ok _ => kernel.onCommandSent c
          | .error _ => kernel.onCommandFailed }

/-- What the work queue runs, and the intents that arrive in between. -/
inductive WorkItem
  | initRetry (x : Exchange)
  | poll (p : PollExchange)
  | command (x : Exchange) (meanwhile : List (Int × WriteIntent))
  | intent (now : Int) (i : WriteIntent)

/-- One work item, or an intent. -/
def work (a : AirConditionerManager) : WorkItem → AirConditionerManager
  | .initRetry x => { a with s21Manager := (a.s21Manager.init x).1 }
  | .poll p => (a.poll p).after
  | .command x meanwhile => a.commandWork x meanwhile
  | .intent now i => { a with kernel := (a.kernel.applyIntent now i).1 }

/-! ### Fresh readings -/

/-- The S21 manager would answer `getOperation` in the same way. -/
structure SameOperation (m m' : S21Manager) : Prop where
  isReady : m'.isReady = m.isReady
  cacheMaxAge : m'.cacheMaxAge = m.cacheMaxAge
  operationCache : m'.operationCache = m.operationCache

theorem SameOperation.trans {m m' m'' : S21Manager} (h : SameOperation m m')
    (h' : SameOperation m' m'') : SameOperation m m'' :=
  ⟨h'.isReady.trans h.isReady, h'.cacheMaxAge.trans h.cacheMaxAge,
    h'.operationCache.trans h.operationCache⟩

/-- Sensor calls do not touch the operation cache. -/
theorem sameOperation_getSensor (m : S21Manager) {x : Exchange} {α : Type}
    {capability : CommandCapability} {keep : S21Manager → CommandCapability → S21Manager}
    {answer : Except String α} {call : PresentationCall}
    {component : GetCoarseTemperatureAndHumidityResult → α}
    (hkeep : ∀ c, SameOperation m (keep m c)) :
    SameOperation m (m.getSensor x capability keep answer call component).manager :=
  S21Manager.getSensor_keeps (P := SameOperation m) ⟨rfl, rfl, rfl⟩ hkeep
    fun _ _ _ h => ⟨h.isReady, h.cacheMaxAge, h.operationCache⟩

section Fresh

variable (a : AirConditionerManager) (p : PollExchange)

theorem sameOperation_environmental :
    SameOperation a.s21Manager (a.pollEnvironmentalPhase p).after.s21Manager := by
  unfold pollEnvironmentalPhase
  split
  · exact ((sameOperation_getSensor _ fun _ => ⟨rfl, rfl, rfl⟩).trans
      (sameOperation_getSensor _ fun _ => ⟨rfl, rfl, rfl⟩)).trans
      (sameOperation_getSensor _ fun _ => ⟨rfl, rfl, rfl⟩)
  · exact ⟨rfl, rfl, rfl⟩

/-- The environmental phase does not ask for the operation. -/
theorem getOperation_notMem_environmental :
    PresentationCall.getOperation ∉ (a.pollEnvironmentalPhase p).calls := by
  unfold pollEnvironmentalPhase
  split
  · intro h
    rcases List.mem_append.mp h with h | hhumidity
    · rcases List.mem_append.mp h with hroom | houtdoor
      · rcases S21Manager.eq_of_mem_getSensor hroom with h | h <;> cases h
      · rcases S21Manager.eq_of_mem_getSensor houtdoor with h | h <;> cases h
    · rcases S21Manager.eq_of_mem_getSensor hhumidity with h | h <;> cases h
  · exact List.not_mem_nil

/-- Neither does the query of the valve. -/
theorem getOperation_notMem_queryValve (m : S21Manager) (x : Exchange) (onOff : Bool) :
    PresentationCall.getOperation ∉ (queryValve m x onOff).2.2 := by
  unfold queryValve
  split
  · intro h
    have hunit : PresentationCall.getOperation ∈ (m.getUnitState x).calls := by
      dsimp only at h
      split at h
      · exact h
      · exact h
    cases S21Manager.eq_of_mem_getUnitState hunit
  · exact List.not_mem_nil

/-- The observation that a poll passes on, if any, carries the power, mode and setpoint of
a reading made during the poll. -/
def FreshPoll : Prop :=
  ∀ obs, (a.poll p).observation = some obs →
    PresentationCall.getOperation ∈ (a.poll p).calls ∧
      ∃ op, p.operation.operation = .ok op ∧ obs.onOff = op.onOff ∧
        obs.operatingMode = op.mode ∧ obs.setpointCelsius = op.setPoint

/-- The poll finds the operation cache without a fresh entry. -/
def FindsCacheExpired : Prop :=
  a.s21Manager.isReady = true →
    a.s21Manager.operationCache.fresh a.s21Manager.cacheMaxAge p.operation.now = none

/-- What the operational phase passes on is what `getOperation` answers. -/
theorem observation_operational_iff {obs : S21OperationalObservation} :
    (a.pollOperationalPhase p).observation = some obs ↔
      ∃ op, (a.s21Manager.getOperation p.operation).result = .ok op ∧
        obs = ⟨op.onOff, op.mode, op.setPoint, op.fanMode,
          (queryValve (a.s21Manager.getOperation p.operation).manager p.unitState
            op.onOff).2.1⟩ := by
  unfold pollOperationalPhase
  dsimp only
  cases (a.s21Manager.getOperation p.operation).result with
  | error e => simp
  | ok op =>
      simp only [Option.some.injEq, Except.ok.injEq]
      constructor
      · rintro rfl
        exact ⟨op, rfl, rfl⟩
      · rintro ⟨op', rfl, rfl⟩
        rfl

/-- The operational phase asks for the operation exactly when `getOperation` does. -/
theorem getOperation_mem_operational_iff :
    PresentationCall.getOperation ∈ (a.pollOperationalPhase p).calls ↔
      PresentationCall.getOperation ∈ (a.s21Manager.getOperation p.operation).calls := by
  unfold pollOperationalPhase
  dsimp only
  cases (a.s21Manager.getOperation p.operation).result with
  | error e => exact Iff.rfl
  | ok op =>
      dsimp only
      rw [List.mem_append, or_iff_left (getOperation_notMem_queryValve _ _ _)]

end Fresh

/-- **One poll.** It passes on a reading of its own exactly when it finds the operation
cache expired. -/
theorem poll_fresh_iff (a : AirConditionerManager) (p : PollExchange) :
    a.FreshPoll p ↔ a.FindsCacheExpired p := by
  have hsame := sameOperation_environmental a p
  let b := (a.pollEnvironmentalPhase p).after
  have hcalls : PresentationCall.getOperation ∈ (a.poll p).calls ↔
      PresentationCall.getOperation ∈ (b.s21Manager.getOperation p.operation).calls := by
    rw [← getOperation_mem_operational_iff]
    exact List.mem_append.trans (or_iff_right (getOperation_notMem_environmental a p))
  unfold FreshPoll FindsCacheExpired
  rw [hcalls, ← hsame.isReady, ← hsame.cacheMaxAge, ← hsame.operationCache]
  constructor
  · intro hfresh hready
    cases hcache : b.s21Manager.operationCache.fresh b.s21Manager.cacheMaxAge p.operation.now with
    | none => rfl
    | some op =>
        obtain ⟨⟨fanMode, hresult⟩, hnone⟩ := S21Manager.getOperation_of_fresh hready hcache
        obtain ⟨hasked, -⟩ := hfresh _ ((observation_operational_iff b p).mpr ⟨_, hresult, rfl⟩)
        exact absurd hasked hnone
  · intro hexpired obs hobs
    obtain ⟨op, hresult, rfl⟩ := (observation_operational_iff b p).mp hobs
    have hready : b.s21Manager.isReady = true := by
      by_contra hnot
      rw [S21Manager.getOperation, S21Manager.whenReady, if_neg hnot] at hresult
      cases hresult
    obtain ⟨hasked, hanswer⟩ := S21Manager.getOperation_of_expired hready (hexpired hready)
    obtain ⟨reading, hreading, heq⟩ := hanswer op hresult
    rw [heq]
    exact ⟨hasked, reading, hreading, rfl, rfl, rfl⟩

/-! ### Runs of the work queue -/

/-- The observation of a poll, if it passes one on, is a reading of its own. -/
def ObservationFresh (a : AirConditionerManager) : WorkItem → Prop
  | .poll p => a.FreshPoll p
  | _ => True

/-- A poll finds the operation cache expired. -/
def CacheExpired (a : AirConditionerManager) : WorkItem → Prop
  | .poll p => a.FindsCacheExpired p
  | _ => True

/-- **Fresh observations.** Along every run of the work queue, from any state, every
operational observation carries a reading made during its own poll if and only if every
poll finds the operation cache empty or older than the maximal age. -/
theorem observations_fresh_iff (a : AirConditionerManager) (items : List WorkItem) :
    Lib.Along work ObservationFresh a items ↔ Lib.Along work CacheExpired a items := by
  refine Lib.along_congr fun a item => ?_
  cases item with
  | poll p => exact poll_fresh_iff a p
  | _ => exact Iff.rfl

/-- The clock readings of a work item, in order. -/
def WorkItem.times : WorkItem → List Int
  | .initRetry _ => []
  | .poll p => [p.roomTemperature.now, p.outdoorTemperature.now, p.humidity.now, p.operation.now,
      p.operation.later, p.now]
  | .command x meanwhile => meanwhile.map Prod.fst ++ [x.now]
  | .intent now _ => [now]

/-- A poll of a unit that cools to 24 °C. -/
def coolingPoll (now : Int) : PollExchange where
  roomTemperature := .answering now .high
  outdoorTemperature := .answering now .high
  humidity := .answering now .high
  operation := .answering now .high
  unitState := .answering now .high
  now := now

/-- A poll eight seconds after a send passes the bridge's own command on as an observation,
without asking the unit. -/
theorem own_write_observed :
    ¬ ∀ items : List WorkItem, (items.flatMap WorkItem.times).Pairwise (· ≤ ·) →
      Lib.Along work ObservationFresh booted items := by
  intro hclaim
  obtain ⟨-, -, -, -, hpoll, -⟩ := hclaim
    [.initRetry (.answering 0 .high), .poll (coolingPoll 1000),
      .intent 3000 (.setOccupiedCoolingSetpoint 2600), .command (.answering 3050 .high) [],
      .poll (coolingPoll 11000)] (by decide)
  obtain ⟨hasked, -⟩ := hpoll ⟨true, .cool, 2600, .high, some true⟩ (by decide +kernel)
  exact absurd hasked (by decide +kernel)

end AirConditionerManager

end DaikinBridge.Bridge
