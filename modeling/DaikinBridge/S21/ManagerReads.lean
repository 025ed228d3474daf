import DaikinBridge.Lib.Runs
import DaikinBridge.S21.Manager

/-!
# DaikinBridge.S21.ManagerReads

Reading back what was written.

A successful `setOperation` refreshes the operation cache, and for as long as that entry
is fresh every getter that reads it answers with the written values (`HoldsWrite` is kept
by every call but another successful set). The fan mode, though, has a cache of its own,
which a write does not touch: an entry from before the write answers `getFanMode`, and
`getOperation` where it cross-checks Auto, until it expires. `read_your_writes_iff` says
that this is all that can go wrong.
-/

namespace DaikinBridge.S21

namespace S21Manager

/-! ### Histories of calls -/

/-- The calls of the manager's interface. -/
inductive ManagerCall
  | init
  | getOperation
  | getOnOff
  | getOperatingMode
  | getSetpoint
  | getFanMode
  | getRoomTemperature
  | getOutdoorTemperature
  | getHumidity
  | getUnitState
  | setOperation (op : GetOperationResult)
  | setOnOff (onOff : Bool)
  | setSetpoint (setPoint : Int16)
  | setFanMode (fanMode : FanMode)
  deriving DecidableEq, Repr

/-- The manager after a call. -/
def perform (m : S21Manager) (x : Exchange) : ManagerCall → S21Manager
  | .init => (m.init x).1
  | .getOperation => (m.getOperation x).manager
  | .getOnOff => (m.getOnOff x).manager
  | .getOperatingMode => (m.getOperatingMode x).manager
  | .getSetpoint => (m.getSetpoint x).manager
  | .getFanMode => (m.getFanMode x).manager
  | .getRoomTemperature => (m.getRoomTemperature x).manager
  | .getOutdoorTemperature => (m.getOutdoorTemperature x).manager
  | .getHumidity => (m.getHumidity x).manager
  | .getUnitState => (m.getUnitState x).manager
  | .setOperation op => (m.setOperation x op).manager
  | .setOnOff onOff => (m.setOnOff x onOff).manager
  | .setSetpoint setPoint => (m.setSetpoint x setPoint).manager
  | .setFanMode fanMode => (m.setFanMode x fanMode).manager

/-- Is the call a set that succeeds? -/
def setSucceeds (m : S21Manager) (x : Exchange) : ManagerCall → Bool
  | .setOperation op => (m.setOperation x op).result.isOk
  | .setOnOff onOff => (m.setOnOff x onOff).result.isOk
  | .setSetpoint setPoint => (m.setSetpoint x setPoint).result.isOk
  | .setFanMode fanMode => (m.setFanMode x fanMode).result.isOk
  | _ => false

/-- A manager and the clock as last read. -/
structure Clocked where
  manager : S21Manager
  clock : Int

/-- One call of a history. -/
def tick (s : Clocked) (call : ManagerCall × Exchange) : Clocked :=
  ⟨s.manager.perform call.2 call.1, call.2.later⟩

/-- The clock goes on from `clock`, up to `deadline`, and RG, if it answers, answers
`fan`. A call that does not issue RG never looks at that answer, so asking it of every
exchange asks nothing of such calls. -/
structure Timely (clock deadline : Int) (fan : FanMode) (x : Exchange) : Prop where
  started : clock ≤ x.now
  monotone : x.now ≤ x.later
  ended : x.later ≤ deadline
  truthful : ∀ f, x.fanMode = .ok f → f = fan

theorem Timely.elapsed {clock deadline : Int} {fan : FanMode} {x : Exchange}
    (hx : Timely clock deadline fan x) : clock ≤ x.later :=
  Int.le_trans hx.started hx.monotone

theorem Timely.now_le {clock deadline : Int} {fan : FanMode} {x : Exchange}
    (hx : Timely clock deadline fan x) : x.now ≤ deadline :=
  Int.le_trans hx.monotone hx.ended

/-- A timely call that is not another successful set. -/
def Undisturbed (deadline : Int) (fan : FanMode) (s : Clocked) (call : ManagerCall × Exchange) :
    Prop :=
  Timely s.clock deadline fan call.2 ∧ s.manager.setSucceeds call.2 call.1 = false

/-! ### What a write leaves -/

/-- The operation cache holds the write of time `t`, and the fan-mode cache is as it was
at the write or, once that entry has expired, holds the written fan mode. -/
structure HoldsWrite (maxAge : Int) (fanCache : ReadThroughCache FanMode) (t : Int)
    (op : GetOperationResult) (clock : Int) (m : S21Manager) : Prop where
  ready : m.isReady = true
  age : m.cacheMaxAge = maxAge
  operation : m.operationCache = ⟨some op, t⟩
  fan : m.fanModeCache = fanCache ∨
    (m.fanModeCache.value = some op.fanMode ∧ fanCache.fresh maxAge clock = none)

section Holds

variable {maxAge t clock : Int} {fanCache : ReadThroughCache FanMode} {op : GetOperationResult}
  {m : S21Manager} {x : Exchange}

/-- Up to the deadline, reading the operation cache is a hit on the write. -/
theorem HoldsWrite.readOperation (h : HoldsWrite maxAge fanCache t op clock m) (x : Exchange)
    {now : Int} (hnow : now ≤ t + maxAge) : m.readOperation x now = .pure m op := by
  have hfresh : m.operationCache.fresh m.cacheMaxAge now = some op := by
    rw [h.operation, h.age, ReadThroughCache.fresh, if_pos (by simp only; omega)]
  rw [S21Manager.readOperation, hfresh]

theorem HoldsWrite.later (h : HoldsWrite maxAge fanCache t op clock m) {later : Int}
    (hle : clock ≤ later) : HoldsWrite maxAge fanCache t op later m where
  ready := h.ready
  age := h.age
  operation := h.operation
  fan := h.fan.imp_right fun ⟨hvalue, hexpired⟩ =>
    ⟨hvalue, ReadThroughCache.fresh_eq_none_mono hle hexpired⟩

/-- What a miss of the fan-mode cache returns is the answer of RG, or an error. -/
theorem callWithTracking_eq_ok {α : Type} {c : CommandCapability} {answer : Except String α}
    {v : α} (h : (c.callWithTracking answer).2 = .ok v) : answer = .ok v := by
  unfold CommandCapability.callWithTracking at h
  split at h
  · cases h
  · exact h

/-- The fan mode read at `now`, where the entry from before the write does not get in the
way. -/
theorem HoldsWrite.readFanMode_result (h : HoldsWrite maxAge fanCache t op clock m) {now : Int}
    (htruth : ∀ f, x.fanMode = .ok f → f = op.fanMode)
    (hfan : ∀ f, fanCache.fresh maxAge now = some f → f = op.fanMode) {f : FanMode}
    (hf : (m.readFanMode x now).result = .ok f) : f = op.fanMode := by
  unfold S21Manager.readFanMode at hf
  cases hfresh : m.fanModeCache.fresh m.cacheMaxAge now with
  | none =>
      rw [hfresh] at hf
      exact htruth f (callWithTracking_eq_ok hf)
  | some cached =>
      rw [hfresh] at hf
      obtain rfl : cached = f := Except.ok.inj hf
      rcases h.fan with hsame | ⟨hvalue, -⟩
      · rw [hsame, h.age] at hfresh
        exact hfan cached hfresh
      · have hcached := ReadThroughCache.value_of_fresh hfresh
        exact Option.some.inj (hcached.symm.trans hvalue)

/-- Reading the fan mode keeps what the write left. -/
theorem HoldsWrite.readFanMode_manager (h : HoldsWrite maxAge fanCache t op clock m) {now : Int}
    (hnow : clock ≤ now) (htruth : ∀ f, x.fanMode = .ok f → f = op.fanMode) :
    HoldsWrite maxAge fanCache t op now (m.readFanMode x now).manager := by
  unfold S21Manager.readFanMode
  cases hfresh : m.fanModeCache.fresh m.cacheMaxAge now with
  | some cached => exact h.later hnow
  | none =>
      refine ⟨h.ready, h.age, h.operation, ?_⟩
      let result := (m.fanModeCapability.callWithTracking x.fanMode).2
      show m.fanModeCache.store now result = fanCache ∨
        ((m.fanModeCache.store now result).value = some op.fanMode ∧
          fanCache.fresh maxAge now = none)
      cases hresult : result with
      | error e => exact (h.later hnow).fan
      | ok f =>
          right
          obtain rfl := htruth f (callWithTracking_eq_ok hresult)
          refine ⟨rfl, ?_⟩
          rcases (h.later hnow).fan with hsame | ⟨-, hexpired⟩
          · rw [hsame, h.age] at hfresh
            exact hfresh
          · exact hexpired

/-- Sensor calls touch neither the operation cache nor the fan-mode cache. -/
theorem HoldsWrite.getSensor (h : HoldsWrite maxAge fanCache t op clock m) {α : Type}
    {capability : CommandCapability} {keep : S21Manager → CommandCapability → S21Manager}
    {answer : Except String α} {call : PresentationCall}
    {component : GetCoarseTemperatureAndHumidityResult → α}
    (hkeep : ∀ c, HoldsWrite maxAge fanCache t op clock (keep m c)) :
    HoldsWrite maxAge fanCache t op clock
      (m.getSensor x capability keep answer call component).manager :=
  getSensor_keeps h hkeep fun _ _ _ hm => ⟨hm.ready, hm.age, hm.operation, hm.fan⟩

/-! ### Getters and setters up to the deadline -/

variable (h : HoldsWrite maxAge fanCache t op clock m)
include h

theorem HoldsWrite.getComponent (hx : Timely clock (t + maxAge) op.fanMode x) {α : Type}
    (component : GetOperationResult → α) :
    m.getComponent x component = .pure m (component op) := by
  rw [S21Manager.getComponent, whenReady_of_ready h.ready, h.readOperation x hx.now_le]
  rfl

theorem HoldsWrite.getComponent_manager (hx : Timely clock (t + maxAge) op.fanMode x) {α : Type}
    (component : GetOperationResult → α) :
    HoldsWrite maxAge fanCache t op x.later (m.getComponent x component).manager := by
  rw [h.getComponent hx]
  exact h.later hx.elapsed

/-- `getFanMode` answers what the fan-mode cache gives, and the written fan mode where it
gives an error. -/
theorem HoldsWrite.getFanMode (hx : Timely clock (t + maxAge) op.fanMode x) :
    (m.getFanMode x).result =
        .ok (match (m.readFanMode x x.now).result with
          | .ok f => f
          | .error _ => op.fanMode) ∧
      HoldsWrite maxAge fanCache t op x.later (m.getFanMode x).manager := by
  have hread := h.readFanMode_manager hx.started hx.truthful
  rw [S21Manager.getFanMode, whenReady_of_ready h.ready]
  unfold Outcome.orElse
  cases hresult : (m.readFanMode x x.now).result with
  | ok f => exact ⟨hresult, hread.later hx.monotone⟩
  | error e =>
      dsimp only
      rw [hread.readOperation x hx.ended]
      exact ⟨rfl, hread.later hx.monotone⟩

/-- `getOperation` answers the write, with the fan mode of the cross-check where there is
one. -/
theorem HoldsWrite.getOperation (hx : Timely clock (t + maxAge) op.fanMode x) :
    (m.getOperation x).result =
        .ok (if op.onOff && op.fanMode = .auto then
          match (m.readFanMode x x.later).result with
          | .ok fanMode => { op with fanMode }
          | .error _ => op
        else op) ∧
      HoldsWrite maxAge fanCache t op x.later (m.getOperation x).manager := by
  have hread := h.readFanMode_manager hx.elapsed hx.truthful
  rw [S21Manager.getOperation, whenReady_of_ready h.ready, h.readOperation x hx.now_le]
  unfold Outcome.andThen Outcome.pure
  dsimp only
  split
  · cases (m.readFanMode x x.later).result with
    | ok f => exact ⟨rfl, hread⟩
    | error e => exact ⟨rfl, hread⟩
  · exact ⟨rfl, h.later hx.elapsed⟩

/-- A set that fails changes nothing. -/
theorem HoldsWrite.writeOperation {now : Int} {op' : GetOperationResult}
    (hfails : (m.writeOperation x now op').result.isOk = false) :
    (m.writeOperation x now op').manager = m := by
  rw [S21Manager.writeOperation, whenReady_of_ready h.ready] at hfails ⊢
  cases hanswer : x.setOperation with
  | ok u =>
      dsimp only at hfails
      rw [hanswer] at hfails
      cases hfails
  | error e => rfl

theorem HoldsWrite.setComponent (hx : Timely clock (t + maxAge) op.fanMode x)
    {change : GetOperationResult → GetOperationResult}
    (hfails : (m.setComponent x change).result.isOk = false) :
    HoldsWrite maxAge fanCache t op x.later (m.setComponent x change).manager := by
  rw [S21Manager.setComponent, whenReady_of_ready h.ready, h.readOperation x hx.now_le] at hfails ⊢
  have hsame : (m.writeOperation x x.later (change op)).manager = m := h.writeOperation hfails
  show HoldsWrite maxAge fanCache t op x.later (m.writeOperation x x.later (change op)).manager
  rw [hsame]
  exact h.later hx.elapsed

/-- **One call.** What a write left is kept by every timely call that is not another
successful set. -/
theorem HoldsWrite.perform (hx : Timely clock (t + maxAge) op.fanMode x) {call : ManagerCall}
    (hset : m.setSucceeds x call = false) :
    HoldsWrite maxAge fanCache t op x.later (m.perform x call) := by
  have hlater := h.later hx.elapsed
  cases call with
  | init =>
      show HoldsWrite maxAge fanCache t op x.later (m.init x).1
      rw [S21Manager.init, if_pos h.ready]
      exact hlater
  | getOperation => exact (h.getOperation hx).2
  | getOnOff => exact h.getComponent_manager hx _
  | getOperatingMode => exact h.getComponent_manager hx _
  | getSetpoint => exact h.getComponent_manager hx _
  | getFanMode => exact (h.getFanMode hx).2
  | getRoomTemperature =>
      exact hlater.getSensor fun c => ⟨h.ready, h.age, h.operation, hlater.fan⟩
  | getOutdoorTemperature =>
      exact hlater.getSensor fun c => ⟨h.ready, h.age, h.operation, hlater.fan⟩
  | getHumidity =>
      exact hlater.getSensor fun c => ⟨h.ready, h.age, h.operation, hlater.fan⟩
  | getUnitState =>
      show HoldsWrite maxAge fanCache t op x.later (m.getUnitState x).manager
      rw [S21Manager.getUnitState, whenReady_of_ready h.ready]
      exact ⟨h.ready, h.age, h.operation, hlater.fan⟩
  | setOperation op' =>
      show HoldsWrite maxAge fanCache t op x.later (m.writeOperation x x.now op').manager
      rw [h.writeOperation hset]
      exact hlater
  | setOnOff onOff => exact h.setComponent hx hset
  | setSetpoint setPoint => exact h.setComponent hx hset
  | setFanMode fanMode => exact h.setComponent hx hset

end Holds

/-! ### Reading back -/

/-- All five getters answer with the written values. -/
def ReadsBack (m : S21Manager) (x : Exchange) (op : GetOperationResult) : Prop :=
  (m.getOnOff x).result = .ok op.onOff ∧ (m.getOperatingMode x).result = .ok op.mode ∧
    (m.getSetpoint x).result = .ok op.setPoint ∧ (m.getFanMode x).result = .ok op.fanMode ∧
    (m.getOperation x).result = .ok op

/-- The entry the fan-mode cache had at the write is the one thing in the way. -/
theorem HoldsWrite.readsBack_iff {maxAge t clock : Int} {fanCache : ReadThroughCache FanMode}
    {op : GetOperationResult} {m : S21Manager} {x : Exchange}
    (h : HoldsWrite maxAge fanCache t op clock m) (hx : Timely clock (t + maxAge) op.fanMode x) :
    ReadsBack m x op ↔ ∀ f, fanCache.fresh maxAge x.now = some f → f = op.fanMode := by
  constructor
  · rintro ⟨-, -, -, hfanMode, -⟩ f hf
    rw [(h.getFanMode hx).1] at hfanMode
    rcases h.fan with hsame | ⟨-, hexpired⟩
    · have hread : (m.readFanMode x x.now).result = .ok f := by
        rw [readFanMode, hsame, h.age, hf]
        rfl
      rw [hread] at hfanMode
      exact Except.ok.inj hfanMode
    · rw [ReadThroughCache.fresh_eq_none_mono hx.started hexpired] at hf
      cases hf
  · intro hfan
    have hlater : ∀ f, fanCache.fresh maxAge x.later = some f → f = op.fanMode := by
      intro f hf
      exact hfan f (ReadThroughCache.fresh_eq_some_anti hx.monotone hf)
    refine ⟨?_, ?_, ?_, ?_, ?_⟩
    · rw [getOnOff, h.getComponent hx]
      rfl
    · rw [getOperatingMode, h.getComponent hx]
      rfl
    · rw [getSetpoint, h.getComponent hx]
      rfl
    · rw [(h.getFanMode hx).1]
      cases hresult : (m.readFanMode x x.now).result with
      | ok f => rw [h.readFanMode_result hx.truthful hfan hresult]
      | error e => rfl
    · rw [(h.getOperation hx).1]
      split
      · cases hresult : (m.readFanMode x x.later).result with
        | ok f =>
            obtain rfl := h.readFanMode_result hx.truthful hlater hresult
            rfl
        | error e => rfl
      · rfl

/-- What a successful set leaves. -/
theorem holdsWrite_setOperation {m : S21Manager} (hready : m.isReady = true)
    {op : GetOperationResult} {x : Exchange} (hset : (m.setOperation x op).result = .ok ()) :
    HoldsWrite m.cacheMaxAge m.fanModeCache x.now op x.now (m.setOperation x op).manager := by
  rw [S21Manager.setOperation, S21Manager.writeOperation, whenReady_of_ready hready] at hset ⊢
  have hanswer : x.setOperation = .ok () := hset
  rw [hanswer]
  exact ⟨hready, rfl, rfl, .inl rfl⟩

/-- One call of a history. -/
theorem holdsWrite_tick {maxAge t : Int} {fanCache : ReadThroughCache FanMode}
    {op : GetOperationResult} (s : Clocked) (call : ManagerCall × Exchange)
    (h : HoldsWrite maxAge fanCache t op s.clock s.manager)
    (hcall : Undisturbed (t + maxAge) op.fanMode s call) :
    HoldsWrite maxAge fanCache t op (tick s call).clock (tick s call).manager :=
  h.perform hcall.1 hcall.2

/-- **Read your writes.** Take any ready manager, a set that succeeds, any history of calls
after it without another successful set, in which RG answers the written fan mode if it
answers, and one more call. Of every call, that one included, both clock readings lie within
the maximal cache age after the set: the one it starts with, and the one it takes once the
unit has answered (`Timely`). The five getters answer with the written values if and only if
the fan-mode cache did not hold, at the set, another fan mode that is still fresh when the
last call starts. -/
theorem read_your_writes_iff (m : S21Manager) (hready : m.isReady = true)
    (op : GetOperationResult) (x₀ : Exchange) (hset : (m.setOperation x₀ op).result = .ok ())
    (history : List (ManagerCall × Exchange))
    (hhistory : Lib.Along tick (Undisturbed (x₀.now + m.cacheMaxAge) op.fanMode)
      ⟨(m.setOperation x₀ op).manager, x₀.now⟩ history)
    (x : Exchange)
    (hx : Timely (Lib.run tick ⟨(m.setOperation x₀ op).manager, x₀.now⟩ history).clock
      (x₀.now + m.cacheMaxAge) op.fanMode x) :
    ReadsBack (Lib.run tick ⟨(m.setOperation x₀ op).manager, x₀.now⟩ history).manager x op ↔
      ∀ f, m.fanModeCache.fresh m.cacheMaxAge x.now = some f → f = op.fanMode := by
  have hstart := holdsWrite_setOperation hready hset
  have hend := (Lib.throughout_of_along
    (I := fun s => HoldsWrite m.cacheMaxAge m.fanModeCache x₀.now op s.clock s.manager)
    holdsWrite_tick hstart hhistory).last
  exact hend.readsBack_iff hx

/-- A manager with a maximal cache age of 10 s, after its init sequence. -/
def initialised : S21Manager := ((S21Manager.new 10000).init (.answering 0 .quiet)).1

/-- With an empty fan-mode cache, a write reads back. -/
theorem high_fan_reads_back :
    ReadsBack (Lib.run tick
      ⟨(initialised.setOperation (.answering 200 .high) ⟨true, .cool, 2400, .high⟩).manager, 200⟩
      [(.getRoomTemperature, .answering 300 .high)]).manager (.answering 5000 .high)
      ⟨true, .cool, 2400, .high⟩ := by
  have htimely : ∀ {clock now : Int}, clock ≤ now → now ≤ 200 + 10000 →
      Timely clock (200 + 10000) .high (.answering now .high) := by
    intro clock now hclock hdeadline
    exact ⟨hclock, Int.le_refl _, hdeadline, fun f hf => (Except.ok.inj hf).symm⟩
  refine (read_your_writes_iff initialised rfl ⟨true, .cool, 2400, .high⟩ (.answering 200 .high)
    rfl [(.getRoomTemperature, .answering 300 .high)] ?_ (.answering 5000 .high) ?_).mpr ?_
  · exact ⟨⟨htimely (by decide) (by decide), rfl⟩, trivial⟩
  · exact htimely (by decide) (by decide)
  · intro f hf
    cases hf

/-- A fan mode read 100 ms before a write answers for it afterwards. -/
theorem earlier_fan_mode_answers :
    ¬ ∀ (m : S21Manager) (op : GetOperationResult) (x₀ : Exchange)
        (history : List (ManagerCall × Exchange)) (x : Exchange), m.isReady = true →
        (m.setOperation x₀ op).result = .ok () →
        Lib.Along tick (Undisturbed (x₀.now + m.cacheMaxAge) op.fanMode)
          ⟨(m.setOperation x₀ op).manager, x₀.now⟩ history →
        Timely (Lib.run tick ⟨(m.setOperation x₀ op).manager, x₀.now⟩ history).clock
          (x₀.now + m.cacheMaxAge) op.fanMode x →
        ReadsBack (Lib.run tick ⟨(m.setOperation x₀ op).manager, x₀.now⟩ history).manager x op := by
  intro hclaim
  let m := initialised.perform (.answering 100 .quiet) .getFanMode
  have htimely : Timely 200 (200 + 10000) .high (.answering 300 .high) :=
    ⟨by decide, Int.le_refl _, by decide, fun f hf => (Except.ok.inj hf).symm⟩
  obtain ⟨-, -, -, hfan, -⟩ := hclaim m ⟨true, .cool, 2400, .high⟩ (.answering 200 .high) []
    (.answering 300 .high) rfl rfl trivial htimely
  -- RG is not asked: the entry of 100 ms is fresh
  have hstale : Except.ok FanMode.quiet = (Except.ok FanMode.high : Except String FanMode) := hfan
  exact absurd (Except.ok.inj hstale) (by decide)

end S21Manager

end DaikinBridge.S21
