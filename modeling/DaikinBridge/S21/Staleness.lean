import DaikinBridge.S21.Steps

/-!
# DaikinBridge.S21.Staleness

How old a cached value can be.

A history of calls is a run of steps. Beside it goes a ledger: what was fetched, or written by
a set, and when. Every cached value stands in the ledger at the time of its timestamp
(`Audited`), whatever fails, and the bound on what a get returns follows.
-/

namespace DaikinBridge.S21

/-! ### One get of a cache -/

namespace ReadThroughCache

variable {α : Type}

/-- `ReadThroughCache::get`, with the answer its fetch would have. -/
def get (c : ReadThroughCache α) (maxAge now : Int) (answer : Except String α) :
    ReadThroughCache α × Except String α :=
  match c.fresh maxAge now with
  | some v => (c, .ok v)
  | none => (c.store now answer, answer)

/-- The cached value stands in the ledger, at the time of its timestamp. -/
def Recorded (c : ReadThroughCache α) (ledger : List (α × Int)) (clock : Int) : Prop :=
  ∀ v, c.value = some v → (v, c.timestamp) ∈ ledger ∧ c.timestamp ≤ clock

/-- What a get at `now` may do: `c` and `c'` are the cache before and after it, `answer` is
what the fetch gives if it is made, `fetches` counts the commands issued, and `ledger` holds
all that was fetched and written up to and including this get. -/
structure GetLaw (c c' : ReadThroughCache α) (maxAge now : Int) (answer result : Except String α)
    (fetches : Nat) (ledger : List (α × Int)) : Prop where
  bounded : ∀ v, result = .ok v → ∃ t₀, (v, t₀) ∈ ledger ∧ t₀ ≤ now ∧ now - t₀ ≤ maxAge
  once : fetches ≤ 1
  hit : ∀ v, c.fresh maxAge now = some v → result = .ok v ∧ fetches = 0 ∧ c' = c
  stamped : c.fresh maxAge now = none → ∀ v, answer = .ok v →
    result = .ok v ∧ c' = ⟨some v, now⟩
  failed : c.fresh maxAge now = none → ∀ e, answer = .error e → result = .error e ∧ c' = c

theorem Recorded.later {c : ReadThroughCache α} {ledger ledger' : List (α × Int)}
    {clock clock' : Int} (h : c.Recorded ledger clock) (hledger : ledger ⊆ ledger')
    (hclock : clock ≤ clock') : c.Recorded ledger' clock' := by
  intro v hv
  obtain ⟨hmem, hle⟩ := h v hv
  exact ⟨hledger hmem, Int.le_trans hle hclock⟩

theorem recorded_empty (ledger : List (α × Int)) (clock : Int) :
    Recorded ({} : ReadThroughCache α) ledger clock := by
  intro v hv
  cases hv

/-- What was just entered is recorded. -/
theorem recorded_of_mem {ledger : List (α × Int)} {v : α} {now : Int} (h : (v, now) ∈ ledger) :
    Recorded ⟨some v, now⟩ ledger now := by
  intro u hu
  obtain rfl : v = u := Option.some.inj hu
  exact ⟨h, Int.le_refl _⟩

section Get

variable {c : ReadThroughCache α} {ledger : List (α × Int)} {clock maxAge now : Int}
  {answer : Except String α} {fetches : Nat}

/-- A hit. -/
theorem Recorded.getLaw_of_fresh (h : c.Recorded ledger clock) (hclock : clock ≤ now) {v : α}
    (hfresh : c.fresh maxAge now = some v) :
    GetLaw c c maxAge now answer (.ok v) 0 ledger := by
  obtain ⟨hmem, hle⟩ := h v (value_of_fresh hfresh)
  have hyoung : now - c.timestamp ≤ maxAge := by
    by_contra hold
    rw [fresh, if_neg hold] at hfresh
    cases hfresh
  refine ⟨?_, Nat.zero_le 1, ?_, ?_, ?_⟩
  · intro u hu
    obtain rfl : v = u := Except.ok.inj hu
    exact ⟨c.timestamp, hmem, Int.le_trans hle hclock, hyoung⟩
  · intro u hu
    obtain rfl : v = u := Option.some.inj (hfresh.symm.trans hu)
    exact ⟨rfl, rfl, rfl⟩
  · intro hmiss
    rw [hfresh] at hmiss
    cases hmiss
  · intro hmiss
    rw [hfresh] at hmiss
    cases hmiss

/-- A miss, with what was fetched entered. -/
theorem getLaw_of_miss (hage : 0 ≤ maxAge) (hmiss : c.fresh maxAge now = none)
    (honce : fetches ≤ 1) (henter : ∀ v, answer = .ok v → (v, now) ∈ ledger) :
    GetLaw c (c.store now answer) maxAge now answer answer fetches ledger := by
  refine ⟨?_, honce, ?_, ?_, ?_⟩
  · intro v hv
    refine ⟨now, henter v hv, Int.le_refl _, ?_⟩
    rw [Int.sub_self]
    exact hage
  · intro v hv
    rw [hmiss] at hv
    cases hv
  · intro _ v hv
    rw [hv]
    exact ⟨rfl, rfl⟩
  · intro _ e he
    rw [he]
    exact ⟨rfl, rfl⟩

theorem Recorded.store (h : c.Recorded ledger clock) (hclock : clock ≤ now)
    (henter : ∀ v, answer = .ok v → (v, now) ∈ ledger) :
    (c.store now answer).Recorded ledger now := by
  cases answer with
  | error e => exact h.later (List.Subset.refl _) hclock
  | ok v => exact recorded_of_mem (henter v rfl)

end Get

end ReadThroughCache

namespace S21Manager

/-! ### The clock readings of a call -/

/-- Steps that take no clock readings but the two of the exchange, in order. -/
def InOrder (x : Exchange) (steps : List Step) : Prop :=
  (steps.filterMap Step.reading).Sublist [x.now, x.later]

section InOrder

variable (m : S21Manager) (x : Exchange)

theorem inOrder_first {step : Step} (h : step.reading = some x.now) : InOrder x [step] := by
  simp [InOrder, h]

theorem inOrder_both {step step' : Step} (h : step.reading = some x.now)
    (h' : step'.reading = some x.later) : InOrder x [step, step'] := by
  simp [InOrder, h, h']

theorem InOrder.whenReady {steps : List Step} (h : InOrder x steps) :
    InOrder x (m.stepsWhenReady steps) := by
  unfold stepsWhenReady
  split
  · exact h
  · exact List.nil_sublist _

theorem inOrder_sensorSteps {α : Type} {own : Step} (result : Except String α)
    (hown : own.reading = none) : InOrder x (sensorSteps x own result) := by
  unfold sensorSteps
  cases result with
  | ok v => simp [InOrder, hown]
  | error e =>
      have hcoarse : (Step.coarse x.now).reading = some x.now := rfl
      simp [InOrder, hown, hcoarse]

theorem inOrder_setterSteps (change : GetOperationResult → GetOperationResult) :
    InOrder x (m.setterSteps x change) := by
  unfold setterSteps
  split
  · exact inOrder_both x rfl rfl
  · exact inOrder_first x rfl

theorem inOrder_steps (call : ManagerCall) : InOrder x (m.steps x call) := by
  cases call with
  | init => exact List.nil_sublist _
  | getOperation =>
      refine .whenReady m x ?_
      split
      · split
        · exact inOrder_both x rfl rfl
        · exact inOrder_first x rfl
      · exact inOrder_first x rfl
  | getOnOff => exact .whenReady m x (inOrder_first x rfl)
  | getOperatingMode => exact .whenReady m x (inOrder_first x rfl)
  | getSetpoint => exact .whenReady m x (inOrder_first x rfl)
  | getFanMode =>
      refine .whenReady m x ?_
      split
      · exact inOrder_first x rfl
      · exact inOrder_both x rfl rfl
  | getRoomTemperature => exact .whenReady m x (inOrder_sensorSteps x _ rfl)
  | getOutdoorTemperature => exact .whenReady m x (inOrder_sensorSteps x _ rfl)
  | getHumidity => exact .whenReady m x (inOrder_sensorSteps x _ rfl)
  | getUnitState => exact .whenReady m x (List.nil_sublist _)
  | setOperation op => exact inOrder_first x rfl
  | setOnOff onOff => exact .whenReady m x (inOrder_setterSteps m x _)
  | setSetpoint setPoint => exact .whenReady m x (inOrder_setterSteps m x _)
  | setFanMode fanMode => exact .whenReady m x (inOrder_setterSteps m x _)

end InOrder

/-! ### Histories as steps -/

/-- A history as steps, each with the exchange of its call. -/
def stepsOf : S21Manager → List (ManagerCall × Exchange) → List (Exchange × Step)
  | _, [] => []
  | m, call :: rest =>
      (m.steps call.2 call.1).map (call.2, ·) ++ stepsOf (m.performCall call) rest

/-- The clock readings a history offers its calls. -/
def readings (history : List (ManagerCall × Exchange)) : List Int :=
  history.flatMap fun call => [call.2.now, call.2.later]

theorem readings_stepsOf (m : S21Manager) (history : List (ManagerCall × Exchange)) :
    ((stepsOf m history).filterMap fun i => i.2.reading).Sublist (readings history) := by
  induction history generalizing m with
  | nil => exact List.nil_sublist _
  | cons call rest ih =>
      have hfirst := inOrder_steps m call.2 call.1
      have hmap : (((m.steps call.2 call.1).map (call.2, ·)).filterMap fun i => i.2.reading) =
          (m.steps call.2 call.1).filterMap Step.reading := by
        rw [List.filterMap_map]
        rfl
      -- a call may take fewer readings than its exchange offers, never others
      rw [stepsOf, List.filterMap_append, hmap, readings, List.flatMap_cons]
      exact hfirst.append (ih _)

/-! ### The audit -/

/-- What was fetched, or written by a set, for each cache, and when. -/
structure Ledger where
  operation : List (GetOperationResult × Int) := []
  fanMode : List (FanMode × Int) := []
  coarse : List (GetCoarseTemperatureAndHumidityResult × Int) := []

/-- A fetch that was made and gave a value. -/
def fetched {α : Type} (calls : List PresentationCall) (call : PresentationCall)
    (answer : Except String α) (now : Int) : List (α × Int) :=
  match answer with
  | .ok v => if call ∈ calls then [(v, now)] else []
  | .error _ => []

/-- Enter what a step fetches or writes. -/
def Ledger.enter (ledger : Ledger) (m : S21Manager) (x : Exchange) (step : Step) : Ledger :=
  let calls := (step.take m x).2
  match step with
  | .operation now =>
      { ledger with operation := ledger.operation ++ fetched calls .getOperation x.operation now }
  | .fanMode now =>
      { ledger with fanMode := ledger.fanMode ++ fetched calls .getFanMode x.fanMode now }
  | .coarse now =>
      { ledger with
        coarse := ledger.coarse ++
          fetched calls .getCoarseTemperatureAndHumidity x.coarseTemperatureAndHumidity now }
  | .setOperation now op =>
      { ledger with
        operation := ledger.operation ++
          fetched calls (.setOperation op.onOff op.mode op.setPoint op.fanMode)
            (x.setOperation.map fun _ => op) now }
  | _ => ledger

/-- A manager with its ledger and the clock as last read. -/
structure Audit where
  manager : S21Manager
  ledger : Ledger
  clock : Int

/-- One step, entered in the ledger. -/
def audit (s : Audit) (i : Exchange × Step) : Audit where
  manager := (i.2.take s.manager i.1).1
  ledger := s.ledger.enter s.manager i.1 i.2
  clock := i.2.reading.getD s.clock

/-- The audit follows the manager. -/
theorem audit_manager (s : Audit) (history : List (ManagerCall × Exchange)) :
    (Lib.run audit s (stepsOf s.manager history)).manager =
      Lib.run performCall s.manager history := by
  have hcall : ∀ (x : Exchange) (steps : List Step) (s : Audit),
      (Lib.run audit s (steps.map (x, ·))).manager = (follow x s.manager steps).1 := by
    intro x steps
    induction steps with
    | nil => intro s; rfl
    | cons step rest ih => intro s; exact ih (audit s (x, step))
  induction history generalizing s with
  | nil => rfl
  | cons call rest ih =>
      have hafter : (Lib.run audit s ((s.manager.steps call.2 call.1).map (call.2, ·))).manager =
          s.manager.performCall call := by
        rw [hcall, follow_steps]
        rfl
      rw [stepsOf, Lib.run_append, Lib.run_cons, ← hafter]
      exact ih _

/-! ### The law of a step -/

/-- What a set does to the caches; `o` is its outcome. -/
structure SetLaw (m : S21Manager) (x : Exchange) (now : Int) (op : GetOperationResult)
    (o : Outcome Unit) : Prop where
  failed : ∀ e, o.result = .error e → o.manager = m
  rejected : ∀ e, S21.setOperation op.onOff op.mode op.setPoint op.fanMode = .error e →
    x.setOperation = .error e → o.manager = m
  written : o.result = .ok () → o.manager = { m with operationCache := ⟨some op, now⟩ }

/-- The bound on gets and the atomicity of failures, for one step: of each cache the step does
not use, nothing changes. -/
def CacheLaw (maxAge : Int) (s : Audit) (i : Exchange × Step) : Prop :=
  let m := s.manager
  let m' := (audit s i).manager
  let ledger' := (audit s i).ledger
  match i.2 with
  | .operation now =>
      m.operationCache.GetLaw m'.operationCache maxAge now i.1.operation
          (m.readOperation i.1 now).result (m.readOperation i.1 now).calls.length
          ledger'.operation ∧
        m'.fanModeCache = m.fanModeCache ∧
        m'.coarseTemperatureAndHumidityCache = m.coarseTemperatureAndHumidityCache
  | .fanMode now =>
      m.fanModeCache.GetLaw m'.fanModeCache maxAge now
          (m.fanModeCapability.callWithTracking i.1.fanMode).2
          (m.readFanMode i.1 now).result (m.readFanMode i.1 now).calls.length ledger'.fanMode ∧
        m'.operationCache = m.operationCache ∧
        m'.coarseTemperatureAndHumidityCache = m.coarseTemperatureAndHumidityCache
  | .coarse now =>
      m.coarseTemperatureAndHumidityCache.GetLaw m'.coarseTemperatureAndHumidityCache maxAge now
          (m.coarseTemperatureAndHumidityCapability.callWithTracking
            i.1.coarseTemperatureAndHumidity).2
          (m.readCoarseTemperatureAndHumidity i.1 now).result
          (m.readCoarseTemperatureAndHumidity i.1 now).calls.length ledger'.coarse ∧
        m'.operationCache = m.operationCache ∧ m'.fanModeCache = m.fanModeCache
  | .setOperation now op => SetLaw m i.1 now op (m.writeOperation i.1 now op)
  | _ =>
      m'.operationCache = m.operationCache ∧ m'.fanModeCache = m.fanModeCache ∧
        m'.coarseTemperatureAndHumidityCache = m.coarseTemperatureAndHumidityCache

/-- Every cached value is recorded. -/
structure Audited (maxAge : Int) (s : Audit) : Prop where
  age : s.manager.cacheMaxAge = maxAge
  operation : s.manager.operationCache.Recorded s.ledger.operation s.clock
  fanMode : s.manager.fanModeCache.Recorded s.ledger.fanMode s.clock
  coarse : s.manager.coarseTemperatureAndHumidityCache.Recorded s.ledger.coarse s.clock

/-- The clock does not go back. -/
def Forward (s : Audit) (i : Exchange × Step) : Prop :=
  ∀ now, i.2.reading = some now → s.clock ≤ now

section Reads

variable {α : Type} {c : ReadThroughCache α} {maxAge now : Int} {answer : Except String α}
  {miss : List PresentationCall} {o : Outcome α} {cache : S21Manager → ReadThroughCache α}

/-- The outcome is that of a get of `c`, which the manager keeps as its `cache` and which
issues `miss` if it has to fetch. -/
structure ReadsAs (c : ReadThroughCache α) (maxAge now : Int) (answer : Except String α)
    (miss : List PresentationCall) (o : Outcome α) (cache : S21Manager → ReadThroughCache α) :
    Prop where
  kept : cache o.manager = (c.get maxAge now answer).1
  returned : o.result = (c.get maxAge now answer).2
  hit : (c.fresh maxAge now).isSome → o.calls = []
  missed : c.fresh maxAge now = none → o.calls = miss

theorem ReadsAs.of_hit {m : S21Manager} {v : α} (hfresh : c.fresh maxAge now = some v)
    (hcache : cache m = c) : ReadsAs c maxAge now answer miss (.pure m v) cache where
  kept := by rw [ReadThroughCache.get, hfresh]; exact hcache
  returned := by rw [ReadThroughCache.get, hfresh]; rfl
  hit _ := rfl
  missed hmiss := by rw [hfresh] at hmiss; cases hmiss

theorem ReadsAs.of_miss {m : S21Manager} (hfresh : c.fresh maxAge now = none)
    (hcache : cache m = c.store now answer) :
    ReadsAs c maxAge now answer miss ⟨m, answer, miss⟩ cache where
  kept := by rw [ReadThroughCache.get, hfresh]; exact hcache
  returned := by rw [ReadThroughCache.get, hfresh]
  hit hhit := by rw [hfresh] at hhit; cases hhit
  missed _ := rfl

/-- **One get** keeps the cache recorded, and what it returns is recorded and no older than
the maximal age. -/
theorem ReadsAs.law {ledger entry : List (α × Int)} {clock : Int}
    (h : ReadsAs c maxAge now answer miss o cache) (hrecorded : c.Recorded ledger clock)
    (hclock : clock ≤ now) (hage : 0 ≤ maxAge) (hmiss : miss.length ≤ 1)
    (henter : o.calls = miss → ∀ v, answer = .ok v → (v, now) ∈ entry) :
    c.GetLaw (cache o.manager) maxAge now answer o.result o.calls.length (ledger ++ entry) ∧
      (cache o.manager).Recorded (ledger ++ entry) now := by
  have hmore := hrecorded.later (List.subset_append_left ledger entry) (Int.le_refl _)
  rw [h.kept, h.returned, ReadThroughCache.get]
  cases hfresh : c.fresh maxAge now with
  | some v =>
      rw [h.hit (by rw [hfresh]; rfl)]
      exact ⟨hmore.getLaw_of_fresh hclock hfresh, hmore.later (List.Subset.refl _) hclock⟩
  | none =>
      -- also after a fetch that fails: the entry is then the old one, and it was recorded before
      have hcalls := h.missed hfresh
      have hentered : ∀ v, answer = .ok v → (v, now) ∈ ledger ++ entry :=
        fun v hv => List.mem_append_right _ (henter hcalls v hv)
      rw [hcalls]
      exact ⟨ReadThroughCache.getLaw_of_miss hage hfresh hmiss hentered,
        hmore.store hclock hentered⟩

theorem mem_fetched {calls : List PresentationCall} {call : PresentationCall} {v : α}
    (hanswer : answer = .ok v) (hcall : call ∈ calls) :
    (v, now) ∈ fetched calls call answer now := by
  rw [hanswer, fetched, if_pos hcall]
  exact List.mem_singleton.mpr rfl

/-- A tracked fetch that gives a value was made. -/
theorem mem_fetched_of_tracked {c : CommandCapability} {call : PresentationCall} {v : α}
    (h : (c.callWithTracking answer).2 = .ok v) :
    (v, now) ∈ fetched (c.issued call) call answer now := by
  refine mem_fetched (callWithTracking_eq_ok h) (CommandCapability.mem_issued_iff.mpr ?_)
  cases hunsupported : c.isUnsupported with
  | false => rfl
  | true =>
      rw [CommandCapability.callWithTracking, if_pos hunsupported] at h
      cases h

theorem readOperation_get (m : S21Manager) (x : Exchange) (now : Int) :
    ReadsAs m.operationCache m.cacheMaxAge now x.operation [.getOperation]
      (m.readOperation x now) S21Manager.operationCache := by
  unfold readOperation
  cases hfresh : m.operationCache.fresh m.cacheMaxAge now with
  | some op => exact .of_hit hfresh rfl
  | none => exact .of_miss hfresh rfl

theorem readOperation_keeps (m : S21Manager) (x : Exchange) (now : Int) :
    (m.readOperation x now).manager.cacheMaxAge = m.cacheMaxAge ∧
      (m.readOperation x now).manager.fanModeCache = m.fanModeCache ∧
      (m.readOperation x now).manager.coarseTemperatureAndHumidityCache =
        m.coarseTemperatureAndHumidityCache := by
  unfold readOperation
  split
  · exact ⟨rfl, rfl, rfl⟩
  · exact ⟨rfl, rfl, rfl⟩

theorem readFanMode_get (m : S21Manager) (x : Exchange) (now : Int) :
    ReadsAs m.fanModeCache m.cacheMaxAge now (m.fanModeCapability.callWithTracking x.fanMode).2
      (m.fanModeCapability.issued .getFanMode) (m.readFanMode x now)
      S21Manager.fanModeCache := by
  unfold readFanMode
  cases hfresh : m.fanModeCache.fresh m.cacheMaxAge now with
  | some fan => exact .of_hit hfresh rfl
  | none => exact .of_miss hfresh rfl

theorem readFanMode_keeps (m : S21Manager) (x : Exchange) (now : Int) :
    (m.readFanMode x now).manager.cacheMaxAge = m.cacheMaxAge ∧
      (m.readFanMode x now).manager.operationCache = m.operationCache ∧
      (m.readFanMode x now).manager.coarseTemperatureAndHumidityCache =
        m.coarseTemperatureAndHumidityCache := by
  unfold readFanMode
  split
  · exact ⟨rfl, rfl, rfl⟩
  · exact ⟨rfl, rfl, rfl⟩

theorem readCoarse_get (m : S21Manager) (x : Exchange) (now : Int) :
    ReadsAs m.coarseTemperatureAndHumidityCache m.cacheMaxAge now
      (m.coarseTemperatureAndHumidityCapability.callWithTracking x.coarseTemperatureAndHumidity).2
      (m.coarseTemperatureAndHumidityCapability.issued .getCoarseTemperatureAndHumidity)
      (m.readCoarseTemperatureAndHumidity x now)
      S21Manager.coarseTemperatureAndHumidityCache := by
  unfold readCoarseTemperatureAndHumidity
  cases hfresh : m.coarseTemperatureAndHumidityCache.fresh m.cacheMaxAge now with
  | some coarse => exact .of_hit hfresh rfl
  | none => exact .of_miss hfresh rfl

theorem readCoarse_keeps (m : S21Manager) (x : Exchange) (now : Int) :
    (m.readCoarseTemperatureAndHumidity x now).manager.cacheMaxAge = m.cacheMaxAge ∧
      (m.readCoarseTemperatureAndHumidity x now).manager.operationCache = m.operationCache ∧
      (m.readCoarseTemperatureAndHumidity x now).manager.fanModeCache = m.fanModeCache := by
  unfold readCoarseTemperatureAndHumidity
  split
  · exact ⟨rfl, rfl, rfl⟩
  · exact ⟨rfl, rfl, rfl⟩

theorem length_issued_le {c : CommandCapability} {call : PresentationCall} :
    (c.issued call).length ≤ 1 := by
  unfold CommandCapability.issued
  split
  · exact Nat.zero_le 1
  · exact Nat.le_refl 1

end Reads

/-! ### Every step -/

section Audited

variable {maxAge : Int} {s : Audit} {x : Exchange} {now : Int}

/-- A step that uses no cache. -/
theorem Audited.unused (h : Audited maxAge s) {step : Step} (hreading : step.reading = none)
    (hledger : s.ledger.enter s.manager x step = s.ledger)
    (hage : (step.take s.manager x).1.cacheMaxAge = s.manager.cacheMaxAge)
    (hoperation : (step.take s.manager x).1.operationCache = s.manager.operationCache)
    (hfan : (step.take s.manager x).1.fanModeCache = s.manager.fanModeCache)
    (hcoarse : (step.take s.manager x).1.coarseTemperatureAndHumidityCache =
      s.manager.coarseTemperatureAndHumidityCache) :
    Audited maxAge (audit s (x, step)) := by
  unfold audit
  dsimp only
  rw [hreading, hledger]
  refine ⟨hage.trans h.age, ?_, ?_, ?_⟩
  · show ReadThroughCache.Recorded _ _ _
    rw [hoperation]
    exact h.operation
  · show ReadThroughCache.Recorded _ _ _
    rw [hfan]
    exact h.fanMode
  · show ReadThroughCache.Recorded _ _ _
    rw [hcoarse]
    exact h.coarse

theorem Audited.operationStep (h : Audited maxAge s) (hage : 0 ≤ maxAge)
    (hforward : s.clock ≤ now) :
    CacheLaw maxAge s (x, .operation now) ∧ Audited maxAge (audit s (x, .operation now)) := by
  have hget := readOperation_get s.manager x now
  obtain ⟨hsame, hfan, hcoarse⟩ := readOperation_keeps s.manager x now
  rw [h.age] at hget hsame
  have henter : (s.manager.readOperation x now).calls = [.getOperation] →
      ∀ v, x.operation = .ok v →
        (v, now) ∈ fetched (s.manager.readOperation x now).calls .getOperation x.operation now := by
    intro hmiss v hv
    rw [hmiss]
    exact mem_fetched hv (List.mem_singleton.mpr rfl)
  obtain ⟨hlaw, hrecorded⟩ := hget.law h.operation hforward hage (Nat.le_refl 1) henter
  refine ⟨⟨hlaw, hfan, hcoarse⟩, hsame, hrecorded, ?_, ?_⟩
  · exact hfan ▸ h.fanMode.later (List.Subset.refl _) hforward
  · exact hcoarse ▸ h.coarse.later (List.Subset.refl _) hforward

theorem Audited.fanModeStep (h : Audited maxAge s) (hage : 0 ≤ maxAge)
    (hforward : s.clock ≤ now) :
    CacheLaw maxAge s (x, .fanMode now) ∧ Audited maxAge (audit s (x, .fanMode now)) := by
  have hget := readFanMode_get s.manager x now
  obtain ⟨hsame, hoperation, hcoarse⟩ := readFanMode_keeps s.manager x now
  rw [h.age] at hget hsame
  have henter : (s.manager.readFanMode x now).calls =
        s.manager.fanModeCapability.issued .getFanMode →
      ∀ v, (s.manager.fanModeCapability.callWithTracking x.fanMode).2 = .ok v →
        (v, now) ∈ fetched (s.manager.readFanMode x now).calls .getFanMode x.fanMode now := by
    intro hmiss v hv
    rw [hmiss]
    exact mem_fetched_of_tracked hv
  obtain ⟨hlaw, hrecorded⟩ := hget.law h.fanMode hforward hage length_issued_le henter
  refine ⟨⟨hlaw, hoperation, hcoarse⟩, hsame, ?_, hrecorded, ?_⟩
  · exact hoperation ▸ h.operation.later (List.Subset.refl _) hforward
  · exact hcoarse ▸ h.coarse.later (List.Subset.refl _) hforward

theorem Audited.coarseStep (h : Audited maxAge s) (hage : 0 ≤ maxAge)
    (hforward : s.clock ≤ now) :
    CacheLaw maxAge s (x, .coarse now) ∧ Audited maxAge (audit s (x, .coarse now)) := by
  have hget := readCoarse_get s.manager x now
  obtain ⟨hsame, hoperation, hfan⟩ := readCoarse_keeps s.manager x now
  rw [h.age] at hget hsame
  have henter : (s.manager.readCoarseTemperatureAndHumidity x now).calls =
        s.manager.coarseTemperatureAndHumidityCapability.issued
          .getCoarseTemperatureAndHumidity →
      ∀ v, (s.manager.coarseTemperatureAndHumidityCapability.callWithTracking
          x.coarseTemperatureAndHumidity).2 = .ok v →
        (v, now) ∈ fetched (s.manager.readCoarseTemperatureAndHumidity x now).calls
          .getCoarseTemperatureAndHumidity x.coarseTemperatureAndHumidity now := by
    intro hmiss v hv
    rw [hmiss]
    exact mem_fetched_of_tracked hv
  obtain ⟨hlaw, hrecorded⟩ := hget.law h.coarse hforward hage length_issued_le henter
  refine ⟨⟨hlaw, hoperation, hfan⟩, hsame, ?_, ?_, hrecorded⟩
  · exact hoperation ▸ h.operation.later (List.Subset.refl _) hforward
  · exact hfan ▸ h.fanMode.later (List.Subset.refl _) hforward

theorem setLaw_writeOperation (m : S21Manager) (x : Exchange) (now : Int)
    (op : GetOperationResult) : SetLaw m x now op (m.writeOperation x now op) := by
  unfold writeOperation whenReady
  split
  · cases hset : x.setOperation with
    | error e =>
        refine ⟨fun _ _ => rfl, fun _ _ _ => rfl, fun hok => ?_⟩
        cases hok
    | ok u =>
        refine ⟨fun e he => ?_, fun e _ he => ?_, fun _ => rfl⟩
        · cases he
        · rw [hset] at he
          cases he
  · refine ⟨fun _ _ => rfl, fun _ _ _ => rfl, fun hok => ?_⟩
    cases hok

/-- A set that succeeds was issued. -/
theorem mem_fetched_set {m : S21Manager} {op : GetOperationResult}
    (h : (m.writeOperation x now op).result = .ok ()) :
    (op, now) ∈ fetched (m.writeOperation x now op).calls
      (.setOperation op.onOff op.mode op.setPoint op.fanMode)
      (x.setOperation.map fun _ => op) now := by
  unfold writeOperation whenReady at h ⊢
  split at h
  · have hset : x.setOperation = .ok () := h
    rw [if_pos ‹_›, hset]
    exact mem_fetched rfl (List.mem_singleton.mpr rfl)
  · cases h

theorem Audited.setStep (h : Audited maxAge s) (hforward : s.clock ≤ now)
    (op : GetOperationResult) :
    CacheLaw maxAge s (x, .setOperation now op) ∧
      Audited maxAge (audit s (x, .setOperation now op)) := by
  have hlaw := setLaw_writeOperation s.manager x now op
  refine ⟨hlaw, ?_⟩
  have hfanMode := h.fanMode.later (List.Subset.refl _) hforward
  have hcoarse := h.coarse.later (List.Subset.refl _) hforward
  cases hresult : (s.manager.writeOperation x now op).result with
  | error e =>
      have hmanager : (audit s (x, .setOperation now op)).manager = s.manager :=
        hlaw.failed e hresult
      refine ⟨?_, ?_, ?_, ?_⟩
      · rw [hmanager]
        exact h.age
      · rw [hmanager]
        exact h.operation.later (List.subset_append_left _ _) hforward
      · rw [hmanager]
        exact hfanMode
      · rw [hmanager]
        exact hcoarse
  | ok u =>
      have hmanager : (audit s (x, .setOperation now op)).manager =
          { s.manager with operationCache := ⟨some op, now⟩ } := hlaw.written hresult
      -- a set enters the operation with the clock reading taken after the write
      have hmem := List.mem_append_right s.ledger.operation (mem_fetched_set hresult)
      refine ⟨?_, ?_, ?_, ?_⟩
      · rw [hmanager]
        exact h.age
      · rw [hmanager]
        exact ReadThroughCache.recorded_of_mem hmem
      · rw [hmanager]
        exact hfanMode
      · rw [hmanager]
        exact hcoarse

/-- `Init` sets the version and readiness only. -/
theorem init_keeps (m : S21Manager) (x : Exchange) :
    (m.init x).1.cacheMaxAge = m.cacheMaxAge ∧ (m.init x).1.operationCache = m.operationCache ∧
      (m.init x).1.fanModeCache = m.fanModeCache ∧
      (m.init x).1.coarseTemperatureAndHumidityCache = m.coarseTemperatureAndHumidityCache := by
  unfold init
  split
  · exact ⟨rfl, rfl, rfl, rfl⟩
  · split
    · exact ⟨rfl, rfl, rfl, rfl⟩
    · split
      · exact ⟨rfl, rfl, rfl, rfl⟩
      · exact ⟨rfl, rfl, rfl, rfl⟩

/-- **One step** of an audited manager keeps the law and stays audited. -/
theorem Audited.step (h : Audited maxAge s) (hage : 0 ≤ maxAge) {i : Exchange × Step}
    (hforward : Forward s i) : CacheLaw maxAge s i ∧ Audited maxAge (audit s i) := by
  obtain ⟨x, step⟩ := i
  cases step with
  | init =>
      obtain ⟨hsame, hoperation, hfan, hcoarse⟩ := init_keeps s.manager x
      exact ⟨⟨hoperation, hfan, hcoarse⟩, h.unused rfl rfl hsame hoperation hfan hcoarse⟩
  | operation now => exact h.operationStep hage (hforward now rfl)
  | fanMode now => exact h.fanModeStep hage (hforward now rfl)
  | coarse now => exact h.coarseStep hage (hforward now rfl)
  | roomTemperature => exact ⟨⟨rfl, rfl, rfl⟩, h.unused rfl rfl rfl rfl rfl rfl⟩
  | outdoorTemperature => exact ⟨⟨rfl, rfl, rfl⟩, h.unused rfl rfl rfl rfl rfl rfl⟩
  | humidity => exact ⟨⟨rfl, rfl, rfl⟩, h.unused rfl rfl rfl rfl rfl rfl⟩
  | unitState => exact ⟨⟨rfl, rfl, rfl⟩, h.unused rfl rfl rfl rfl rfl rfl⟩
  | setOperation now op => exact h.setStep (hforward now rfl) op

end Audited

/-- Readings in order make every step go forward. -/
theorem forward_of_sorted {s : Audit} {is : List (Exchange × Step)}
    (h : (s.clock :: is.filterMap fun i => i.2.reading).Pairwise (· ≤ ·)) :
    Lib.Along audit Forward s is := by
  induction is generalizing s with
  | nil => trivial
  | cons i is ih =>
      cases hreading : i.2.reading with
      | none =>
          rw [List.filterMap_cons, hreading] at h
          refine ⟨fun now hnow => ?_, ih ?_⟩
          · rw [hreading] at hnow
            cases hnow
          · unfold audit
            rw [hreading]
            exact h
      | some now =>
          rw [List.filterMap_cons, hreading] at h
          obtain ⟨hfirst, hrest⟩ := List.pairwise_cons.mp h
          refine ⟨fun t ht => ?_, ih ?_⟩
          · rw [hreading] at ht
            rw [← Option.some.inj ht]
            exact hfirst now List.mem_cons_self
          · unfold audit
            rw [hreading]
            exact hrest

/-- **Staleness and atomicity.** Take any history of calls from construction on, with any
answers, whose clock readings do not decrease. At every step of every call: what a get returns
was fetched, or written by a successful set, no longer ago than the maximal age; it fetches at
most once and never on a hit; and a failed fetch or set leaves the caches as they were, an
expired value not being returned. These steps are what the calls do. -/
theorem cache_staleness_bound (maxAge : Int) (hage : 0 ≤ maxAge) (start : Int)
    (history : List (ManagerCall × Exchange))
    (hclock : (start :: readings history).Pairwise (· ≤ ·)) :
    Lib.Along audit (CacheLaw maxAge) ⟨.new maxAge, {}, start⟩ (stepsOf (.new maxAge) history) ∧
      (Lib.run audit ⟨.new maxAge, {}, start⟩ (stepsOf (.new maxAge) history)).manager =
        Lib.run performCall (.new maxAge) history := by
  have hboot : Audited maxAge ⟨.new maxAge, {}, start⟩ :=
    ⟨rfl, ReadThroughCache.recorded_empty _ _, ReadThroughCache.recorded_empty _ _,
      ReadThroughCache.recorded_empty _ _⟩
  have hforward : Lib.Along audit Forward ⟨.new maxAge, {}, start⟩
      (stepsOf (.new maxAge) history) :=
    forward_of_sorted (hclock.sublist ((readings_stepsOf _ _).cons_cons _))
  exact ⟨.of_invariant (fun s i h hi => h.step hage hi) hboot hforward, audit_manager _ _⟩

/-- A unit that does not answer F1. -/
def withoutOperation (now : Int) : Exchange :=
  { Exchange.answering now .quiet with operation := .error "timeout" }

/-- An operation fetched at 100 ms has expired at 20 s: when the refresh fails then, the error
is returned, and the entry keeps its value and time. -/
theorem expired_operation_not_returned :
    let m := Lib.run performCall (.new 10000)
      [(.init, .answering 0 .quiet), (.getOnOff, .answering 100 .quiet)]
    (m.readOperation (withoutOperation 20000) 20000).result = .error "timeout" ∧
      (m.readOperation (withoutOperation 20000) 20000).manager.operationCache =
        ⟨some ⟨true, .cool, 2400, .quiet⟩, 100⟩ := by
  obtain ⟨⟨-, -, hlast, -⟩, -⟩ := cache_staleness_bound 10000 (by decide) 0
    [(.init, .answering 0 .quiet), (.getOnOff, .answering 100 .quiet),
      (.getOnOff, withoutOperation 20000)] (by decide)
  exact hlast.1.failed rfl "timeout" rfl

end S21Manager

end DaikinBridge.S21
