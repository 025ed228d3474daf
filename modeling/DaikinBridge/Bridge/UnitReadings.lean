import DaikinBridge.Bridge.WorkQueue
import DaikinBridge.Sync.OperationalPart

/-!
# DaikinBridge.Bridge.UnitReadings

What the polls make of a unit that answers truthfully.

The poll answers from the caches of the `S21Manager` while they are fresh. A reading is exact
all the same if nothing stale is fresh (`getOperation_truthful`), and it is the poll interval that
sees to that: whatever a poll reads is too old for the next one, and the next one only gets later
(`PollsAfter`). What is left is what the handlers do to the kernel, in the form in which the
installation uses it.
-/

namespace DaikinBridge.Bridge

open S21 Sync

/-! ### Reading the unit -/

/-- What F1 and RG together say of the unit. -/
def reading (unit : S21OperationCommand) : GetOperationResult :=
  ⟨unit.onOff, unit.operatingMode, unit.setpointCelsius, unit.fanMode⟩

/-- What the unit answers is true. F1 may say Auto for the fan of a running unit, as it does on
Quiet, as long as RG is asked and answers. -/
structure Truthful (unit : S21OperationCommand) (m : S21Manager) (x : Exchange) : Prop where
  operation : ∀ op, x.operation = .ok op → op = reading unit ∨
    (op = { reading unit with fanMode := .auto } ∧ unit.onOff = true ∧
      m.fanModeCapability.isUnsupported = false ∧ x.fanMode = .ok unit.fanMode)
  fanMode : ∀ fan, x.fanMode = .ok fan → fan = unit.fanMode

/-- The cache holds what it held, or has been filled at the time. -/
def FilledAt {α : Type} (c c' : ReadThroughCache α) (t : Int) : Prop :=
  c' = c ∨ ∃ v, c' = ⟨some v, t⟩

section Reading

variable {unit : S21OperationCommand} {m : S21Manager} {x : Exchange}

/-- With the fan cache expired, the cross-check asks RG. -/
theorem readFanMode_after_operation (hfan : m.fanModeCache.fresh m.cacheMaxAge x.later = none) :
    ((m.readOperation x x.now).manager.readFanMode x x.later).result =
      (m.fanModeCapability.callWithTracking x.fanMode).2 := by
  obtain ⟨hcache, hcapability, hage⟩ := S21Manager.readOperation_fan m x x.now
  simp only [S21Manager.readFanMode, hcache, hcapability, hage, hfan]

/-- What `getOperation` starts with, from the cache or from F1. -/
theorem startingOperation_truthful (htruth : Truthful unit m x)
    (hcached : ∀ op, m.operationCache.fresh m.cacheMaxAge x.now = some op → op = reading unit)
    {op : GetOperationResult} (hstart : m.startingOperation x = some op) :
    op = reading unit ∨ (op = { reading unit with fanMode := .auto } ∧ unit.onOff = true ∧
      m.fanModeCapability.isUnsupported = false ∧ x.fanMode = .ok unit.fanMode) := by
  unfold S21Manager.startingOperation at hstart
  cases hfresh : m.operationCache.fresh m.cacheMaxAge x.now with
  | some cached =>
      rw [hfresh] at hstart
      exact Or.inl (hcached op (hfresh.trans hstart))
  | none =>
      rw [hfresh] at hstart
      cases hanswer : x.operation with
      | error e =>
          rw [hanswer] at hstart
          cases hstart
      | ok op' =>
          rw [hanswer] at hstart
          obtain rfl : op' = op := Option.some.inj hstart
          exact htruth.operation op' hanswer

/-- **An exact reading.** If the operation cache holds nothing fresh but the truth, and the fan
cache nothing fresh at all, then what `getOperation` answers is true. -/
theorem getOperation_truthful (htruth : Truthful unit m x)
    (hcached : ∀ op, m.operationCache.fresh m.cacheMaxAge x.now = some op → op = reading unit)
    (hfan : m.fanModeCache.fresh m.cacheMaxAge x.later = none) {answer : GetOperationResult}
    (h : (m.getOperation x).result = .ok answer) : answer = reading unit := by
  have hready : m.isReady = true := by
    by_contra hnot
    rw [S21Manager.getOperation_not_ready (Bool.eq_false_iff.mpr hnot)] at h
    cases h
  cases hstart : m.startingOperation x with
  | none => exact absurd h ((S21Manager.getOperation_no_start hready hstart).1 answer)
  | some op =>
      have hop := startingOperation_truthful htruth hcached hstart
      by_cases hauto : op.onOff = true ∧ op.fanMode = .auto
      · -- RG decides, if it answers
        rw [(S21Manager.getOperation_crossCheck hready hstart hauto).1,
          readFanMode_after_operation hfan] at h
        unfold CommandCapability.callWithTracking at h
        cases hunsupported : m.fanModeCapability.isUnsupported with
        | true =>
            rw [hunsupported, if_pos rfl] at h
            obtain rfl : op = answer := Except.ok.inj h
            refine hop.resolve_right fun hquirk => ?_
            cases hunsupported.symm.trans hquirk.2.2.1
        | false =>
            rw [hunsupported, if_neg Bool.false_ne_true] at h
            cases hrg : x.fanMode with
            | error e =>
                rw [hrg] at h
                obtain rfl : op = answer := Except.ok.inj h
                refine hop.resolve_right fun hquirk => ?_
                cases hrg.symm.trans hquirk.2.2.2
            | ok fan =>
                rw [hrg] at h
                obtain rfl : { op with fanMode := fan } = answer := Except.ok.inj h
                obtain rfl := htruth.fanMode fan hrg
                rcases hop with rfl | ⟨rfl, -⟩
                · rfl
                · rfl
      · rw [(S21Manager.getOperation_unchecked hready hstart hauto).1] at h
        obtain rfl : op = answer := Except.ok.inj h
        rcases hop with htrue | ⟨rfl, hon, -⟩
        · exact htrue
        · exact absurd ⟨hon, rfl⟩ hauto

/-! ### What a poll leaves in the caches -/

/-- A poll fills the caches, if any, at the times of its readings. -/
structure CachesRead (m m' : S21Manager) (x : Exchange) : Prop where
  cacheMaxAge : m'.cacheMaxAge = m.cacheMaxAge
  operation : FilledAt m.operationCache m'.operationCache x.now
  fan : FilledAt m.fanModeCache m'.fanModeCache x.later

theorem filledAt_store {α : Type} (c : ReadThroughCache α) (t : Int) (answer : Except String α) :
    FilledAt c (c.store t answer) t := by
  cases answer with
  | error e => exact Or.inl rfl
  | ok v => exact Or.inr ⟨v, rfl⟩

theorem cachesRead_readOperation (m : S21Manager) (x : Exchange) :
    CachesRead m (m.readOperation x x.now).manager x := by
  unfold S21Manager.readOperation
  split
  · exact ⟨rfl, Or.inl rfl, Or.inl rfl⟩
  · exact ⟨rfl, filledAt_store _ _ _, Or.inl rfl⟩

/-- The cross-check fills the fan cache only. -/
theorem CachesRead.readFanMode {m' : S21Manager} (h : CachesRead m m' x)
    (hcache : m'.fanModeCache = m.fanModeCache) :
    CachesRead m (m'.readFanMode x x.later).manager x := by
  unfold S21Manager.readFanMode
  split
  · exact h
  · refine ⟨h.cacheMaxAge, h.operation, ?_⟩
    dsimp only
    rw [hcache]
    exact filledAt_store _ _ _

theorem cachesRead_getOperation (m : S21Manager) (x : Exchange) :
    CachesRead m (m.getOperation x).manager x := by
  have hread := cachesRead_readOperation m x
  have hfan := (S21Manager.readOperation_fan m x x.now).1
  unfold S21Manager.getOperation S21Manager.whenReady Outcome.andThen
  split
  · split
    · exact hread
    · dsimp only
      split
      · split <;> exact hread.readFanMode hfan
      · exact hread
  · exact ⟨rfl, Or.inl rfl, Or.inl rfl⟩

/-- The query of the valve touches neither cache. -/
theorem CachesRead.queryValve {m' : S21Manager} (h : CachesRead m m' x) (y : Exchange)
    (onOff : Bool) :
    CachesRead m (AirConditionerManager.queryValve m' y onOff).1 x := by
  have hunit : CachesRead m (m'.getUnitState y).manager x := by
    unfold S21Manager.getUnitState S21Manager.whenReady
    split
    · exact ⟨h.cacheMaxAge, h.operation, h.fan⟩
    · exact h
  unfold AirConditionerManager.queryValve
  split
  · dsimp only
    split <;> exact hunit
  · exact h

theorem cachesRead_operational (a : AirConditionerManager) (p : PollExchange) :
    CachesRead a.s21Manager (a.pollOperationalPhase p).after.s21Manager p.operation := by
  have hget := cachesRead_getOperation a.s21Manager p.operation
  unfold AirConditionerManager.pollOperationalPhase
  dsimp only
  split
  · exact hget
  · exact hget.queryValve _ _

/-- Sensor calls do not touch the fan cache. -/
theorem fanModeCache_getSensor (m : S21Manager) {α : Type} {capability : CommandCapability}
    {keep : S21Manager → CommandCapability → S21Manager} {answer : Except String α}
    {call : PresentationCall} {component : GetCoarseTemperatureAndHumidityResult → α}
    (hkeep : ∀ c, (keep m c).fanModeCache = m.fanModeCache) :
    (m.getSensor x capability keep answer call component).manager.fanModeCache = m.fanModeCache :=
  S21Manager.getSensor_keeps (P := fun m' => m'.fanModeCache = m.fanModeCache) rfl hkeep
    fun _ _ _ h => h

/-- The environmental phase leaves what the operational one reads. -/
theorem caches_environmental (a : AirConditionerManager) (p : PollExchange) :
    (a.pollEnvironmentalPhase p).after.s21Manager.cacheMaxAge = a.s21Manager.cacheMaxAge ∧
      (a.pollEnvironmentalPhase p).after.s21Manager.operationCache = a.s21Manager.operationCache ∧
      (a.pollEnvironmentalPhase p).after.s21Manager.fanModeCache = a.s21Manager.fanModeCache := by
  have hsame := AirConditionerManager.sameOperation_environmental a p
  refine ⟨hsame.cacheMaxAge, hsame.operationCache, ?_⟩
  unfold AirConditionerManager.pollEnvironmentalPhase
  split
  · exact ((fanModeCache_getSensor _ fun _ => rfl).trans
      (fanModeCache_getSensor _ fun _ => rfl)).trans (fanModeCache_getSensor _ fun _ => rfl)
  · rfl

end Reading

/-! ### When caches expire -/

namespace S21WorkQueue

/-- The poll that runs, or else the next one, starts after the time. -/
def PollsAfter (s : S21WorkQueue) (t : Int) : Prop :=
  (s.queue.running = some .poll → ∃ start : Nat, s.polls.getLast? = some start ∧ t < start) ∧
    (s.queue.running ≠ some .poll → ∃ due : Nat, s.queue.Pending .poll due ∧ t < due)

/-- The poll that runs, or else the next one, finds the cache expired. -/
def Expires {α : Type} (s : S21WorkQueue) (c : ReadThroughCache α) : Prop :=
  c.value = none ∨ s.PollsAfter (c.timestamp + s.manager.s21Manager.cacheMaxAge)

section PollsAfter

variable {s s' : S21WorkQueue} {t : Int}

/-- Before the link is ready no poll is ahead. -/
theorem PollsAfter.ready (h : s.PollsAfter t) (halive : s.Alive) :
    s.manager.s21Manager.isReady = true := by
  by_contra hnot
  have hsole := halive.sole
  rw [Bool.eq_false_iff.mpr hnot] at hsole
  have hload := hsole.others .poll lifeline_poll S21Work.noConfusion
  obtain ⟨hwaiting, hrunning⟩ := Nat.add_eq_zero_iff.mp hload
  have hidle : s.queue.running ≠ some .poll := by
    intro hpoll
    rw [if_pos hpoll] at hrunning
    cases hrunning
  obtain ⟨due, hpending, -⟩ := h.2 hidle
  rcases hpending with hdelayed | ⟨hsubmitted, -⟩
  · rw [Lib.WorkQueue.waiting, hdelayed] at hwaiting
    simp at hwaiting
  · have hcount := List.count_pos_iff.mpr hsubmitted
    have hzero := (Nat.add_eq_zero_iff.mp hwaiting).2
    omega

/-- A step of another handler, or of none. -/
theorem PollsAfter.frame (h : s.PollsAfter t) (hpolls : s'.polls = s.polls)
    (hrunning : s'.queue.running = some .poll ↔ s.queue.running = some .poll)
    (hnext : ∀ due, s.queue.Pending .poll due → s'.queue.Pending .poll due) :
    s'.PollsAfter t := by
  refine ⟨fun hpoll => ?_, fun hidle => ?_⟩
  · rw [hpolls]
    exact h.1 (hrunning.mp hpoll)
  · obtain ⟨due, hpending, hlt⟩ := h.2 fun hpoll => hidle (hrunning.mpr hpoll)
    exact ⟨due, hnext due hpending, hlt⟩

/-- What a poll reads is too old for the next one. -/
theorem pollsAfter_operational {p : PollExchange}
    (hstep : s.step (.operational p) = some s') (hpast : t < s.queue.now + kS21PollIntervalMs) :
    s'.PollsAfter t := by
  cases steps_of_step hstep with
  | operational p hrunning hsensors =>
      refine ⟨nofun, fun _ => ⟨s.queue.now + kS21PollIntervalMs, ?_, ?_⟩⟩
      · exact (Lib.WorkQueue.pending_reschedule s.queue .poll kS21PollIntervalMs).finish
      · push_cast
        exact hpast

/-- The next poll only gets later. -/
theorem PollsAfter.step {e : QueueEvent} (h : s.PollsAfter t) (halive : s.Alive)
    (hcadence : s.Cadence) (hstep : s.step e = some s') : s'.PollsAfter t := by
  have hready := h.ready halive
  cases steps_of_step hstep with
  | elapse d => exact h.frame rfl Iff.rfl fun _ hnext => hnext.elapse d
  | expire hexpire =>
      refine h.frame rfl ?_ fun _ hnext => hnext.expire hexpire
      dsimp only
      rw [Lib.WorkQueue.running_expire hexpire]
  | @startPoll queue hstart hrunning =>
      refine ⟨fun _ => ⟨queue.now, List.getLast?_concat, ?_⟩, fun hidle => absurd hrunning hidle⟩
      obtain ⟨w, rest, hfree, hsubmitted, hqueue⟩ := Lib.WorkQueue.start_eq_some hstart
      obtain ⟨due, hpending, hlt⟩ := h.2 (by rw [hfree]; exact nofun)
      have hsole := halive.sole
      rw [hready] at hsole
      have hdue : due ≤ queue.now := hsole.start_of_pending hpending hstart hrunning
      omega
  -- once the link is ready there are no retries
  | startRetry hstart hrunning =>
      have hsole := halive.sole.start hstart
      cases (not_ready_of_retry hsole hrunning).symm.trans hready
  | @startCommand queue hstart hrunning =>
      obtain ⟨w, rest, hfree, -, -⟩ := Lib.WorkQueue.start_eq_some hstart
      refine h.frame rfl (iff_of_false ?_ ?_) fun _ hnext => ?_
      · rw [hrunning]
        exact nofun
      · rw [hfree]
        exact nofun
      · refine (hnext.start hstart).resolve_right fun hpoll => ?_
        cases hrunning.symm.trans hpoll.1
  | environmental p hrunning hsensors => exact h.frame rfl Iff.rfl fun _ hnext => hnext
  | operational p hrunning hsensors =>
      obtain ⟨start, hstart, hlt⟩ := h.1 hrunning
      have hpast := (hcadence.next start hstart).1
      refine pollsAfter_operational hstep ?_
      omega
  | retrySucceeded x hrunning _ =>
      cases (not_ready_of_retry halive.sole hrunning).symm.trans hready
  | retryFailed x hrunning _ =>
      cases (not_ready_of_retry halive.sole hrunning).symm.trans hready
  | command x meanwhile hrunning =>
      refine h.frame rfl (iff_of_false nofun ?_) fun _ hnext => hnext.finish
      rw [hrunning]
      exact nofun
  | trigger =>
      refine h.frame rfl ?_ fun _ hnext => ?_
      · dsimp only
        rw [Lib.WorkQueue.reschedule_running]
      · dsimp only
        exact hnext.reschedule_of_ne S21Work.noConfusion
  | intent now i => exact h.frame rfl Iff.rfl fun _ hnext => hnext

/-- A cache that has expired by the next poll is not fresh when the poll reads it. -/
theorem Expires.fresh {α : Type} {c : ReadThroughCache α} (h : s.Expires c)
    (hrunning : s.queue.running = some .poll)
    (hclock : ∀ start : Nat, s.polls.getLast? = some start → start ≤ t) :
    c.fresh s.manager.s21Manager.cacheMaxAge t = none := by
  unfold ReadThroughCache.fresh
  split
  · rename_i hfresh
    refine h.resolve_right fun hpast => ?_
    obtain ⟨start, hstart, hlt⟩ := hpast.1 hrunning
    have hread := hclock start hstart
    omega
  · rfl

end PollsAfter

end S21WorkQueue

/-! ### The handlers -/

namespace AirConditionerManager

variable (a : AirConditionerManager) (p : PollExchange) (x : Exchange)
  (meanwhile : List (Int × WriteIntent))

/-- The kernel after a poll that passes an observation on. -/
theorem kernel_of_observation {obs : S21OperationalObservation}
    (h : (a.pollOperationalPhase p).observation = some obs) :
    (a.pollOperationalPhase p).after.kernel =
      (a.kernel.applyOperationalObservation p.now obs).1 := by
  unfold pollOperationalPhase at h ⊢
  dsimp only at h ⊢
  cases hresult : (a.s21Manager.getOperation p.operation).result with
  | error e =>
      rw [hresult] at h
      cases h
  | ok op =>
      rw [hresult] at h
      dsimp only at h ⊢
      rw [Option.some.inj h]

/-- A poll that succeeds passes an observation on. -/
theorem exists_observation (h : (a.pollOperationalPhase p).after.consecutivePollFailures = 0) :
    ∃ obs, (a.pollOperationalPhase p).observation = some obs := by
  unfold pollOperationalPhase at h ⊢
  dsimp only at h ⊢
  cases hresult : (a.s21Manager.getOperation p.operation).result with
  | error e =>
      rw [hresult] at h
      cases h
  | ok op => exact ⟨_, rfl⟩

/-- The kernel after a poll that passes none on. -/
theorem kernel_of_no_observation (h : (a.pollOperationalPhase p).observation = none) :
    (a.pollOperationalPhase p).after.kernel.operationalPart = a.kernel.operationalPart := by
  unfold pollOperationalPhase at h ⊢
  dsimp only at h ⊢
  cases hresult : (a.s21Manager.getOperation p.operation).result with
  | error e =>
      dsimp only
      split
      · exact Reconciler.operationalPart_linkDown _
      · rfl
  | ok op =>
      rw [hresult] at h
      cases h

theorem kernel_environmental :
    (a.pollEnvironmentalPhase p).after.kernel.operationalPart = a.kernel.operationalPart := by
  unfold pollEnvironmentalPhase
  split
  · dsimp only
    split
    · exact Reconciler.operationalPart_environmental _ _
    · rfl
  · rfl

/-- The kernel when the command handler reports the send. -/
def kernelMeanwhile : Reconciler :=
  meanwhile.foldl (fun r write => (r.applyIntent write.1 write.2).1) a.kernel

/-- **The command handler.** With a command pending, the send succeeds and fills the operation
cache, or it fails. -/
theorem commandWork_cases {c : S21OperationCommand} (h : a.kernel.pendingCommand = some c) :
    (a.s21Manager.isReady = true ∧ x.setOperation.isOk = true ∧
      a.commandWork x meanwhile = { a with
        s21Manager := { a.s21Manager with operationCache := ⟨some (reading c), x.now⟩ }
        kernel := (a.kernelMeanwhile meanwhile).onCommandSent c }) ∨
    (¬ (a.s21Manager.isReady = true ∧ x.setOperation.isOk = true) ∧
      a.commandWork x meanwhile = { a with
        kernel := (a.kernelMeanwhile meanwhile).onCommandFailed }) := by
  simp only [commandWork, h, S21Manager.setOperation, S21Manager.writeOperation,
    S21Manager.whenReady]
  cases hready : a.s21Manager.isReady with
  | false => exact Or.inr ⟨fun h => Bool.noConfusion h.1, rfl⟩
  | true =>
      cases hanswer : x.setOperation with
      | error e => exact Or.inr ⟨fun h => Bool.noConfusion h.2, rfl⟩
      | ok _ => exact Or.inl ⟨rfl, rfl, rfl⟩

theorem commandWork_of_none (h : a.kernel.pendingCommand = none) :
    a.commandWork x meanwhile = a := by
  simp only [commandWork, h]

end AirConditionerManager

/-- `Init` touches no cache. -/
theorem caches_init (m : S21Manager) (x : Exchange) :
    (m.init x).1.cacheMaxAge = m.cacheMaxAge ∧
      (m.init x).1.operationCache = m.operationCache ∧
      (m.init x).1.fanModeCache = m.fanModeCache := by
  unfold S21Manager.init
  split
  · exact ⟨rfl, rfl, rfl⟩
  · split
    · exact ⟨rfl, rfl, rfl⟩
    · split <;> exact ⟨rfl, rfl, rfl⟩

end DaikinBridge.Bridge
