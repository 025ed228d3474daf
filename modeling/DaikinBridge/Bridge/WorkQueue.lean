import DaikinBridge.Bridge.AirConditionerManager
import DaikinBridge.Lib.DelayableWork
import DaikinBridge.Lib.Runs
import DaikinBridge.S21.Setters
import Mathlib.Algebra.Group.Nat.Defs
import Mathlib.Data.List.Chain

/-!
# DaikinBridge.Bridge.WorkQueue

When the S21 work queue runs what (`src/airconditioner_manager.{h,cpp}`): the init retries,
the polls and the command pump, each a delayable work item whose handler schedules what
comes next.

A handler is a step at its end, and a poll one step for each of its phases; in between time
passes, deadlines expire, and other threads write and trigger the pump. The last six fields
of `S21WorkQueue` are not part of the source: they record when the handlers started, when
they failed, and which polls read the sensors.

* `one_lifeline` — the bridge always has exactly one of a poll and a retry ahead of it;
* `poll_cadence` — polls keep their distance, and every sixth one reads the sensors;
* `retry_backoff` — how long a retry waits;
* `command_debounced` — no trigger of the pump is lost, and a burst of them runs it once.
-/

namespace DaikinBridge.Bridge

open S21 Sync

/-- The work items. -/
inductive S21Work
  | poll
  | initRetry
  | command
  deriving DecidableEq, Repr

/-- The queue with the manager it works on; the lists at the end record, for the proofs, the
times at which things happened. -/
structure S21WorkQueue where
  queue : Lib.WorkQueue S21Work
  manager : AirConditionerManager
  initRetryIntervalMs : Nat
  /-- The poll that runs is past its environmental phase. -/
  sensorsDone : Bool
  polls : List Nat
  sensorPolls : List Bool
  failures : List Nat
  retries : List Nat
  triggers : List Nat
  commands : List Nat

/-- What can happen next. -/
inductive QueueEvent
  | elapse (d : Nat)
  | expire (w : S21Work)
  | start
  /-- The phases of the poll that runs. -/
  | environmental (p : PollExchange)
  | operational (p : PollExchange)
  /-- The ends of the other two handlers. -/
  | initRetry (x : Exchange)
  | command (x : Exchange) (meanwhile : List (Int × WriteIntent))
  /-- Another thread triggers the pump. -/
  | trigger
  | intent (now : Int) (i : WriteIntent)

namespace S21WorkQueue

/-- From one poll to the next. -/
def kS21PollIntervalMs : Nat := 10 * 1000

/-- The first delay of a retry of the init sequence, which doubles from there. -/
def kS21InitRetryInitialIntervalMilliSec : Nat := 500

/-- The delay it does not go beyond. -/
def kS21InitRetryMaximumIntervalMilliSec : Nat := 60000

/-- From the trigger of the pump to the command work. -/
def kCommandDebounceMs : Nat := 50

/-- `Init`: a poll at once, or a retry after the initial interval. -/
def boot (cacheMaxAge : Int) (kernel : Reconciler) (x : Exchange) : S21WorkQueue :=
  let (s21Manager, err, _) := (S21Manager.new cacheMaxAge).init x
  { queue :=
      if err = 0 then Lib.WorkQueue.empty.reschedule .poll 0
      else Lib.WorkQueue.empty.reschedule .initRetry kS21InitRetryInitialIntervalMilliSec
    manager := { s21Manager, kernel }
    initRetryIntervalMs := kS21InitRetryInitialIntervalMilliSec
    sensorsDone := false
    polls := []
    sensorPolls := []
    failures := if err = 0 then [] else [0]
    retries := []
    triggers := []
    commands := [] }

section Steps

variable (s : S21WorkQueue)

/-- The thread of the queue enters a handler. -/
def enter (queue : Lib.WorkQueue S21Work) : S21WorkQueue :=
  match queue.running with
  | some .poll => { s with queue, sensorsDone := false, polls := s.polls ++ [queue.now] }
  | some .initRetry => { s with queue, retries := s.retries ++ [queue.now] }
  | some .command => { s with queue, commands := s.commands ++ [queue.now] }
  | none => { s with queue }

/-- The end of `InitRetryWorkHandler`: the interval doubles after it has been used. -/
def initRetryWork (x : Exchange) : S21WorkQueue :=
  let (s21Manager, err, _) := s.manager.s21Manager.init x
  let s := { s with manager := { s.manager with s21Manager } }
  if err = 0 then
    { s with queue := (s.queue.reschedule .poll 0).finish }
  else
    { s with
      queue := (s.queue.reschedule .initRetry s.initRetryIntervalMs).finish
      initRetryIntervalMs :=
        min (s.initRetryIntervalMs * 2) kS21InitRetryMaximumIntervalMilliSec
      failures := s.failures ++ [s.queue.now] }

/-- One step, if it can be taken. -/
def step : QueueEvent → Option S21WorkQueue
  | .elapse d => some { s with queue := s.queue.elapse d }
  | .expire w => (s.queue.expire w).map fun queue => { s with queue }
  | .start => s.queue.start.map s.enter
  | .environmental p =>
      if s.queue.running = some .poll ∧ s.sensorsDone = false then
        some { s with
          manager := (s.manager.pollEnvironmentalPhase p).after
          sensorsDone := true
          sensorPolls := s.sensorPolls ++ [decide (s.manager.environmentalReadCountdown = 0)] }
      else none
  | .operational p =>
      if s.queue.running = some .poll ∧ s.sensorsDone = true then
        some { s with
          manager := (s.manager.pollOperationalPhase p).after
          queue := (s.queue.reschedule .poll kS21PollIntervalMs).finish }
      else none
  | .initRetry x => if s.queue.running = some .initRetry then some (s.initRetryWork x) else none
  | .command x meanwhile =>
      if s.queue.running = some .command then
        some { s with
          manager := s.manager.commandWork x meanwhile
          queue := s.queue.finish }
      else none
  | .trigger => some { s with
      queue := s.queue.reschedule .command kCommandDebounceMs
      triggers := s.triggers ++ [s.queue.now] }
  | .intent now i => some { s with
      manager := { s.manager with kernel := (s.manager.kernel.applyIntent now i).1 } }

end Steps

/-! ### The link stays up -/

section Ready

variable (m : S21Manager) (x : Exchange)

theorem isReady_readFanMode (now : Int) :
    (m.readFanMode x now).manager.isReady = m.isReady := by
  unfold S21Manager.readFanMode
  split <;> rfl

theorem isReady_getOperation : (m.getOperation x).manager.isReady = m.isReady := by
  unfold S21Manager.getOperation S21Manager.whenReady
  split
  · refine Outcome.andThen_keeps (P := fun m' => m'.isReady = m.isReady)
      (S21Manager.readOperation_isReady m x x.now) fun m' op hm' => ?_
    dsimp only
    split
    · have hfan := (isReady_readFanMode m' x x.later).trans hm'
      split <;> exact hfan
    · exact hm'
  · rfl

theorem isReady_queryValve (onOff : Bool) :
    (AirConditionerManager.queryValve m x onOff).1.isReady = m.isReady := by
  have hunit : (m.getUnitState x).manager.isReady = m.isReady := by
    unfold S21Manager.getUnitState S21Manager.whenReady
    split <;> rfl
  unfold AirConditionerManager.queryValve
  split
  · dsimp only
    split <;> exact hunit
  · rfl

theorem isReady_setOperation (op : GetOperationResult) :
    (m.setOperation x op).manager.isReady = m.isReady := by
  unfold S21Manager.setOperation S21Manager.writeOperation S21Manager.whenReady
  split
  · dsimp only
    split <;> rfl
  · rfl

/-- `Init` succeeds exactly when it leaves the manager ready. -/
theorem isReady_init_iff : (m.init x).2.1 = 0 ↔ (m.init x).1.isReady = true := by
  unfold S21Manager.init
  cases hready : m.isReady with
  | true => simp [hready]
  | false =>
      cases x.protocolVersion with
      | error e => simp [hready]
      | ok version =>
          simp only [Bool.false_eq_true, if_false]
          split <;> simp

variable (a : AirConditionerManager) (p : PollExchange)

theorem isReady_operational :
    (a.pollOperationalPhase p).after.s21Manager.isReady = a.s21Manager.isReady := by
  unfold AirConditionerManager.pollOperationalPhase
  dsimp only
  split
  · exact isReady_getOperation _ _
  · exact (isReady_queryValve _ _ _).trans (isReady_getOperation _ _)

theorem isReady_commandWork (meanwhile : List (Int × WriteIntent)) :
    (a.commandWork x meanwhile).s21Manager.isReady = a.s21Manager.isReady := by
  unfold AirConditionerManager.commandWork
  split
  · rfl
  · exact isReady_setOperation _ _ _

end Ready

/-! ### Steps -/

/-- The steps, with what enables them. -/
inductive Steps (s : S21WorkQueue) : QueueEvent → S21WorkQueue → Prop
  | elapse (d : Nat) : Steps s (.elapse d) { s with queue := s.queue.elapse d }
  | expire {w : S21Work} {queue : Lib.WorkQueue S21Work} (hexpire : s.queue.expire w = some queue) :
      Steps s (.expire w) { s with queue }
  | startPoll {queue : Lib.WorkQueue S21Work} (hstart : s.queue.start = some queue)
      (hrunning : queue.running = some .poll) :
      Steps s .start { s with queue, sensorsDone := false, polls := s.polls ++ [queue.now] }
  | startRetry {queue : Lib.WorkQueue S21Work} (hstart : s.queue.start = some queue)
      (hrunning : queue.running = some .initRetry) :
      Steps s .start { s with queue, retries := s.retries ++ [queue.now] }
  | startCommand {queue : Lib.WorkQueue S21Work} (hstart : s.queue.start = some queue)
      (hrunning : queue.running = some .command) :
      Steps s .start { s with queue, commands := s.commands ++ [queue.now] }
  | environmental (p : PollExchange) (hrunning : s.queue.running = some .poll)
      (hsensors : s.sensorsDone = false) :
      Steps s (.environmental p)
        { s with
          manager := (s.manager.pollEnvironmentalPhase p).after
          sensorsDone := true
          sensorPolls := s.sensorPolls ++ [decide (s.manager.environmentalReadCountdown = 0)] }
  | operational (p : PollExchange) (hrunning : s.queue.running = some .poll)
      (hsensors : s.sensorsDone = true) :
      Steps s (.operational p)
        { s with
          manager := (s.manager.pollOperationalPhase p).after
          queue := (s.queue.reschedule .poll kS21PollIntervalMs).finish }
  | retrySucceeded (x : Exchange) (hrunning : s.queue.running = some .initRetry)
      (hready : (s.manager.s21Manager.init x).1.isReady = true) :
      Steps s (.initRetry x)
        { s with
          manager := { s.manager with s21Manager := (s.manager.s21Manager.init x).1 }
          queue := (s.queue.reschedule .poll 0).finish }
  | retryFailed (x : Exchange) (hrunning : s.queue.running = some .initRetry)
      (hready : (s.manager.s21Manager.init x).1.isReady = false) :
      Steps s (.initRetry x)
        { s with
          manager := { s.manager with s21Manager := (s.manager.s21Manager.init x).1 }
          queue := (s.queue.reschedule .initRetry s.initRetryIntervalMs).finish
          initRetryIntervalMs :=
            min (s.initRetryIntervalMs * 2) kS21InitRetryMaximumIntervalMilliSec
          failures := s.failures ++ [s.queue.now] }
  | command (x : Exchange) (meanwhile : List (Int × WriteIntent))
      (hrunning : s.queue.running = some .command) :
      Steps s (.command x meanwhile)
        { s with manager := s.manager.commandWork x meanwhile, queue := s.queue.finish }
  | trigger : Steps s .trigger
      { s with
        queue := s.queue.reschedule .command kCommandDebounceMs
        triggers := s.triggers ++ [s.queue.now] }
  | intent (now : Int) (i : WriteIntent) : Steps s (.intent now i)
      { s with manager := { s.manager with kernel := (s.manager.kernel.applyIntent now i).1 } }

theorem steps_of_step {s s' : S21WorkQueue} {e : QueueEvent} (h : s.step e = some s') :
    s.Steps e s' := by
  cases e with
  | elapse d =>
      obtain rfl := Option.some.inj h
      exact .elapse d
  | expire w =>
      obtain ⟨queue, hexpire, rfl⟩ := Option.map_eq_some_iff.mp h
      exact .expire hexpire
  | start =>
      obtain ⟨queue, hstart, rfl⟩ := Option.map_eq_some_iff.mp h
      obtain ⟨w, rest, -, -, hqueue⟩ := Lib.WorkQueue.start_eq_some hstart
      have hrunning : queue.running = some w := by rw [hqueue]
      cases w with
      | poll =>
          simp only [enter, hrunning]
          exact .startPoll hstart hrunning
      | initRetry =>
          simp only [enter, hrunning]
          exact .startRetry hstart hrunning
      | command =>
          simp only [enter, hrunning]
          exact .startCommand hstart hrunning
  | environmental p =>
      obtain ⟨⟨hrunning, hsensors⟩, rfl⟩ := Option.ite_some_none_eq_some.mp h
      exact .environmental p hrunning hsensors
  | operational p =>
      obtain ⟨⟨hrunning, hsensors⟩, rfl⟩ := Option.ite_some_none_eq_some.mp h
      exact .operational p hrunning hsensors
  | initRetry x =>
      obtain ⟨hrunning, rfl⟩ := Option.ite_some_none_eq_some.mp h
      cases hready : (s.manager.s21Manager.init x).1.isReady with
      | true =>
          have herr := (isReady_init_iff s.manager.s21Manager x).mpr hready
          simp only [initRetryWork, herr, if_true]
          exact .retrySucceeded x hrunning hready
      | false =>
          have herr : (s.manager.s21Manager.init x).2.1 ≠ 0 := by
            intro herr
            rw [(isReady_init_iff s.manager.s21Manager x).mp herr] at hready
            cases hready
          simp only [initRetryWork, if_neg herr]
          exact .retryFailed x hrunning hready
  | command x meanwhile =>
      obtain ⟨hrunning, rfl⟩ := Option.ite_some_none_eq_some.mp h
      exact .command x meanwhile hrunning
  | trigger =>
      obtain rfl := Option.some.inj h
      exact .trigger
  | intent now i =>
      obtain rfl := Option.some.inj h
      exact .intent now i

/-! ### A slow start -/

/-- A unit that does not answer the version query. -/
def silent : Exchange := { Exchange.answering 0 .high with protocolVersion := .error "timeout" }

/-- The unit is silent at boot and for two retries; then two polls, and in between a burst of
two triggers. -/
def slowStart : List QueueEvent :=
  [.elapse 500, .expire .initRetry, .start, .initRetry silent,
    .elapse 500, .expire .initRetry, .start, .initRetry silent,
    .elapse 1200, .expire .initRetry, .start, .initRetry (.answering 2200 .high),
    .start, .environmental (AirConditionerManager.coolingPoll 2200),
    .operational (AirConditionerManager.coolingPoll 2200),
    .trigger, .elapse 30, .trigger, .elapse 60, .expire .command, .start,
    .command (.answering 2290 .high) [],
    .elapse 10000, .expire .poll, .start,
    .environmental (AirConditionerManager.coolingPoll 12290)]

/-- What is recorded of it. -/
theorem slowStart_runs :
    ∃ s, Lib.runGuarded step (boot 5000 .boot silent) slowStart = some s ∧
      s.manager.s21Manager.isReady = true ∧ s.polls = [2200, 12290] ∧
      s.retries = [500, 1000, 2200] ∧ s.triggers = [2200, 2230] ∧ s.commands = [2290] :=
  ⟨_, rfl, rfl, rfl, rfl, rfl, rfl⟩

/-! ### The lifeline -/

/-- The items that keep the bridge going. -/
def Lifeline (w : S21Work) : Prop := w ≠ .command

theorem lifeline_poll : Lifeline .poll := S21Work.noConfusion

theorem lifeline_initRetry : Lifeline .initRetry := S21Work.noConfusion

/-- What the bridge goes on with: polls, once the link is ready. -/
def ahead (ready : Bool) : S21Work := if ready then .poll else .initRetry

/-- A poll runs only when the link is ready, and a retry only when it is not. -/
theorem ready_of_poll {q : Lib.WorkQueue S21Work} {ready : Bool}
    (h : q.Sole Lifeline (ahead ready)) (hrunning : q.running = some .poll) : ready = true := by
  have hahead := h.eq_of_running lifeline_poll hrunning
  cases ready with
  | true => rfl
  | false => cases hahead

theorem not_ready_of_retry {q : Lib.WorkQueue S21Work} {ready : Bool}
    (h : q.Sole Lifeline (ahead ready)) (hrunning : q.running = some .initRetry) :
    ready = false := by
  have hahead := h.eq_of_running lifeline_initRetry hrunning
  cases ready with
  | true => cases hahead
  | false => rfl

theorem sole_first {w : S21Work} (hw : Lifeline w) (delay : Nat) :
    ((Lib.WorkQueue.empty : Lib.WorkQueue S21Work).reschedule w delay).Sole Lifeline w where
  mem := hw
  once := by
    rw [Lib.WorkQueue.load, Lib.WorkQueue.waiting_reschedule_of_zero rfl,
      Lib.WorkQueue.reschedule_running]
    rfl
  others v _ hne := by
    rw [Lib.WorkQueue.load, Lib.WorkQueue.waiting_reschedule_of_ne hne,
      Lib.WorkQueue.reschedule_running]
    rfl

/-- The queue holds what the bridge goes on with, and there is no poll before the link is
ready. -/
structure Alive (s : S21WorkQueue) : Prop where
  sole : s.queue.Sole Lifeline (ahead s.manager.s21Manager.isReady)
  unpolled : s.manager.s21Manager.isReady = false → s.polls = []

theorem alive_boot (cacheMaxAge : Int) (kernel : Reconciler) (x : Exchange) :
    (boot cacheMaxAge kernel x).Alive := by
  have hready := isReady_init_iff (.new cacheMaxAge) x
  refine ⟨?_, fun _ => rfl⟩
  unfold boot
  dsimp only
  by_cases herr : ((S21Manager.new cacheMaxAge).init x).2.1 = 0
  · rw [if_pos herr, hready.mp herr]
    exact sole_first lifeline_poll 0
  · have hnot : ((S21Manager.new cacheMaxAge).init x).1.isReady = false := by
      rw [← Bool.not_eq_true, ← hready]
      exact herr
    rw [if_neg herr, hnot]
    exact sole_first lifeline_initRetry _

theorem alive_step {s s' : S21WorkQueue} {e : QueueEvent} (h : s.Alive)
    (hstep : s.step e = some s') : s'.Alive := by
  cases steps_of_step hstep with
  | elapse d => exact ⟨h.sole.elapse d, h.unpolled⟩
  | expire hexpire => exact ⟨h.sole.expire hexpire, h.unpolled⟩
  | startPoll hstart hrunning =>
      have hsole := h.sole.start hstart
      refine ⟨hsole, fun hnot => ?_⟩
      cases (ready_of_poll hsole hrunning).symm.trans hnot
  | startRetry hstart hrunning => exact ⟨h.sole.start hstart, h.unpolled⟩
  | startCommand hstart hrunning => exact ⟨h.sole.start hstart, h.unpolled⟩
  | environmental p hrunning hsensors =>
      have hsame := (AirConditionerManager.sameOperation_environmental s.manager p).isReady
      refine ⟨?_, ?_⟩
      · dsimp only
        rw [hsame]
        exact h.sole
      · dsimp only
        rw [hsame]
        exact h.unpolled
  | operational p hrunning hsensors =>
      -- the poll that ends schedules the next one
      have hready := ready_of_poll h.sole hrunning
      have hready' := (isReady_operational s.manager p).trans hready
      refine ⟨?_, fun hnot => ?_⟩
      · dsimp only
        rw [hready']
        exact h.sole.handOver lifeline_poll hrunning lifeline_poll
      · cases hready'.symm.trans hnot
  | retrySucceeded x hrunning hready =>
      refine ⟨?_, fun hnot => ?_⟩
      · dsimp only
        rw [hready]
        exact h.sole.handOver lifeline_initRetry hrunning lifeline_poll
      · cases hready.symm.trans hnot
  | retryFailed x hrunning hready =>
      refine ⟨?_, fun _ => h.unpolled (not_ready_of_retry h.sole hrunning)⟩
      dsimp only
      rw [hready]
      exact h.sole.handOver lifeline_initRetry hrunning lifeline_initRetry
  | command x meanwhile hrunning =>
      have hsame := isReady_commandWork x s.manager meanwhile
      refine ⟨?_, ?_⟩
      · dsimp only
        rw [hsame]
        exact h.sole.finish_outside (fun hlife => hlife rfl) hrunning
      · dsimp only
        rw [hsame]
        exact h.unpolled
  | trigger =>
      refine ⟨?_, h.unpolled⟩
      dsimp only
      exact h.sole.reschedule_outside fun hlife => hlife rfl
  | intent now i => exact ⟨h.sole, h.unpolled⟩

/-- **The bridge goes on.** In every state of every run from boot, whatever the delays and
the replies of the unit: once the link is ready the queue holds exactly one poll and no
retry; before that exactly one retry and no poll, and no poll has started. So the poll loop
neither stops nor doubles. -/
theorem one_lifeline {cacheMaxAge : Int} {kernel : Reconciler} {x : Exchange}
    {events : List QueueEvent} {s : S21WorkQueue}
    (hrun : Lib.runGuarded step (boot cacheMaxAge kernel x) events = some s) :
    (s.manager.s21Manager.isReady = true →
      s.queue.load .poll = 1 ∧ s.queue.load .initRetry = 0) ∧
    (s.manager.s21Manager.isReady = false →
      s.queue.load .initRetry = 1 ∧ s.queue.load .poll = 0 ∧ s.polls = []) := by
  have halive : s.Alive := Lib.runGuarded_of_step (fun _ _ _ h hstep => alive_step h hstep)
    (alive_boot cacheMaxAge kernel x) hrun
  have hsole := halive.sole
  constructor
  · intro hready
    rw [hready] at hsole
    exact ⟨hsole.once, hsole.others _ lifeline_initRetry S21Work.noConfusion⟩
  · intro hnot
    rw [hnot] at hsole
    exact ⟨hsole.once, hsole.others _ lifeline_poll S21Work.noConfusion, halive.unpolled hnot⟩

theorem one_lifeline_of_slowStart :
    ∃ s, Lib.runGuarded step (boot 5000 .boot silent) slowStart = some s ∧
      s.queue.load .poll = 1 ∧ s.queue.load .initRetry = 0 := by
  obtain ⟨s, hrun, hready, -⟩ := slowStart_runs
  exact ⟨s, hrun, (one_lifeline hrun).1 hready⟩

/-! ### The cadence of the polls -/

/-- When the polls start, and which of them read the sensors. -/
structure Cadence (s : S21WorkQueue) : Prop where
  spaced : s.polls.IsChain fun a b => a + kS21PollIntervalMs ≤ b
  next : ∀ last, s.polls.getLast? = some last → last ≤ s.queue.now ∧
    (s.queue.running ≠ some .poll →
      ∃ t, s.queue.Pending .poll t ∧ last + kS21PollIntervalMs ≤ t)
  counted : s.polls.length = s.sensorPolls.length +
    if s.queue.running = some .poll ∧ s.sensorsDone = false then 1 else 0
  sensors : s.sensorPolls = (List.range s.sensorPolls.length).map fun i => decide (i % 6 = 0)
  countdown : (s.sensorPolls.length + s.manager.environmentalReadCountdown) % 6 = 0 ∧
    s.manager.environmentalReadCountdown < 6

section Cadence

variable {s s' : S21WorkQueue}

theorem cadence_boot (cacheMaxAge : Int) (kernel : Reconciler) (x : Exchange) :
    (boot cacheMaxAge kernel x).Cadence where
  spaced := .nil
  next _ h := nomatch h
  counted := by
    have hrunning : (boot cacheMaxAge kernel x).queue.running = none := by
      unfold boot
      dsimp only
      split <;> exact Lib.WorkQueue.reschedule_running _ _
    rw [hrunning, if_neg fun h => nomatch h.1]
    rfl
  sensors := rfl
  countdown := ⟨rfl, Nat.succ_pos 5⟩

/-- A step of another handler, or of none, keeps the cadence, if it leaves a poll that has
been started its successor. -/
theorem Cadence.frame (h : s.Cadence) (hpolls : s'.polls = s.polls)
    (hsensorPolls : s'.sensorPolls = s.sensorPolls) (hdone : s'.sensorsDone = s.sensorsDone)
    (hcountdown : s'.manager.environmentalReadCountdown = s.manager.environmentalReadCountdown)
    (hrunning : s'.queue.running = some .poll ↔ s.queue.running = some .poll)
    (hnow : s.queue.now ≤ s'.queue.now)
    (hnext : s.polls ≠ [] → ∀ t, s.queue.Pending .poll t → s'.queue.Pending .poll t) :
    s'.Cadence where
  spaced := by
    rw [hpolls]
    exact h.spaced
  next last hlast := by
    rw [hpolls] at hlast
    obtain ⟨hpast, hahead⟩ := h.next last hlast
    have hne : s.polls ≠ [] := by
      intro hnil
      rw [hnil] at hlast
      cases hlast
    refine ⟨Nat.le_trans hpast hnow, fun hnot => ?_⟩
    obtain ⟨t, hpending, hle⟩ := hahead fun hpoll => hnot (hrunning.mpr hpoll)
    exact ⟨t, hnext hne t hpending, hle⟩
  counted := by
    simp only [hpolls, hsensorPolls, hdone, hrunning]
    exact h.counted
  sensors := by
    rw [hsensorPolls]
    exact h.sensors
  countdown := by
    rw [hsensorPolls, hcountdown]
    exact h.countdown

theorem countdown_commandWork (a : AirConditionerManager) (x : Exchange)
    (meanwhile : List (Int × WriteIntent)) :
    (a.commandWork x meanwhile).environmentalReadCountdown = a.environmentalReadCountdown := by
  unfold AirConditionerManager.commandWork
  split <;> rfl

theorem countdown_operational (a : AirConditionerManager) (p : PollExchange) :
    (a.pollOperationalPhase p).after.environmentalReadCountdown =
      a.environmentalReadCountdown := by
  unfold AirConditionerManager.pollOperationalPhase
  dsimp only
  split <;> rfl

theorem countdown_environmental (a : AirConditionerManager) (p : PollExchange) :
    (a.pollEnvironmentalPhase p).after.environmentalReadCountdown =
      if a.environmentalReadCountdown = 0 then 5 else a.environmentalReadCountdown - 1 := by
  unfold AirConditionerManager.pollEnvironmentalPhase
  split <;> rfl

/-- The start of a handler, seen from an item that does not start. -/
theorem start_other {q q' : Lib.WorkQueue S21Work} {v w : S21Work}
    (hstart : q.start = some q') (hrunning : q'.running = some w) (hw : w ≠ v) :
    (q'.running = some v ↔ q.running = some v) ∧ ∀ t, q.Pending v t → q'.Pending v t := by
  obtain ⟨-, -, hnone, -, -⟩ := Lib.WorkQueue.start_eq_some hstart
  have hne : q'.running ≠ some v := by
    rw [hrunning]
    exact fun heq => hw (Option.some.inj heq)
  refine ⟨?_, fun t h => (h.start hstart).resolve_right fun hstarts => hne hstarts.1⟩
  rw [hnone]
  exact iff_of_false hne nofun

/-- A poll starts once its time has come, which the last poll has set. -/
theorem Cadence.poll_started {queue : Lib.WorkQueue S21Work} (h : s.Cadence) (halive : s.Alive)
    (hstart : s.queue.start = some queue) (hrunning : queue.running = some .poll) :
    Cadence { s with queue, sensorsDone := false, polls := s.polls ++ [queue.now] } := by
  obtain ⟨w, rest, hnone, -, hqueue⟩ := Lib.WorkQueue.start_eq_some hstart
  have hidle : s.queue.running ≠ some .poll := by
    rw [hnone]
    exact nofun
  have hpoll : ahead s.manager.s21Manager.isReady = .poll :=
    ((halive.sole.start hstart).eq_of_running lifeline_poll hrunning).symm
  have hsole := hpoll ▸ halive.sole
  refine ⟨?_, fun last hlast => ?_, ?_, h.sensors, h.countdown⟩
  · refine List.isChain_append.mpr ⟨h.spaced, .singleton _, fun last hlast next hnext => ?_⟩
    obtain rfl : queue.now = next := Option.some.inj hnext
    obtain ⟨-, hahead⟩ := h.next last hlast
    obtain ⟨t, hpending, hle⟩ := hahead hidle
    exact Nat.le_trans hle (hsole.start_of_pending hpending hstart hrunning)
  · rw [List.getLast?_concat] at hlast
    obtain rfl := Option.some.inj hlast
    exact ⟨Nat.le_refl _, fun hnot => absurd hrunning hnot⟩
  · have hcounted := h.counted
    rw [if_neg fun hboth => hidle hboth.1] at hcounted
    dsimp only
    rw [if_pos ⟨hrunning, rfl⟩, List.length_append, hcounted]
    rfl

/-- The first phase of a poll. -/
theorem Cadence.sensors_done (h : s.Cadence) (p : PollExchange)
    (hrunning : s.queue.running = some .poll) (hsensors : s.sensorsDone = false) :
    Cadence { s with
      manager := (s.manager.pollEnvironmentalPhase p).after
      sensorsDone := true
      sensorPolls := s.sensorPolls ++ [decide (s.manager.environmentalReadCountdown = 0)] } := by
  have hcounted := h.counted
  rw [if_pos ⟨hrunning, hsensors⟩] at hcounted
  obtain ⟨hmod, hlt⟩ := h.countdown
  refine ⟨h.spaced, h.next, ?_, ?_, ?_⟩
  · dsimp only
    rw [if_neg (by simp), hcounted, List.length_append]
    rfl
  · -- the sensors are read when the countdown is zero, that is, in every sixth poll
    have hsixth : decide (s.manager.environmentalReadCountdown = 0) =
        decide (s.sensorPolls.length % 6 = 0) := by
      rw [decide_eq_decide]
      omega
    dsimp only
    rw [List.length_append, List.length_singleton, List.range_succ, List.map_append,
      ← h.sensors, hsixth]
    rfl
  · dsimp only
    rw [countdown_environmental, List.length_append, List.length_singleton]
    split <;> omega

/-- The second phase, which schedules the next poll. -/
theorem Cadence.poll_done (h : s.Cadence) (p : PollExchange) (hsensors : s.sensorsDone = true) :
    Cadence { s with
      manager := (s.manager.pollOperationalPhase p).after
      queue := (s.queue.reschedule .poll kS21PollIntervalMs).finish } := by
  have hcounted := h.counted
  rw [if_neg fun hboth => Bool.noConfusion (hsensors.symm.trans hboth.2)] at hcounted
  refine ⟨h.spaced, fun last hlast => ?_, ?_, h.sensors, ?_⟩
  · have hnow : (s.queue.reschedule .poll kS21PollIntervalMs).finish.now = s.queue.now :=
      Lib.WorkQueue.reschedule_now _ _
    obtain ⟨hpast, -⟩ := h.next last hlast
    refine ⟨hnow.symm ▸ hpast, fun _ => ⟨s.queue.now + kS21PollIntervalMs, ?_, ?_⟩⟩
    · exact (Lib.WorkQueue.pending_reschedule s.queue .poll kS21PollIntervalMs).finish
    · exact Nat.add_le_add_right hpast _
  · rw [hcounted]
    rfl
  · dsimp only
    rw [countdown_operational]
    exact h.countdown

theorem cadence_step {e : QueueEvent} (halive : s.Alive) (h : s.Cadence)
    (hstep : s.step e = some s') : s'.Cadence := by
  cases steps_of_step hstep with
  | elapse d =>
      exact h.frame rfl rfl rfl rfl Iff.rfl (Nat.le_add_right _ _) fun _ _ hnext =>
        hnext.elapse d
  | expire hexpire =>
      have hrunning := Lib.WorkQueue.running_expire hexpire
      refine h.frame rfl rfl rfl rfl (by rw [hrunning]) ?_ fun _ _ hnext => hnext.expire hexpire
      obtain ⟨t, -, -, hqueue⟩ := Lib.WorkQueue.expire_eq_some hexpire
      rw [hqueue, Lib.WorkQueue.submit_now]
  | @startPoll queue hstart hrunning => exact h.poll_started halive hstart hrunning
  | startRetry hstart hrunning =>
      obtain ⟨hiff, hkeep⟩ := start_other (v := .poll) hstart hrunning nofun
      refine h.frame rfl rfl rfl rfl hiff ?_ fun _ => hkeep
      obtain ⟨_, _, -, -, hqueue⟩ := Lib.WorkQueue.start_eq_some hstart
      rw [hqueue]
  | startCommand hstart hrunning =>
      obtain ⟨hiff, hkeep⟩ := start_other (v := .poll) hstart hrunning nofun
      refine h.frame rfl rfl rfl rfl hiff ?_ fun _ => hkeep
      obtain ⟨_, _, -, -, hqueue⟩ := Lib.WorkQueue.start_eq_some hstart
      rw [hqueue]
  | environmental p hrunning hsensors => exact h.sensors_done p hrunning hsensors
  | operational p hrunning hsensors => exact h.poll_done p hsensors
  | retrySucceeded x hrunning hready =>
      have hnone : s.polls = [] := halive.unpolled (not_ready_of_retry halive.sole hrunning)
      refine h.frame rfl rfl rfl rfl ?_ ?_ fun hne => absurd hnone hne
      · rw [hrunning]
        exact iff_of_false nofun nofun
      · exact Nat.le_of_eq (Lib.WorkQueue.reschedule_now _ _).symm
  | retryFailed x hrunning hready =>
      have hnone : s.polls = [] := halive.unpolled (not_ready_of_retry halive.sole hrunning)
      refine h.frame rfl rfl rfl rfl ?_ ?_ fun hne => absurd hnone hne
      · rw [hrunning]
        exact iff_of_false nofun nofun
      · exact Nat.le_of_eq (Lib.WorkQueue.reschedule_now _ _).symm
  | command x meanwhile hrunning =>
      refine h.frame rfl rfl rfl (countdown_commandWork _ _ _) ?_ (Nat.le_refl _)
        fun _ _ hnext => hnext.finish
      rw [hrunning]
      exact iff_of_false nofun nofun
  | trigger =>
      refine h.frame rfl rfl rfl rfl ?_ ?_ fun _ t hnext => ?_
      · dsimp only
        rw [Lib.WorkQueue.reschedule_running]
      · exact Nat.le_of_eq (Lib.WorkQueue.reschedule_now _ _).symm
      · dsimp only
        exact hnext.reschedule_of_ne S21Work.noConfusion
  | intent now i => exact h.frame rfl rfl rfl rfl Iff.rfl (Nat.le_refl _) fun _ _ hnext => hnext

end Cadence

/-- Polls that keep their distance keep it over any number of polls. -/
theorem spaced_apart {polls : List Nat} (h : polls.IsChain fun a b => a + kS21PollIntervalMs ≤ b)
    {i n a b : Nat} (ha : polls[i]? = some a) (hb : polls[i + n]? = some b) :
    a + n * kS21PollIntervalMs ≤ b := by
  induction n generalizing b with
  | zero =>
      obtain rfl : a = b := Option.some.inj (ha.symm.trans hb)
      rw [Nat.zero_mul, Nat.add_zero]
  | succ n ih =>
      obtain ⟨hlt, rfl⟩ := List.getElem?_eq_some_iff.mp hb
      have hbefore : i + n < polls.length := Nat.lt_of_succ_lt hlt
      have hpast := ih (List.getElem?_eq_getElem hbefore)
      have hnext := List.isChain_iff_getElem.mp h (i + n) hlt
      rw [Nat.succ_mul, ← Nat.add_assoc]
      exact Nat.le_trans (Nat.add_le_add_right hpast _) hnext

/-- **The cadence.** In every run from boot, a poll starts at least ten seconds after the one
before it; of all polls past their first phase exactly the first, the seventh, and so on read
the sensors, so that two such polls are at least a minute apart; and no more than one poll at a
time is in its first phase. -/
theorem poll_cadence {cacheMaxAge : Int} {kernel : Reconciler} {x : Exchange}
    {events : List QueueEvent} {s : S21WorkQueue}
    (hrun : Lib.runGuarded step (boot cacheMaxAge kernel x) events = some s) :
    (∀ i n a b, s.polls[i]? = some a → s.polls[i + n]? = some b →
      a + n * kS21PollIntervalMs ≤ b) ∧
    (∀ i sensors, s.sensorPolls[i]? = some sensors → sensors = decide (i % 6 = 0)) ∧
    s.sensorPolls.length ≤ s.polls.length ∧ s.polls.length ≤ s.sensorPolls.length + 1 := by
  obtain ⟨-, hcadence⟩ := Lib.runGuarded_of_step (I := fun s => s.Alive ∧ s.Cadence)
    (fun _ _ _ h hstep => ⟨alive_step h.1 hstep, cadence_step h.1 h.2 hstep⟩)
    ⟨alive_boot cacheMaxAge kernel x, cadence_boot cacheMaxAge kernel x⟩ hrun
  refine ⟨fun i n a b => spaced_apart hcadence.spaced, fun i sensors hsensors => ?_, ?_, ?_⟩
  · obtain ⟨hlt, -⟩ := List.getElem?_eq_some_iff.mp hsensors
    rw [hcadence.sensors, List.getElem?_map, List.getElem?_range hlt] at hsensors
    exact (Option.some.inj hsensors).symm
  · rw [hcadence.counted]
    exact Nat.le_add_right _ _
  · rw [hcadence.counted]
    refine Nat.add_le_add_left ?_ _
    split
    · exact Nat.le_refl 1
    · exact Nat.zero_le 1

theorem poll_cadence_of_slowStart :
    ∃ s, Lib.runGuarded step (boot 5000 .boot silent) slowStart = some s ∧
      s.polls = [2200, 12290] ∧ 2200 + 1 * kS21PollIntervalMs ≤ 12290 := by
  obtain ⟨s, hrun, -, hpolls, -⟩ := slowStart_runs
  obtain ⟨hspaced, -⟩ := poll_cadence hrun
  exact ⟨s, hrun, hpolls, hspaced 0 1 2200 12290 (by rw [hpolls]; rfl) (by rw [hpolls]; rfl)⟩

/-! ### The retries -/

/-- How long the bridge waits after so many failed attempts at `S21Manager::Init`. -/
def retryDelay : Nat → Nat
  | 0 => kS21InitRetryInitialIntervalMilliSec
  | n + 1 =>
      min (kS21InitRetryInitialIntervalMilliSec * 2 ^ n) kS21InitRetryMaximumIntervalMilliSec

theorem retryDelay_succ (n : Nat) :
    min (retryDelay (n + 1) * 2) kS21InitRetryMaximumIntervalMilliSec = retryDelay (n + 2) := by
  simp only [retryDelay, pow_succ, kS21InitRetryInitialIntervalMilliSec,
    kS21InitRetryMaximumIntervalMilliSec]
  omega

/-- When the retries start. -/
structure Backoff (s : S21WorkQueue) : Prop where
  interval : s.initRetryIntervalMs = retryDelay s.failures.length
  failed : s.manager.s21Manager.isReady = false → s.failures ≠ []
  counted : s.manager.s21Manager.isReady = false →
    s.failures.length = s.retries.length + if s.queue.running = some .initRetry then 0 else 1
  next : s.manager.s21Manager.isReady = false → s.queue.running ≠ some .initRetry →
    ∃ last, s.failures.getLast? = some last ∧
      s.queue.Pending .initRetry (last + retryDelay (s.failures.length - 1))
  law : ∀ i r, s.retries[i]? = some r → ∃ f, s.failures[i]? = some f ∧ f + retryDelay i ≤ r

section Backoff

variable {s s' : S21WorkQueue}

theorem backoff_boot (cacheMaxAge : Int) (kernel : Reconciler) (x : Exchange) :
    (boot cacheMaxAge kernel x).Backoff := by
  have hready := isReady_init_iff (.new cacheMaxAge) x
  by_cases herr : ((S21Manager.new cacheMaxAge).init x).2.1 = 0
  · have hup := hready.mp herr
    refine ⟨?_, fun hnot => ?_, fun hnot => ?_, fun hnot => ?_, fun i r h => ?_⟩
    · simp only [boot, if_pos herr]
      rfl
    · cases hup.symm.trans hnot
    · cases hup.symm.trans hnot
    · cases hup.symm.trans hnot
    · simp [boot] at h
  · refine ⟨?_, fun _ => ?_, fun _ => ?_, fun _ _ => ⟨0, ?_, ?_⟩, fun i r h => ?_⟩
    · simp only [boot, if_neg herr]
      rfl
    · simp [boot, herr]
    · simp only [boot, if_neg herr, Lib.WorkQueue.reschedule_running]
      rfl
    · simp [boot, herr]
    · simp only [boot, if_neg herr]
      exact Lib.WorkQueue.pending_reschedule _ _ _
    · simp [boot] at h

/-- A step of another handler, or of none. -/
theorem Backoff.frame (h : s.Backoff) (hfailures : s'.failures = s.failures)
    (hretries : s'.retries = s.retries)
    (hinterval : s'.initRetryIntervalMs = s.initRetryIntervalMs)
    (hready : s'.manager.s21Manager.isReady = s.manager.s21Manager.isReady)
    (hrunning : s'.queue.running = some .initRetry ↔ s.queue.running = some .initRetry)
    (hnext : s.manager.s21Manager.isReady = false → ∀ t, s.queue.Pending .initRetry t →
      s'.queue.Pending .initRetry t) : s'.Backoff where
  interval := by
    rw [hinterval, hfailures]
    exact h.interval
  failed := by
    rw [hready, hfailures]
    exact h.failed
  counted := by
    simp only [hready, hfailures, hretries, hrunning]
    exact h.counted
  next := by
    rw [hready, hfailures]
    intro hnot hidle
    obtain ⟨last, hlast, hpending⟩ := h.next hnot fun heq => hidle (hrunning.mpr heq)
    exact ⟨last, hlast, hnext hnot _ hpending⟩
  law := by
    rw [hretries, hfailures]
    exact h.law

/-- With the link ready there are no more retries. -/
theorem Backoff.of_ready (h : s.Backoff) (hfailures : s'.failures = s.failures)
    (hretries : s'.retries = s.retries)
    (hinterval : s'.initRetryIntervalMs = s.initRetryIntervalMs)
    (hready : s'.manager.s21Manager.isReady = true) : s'.Backoff where
  interval := by
    rw [hinterval, hfailures]
    exact h.interval
  failed hnot := Bool.noConfusion (hready.symm.trans hnot)
  counted hnot := Bool.noConfusion (hready.symm.trans hnot)
  next hnot := Bool.noConfusion (hready.symm.trans hnot)
  law := by
    rw [hretries, hfailures]
    exact h.law

/-- A retry starts once its time has come, which the last failure has set. -/
theorem Backoff.retry_started {queue : Lib.WorkQueue S21Work} (h : s.Backoff) (halive : s.Alive)
    (hstart : s.queue.start = some queue) (hrunning : queue.running = some .initRetry) :
    Backoff { s with queue, retries := s.retries ++ [queue.now] } := by
  obtain ⟨-, -, hnone, -, -⟩ := Lib.WorkQueue.start_eq_some hstart
  have hidle : s.queue.running ≠ some .initRetry := by
    rw [hnone]
    exact nofun
  have hnot : s.manager.s21Manager.isReady = false :=
    not_ready_of_retry (halive.sole.start hstart) hrunning
  have hcounted := h.counted hnot
  rw [if_neg hidle] at hcounted
  refine ⟨h.interval, h.failed, fun _ => ?_, fun _ hother => absurd hrunning hother,
    fun i r hr => ?_⟩
  · dsimp only
    rw [if_pos hrunning, hcounted, List.length_append]
    rfl
  · rcases Nat.lt_or_ge i s.retries.length with hlt | hge
    · rw [List.getElem?_append_left hlt] at hr
      exact h.law i r hr
    · -- the retry that starts answers the last failure
      rw [List.getElem?_append_right hge, List.getElem?_singleton] at hr
      obtain ⟨hzero, rfl⟩ := Option.ite_some_none_eq_some.mp hr
      have hi : i = s.failures.length - 1 := by omega
      obtain ⟨last, hlast, hpending⟩ := h.next hnot hidle
      have hsole := halive.sole
      rw [hnot] at hsole
      subst hi
      rw [List.getLast?_eq_getElem?] at hlast
      exact ⟨last, hlast, hsole.start_of_pending hpending hstart hrunning⟩

/-- A failed retry schedules the next one, and doubles the interval after that. -/
theorem Backoff.retry_failed (h : s.Backoff) (halive : s.Alive) (x : Exchange)
    (hrunning : s.queue.running = some .initRetry) :
    Backoff { s with
      manager := { s.manager with s21Manager := (s.manager.s21Manager.init x).1 }
      queue := (s.queue.reschedule .initRetry s.initRetryIntervalMs).finish
      initRetryIntervalMs :=
        min (s.initRetryIntervalMs * 2) kS21InitRetryMaximumIntervalMilliSec
      failures := s.failures ++ [s.queue.now] } := by
  have hnot := not_ready_of_retry halive.sole hrunning
  have hcounted := h.counted hnot
  rw [if_pos hrunning] at hcounted
  obtain ⟨n, hn⟩ := Nat.exists_eq_succ_of_ne_zero
    fun hzero => h.failed hnot (List.length_eq_zero_iff.mp hzero)
  have hinterval := h.interval
  rw [hn] at hinterval
  refine ⟨?_, fun _ => ?_, fun _ => ?_, fun _ _ => ⟨s.queue.now, ?_, ?_⟩, fun i r hr => ?_⟩
  · dsimp only
    rw [hinterval, List.length_append, List.length_singleton, hn]
    exact retryDelay_succ n
  · exact List.append_ne_nil_of_right_ne_nil _ (List.cons_ne_nil _ _)
  · rw [List.length_append, hcounted]
    rfl
  · exact List.getLast?_concat
  · rw [List.length_append, List.length_singleton, Nat.add_sub_cancel, ← h.interval]
    exact (Lib.WorkQueue.pending_reschedule _ _ _).finish
  · obtain ⟨f, hf, hle⟩ := h.law i r hr
    obtain ⟨hlt, -⟩ := List.getElem?_eq_some_iff.mp hf
    exact ⟨f, (List.getElem?_append_left hlt).trans hf, hle⟩

theorem backoff_step {e : QueueEvent} (halive : s.Alive) (h : s.Backoff)
    (hstep : s.step e = some s') : s'.Backoff := by
  cases steps_of_step hstep with
  | elapse d => exact h.frame rfl rfl rfl rfl Iff.rfl fun _ _ hnext => hnext.elapse d
  | expire hexpire =>
      refine h.frame rfl rfl rfl rfl ?_ fun _ _ hnext => hnext.expire hexpire
      rw [Lib.WorkQueue.running_expire hexpire]
  | startPoll hstart hrunning =>
      obtain ⟨hiff, hkeep⟩ := start_other (v := .initRetry) hstart hrunning nofun
      exact h.frame rfl rfl rfl rfl hiff fun _ => hkeep
  | startCommand hstart hrunning =>
      obtain ⟨hiff, hkeep⟩ := start_other (v := .initRetry) hstart hrunning nofun
      exact h.frame rfl rfl rfl rfl hiff fun _ => hkeep
  | @startRetry queue hstart hrunning => exact h.retry_started halive hstart hrunning
  | environmental p hrunning hsensors =>
      exact h.frame rfl rfl rfl
        (AirConditionerManager.sameOperation_environmental s.manager p).isReady Iff.rfl
        fun _ _ hnext => hnext
  | operational p hrunning hsensors =>
      exact h.of_ready rfl rfl rfl
        ((isReady_operational s.manager p).trans (ready_of_poll halive.sole hrunning))
  | retrySucceeded x hrunning hready => exact h.of_ready rfl rfl rfl hready
  | retryFailed x hrunning hready => exact h.retry_failed halive x hrunning
  | command x meanwhile hrunning =>
      refine h.frame rfl rfl rfl (isReady_commandWork x s.manager meanwhile) ?_
        fun _ _ hnext => hnext.finish
      rw [hrunning]
      exact iff_of_false nofun nofun
  | trigger =>
      refine h.frame rfl rfl rfl rfl ?_ fun _ t hnext => ?_
      · dsimp only
        rw [Lib.WorkQueue.reschedule_running]
      · dsimp only
        exact hnext.reschedule_of_ne S21Work.noConfusion
  | intent now i => exact h.frame rfl rfl rfl rfl Iff.rfl fun _ _ hnext => hnext

end Backoff

/-- **The retries back off.** In every run from boot, the `i`-th retry starts no earlier than
its delay after the `i`-th failed attempt, the one at boot included: 500 ms twice, then twice
as long each time, and a minute at most. And as long as the link is not ready, the next
retry is on its way for exactly that time. -/
theorem retry_backoff {cacheMaxAge : Int} {kernel : Reconciler} {x : Exchange}
    {events : List QueueEvent} {s : S21WorkQueue}
    (hrun : Lib.runGuarded step (boot cacheMaxAge kernel x) events = some s) :
    (∀ i r, s.retries[i]? = some r → ∃ f, s.failures[i]? = some f ∧ f + retryDelay i ≤ r) ∧
    (s.manager.s21Manager.isReady = false → s.queue.running ≠ some .initRetry →
      ∃ last, s.failures.getLast? = some last ∧
        s.queue.Pending .initRetry (last + retryDelay (s.failures.length - 1))) := by
  obtain ⟨-, hbackoff⟩ := Lib.runGuarded_of_step (I := fun s => s.Alive ∧ s.Backoff)
    (fun _ _ _ h hstep => ⟨alive_step h.1 hstep, backoff_step h.1 h.2 hstep⟩)
    ⟨alive_boot cacheMaxAge kernel x, backoff_boot cacheMaxAge kernel x⟩ hrun
  exact ⟨hbackoff.law, hbackoff.next⟩

theorem retry_backoff_of_slowStart :
    ∃ s, Lib.runGuarded step (boot 5000 .boot silent) slowStart = some s ∧
      ∃ f, s.failures[2]? = some f ∧ f + retryDelay 2 ≤ 2200 := by
  obtain ⟨s, hrun, -, -, hretries, -⟩ := slowStart_runs
  exact ⟨s, hrun, (retry_backoff hrun).1 2 2200 (by rw [hretries]; rfl)⟩

/-! ### The debounce of the pump -/

/-- How many bursts the triggers form: a trigger belongs to the burst before it, unless the
debounce time has passed since the last one. -/
def bursts : List Nat → Nat
  | [] => 0
  | [_] => 1
  | a :: b :: triggers =>
      (if a + kCommandDebounceMs ≤ b then 1 else 0) + bursts (b :: triggers)

theorem bursts_concat {triggers : List Nat} {last : Nat} (h : triggers.getLast? = some last)
    (now : Nat) :
    bursts (triggers ++ [now]) =
      bursts triggers + if last + kCommandDebounceMs ≤ now then 1 else 0 := by
  induction triggers using bursts.induct with
  | case1 => cases h
  | case2 a =>
      obtain rfl : a = last := Option.some.inj h
      simp only [List.singleton_append, bursts]
      exact Nat.add_comm _ _
  | case3 a b triggers ih =>
      rw [List.getLast?_cons_cons] at h
      simp only [List.cons_append, bursts] at ih ⊢
      rw [ih h, Nat.add_assoc]

/-- What the queue owes the triggers. -/
structure Debounced (s : S21WorkQueue) : Prop where
  served : ∀ last, s.triggers.getLast? = some last →
    s.queue.Pending .command (last + kCommandDebounceMs) ∨
      ∃ c ∈ s.commands, last + kCommandDebounceMs ≤ c
  deadline : ∀ t, s.queue.deadline .command = some t →
    ∃ last, s.triggers.getLast? = some last ∧ t = last + kCommandDebounceMs
  past : s.queue.deadline .command = none → ∀ last, s.triggers.getLast? = some last →
    last + kCommandDebounceMs ≤ s.queue.now
  bounded : s.commands.length + s.queue.waiting .command ≤ bursts s.triggers

section Debounced

variable {s s' : S21WorkQueue}

theorem debounced_boot (cacheMaxAge : Int) (kernel : Reconciler) (x : Exchange) :
    (boot cacheMaxAge kernel x).Debounced := by
  have hfirst : ∀ (w : S21Work) (delay : Nat), S21Work.command ≠ w →
      ((Lib.WorkQueue.empty : Lib.WorkQueue S21Work).reschedule w delay).waiting .command = 0 ∧
      ((Lib.WorkQueue.empty : Lib.WorkQueue S21Work).reschedule w delay).deadline .command =
        none := by
    intro w delay hne
    exact ⟨Lib.WorkQueue.waiting_reschedule_of_ne hne,
      Lib.WorkQueue.reschedule_deadline_of_ne delay hne⟩
  have hqueue : (boot cacheMaxAge kernel x).queue.waiting .command = 0 ∧
      (boot cacheMaxAge kernel x).queue.deadline .command = none := by
    unfold boot
    dsimp only
    split
    · exact hfirst .poll _ S21Work.noConfusion
    · exact hfirst .initRetry _ S21Work.noConfusion
  refine ⟨fun last hlast => ?_, fun t ht => ?_, fun _ last hlast => ?_, ?_⟩
  · cases hlast
  · cases hqueue.2.symm.trans ht
  · cases hlast
  · rw [hqueue.1]
    exact Nat.le_refl 0

/-- A step that leaves the pump alone. -/
theorem Debounced.frame (h : s.Debounced) (htriggers : s'.triggers = s.triggers)
    (hcommands : s'.commands = s.commands) (hnow : s.queue.now ≤ s'.queue.now)
    (hdeadline : s'.queue.deadline .command = s.queue.deadline .command)
    (hwaiting : s'.queue.waiting .command = s.queue.waiting .command)
    (hpending : ∀ t, s.queue.Pending .command t → s'.queue.Pending .command t) :
    s'.Debounced where
  served last hlast := by
    rw [htriggers] at hlast
    rw [hcommands]
    exact (h.served last hlast).imp_left (hpending _)
  deadline := by
    rw [hdeadline, htriggers]
    exact h.deadline
  past := by
    rw [hdeadline, htriggers]
    exact fun hnone last hlast => Nat.le_trans (h.past hnone last hlast) hnow
  bounded := by
    rw [hcommands, hwaiting, htriggers]
    exact h.bounded

/-- The end of a handler that schedules another item than the pump. -/
theorem Debounced.handOver (h : s.Debounced) {w : S21Work} (hw : w ≠ .command) (delay : Nat)
    (htriggers : s'.triggers = s.triggers) (hcommands : s'.commands = s.commands)
    (hqueue : s'.queue = (s.queue.reschedule w delay).finish) : s'.Debounced := by
  refine h.frame htriggers hcommands ?_ ?_ ?_ ?_
  · rw [hqueue]
    exact Nat.le_of_eq (Lib.WorkQueue.reschedule_now _ _).symm
  · rw [hqueue]
    exact Lib.WorkQueue.reschedule_deadline_of_ne delay hw.symm
  · rw [hqueue]
    exact Lib.WorkQueue.waiting_reschedule_of_ne hw.symm
  · rw [hqueue]
    exact fun t hpending => (hpending.reschedule_of_ne hw.symm).finish

/-- The start of another handler. -/
theorem Debounced.start (h : s.Debounced) {queue : Lib.WorkQueue S21Work} {w : S21Work}
    (hstart : s.queue.start = some queue) (hrunning : queue.running = some w)
    (hw : w ≠ .command) (htriggers : s'.triggers = s.triggers)
    (hcommands : s'.commands = s.commands) (hqueue : s'.queue = queue) : s'.Debounced := by
  have hwaiting := Lib.WorkQueue.waiting_start hstart .command
  rw [hrunning, if_neg fun heq => hw (Option.some.inj heq)] at hwaiting
  obtain ⟨-, hkeep⟩ := start_other hstart hrunning hw
  obtain ⟨_, _, -, -, heq⟩ := Lib.WorkQueue.start_eq_some hstart
  refine h.frame htriggers hcommands ?_ ?_ ?_ ?_
  · rw [hqueue, heq]
  · rw [hqueue, heq]
  · rw [hqueue]
    exact hwaiting
  · rw [hqueue]
    exact hkeep

/-- The deadline of the pump has passed. -/
theorem Debounced.expire_command (h : s.Debounced) {queue : Lib.WorkQueue S21Work}
    (hexpire : s.queue.expire .command = some queue) : Debounced { s with queue } := by
  obtain ⟨t, hdeadline, hpast, hqueue⟩ := Lib.WorkQueue.expire_eq_some hexpire
  have hnone : queue.deadline .command = none := by
    simp only [hqueue, Lib.WorkQueue.submit_deadline, Function.update_self]
  have hnow : queue.now = s.queue.now := by
    rw [hqueue, Lib.WorkQueue.submit_now]
  refine ⟨fun last hlast => (h.served last hlast).imp_left fun hpending =>
    hpending.expire hexpire, fun t' ht' => ?_, fun _ last hlast => ?_, ?_⟩
  · cases hnone.symm.trans ht'
  · obtain ⟨last', hlast', rfl⟩ := h.deadline t hdeadline
    obtain rfl : last' = last := Option.some.inj (hlast'.symm.trans hlast)
    exact hnow.symm ▸ hpast
  · refine Nat.le_trans (Nat.add_le_add_left ?_ _) h.bounded
    dsimp only
    rw [Lib.WorkQueue.waiting_expire_self hexpire]
    split
    · exact Nat.sub_le _ _
    · exact Nat.le_refl _

/-- A trigger extends the last burst, which the pump still waits for, or opens one. -/
theorem Debounced.trigger (h : s.Debounced) :
    Debounced { s with
      queue := s.queue.reschedule .command kCommandDebounceMs
      triggers := s.triggers ++ [s.queue.now] } := by
  have hdeadline : (s.queue.reschedule .command kCommandDebounceMs).deadline .command =
      some (s.queue.now + kCommandDebounceMs) :=
    Lib.WorkQueue.reschedule_deadline_self _ (by decide)
  refine ⟨fun last hlast => Or.inl ?_, fun t ht => ⟨s.queue.now, List.getLast?_concat, ?_⟩,
    fun hnone => ?_, ?_⟩
  · rw [List.getLast?_concat] at hlast
    obtain rfl := Option.some.inj hlast
    dsimp only
    exact Lib.WorkQueue.pending_reschedule _ _ _
  · exact Option.some.inj (ht.symm.trans hdeadline)
  · cases hdeadline.symm.trans hnone
  · have hdebounce : kCommandDebounceMs ≠ 0 := by decide
    have hwaiting :=
      Lib.WorkQueue.waiting_reschedule_self (q := s.queue) (w := .command) hdebounce
    have hbounded := h.bounded
    dsimp only
    rw [hwaiting]
    unfold Lib.WorkQueue.waiting at hbounded
    cases hlast : s.triggers.getLast? with
    | none =>
        obtain hnil := List.getLast?_eq_none_iff.mp hlast
        rw [hnil] at hbounded ⊢
        simp only [bursts, List.nil_append] at hbounded ⊢
        omega
    | some last =>
        rw [bursts_concat hlast]
        cases hbefore : s.queue.deadline .command with
        | some t =>
            rw [hbefore] at hbounded
            simp only [Option.isSome_some, if_true] at hbounded
            omega
        | none =>
            rw [if_pos (h.past hbefore last hlast)]
            omega

theorem debounced_step {e : QueueEvent} (h : s.Debounced) (hstep : s.step e = some s') :
    s'.Debounced := by
  cases steps_of_step hstep with
  | elapse d =>
      exact h.frame rfl rfl (Nat.le_add_right _ _) rfl rfl fun _ hnext => hnext.elapse d
  | @expire w queue hexpire =>
      by_cases hw : w = .command
      · subst hw
        exact h.expire_command hexpire
      · obtain ⟨t, -, -, hqueue⟩ := Lib.WorkQueue.expire_eq_some hexpire
        refine h.frame rfl rfl ?_ ?_ (Lib.WorkQueue.waiting_expire_of_ne hexpire (Ne.symm hw))
          fun _ hnext => hnext.expire hexpire
        · rw [hqueue, Lib.WorkQueue.submit_now]
        · rw [hqueue, Lib.WorkQueue.submit_deadline]
          exact Function.update_of_ne (Ne.symm hw) _ _
  | startPoll hstart hrunning => exact h.start hstart hrunning nofun rfl rfl rfl
  | startRetry hstart hrunning => exact h.start hstart hrunning nofun rfl rfl rfl
  | @startCommand queue hstart hrunning =>
      have hwaiting := Lib.WorkQueue.waiting_start hstart .command
      rw [hrunning, if_pos rfl] at hwaiting
      obtain ⟨_, _, -, -, hqueue⟩ := Lib.WorkQueue.start_eq_some hstart
      refine ⟨fun last hlast => ?_, ?_, ?_, ?_⟩
      · rcases h.served last hlast with hpending | ⟨c, hc, hle⟩
        · refine (hpending.start hstart).imp_right fun hstarts => ?_
          exact ⟨queue.now, List.mem_append_right _ (List.mem_singleton.mpr rfl), hstarts.2⟩
        · exact Or.inr ⟨c, List.mem_append_left _ hc, hle⟩
      · rw [hqueue]
        exact h.deadline
      · rw [hqueue]
        exact h.past
      · have hbounded := h.bounded
        dsimp only
        rw [List.length_append, List.length_singleton]
        omega
  | environmental p hrunning hsensors =>
      exact h.frame rfl rfl (Nat.le_refl _) rfl rfl fun _ hnext => hnext
  | operational p hrunning hsensors => exact h.handOver (w := .poll) nofun _ rfl rfl rfl
  | retrySucceeded x hrunning hready => exact h.handOver (w := .poll) nofun _ rfl rfl rfl
  | retryFailed x hrunning hready => exact h.handOver (w := .initRetry) nofun _ rfl rfl rfl
  | command x meanwhile hrunning =>
      exact h.frame rfl rfl (Nat.le_refl _) rfl rfl fun _ hnext => hnext.finish
  | trigger => exact h.trigger
  | intent now i => exact h.frame rfl rfl (Nat.le_refl _) rfl rfl fun _ hnext => hnext

end Debounced

/-- **No trigger is lost, and a burst runs the pump once.** In every state of every run from
boot, the last trigger of the pump has been followed by a run that started at least the
debounce time after it, or such a run is to come; and the pump has run at most once for each
burst of triggers. -/
theorem command_debounced {cacheMaxAge : Int} {kernel : Reconciler} {x : Exchange}
    {events : List QueueEvent} {s : S21WorkQueue}
    (hrun : Lib.runGuarded step (boot cacheMaxAge kernel x) events = some s) :
    (∀ last, s.triggers.getLast? = some last →
      s.queue.Pending .command (last + kCommandDebounceMs) ∨
        ∃ c ∈ s.commands, last + kCommandDebounceMs ≤ c) ∧
    s.commands.length ≤ bursts s.triggers := by
  have hdebounced : s.Debounced := Lib.runGuarded_of_step
    (fun _ _ _ h hstep => debounced_step h hstep) (debounced_boot cacheMaxAge kernel x) hrun
  exact ⟨hdebounced.served, Nat.le_trans (Nat.le_add_right _ _) hdebounced.bounded⟩

/-- Two triggers in one burst, and one run of the pump. -/
theorem command_debounced_of_slowStart :
    ∃ s, Lib.runGuarded step (boot 5000 .boot silent) slowStart = some s ∧
      s.triggers = [2200, 2230] ∧ s.commands.length ≤ bursts [2200, 2230] ∧
      bursts [2200, 2230] = 1 := by
  obtain ⟨s, hrun, -, -, -, htriggers, -⟩ := slowStart_runs
  exact ⟨s, hrun, htriggers, htriggers ▸ (command_debounced hrun).2, rfl⟩

end S21WorkQueue

end DaikinBridge.Bridge
