import DaikinBridge.Bridge.Retries
import DaikinBridge.Bridge.UnitReadings
import DaikinBridge.Lib.Refinement

/-!
# DaikinBridge.Bridge.Installation

The bridge as it is scheduled, with its caches, and the unit it drives.

`System` lets every poll see the device. The bridge does not: it answers from the caches of the
`S21Manager` while they are fresh, checks F1 against RG, gives up on commands that fail, polls and
sends when the work queue comes to it, and may not be ready at all. What makes it all the same is
that what is fresh when a poll reads it is what the bridge itself has sent since the last poll
(`Sound`).

The theorem is that the installation refines `linkStep`, the system over a link that fails
(`installation_refines`): a poll that reads the unit is a poll of the system, the command handler
is a start of the pump, the intents that arrive meanwhile and the end of the pump, and nothing
else is seen. So what holds of runs of the system holds of the bridge as scheduled
(`scheduled_poll_agrees`).
-/

namespace DaikinBridge.Bridge

open S21 Sync

/-! ### The installation -/

/-- The bridge and its unit. -/
structure Installation where
  bridge : S21WorkQueue
  unit : S21OperationCommand

namespace Installation

variable (s : Installation)

/-- The command that a handler sends, and whether it is acknowledged. -/
def sends : QueueEvent → Option (S21OperationCommand × Bool)
  | .command x _ =>
      if s.bridge.manager.s21Manager.isReady then
        s.bridge.manager.kernel.pendingCommand.map fun c => (c, x.setOperation.isOk)
      else none
  | _ => none

/-- One step. The unit carries out what it acknowledges; the flag says whether it carries out a
command that it does not. -/
def step (e : QueueEvent × Bool) : Option Installation :=
  (s.bridge.step e.1).map fun bridge =>
    { bridge
      unit :=
        match s.sends e.1 with
        | some (c, acknowledged) => if acknowledged || e.2 then c else s.unit
        | none => s.unit }

/-- The intents that arrive while a command is being sent. -/
def intents (meanwhile : List (Int × WriteIntent)) : List TrafficLabel :=
  meanwhile.map fun write => .bridge (.intent write.1 write.2)

/-- What the system does meanwhile. -/
def traffic (e : QueueEvent × Bool) : List TrafficLabel :=
  match e.1 with
  | .intent now i => [.bridge (.intent now i)]
  | .operational p =>
      match (s.bridge.manager.pollOperationalPhase p).observation with
      | some obs => [.bridge (.poll p.now obs.refrigerantValveOpen)]
      | none => []
  | .command _ meanwhile =>
      match s.bridge.manager.kernel.pendingCommand with
      | some _ => .bridge .pumpStart :: intents meanwhile ++
            [match s.sends e.1 with
            | some (_, true) => .bridge .pumpFinish
            | some (_, false) => .pumpFail e.2
            | none => .pumpFail false]
      | none => []
  | _ => []

/-- The unit answers truthfully, and the clock is read while the poll runs. The answer to a send
is lost only when the next poll will find the operation cache expired, that is, when none was
acknowledged since the last poll. -/
def Regular (e : QueueEvent × Bool) : Prop :=
  match e.1 with
  | .operational p =>
      Truthful s.unit s.bridge.manager.s21Manager p.operation ∧
        (∀ start : Nat, s.bridge.polls.getLast? = some start → start ≤ p.operation.now) ∧
        p.operation.now ≤ p.operation.later ∧ p.operation.later ≤ s.bridge.queue.now
  | .command _ _ => ∀ c, s.sends e.1 = some (c, false) → e.2 = true →
      s.bridge.Expires s.bridge.manager.s21Manager.operationCache
  | _ => True

/-- What is fresh in the caches when a poll reads them is true. -/
structure Sound : Prop where
  alive : s.bridge.Alive
  cadence : s.bridge.Cadence
  cacheMaxAge : s.bridge.manager.s21Manager.cacheMaxAge < S21WorkQueue.kS21PollIntervalMs
  operation : (∀ op, s.bridge.manager.s21Manager.operationCache.value = some op →
    op = reading s.unit) ∨ s.bridge.Expires s.bridge.manager.s21Manager.operationCache
  fan : s.bridge.Expires s.bridge.manager.s21Manager.fanModeCache

/-- The system that the installation is an instance of. -/
structure Tracks (sys : System) : Prop where
  kernel : s.bridge.manager.kernel.operationalPart = sys.kernel.operationalPart
  device : sys.device = s.unit
  pumping : sys.pumping = none

/-! ### Soundness -/

section Sound

variable {s} {s' : Installation} {event : QueueEvent} {e : QueueEvent × Bool}

/-- Nothing is sent without a pending command, -/
theorem sends_of_none (hpending : s.bridge.manager.kernel.pendingCommand = none) (x : Exchange)
    (meanwhile : List (Int × WriteIntent)) : s.sends (.command x meanwhile) = none := by
  simp [sends, hpending]

/-- nor before the link is ready. -/
theorem sends_of_not_ready (hready : s.bridge.manager.s21Manager.isReady = false) (x : Exchange)
    (meanwhile : List (Int × WriteIntent)) : s.sends (.command x meanwhile) = none := by
  simp [sends, hready]

/-- Otherwise the pending command is sent, and the unit says whether it acknowledges it. -/
theorem sends_of_pending {c : S21OperationCommand}
    (hpending : s.bridge.manager.kernel.pendingCommand = some c)
    (hready : s.bridge.manager.s21Manager.isReady = true) (x : Exchange)
    (meanwhile : List (Int × WriteIntent)) :
    s.sends (.command x meanwhile) = some (c, x.setOperation.isOk) := by
  simp [sends, hpending, hready]

/-- A step of the bridge, and what becomes of the unit. -/
theorem step_eq_some (h : s.step e = some s') : s.bridge.step e.1 = some s'.bridge ∧
    s'.unit = match s.sends e.1 with
      | some (c, acknowledged) => if acknowledged || e.2 then c else s.unit
      | none => s.unit := by
  obtain ⟨bridge, hstep, rfl⟩ := Option.map_eq_some_iff.mp h
  exact ⟨hstep, rfl⟩

/-- Expired caches stay expired. -/
theorem Sound.expires {α : Type} {c : ReadThroughCache α} (h : s.Sound)
    (hexpires : s.bridge.Expires c) (hstep : s.bridge.step event = some s'.bridge)
    (hage : s'.bridge.manager.s21Manager.cacheMaxAge = s.bridge.manager.s21Manager.cacheMaxAge) :
    s'.bridge.Expires c := by
  refine hexpires.imp_right fun hpast => ?_
  rw [hage]
  exact hpast.step h.alive h.cadence hstep

/-- A step that leaves the caches and the unit alone. -/
theorem Sound.frame (h : s.Sound) (hstep : s.bridge.step event = some s'.bridge)
    (hage : s'.bridge.manager.s21Manager.cacheMaxAge = s.bridge.manager.s21Manager.cacheMaxAge)
    (hoperation : s'.bridge.manager.s21Manager.operationCache =
      s.bridge.manager.s21Manager.operationCache)
    (hfan : s'.bridge.manager.s21Manager.fanModeCache = s.bridge.manager.s21Manager.fanModeCache)
    (hunit : s'.unit = s.unit) : s'.Sound := by
  refine ⟨S21WorkQueue.alive_step h.alive hstep,
    S21WorkQueue.cadence_step h.alive h.cadence hstep, hage ▸ h.cacheMaxAge, ?_, ?_⟩
  · rw [hoperation, hunit]
    exact h.operation.imp_right fun hexpires => h.expires hexpires hstep hage
  · rw [hfan]
    exact h.expires h.fan hstep hage

/-- A cache that a poll fills expires before the next one. -/
theorem Sound.filled {α : Type} {c c' : ReadThroughCache α} {p : PollExchange} {t : Int}
    (h : s.Sound) (hstep : s.bridge.step (.operational p) = some s'.bridge)
    (hage : s'.bridge.manager.s21Manager.cacheMaxAge = s.bridge.manager.s21Manager.cacheMaxAge)
    (hfilled : FilledAt c c' t) (hread : t ≤ s.bridge.queue.now) :
    c' = c ∨ s'.bridge.Expires c' := by
  refine hfilled.imp_right ?_
  rintro ⟨v, rfl⟩
  refine Or.inr ?_
  have hshort := h.cacheMaxAge
  rw [hage]
  refine S21WorkQueue.pollsAfter_operational hstep ?_
  dsimp only
  omega

/-- The command handler. An acknowledged command is what the unit does and what the operation
cache holds from then on; one that only the unit knows of finds the cache about to expire. -/
theorem Sound.command {x : Exchange} {meanwhile : List (Int × WriteIntent)} {carriedOut : Bool}
    (h : s.Sound) (hregular : s.Regular (.command x meanwhile, carriedOut))
    (hbridge : s.bridge.step (.command x meanwhile) = some s'.bridge)
    (hunit : s'.unit = match s.sends (.command x meanwhile) with
      | some (c, acknowledged) => if acknowledged || carriedOut then c else s.unit
      | none => s.unit) : s'.Sound := by
  obtain ⟨hrunning, heq⟩ := Option.ite_some_none_eq_some.mp hbridge
  have halive := S21WorkQueue.alive_step h.alive hbridge
  have hcadence := S21WorkQueue.cadence_step h.alive h.cadence hbridge
  have hmanager : s'.bridge.manager = s.bridge.manager.commandWork x meanwhile := by
    rw [← heq]
  cases hpending : s.bridge.manager.kernel.pendingCommand with
  | none =>
      rw [AirConditionerManager.commandWork_of_none _ _ _ hpending] at hmanager
      have hsends := sends_of_none hpending x meanwhile
      rw [hsends] at hunit
      exact h.frame hbridge (by rw [hmanager]) (by rw [hmanager]) (by rw [hmanager]) hunit
  | some c =>
      rcases s.bridge.manager.commandWork_cases x meanwhile hpending with
        ⟨hready, hok, hwork⟩ | ⟨hfailed, hwork⟩
      · rw [hwork] at hmanager
        have hsends : s.sends (.command x meanwhile) = some (c, true) := by
          rw [sends_of_pending hpending hready, hok]
        have hage : s'.bridge.manager.s21Manager.cacheMaxAge =
            s.bridge.manager.s21Manager.cacheMaxAge := by rw [hmanager]
        have hfan : s'.bridge.manager.s21Manager.fanModeCache =
            s.bridge.manager.s21Manager.fanModeCache := by rw [hmanager]
        rw [hsends] at hunit
        -- what was acknowledged is in the cache, and the unit does it
        refine ⟨halive, hcadence, hage ▸ h.cacheMaxAge, Or.inl fun op hop => ?_, ?_⟩
        · rw [hmanager] at hop
          rw [hunit]
          exact (Option.some.inj hop).symm
        · rw [hfan]
          exact h.expires h.fan hbridge hage
      · rw [hwork] at hmanager
        have hsame : s'.bridge.manager.s21Manager = s.bridge.manager.s21Manager := by rw [hmanager]
        have hframe : s'.unit = s.unit → s'.Sound :=
          h.frame hbridge (by rw [hsame]) (by rw [hsame]) (by rw [hsame])
        cases hready : s.bridge.manager.s21Manager.isReady with
        | false =>
            have hsends := sends_of_not_ready hready x meanwhile
            rw [hsends] at hunit
            exact hframe hunit
        | true =>
            have hnack : x.setOperation.isOk = false :=
              Bool.eq_false_iff.mpr fun hok => hfailed ⟨hready, hok⟩
            have hsends : s.sends (.command x meanwhile) = some (c, false) := by
              rw [sends_of_pending hpending hready, hnack]
            rw [hsends] at hunit
            cases hcarried : carriedOut with
            | false =>
                rw [hcarried] at hunit
                exact hframe hunit
            | true =>
                -- the cache says what the unit did before, but not to the next poll
                have hexpires := hregular c hsends hcarried
                have hage : s'.bridge.manager.s21Manager.cacheMaxAge =
                    s.bridge.manager.s21Manager.cacheMaxAge := by rw [hsame]
                refine ⟨halive, hcadence, hage ▸ h.cacheMaxAge, Or.inr ?_, ?_⟩
                · rw [hsame]
                  exact h.expires hexpires hbridge hage
                · rw [hsame]
                  exact h.expires h.fan hbridge hage

theorem sound_step (h : s.Sound) (hregular : s.Regular e) (hstep : s.step e = some s') :
    s'.Sound := by
  obtain ⟨hbridge, hunit⟩ := step_eq_some hstep
  obtain ⟨event, carriedOut⟩ := e
  obtain ⟨bridge', unit'⟩ := s'
  cases S21WorkQueue.steps_of_step hbridge with
  | operational p hrunning hsensors =>
      obtain ⟨-, -, hlater, hnow⟩ := hregular
      have hread := cachesRead_operational s.bridge.manager p
      refine ⟨S21WorkQueue.alive_step h.alive hbridge,
        S21WorkQueue.cadence_step h.alive h.cadence hbridge, hread.cacheMaxAge ▸ h.cacheMaxAge,
        ?_, ?_⟩
      · rcases h.filled hbridge hread.cacheMaxAge hread.operation (Int.le_trans hlater hnow) with
          hsame | hexpires
        · rw [hsame, hunit]
          exact h.operation.imp_right fun hexpires => h.expires hexpires hbridge hread.cacheMaxAge
        · exact Or.inr hexpires
      · rcases h.filled hbridge hread.cacheMaxAge hread.fan hnow with hsame | hexpires
        · rw [hsame]
          exact h.expires h.fan hbridge hread.cacheMaxAge
        · exact hexpires
  | environmental p hrunning hsensors =>
      obtain ⟨hage, hoperation, hfan⟩ := caches_environmental s.bridge.manager p
      exact h.frame hbridge hage hoperation hfan hunit
  | retrySucceeded x hrunning hready =>
      obtain ⟨hage, hoperation, hfan⟩ := caches_init s.bridge.manager.s21Manager x
      exact h.frame hbridge hage hoperation hfan hunit
  | retryFailed x hrunning hready =>
      obtain ⟨hage, hoperation, hfan⟩ := caches_init s.bridge.manager.s21Manager x
      exact h.frame hbridge hage hoperation hfan hunit
  | command x meanwhile hrunning => exact h.command hregular hbridge hunit
  | _ => exact h.frame hbridge rfl rfl rfl hunit

end Sound

/-! ### Refinement -/

section Refinement

variable {s} {s' : Installation} {e : QueueEvent × Bool} {sys : System}

theorem run_intents (sys : System) (meanwhile : List (Int × WriteIntent)) :
    Lib.runGuarded linkStep sys (intents meanwhile) = some { sys with
      kernel := meanwhile.foldl (fun r write => (r.applyIntent write.1 write.2).1) sys.kernel } := by
  induction meanwhile generalizing sys with
  | nil => rfl
  | cons write rest ih => exact Lib.runGuarded_cons_eq_some.mpr ⟨_, rfl, ih _⟩

/-- The pump takes what is pending, and holds it while intents arrive. -/
theorem run_pumpStart (hpumping : sys.pumping = none) (meanwhile : List (Int × WriteIntent)) :
    Lib.runGuarded linkStep sys (.bridge .pumpStart :: intents meanwhile) = some { sys with
      kernel := meanwhile.foldl (fun r write => (r.applyIntent write.1 write.2).1) sys.kernel
      pumping := sys.kernel.pendingCommand } := by
  refine Lib.runGuarded_cons_eq_some.mpr ⟨{ sys with pumping := sys.kernel.pendingCommand }, ?_, ?_⟩
  · simp only [linkStep, Bridge.step, hpumping]
  · exact run_intents _ meanwhile

theorem Tracks.pending (h : s.Tracks sys) :
    sys.kernel.pendingCommand = s.bridge.manager.kernel.pendingCommand := by
  rw [← Reconciler.pendingCommand_operationalPart sys.kernel, ← h.kernel]
  rfl

/-- The command handler is a send of the system. -/
theorem Tracks.command {x : Exchange} {meanwhile : List (Int × WriteIntent)} {carriedOut : Bool}
    (h : s.Tracks sys)
    (hmanager : s'.bridge.manager = s.bridge.manager.commandWork x meanwhile)
    (hunit : s'.unit = match s.sends (.command x meanwhile) with
      | some (c, acknowledged) => if acknowledged || carriedOut then c else s.unit
      | none => s.unit) :
    ∃ sys', Lib.runGuarded linkStep sys (s.traffic (.command x meanwhile, carriedOut)) =
      some sys' ∧ s'.Tracks sys' := by
  cases hpending : s.bridge.manager.kernel.pendingCommand with
  | none =>
      rw [AirConditionerManager.commandWork_of_none _ _ _ hpending] at hmanager
      have hsends := sends_of_none hpending x meanwhile
      rw [hsends] at hunit
      refine ⟨sys, ?_, ⟨hmanager ▸ h.kernel, h.device.trans hunit.symm, h.pumping⟩⟩
      simp only [traffic, hpending]
      rfl
  | some c =>
      have hstart := run_pumpStart h.pumping meanwhile
      rw [h.pending, hpending] at hstart
      have hkernel := Reconciler.operationalPart_intents h.kernel meanwhile
      simp only [traffic, hpending]
      rcases s.bridge.manager.commandWork_cases x meanwhile hpending with
        ⟨hready, hok, hwork⟩ | ⟨hfailed, hwork⟩
      · have hsends : s.sends (.command x meanwhile) = some (c, true) := by
          rw [sends_of_pending hpending hready, hok]
        rw [hwork] at hmanager
        rw [hsends] at hunit ⊢
        refine ⟨_, Lib.runGuarded_append_eq_some.mpr ⟨_, hstart, rfl⟩, ?_, hunit.symm, rfl⟩
        rw [hmanager]
        exact Reconciler.operationalPart_sent hkernel c
      · rw [hwork] at hmanager
        cases hready : s.bridge.manager.s21Manager.isReady with
        | false =>
            have hsends := sends_of_not_ready hready x meanwhile
            rw [hsends] at hunit ⊢
            refine ⟨_, Lib.runGuarded_append_eq_some.mpr ⟨_, hstart, rfl⟩, ?_,
              h.device.trans hunit.symm, rfl⟩
            rw [hmanager]
            exact Reconciler.operationalPart_failed hkernel
        | true =>
            have hnack : x.setOperation.isOk = false :=
              Bool.eq_false_iff.mpr fun hok => hfailed ⟨hready, hok⟩
            have hsends : s.sends (.command x meanwhile) = some (c, false) := by
              rw [sends_of_pending hpending hready, hnack]
            rw [hsends] at hunit ⊢
            refine ⟨_, Lib.runGuarded_append_eq_some.mpr ⟨_, hstart, rfl⟩, ?_, ?_, rfl⟩
            · rw [hmanager]
              exact Reconciler.operationalPart_failed hkernel
            · rw [hunit, ← h.device]
              rfl

/-- A poll that passes an observation on passes on what the unit does. -/
theorem Sound.observation {p : PollExchange} {carriedOut : Bool}
    {obs : S21OperationalObservation} (h : s.Sound)
    (hregular : s.Regular (.operational p, carriedOut))
    (hrunning : s.bridge.queue.running = some .poll)
    (hobs : (s.bridge.manager.pollOperationalPhase p).observation = some obs) :
    obs = reportOf s.unit obs.refrigerantValveOpen := by
  obtain ⟨htruth, hstart, hlater, hnow⟩ := hregular
  obtain ⟨op, hresult, rfl⟩ :=
    (AirConditionerManager.observation_operational_iff s.bridge.manager p).mp hobs
  have hfan := h.fan.fresh hrunning fun start hlast => Int.le_trans (hstart start hlast) hlater
  obtain rfl : op = reading s.unit := by
    refine getOperation_truthful htruth (fun cached hcached => ?_) hfan hresult
    rcases h.operation with htrue | hexpires
    · exact htrue cached (ReadThroughCache.value_of_fresh hcached)
    · rw [hexpires.fresh hrunning hstart] at hcached
      cases hcached
  rfl

theorem Tracks.operational {p : PollExchange} {carriedOut : Bool} (htracks : s.Tracks sys)
    (h : s.Sound) (hregular : s.Regular (.operational p, carriedOut))
    (hrunning : s.bridge.queue.running = some .poll)
    (hmanager : s'.bridge.manager = (s.bridge.manager.pollOperationalPhase p).after)
    (hunit : s'.unit = s.unit) :
    ∃ sys', Lib.runGuarded linkStep sys (s.traffic (.operational p, carriedOut)) = some sys' ∧
      s'.Tracks sys' := by
  cases hobs : (s.bridge.manager.pollOperationalPhase p).observation with
  | none =>
      refine ⟨sys, ?_, ?_, htracks.device.trans hunit.symm, htracks.pumping⟩
      · simp only [traffic, hobs]
        rfl
      · rw [hmanager, AirConditionerManager.kernel_of_no_observation _ _ hobs]
        exact htracks.kernel
  | some obs =>
      have hexact := h.observation hregular hrunning hobs
      refine ⟨{ sys with kernel := (sys.kernel.applyOperationalObservation p.now
        (reportOf sys.device obs.refrigerantValveOpen)).1 }, ?_, ?_,
        htracks.device.trans hunit.symm, htracks.pumping⟩
      · simp only [traffic, hobs]
        refine Lib.runGuarded_cons_eq_some.mpr ⟨_, ?_, rfl⟩
        simp only [linkStep, Bridge.step, htracks.pumping]
      · rw [hmanager, AirConditionerManager.kernel_of_observation _ _ hobs, htracks.device,
          ← hexact]
        exact Reconciler.operationalPart_observation htracks.kernel p.now obs

theorem simulates_step (h : s.Sound) (hregular : s.Regular e) (htracks : s.Tracks sys)
    (hstep : s.step e = some s') :
    ∃ sys', Lib.runGuarded linkStep sys (s.traffic e) = some sys' ∧ s'.Tracks sys' := by
  obtain ⟨hbridge, hunit⟩ := step_eq_some hstep
  obtain ⟨event, carriedOut⟩ := e
  obtain ⟨bridge', unit'⟩ := s'
  have hunit : unit' = _ := hunit
  cases S21WorkQueue.steps_of_step hbridge with
  | operational p hrunning hsensors => exact htracks.operational h hregular hrunning rfl hunit
  | command x meanwhile hrunning => exact htracks.command rfl hunit
  | environmental p hrunning hsensors =>
      refine ⟨sys, rfl, ?_, htracks.device.trans hunit.symm, htracks.pumping⟩
      dsimp only
      rw [AirConditionerManager.kernel_environmental]
      exact htracks.kernel
  | intent now i =>
      refine ⟨_, rfl, ?_, htracks.device.trans hunit.symm, htracks.pumping⟩
      exact Reconciler.operationalPart_intent htracks.kernel now i
  | _ => exact ⟨sys, rfl, htracks.kernel, htracks.device.trans hunit.symm, htracks.pumping⟩

end Refinement

/-- **The installation refines the system.** -/
theorem refines : Lib.Refines step linkStep Sound Regular Tracks traffic where
  keeps _ _ _ h hregular hstep := sound_step h hregular hstep
  simulates _ _ _ _ h hregular htracks hstep := simulates_step h hregular htracks hstep

/-! ### Runs from boot -/

/-- A bridge that boots, and a unit in any state. -/
def boot (cacheMaxAge : Int) (config : ReconcilerConfig) (d : LogicalACStateDefaults) (x : Exchange)
    (unit : S21OperationCommand) : Installation :=
  ⟨S21WorkQueue.boot cacheMaxAge (.new config d) x, unit⟩

section Runs

variable {cacheMaxAge : Int} {config : ReconcilerConfig} {d : LogicalACStateDefaults}
  {x : Exchange} {unit : S21OperationCommand}

theorem sound_boot (hage : cacheMaxAge < S21WorkQueue.kS21PollIntervalMs) :
    (boot cacheMaxAge config d x unit).Sound := by
  obtain ⟨hsame, hoperation, hfan⟩ := caches_init (.new cacheMaxAge) x
  refine ⟨S21WorkQueue.alive_boot .., S21WorkQueue.cadence_boot .., ?_, Or.inr (Or.inl ?_),
    Or.inl ?_⟩
  · exact hsame.symm ▸ hage
  · exact congrArg ReadThroughCache.value hoperation
  · exact congrArg ReadThroughCache.value hfan

theorem tracks_boot : (boot cacheMaxAge config d x unit).Tracks (start config d unit) :=
  ⟨rfl, rfl, rfl⟩

/-- **The bridge as scheduled is the system over a failing link.** Let the caches live less long
than the poll interval. Take any run of the work queue from boot, with a unit in any state that
answers truthfully if it answers, and in which the answer to a send is lost only if no send was
acknowledged since the last poll. The run is matched by a run of the system, to a state in which
the device is the unit and the kernel is the same up to the sensors and the state of the link. -/
theorem installation_refines {events : List (QueueEvent × Bool)} {s : Installation}
    (hage : cacheMaxAge < S21WorkQueue.kS21PollIntervalMs)
    (hrun : Lib.runGuarded step (boot cacheMaxAge config d x unit) events = some s)
    (hregular : Lib.AlongGuarded step Regular (boot cacheMaxAge config d x unit) events) :
    ∃ sys, Lib.runGuarded linkStep (start config d unit)
        (Lib.emitted step traffic (boot cacheMaxAge config d x unit) events) = some sys ∧
      s.bridge.manager.kernel.operationalPart = sys.kernel.operationalPart ∧
      sys.device = s.unit ∧ sys.pumping = none := by
  obtain ⟨-, sys, hsys, htracks⟩ := refines.run (sound_boot hage) tracks_boot hregular hrun
  exact ⟨sys, hsys, htracks.kernel, htracks.device, htracks.pumping⟩

end Runs

/-- A unit that cools, with the fan on the given mode. -/
def coolingUnit (fan : FanMode) : S21OperationCommand := ⟨true, .cool, 2400, fan⟩

/-- A poll of it; F1 says Auto on Quiet. -/
def coolingUnitPoll (now : Int) (fan : FanMode) : PollExchange :=
  { AirConditionerManager.coolingPoll now with
    operation := { Exchange.answering now fan with
      operation := .ok { reading (coolingUnit fan) with
        fanMode := if fan = .quiet then .auto else fan } } }

theorem truthful_coolingUnitPoll (m : S21Manager) (now : Int) {fan : FanMode}
    (hrg : m.fanModeCapability.isUnsupported = false) :
    Truthful (coolingUnit fan) m (coolingUnitPoll now fan).operation := by
  refine ⟨fun op hop => ?_, fun fan' hfan => (Except.ok.inj hfan).symm⟩
  obtain rfl := Except.ok.inj hop
  by_cases hquiet : fan = .quiet
  · refine Or.inr ⟨?_, rfl, hrg, rfl⟩
    rw [if_pos hquiet]
  · left
    rw [if_neg hquiet]
    rfl

/-- The fan of a quiet unit is set to high. The answer is lost, and the next poll shows that the
unit has carried the command out. -/
def lostAnswer : List (QueueEvent × Bool) :=
  [(.elapse 100, false), (.start, false), (.environmental (coolingUnitPoll 100 .quiet), false),
    (.operational (coolingUnitPoll 100 .quiet), false), (.elapse 3000, false),
    (.intent 3100 (.setSpeedSetting (some .high)), false), (.trigger, false),
    (.elapse 60, false), (.expire .command, false), (.start, false),
    (.command { Exchange.answering 3160 .quiet with setOperation := .error "timeout" } [], true),
    (.elapse 7000, false), (.expire .poll, false), (.start, false),
    (.environmental (coolingUnitPoll 10160 .high), false)]

/-- Booted next to a quiet unit, with the cache age of production. -/
def bootQuiet : Installation := boot 5000 {} {} (.answering 0 .quiet) (coolingUnit .quiet)

theorem lostAnswer_regular : Lib.AlongGuarded step Regular bootQuiet
    (lostAnswer ++ [(.operational (coolingUnitPoll 10160 .high), false)]) := by
  refine .cons trivial rfl <| .cons trivial rfl <| .cons trivial rfl <| .cons ?_ rfl <|
    .cons trivial rfl <| .cons trivial rfl <| .cons trivial rfl <| .cons trivial rfl <|
    .cons trivial rfl <| .cons trivial rfl <| .cons ?_ rfl <| .cons trivial rfl <|
    .cons trivial rfl <| .cons trivial rfl <| .cons trivial rfl <| .cons ?_ rfl trivial
  · refine ⟨truthful_coolingUnitPoll _ _ rfl, fun start hstart => ?_, by decide, by decide⟩
    obtain rfl : 100 = start := Option.some.inj hstart
    decide
  · intro c _ _
    refine Or.inr ⟨nofun, fun _ => ⟨10100, Or.inl rfl, by decide⟩⟩
  · refine ⟨truthful_coolingUnitPoll _ _ rfl, fun start hstart => ?_, by decide, by decide⟩
    obtain rfl : 10160 = start := Option.some.inj hstart
    decide

/-- The system sees two polls, the intent, and the failing send. -/
theorem lostAnswer_traffic : Lib.emitted step traffic bootQuiet
      (lostAnswer ++ [(.operational (coolingUnitPoll 10160 .high), false)]) =
    [.bridge (.poll 100 (some true)), .bridge (.intent 3100 (.setSpeedSetting (some .high))),
      .bridge .pumpStart, .pumpFail true, .bridge (.poll 10160 (some true))] := by
  decide +kernel

theorem installation_refines_of_lostAnswer :
    ∃ s sys, Lib.runGuarded step bootQuiet
        (lostAnswer ++ [(.operational (coolingUnitPoll 10160 .high), false)]) = some s ∧
      Lib.runGuarded linkStep (start {} {} (coolingUnit .quiet))
        [.bridge (.poll 100 (some true)), .bridge (.intent 3100 (.setSpeedSetting (some .high))),
          .bridge .pumpStart, .pumpFail true, .bridge (.poll 10160 (some true))] = some sys ∧
      sys.device = s.unit ∧ s.unit = coolingUnit .high := by
  obtain ⟨s, hrun, hunit⟩ : ∃ s, Lib.runGuarded step bootQuiet
      (lostAnswer ++ [(.operational (coolingUnitPoll 10160 .high), false)]) = some s ∧
        s.unit = coolingUnit .high := ⟨_, rfl, rfl⟩
  obtain ⟨sys, hsys, -, hdevice, -⟩ := installation_refines (by decide) hrun lostAnswer_regular
  have hsys := lostAnswer_traffic ▸ hsys
  exact ⟨s, sys, hrun, hsys, hdevice, hunit⟩

/-! ### What the system is known to do -/

/-- The command handler finds its command still wanted, and a command whose answer gets lost will
not look like a stale poll. -/
def CommandsLand (e : QueueEvent × Bool) : Prop :=
  match e.1 with
  | .command _ meanwhile => ∀ c acknowledged, s.sends e.1 = some (c, acknowledged) →
      if acknowledged then
        CommandStillWanted (s.bridge.manager.kernelMeanwhile meanwhile).state c
      else e.2 = true → CommandLands (s.bridge.manager.kernelMeanwhile meanwhile).state c
  | _ => True

section Transfer

variable {s} {s' : Installation} {e : QueueEvent × Bool} {sys : System}

/-- The conditions on a command are conditions on the operational part. -/
theorem commandStillWanted_congr {r t : Reconciler} (h : r.operationalPart = t.operationalPart)
    {c : S21OperationCommand} (hwanted : CommandStillWanted r.state c) :
    CommandStillWanted t.state c := by
  have hpart : CommandStillWanted r.operationalPart.state c := hwanted
  rw [h] at hpart
  exact hpart

theorem commandLands_congr {r t : Reconciler} (h : r.operationalPart = t.operationalPart)
    {c : S21OperationCommand} (hlands : CommandLands r.state c) : CommandLands t.state c := by
  have hpart : CommandLands r.operationalPart.state c :=
    ⟨hlands.onOff, hlands.mode, hlands.fan, hlands.setpoint⟩
  rw [h] at hpart
  exact ⟨hpart.onOff, hpart.mode, hpart.fan, hpart.setpoint⟩

theorem sendsLand_of_commandsLand (htracks : s.Tracks sys) (h : s.CommandsLand e) :
    Lib.AlongGuarded linkStep SendsLand sys (s.traffic e) := by
  obtain ⟨event, carriedOut⟩ := e
  cases event with
  | command x meanwhile =>
      cases hpending : s.bridge.manager.kernel.pendingCommand with
      | none =>
          simp only [traffic, hpending]
          trivial
      | some c =>
          simp only [traffic, hpending]
          have hstart := run_pumpStart htracks.pumping meanwhile
          have hkernel := Reconciler.operationalPart_intents htracks.kernel meanwhile
          rw [htracks.pending, hpending] at hstart
          refine .append ⟨trivial, fun _ _ => Lib.alongGuarded_of_forall ?_⟩
            fun before hbefore => ⟨?_, fun _ _ => trivial⟩
          · intro l hl t
            obtain ⟨write, -, rfl⟩ := List.mem_map.mp hl
            trivial
          · obtain rfl := Option.some.inj (hstart.symm.trans hbefore)
            cases hready : s.bridge.manager.s21Manager.isReady with
            | false =>
                have hsends := sends_of_not_ready hready x meanwhile
                rw [hsends]
                exact nofun
            | true =>
                have hsends := sends_of_pending hpending hready x meanwhile
                have hland := h c _ hsends
                rw [hsends]
                cases hok : x.setOperation.isOk with
                | true =>
                    rw [hok, if_pos rfl] at hland
                    rintro c' hc'
                    obtain rfl := Option.some.inj hc'
                    exact commandStillWanted_congr hkernel hland
                | false =>
                    rw [hok, if_neg Bool.false_ne_true] at hland
                    rintro hcarried c' hc'
                    obtain rfl := Option.some.inj hc'
                    exact commandLands_congr hkernel (hland hcarried)
  | operational p =>
      simp only [traffic]
      split
      · exact ⟨trivial, fun _ _ => trivial⟩
      · trivial
  | intent now i => exact ⟨trivial, fun _ _ => trivial⟩
  | _ => trivial

end Transfer

section Runs

variable {cacheMaxAge : Int} {config : ReconcilerConfig} {d : LogicalACStateDefaults}
  {x : Exchange} {unit : S21OperationCommand}

/-- **No lost write, as scheduled.** In such a run, let every command land. Whenever the last step
was a poll that succeeded and nothing is pending, the unit does what is desired. -/
theorem scheduled_poll_agrees {events : List (QueueEvent × Bool)} {p : PollExchange}
    {carriedOut : Bool} {s : Installation}
    (hage : cacheMaxAge < S21WorkQueue.kS21PollIntervalMs)
    (hrun : Lib.runGuarded step (boot cacheMaxAge config d x unit)
      (events ++ [(.operational p, carriedOut)]) = some s)
    (hregular : Lib.AlongGuarded step Regular (boot cacheMaxAge config d x unit)
      (events ++ [(.operational p, carriedOut)]))
    (hlands : Lib.AlongGuarded step CommandsLand (boot cacheMaxAge config d x unit) events)
    (hread : s.bridge.manager.consecutivePollFailures = 0)
    (hquiet : s.bridge.manager.kernel.pendingCommand = none) :
    DeviceAgrees ⟨s.bridge.manager.kernel, s.unit, none⟩ := by
  have hsound : (boot cacheMaxAge config d x unit).Sound := sound_boot hage
  obtain ⟨-, sys, hsys, htracks⟩ := refines.run hsound tracks_boot hregular hrun
  obtain ⟨mid, hmid, hlast⟩ := Lib.runGuarded_append_eq_some.mp hrun
  have hsends := refines.along (D := CommandsLand) (E := SendsLand)
    (fun _ _ _ _ _ htracks h => sendsLand_of_commandsLand htracks h) hsound tracks_boot
    hregular.left hlands
  -- the last step is a poll of the system
  obtain ⟨after, hstep, hnil⟩ := Lib.runGuarded_cons_eq_some.mp hlast
  obtain rfl : after = s := Option.some.inj hnil
  obtain ⟨bridge, hbridge, rfl⟩ := Option.map_eq_some_iff.mp hstep
  obtain ⟨-, rfl⟩ := Option.ite_some_none_eq_some.mp hbridge
  obtain ⟨obs, hobs⟩ := mid.bridge.manager.exists_observation p hread
  have htraffic : mid.traffic (.operational p, carriedOut) =
      [.bridge (.poll p.now obs.refrigerantValveOpen)] := by
    simp only [traffic, hobs]
  rw [Lib.emitted_concat hmid, htraffic] at hsys
  obtain ⟨-, hpolled⟩ := polled_despite_failures hsys hsends
  have hagrees := hpolled.agrees (htracks.pending.trans hquiet)
  have hpart : DeviceAgrees ⟨sys.kernel.operationalPart, sys.device, none⟩ := hagrees
  rw [← htracks.kernel, htracks.device] at hpart
  exact hpart

end Runs

/-- With nothing in flight, a send that fails looks like nothing. -/
theorem commandsLand_of_landed {s : Installation} {x : Exchange}
    {meanwhile : List (Int × WriteIntent)} {carriedOut : Bool} (hfailed : x.setOperation.isOk = false)
    (h : (s.bridge.manager.kernelMeanwhile meanwhile).state.noneInFlight) :
    s.CommandsLand (.command x meanwhile, carriedOut) := by
  obtain ⟨hon, hmode, hheat, hcool, hauto, hfan⟩ := h
  intro c acknowledged hsends
  obtain rfl : acknowledged = false := by
    simp only [sends] at hsends
    split at hsends
    · obtain ⟨c', -, heq⟩ := Option.map_eq_some_iff.mp hsends
      exact (Prod.mk.inj heq).2.symm.trans hfailed
    · cases hsends
  rw [if_neg Bool.false_ne_true]
  refine fun _ => ⟨landsOn_of_landed hon _, landsOn_of_landed hmode _, landsOn_of_landed hfan _,
    fun _ => landsOn_of_landed ?_ _⟩
  cases s21OperatingModeToOperationalMode c.operatingMode <;> assumption

theorem scheduled_poll_agrees_of_lostAnswer :
    ∃ s, Lib.runGuarded step bootQuiet
        (lostAnswer ++ [(.operational (coolingUnitPoll 10160 .high), false)]) = some s ∧
      DeviceAgrees ⟨s.bridge.manager.kernel, s.unit, none⟩ := by
  have hlands : Lib.AlongGuarded step CommandsLand bootQuiet lostAnswer := by
    refine .cons trivial rfl <| .cons trivial rfl <| .cons trivial rfl <| .cons trivial rfl <|
      .cons trivial rfl <| .cons trivial rfl <| .cons trivial rfl <| .cons trivial rfl <|
      .cons trivial rfl <| .cons trivial rfl <| .cons ?_ rfl <| .cons trivial rfl <|
      .cons trivial rfl <| .cons trivial rfl <| .cons trivial rfl trivial
    exact commandsLand_of_landed rfl ⟨rfl, rfl, rfl, rfl, rfl, rfl⟩
  obtain ⟨s, hrun, hread, hquiet⟩ : ∃ s, Lib.runGuarded step bootQuiet
      (lostAnswer ++ [(.operational (coolingUnitPoll 10160 .high), false)]) = some s ∧
        s.bridge.manager.consecutivePollFailures = 0 ∧
        s.bridge.manager.kernel.pendingCommand = none := ⟨_, rfl, rfl, by decide +kernel⟩
  exact ⟨s, hrun,
    scheduled_poll_agrees (by decide) hrun lostAnswer_regular hlands hread hquiet⟩

end Installation

end DaikinBridge.Bridge
