import DaikinBridge.S21.Steps

/-!
# DaikinBridge.S21.Capabilities

Capability tracking over whole histories.

Six commands are tracked. Each has a status and a counter, shared by every call that may issue
the command, and two of them are fetched only when a cache misses. The state of a capability
is nonetheless a function of the outcomes of the fetches made, in order: `Tracks` says of a
step that it made its fetches while the command was not unsupported and that it recorded their
outcomes, and it carries over from the steps to calls. So the capability after a history is a
replay of its fetches (`replayed_history`), and what a replay can come to is a matter of lists
(`replay_cases`).
-/

namespace DaikinBridge.S21

namespace CommandCapability

/-! ### Replaying fetches -/

/-- Record whether a fetch succeeded. -/
def recordOutcome (c : CommandCapability) (ok : Bool) : CommandCapability :=
  if ok then c.recordSuccess else c.recordFailure

theorem record_eq_recordOutcome {α : Type} (c : CommandCapability) (answer : Except String α) :
    c.record answer = c.recordOutcome answer.isOk := by
  cases answer <;> rfl

/-- A supported command stays supported: its failures are not counted. -/
theorem recordOutcome_of_supported {c : CommandCapability} (h : c.status = .supported) (ok : Bool) :
    (c.recordOutcome ok).status = .supported := by
  cases ok with
  | true => rfl
  | false =>
      rw [recordOutcome, if_neg Bool.false_ne_true, recordFailure, if_pos h]
      exact h

/-- Each of the fetches is made while the command is not unsupported. -/
def Granted (c : CommandCapability) (fetched : List Bool) : Prop :=
  Lib.Along recordOutcome (fun c _ => c.isUnsupported = false) c fetched

/-- The capability after the fetches. -/
def replay (c : CommandCapability) (fetched : List Bool) : CommandCapability :=
  Lib.run recordOutcome c fetched

/-- Either all fetches failed, and they were counted, or one of the first four succeeded. -/
theorem replay_cases {fetched : List Bool} (h : Granted {} fetched) :
    (fetched.length ≤ kThreshold + 1 ∧ (∀ ok ∈ fetched, ok = false) ∧
        replay {} fetched =
          ⟨if fetched.length > kThreshold then .unsupported else .unknown, fetched.length⟩) ∨
      (true ∈ fetched.take (kThreshold + 1) ∧ (replay {} fetched).status = .supported) := by
  induction fetched using List.reverseRecOn with
  | nil => exact .inl ⟨by decide, by simp, rfl⟩
  | append_singleton fetched ok ih =>
      obtain ⟨hbefore, hgranted⟩ := Lib.along_concat.mp h
      have hreplay : replay {} (fetched ++ [ok]) = (replay {} fetched).recordOutcome ok :=
        Lib.run_concat _ _ _ _
      rw [hreplay]
      obtain ⟨hlength, hfailed, hcount⟩ | ⟨hmem, hsupported⟩ := ih hbefore
      · -- only failures so far, and this fetch was granted: fewer than four of them
        have hnot : ¬ fetched.length > kThreshold := by
          intro hmany
          have hgranted : (replay {} fetched).isUnsupported = false := hgranted
          rw [hcount, if_pos hmany] at hgranted
          cases hgranted
        have hlength' : (fetched ++ [ok]).length ≤ kThreshold + 1 := by
          rw [List.length_append, List.length_singleton]
          omega
        rw [if_neg hnot] at hcount
        cases ok with
        | true =>
            refine .inr ⟨?_, rfl⟩
            rw [List.take_of_length_le hlength']
            exact List.mem_append_right _ (List.mem_singleton.mpr rfl)
        | false =>
            refine .inl ⟨hlength', ?_, ?_⟩
            · intro a ha
              obtain hold | hnew := List.mem_append.mp ha
              · exact hfailed a hold
              · exact List.mem_singleton.mp hnew
            · rw [hcount]
              simp [recordOutcome, recordFailure]
      · refine .inr ⟨?_, ?_⟩
        · rw [List.take_append]
          exact List.mem_append_left _ hmem
        · exact recordOutcome_of_supported hsupported ok

/-- What the fetches made say of the capability. -/
structure Law (c : CommandCapability) (fetched : List Bool) : Prop where
  unsupported_iff : c.isUnsupported = true ↔
    kThreshold + 1 ≤ fetched.length ∧ ∀ ok ∈ fetched.take (kThreshold + 1), ok = false
  exactly : c.isUnsupported = true → fetched.length = kThreshold + 1
  supported : true ∈ fetched → c.status = .supported

theorem law_of_granted {fetched : List Bool} (h : Granted {} fetched) :
    Law (replay {} fetched) fetched := by
  obtain ⟨hlength, hfailed, hcount⟩ | ⟨hmem, hsupported⟩ := replay_cases h
  · have hiff : (replay {} fetched).isUnsupported = true ↔ kThreshold + 1 ≤ fetched.length := by
      rw [hcount, isUnsupported, decide_eq_true_iff]
      split
      · exact iff_of_true rfl (by omega)
      · exact iff_of_false (by simp) (by omega)
    refine ⟨?_, ?_, ?_⟩
    · rw [hiff]
      exact ⟨fun hmany => ⟨hmany, fun ok hok => hfailed ok (List.mem_of_mem_take hok)⟩, And.left⟩
    · intro hunsupported
      exact Nat.le_antisymm hlength (hiff.mp hunsupported)
    · intro hsuccess
      exact absurd (hfailed true hsuccess) (by decide)
  · have hnot : ¬ (replay {} fetched).isUnsupported = true := by
      rw [isUnsupported, hsupported]
      decide
    refine ⟨iff_of_false hnot ?_, fun h => absurd h hnot, fun _ => hsupported⟩
    intro hfailed
    exact absurd (hfailed.2 true hmem) (by decide)

end CommandCapability

/-! ### The six tracked commands -/

/-- The commands the manager gives up on when they keep failing. -/
inductive TrackedCommand
  | roomTemperature
  | outdoorTemperature
  | humidity
  | coarseTemperatureAndHumidity
  | fanMode
  | unitState
  deriving DecidableEq, Repr

namespace TrackedCommand

/-- What the manager knows of the command. -/
def capability (m : S21Manager) : TrackedCommand → CommandCapability
  | .roomTemperature => m.roomTemperatureCapability
  | .outdoorTemperature => m.outdoorTemperatureCapability
  | .humidity => m.humidityCapability
  | .coarseTemperatureAndHumidity => m.coarseTemperatureAndHumidityCapability
  | .fanMode => m.fanModeCapability
  | .unitState => m.unitStateCapability

/-- The command as the presentation layer gets it. -/
def request : TrackedCommand → PresentationCall
  | .roomTemperature => .getRoomTemperature
  | .outdoorTemperature => .getOutdoorTemperature
  | .humidity => .getHumidity
  | .coarseTemperatureAndHumidity => .getCoarseTemperatureAndHumidity
  | .fanMode => .getFanMode
  | .unitState => .getUnitState

/-- Would a fetch of the command succeed? -/
def succeeds (x : Exchange) : TrackedCommand → Bool
  | .roomTemperature => x.roomTemperature.isOk
  | .outdoorTemperature => x.outdoorTemperature.isOk
  | .humidity => x.humidity.isOk
  | .coarseTemperatureAndHumidity => x.coarseTemperatureAndHumidity.isOk
  | .fanMode => x.fanMode.isOk
  | .unitState => x.unitState.isOk

theorem request_inj {k l : TrackedCommand} (h : k.request = l.request) : k = l := by
  cases k <;> cases l <;> first | rfl | cases h

/-- The outcomes of the fetches of the command among the commands issued. -/
def fetches (x : Exchange) (calls : List PresentationCall) (k : TrackedCommand) : List Bool :=
  (calls.filter fun call => call = k.request).map fun _ => k.succeeds x

theorem fetches_append (x : Exchange) (calls calls' : List PresentationCall)
    (k : TrackedCommand) :
    k.fetches x (calls ++ calls') = k.fetches x calls ++ k.fetches x calls' := by
  simp [fetches]

theorem fetches_eq_nil {x : Exchange} {calls : List PresentationCall} {k : TrackedCommand}
    (h : k.request ∉ calls) : k.fetches x calls = [] := by
  rw [fetches, List.map_eq_nil_iff, List.filter_eq_nil_iff]
  intro call hcall heq
  exact h (of_decide_eq_true heq ▸ hcall)

/-- A tracked call fetches its own command, if the capability lets it, and no other. -/
theorem fetches_issued_self (x : Exchange) (k : TrackedCommand) (c : CommandCapability) :
    k.fetches x (c.issued k.request) = if c.isUnsupported then [] else [k.succeeds x] := by
  unfold CommandCapability.issued
  cases c.isUnsupported with
  | true => rfl
  | false => simp [fetches]

theorem fetches_issued_of_ne (x : Exchange) {k l : TrackedCommand} (h : l ≠ k)
    (c : CommandCapability) : l.fetches x (c.issued k.request) = [] :=
  fetches_eq_nil fun hmem => h (request_inj (CommandCapability.eq_of_mem_issued hmem))

end TrackedCommand

/-! ### What a call does to the capabilities -/

open CommandCapability (Granted replay mem_issued_iff)

/-- From `m` to `m'`, having issued `calls`: each tracked command was fetched only while it was
not unsupported, and what the fetches gave was recorded. -/
structure Tracks (x : Exchange) (m m' : S21Manager) (calls : List PresentationCall) : Prop where
  granted : ∀ k : TrackedCommand, Granted (k.capability m) (k.fetches x calls)
  replayed : ∀ k : TrackedCommand,
    k.capability m' = replay (k.capability m) (k.fetches x calls)

namespace Tracks

variable {x : Exchange} {m m' m'' : S21Manager} {calls calls' : List PresentationCall}

/-- Commands that are not tracked leave the capabilities alone. -/
theorem untracked (hcapability : ∀ k : TrackedCommand, k.capability m' = k.capability m)
    (hcalls : ∀ k : TrackedCommand, k.request ∉ calls) : Tracks x m m' calls where
  granted k := by
    rw [TrackedCommand.fetches_eq_nil (hcalls k)]
    trivial
  replayed k := by
    rw [TrackedCommand.fetches_eq_nil (hcalls k)]
    exact hcapability k

theorem refl (x : Exchange) (m : S21Manager) : Tracks x m m [] :=
  untracked (fun _ => rfl) fun _ => List.not_mem_nil

theorem trans (h : Tracks x m m' calls) (h' : Tracks x m' m'' calls') :
    Tracks x m m'' (calls ++ calls') where
  granted k := by
    rw [TrackedCommand.fetches_append]
    refine Lib.along_append.mpr ⟨h.granted k, ?_⟩
    have hthen := h'.granted k
    rw [h.replayed k] at hthen
    exact hthen
  replayed k := by
    rw [TrackedCommand.fetches_append, h'.replayed k, h.replayed k]
    exact (Lib.run_append _ _ _ _).symm

/-- One tracked call. -/
theorem issue (k : TrackedCommand) {α : Type} {answer : Except String α}
    (hanswer : k.succeeds x = answer.isOk)
    (hcapability : k.capability m' = ((k.capability m).callWithTracking answer).1)
    (hothers : ∀ l : TrackedCommand, l ≠ k → l.capability m' = l.capability m) :
    Tracks x m m' ((k.capability m).issued k.request) := by
  unfold CommandCapability.callWithTracking at hcapability
  constructor
  · intro l
    by_cases hl : l = k
    · subst hl
      rw [TrackedCommand.fetches_issued_self]
      cases hsupport : (l.capability m).isUnsupported with
      | true => trivial
      | false => exact ⟨hsupport, trivial⟩
    · rw [TrackedCommand.fetches_issued_of_ne x hl]
      trivial
  · intro l
    by_cases hl : l = k
    · subst hl
      rw [TrackedCommand.fetches_issued_self, hcapability]
      cases (l.capability m).isUnsupported with
      | true => rfl
      | false =>
          rw [hanswer]
          exact CommandCapability.record_eq_recordOutcome _ answer
    · rw [TrackedCommand.fetches_issued_of_ne x hl]
      exact hothers l hl

theorem whenReady {α : Type} {body : Outcome α} (h : Tracks x m body.manager body.calls) :
    Tracks x m (m.whenReady body).manager (m.whenReady body).calls := by
  unfold S21Manager.whenReady
  split
  · exact h
  · exact refl x m

end Tracks

namespace S21Manager

variable (m : S21Manager) (x : Exchange)

theorem tracks_readOperation (now : Int) :
    Tracks x m (m.readOperation x now).manager (m.readOperation x now).calls := by
  unfold readOperation
  split
  · exact .refl x m
  · exact .untracked (fun k => by cases k <;> rfl) fun k => by
      cases k <;> simp [TrackedCommand.request]

theorem tracks_readFanMode (now : Int) :
    Tracks x m (m.readFanMode x now).manager (m.readFanMode x now).calls := by
  unfold readFanMode
  split
  · exact .refl x m
  · refine .issue .fanMode (show _ = x.fanMode.isOk from rfl) rfl fun l hl => ?_
    cases l <;> trivial

theorem tracks_readCoarse (now : Int) :
    Tracks x m (m.readCoarseTemperatureAndHumidity x now).manager
      (m.readCoarseTemperatureAndHumidity x now).calls := by
  unfold readCoarseTemperatureAndHumidity
  split
  · exact .refl x m
  · refine .issue .coarseTemperatureAndHumidity
      (show _ = x.coarseTemperatureAndHumidity.isOk from rfl) rfl fun l hl => ?_
    cases l <;> trivial

theorem tracks_writeOperation (now : Int) (op : GetOperationResult) :
    Tracks x m (m.writeOperation x now op).manager (m.writeOperation x now op).calls := by
  refine .whenReady (.untracked (fun k => ?_) fun k => ?_)
  · cases x.setOperation <;> cases k <;> rfl
  · cases k <;> simp [TrackedCommand.request]

theorem tracks_init : Tracks x m (m.init x).1 (m.init x).2.2 := by
  have hcapability : ∀ (ready : Bool) (major : UInt8) (k : TrackedCommand),
      k.capability { m with isReady := ready, protocolMajor := major } = k.capability m := by
    intro ready major k
    cases k <;> rfl
  unfold init
  split
  · exact .refl x m
  · split
    · exact .untracked (fun _ => rfl) fun k => by cases k <;> simp [TrackedCommand.request]
    · split
      · exact .untracked (hcapability _ _) fun k => by cases k <;> simp [TrackedCommand.request]
      · exact .untracked (hcapability _ _) fun k => by cases k <;> simp [TrackedCommand.request]

/-- **One step** tracks its command. -/
theorem tracks_take (step : Step) : Tracks x m (step.take m x).1 (step.take m x).2 := by
  cases step with
  | init => exact tracks_init m x
  | operation now => exact tracks_readOperation m x now
  | fanMode now => exact tracks_readFanMode m x now
  | coarse now => exact tracks_readCoarse m x now
  | roomTemperature =>
      refine .issue .roomTemperature rfl rfl fun l hl => ?_
      cases l <;> trivial
  | outdoorTemperature =>
      refine .issue .outdoorTemperature rfl rfl fun l hl => ?_
      cases l <;> trivial
  | humidity =>
      refine .issue .humidity rfl rfl fun l hl => ?_
      cases l <;> trivial
  | unitState =>
      refine .issue .unitState rfl rfl fun l hl => ?_
      cases l <;> trivial
  | setOperation now op => exact tracks_writeOperation m x now op

theorem tracks_follow (steps : List Step) :
    Tracks x m (follow x m steps).1 (follow x m steps).2 := by
  induction steps generalizing m with
  | nil => exact .refl x m
  | cons step rest ih => exact (tracks_take m x step).trans (ih _)

/-- **One call** tracks its commands. -/
theorem tracks_perform (call : ManagerCall) :
    Tracks x m (m.perform x call) (m.issuedBy x call) := by
  have htracks := tracks_follow m x (m.steps x call)
  rw [follow_steps] at htracks
  exact htracks

/-! ### Histories -/

/-- The outcomes of the fetches of a command in a history, in order. -/
def fetchedIn (k : TrackedCommand) : S21Manager → List (ManagerCall × Exchange) → List Bool
  | _, [] => []
  | m, call :: rest =>
      k.fetches call.2 (m.issuedBy call.2 call.1) ++ fetchedIn k (m.performCall call) rest

/-- **Every history.** The capability of a command is the replay of its fetches. -/
theorem replayed_history (k : TrackedCommand) (history : List (ManagerCall × Exchange)) :
    Granted (k.capability m) (fetchedIn k m history) ∧
      k.capability (Lib.run performCall m history) =
        replay (k.capability m) (fetchedIn k m history) := by
  induction history generalizing m with
  | nil => exact ⟨trivial, rfl⟩
  | cons call rest ih =>
      have hfirst := tracks_perform m call.2 call.1
      obtain ⟨hgranted, hreplay⟩ := ih (m.performCall call)
      rw [performCall, hfirst.replayed k] at hgranted hreplay
      refine ⟨Lib.along_append.mpr ⟨hfirst.granted k, hgranted⟩, ?_⟩
      rw [Lib.run_cons, performCall, hreplay]
      exact (Lib.run_append _ _ _ _).symm

theorem fetchedIn_append (k : TrackedCommand) (history later : List (ManagerCall × Exchange)) :
    fetchedIn k m (history ++ later) =
      fetchedIn k m history ++ fetchedIn k (Lib.run performCall m history) later := by
  induction history generalizing m with
  | nil => rfl
  | cons call rest ih =>
      rw [List.cons_append, fetchedIn, fetchedIn, ih, Lib.run_cons, List.append_assoc]

/-- An unsupported command is not fetched in any later history. -/
theorem fetchedIn_of_unsupported {m : S21Manager} {k : TrackedCommand}
    (h : (k.capability m).isUnsupported = true) (later : List (ManagerCall × Exchange)) :
    fetchedIn k m later = [] := by
  have hgranted := (replayed_history m k later).1
  cases hfetched : fetchedIn k m later with
  | nil => rfl
  | cons ok rest =>
      -- the first of the fetches would have been granted to an unsupported command
      rw [hfetched] at hgranted
      have hfirst : (k.capability m).isUnsupported = false := hgranted.1
      rw [h] at hfirst
      cases hfirst

/-! ### Calls that reach a capability -/

/-- A sensor call falls through to a miss of the coarse cache. -/
def FallsThrough (sensor : TrackedCommand) : Prop :=
  ((sensor.capability m).isUnsupported = true ∨ sensor.succeeds x = false) ∧
    m.coarseTemperatureAndHumidityCache.fresh m.cacheMaxAge x.now = none

/-- The call reaches the capability of the command: for the cached commands, it gets to their
cache and misses. -/
def Reaches (k : TrackedCommand) : ManagerCall → Prop
  | .getRoomTemperature => m.isReady = true ∧
      (k = .roomTemperature ∨
        (k = .coarseTemperatureAndHumidity ∧ m.FallsThrough x .roomTemperature))
  | .getOutdoorTemperature => m.isReady = true ∧
      (k = .outdoorTemperature ∨
        (k = .coarseTemperatureAndHumidity ∧ m.FallsThrough x .outdoorTemperature))
  | .getHumidity => m.isReady = true ∧
      (k = .humidity ∨ (k = .coarseTemperatureAndHumidity ∧ m.FallsThrough x .humidity))
  | .getUnitState => m.isReady = true ∧ k = .unitState
  | .getFanMode => m.isReady = true ∧ k = .fanMode ∧
      m.fanModeCache.fresh m.cacheMaxAge x.now = none
  | .getOperation => m.isReady = true ∧ k = .fanMode ∧
      (∃ op, m.startingOperation x = some op ∧ op.onOff = true ∧ op.fanMode = .auto) ∧
      m.fanModeCache.fresh m.cacheMaxAge x.later = none
  | _ => False

section Reaches

variable {m : S21Manager} {x : Exchange}

/-! ### The coarse reading -/

/-- What the coarse reading offers: the cached one while it is fresh, otherwise the answer of
F9, unless F9 is unsupported. -/
def coarseOffered (m : S21Manager) (x : Exchange) :
    Except String GetCoarseTemperatureAndHumidityResult :=
  match m.coarseTemperatureAndHumidityCache.fresh m.cacheMaxAge x.now with
  | some coarse => .ok coarse
  | none =>
      if m.coarseTemperatureAndHumidityCapability.isUnsupported then .error "unsupported"
      else x.coarseTemperatureAndHumidity

/-- The coarse reading sees the same in two managers. -/
structure SameCoarse (m m' : S21Manager) : Prop where
  capability : m'.coarseTemperatureAndHumidityCapability = m.coarseTemperatureAndHumidityCapability
  cache : m'.coarseTemperatureAndHumidityCache = m.coarseTemperatureAndHumidityCache
  age : m'.cacheMaxAge = m.cacheMaxAge

theorem SameCoarse.result {m' : S21Manager} (h : SameCoarse m m') :
    (m'.readCoarseTemperatureAndHumidity x x.now).result = m.coarseOffered x := by
  rw [readCoarseTemperatureAndHumidity, coarseOffered, h.cache, h.age, h.capability]
  cases m.coarseTemperatureAndHumidityCache.fresh m.cacheMaxAge x.now with
  | some coarse => rfl
  | none =>
      dsimp only
      unfold CommandCapability.callWithTracking
      split <;> rfl

theorem SameCoarse.calls {m' : S21Manager} (h : SameCoarse m m')
    (hmiss : m.coarseTemperatureAndHumidityCache.fresh m.cacheMaxAge x.now = none) :
    (m'.readCoarseTemperatureAndHumidity x x.now).calls =
      m.coarseTemperatureAndHumidityCapability.issued .getCoarseTemperatureAndHumidity := by
  rw [readCoarseTemperatureAndHumidity, h.cache, h.age, hmiss, h.capability]

/-- The coarse reading fails only where F9 does, or is unsupported. -/
theorem coarseOffered_eq_error {e : String} (h : m.coarseOffered x = .error e) :
    m.coarseTemperatureAndHumidityCache.fresh m.cacheMaxAge x.now = none ∧
      (m.coarseTemperatureAndHumidityCapability.isUnsupported = true ∨
        x.coarseTemperatureAndHumidity = .error e) := by
  unfold coarseOffered at h
  cases hfresh : m.coarseTemperatureAndHumidityCache.fresh m.cacheMaxAge x.now with
  | some coarse =>
      rw [hfresh] at h
      cases h
  | none =>
      rw [hfresh] at h
      dsimp only at h
      refine ⟨rfl, ?_⟩
      split at h
      · exact .inl ‹_›
      · exact .inr h

/-! ### Sensors -/

/-- What a sensor call answers: its own value where its command is fetched and succeeds,
otherwise the component of the coarse reading. -/
structure SensorLaw {α : Type} (m : S21Manager) (x : Exchange) (k : TrackedCommand)
    (answer : Except String α) (component : GetCoarseTemperatureAndHumidityResult → α)
    (o : Outcome α) : Prop where
  fetched_iff : k.request ∈ o.calls ↔ (k.capability m).isUnsupported = false
  precise : ∀ v, k.request ∈ o.calls → answer = .ok v → o.result = .ok v
  coarse : k.request ∉ o.calls ∨ answer.isOk = false →
    o.result = (m.coarseOffered x).map component
  failed : ∀ e, o.result = .error e →
    m.coarseTemperatureAndHumidityCache.fresh m.cacheMaxAge x.now = none ∧
      (m.coarseTemperatureAndHumidityCapability.isUnsupported = true ∨
        x.coarseTemperatureAndHumidity.isOk = false)

section Sensor

variable {α : Type} {capability : CommandCapability}
  {keep : S21Manager → CommandCapability → S21Manager} {answer : Except String α}
  {call : PresentationCall} {component : GetCoarseTemperatureAndHumidityResult → α}

/-- A sensor whose own command gives a value. -/
theorem getSensor_of_ok (hready : m.isReady = true) {v : α}
    (hown : (capability.callWithTracking answer).2 = .ok v) :
    (m.getSensor x capability keep answer call component).result = .ok v ∧
      (m.getSensor x capability keep answer call component).calls = capability.issued call := by
  rw [getSensor, whenReady_of_ready hready]
  unfold Outcome.orElse
  dsimp only
  rw [hown]
  exact ⟨rfl, rfl⟩

/-- A sensor whose own command gives none. -/
theorem getSensor_of_error (hready : m.isReady = true) (hkeep : ∀ c, SameCoarse m (keep m c))
    {e : String} (hown : (capability.callWithTracking answer).2 = .error e) :
    (m.getSensor x capability keep answer call component).result =
        (m.coarseOffered x).map component ∧
      (m.getSensor x capability keep answer call component).calls =
        capability.issued call ++ ((keep m (capability.callWithTracking answer).1
          ).readCoarseTemperatureAndHumidity x x.now).calls := by
  have hresult := (hkeep (capability.callWithTracking answer).1).result (x := x)
  rw [getSensor, whenReady_of_ready hready]
  unfold Outcome.orElse Outcome.andThen
  dsimp only
  rw [hown, ← hresult]
  dsimp only
  cases ((keep m (capability.callWithTracking answer).1
    ).readCoarseTemperatureAndHumidity x x.now).result with
  | error e => exact ⟨rfl, rfl⟩
  | ok coarse => exact ⟨rfl, by simp [Outcome.pure]⟩

/-- Where the own command of a sensor gives none. -/
theorem callWithTracking_eq_error
    (h : capability.isUnsupported = true ∨ answer.isOk = false) :
    ∃ e, (capability.callWithTracking answer).2 = .error e := by
  unfold CommandCapability.callWithTracking
  cases hunsupported : capability.isUnsupported with
  | true => exact ⟨_, rfl⟩
  | false =>
      rw [hunsupported] at h
      cases answer with
      | error e => exact ⟨e, rfl⟩
      | ok v => simp [Except.isOk, Except.toBool] at h

theorem callWithTracking_of_supported (h : capability.isUnsupported = false) :
    (capability.callWithTracking answer).2 = answer := by
  rw [CommandCapability.callWithTracking, h]
  rfl

/-- A sensor's own command is fetched unless it is unsupported. -/
theorem mem_getSensor_iff (k : TrackedCommand) (hk : k ≠ .coarseTemperatureAndHumidity)
    (hready : m.isReady = true) (hkeep : ∀ c, SameCoarse m (keep m c)) :
    k.request ∈ (m.getSensor x (k.capability m) keep answer k.request component).calls ↔
      (k.capability m).isUnsupported = false := by
  cases hown : ((k.capability m).callWithTracking answer).2 with
  | ok v => rw [(getSensor_of_ok hready hown).2, mem_issued_iff]
  | error e =>
      rw [(getSensor_of_error hready hkeep hown).2, List.mem_append, mem_issued_iff]
      refine or_iff_left fun hmem => hk ?_
      exact TrackedCommand.request_inj (l := .coarseTemperatureAndHumidity)
        (eq_of_mem_readCoarse hmem)

/-- A sensor whose own command gives nothing: all it can answer is the coarse reading. -/
theorem sensorLaw_of_error {k : TrackedCommand} {o : Outcome α}
    (hiff : k.request ∈ o.calls ↔ (k.capability m).isUnsupported = false)
    (hfails : (k.capability m).isUnsupported = true ∨ answer.isOk = false)
    (hresult : o.result = (m.coarseOffered x).map component) :
    SensorLaw m x k answer component o := by
  refine ⟨hiff, ?_, fun _ => hresult, ?_⟩
  · intro v hfetched hanswer
    rw [hiff.mp hfetched, hanswer] at hfails
    simp [Except.isOk, Except.toBool] at hfails
  · intro e herror
    rw [hresult] at herror
    cases hoffered : m.coarseOffered x with
    | ok coarse =>
        rw [hoffered] at herror
        cases herror
    | error e' =>
        obtain ⟨hmiss, hunsupported | hfailed⟩ := coarseOffered_eq_error hoffered
        · exact ⟨hmiss, .inl hunsupported⟩
        · rw [hfailed]
          exact ⟨hmiss, .inr rfl⟩

/-- A sensor whose own command gives a value. -/
theorem sensorLaw_of_ok {k : TrackedCommand} {o : Outcome α} {v : α}
    (hiff : k.request ∈ o.calls ↔ (k.capability m).isUnsupported = false)
    (hsupport : (k.capability m).isUnsupported = false) (hresult : o.result = .ok v) :
    SensorLaw m x k (.ok v) component o := by
  refine ⟨hiff, ?_, ?_, ?_⟩
  · intro u _ hu
    rw [hresult, hu]
  · intro hnot
    rw [hiff, hsupport] at hnot
    simp [Except.isOk, Except.toBool] at hnot
  · intro e herror
    rw [hresult] at herror
    cases herror

theorem sensorLaw_getSensor (k : TrackedCommand) (hk : k ≠ .coarseTemperatureAndHumidity)
    (hready : m.isReady = true) (hkeep : ∀ c, SameCoarse m (keep m c)) {o : Outcome α}
    (ho : o = m.getSensor x (k.capability m) keep answer k.request component) :
    SensorLaw m x k answer component o := by
  have hiff : k.request ∈ o.calls ↔ (k.capability m).isUnsupported = false := by
    rw [ho]
    exact mem_getSensor_iff k hk hready hkeep
  by_cases hfails : (k.capability m).isUnsupported = true ∨ answer.isOk = false
  · obtain ⟨e, hown⟩ := callWithTracking_eq_error hfails
    refine sensorLaw_of_error hiff hfails ?_
    rw [ho]
    exact (getSensor_of_error hready hkeep hown).1
  · rw [not_or, Bool.not_eq_true, Bool.not_eq_false] at hfails
    obtain ⟨hsupport, hok⟩ := hfails
    cases answer with
    | error e => cases hok
    | ok v =>
        refine sensorLaw_of_ok hiff hsupport ?_
        rw [ho]
        exact (getSensor_of_ok hready (callWithTracking_of_supported hsupport)).1

end Sensor

/-! ### Reaching a capability fetches -/

theorem mem_readFanMode {now : Int}
    (hmiss : m.fanModeCache.fresh m.cacheMaxAge now = none)
    (hsupport : m.fanModeCapability.isUnsupported = false) :
    .getFanMode ∈ (m.readFanMode x now).calls := by
  rw [readFanMode, hmiss]
  exact mem_issued_iff.mpr hsupport

/-- A sensor call reaches its own capability, and the coarse one where it falls through. -/
theorem mem_getSensor_of_reaches (sensor : TrackedCommand) {k : TrackedCommand}
    (hsensor : sensor ≠ .coarseTemperatureAndHumidity) {α : Type}
    {keep : S21Manager → CommandCapability → S21Manager} {answer : Except String α}
    {component : GetCoarseTemperatureAndHumidityResult → α} (hready : m.isReady = true)
    (hkeep : ∀ c, SameCoarse m (keep m c)) (hanswer : sensor.succeeds x = answer.isOk)
    (hsupport : (k.capability m).isUnsupported = false)
    (hreaches : k = sensor ∨ (k = .coarseTemperatureAndHumidity ∧ m.FallsThrough x sensor)) :
    k.request ∈
      (m.getSensor x (sensor.capability m) keep answer sensor.request component).calls := by
  obtain rfl | ⟨rfl, hfails, hmiss⟩ := hreaches
  · exact (mem_getSensor_iff k hsensor hready hkeep).mpr hsupport
  · rw [hanswer] at hfails
    obtain ⟨e, hown⟩ := callWithTracking_eq_error hfails
    rw [(getSensor_of_error hready hkeep hown).2, (hkeep _).calls hmiss]
    exact List.mem_append_right _ (mem_issued_iff.mpr hsupport)

/-- **Reaching fetches.** A call that reaches the capability of a command that is not
unsupported fetches it. -/
theorem mem_issuedBy_of_reaches {k : TrackedCommand}
    (hsupport : (k.capability m).isUnsupported = false) {call : ManagerCall}
    (hreaches : m.Reaches x k call) : k.request ∈ m.issuedBy x call := by
  cases call with
  | getRoomTemperature =>
      exact mem_getSensor_of_reaches .roomTemperature (by decide) hreaches.1
        (fun _ => ⟨rfl, rfl, rfl⟩) rfl hsupport hreaches.2
  | getOutdoorTemperature =>
      exact mem_getSensor_of_reaches .outdoorTemperature (by decide) hreaches.1
        (fun _ => ⟨rfl, rfl, rfl⟩) rfl hsupport hreaches.2
  | getHumidity =>
      exact mem_getSensor_of_reaches .humidity (by decide) hreaches.1
        (fun _ => ⟨rfl, rfl, rfl⟩) rfl hsupport hreaches.2
  | getUnitState =>
      obtain ⟨hready, rfl⟩ := hreaches
      show _ ∈ (m.getUnitState x).calls
      rw [getUnitState, whenReady_of_ready hready]
      exact mem_issued_iff.mpr hsupport
  | getFanMode =>
      obtain ⟨hready, rfl, hmiss⟩ := hreaches
      show _ ∈ (m.getFanMode x).calls
      rw [getFanMode, whenReady_of_ready hready]
      have hmem := mem_readFanMode (x := x) hmiss hsupport
      unfold Outcome.orElse
      split
      · exact hmem
      · exact List.mem_append_left _ hmem
  | getOperation =>
      obtain ⟨hready, rfl, ⟨op, hstart, hauto⟩, hmiss⟩ := hreaches
      show _ ∈ (m.getOperation x).calls
      obtain ⟨hcache, hcapability, hage⟩ := readOperation_fan m x x.now
      rw [← hcache, ← hage] at hmiss
      rw [TrackedCommand.capability, ← hcapability] at hsupport
      rw [(getOperation_crossCheck hready hstart hauto).2.2]
      exact List.mem_append_right _ (mem_readFanMode hmiss hsupport)
  | _ => exact hreaches.elim

end Reaches

/-! ### The law -/

/-- What holds of a manager whose history fetched the tracked commands with these outcomes. -/
structure TrackingLaw (m : S21Manager) (fetched : TrackedCommand → List Bool) : Prop where
  counted : ∀ k : TrackedCommand, CommandCapability.Law (k.capability m) (fetched k)
  silent : ∀ k : TrackedCommand, (k.capability m).isUnsupported = true →
    ∀ later : List (ManagerCall × Exchange), fetchedIn k m later = [] ∧
      ∀ (α : Type) (answer : Except String α),
        ((k.capability (Lib.run performCall m later)).callWithTracking answer).2 =
          .error "unsupported"
  forever : ∀ k : TrackedCommand, true ∈ fetched k →
    ∀ later : List (ManagerCall × Exchange),
      (k.capability (Lib.run performCall m later)).status = .supported ∧
        ∀ (x : Exchange) (call : ManagerCall), (Lib.run performCall m later).Reaches x k call →
          k.request ∈ (Lib.run performCall m later).issuedBy x call
  room : m.isReady = true → ∀ x : Exchange,
    SensorLaw m x .roomTemperature x.roomTemperature
      GetCoarseTemperatureAndHumidityResult.indoor (m.getRoomTemperature x)
  outdoor : m.isReady = true → ∀ x : Exchange,
    SensorLaw m x .outdoorTemperature x.outdoorTemperature
      GetCoarseTemperatureAndHumidityResult.outdoor (m.getOutdoorTemperature x)
  humidity : m.isReady = true → ∀ x : Exchange,
    SensorLaw m x .humidity x.humidity
      GetCoarseTemperatureAndHumidityResult.humidity (m.getHumidity x)
  unready : m.isReady = false → ∀ x : Exchange,
    m.getRoomTemperature x = .fail m "not ready" ∧
      m.getOutdoorTemperature x = .fail m "not ready" ∧ m.getHumidity x = .fail m "not ready"

theorem capability_new (maxAge : Int) (k : TrackedCommand) :
    k.capability (.new maxAge) = {} := by
  cases k <;> rfl

/-- After any history the capabilities follow the law of their fetches. -/
theorem law_history (maxAge : Int) (history : List (ManagerCall × Exchange))
    (k : TrackedCommand) :
    CommandCapability.Law (k.capability (Lib.run performCall (.new maxAge) history))
      (fetchedIn k (.new maxAge) history) := by
  obtain ⟨hgranted, hreplay⟩ := replayed_history (.new maxAge) k history
  rw [capability_new] at hgranted hreplay
  rw [hreplay]
  exact CommandCapability.law_of_granted hgranted

/-- **Capability tracking.** After every history of calls, with any answers: a tracked command
is unsupported exactly when its first four fetches were made and failed; from then on it is not
fetched, and four fetches it stays; once a fetch has succeeded the command is supported for
good, and every call that reaches it fetches. The three sensors answer accordingly. -/
theorem capability_tracking_law (maxAge : Int) (history : List (ManagerCall × Exchange)) :
    TrackingLaw (Lib.run performCall (.new maxAge) history)
      (fun k => fetchedIn k (.new maxAge) history) where
  counted := law_history maxAge history
  silent k hunsupported later := by
    have hnone := fetchedIn_of_unsupported hunsupported later
    refine ⟨hnone, fun α answer => ?_⟩
    have hsame := (replayed_history (Lib.run performCall (.new maxAge) history) k later).2
    rw [hnone] at hsame
    rw [hsame, CommandCapability.callWithTracking]
    exact congrArg Prod.snd (if_pos hunsupported)
  forever k hsuccess later := by
    -- the success still stands among the fetches of the longer history
    have hlaw := law_history maxAge (history ++ later) k
    rw [fetchedIn_append, Lib.run_append] at hlaw
    have hstatus := hlaw.supported (List.mem_append_left _ hsuccess)
    refine ⟨hstatus, fun x call hreaches => mem_issuedBy_of_reaches ?_ hreaches⟩
    rw [CommandCapability.isUnsupported, hstatus]
    rfl
  room hready x := sensorLaw_getSensor .roomTemperature (by decide) hready
    (fun _ => ⟨rfl, rfl, rfl⟩) rfl
  outdoor hready x := sensorLaw_getSensor .outdoorTemperature (by decide) hready
    (fun _ => ⟨rfl, rfl, rfl⟩) rfl
  humidity hready x := sensorLaw_getSensor .humidity (by decide) hready
    (fun _ => ⟨rfl, rfl, rfl⟩) rfl
  unready hready x := by
    have hfail : ∀ {α : Type} (body : Outcome α),
        (Lib.run performCall (.new maxAge) history).whenReady body =
          .fail (Lib.run performCall (.new maxAge) history) "not ready" := by
      intro α body
      rw [whenReady, hready]
      rfl
    exact ⟨hfail _, hfail _, hfail _⟩

/-- A unit that answers everything but the humidity command. -/
def withoutHumidity (now : Int) : Exchange :=
  { Exchange.answering now .quiet with humidity := .error "NAK" }

/-- Four failures of the humidity command, all answered from the coarse reading, and it is
given up; the room temperature, read once, is supported. -/
theorem humidity_given_up :
    let history : List (ManagerCall × Exchange) :=
      [(.init, withoutHumidity 0), (.getHumidity, withoutHumidity 1),
        (.getHumidity, withoutHumidity 2), (.getRoomTemperature, withoutHumidity 3),
        (.getHumidity, withoutHumidity 4), (.getHumidity, withoutHumidity 5)]
    let m := Lib.run performCall (.new 10) history
    (∀ later, fetchedIn .humidity m later = []) ∧
      (m.getHumidity (withoutHumidity 6)).result = .ok 50 ∧
      ∀ later, ((TrackedCommand.roomTemperature).capability
        (Lib.run performCall m later)).status = .supported := by
  intro history m
  have hlaw := capability_tracking_law 10 history
  refine ⟨fun later => (hlaw.silent .humidity ?_ later).1, ?_, fun later => ?_⟩
  · exact (hlaw.counted .humidity).unsupported_iff.mpr (by decide)
  · exact (hlaw.humidity rfl (withoutHumidity 6)).coarse (.inr rfl)
  · exact (hlaw.forever .roomTemperature (by decide) later).1

end S21Manager

end DaikinBridge.S21
