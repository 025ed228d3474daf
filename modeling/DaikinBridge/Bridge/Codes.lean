import DaikinBridge.Bridge.AirConditionerManager
import DaikinBridge.S21.Decoders
import DaikinBridge.Sync.ReconcilerSpec

/-!
# DaikinBridge.Bridge.Codes

Undeclared codes from the device.

The presentation layer casts the mode and fan bytes of a reply to its enumerations without
looking at them. The values go through the caches of the S21 manager and its fan cross-check
into an observation, where the mappings of the kernel take an undeclared mode for Auto and an
undeclared fan mode for the automatic fan. `codes_known_iff` says when that does not happen:
when the replies a poll asks for, and no others, carry declared bytes.
-/

namespace DaikinBridge.S21

/-- One of the enumerators of `OperatingMode`. -/
def OperatingMode.Declared (m : OperatingMode) : Prop :=
  m ∈ [autoCooling, auto, dry, cool, heat, fanOnly, autoHeating]

/-- One of the enumerators of `FanMode`. -/
def FanMode.Declared (f : FanMode) : Prop :=
  f ∈ [low, midLow, medium, midHigh, high, auto, quiet]

instance (m : OperatingMode) : Decidable m.Declared :=
  inferInstanceAs (Decidable (m ∈ [.autoCooling, .auto, .dry, .cool, .heat, .fanOnly,
    .autoHeating]))

instance (f : FanMode) : Decidable f.Declared :=
  inferInstanceAs (Decidable (f ∈ [.low, .midLow, .medium, .midHigh, .high, .auto, .quiet]))

/-- Both codes of an operation are declared. -/
def GetOperationResult.Known (op : GetOperationResult) : Prop :=
  op.mode.Declared ∧ op.fanMode.Declared

/-! ### Replies -/

/-- A G1 payload that decodes has the bytes of the result in their places. -/
theorem getOperation_eq_ok {response : Except String Bytes} {op : GetOperationResult}
    (h : (getOperation response).run = some (.ok op)) :
    ∃ b2 b3 b4 b5 rest, response = .ok (0x47 :: 0x31 :: b2 :: b3 :: b4 :: b5 :: rest) ∧
      op.mode = ⟨b3⟩ ∧ op.fanMode = ⟨b5⟩ := by
  cases response with
  | error e => cases h
  | ok r =>
      obtain ⟨hcode, hlength⟩ := (Getter.checked_getOperation r).of_ok h
      match r, hlength with
      | b0 :: b1 :: b2 :: b3 :: b4 :: b5 :: rest, _ =>
          obtain rfl : b0 = 0x47 := by
            by_contra hne
            exact hcode ⟨0, b0, 0x47, rfl, rfl, hne⟩
          obtain rfl : b1 = 0x31 := by
            by_contra hne
            exact hcode ⟨1, b1, 0x31, rfl, rfl, hne⟩
          obtain rfl := Except.ok.inj (Option.some.inj h)
          exact ⟨b2, b3, b4, b5, rest, rfl, rfl, rfl⟩

/-- An SG payload that decodes has the fan byte in its place. -/
theorem getFanMode_eq_ok {response : Except String Bytes} {f : FanMode}
    (h : (getFanMode response).run = some (.ok f)) :
    ∃ b2 rest, response = .ok (0x53 :: 0x47 :: b2 :: rest) ∧ f = ⟨b2⟩ := by
  cases response with
  | error e => cases h
  | ok r =>
      obtain ⟨hcode, hlength⟩ := (Getter.checked_getFanMode r).of_ok h
      match r, hlength with
      | b0 :: b1 :: b2 :: rest, _ =>
          obtain rfl : b0 = 0x53 := by
            by_contra hne
            exact hcode ⟨0, b0, 0x53, rfl, rfl, hne⟩
          obtain rfl : b1 = 0x47 := by
            by_contra hne
            exact hcode ⟨1, b1, 0x47, rfl, rfl, hne⟩
          obtain rfl := Except.ok.inj (Option.some.inj h)
          exact ⟨b2, rest, rfl, rfl⟩

/-! ### Known codes in the manager -/

namespace S21Manager

variable {m : S21Manager} {x : Exchange}

/-- Whatever the two caches hold, fresh or not, is declared. -/
structure KnownCaches (m : S21Manager) : Prop where
  operation : ∀ op, m.operationCache.value = some op → op.Known
  fan : ∀ f, m.fanModeCache.value = some f → f.Declared

/-- The call issues F1: the manager is ready, and its operation cache has expired. -/
def AsksOperation (m : S21Manager) (x : Exchange) : Prop :=
  m.isReady = true ∧ m.operationCache.fresh m.cacheMaxAge x.now = none

/-- The call issues RG: the unit runs with the automatic fan, the fan-mode cache has expired,
and RG is not known to be unsupported. -/
def AsksFanMode (m : S21Manager) (x : Exchange) : Prop :=
  m.isReady = true ∧
    (∃ op, m.startingOperation x = some op ∧ op.onOff = true ∧ op.fanMode = .auto) ∧
    m.fanModeCache.fresh m.cacheMaxAge x.later = none ∧ m.fanModeCapability.isUnsupported = false

/-- Reading the fan mode gives a declared one, if RG does where it is asked. -/
theorem readFanMode_known_iff (now : Int)
    (hfan : ∀ f, m.fanModeCache.value = some f → f.Declared) :
    (∀ f, (m.readFanMode x now).result = .ok f → f.Declared) ↔
      (m.fanModeCache.fresh m.cacheMaxAge now = none →
        m.fanModeCapability.isUnsupported = false → ∀ f, x.fanMode = .ok f → f.Declared) := by
  unfold readFanMode
  cases hfresh : m.fanModeCache.fresh m.cacheMaxAge now with
  | some cached =>
      refine iff_of_true (fun f hf => ?_) (fun h => absurd h (Option.some_ne_none _))
      obtain rfl : cached = f := Except.ok.inj hf
      exact hfan cached (ReadThroughCache.value_of_fresh hfresh)
  | none =>
      unfold CommandCapability.callWithTracking
      cases hsupport : m.fanModeCapability.isUnsupported with
      | true =>
          refine iff_of_true (fun f hf => ?_) (fun _ h => absurd h (by simp))
          cases hf
      | false => exact ⟨fun h _ _ => h, fun h => h rfl rfl⟩

theorem readFanMode_keepsKnown {now : Int} (h : KnownCaches m)
    (hread : ∀ f, (m.readFanMode x now).result = .ok f → f.Declared) :
    KnownCaches (m.readFanMode x now).manager := by
  unfold readFanMode at hread ⊢
  cases hfresh : m.fanModeCache.fresh m.cacheMaxAge now with
  | some cached => exact h
  | none =>
      rw [hfresh] at hread
      refine ⟨h.operation, fun f hf => ?_⟩
      rcases ReadThroughCache.value_store hf with hnew | hold
      · exact hread f hnew
      · exact h.fan f hold

theorem readOperation_keepsKnown (h : KnownCaches m)
    (hread : ∀ op, m.startingOperation x = some op → op.Known) :
    KnownCaches (m.readOperation x x.now).manager := by
  unfold readOperation
  cases hfresh : m.operationCache.fresh m.cacheMaxAge x.now with
  | some cached => exact h
  | none =>
      refine ⟨fun op hop => ?_, h.fan⟩
      rcases ReadThroughCache.value_store hop with hnew | hold
      · refine hread op ?_
        rw [startingOperation, hfresh]
        dsimp only
        rw [hnew]
        rfl
      · exact h.operation op hold

/-- The known operations are those where the reply, if it is asked for, is known. -/
theorem startingOperation_known_iff (h : KnownCaches m) (hready : m.isReady = true) :
    (∀ op, m.startingOperation x = some op → op.Known) ↔
      (AsksOperation m x → ∀ op, x.operation = .ok op → op.Known) := by
  unfold startingOperation AsksOperation
  cases hfresh : m.operationCache.fresh m.cacheMaxAge x.now with
  | some cached =>
      refine iff_of_true (fun op hop => ?_) (fun hasks => absurd hasks.2 (by simp))
      obtain rfl : cached = op := Option.some.inj hop
      exact h.operation cached (ReadThroughCache.value_of_fresh hfresh)
  | none => cases x.operation <;> simp [Except.toOption, hready]

/-- The replies a call asks for carry declared codes. -/
structure AsksForKnown (m : S21Manager) (x : Exchange) : Prop where
  operation : AsksOperation m x → ∀ op, x.operation = .ok op → op.Known
  fan : AsksFanMode m x → ∀ f, x.fanMode = .ok f → f.Declared

/-- From an operation on, the call gives declared codes if that has them, and so has RG where
it is asked for. -/
theorem getOperation_known_iff_of_start (h : KnownCaches m) (hready : m.isReady = true)
    {op : GetOperationResult} (hop : m.startingOperation x = some op) :
    (∀ op, (m.getOperation x).result = .ok op → op.Known) ↔ AsksForKnown m x := by
  have hknown : op.Known ↔ (AsksOperation m x → ∀ op, x.operation = .ok op → op.Known) := by
    rw [← startingOperation_known_iff h hready, hop]
    simp
  obtain ⟨hcache, hcapability, hage⟩ := readOperation_fan m x x.now
  by_cases hauto : op.onOff = true ∧ op.fanMode = .auto
  · have hasks : AsksFanMode m x ↔ m.fanModeCache.fresh m.cacheMaxAge x.later = none ∧
        m.fanModeCapability.isUnsupported = false :=
      ⟨fun ha => ha.2.2, fun ha => ⟨hready, ⟨op, hop, hauto⟩, ha⟩⟩
    have hfan := readFanMode_known_iff (m := (m.readOperation x x.now).manager) (x := x) x.later
      (by rw [hcache]; exact h.fan)
    rw [hcache, hcapability, hage] at hfan
    have hsplit : AsksForKnown m x ↔ op.Known ∧ ∀ f,
        ((m.readOperation x x.now).manager.readFanMode x x.later).result = .ok f →
          f.Declared := by
      rw [hknown, hfan]
      exact ⟨fun hs => ⟨hs.operation, fun h1 h2 => hs.fan (hasks.mpr ⟨h1, h2⟩)⟩,
        fun hs => ⟨hs.1, fun ha => hs.2 (hasks.mp ha).1 (hasks.mp ha).2⟩⟩
    rw [hsplit, (getOperation_crossCheck hready hop hauto).1]
    have hdeclared : op.fanMode.Declared := by
      rw [hauto.2]
      decide
    cases ((m.readOperation x x.now).manager.readFanMode x x.later).result with
    | ok f => simp [GetOperationResult.Known, hdeclared]
    | error e => simp
  · have hsplit : AsksForKnown m x ↔ op.Known := by
      rw [hknown]
      refine ⟨AsksForKnown.operation, fun hs => ⟨hs, ?_⟩⟩
      rintro ⟨-, ⟨op', hop', hauto'⟩, -⟩
      obtain rfl : op = op' := Option.some.inj (hop.symm.trans hop')
      exact absurd hauto' hauto
    rw [hsplit, (getOperation_unchecked hready hop hauto).1]
    simp

/-- On caches with declared codes, `getOperation` answers with declared codes exactly when
the replies it asks for carry them. -/
theorem getOperation_known_iff (h : KnownCaches m) :
    (∀ op, (m.getOperation x).result = .ok op → op.Known) ↔ AsksForKnown m x := by
  cases hready : m.isReady with
  | false =>
      rw [getOperation_not_ready hready]
      refine iff_of_true (fun op hop => ?_) ⟨fun hasks => ?_, fun hasks => ?_⟩
      · cases hop
      · exact absurd hasks.1 (by simp [hready])
      · exact absurd hasks.1 (by simp [hready])
  | true =>
      cases hop : m.startingOperation x with
      | none =>
          refine iff_of_true (fun op heq => ?_) ⟨?_, ?_⟩
          · exact absurd heq ((getOperation_no_start hready hop).1 op)
          · exact (startingOperation_known_iff h hready).mp (by simp [hop])
          · rintro ⟨-, ⟨op, heq, -⟩, -⟩
            rw [hop] at heq
            cases heq
      | some op => exact getOperation_known_iff_of_start h hready hop

/-- Such a call leaves caches with declared codes. -/
theorem getOperation_keepsKnown (h : KnownCaches m) (hx : AsksForKnown m x) :
    KnownCaches (m.getOperation x).manager := by
  cases hready : m.isReady with
  | false =>
      rw [getOperation_not_ready hready]
      exact h
  | true =>
      have hread := readOperation_keepsKnown h
        ((startingOperation_known_iff h hready).mpr hx.operation)
      cases hop : m.startingOperation x with
      | none =>
          rw [(getOperation_no_start hready hop).2]
          exact hread
      | some op =>
          by_cases hauto : op.onOff = true ∧ op.fanMode = .auto
          · obtain ⟨hresult, hmanager, -⟩ := getOperation_crossCheck hready hop hauto
            rw [hmanager]
            refine readFanMode_keepsKnown hread fun f hf => ?_
            rw [hf] at hresult
            exact ((getOperation_known_iff h).mpr hx _ hresult).2
          · rw [(getOperation_unchecked hready hop hauto).2]
            exact hread

end S21Manager

end DaikinBridge.S21

namespace DaikinBridge.Bridge

open S21 Sync S21.S21Manager

/-! ### Replies and observations -/

/-- The payloads that answer F1 and RG during a poll, or the error of the link. -/
structure PollReplies where
  g1 : Except String Bytes
  sg : Except String Bytes

/-- The answers of the presentation layer are decoded from the payloads. -/
structure PollReplies.Answer (w : PollReplies) (x : Exchange) : Prop where
  operation : (getOperation w.g1).run = some x.operation
  fanMode : (S21.getFanMode w.sg).run = some x.fanMode

/-- Where G1 is asked for, its mode and fan bytes are declared; where SG is, its fan byte is. -/
structure PollReplies.Declare (w : PollReplies) (m : S21Manager) (x : Exchange) : Prop where
  operation : AsksOperation m x → ∀ b2 b3 b4 b5 rest,
    w.g1 = .ok (0x47 :: 0x31 :: b2 :: b3 :: b4 :: b5 :: rest) →
      OperatingMode.Declared ⟨b3⟩ ∧ FanMode.Declared ⟨b5⟩
  fan : AsksFanMode m x → ∀ b2 rest, w.sg = .ok (0x53 :: 0x47 :: b2 :: rest) →
    FanMode.Declared ⟨b2⟩

theorem PollReplies.Answer.declare_iff {w : PollReplies} {m : S21Manager} {x : Exchange}
    (h : w.Answer x) : w.Declare m x ↔ AsksForKnown m x := by
  constructor
  · intro hdeclare
    refine ⟨fun hasks op hop => ?_, fun hasks f hf => ?_⟩
    · obtain ⟨b2, b3, b4, b5, rest, hreply, hmode, hfan⟩ :=
        getOperation_eq_ok (h.operation.trans (congrArg some hop))
      rw [GetOperationResult.Known, hmode, hfan]
      exact hdeclare.operation hasks b2 b3 b4 b5 rest hreply
    · obtain ⟨b2, rest, hreply, rfl⟩ := getFanMode_eq_ok (h.fanMode.trans (congrArg some hf))
      exact hdeclare.fan hasks b2 rest hreply
  · intro hknown
    refine ⟨fun hasks b2 b3 b4 b5 rest hreply => ?_, fun hasks b2 rest hreply => ?_⟩
    · have hanswer := h.operation
      rw [hreply] at hanswer
      exact hknown.operation hasks _ (Option.some.inj hanswer).symm
    · have hanswer := h.fanMode
      rw [hreply] at hanswer
      exact hknown.fan hasks _ (Option.some.inj hanswer).symm

/-- The codes of an observation are declared. Nothing is taken for Auto that is not: the mode
is one of the three spellings of Auto where the kernel records Auto, and the fan mode is the
automatic one where the kernel records the automatic fan. -/
structure KnownCodes (obs : S21OperationalObservation) : Prop where
  operatingMode : obs.operatingMode.Declared
  fanMode : obs.fanMode.Declared
  auto : s21OperatingModeToOperationalMode obs.operatingMode = .auto →
    obs.operatingMode ∈ [.autoCooling, .auto, .autoHeating]
  automaticFan : s21FanModeToSpeedSetting obs.fanMode = none → obs.fanMode = .auto

/-- The last two follow from the first two: only undeclared codes fall through. -/
theorem knownCodes_iff {obs : S21OperationalObservation} :
    KnownCodes obs ↔ obs.operatingMode.Declared ∧ obs.fanMode.Declared := by
  refine ⟨fun h => ⟨h.operatingMode, h.fanMode⟩, fun h => ⟨h.1, h.2, ?_, ?_⟩⟩
  · obtain ⟨hmode, -⟩ := h
    simp only [OperatingMode.Declared, List.mem_cons, List.not_mem_nil, or_false] at hmode
    rcases hmode with h | h | h | h | h | h | h <;> rw [h] <;> decide
  · obtain ⟨-, hfan⟩ := h
    simp only [FanMode.Declared, List.mem_cons, List.not_mem_nil, or_false] at hfan
    rcases hfan with h | h | h | h | h | h | h <;> rw [h] <;> decide

namespace AirConditionerManager

/-- The S21 manager has the same codes in its caches, and would ask for the same ones. -/
structure SameCodes (m m' : S21Manager) : Prop extends SameOperation m m' where
  fanModeCache : m'.fanModeCache = m.fanModeCache
  fanModeCapability : m'.fanModeCapability = m.fanModeCapability

theorem SameCodes.trans {m m' m'' : S21Manager} (h : SameCodes m m') (h' : SameCodes m' m'') :
    SameCodes m m'' :=
  ⟨h.toSameOperation.trans h'.toSameOperation, h'.fanModeCache.trans h.fanModeCache,
    h'.fanModeCapability.trans h.fanModeCapability⟩

theorem SameCodes.knownCaches {m m' : S21Manager} (h : SameCodes m m') (hm : KnownCaches m) :
    KnownCaches m' := by
  refine ⟨?_, ?_⟩
  · rw [h.operationCache]
    exact hm.operation
  · rw [h.fanModeCache]
    exact hm.fan

theorem SameCodes.asksForKnown_iff {m m' : S21Manager} (h : SameCodes m m') {x : Exchange} :
    AsksForKnown m' x ↔ AsksForKnown m x := by
  have hoperation : AsksOperation m' x ↔ AsksOperation m x := by
    rw [AsksOperation, h.isReady, h.cacheMaxAge, h.operationCache, AsksOperation]
  have hfan : AsksFanMode m' x ↔ AsksFanMode m x := by
    rw [AsksFanMode, startingOperation, h.isReady, h.cacheMaxAge, h.operationCache,
      h.fanModeCache, h.fanModeCapability, AsksFanMode, startingOperation]
  exact ⟨fun hm => ⟨fun ha => hm.operation (hoperation.mpr ha), fun ha => hm.fan (hfan.mpr ha)⟩,
    fun hm => ⟨fun ha => hm.operation (hoperation.mp ha), fun ha => hm.fan (hfan.mp ha)⟩⟩

/-- Sensor calls touch neither the operation nor the fan mode. -/
theorem sameCodes_getSensor (m : S21Manager) {x : Exchange} {α : Type}
    {capability : CommandCapability} {keep : S21Manager → CommandCapability → S21Manager}
    {answer : Except String α} {call : PresentationCall}
    {component : GetCoarseTemperatureAndHumidityResult → α}
    (hkeep : ∀ c, SameCodes m (keep m c)) :
    SameCodes m (m.getSensor x capability keep answer call component).manager :=
  S21Manager.getSensor_keeps (P := SameCodes m) ⟨⟨rfl, rfl, rfl⟩, rfl, rfl⟩ hkeep
    fun _ _ _ h => ⟨⟨h.isReady, h.cacheMaxAge, h.operationCache⟩, h.fanModeCache,
      h.fanModeCapability⟩

theorem sameCodes_environmental (a : AirConditionerManager) (p : PollExchange) :
    SameCodes a.s21Manager (a.pollEnvironmentalPhase p).after.s21Manager := by
  unfold pollEnvironmentalPhase
  split
  · exact ((sameCodes_getSensor _ fun _ => ⟨⟨rfl, rfl, rfl⟩, rfl, rfl⟩).trans
      (sameCodes_getSensor _ fun _ => ⟨⟨rfl, rfl, rfl⟩, rfl, rfl⟩)).trans
      (sameCodes_getSensor _ fun _ => ⟨⟨rfl, rfl, rfl⟩, rfl, rfl⟩)
  · exact ⟨⟨rfl, rfl, rfl⟩, rfl, rfl⟩

/-- The query of the valve leaves the caches. -/
theorem queryValve_keepsKnown {m : S21Manager} (h : KnownCaches m) (x : Exchange) (onOff : Bool) :
    KnownCaches (queryValve m x onOff).1 := by
  have hunit : KnownCaches (m.getUnitState x).manager := by
    unfold S21Manager.getUnitState whenReady
    split
    · exact ⟨h.operation, h.fan⟩
    · exact h
  unfold queryValve
  split
  · dsimp only
    split
    · exact hunit
    · exact hunit
  · exact h

/-! ### Polls -/

section Poll

variable {a : AirConditionerManager} {p : PollExchange}

/-- **One poll.** On caches with declared codes, a poll passes on declared codes exactly when
the replies it asks for carry them. -/
theorem poll_known_iff (h : KnownCaches a.s21Manager) :
    (∀ obs, (a.poll p).observation = some obs → KnownCodes obs) ↔
      AsksForKnown a.s21Manager p.operation := by
  have hsame := sameCodes_environmental a p
  rw [← hsame.asksForKnown_iff, ← getOperation_known_iff (hsame.knownCaches h)]
  constructor
  · intro hpoll op hop
    exact knownCodes_iff.mp (hpoll _ ((observation_operational_iff _ p).mpr ⟨op, hop, rfl⟩))
  · intro hresult obs hobs
    obtain ⟨op, hop, rfl⟩ := (observation_operational_iff _ p).mp hobs
    exact knownCodes_iff.mpr (hresult op hop)

theorem poll_keepsKnown (h : KnownCaches a.s21Manager)
    (hp : AsksForKnown a.s21Manager p.operation) : KnownCaches (a.poll p).after.s21Manager := by
  have hsame := sameCodes_environmental a p
  have hoperation := getOperation_keepsKnown (hsame.knownCaches h)
    (hsame.asksForKnown_iff.mpr hp)
  unfold poll pollOperationalPhase
  dsimp only
  split
  · exact hoperation
  · exact queryValve_keepsKnown hoperation _ _

end Poll

/-! ### Runs of the work queue -/

/-- A command carries declared codes. -/
theorem desiredCommand_known (s : LogicalACState) :
    (Reconciler.desiredCommand s).operatingMode.Declared ∧
      (Reconciler.desiredCommand s).fanMode.Declared := by
  constructor
  · show (operationalModeToS21OperatingMode s.mode.desired).Declared
    cases s.mode.desired <;> decide
  · show (fanSpeedToS21FanMode s.fan.desired).Declared
    rcases s.fan.desired with _ | level
    · decide
    · cases level <;> decide

/-- A sent command is stored in the operation cache, with declared codes. -/
theorem commandWork_keepsKnown {a : AirConditionerManager} (h : KnownCaches a.s21Manager)
    (x : Exchange) (meanwhile : List (Int × WriteIntent)) :
    KnownCaches (a.commandWork x meanwhile).s21Manager := by
  unfold commandWork
  cases hpending : a.kernel.pendingCommand with
  | none => exact h
  | some c =>
      have hc : c.operatingMode.Declared ∧ c.fanMode.Declared := by
        obtain ⟨-, rfl, -⟩ := Reconciler.pendingCommand_eq_some_iff.mp hpending
        exact desiredCommand_known _
      dsimp only
      unfold S21Manager.setOperation writeOperation whenReady
      split
      · dsimp only
        split
        · refine ⟨fun op hop => ?_, h.fan⟩
          obtain rfl := Option.some.inj hop
          exact hc
        · exact h
      · exact h

/-- The work queue over its items and the payloads that answer their polls. -/
def workOn (a : AirConditionerManager) (item : WorkItem × PollReplies) : AirConditionerManager :=
  a.work item.1

/-- The answers that a poll meets are decoded from its payloads. -/
def AnsweredBy : WorkItem × PollReplies → Prop
  | (.poll p, w) => w.Answer p.operation
  | _ => True

/-- The observation of a poll, if it passes one on, has known codes. -/
def ObservationKnown (a : AirConditionerManager) : WorkItem × PollReplies → Prop
  | (.poll p, _) => ∀ obs, (a.poll p).observation = some obs → KnownCodes obs
  | _ => True

/-- The payloads that a poll asks for carry declared bytes. -/
def RepliesDeclared (a : AirConditionerManager) : WorkItem × PollReplies → Prop
  | (.poll p, w) => w.Declare a.s21Manager p.operation
  | _ => True

theorem observationKnown_iff {a : AirConditionerManager} {item : WorkItem × PollReplies}
    (h : KnownCaches a.s21Manager) (hitem : AnsweredBy item) :
    ObservationKnown a item ↔ RepliesDeclared a item := by
  obtain ⟨item, w⟩ := item
  cases item with
  | poll p => exact (poll_known_iff h).trans (PollReplies.Answer.declare_iff hitem).symm
  | _ => exact Iff.rfl

theorem workOn_keepsKnown {a : AirConditionerManager} {item : WorkItem × PollReplies}
    (h : KnownCaches a.s21Manager) (hitem : AnsweredBy item) (hC : ObservationKnown a item) :
    KnownCaches (workOn a item).s21Manager := by
  obtain ⟨item, w⟩ := item
  cases item with
  | initRetry x =>
      show KnownCaches (a.s21Manager.init x).1
      unfold init
      split
      · exact h
      · split
        · exact h
        · split
          · exact ⟨h.operation, h.fan⟩
          · exact ⟨h.operation, h.fan⟩
  | poll p => exact poll_keepsKnown h ((poll_known_iff h).mp hC)
  | command x meanwhile => exact commandWork_keepsKnown h x meanwhile
  | intent now i => exact h

/-- **Known codes.** Along every run of the work queue from boot, with any maximal cache age
and configuration of the kernel, and whatever payloads answer its polls, every operational
observation carries declared mode and fan codes if and only if every poll that asks for G1
gets declared mode and fan bytes, and every poll that asks for SG a declared fan byte. -/
theorem codes_known_iff (maxAge : Int) (config : ReconcilerConfig)
    (items : List (WorkItem × PollReplies)) (hitems : ∀ item ∈ items, AnsweredBy item) :
    Lib.Along workOn ObservationKnown (bootedWith maxAge config) items ↔
      Lib.Along workOn RepliesDeclared (bootedWith maxAge config) items := by
  have hbooted : KnownCaches (bootedWith maxAge config).s21Manager := by
    refine ⟨fun op hop => ?_, fun f hf => ?_⟩
    · cases hop
    · cases hf
  exact Lib.along_congr_of_invariant
    (I := fun a : AirConditionerManager => KnownCaches a.s21Manager) (P := AnsweredBy)
    (fun _ _ h hitem => observationKnown_iff h hitem)
    (fun _ _ h hitem hC => workOn_keepsKnown h hitem hC) hbooted hitems

/-- A poll of a running unit whose G1 reply has the mode byte `mode` and a high fan. -/
def pollWithMode (now : Int) (mode : UInt8) : WorkItem × PollReplies :=
  (.poll { coolingPoll now with
      operation := { Exchange.answering now .high with
        operation := .ok ⟨true, ⟨mode⟩, 2400, .high⟩ } },
    { g1 := .ok [0x47, 0x31, 0x31, mode, 0x4C, 0x37]
      sg := .ok [0x53, 0x47, 0x37] })

/-- The exchange of such a poll answers with what its payloads decode to. -/
theorem answeredBy_pollWithMode (now : Int) (mode : UInt8) :
    AnsweredBy (pollWithMode now mode) :=
  ⟨rfl, rfl⟩

/-- The init sequence, and then such a poll. -/
def startUp (mode : UInt8) : List (WorkItem × PollReplies) :=
  [(.initRetry (.answering 0 .high), ⟨.error "", .error ""⟩), pollWithMode 1000 mode]

theorem answeredBy_startUp (mode : UInt8) : ∀ item ∈ startUp mode, AnsweredBy item := by
  intro item hitem
  rcases List.mem_cons.mp hitem with rfl | hpoll
  · trivial
  · obtain rfl := List.mem_singleton.mp hpoll
    exact answeredBy_pollWithMode 1000 mode

/-- A unit that reports Cool is observed with known codes. -/
theorem cool_mode_known : Lib.Along workOn ObservationKnown booted (startUp 0x33) := by
  refine (codes_known_iff 10000 {} _ (answeredBy_startUp 0x33)).mpr ⟨trivial, ⟨?_, ?_⟩, trivial⟩
  · rintro - b2 b3 b4 b5 rest hreply
    obtain ⟨-, rfl, -, rfl, -⟩ :
        b2 = 0x31 ∧ b3 = 0x33 ∧ b4 = 0x4C ∧ b5 = 0x37 ∧ rest = [] := by
      simpa [pollWithMode, eq_comm] using hreply
    decide
  · rintro - b2 rest hreply
    obtain ⟨rfl, rfl⟩ : b2 = 0x37 ∧ rest = [] := by
      simpa [pollWithMode, eq_comm] using hreply
    decide

/-- A mode byte that no enumerator has is taken for Auto. -/
theorem undeclared_mode_observed :
    ¬ ∀ items : List (WorkItem × PollReplies), (∀ item ∈ items, AnsweredBy item) →
      Lib.Along workOn ObservationKnown booted items := by
  intro hclaim
  obtain ⟨-, hpoll, -⟩ := hclaim (startUp 0x35) (answeredBy_startUp 0x35)
  have hknown := hpoll ⟨true, ⟨0x35⟩, 2400, .high, some true⟩ (by decide +kernel)
  exact absurd (hknown.auto (by decide)) (by decide)

end AirConditionerManager

end DaikinBridge.Bridge
