import DaikinBridge.S21.Manager

/-!
# DaikinBridge.S21.Setters

The setters of a single field.

`setOnOff`, `setSetpoint` and `setFanMode` take the other fields of the command from the
operation cache. `getOperation` reads the same cache, but corrects the fan mode of a running
unit that reports Auto with RG, because F1 reports Auto for Quiet; the setters do not.
`single_field_setters_iff` says that this is where they change a field they were not asked to:
a setter writes the Auto of F1 over the fan mode that a read at the same instant would give.
-/

namespace DaikinBridge.S21

/-- The operations a call writes, in order. -/
def Outcome.sets {α : Type} (o : Outcome α) : List GetOperationResult :=
  o.calls.filterMap fun
    | .setOperation onOff mode setPoint fanMode => some ⟨onOff, mode, setPoint, fanMode⟩
    | _ => none

namespace S21Manager

variable {m : S21Manager} {x : Exchange}

/-- The fan mode a cross-check gets: the cached one while it is fresh, and otherwise the answer
of RG, unless RG is known to be unsupported. -/
def offeredFanMode (m : S21Manager) (x : Exchange) : Option FanMode :=
  match m.fanModeCache.fresh m.cacheMaxAge x.later with
  | some fanMode => some fanMode
  | none => if m.fanModeCapability.isUnsupported then none else x.fanMode.toOption

theorem readFanMode_toOption :
    ((m.readOperation x x.now).manager.readFanMode x x.later).result.toOption =
      m.offeredFanMode x := by
  obtain ⟨hcache, hcapability, hage⟩ := readOperation_fan m x x.now
  unfold readFanMode offeredFanMode CommandCapability.callWithTracking
  rw [hcache, hcapability, hage]
  cases m.fanModeCache.fresh m.cacheMaxAge x.later with
  | some fanMode => rfl
  | none => cases m.fanModeCapability.isUnsupported <;> rfl

/-- An operation as `getOperation` returns it: with the offered fan mode in the place of Auto
if the unit runs. -/
def crossChecked (m : S21Manager) (x : Exchange) (op : GetOperationResult) : GetOperationResult :=
  if op.onOff = true ∧ op.fanMode = .auto then
    { op with fanMode := (m.offeredFanMode x).getD op.fanMode }
  else op

theorem getOperation_eq_ok_iff (hready : m.isReady = true) {ret : GetOperationResult} :
    (m.getOperation x).result = .ok ret ↔
      ∃ op, m.startingOperation x = some op ∧ ret = m.crossChecked x op := by
  cases hstart : m.startingOperation x with
  | none =>
      constructor
      · intro h
        exact absurd h ((getOperation_no_start hready hstart).1 ret)
      · intro h
        obtain ⟨op, hop, -⟩ := h
        cases hop
  | some op =>
      have hresult : (m.getOperation x).result = .ok (m.crossChecked x op) := by
        unfold crossChecked
        by_cases hauto : op.onOff = true ∧ op.fanMode = .auto
        · rw [(getOperation_crossCheck hready hstart hauto).1, if_pos hauto,
            ← readFanMode_toOption]
          cases ((m.readOperation x x.now).manager.readFanMode x x.later).result <;> rfl
        · rw [(getOperation_unchecked hready hstart hauto).1, if_neg hauto]
      rw [hresult]
      constructor
      · intro h
        exact ⟨op, rfl, (Except.ok.inj h).symm⟩
      · intro h
        obtain ⟨op', hop, rfl⟩ := h
        rw [Option.some.inj hop]

/-- The cross-check leaves everything but the fan mode. -/
theorem crossChecked_with (op : GetOperationResult) (fanMode : FanMode) :
    { m.crossChecked x op with fanMode } = { op with fanMode } := by
  unfold crossChecked
  split <;> rfl

theorem readOperation_isReady (m : S21Manager) (x : Exchange) (now : Int) :
    (m.readOperation x now).manager.isReady = m.isReady := by
  unfold readOperation
  split <;> rfl

/-- Reading the operation writes none. -/
theorem sets_readOperation (m : S21Manager) (x : Exchange) (now : Int) :
    (m.readOperation x now).sets = [] := by
  unfold readOperation Outcome.sets
  split <;> rfl

/-- A setter writes the starting operation with the change made, or, if there is none, fails
and writes nothing. -/
theorem sets_setComponent (hready : m.isReady = true)
    (change : GetOperationResult → GetOperationResult) :
    (∀ op, m.startingOperation x = some op → (m.setComponent x change).sets = [change op]) ∧
      (m.startingOperation x = none →
        (m.setComponent x change).result.isOk = false ∧ (m.setComponent x change).sets = []) := by
  have hread := sets_readOperation m x x.now
  have hready' := (readOperation_isReady m x x.now).trans hready
  rw [setComponent, whenReady_of_ready hready]
  unfold Outcome.andThen
  constructor
  · intro op hstart
    rw [readOperation_eq_ok_iff.mpr hstart]
    simp only [writeOperation, whenReady_of_ready hready', Outcome.sets, List.filterMap_append]
    rw [show (m.readOperation x x.now).calls.filterMap _ = [] from hread]
    rfl
  · intro hstart
    cases hresult : (m.readOperation x x.now).result with
    | ok op =>
        rw [readOperation_eq_ok_iff.mp hresult] at hstart
        cases hstart
    | error e => exact ⟨rfl, hread⟩

/-- Each setter writes `ret` with its own field changed. -/
structure ChangesOwnField (m : S21Manager) (x : Exchange) (ret : GetOperationResult) : Prop where
  onOff : ∀ onOff, (m.setOnOff x onOff).sets = [{ ret with onOff }]
  setPoint : ∀ setPoint, (m.setSetpoint x setPoint).sets = [{ ret with setPoint }]
  fanMode : ∀ fanMode, (m.setFanMode x fanMode).sets = [{ ret with fanMode }]

/-- The setter fails and writes nothing. -/
def WritesNothing (o : Outcome Unit) : Prop := o.result.isOk = false ∧ o.sets = []

/-- The cross-check corrects the fan mode: the unit runs, F1 says Auto, and another fan mode is
offered. -/
def FanCorrected (m : S21Manager) (x : Exchange) : Prop :=
  ∃ op, m.startingOperation x = some op ∧ op.onOff = true ∧ op.fanMode = .auto ∧
    ∃ fanMode, m.offeredFanMode x = some fanMode ∧ fanMode ≠ .auto

theorem crossChecked_of_kept {op : GetOperationResult} (hstart : m.startingOperation x = some op)
    (hkept : ¬ FanCorrected m x) : m.crossChecked x op = op := by
  unfold crossChecked
  split
  · rename_i hauto
    cases hoffered : m.offeredFanMode x with
    | none => rfl
    | some fanMode =>
        have hsame : fanMode = .auto := by
          by_contra hne
          exact hkept ⟨op, hstart, hauto.1, hauto.2, fanMode, hoffered, hne⟩
        rw [Option.getD_some, hsame, ← hauto.2]
  · rfl

/-- **Setters of a single field.** Take any ready manager and any exchange. Where
`getOperation` would return an operation, the three setters write that operation with their
own field changed if and only if the cross-check would not have corrected the fan mode; and
`setFanMode` always does. Where F1 is asked for and fails, all three fail and write nothing. -/
theorem single_field_setters_iff (m : S21Manager) (hready : m.isReady = true) (x : Exchange) :
    (∀ ret, (m.getOperation x).result = .ok ret →
      (ChangesOwnField m x ret ↔ ¬ FanCorrected m x) ∧
        ∀ fanMode, (m.setFanMode x fanMode).sets = [{ ret with fanMode }]) ∧
    (m.operationCache.fresh m.cacheMaxAge x.now = none → x.operation.isOk = false →
      (∀ onOff, WritesNothing (m.setOnOff x onOff)) ∧
        (∀ setPoint, WritesNothing (m.setSetpoint x setPoint)) ∧
        ∀ fanMode, WritesNothing (m.setFanMode x fanMode)) := by
  constructor
  · intro ret hret
    obtain ⟨op, hstart, rfl⟩ := (getOperation_eq_ok_iff hready).mp hret
    have hsets := fun change => (sets_setComponent (m := m) (x := x) hready change).1 op hstart
    have hfan : ∀ fanMode, (m.setFanMode x fanMode).sets =
        [{ m.crossChecked x op with fanMode }] := by
      intro fanMode
      rw [setFanMode, hsets, crossChecked_with]
    refine ⟨⟨?_, ?_⟩, hfan⟩
    · intro h hcorrected
      obtain ⟨op', hop', hon, hauto, fanMode, hoffered, hne⟩ := hcorrected
      obtain rfl : op = op' := Option.some.inj (hstart.symm.trans hop')
      have hset := h.setPoint op.setPoint
      rw [setSetpoint, hsets, crossChecked, if_pos ⟨hon, hauto⟩, hoffered, List.cons.injEq,
        GetOperationResult.mk.injEq] at hset
      exact hne (hset.1.2.2.2.symm.trans hauto)
    · intro hkept
      rw [crossChecked_of_kept hstart hkept] at hfan ⊢
      exact ⟨fun _ => hsets _, fun _ => hsets _, hfan⟩
  · intro hexpired hfails
    have hstart : m.startingOperation x = none := by
      rw [startingOperation, hexpired]
      cases hop : x.operation with
      | ok op =>
          rw [hop] at hfails
          cases hfails
      | error e => rfl
    have hnothing := fun change => (sets_setComponent (m := m) (x := x) hready change).2 hstart
    exact ⟨fun _ => hnothing _, fun _ => hnothing _, fun _ => hnothing _⟩

/-- A manager with a maximal cache age of 10 s, after its init sequence and a read of the
operation of a running unit with the automatic fan. -/
def autoFanRead : S21Manager :=
  (((S21Manager.new 10000).init (.answering 0 .auto)).1.getOnOff (.answering 100 .auto)).manager

theorem autoFan_kept :
    ChangesOwnField autoFanRead (.answering 200 .auto) ⟨true, .cool, 2400, .auto⟩ := by
  refine ((single_field_setters_iff autoFanRead rfl (.answering 200 .auto)).1 _ rfl).1.mpr ?_
  rintro ⟨-, -, -, -, fanMode, hoffered, hne⟩
  exact hne (Option.some.inj hoffered).symm

/-- RG says Quiet: a read gives Quiet, and a write of the setpoint sends Auto. -/
theorem quiet_fan_overwritten :
    (autoFanRead.getOperation (.answering 200 .quiet)).result = .ok ⟨true, .cool, 2400, .quiet⟩ ∧
      (autoFanRead.setSetpoint (.answering 200 .quiet) 2600).sets =
        [⟨true, .cool, 2600, .auto⟩] ∧
      ¬ ChangesOwnField autoFanRead (.answering 200 .quiet) ⟨true, .cool, 2400, .quiet⟩ := by
  have hsets : (autoFanRead.setSetpoint (.answering 200 .quiet) 2600).sets =
      [⟨true, .cool, 2600, .auto⟩] := rfl
  refine ⟨rfl, hsets, ?_⟩
  intro h
  have hset := h.setPoint 2600
  rw [hsets] at hset
  exact absurd hset (by decide)

end S21Manager

end DaikinBridge.S21
