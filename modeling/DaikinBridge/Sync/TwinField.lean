import Mathlib.Data.Option.Basic

/-!
# DaikinBridge.Sync.TwinField

The single-value algebra of `src/sync/twin_field.h`: one piece of bridge state
with three views (`observed`, `desired`, `inFlight`), plus the observation-only
`SensorField` of `src/sync/sensor_field.h`.

`applyObservation` is the five-way branch of the source. What the rest of the
development uses of it is not the branching but its effect on the three views,
stated once each:

* `applyObservation_observed` — afterwards `observed` *is* the reported value,
  in every branch (the stale branch writes nothing because it is already there);
* `applyObservation_desired` — `desired` moves only when nothing is in flight
  and the report is new, and then it moves to the report;
* `applyObservation_inFlight` — an in-flight value survives exactly the reports
  that repeat `observed` and are not its own echo.

`dirty_applyObservation` combines the three: a report that repeats `observed`
leaves `dirty` as it was, and a new one leaves the twin dirty exactly when a
value was in flight and something other than the report is desired.
-/

namespace DaikinBridge.Sync

/-- Provenance of the most recent observation applied to a twin. -/
inductive ObservationSource
  | boot
  | device
  | matter
  deriving DecidableEq, Repr

/-- A value with its observed, desired and in-flight views. -/
structure TwinField (T : Type) where
  observed : T
  desired : T
  inFlight : Option T
  lastSource : ObservationSource
  attribution : ObservationSource
  deriving DecidableEq, Repr

namespace TwinField

variable {T : Type} [DecidableEq T]

/-- The constructor `TwinField(T initial)`. -/
def new (initial : T) : TwinField T where
  observed := initial
  desired := initial
  inFlight := none
  lastSource := .boot
  attribution := .boot

/-- Unsent controller intent: `desired` against what the device should currently
believe, the in-flight value if there is one and the observed value otherwise. -/
def dirty (t : TwinField T) : Bool :=
  match t.inFlight with
  | some sent => t.desired ≠ sent
  | none => t.desired ≠ t.observed

/-- Record a new controller intent. Asserting the value already desired does not
shift the attribution. -/
def setDesired (t : TwinField T) (value : T) : TwinField T :=
  if t.desired = value then t
  else { t with desired := value, attribution := .matter }

/-- Capture the current desired value as the one in flight. -/
def promoteDesiredToInFlight (t : TwinField T) : TwinField T :=
  { t with inFlight := some t.desired }

/-- Process a reported value. -/
def applyObservation (t : TwinField T) (value : T) (source : ObservationSource) : TwinField T :=
  match t.inFlight with
  | some sent =>
      -- 1: confirmation
      if value = sent then
        { t with lastSource := source, inFlight := none, observed := value }
      -- 2: stale poll
      else if value = t.observed then
        { t with lastSource := source }
      -- 3: disconfirmation; `desired` keeps any intent queued meanwhile
      else
        { t with lastSource := source, inFlight := none, observed := value, attribution := source }
  | none =>
      -- 5: external change
      if value ≠ t.observed then
        { t with lastSource := source, observed := value, desired := value, attribution := source }
      -- 4: idempotent
      else
        { t with lastSource := source, attribution := source }

/-! ### The simple mutators -/

omit [DecidableEq T] in
@[simp] theorem new_observed (v : T) : (new v).observed = v := rfl
omit [DecidableEq T] in
@[simp] theorem new_desired (v : T) : (new v).desired = v := rfl
omit [DecidableEq T] in
@[simp] theorem new_inFlight (v : T) : (new v).inFlight = none := rfl

@[simp] theorem setDesired_desired (t : TwinField T) (v : T) : (t.setDesired v).desired = v := by
  unfold setDesired
  split
  · assumption
  · rfl

@[simp] theorem setDesired_observed (t : TwinField T) (v : T) :
    (t.setDesired v).observed = t.observed := by
  unfold setDesired
  split <;> rfl

@[simp] theorem setDesired_inFlight (t : TwinField T) (v : T) :
    (t.setDesired v).inFlight = t.inFlight := by
  unfold setDesired
  split <;> rfl

@[simp] theorem setDesired_self (t : TwinField T) : t.setDesired t.desired = t := if_pos rfl

omit [DecidableEq T] in
@[simp] theorem promote_observed (t : TwinField T) :
    t.promoteDesiredToInFlight.observed = t.observed := rfl
omit [DecidableEq T] in
@[simp] theorem promote_desired (t : TwinField T) :
    t.promoteDesiredToInFlight.desired = t.desired := rfl
omit [DecidableEq T] in
@[simp] theorem promote_inFlight (t : TwinField T) :
    t.promoteDesiredToInFlight.inFlight = some t.desired := rfl

theorem dirty_eq_true_iff {t : TwinField T} :
    t.dirty = true ↔ t.desired ≠ t.inFlight.getD t.observed := by
  unfold dirty
  cases t.inFlight <;> simp

theorem dirty_eq_false_iff {t : TwinField T} :
    t.dirty = false ↔ t.desired = t.inFlight.getD t.observed := by
  rw [← Bool.not_eq_true, dirty_eq_true_iff, not_not]

/-! ### What an observation does to the three views -/

section Observation

variable (t : TwinField T) (v : T) (src : ObservationSource)

/-- Every branch ends with the reported value observed. -/
@[simp] theorem applyObservation_observed : (t.applyObservation v src).observed = v := by
  unfold applyObservation
  cases t.inFlight with
  | none =>
      by_cases hv : v = t.observed
      · subst hv; simp
      · simp [hv]
  | some sent =>
      by_cases hs : v = sent
      · simp [hs]
      · by_cases hv : v = t.observed
        · subst hv; simp [hs]
        · simp [hs, hv]

/-- `desired` follows the report only through the external-change branch. -/
theorem applyObservation_desired :
    (t.applyObservation v src).desired =
      if t.inFlight = none ∧ v ≠ t.observed then v else t.desired := by
  unfold applyObservation
  cases t.inFlight with
  | none =>
      by_cases hv : v = t.observed
      · subst hv; simp
      · simp [hv]
  | some sent =>
      by_cases hs : v = sent
      · simp [hs]
      · by_cases hv : v = t.observed
        · subst hv; simp [hs]
        · simp [hs, hv]

/-- An in-flight value survives exactly the stale polls. -/
theorem applyObservation_inFlight :
    (t.applyObservation v src).inFlight =
      if v = t.observed then t.inFlight.filter (fun sent => sent ≠ v) else none := by
  unfold applyObservation
  cases t.inFlight with
  | none =>
      by_cases hv : v = t.observed
      · subst hv; simp
      · simp [hv]
  | some sent =>
      by_cases hs : v = sent
      · subst hs; simp [Option.filter]
      · by_cases hv : v = t.observed
        · subst hv; simp [hs, Option.filter, Ne.symm hs]
        · simp [hs, hv]

/-- Dirtiness after a report: unchanged by one that repeats `observed`, and
otherwise exactly the disagreement of a value in flight with the report. -/
theorem dirty_applyObservation :
    (t.applyObservation v src).dirty =
      if v = t.observed then t.dirty else (t.inFlight.isSome && decide (t.desired ≠ v)) := by
  rw [Bool.eq_iff_iff, dirty_eq_true_iff, applyObservation_observed, applyObservation_desired,
    applyObservation_inFlight]
  by_cases hv : v = t.observed
  · cases hf : t.inFlight with
    | none => simp [hv, dirty, hf]
    | some sent =>
        by_cases hs : sent = v
        · simp [← hv, hs, dirty, hf, Option.filter]
        · simp [← hv, hs, dirty, hf, Option.filter]
  · cases hf : t.inFlight with
    | none => simp [hv]
    | some sent => simp [hv]

end Observation

/-- A report that repeats `observed` moves neither `desired` nor `observed`. -/
theorem applyObservation_repeat {t : TwinField T} {v : T} (src : ObservationSource)
    (hv : v = t.observed) :
    (t.applyObservation v src).desired = t.desired ∧
      (t.applyObservation v src).observed = t.observed := by
  rw [applyObservation_desired, applyObservation_observed, if_neg (fun h => h.2 hv)]
  exact ⟨rfl, hv⟩

/-- The value a report leaves in flight was in flight before it. -/
theorem inFlight_of_applyObservation {t : TwinField T} {v sent : T} {src : ObservationSource}
    (h : (t.applyObservation v src).inFlight = some sent) : t.inFlight = some sent := by
  rw [applyObservation_inFlight] at h
  split at h
  · exact (Option.filter_eq_some_iff.mp h).1
  · exact absurd h (by simp)

/-- **Echo.** When the reported value is what the twin desires, and is in flight
or already observed, the twin settles on it. -/
theorem applyObservation_echo {t : TwinField T} (src : ObservationSource)
    (hsent : t.inFlight = some t.desired ∨ (t.inFlight = none ∧ t.observed = t.desired)) :
    (t.applyObservation t.desired src).desired = t.desired ∧
      (t.applyObservation t.desired src).observed = t.desired ∧
      (t.applyObservation t.desired src).inFlight = none := by
  rw [applyObservation_desired, applyObservation_observed, applyObservation_inFlight]
  rcases hsent with hf | ⟨hf, ho⟩
  · simp [hf, Option.filter]
  · simp [hf, ho]

end TwinField

/-! ### Sensor fields -/

/-- The one-way, observation-only counterpart of a twin. -/
structure SensorField (T : Type) where
  observed : T
  deriving DecidableEq, Repr

/-- `SensorField::applyObservation`: the latest report replaces the value. -/
def SensorField.applyObservation {T : Type} (_ : SensorField T) (value : T) : SensorField T :=
  ⟨value⟩

@[simp] theorem SensorField.applyObservation_observed {T : Type} (f : SensorField T) (v : T) :
    (f.applyObservation v).observed = v := rfl

end DaikinBridge.Sync
