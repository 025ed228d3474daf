import DaikinBridge.Sync.Guard

/-!
# DaikinBridge.Sync.Dropped

Which controller writes the guard window drops.

An intent submits a few writes to the guard (`guardedWrites`), a bundle those of its
intents and, in Auto, the one its two edges collapse to (`bundleWrites`). A write is
dropped only when a report younger than the window disagrees with it
(`dropped_writes_disagree_with_recent_report`). What counts is the report and not a change
it brings: a poll that repeats what the device had before opens the window again
(`repeating_poll_drops_write`).
-/

namespace DaikinBridge.Sync

namespace Reconciler

/-! ### The writes of intents and bundles -/

/-- A value asked of one of the six twins. -/
inductive TwinWrite
  | onOff (value : Bool)
  | mode (value : OperationalMode)
  | heatSetpoint (value : Int16)
  | coolSetpoint (value : Int16)
  | autoSetpoint (value : Int16)
  | fan (value : FanSpeed)

/-- The value is what the twin desires. -/
def TwinWrite.Wanted (w : Wishes) : TwinWrite → Prop
  | .onOff value => w.onOff = value
  | .mode value => w.mode = value
  | .heatSetpoint value => w.heatSetpoint = value
  | .coolSetpoint value => w.coolSetpoint = value
  | .autoSetpoint value => w.autoSetpoint = value
  | .fan value => w.fan = value

/-- The guard check of the write. -/
def TwinWrite.passes (r : Reconciler) (now : Int) : TwinWrite → Bool
  | .onOff value => r.admitsOnOff now value
  | .mode value => r.admitsMode now value
  | .heatSetpoint value => r.admitsHeat now value
  | .coolSetpoint value => r.admitsCool now value
  | .autoSetpoint value => r.admitsCentre now value
  | .fan value => r.admitsFan now value

/-- The report went to the twin of the write and has another value. -/
def TwinWrite.ContradictedBy (obs : S21OperationalObservation) : TwinWrite → Prop
  | .onOff value => ∃ u, onOffPart obs = some u ∧ u ≠ value
  | .mode value => ∃ u, modePart obs = some u ∧ u ≠ value
  | .heatSetpoint value => ∃ u, setpointPart .heat obs = some u ∧ u ≠ value
  | .coolSetpoint value => ∃ u, setpointPart .cool obs = some u ∧ u ≠ value
  | .autoSetpoint value => ∃ u, setpointPart .auto obs = some u ∧ u ≠ value
  | .fan value => ∃ u, fanPart obs = some u ∧ u ≠ value

section Dropped

variable (r : Reconciler) (now : Int)

/-- The writes of a fan intent: the level and, once that is admitted, power. -/
def fanWrites (fan : FanSpeed) : List TwinWrite :=
  .fan fan ::
    if r.admitsFan now fan && !r.state.onOff.observed then [TwinWrite.onOff true] else []

/-- The writes an intent submits to the guard. A setpoint edge of a mode the device is not
in goes to the shadow of that mode, unguarded. -/
def guardedWrites : WriteIntent → List TwinWrite
  | .setOnOff value => [.onOff value]
  | .setSystemMode power mode => .onOff power :: if power then [TwinWrite.mode mode] else []
  | .setOccupiedHeatingSetpoint value =>
      match r.state.mode.observed with
      | .heat => [.heatSetpoint value]
      | .auto => [.autoSetpoint (r.centreForHeatEdge r.state.autoSetpoint.desired value)]
      | _ => []
  | .setOccupiedCoolingSetpoint value =>
      match r.state.mode.observed with
      | .cool => [.coolSetpoint value]
      | .auto => [.autoSetpoint (r.centreForCoolEdge r.state.autoSetpoint.desired value)]
      | _ => []
  | .setSpeedSetting value => r.fanWrites now value
  | .setPercentSetting none => []
  | .setPercentSetting (some percent) => r.fanWrites now (some (percentToSpeedLevel percent))

/-- The guard drops a write that asks for something new. -/
def Dropped (w : TwinWrite) : Prop := ¬ w.Wanted r.state.wishes ∧ w.passes r now = false

omit r now in
theorem TwinWrite.wanted_ite {w : TwinWrite} {c : Bool} {u v : Wishes} (h : w.Wanted u) :
    w.Wanted (if c then u else v) ↔ c = true ∨ w.Wanted v := by
  cases c with
  | false => simp
  | true => simp [h]

theorem wanted_fanWrites {w : TwinWrite} {fan : FanSpeed} (hw : w ∈ r.fanWrites now fan) :
    w.Wanted (r.wishFan now r.state.wishes fan) ↔
      w.passes r now = true ∨ w.Wanted r.state.wishes := by
  unfold fanWrites at hw
  rcases List.mem_cons.mp hw with rfl | hpower
  · exact TwinWrite.wanted_ite rfl
  · split at hpower
    · rename_i hadmitted
      obtain rfl := List.mem_singleton.mp hpower
      obtain ⟨hfan, hoff⟩ := Bool.and_eq_true_iff.mp hadmitted
      simp only [wishFan, TwinWrite.Wanted, TwinWrite.passes, if_pos hfan, hoff, Bool.true_and]
      split <;> simp_all
    · cases hpower

/-- A guarded write has its effect exactly when the guard admits it. -/
theorem wanted_apply {i : WriteIntent} {w : TwinWrite} (hw : w ∈ r.guardedWrites now i) :
    w.Wanted (r.apply now i).state.wishes ↔
      w.passes r now = true ∨ w.Wanted r.state.wishes := by
  rw [wishes_apply]
  cases i with
  | setOnOff value =>
      obtain rfl := List.mem_singleton.mp hw
      exact TwinWrite.wanted_ite rfl
  | setSystemMode power mode =>
      rcases List.mem_cons.mp hw with rfl | hmode
      · simp only [wish, TwinWrite.Wanted, TwinWrite.passes]
        split <;> simp_all
      · split at hmode
        · rename_i hpower
          obtain rfl := List.mem_singleton.mp hmode
          simp only [wish, TwinWrite.Wanted, TwinWrite.passes, hpower, Bool.true_and]
          split <;> simp_all
        · cases hmode
  | setOccupiedHeatingSetpoint value =>
      simp only [guardedWrites] at hw
      simp only [wish]
      split at hw <;> rename_i hobserved
      · obtain rfl := List.mem_singleton.mp hw
        rw [hobserved]
        exact TwinWrite.wanted_ite rfl
      · obtain rfl := List.mem_singleton.mp hw
        rw [hobserved]
        exact TwinWrite.wanted_ite rfl
      · cases hw
  | setOccupiedCoolingSetpoint value =>
      simp only [guardedWrites] at hw
      simp only [wish]
      split at hw <;> rename_i hobserved
      · obtain rfl := List.mem_singleton.mp hw
        rw [hobserved]
        exact TwinWrite.wanted_ite rfl
      · obtain rfl := List.mem_singleton.mp hw
        rw [hobserved]
        exact TwinWrite.wanted_ite rfl
      · cases hw
  | setSpeedSetting value => exact wanted_fanWrites r now hw
  | setPercentSetting value =>
      cases value with
      | none => cases hw
      | some percent => exact wanted_fanWrites r now hw

/-- A write of an intent is dropped exactly when its value is new and does not take. -/
theorem dropped_iff {i : WriteIntent} {w : TwinWrite} (hw : w ∈ r.guardedWrites now i) :
    r.Dropped now w ↔
      ¬ w.Wanted r.state.wishes ∧ ¬ w.Wanted (r.apply now i).state.wishes := by
  rw [Dropped, wanted_apply r now hw, not_or, Bool.not_eq_true]
  constructor
  · rintro ⟨hnew, hrefused⟩
    exact ⟨hnew, hrefused, hnew⟩
  · rintro ⟨hnew, hrefused, -⟩
    exact ⟨hnew, hrefused⟩

/-- The writes intents submit one after the other, each with the state it is judged in. -/
def eachWrites (r : Reconciler) (now : Int) : List WriteIntent → List (Reconciler × TwinWrite)
  | [] => []
  | i :: is =>
      (r.guardedWrites now i).map (fun w => (r, w)) ++ eachWrites (r.apply now i) now is

/-- The writes of a bundle: in Auto, a heat and a cool edge become one write of the
centre, ahead of the others. -/
def bundleWrites (intents : List WriteIntent) : List (Reconciler × TwinWrite) :=
  match lastHeat intents, lastCool intents with
  | some heat, some cool =>
      if r.state.mode.observed = .auto then
        (r, .autoSetpoint (Int16.ofInt ((heat.toInt + cool.toInt).tdiv 2))) ::
          eachWrites (r.collapseAutoBand now heat cool) now
            (intents.filter fun intent => !isSetpointEdge intent)
      else eachWrites r now intents
  | _, _ => eachWrites r now intents

theorem sameJudge_eachWrites (is : List WriteIntent) :
    ∀ p ∈ eachWrites r now is, SameJudge r p.1 := by
  induction is generalizing r with
  | nil =>
      intro p hp
      cases hp
  | cons i is ih =>
      intro p hp
      rcases List.mem_append.mp hp with hnow | hlater
      · obtain ⟨w, -, rfl⟩ := List.mem_map.mp hnow
        exact ⟨.refl _, rfl, rfl⟩
      · exact (SameJudge.apply r now i).trans (ih (r.apply now i) p hlater)

/-- Throughout a bundle writes are judged by the same reports. -/
theorem sameJudge_bundleWrites (is : List WriteIntent) :
    ∀ p ∈ r.bundleWrites now is, SameJudge r p.1 := by
  unfold bundleWrites
  split
  · rename_i heat cool _ _
    split
    · intro p hp
      rcases List.mem_cons.mp hp with rfl | hrest
      · exact ⟨.refl _, rfl, rfl⟩
      · exact (SameJudge.collapseAutoBand r now heat cool).trans
          (sameJudge_eachWrites _ now _ p hrest)
    · exact sameJudge_eachWrites r now is
  · exact sameJudge_eachWrites r now is

end Dropped

theorem SameJudge.passes {r r' : Reconciler} (h : SameJudge r r') (now : Int) (w : TwinWrite) :
    w.passes r' now = w.passes r now := by
  cases w with
  | onOff v =>
      simp only [TwinWrite.passes, admitsOnOff, h.times, h.admits now _ h.views.onOff]
  | mode v =>
      simp only [TwinWrite.passes, admitsMode, h.times, h.admits now _ h.views.mode]
  | heatSetpoint v =>
      simp only [TwinWrite.passes, admitsHeat, h.times, h.admits now _ h.views.heatSetpoint]
  | coolSetpoint v =>
      simp only [TwinWrite.passes, admitsCool, h.times, h.admits now _ h.views.coolSetpoint]
  | autoSetpoint v =>
      simp only [TwinWrite.passes, admitsCentre, h.times, h.admits now _ h.views.autoSetpoint]
  | fan v =>
      simp only [TwinWrite.passes, admitsFan, h.times, h.admits now _ h.views.fan]

/-! ### Dropped writes over runs -/

/-- Some report of the run, at a time after `since` and no later than `now`, went to the
twin of the write and has another value. -/
def TwinWrite.ContradictedWithin (w : TwinWrite) (since now : Int) (ops : List KernelOp) : Prop :=
  ∃ t obs, KernelOp.applyOperationalObservation t obs ∈ ops ∧ since < t ∧ t ≤ now ∧
    w.ContradictedBy obs

section Run

variable {config : ReconcilerConfig} {d : LogicalACStateDefaults} {ops : List KernelOp} {now : Int}

/-- A refused value disagrees with a report of its twin that is younger than the
window. -/
theorem Tracks.contradicted_of_refused {T : Type} [DecidableEq T]
    {twin : LogicalACState → TwinField T} {stamp : LastDeviceTimes → Int}
    {part : S21OperationalObservation → Option T}
    (h : Tracks twin stamp (KernelOp.reportOf part)) (hclock : ClockUpTo now ops) {v : T}
    (hrefused : (Lib.run kernelStep (.new config d) ops).admits now
      (stamp (Lib.run kernelStep (.new config d) ops).lastDeviceObserved)
      (twin (Lib.run kernelStep (.new config d) ops).state) v = false) :
    ∃ t obs, KernelOp.applyOperationalObservation t obs ∈ ops ∧
      now - config.deviceWinsWindowMs < t ∧ t ≤ now ∧ ∃ u, part obs = some u ∧ u ≠ v := by
  obtain ⟨t, u, hlatest, hne, hyoung⟩ := h.report_of_refused hrefused
  obtain ⟨op, hop, hreport⟩ := Lib.exists_mem_of_latest hlatest
  obtain ⟨p, htimed, hpart⟩ := Option.bind_eq_some_iff.mp hreport
  obtain ⟨u', hu', heq⟩ := Option.map_eq_some_iff.mp hpart
  obtain ⟨rfl, rfl⟩ := Prod.mk.inj heq
  obtain rfl := KernelOp.timedReport_eq_some htimed
  exact ⟨p.1, p.2, hop, hyoung, hclock.le hop rfl, u', hu', hne⟩

theorem contradicted_of_refused (hclock : ClockUpTo now ops) {w : TwinWrite}
    (h : w.passes (Lib.run kernelStep (.new config d) ops) now = false) :
    w.ContradictedWithin (now - config.deviceWinsWindowMs) now ops := by
  cases w with
  | onOff v => exact tracks_onOff.contradicted_of_refused hclock h
  | mode v => exact tracks_mode.contradicted_of_refused hclock h
  | heatSetpoint v => exact (tracks_setpoint (n := .heat) rfl).contradicted_of_refused hclock h
  | coolSetpoint v => exact (tracks_setpoint (n := .cool) rfl).contradicted_of_refused hclock h
  | autoSetpoint v => exact (tracks_setpoint (n := .auto) rfl).contradicted_of_refused hclock h
  | fan v => exact tracks_fan.contradicted_of_refused hclock h

end Run

/-- **Dropped writes.** Along every run with a monotone clock, a write that an intent or a
bundle submits, that asks for something new and that the guard drops, disagrees with a
report to its twin that is younger than the window. -/
theorem dropped_writes_disagree_with_recent_report (config : ReconcilerConfig)
    (d : LogicalACStateDefaults) (ops : List KernelOp) (now : Int) (hclock : ClockUpTo now ops) :
    let r := Lib.run kernelStep (.new config d) ops
    let since := now - config.deviceWinsWindowMs
    (∀ i, ∀ w ∈ r.guardedWrites now i, r.Dropped now w → w.ContradictedWithin since now ops) ∧
      (∀ is, ∀ p ∈ r.bundleWrites now is, p.1.Dropped now p.2 →
        p.2.ContradictedWithin since now ops) := by
  constructor
  · intro i w _ hdropped
    exact contradicted_of_refused hclock hdropped.2
  · intro is p hp hdropped
    have hrefused := hdropped.2
    rw [(sameJudge_bundleWrites _ now is p hp).passes now] at hrefused
    exact contradicted_of_refused hclock hrefused

/-- Polled at 20 s, the bridge drops a power-on written 100 ms later. -/
theorem power_on_after_poll_dropped :
    let ops := [KernelOp.applyOperationalObservation 20000 idlePoll]
    let r := Lib.run kernelStep (.new {} {}) ops
    r.Dropped 20100 (.onOff true) ∧ (TwinWrite.onOff true).ContradictedWithin 19100 20100 ops := by
  intro ops r
  have hdropped : r.Dropped 20100 (.onOff true) := ⟨Bool.false_ne_true, by decide⟩
  refine ⟨hdropped, ?_⟩
  exact (dropped_writes_disagree_with_recent_report {} {} ops 20100 (by decide)).1
    (.setOnOff true) (.onOff true) (List.mem_singleton.mpr rfl) hdropped

/-- The observed value of the written twin is another one. -/
def TwinWrite.ObservedMoved (s s' : LogicalACState) : TwinWrite → Prop
  | .onOff _ => s'.onOff.observed ≠ s.onOff.observed
  | .mode _ => s'.mode.observed ≠ s.mode.observed
  | .heatSetpoint _ => s'.heatSetpoint.observed ≠ s.heatSetpoint.observed
  | .coolSetpoint _ => s'.coolSetpoint.observed ≠ s.coolSetpoint.observed
  | .autoSetpoint _ => s'.autoSetpoint.observed ≠ s.autoSetpoint.observed
  | .fan _ => s'.fan.observed ≠ s.fan.observed

/-- It takes no change at the device: polls at 10 s and 20 s both find the unit off, as the
bridge assumed, and the second one costs a power-on written 100 ms later. -/
theorem repeating_poll_drops_write :
    ¬ ∀ (config : ReconcilerConfig) (d : LogicalACStateDefaults) (ops : List KernelOp) (now : Int)
        (i : WriteIntent) (w : TwinWrite), ClockUpTo now ops →
        w ∈ (Lib.run kernelStep (.new config d) ops).guardedWrites now i →
        (Lib.run kernelStep (.new config d) ops).Dropped now w →
        ∃ before t obs after, ops = before ++ .applyOperationalObservation t obs :: after ∧
          now - config.deviceWinsWindowMs < t ∧ t ≤ now ∧
          w.ObservedMoved (Lib.run kernelStep (.new config d) before).state
            (kernelStep (Lib.run kernelStep (.new config d) before)
              (.applyOperationalObservation t obs)).state := by
  intro hclaim
  let ops := [KernelOp.applyOperationalObservation 10000 idlePoll,
    KernelOp.applyOperationalObservation 20000 idlePoll]
  have hclock : ClockUpTo 20100 ops := by decide
  have hdropped : (Lib.run kernelStep (.new {} {}) ops).Dropped 20100 (.onOff true) :=
    ⟨Bool.false_ne_true, by decide⟩
  obtain ⟨before, t, obs, after, hops, -, -, hmoved⟩ := hclaim {} {} ops 20100 (.setOnOff true)
    (.onOff true) hclock (List.mem_singleton.mpr rfl) hdropped
  -- whichever of the two polls it is, the unit was seen off before and is seen off after
  rcases before with _ | ⟨first, _ | ⟨second, rest⟩⟩
  · obtain ⟨rfl, rfl⟩ := KernelOp.applyOperationalObservation.inj (List.cons.inj hops).1
    exact hmoved rfl
  · obtain ⟨rfl, htail⟩ := List.cons.inj hops
    obtain ⟨rfl, rfl⟩ := KernelOp.applyOperationalObservation.inj (List.cons.inj htail).1
    exact hmoved rfl
  · have hnil := (List.cons.inj (List.cons.inj hops).2).2
    exact absurd hnil.symm (by simp)

end Reconciler

end DaikinBridge.Sync
