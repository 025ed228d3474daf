import DaikinBridge.Sync.LastReport
import DaikinBridge.Sync.Wishes

/-!
# DaikinBridge.Sync.Guard

The guard window (`Reconciler::intentPassesGuard`) over whole runs. A controller write
that disagrees with a fresh report of the device loses to it; the window says how long a
report is fresh.

Everything rests on one fact per twin (`Tracks`): after a run, its `observed` value and its
timestamp are those of the latest report routed to it. So within the window after a report
no intent and no bundle moves the power, the mode, the fan or the active setpoint to
anything but what was reported (`device_wins_within_window`).
-/

namespace DaikinBridge.Sync

/-- The timestamp of the setpoint twin in charge in a mode. -/
def LastDeviceTimes.setpoint (t : LastDeviceTimes) : OperationalMode → Int
  | .cool => t.coolSetpoint
  | .heat => t.heatSetpoint
  | .auto => t.autoSetpoint
  | .dry => t.autoSetpoint
  | .fanOnly => t.autoSetpoint

/-- The twin is desired as it was, or as it was observed. -/
def TwinField.HeldTo {T : Type} (t t' : TwinField T) : Prop :=
  t'.desired = t.desired ∨ t'.desired = t.observed

namespace Reconciler

/-! ### Times and reports of a run -/

/-- The clock an operation reads, if it reads it. -/
def KernelOp.time : KernelOp → Option Int
  | .applyIntent now _ => some now
  | .applyIntentBundle now _ => some now
  | .applyOperationalObservation now _ => some now
  | _ => none

/-- The clock never runs backwards, up to the reading `now`. -/
def ClockUpTo (now : Int) (ops : List KernelOp) : Prop :=
  (ops.filterMap KernelOp.time ++ [now]).Pairwise (· ≤ ·)

instance (now : Int) (ops : List KernelOp) : Decidable (ClockUpTo now ops) := by
  unfold ClockUpTo; infer_instance

theorem ClockUpTo.le {now t : Int} {ops : List KernelOp} (h : ClockUpTo now ops) {op : KernelOp}
    (hop : op ∈ ops) (ht : op.time = some t) : t ≤ now := by
  have hmem : t ∈ ops.filterMap KernelOp.time := List.mem_filterMap.mpr ⟨op, hop, ht⟩
  exact (List.pairwise_append.mp h).2.2 t hmem now (List.mem_singleton.mpr rfl)

/-- The operational report an operation brings, with the time it came at. -/
def KernelOp.timedReport : KernelOp → Option (Int × S21OperationalObservation)
  | .applyOperationalObservation now obs => some (now, obs)
  | _ => none

theorem KernelOp.timedReport_eq_some {op : KernelOp} {t : Int} {obs : S21OperationalObservation}
    (h : op.timedReport = some (t, obs)) : op = .applyOperationalObservation t obs := by
  cases op <;> cases h
  rfl

theorem KernelOp.report_eq (op : KernelOp) : op.report = op.timedReport.map Prod.snd := by
  cases op <;> rfl

theorem SameJudge.trans {r r' r'' : Reconciler} (h₁ : SameJudge r r') (h₂ : SameJudge r' r'') :
    SameJudge r r'' :=
  ⟨h₁.views.trans h₂.views, h₂.config.trans h₁.config, h₂.times.trans h₁.times⟩

theorem SameJudge.applyBundle (r : Reconciler) (now : Int) (is : List WriteIntent) :
    SameJudge r (r.applyBundle now is) := by
  refine applyBundle_keeps (P := SameJudge r) r now ?_ ?_ ⟨.refl _, rfl, rfl⟩ is
  · intro r' i h
    exact h.trans (SameJudge.apply r' now i)
  · intro r' heat cool h
    exact h.trans (SameJudge.collapseAutoBand r' now heat cool)

theorem kernelStep_config (r : Reconciler) (op : KernelOp) :
    (kernelStep r op).config = r.config := by
  cases op with
  | applyIntentBundle now is => exact (SameJudge.applyBundle r now is).config
  | _ => rfl

theorem run_config (r : Reconciler) (ops : List KernelOp) :
    (Lib.run kernelStep r ops).config = r.config := by
  induction ops generalizing r with
  | nil => rfl
  | cons op ops ih => exact (ih (kernelStep r op)).trans (kernelStep_config r op)

/-- Only reports are stamped. -/
theorem kernelStep_times (r : Reconciler) {op : KernelOp} (h : op.timedReport = none) :
    (kernelStep r op).lastDeviceObserved = r.lastDeviceObserved := by
  cases op with
  | applyIntentBundle now is => exact (SameJudge.applyBundle r now is).times
  | applyOperationalObservation now obs => cases h
  | _ => rfl

/-- The three reasons to admit a value. -/
theorem admits_eq_true_iff {T : Type} [DecidableEq T] {r : Reconciler} {now reported : Int}
    {t : TwinField T} {v : T} :
    r.admits now reported t v = true ↔
      v = t.observed ∨ reported = 0 ∨ r.config.deviceWinsWindowMs ≤ now - reported := by
  unfold admits intentPassesGuard
  by_cases hv : v = t.observed
  · simp [hv]
  · by_cases hreported : reported = 0
    · simp [hreported]
    · simp [hv, hreported]

/-! ### What each twin remembers of the reports -/

/-- An operation that brings a report for the twin sets its observed value and its
timestamp from it, and every other operation leaves both alone. -/
structure Tracks {T : Type} (twin : LogicalACState → TwinField T) (stamp : LastDeviceTimes → Int)
    (report : KernelOp → Option (Int × T)) : Prop where
  boot : stamp {} = 0
  observed : ∀ r op, (twin (kernelStep r op).state).observed =
    ((report op).map Prod.snd).getD (twin r.state).observed
  stamp : ∀ r op, stamp (kernelStep r op).lastDeviceObserved =
    ((report op).map Prod.fst).getD (stamp r.lastDeviceObserved)

/-- The part of a report that goes to a twin. -/
def KernelOp.reportOf {T : Type} (part : S21OperationalObservation → Option T) (op : KernelOp) :
    Option (Int × T) :=
  op.timedReport.bind fun p => (part p.2).map fun v => (p.1, v)

def onOffPart (obs : S21OperationalObservation) : Option Bool := some obs.onOff

def modePart (obs : S21OperationalObservation) : Option OperationalMode :=
  some (s21OperatingModeToOperationalMode obs.operatingMode)

def fanPart (obs : S21OperationalObservation) : Option FanSpeed :=
  some (s21FanModeToSpeedSetting obs.fanMode)

/-- The setpoint goes to the twin of the reported mode. -/
def setpointPart (n : OperationalMode) (obs : S21OperationalObservation) : Option Int16 :=
  if s21OperatingModeToOperationalMode obs.operatingMode = n then some obs.setpointCelsius
  else none

/-- A twin tracks a part of the reports when an observation with that part stamps it, and
one without it does not. -/
theorem tracks_part {T : Type} {twin : LogicalACState → TwinField T}
    {stamp : LastDeviceTimes → Int} {part : S21OperationalObservation → Option T}
    (hboot : stamp {} = 0)
    (hobserved : ∀ r op, (twin (kernelStep r op).state).observed =
      ((op.report.bind part).getD (twin r.state).observed))
    (hstamp : ∀ t now obs,
      stamp (stampObservation t (s21OperatingModeToOperationalMode obs.operatingMode) now) =
        if (part obs).isSome then now else stamp t) :
    Tracks twin stamp (KernelOp.reportOf part) where
  boot := hboot
  observed := by
    intro r op
    rw [hobserved, KernelOp.report_eq, KernelOp.reportOf]
    cases op.timedReport with
    | none => rfl
    | some p =>
        simp only [Option.map_some, Option.bind_some, Option.map_map]
        cases part p.2 <;> rfl
  stamp := by
    intro r op
    cases h : op.timedReport with
    | none => simp [kernelStep_times r h, KernelOp.reportOf, h]
    | some p =>
        obtain rfl := KernelOp.timedReport_eq_some h
        refine (hstamp r.lastDeviceObserved p.1 p.2).trans ?_
        rw [KernelOp.reportOf, h]
        cases hpart : part p.2 <;> simp [hpart]

theorem tracks_onOff :
    Tracks LogicalACState.onOff LastDeviceTimes.onOff (KernelOp.reportOf onOffPart) := by
  refine tracks_part rfl (fun r op => ?_) (fun t now obs => ?_)
  · refine (onOff_observed_step r op).trans ?_
    cases op <;> rfl
  · cases s21OperatingModeToOperationalMode obs.operatingMode <;> rfl

theorem tracks_mode :
    Tracks LogicalACState.mode LastDeviceTimes.mode (KernelOp.reportOf modePart) := by
  refine tracks_part rfl (fun r op => ?_) (fun t now obs => ?_)
  · refine (mode_observed_step r op).trans ?_
    cases op <;> rfl
  · unfold modePart
    cases s21OperatingModeToOperationalMode obs.operatingMode <;> rfl

theorem tracks_fan :
    Tracks LogicalACState.fan LastDeviceTimes.fan (KernelOp.reportOf fanPart) := by
  refine tracks_part rfl (fun r op => ?_) (fun t now obs => ?_)
  · refine (fan_observed_step r op).trans ?_
    cases op <;> rfl
  · cases s21OperatingModeToOperationalMode obs.operatingMode <;> rfl

theorem tracks_setpoint {n : OperationalMode} (hn : n.bearsSetpoint = true) :
    Tracks (fun s => s.activeSetpoint n) (fun t => t.setpoint n)
      (KernelOp.reportOf (setpointPart n)) := by
  refine tracks_part ?_ (fun r op => ?_) (fun t now obs => ?_)
  · cases n <;> rfl
  · refine (setpoint_observed_step hn r op).trans ?_
    unfold KernelOp.reportIn setpointPart
    cases op.report with
    | none => rfl
    | some obs =>
        by_cases hmode : s21OperatingModeToOperationalMode obs.operatingMode = n
        · simp [Option.filter, hmode]
        · simp [Option.filter, hmode]
  · unfold setpointPart
    cases hmode : s21OperatingModeToOperationalMode obs.operatingMode <;> cases n <;>
      first | rfl | cases hn

section Run

variable {T : Type} [DecidableEq T] {twin : LogicalACState → TwinField T}
  {stamp : LastDeviceTimes → Int} {report : KernelOp → Option (Int × T)}
  {config : ReconcilerConfig} {d : LogicalACStateDefaults} {ops : List KernelOp} {now : Int}

omit [DecidableEq T] in
/-- After a run, a twin shows its latest report and the time of it. -/
theorem Tracks.run (h : Tracks twin stamp report) (config : ReconcilerConfig)
    (d : LogicalACStateDefaults) (ops : List KernelOp) :
    let r := Lib.run kernelStep (.new config d) ops
    (twin r.state).observed =
        ((Lib.latest report ops).map Prod.snd).getD (twin (LogicalACState.new d)).observed ∧
      stamp r.lastDeviceObserved = ((Lib.latest report ops).map Prod.fst).getD 0 := by
  have hstamp := Lib.run_view (fun r : Reconciler => stamp r.lastDeviceObserved) report Prod.fst
    h.stamp (.new config d) ops
  have hboot : stamp (Reconciler.new config d).lastDeviceObserved = 0 := h.boot
  rw [hboot] at hstamp
  exact ⟨Lib.run_view (fun r : Reconciler => (twin r.state).observed) report Prod.snd
    h.observed (.new config d) ops, hstamp⟩

/-- The guard refuses a value for a twin only when the latest report of the twin is younger
than the window, and disagrees. -/
theorem Tracks.report_of_refused (h : Tracks twin stamp report) {v : T}
    (hrefused : (Lib.run kernelStep (.new config d) ops).admits now
      (stamp (Lib.run kernelStep (.new config d) ops).lastDeviceObserved)
      (twin (Lib.run kernelStep (.new config d) ops).state) v = false) :
    ∃ t u, Lib.latest report ops = some (t, u) ∧ u ≠ v ∧
      now - config.deviceWinsWindowMs < t := by
  obtain ⟨hobserved, hstamp⟩ := h.run config d ops
  rw [← Bool.not_eq_true, admits_eq_true_iff, run_config, hobserved, hstamp] at hrefused
  rw [not_or, not_or, Int.not_le] at hrefused
  obtain ⟨hv, hreported, hwindow⟩ := hrefused
  cases hlatest : Lib.latest report ops with
  | none =>
      rw [hlatest] at hreported
      exact absurd rfl hreported
  | some p =>
      rw [hlatest] at hv hwindow
      refine ⟨p.1, p.2, rfl, Ne.symm hv, ?_⟩
      have hyoung : now - p.1 < config.deviceWinsWindowMs := hwindow
      omega

/-- Within the window after a report of the twin, the guard admits the reported value
only. -/
theorem Tracks.observed_of_admitted (h : Tracks twin stamp report) {t : Int} {u v : T}
    (hlatest : Lib.latest report ops = some (t, u)) (ht : t ≠ 0)
    (hwindow : now - t < config.deviceWinsWindowMs)
    (hadmitted : (Lib.run kernelStep (.new config d) ops).admits now
      (stamp (Lib.run kernelStep (.new config d) ops).lastDeviceObserved)
      (twin (Lib.run kernelStep (.new config d) ops).state) v = true) :
    v = (twin (Lib.run kernelStep (.new config d) ops).state).observed := by
  obtain ⟨-, hstamp⟩ := h.run config d ops
  rw [admits_eq_true_iff, run_config, hstamp, hlatest] at hadmitted
  rcases hadmitted with hv | hnever | hlate
  · exact hv
  · exact absurd hnever ht
  · have hold : config.deviceWinsWindowMs ≤ now - t := hlate
    omega

end Run

/-! ### Within the window -/

/-- The guard admits only what was reported, for the twins the device answers for. -/
structure DeviceWins (r : Reconciler) (now : Int) : Prop where
  onOff : ∀ v, r.admitsOnOff now v = true → v = r.state.onOff.observed
  mode : ∀ m, r.admitsMode now m = true → m = r.state.mode.observed
  fan : ∀ f, r.admitsFan now f = true → f = r.state.fan.observed
  heat : r.state.mode.observed = .heat →
    ∀ v, r.admitsHeat now v = true → v = r.state.heatSetpoint.observed
  cool : r.state.mode.observed = .cool →
    ∀ v, r.admitsCool now v = true → v = r.state.coolSetpoint.observed
  centre : r.state.mode.observed = .auto →
    ∀ v, r.admitsCentre now v = true → v = r.state.autoSetpoint.observed

/-- Power, mode, fan and the setpoint of the observed mode are wished for as before, or as
observed. -/
structure HeldTo (s : LogicalACState) (w w' : Wishes) : Prop where
  onOff : w'.onOff = w.onOff ∨ w'.onOff = s.onOff.observed
  mode : w'.mode = w.mode ∨ w'.mode = s.mode.observed
  fan : w'.fan = w.fan ∨ w'.fan = s.fan.observed
  setpoint : w'.activeSetpoint s.mode.observed = w.activeSetpoint s.mode.observed ∨
    w'.activeSetpoint s.mode.observed = (s.activeSetpoint s.mode.observed).observed

theorem HeldTo.refl (s : LogicalACState) (w : Wishes) : HeldTo s w w :=
  ⟨.inl rfl, .inl rfl, .inl rfl, .inl rfl⟩

theorem HeldTo.trans {s : LogicalACState} {w w' w'' : Wishes} (h₁ : HeldTo s w w')
    (h₂ : HeldTo s w' w'') : HeldTo s w w'' where
  onOff := h₂.onOff.elim (fun h => h ▸ h₁.onOff) .inr
  mode := h₂.mode.elim (fun h => h ▸ h₁.mode) .inr
  fan := h₂.fan.elim (fun h => h ▸ h₁.fan) .inr
  setpoint := h₂.setpoint.elim (fun h => h ▸ h₁.setpoint) .inr

/-- A guarded change of one wish has to be judged only where it is admitted. -/
theorem held_ite {T : Type} {admitted : Bool} {old new reported : T}
    (h : admitted = true → new = reported) :
    (if admitted then new else old) = old ∨ (if admitted then new else old) = reported := by
  cases admitted with
  | false => exact .inl rfl
  | true => exact .inr (h rfl)

/-- The same for the wishes as a whole. -/
theorem HeldTo.ite {s : LogicalACState} {w w' : Wishes} {admitted : Bool}
    (h : admitted = true → HeldTo s w w') : HeldTo s w (if admitted then w' else w) := by
  cases admitted with
  | false => exact .refl s w
  | true => exact h rfl

section Held

variable {r : Reconciler} {now : Int}

theorem DeviceWins.wishFan (h : DeviceWins r now) (w : Wishes) (f : FanSpeed) :
    HeldTo r.state w (r.wishFan now w f) := by
  refine HeldTo.ite fun hfan => ⟨?_, .inl rfl, .inr (h.fan f hfan), .inl rfl⟩
  refine held_ite fun hpower => ?_
  exact h.onOff true (Bool.and_eq_true_iff.mp hpower).2

theorem DeviceWins.wishCentre (h : DeviceWins r now) (hauto : r.state.mode.observed = .auto)
    (w : Wishes) (centre : Int16) : HeldTo r.state w (r.wishCentre now w centre) := by
  refine HeldTo.ite fun hcentre => ⟨.inl rfl, .inl rfl, .inl rfl, .inr ?_⟩
  rw [hauto]
  exact h.centre hauto centre hcentre

/-- One intent. -/
theorem DeviceWins.wish (h : DeviceWins r now) (w : Wishes) (i : WriteIntent) :
    HeldTo r.state w (r.wish now w i) := by
  cases i with
  | setOnOff value =>
      exact HeldTo.ite fun hon => ⟨.inr (h.onOff value hon), .inl rfl, .inl rfl, .inl rfl⟩
  | setSystemMode power mode =>
      simp only [Reconciler.wish]
      refine ⟨held_ite fun hon => ?_, held_ite fun hmode => ?_, .inl rfl, .inl rfl⟩
      · exact h.onOff power hon
      · exact h.mode mode (Bool.and_eq_true_iff.mp hmode).2
  | setOccupiedHeatingSetpoint value =>
      simp only [Reconciler.wish]
      split
      · exact h.wishCentre ‹_› w _
      · rename_i hheat
        refine HeldTo.ite fun hadmitted => ⟨.inl rfl, .inl rfl, .inl rfl, .inr ?_⟩
        rw [hheat]
        exact h.heat hheat value hadmitted
      · -- the heat shadow is not the setpoint in charge
        refine ⟨.inl rfl, .inl rfl, .inl rfl, .inl ?_⟩
        cases hobs : r.state.mode.observed <;> first | rfl | exact absurd hobs ‹_›
  | setOccupiedCoolingSetpoint value =>
      simp only [Reconciler.wish]
      split
      · exact h.wishCentre ‹_› w _
      · rename_i hcool
        refine HeldTo.ite fun hadmitted => ⟨.inl rfl, .inl rfl, .inl rfl, .inr ?_⟩
        rw [hcool]
        exact h.cool hcool value hadmitted
      · refine ⟨.inl rfl, .inl rfl, .inl rfl, .inl ?_⟩
        cases hobs : r.state.mode.observed <;> first | rfl | exact absurd hobs ‹_›
  | setSpeedSetting value => exact h.wishFan w value
  | setPercentSetting value =>
      cases value with
      | none => exact .refl _ _
      | some percent => exact h.wishFan w _

/-- Several intents, by induction on the list. -/
theorem DeviceWins.wishEach (h : DeviceWins r now) (w : Wishes) (is : List WriteIntent) :
    HeldTo r.state w (r.wishEach now w is) := by
  induction is generalizing w with
  | nil => exact .refl _ _
  | cons i is ih => exact (h.wish w i).trans (ih (r.wish now w i))

/-- A bundle, with the collapse of its edges. -/
theorem DeviceWins.wishBundle (h : DeviceWins r now) (w : Wishes) (is : List WriteIntent) :
    HeldTo r.state w (r.wishBundle now w is) := by
  unfold Reconciler.wishBundle
  cases lastHeat is with
  | none => exact h.wishEach w is
  | some heat =>
      cases lastCool is with
      | none => exact h.wishEach w is
      | some cool =>
          dsimp only
          by_cases hauto : r.state.mode.observed = .auto
          · rw [if_pos hauto]
            exact (h.wishCentre hauto w _).trans (h.wishEach _ _)
          · rw [if_neg hauto]
            exact h.wishEach w is

end Held

/-- The latest report of a run, as the twin it goes to sees it. -/
theorem latest_reportOf {T : Type} {part : S21OperationalObservation → Option T}
    {ops : List KernelOp} {t : Int} {obs : S21OperationalObservation} {u : T}
    (hlatest : Lib.latest KernelOp.timedReport ops = some (t, obs)) (hpart : part obs = some u) :
    Lib.latest (KernelOp.reportOf part) ops = some (t, u) :=
  Lib.latest_bind hlatest (by rw [hpart]; rfl)

/-- Within the window after the latest report of a run, the device wins. -/
theorem deviceWins_of_latest {config : ReconcilerConfig} {d : LogicalACStateDefaults}
    {ops : List KernelOp} {now t : Int} {obs : S21OperationalObservation}
    (hlatest : Lib.latest KernelOp.timedReport ops = some (t, obs)) (ht : t ≠ 0)
    (hwindow : now - t < config.deviceWinsWindowMs) :
    DeviceWins (Lib.run kernelStep (.new config d) ops) now := by
  -- the mode observed is the mode reported, so the setpoint went to the twin in charge
  have hmode : (Lib.run kernelStep (.new config d) ops).state.mode.observed =
      s21OperatingModeToOperationalMode obs.operatingMode := by
    have hreport : Lib.latest (KernelOp.reportOf modePart) ops =
        some (t, s21OperatingModeToOperationalMode obs.operatingMode) :=
      latest_reportOf hlatest rfl
    rw [(tracks_mode.run config d ops).1, hreport]
    rfl
  have hsetpoint : ∀ n : OperationalMode,
      (Lib.run kernelStep (.new config d) ops).state.mode.observed = n →
      Lib.latest (KernelOp.reportOf (setpointPart n)) ops = some (t, obs.setpointCelsius) := by
    intro n hn
    exact latest_reportOf hlatest (if_pos (hmode.symm.trans hn))
  refine ⟨fun v hv => ?_, fun m hm => ?_, fun f hf => ?_, fun hheat v hv => ?_,
    fun hcool v hv => ?_, fun hauto v hv => ?_⟩
  · exact tracks_onOff.observed_of_admitted (latest_reportOf hlatest rfl) ht hwindow hv
  · exact tracks_mode.observed_of_admitted (latest_reportOf hlatest rfl) ht hwindow hm
  · exact tracks_fan.observed_of_admitted (latest_reportOf hlatest rfl) ht hwindow hf
  · exact (tracks_setpoint (n := .heat) rfl).observed_of_admitted (hsetpoint .heat hheat) ht
      hwindow hv
  · exact (tracks_setpoint (n := .cool) rfl).observed_of_admitted (hsetpoint .cool hcool) ht
      hwindow hv
  · exact (tracks_setpoint (n := .auto) rfl).observed_of_admitted (hsetpoint .auto hauto) ht
      hwindow hv

/-- **Device wins.** Along every run with a positive clock, an intent or a bundle that comes
less than the window after the latest report leaves each of power, mode, fan and the
setpoint in charge desired as it was, or as observed. -/
theorem device_wins_within_window (config : ReconcilerConfig) (d : LogicalACStateDefaults)
    (ops : List KernelOp) (now t : Int) (obs : S21OperationalObservation)
    (hpositive : ∀ op ∈ ops, ∀ u, op.time = some u → 0 < u)
    (hlatest : Lib.latest KernelOp.timedReport ops = some (t, obs))
    (hwindow : now - t < config.deviceWinsWindowMs) :
    let r := Lib.run kernelStep (.new config d) ops
    let m := r.state.mode.observed
    let Wins := fun s : LogicalACState =>
      r.state.onOff.HeldTo s.onOff ∧ r.state.mode.HeldTo s.mode ∧ r.state.fan.HeldTo s.fan ∧
        (r.state.activeSetpoint m).HeldTo (s.activeSetpoint m)
    (∀ i, Wins (r.applyIntent now i).1.state) ∧
      (∀ is, Wins (r.applyIntentBundle now is).1.state) := by
  intro r m Wins
  have ht : t ≠ 0 := by
    obtain ⟨op, hop, hreport⟩ := Lib.exists_mem_of_latest hlatest
    obtain rfl := KernelOp.timedReport_eq_some hreport
    have htime : 0 < t := hpositive _ hop t rfl
    omega
  have hwins : DeviceWins r now := deviceWins_of_latest hlatest ht hwindow
  have hwishes : ∀ s : LogicalACState, HeldTo r.state r.state.wishes s.wishes → Wins s := by
    intro s h
    refine ⟨h.onOff, h.mode, h.fan, ?_⟩
    have hsetpoint := h.setpoint
    rwa [LogicalACState.wishes_activeSetpoint, LogicalACState.wishes_activeSetpoint] at hsetpoint
  constructor
  · intro i
    apply hwishes
    show HeldTo r.state r.state.wishes (r.apply now i).state.wishes
    rw [wishes_apply]
    exact hwins.wish _ i
  · intro is
    apply hwishes
    show HeldTo r.state r.state.wishes (r.applyBundle now is).state.wishes
    rw [wishes_applyBundle]
    exact hwins.wishBundle _ is

/-- A poll that finds the unit off, in Auto at 22 °C: what the bridge assumes at boot. -/
def idlePoll : S21OperationalObservation where
  onOff := false
  operatingMode := .auto
  setpointCelsius := 2200
  fanMode := .auto
  refrigerantValveOpen := none

/-- 100 ms after such a poll, a bundle that moves both edges of the band does not move its
centre. -/
theorem band_edit_after_poll_held :
    let ops := [KernelOp.applyOperationalObservation 20000 idlePoll]
    let r := Lib.run kernelStep (.new {} {}) ops
    ((r.applyIntentBundle 20100 [.setOccupiedHeatingSetpoint 2300,
      .setOccupiedCoolingSetpoint 2700]).1.state.autoSetpoint).desired = 2200 := by
  intro ops r
  have hpositive : ∀ op ∈ ops, ∀ u, op.time = some u → 0 < u := by
    intro op hop u hu
    obtain rfl := List.mem_singleton.mp hop
    obtain rfl := Option.some.inj hu
    decide
  obtain ⟨-, hbundles⟩ := device_wins_within_window {} {} ops 20100 20000 idlePoll hpositive rfl
    (by decide)
  obtain ⟨-, -, -, hheld⟩ := hbundles [.setOccupiedHeatingSetpoint 2300,
    .setOccupiedCoolingSetpoint 2700]
  rcases hheld with hsame | hobserved
  · exact hsame
  · exact hobserved

end Reconciler

end DaikinBridge.Sync
