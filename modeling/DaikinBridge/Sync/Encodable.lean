import DaikinBridge.Sync.CommandRouter
import DaikinBridge.Sync.Guard
import DaikinBridge.Lib.Midpoint

/-!
# DaikinBridge.Sync.Encodable

Which runs keep every command encodable.

The presentation layer refuses a setpoint outside 10..32 °C, so a command with one is lost,
and with it whatever else it carries. The setpoint of a command is a desired value, and
desired values come from the device, from SetpointRaiseLower, which clamps, and from
attribute writes, which are passed on as decoded. `AsksInRange` says of an intent that the
setpoint it asks for is in the range: the written value or, in Auto, the mean of it and
the other edge. It is exactly what keeps the desired setpoints in range
(`setpointsInRange_apply_iff`). In the runs whose setpoint writes meet it, every pending
command is accepted and the arithmetic of the Auto band never wraps
(`commands_encodable`); a single write of 50 °C breaks it (`hot_write_not_encodable`).
-/

namespace DaikinBridge.Sync

/-- The setpoints the presentation layer accepts. -/
def InRange (v : Int16) : Prop := 1000 ≤ v.toInt ∧ v.toInt ≤ 3200

instance (v : Int16) : Decidable (InRange v) :=
  inferInstanceAs (Decidable (1000 ≤ v.toInt ∧ v.toInt ≤ 3200))

/-- Every setpoint wished for is in range. -/
def Wishes.SetpointsInRange (w : Wishes) : Prop :=
  InRange w.heatSetpoint ∧ InRange w.coolSetpoint ∧ InRange w.autoSetpoint

theorem setpointsInRange_wishes_iff {s : LogicalACState} :
    s.wishes.SetpointsInRange ↔
      ∀ n : OperationalMode, n.bearsSetpoint = true → InRange (s.activeSetpoint n).desired := by
  constructor
  · rintro ⟨hheat, hcool, hauto⟩ n hn
    cases n with
    | auto => exact hauto
    | cool => exact hcool
    | heat => exact hheat
    | dry => cases hn
    | fanOnly => cases hn
  · intro h
    exact ⟨h .heat rfl, h .cool rfl, h .auto rfl⟩

/-- The limits a SetpointRaiseLower finds lie within the absolute ones. -/
def SetpointLimits.WithinAbs (l : SetpointLimits) : Prop :=
  (1000 ≤ l.minHeat.toInt ∧ l.minHeat.toInt ≤ 3000) ∧
    (1000 ≤ l.maxHeat.toInt ∧ l.maxHeat.toInt ≤ 3000) ∧
    (1600 ≤ l.minCool.toInt ∧ l.minCool.toInt ≤ 3200) ∧
    (1600 ≤ l.maxCool.toInt ∧ l.maxCool.toInt ≤ 3200)

instance (l : SetpointLimits) : Decidable l.WithinAbs :=
  inferInstanceAs (Decidable (_ ∧ _ ∧ _ ∧ _))

/-- Whatever the amount, the result lies between any bounds of the two limits. -/
theorem applySetpointDelta_mem {current lo hi : Int16} {amount : Int8} {a b : Int}
    (hlo : a ≤ lo.toInt ∧ lo.toInt ≤ b) (hhi : a ≤ hi.toInt ∧ hi.toInt ≤ b) :
    a ≤ (applySetpointDelta current amount lo hi).toInt ∧
      (applySetpointDelta current amount lo hi).toInt ≤ b := by
  rw [toInt_applySetpointDelta]
  dsimp only
  split <;> split <;> omega

namespace Reconciler

/-! ### The arithmetic of the Auto band -/

section Band

variable {r : Reconciler} {centre : Int16}

/-- The edges and centres of the band are computed without wrapping, from the desired
centre and for any edge a controller may write. -/
def BandExact (r : Reconciler) : Prop :=
  let centre := r.state.autoSetpoint.desired
  let half := r.config.projector.autoBandHalfWidthCentiC
  (Int16.ofInt (centre.toInt + half.toInt)).toInt = centre.toInt + half.toInt ∧
    (Int16.ofInt (centre.toInt - half.toInt)).toInt = centre.toInt - half.toInt ∧
    ∀ v : Int16,
      (r.centreForHeatEdge centre v).toInt = (centre.toInt + half.toInt + v.toInt).tdiv 2 ∧
      (r.centreForCoolEdge centre v).toInt = (v.toInt + (centre.toInt - half.toInt)).tdiv 2

theorem toInt_halfWidth (hconfig : r.config = {}) :
    r.config.projector.autoBandHalfWidthCentiC.toInt = 50 := by
  rw [hconfig]
  rfl

theorem bandExact (hconfig : r.config = {}) (h : InRange r.state.autoSetpoint.desired) :
    r.BandExact := by
  obtain ⟨hlo, hhi⟩ := h
  have hcool : (Int16.ofInt (r.state.autoSetpoint.desired.toInt + 50)).toInt =
      r.state.autoSetpoint.desired.toInt + 50 :=
    Int16.toInt_ofInt_of_le (by omega) (by omega)
  have hheat : (Int16.ofInt (r.state.autoSetpoint.desired.toInt - 50)).toInt =
      r.state.autoSetpoint.desired.toInt - 50 :=
    Int16.toInt_ofInt_of_le (by omega) (by omega)
  unfold BandExact centreForHeatEdge centreForCoolEdge
  dsimp only
  rw [toInt_halfWidth hconfig]
  refine ⟨hcool, hheat, fun v => ?_⟩
  have hv := v.le_toInt
  have hv' := v.toInt_lt
  rw [hcool, hheat]
  exact ⟨Lib.toInt_midpoint (by omega) (by omega), Lib.toInt_midpoint (by omega) (by omega)⟩

end Band

/-! ### Intents -/

section Intent

variable (r : Reconciler) (now : Int)

/-- The mean of a written heat edge and the cool edge of the band. -/
def heatEdgeMean (value : Int16) : Int :=
  (r.state.autoSetpoint.desired.toInt + r.config.projector.autoBandHalfWidthCentiC.toInt +
    value.toInt).tdiv 2

/-- The mean of a written cool edge and the heat edge of the band. -/
def coolEdgeMean (value : Int16) : Int :=
  (value.toInt + (r.state.autoSetpoint.desired.toInt -
    r.config.projector.autoBandHalfWidthCentiC.toInt)).tdiv 2

/-- The setpoint an intent asks for is in range, where the guard lets it have one: in Auto
an edge asks for the mean of the two edges, and in other modes it asks for itself. -/
def AsksInRange : WriteIntent → Prop
  | .setOccupiedHeatingSetpoint value =>
      match r.state.mode.observed with
      | .auto =>
          r.admitsCentre now (r.centreForHeatEdge r.state.autoSetpoint.desired value) = true →
            1000 ≤ r.heatEdgeMean value ∧ r.heatEdgeMean value ≤ 3200
      | .heat => r.admitsHeat now value = true → InRange value
      | _ => InRange value
  | .setOccupiedCoolingSetpoint value =>
      match r.state.mode.observed with
      | .auto =>
          r.admitsCentre now (r.centreForCoolEdge r.state.autoSetpoint.desired value) = true →
            1000 ≤ r.coolEdgeMean value ∧ r.coolEdgeMean value ≤ 3200
      | .cool => r.admitsCool now value = true → InRange value
      | _ => InRange value
  | _ => True

variable {r now}

/-- A guarded change of one setpoint. -/
theorem setpointsInRange_ite_iff {w w' : Wishes} {admitted : Bool} {p : Prop}
    (h : w.SetpointsInRange) (h' : w'.SetpointsInRange ↔ p) :
    (if admitted then w' else w).SetpointsInRange ↔ (admitted = true → p) := by
  cases admitted with
  | false => exact iff_of_true h fun hfalse => absurd hfalse Bool.false_ne_true
  | true => exact ⟨fun hw _ => h'.mp hw, fun hv => h'.mpr (hv rfl)⟩

/-- Fan wishes are about power and fan. -/
theorem setpointsInRange_wishFan {w : Wishes} (h : w.SetpointsInRange) (fan : FanSpeed) :
    (r.wishFan now w fan).SetpointsInRange := by
  unfold wishFan
  split
  · exact h
  · exact h

/-- **One intent.** From setpoints in range, an intent leads to setpoints in range if and
only if it asks for one. -/
theorem setpointsInRange_apply_iff (hconfig : r.config = {})
    (h : r.state.wishes.SetpointsInRange) (i : WriteIntent) :
    (r.apply now i).state.wishes.SetpointsInRange ↔ r.AsksInRange now i := by
  rw [wishes_apply]
  obtain ⟨hheat, hcool, hauto⟩ := h
  obtain ⟨-, -, hmean⟩ := bandExact hconfig hauto
  have hcentre : ∀ v, Wishes.SetpointsInRange { r.state.wishes with autoSetpoint := v } ↔
      1000 ≤ v.toInt ∧ v.toInt ≤ 3200 := fun v => ⟨fun hw => hw.2.2, fun hv => ⟨hheat, hcool, hv⟩⟩
  cases i with
  | setOnOff value =>
      refine iff_of_true ?_ trivial
      simp only [wish]
      split
      · exact ⟨hheat, hcool, hauto⟩
      · exact ⟨hheat, hcool, hauto⟩
  | setSystemMode power mode => exact iff_of_true ⟨hheat, hcool, hauto⟩ trivial
  | setOccupiedHeatingSetpoint value =>
      have hchange : ∀ v, Wishes.SetpointsInRange { r.state.wishes with heatSetpoint := v } ↔
          InRange v := fun v => ⟨fun hw => hw.1, fun hv => ⟨hv, hcool, hauto⟩⟩
      simp only [wish, AsksInRange]
      cases r.state.mode.observed with
      | auto =>
          refine setpointsInRange_ite_iff ⟨hheat, hcool, hauto⟩ ((hcentre _).trans ?_)
          rw [heatEdgeMean, ← (hmean value).1]
          exact Iff.rfl
      | heat => exact setpointsInRange_ite_iff ⟨hheat, hcool, hauto⟩ (hchange value)
      | _ => exact hchange value
  | setOccupiedCoolingSetpoint value =>
      have hchange : ∀ v, Wishes.SetpointsInRange { r.state.wishes with coolSetpoint := v } ↔
          InRange v := fun v => ⟨fun hw => hw.2.1, fun hv => ⟨hheat, hv, hauto⟩⟩
      simp only [wish, AsksInRange]
      cases r.state.mode.observed with
      | auto =>
          refine setpointsInRange_ite_iff ⟨hheat, hcool, hauto⟩ ((hcentre _).trans ?_)
          rw [coolEdgeMean, ← (hmean value).2]
          exact Iff.rfl
      | cool => exact setpointsInRange_ite_iff ⟨hheat, hcool, hauto⟩ (hchange value)
      | _ => exact hchange value
  | setSpeedSetting value =>
      exact iff_of_true (setpointsInRange_wishFan ⟨hheat, hcool, hauto⟩ value) trivial
  | setPercentSetting value =>
      cases value with
      | none => exact iff_of_true ⟨hheat, hcool, hauto⟩ trivial
      | some percent =>
          exact iff_of_true (setpointsInRange_wishFan ⟨hheat, hcool, hauto⟩ _) trivial

theorem asksInRange_of_edgeFree {i : WriteIntent} (h : EdgeFree i) : r.AsksInRange now i := by
  cases i with
  | setOccupiedHeatingSetpoint value => cases h
  | setOccupiedCoolingSetpoint value => cases h
  | _ => trivial

/-- A heat edge between 10 and 30 °C asks for a setpoint in range, in Auto by the cool edge
of a centre in range. -/
theorem asksInRange_heat (hconfig : r.config = {}) (h : InRange r.state.autoSetpoint.desired)
    {v : Int16} (hv : 1000 ≤ v.toInt ∧ v.toInt ≤ 3000) :
    r.AsksInRange now (.setOccupiedHeatingSetpoint v) := by
  have hrange : InRange v := ⟨hv.1, by omega⟩
  have hmean : 1000 ≤ r.heatEdgeMean v ∧ r.heatEdgeMean v ≤ 3200 := by
    obtain ⟨hlo, hhi⟩ := h
    rw [heatEdgeMean, toInt_halfWidth hconfig, Int.tdiv_eq_ediv_of_nonneg (by omega)]
    omega
  simp only [AsksInRange]
  split
  · exact fun _ => hmean
  · exact fun _ => hrange
  · exact hrange

/-- A cool edge between 16 and 32 °C asks for a setpoint in range. -/
theorem asksInRange_cool (hconfig : r.config = {}) (h : InRange r.state.autoSetpoint.desired)
    {v : Int16} (hv : 1600 ≤ v.toInt ∧ v.toInt ≤ 3200) :
    r.AsksInRange now (.setOccupiedCoolingSetpoint v) := by
  have hrange : InRange v := ⟨by omega, hv.2⟩
  have hmean : 1000 ≤ r.coolEdgeMean v ∧ r.coolEdgeMean v ≤ 3200 := by
    obtain ⟨hlo, hhi⟩ := h
    rw [coolEdgeMean, toInt_halfWidth hconfig, Int.tdiv_eq_ediv_of_nonneg (by omega)]
    omega
  simp only [AsksInRange]
  split
  · exact fun _ => hmean
  · exact fun _ => hrange
  · exact hrange

end Intent

/-! ### The other operations -/

section Operations

variable {r : Reconciler}

/-- A report in range leaves setpoints in range. -/
theorem setpointsInRange_observe (h : r.state.wishes.SetpointsInRange) (now : Int)
    {obs : S21OperationalObservation} (hobs : InRange obs.setpointCelsius) :
    (r.applyOperationalObservation now obs).1.state.wishes.SetpointsInRange := by
  rw [setpointsInRange_wishes_iff] at h ⊢
  intro n hn
  show InRange ((observeOperational r.state r.config obs).activeSetpoint n).desired
  rw [observe_activeSetpoint r.state r.config obs hn]
  split
  · rw [TwinField.applyObservation_desired]
    split
    · exact hobs
    · exact h n hn
  · exact h n hn

theorem setpointsInRange_sent (h : r.state.wishes.SetpointsInRange) (c : S21OperationCommand) :
    (r.onCommandSent c).state.wishes.SetpointsInRange := by
  rw [setpointsInRange_wishes_iff] at h ⊢
  intro n hn
  rw [sent_activeSetpoint r c hn]
  split
  · exact h n hn
  · exact h n hn

end Operations

/-! ### The machine -/

/-- What reaches the kernel. A SetpointRaiseLower comes in halves, each with the setpoint
it has read; other operations may fall between the two. -/
inductive BridgeInput
  | thermostatWrite (now : Int) (w : ThermostatWrite)
  | fanControlWrite (now : Int) (w : FanControlWrite)
  | onOffWrite (now : Int) (value : Except DecodeError Bool)
  | onOffCommand (now : Int) (c : OnOffCommand)
  | raiseLowerHeat (now : Int) (limits : SetpointLimits) (current : Int16) (amount : Int8)
  | raiseLowerCool (now : Int) (limits : SetpointLimits) (current : Int16) (amount : Int8)
  | intent (now : Int) (i : WriteIntent)
  | operationalObservation (now : Int) (obs : S21OperationalObservation)
  | environmentalObservation (obs : S21EnvironmentalObservation)
  | commandSent (c : S21OperationCommand)
  | commandFailed
  | linkDown

/-- One input; the state it leaves. -/
def bridgeStep (r : Reconciler) : BridgeInput → Reconciler
  | .thermostatWrite now w => (r.thermostatWrite now w).1
  | .fanControlWrite now w => (r.fanControlWrite now w).1
  | .onOffWrite now value => (r.onOffWrite now value).1
  | .onOffCommand now c => ((r.invokeOnOff now c).map Prod.fst).getD r
  | .raiseLowerHeat now limits current amount => r.raiseLowerHeat now limits current amount
  | .raiseLowerCool now limits current amount => r.raiseLowerCool now limits current amount
  | .intent now i => (r.applyIntent now i).1
  | .operationalObservation now obs => (r.applyOperationalObservation now obs).1
  | .environmentalObservation obs => (r.applyEnvironmentalObservation obs).1
  | .commandSent c => r.onCommandSent c
  | .commandFailed => r.onCommandFailed
  | .linkDown => r.notifyLinkDown

/-- The halves of a SetpointRaiseLower command, with the setpoints they read. -/
def raiseLowerHalves (r : Reconciler) (now : Int) (limits : SetpointLimits) (mode : SetpointMode)
    (amount : Int8) : List BridgeInput :=
  let heat := BridgeInput.raiseLowerHeat now limits
    (Projector.projectedOccupiedHeatingSetpoint r.config.projector r.state) amount
  let cool := fun r : Reconciler => BridgeInput.raiseLowerCool now limits
    (Projector.projectedOccupiedCoolingSetpoint r.config.projector r.state) amount
  match mode with
  | .kHeat => [heat]
  | .kCool => [cool r]
  | .kBoth => [heat, cool (bridgeStep r heat)]
  | .unknown => []

/-- The command is the run of its halves. -/
theorem handleSetpointRaiseLower_eq_run (r : Reconciler) (now : Int) (limits : SetpointLimits)
    (mode : SetpointMode) (amount : Int8) :
    (r.handleSetpointRaiseLower now limits mode amount).1 =
      Lib.run bridgeStep r (r.raiseLowerHalves now limits mode amount) := by
  cases mode <;> rfl

/-- The inputs a run may have: intents other than setpoint writes, which come from
controllers through the handlers, limits within the absolute ones, and reports within
the range of the device. -/
def BridgeInput.Expected : BridgeInput → Prop
  | .intent _ i => EdgeFree i
  | .raiseLowerHeat _ limits _ _ => limits.WithinAbs
  | .raiseLowerCool _ limits _ _ => limits.WithinAbs
  | .operationalObservation _ obs => InRange obs.setpointCelsius
  | _ => True

/-- A setpoint write asks for a setpoint in range. -/
def WriteInRange (r : Reconciler) : BridgeInput → Prop
  | .thermostatWrite now (.occupiedHeatingSetpoint (.ok v)) =>
      r.AsksInRange now (.setOccupiedHeatingSetpoint v)
  | .thermostatWrite now (.occupiedCoolingSetpoint (.ok v)) =>
      r.AsksInRange now (.setOccupiedCoolingSetpoint v)
  | _ => True

/-- The invariant. -/
structure SetpointsKept (r : Reconciler) : Prop where
  config : r.config = {}
  inRange : r.state.wishes.SetpointsInRange

theorem setpointsKept_boot : SetpointsKept boot where
  config := rfl
  inRange := ⟨by decide, by decide, by decide⟩

section Kept

variable {r : Reconciler}

theorem SetpointsKept.intent (h : SetpointsKept r) {now : Int} {i : WriteIntent}
    (hi : r.AsksInRange now i) : SetpointsKept (r.applyIntent now i).1 :=
  ⟨h.config, (setpointsInRange_apply_iff h.config h.inRange i).mpr hi⟩

theorem SetpointsKept.routes {P : WriteIntent → Prop} (h : SetpointsKept r) {now : Int}
    {r' : Reconciler} (hr : Routes P r now r') (hP : ∀ i, P i → r.AsksInRange now i) :
    SetpointsKept r' := by
  rcases hr with rfl | ⟨i, hi, rfl⟩
  · exact h
  · exact h.intent (hP i hi)

/-- A handler that routes no setpoint keeps the setpoints. -/
theorem SetpointsKept.edgeFree (h : SetpointsKept r) {now : Int} {r' : Reconciler}
    (hr : Routes EdgeFree r now r') : SetpointsKept r' :=
  h.routes hr fun _ hi => asksInRange_of_edgeFree hi

/-- One expected input whose write, if it is one, asks for a setpoint in range. -/
theorem setpointsKept_step (r : Reconciler) (input : BridgeInput) (h : SetpointsKept r)
    (hinput : input.Expected ∧ WriteInRange r input) : SetpointsKept (bridgeStep r input) := by
  obtain ⟨hexpected, hwrite⟩ := hinput
  cases input with
  | thermostatWrite now w =>
      refine h.routes (thermostatWrite_routes r now w) fun i hi => ?_
      rcases hi with hfree | ⟨v, rfl, rfl⟩ | ⟨v, rfl, rfl⟩
      · exact asksInRange_of_edgeFree hfree
      · exact hwrite
      · exact hwrite
  | fanControlWrite now w => exact h.edgeFree (fanControlWrite_routes r now w)
  | onOffWrite now value => exact h.edgeFree (onOffWrite_routes r now value)
  | onOffCommand now c =>
      show SetpointsKept (((r.invokeOnOff now c).map Prod.fst).getD r)
      cases hc : r.invokeOnOff now c with
      | none => exact h
      | some result => exact h.edgeFree (invokeOnOff_routes r now hc)
  | raiseLowerHeat now limits current amount =>
      obtain ⟨hlo, hhi, -, -⟩ := hexpected
      exact h.intent (asksInRange_heat h.config h.inRange.2.2 (applySetpointDelta_mem hlo hhi))
  | raiseLowerCool now limits current amount =>
      obtain ⟨-, -, hlo, hhi⟩ := hexpected
      exact h.intent (asksInRange_cool h.config h.inRange.2.2 (applySetpointDelta_mem hlo hhi))
  | intent now i => exact h.intent (asksInRange_of_edgeFree hexpected)
  | operationalObservation now obs =>
      exact ⟨h.config, setpointsInRange_observe h.inRange now hexpected⟩
  | environmentalObservation obs => exact ⟨h.config, h.inRange⟩
  | commandSent c => exact ⟨h.config, setpointsInRange_sent h.inRange c⟩
  | commandFailed => exact ⟨h.config, h.inRange⟩
  | linkDown => exact ⟨h.config, h.inRange⟩

end Kept

/-! ### Encodable commands -/

/-- The pending command has a setpoint in range, and the presentation layer accepts it. -/
def CommandEncodable (r : Reconciler) : Prop :=
  ∀ c, r.pendingCommand = some c → InRange c.setpointCelsius ∧
    ∃ payload, S21.setOperation c.onOff c.operatingMode c.setpointCelsius c.fanMode = .ok payload

theorem SetpointsKept.encodable {r : Reconciler} (h : SetpointsKept r) : CommandEncodable r := by
  intro c hc
  obtain ⟨-, rfl, -⟩ := pendingCommand_eq_some_iff.mp hc
  have hrange : InRange (desiredCommand r.state).setpointCelsius := by
    rw [desiredCommand_setpoint, ← LogicalACState.activeSetpoint_setpointMode]
    exact setpointsInRange_wishes_iff.mp h.inRange _ (OperationalMode.bearsSetpoint_setpointMode _)
  refine ⟨hrange, _, if_neg ?_⟩
  have hlo := hrange.1
  have hhi := hrange.2
  omega

/-- **Encodable commands.** Take any run from boot, of writes and commands of controllers
with any values and amounts, power, mode and fan intents, and reports of setpoints within
10..32 °C, in which every setpoint write asks for a setpoint in that range. In every state
of the run a pending command is accepted by the presentation layer, and the arithmetic of
the Auto band does not wrap. -/
theorem commands_encodable {inputs : List BridgeInput}
    (hexpected : ∀ input ∈ inputs, input.Expected)
    (hwrites : Lib.Along bridgeStep WriteInRange boot inputs) :
    Lib.Throughout bridgeStep (fun r => CommandEncodable r ∧ BandExact r) boot inputs := by
  have hkept : Lib.Throughout bridgeStep SetpointsKept boot inputs :=
    Lib.throughout_of_along setpointsKept_step setpointsKept_boot (hwrites.and_forall hexpected)
  refine hkept.mono fun r h => ⟨h.encodable, ?_⟩
  exact bandExact h.config h.inRange.2.2

/-- A write of 24 °C to the heat edge, then Heat, then a write of 21 °C. -/
theorem warm_writes_encodable :
    let inputs : List BridgeInput :=
      [.thermostatWrite 1 (.occupiedHeatingSetpoint (.ok 2400)),
        .thermostatWrite 2 (.systemMode (.ok .kHeat)),
        .thermostatWrite 3 (.occupiedHeatingSetpoint (.ok 2100))]
    Lib.Throughout bridgeStep (fun r => CommandEncodable r ∧ BandExact r) boot inputs := by
  intro inputs
  refine commands_encodable (fun input hinput => ?_) ⟨?_, trivial, ?_, trivial⟩
  · rcases List.mem_cons.mp hinput with rfl | hinput
    · trivial
    · rcases List.mem_cons.mp hinput with rfl | hinput
      · trivial
      · obtain rfl := List.mem_singleton.mp hinput
        trivial
  · exact fun _ => by decide
  · exact fun _ => by decide +kernel

/-- A single write of 50 °C to an edge of the Auto band makes a command that the
presentation layer refuses. -/
theorem hot_write_not_encodable :
    ¬ ∀ inputs : List BridgeInput, (∀ input ∈ inputs, input.Expected) →
      Lib.Throughout bridgeStep (fun r => CommandEncodable r ∧ BandExact r) boot inputs := by
  intro hclaim
  let write : BridgeInput := .thermostatWrite 1 (.occupiedHeatingSetpoint (.ok 5000))
  have hexpected : ∀ input ∈ [write], input.Expected := by
    intro input hinput
    obtain rfl := List.mem_singleton.mp hinput
    trivial
  obtain ⟨hencodable, -⟩ := (hclaim [write] hexpected).last
  obtain ⟨⟨-, hhi⟩, -⟩ := hencodable ⟨false, .auto, 3625, .auto⟩ (by decide +kernel)
  exact absurd hhi (by decide)

end Reconciler

end DaikinBridge.Sync
