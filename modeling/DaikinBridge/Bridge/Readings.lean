import DaikinBridge.S21.Presentation
import DaikinBridge.Sync.Wishes

/-!
# DaikinBridge.Bridge.Readings

What the sensor decoders make of arbitrary bytes.

The decoders subtract `'0'` from whatever they find, scale, and narrow the result. They give
the documented values exactly on the replies that are well formed: temperatures on three
digits and a sign, and humidities on bytes whose number is, modulo 256, a percentage. In the
runs of the kernel whose humidities come from such replies, the projected humidity stays
within its range.
-/

namespace DaikinBridge.Bridge

open S21 Sync Sync.Reconciler

/-- An ASCII decimal digit. -/
def IsDigit (b : UInt8) : Prop := 0x30 ≤ b.toNat ∧ b.toNat ≤ 0x39

/-- The number of three digits, units first. -/
def reversedNumber (d0 d1 d2 : UInt8) : Int :=
  ((d0.toNat : Int) - 0x30) + ((d1.toNat : Int) - 0x30) * 10 + ((d2.toNat : Int) - 0x30) * 100

/-- An error, or plus or minus the temperature that three digits and a sign denote. -/
def DocumentedTemperature (d0 d1 d2 sign : UInt8) (outcome : Option (Except String Int16)) : Prop :=
  (∃ e, outcome = some (.error e)) ∨
    ((IsDigit d0 ∧ IsDigit d1 ∧ IsDigit d2) ∧ ∃ v, outcome = some (.ok v) ∧
      ((sign = 0x2B ∧ v.toInt = 10 * reversedNumber d0 d1 d2) ∨
        (sign = 0x2D ∧ v.toInt = -(10 * reversedNumber d0 d1 d2))))

/-- Three digits and a sign. -/
def WellFormedTemperature (d0 d1 d2 sign : UInt8) : Prop :=
  (IsDigit d0 ∧ IsDigit d1 ∧ IsDigit d2) ∧ (sign = 0x2B ∨ sign = 0x2D)

/-- An error, or a percentage. -/
def DocumentedHumidity (outcome : Option (Except String UInt8)) : Prop :=
  (∃ e, outcome = some (.error e)) ∨ ∃ v, outcome = some (.ok v) ∧ v.toNat ≤ 100

/-! ### Temperatures -/

theorem reversedNumber_bounds {d0 d1 d2 : UInt8} (h : IsDigit d0 ∧ IsDigit d1 ∧ IsDigit d2) :
    0 ≤ reversedNumber d0 d1 d2 ∧ reversedNumber d0 d1 d2 ≤ 999 := by
  obtain ⟨h0, h1, h2⟩ := h
  unfold IsDigit at h0 h1 h2
  unfold reversedNumber
  omega

theorem run_decodeSensorTemp (c0 c1 d0 d1 d2 sign : UInt8) (rest : Bytes) :
    (decodeSensorTemp (c0 :: c1 :: d0 :: d1 :: d2 :: sign :: rest) 2).run =
      some (.ok (Int16.ofInt ((if sign = 0x2B then reversedNumber d0 d1 d2
        else -reversedNumber d0 d1 d2) * 10))) := rfl

/-- The decoder never reports an error, so what it returns is documented exactly when there
is something to document. -/
theorem documentedTemperature_iff (c0 c1 d0 d1 d2 sign : UInt8) (rest : Bytes) :
    DocumentedTemperature d0 d1 d2 sign
        (decodeSensorTemp (c0 :: c1 :: d0 :: d1 :: d2 :: sign :: rest) 2).run ↔
      WellFormedTemperature d0 d1 d2 sign := by
  rw [run_decodeSensorTemp]
  constructor
  · rintro (⟨e, he⟩ | ⟨hdigits, v, -, ⟨hplus, -⟩ | ⟨hminus, -⟩⟩)
    · cases he
    · exact ⟨hdigits, .inl hplus⟩
    · exact ⟨hdigits, .inr hminus⟩
  · rintro ⟨hdigits, hsign⟩
    obtain ⟨hlo, hhi⟩ := reversedNumber_bounds hdigits
    refine .inr ⟨hdigits, _, rfl, ?_⟩
    rcases hsign with rfl | rfl
    · refine .inl ⟨rfl, ?_⟩
      rw [if_pos rfl, Int16.toInt_ofInt_of_le (by omega) (by omega)]
      omega
    · refine .inr ⟨rfl, ?_⟩
      rw [if_neg (by decide), Int16.toInt_ofInt_of_le (by omega) (by omega)]
      omega

/-! ### Humidities -/

/-- The bytes of a humidity reply, as a number modulo 256, are a percentage. -/
def PercentDigits (d0 d1 d2 : UInt8) : Prop :=
  (d0.toNat + 10 * d1.toNat + 100 * d2.toNat + 48) % 256 ≤ 100

/-- The humidity byte of a coarse reply is a percentage above `'0'`. -/
def PercentByte (b : UInt8) : Prop := 0x30 ≤ b.toNat ∧ b.toNat ≤ 0x94

theorem documentedHumidity_ok_iff {v : UInt8} :
    DocumentedHumidity (some (.ok v)) ↔ v.toNat ≤ 100 := by
  constructor
  · rintro (⟨e, he⟩ | ⟨v', hv, hle⟩)
    · cases he
    · cases hv
      exact hle
  · intro hle
    exact .inr ⟨v, rfl, hle⟩

theorem toNat_humidity (d0 d1 d2 : UInt8) :
    (UInt8.ofInt (reversedNumber d0 d1 d2)).toNat =
      (d0.toNat + 10 * d1.toNat + 100 * d2.toNat + 48) % 256 := by
  rw [UInt8.ofInt, UInt8.toNat_ofNat', reversedNumber]
  omega

theorem documentedHumidity_iff (d0 d1 d2 : UInt8) (rest : Bytes) :
    DocumentedHumidity (getHumidity (.ok (0x53 :: 0x65 :: d0 :: d1 :: d2 :: rest))).run ↔
      PercentDigits d0 d1 d2 := by
  have hrun : (getHumidity (.ok (0x53 :: 0x65 :: d0 :: d1 :: d2 :: rest))).run =
      some (.ok (UInt8.ofInt (reversedNumber d0 d1 d2))) := rfl
  rw [hrun, documentedHumidity_ok_iff, toNat_humidity]
  exact Iff.rfl

/-- The humidity of a coarse reply. -/
def coarseHumidity (response : Except String Bytes) : Option (Except String UInt8) :=
  (getCoarseTemperatureAndHumidity response).run.map fun outcome =>
    outcome.map GetCoarseTemperatureAndHumidityResult.humidity

theorem documentedCoarseHumidity_iff (indoor outdoor b : UInt8) (rest : Bytes) :
    DocumentedHumidity (coarseHumidity (.ok (0x47 :: 0x39 :: indoor :: outdoor :: b :: rest))) ↔
      PercentByte b := by
  have hrun : coarseHumidity (.ok (0x47 :: 0x39 :: indoor :: outdoor :: b :: rest)) =
      some (.ok (b - 0x30)) := rfl
  have hb := b.toNat_lt
  rw [hrun, documentedHumidity_ok_iff, PercentByte, UInt8.toNat_sub]
  simp only [UInt8.reduceToNat]
  omega

/-! ### The projected humidity -/

/-- The humidity an operation reports, if it does. -/
def reportedHumidity : KernelOp → Option UInt8
  | .applyEnvironmentalObservation obs => some obs.indoorRelativeHumidityPercent
  | _ => none

theorem humidity_apply (r : Reconciler) (now : Int) (i : WriteIntent) :
    (r.apply now i).state.humidity = r.state.humidity := by
  rw [state_apply]
  rfl

theorem humidity_applyBundle (r : Reconciler) (now : Int) (is : List WriteIntent) :
    (r.applyBundle now is).state.humidity = r.state.humidity := by
  refine applyBundle_keeps (P := fun r' => r'.state.humidity = r.state.humidity) r now ?_ ?_ rfl is
  · intro r' i h
    exact (humidity_apply r' now i).trans h
  · intro r' heat cool h
    unfold collapseAutoBand
    dsimp only
    split
    · exact h
    · exact h

/-- Only environmental observations move the humidity. -/
theorem humidity_kernelStep (r : Reconciler) (op : KernelOp) :
    (kernelStep r op).state.humidity.observed =
      ((reportedHumidity op).map some).getD r.state.humidity.observed := by
  cases op with
  | applyIntent now i =>
      exact congrArg SensorField.observed (humidity_apply r now i)
  | applyIntentBundle now is =>
      exact congrArg SensorField.observed (humidity_applyBundle r now is)
  | applyOperationalObservation now obs =>
      show (observeOperational r.state r.config obs).humidity.observed = _
      simp [observeOperational, reportedHumidity]
  | onCommandSent cmd =>
      show (r.onCommandSent cmd).state.humidity.observed = _
      simp [onCommandSent, reportedHumidity]
  | _ => rfl

/-- The observed humidity, if there is one, is a percentage. -/
def PercentObserved (r : Reconciler) : Prop :=
  ∀ v, r.state.humidity.observed = some v → v.toNat ≤ 100

theorem percentObserved_step (r : Reconciler) (op : KernelOp) (h : PercentObserved r)
    (hop : ∀ v, reportedHumidity op = some v → v.toNat ≤ 100) :
    PercentObserved (kernelStep r op) := by
  intro v hv
  rw [humidity_kernelStep] at hv
  cases hreport : reportedHumidity op with
  | none =>
      rw [hreport] at hv
      exact h v hv
  | some u =>
      rw [hreport] at hv
      obtain rfl : u = v := Option.some.inj hv
      exact hop u hreport

theorem projectedHumidity_le {r : Reconciler} (h : PercentObserved r) {v : UInt16}
    (hv : Projector.projectedHumidityCentiPercent r.state = some v) : v.toNat ≤ 10000 := by
  obtain ⟨u, hu, rfl⟩ := Option.map_eq_some_iff.mp hv
  have hle : u.toNat * 100 ≤ 10000 := Nat.mul_le_mul_right 100 (h u hu)
  rw [UInt16.toNat_ofNat']
  exact Nat.le_trans (Nat.mod_le _ _) hle

/-- The humidity was decoded from a reply that is a percentage. -/
def PercentReply (v : UInt8) : Prop :=
  (∃ d0 d1 d2 rest, PercentDigits d0 d1 d2 ∧
      (getHumidity (.ok (0x53 :: 0x65 :: d0 :: d1 :: d2 :: rest))).run = some (.ok v)) ∨
    ∃ indoor outdoor b rest, PercentByte b ∧
      coarseHumidity (.ok (0x47 :: 0x39 :: indoor :: outdoor :: b :: rest)) = some (.ok v)

theorem PercentReply.le {v : UInt8} (h : PercentReply v) : v.toNat ≤ 100 := by
  rcases h with ⟨d0, d1, d2, rest, hdigits, hrun⟩ | ⟨indoor, outdoor, b, rest, hbyte, hrun⟩
  · rw [← documentedHumidity_iff d0 d1 d2 rest, hrun] at hdigits
    exact documentedHumidity_ok_iff.mp hdigits
  · rw [← documentedCoarseHumidity_iff indoor outdoor b rest, hrun] at hbyte
    exact documentedHumidity_ok_iff.mp hbyte

/-- **Documented readings.** On a reply with the right code and length, the temperature
decoders give the documented value exactly when they find three digits and a sign, and the
humidity decoders exactly when the number they find is, modulo 256, a percentage. In every
run whose humidities come from such replies, the projected humidity stays below 10000. -/
theorem sensor_readings_documented_iff (b0 b1 b2 b3 : UInt8) (rest : Bytes)
    (config : ReconcilerConfig) (d : LogicalACStateDefaults) (ops : List KernelOp) :
    (DocumentedTemperature b0 b1 b2 b3
        (getRoomTemperature (.ok (0x53 :: 0x48 :: b0 :: b1 :: b2 :: b3 :: rest))).run ↔
      WellFormedTemperature b0 b1 b2 b3) ∧
    (DocumentedTemperature b0 b1 b2 b3
        (getOutdoorTemperature (.ok (0x53 :: 0x61 :: b0 :: b1 :: b2 :: b3 :: rest))).run ↔
      WellFormedTemperature b0 b1 b2 b3) ∧
    (DocumentedHumidity (getHumidity (.ok (0x53 :: 0x65 :: b0 :: b1 :: b2 :: rest))).run ↔
      PercentDigits b0 b1 b2) ∧
    (DocumentedHumidity (coarseHumidity (.ok (0x47 :: 0x39 :: b0 :: b1 :: b2 :: rest))) ↔
      PercentByte b2) ∧
    ((∀ v, d.humidity = some v → v.toNat ≤ 100) →
      (∀ op ∈ ops, ∀ v, reportedHumidity op = some v → PercentReply v) →
      Lib.Throughout kernelStep (fun r => ∀ v,
        Projector.projectedHumidityCentiPercent r.state = some v → v.toNat ≤ 10000)
        (.new config d) ops) := by
  refine ⟨documentedTemperature_iff 0x53 0x48 b0 b1 b2 b3 rest,
    documentedTemperature_iff 0x53 0x61 b0 b1 b2 b3 rest, documentedHumidity_iff b0 b1 b2 rest,
    documentedCoarseHumidity_iff b0 b1 b2 rest, ?_⟩
  intro hboot hreplies
  have hstart : PercentObserved (.new config d) := hboot
  have hrun : Lib.Throughout kernelStep PercentObserved (.new config d) ops := by
    refine Lib.throughout_of_along percentObserved_step hstart ?_
    refine Lib.along_of_forall fun op hop v hv => ?_
    exact (hreplies op hop v hv).le
  exact hrun.mono fun r h v hv => projectedHumidity_le h hv

/-- A humidity of 50 %, as it is projected. -/
theorem half_humid_projected :
    Lib.Throughout kernelStep (fun r => ∀ v,
      Projector.projectedHumidityCentiPercent r.state = some v → v.toNat ≤ 10000)
      boot [.applyEnvironmentalObservation ⟨2300, 1500, 50⟩] := by
  refine (sensor_readings_documented_iff 0x30 0x35 0x30 0x2B [] {} {} _).2.2.2.2 (by simp)
    fun op hop v hv => ?_
  obtain rfl := List.mem_singleton.mp hop
  obtain rfl : 50 = v := Option.some.inj hv
  exact .inl ⟨0x30, 0x35, 0x30, [], by unfold PercentDigits; decide, rfl⟩

/-- Three nines are a humidity of 231 %. -/
theorem nines_not_a_percentage :
    ¬ ∀ d0 d1 d2 rest, DocumentedHumidity
        (getHumidity (.ok (0x53 :: 0x65 :: d0 :: d1 :: d2 :: rest))).run := by
  intro hclaim
  have hnines := (documentedHumidity_iff 0x39 0x39 0x39 []).mp (hclaim 0x39 0x39 0x39 [])
  exact absurd hnines (by unfold PercentDigits; decide)

end DaikinBridge.Bridge
