import DaikinBridge.S21.Frame

/-!
# DaikinBridge.S21.Decoders

Which replies the presentation layer decodes without reading past their end.

A decoder checks the bytes of its response code one by one and then reads at fixed
positions, without looking at the length. `Reads` is about the second part, `Checked` about
the two together; both compose along the code of a decoder, so that each of the nine getters
is one line per byte it reads. `staysInBounds_iff` puts them side by side: a payload is
handled as it should be if it is long enough, or if a byte that it does have gives it away.
-/

namespace DaikinBridge.S21

/-! ### Decoders step by step -/

section Steps

variable {α β : Type} {r : Bytes}

theorem run_bind_of_none {d : Decoder α} (f : α → Decoder β) (h : d.run = none) :
    (d >>= f).run = none := by
  show d.run.bind (ExceptT.bindCont f) = none
  rw [h]
  rfl

theorem run_bind_of_ok {d : Decoder α} (f : α → Decoder β) {v : α} (h : d.run = some (.ok v)) :
    (d >>= f).run = (f v).run := by
  show d.run.bind (ExceptT.bindCont f) = (f v).run
  rw [h]
  rfl

theorem run_byteAt_of_none {i : Nat} (h : r[i]? = none) : (byteAt r i).run = none := by
  show (r[i]?).map Except.ok = none
  rw [h]
  rfl

theorem run_byteAt_of_some {i : Nat} {b : UInt8} (h : r[i]? = some b) :
    (byteAt r i).run = some (.ok b) := by
  show (r[i]?).map Except.ok = some (.ok b)
  rw [h]
  rfl

/-- The decoder reads the first `n` bytes of the payload, the last of them included, and
returns a value. -/
def Reads (r : Bytes) (n : Nat) (d : Decoder α) : Prop :=
  (r.length < n → d.run = none) ∧ (n ≤ r.length → ∃ v, d.run = some (.ok v))

theorem reads_pure (v : α) : Reads r 0 (pure v : Decoder α) :=
  ⟨fun h => absurd h (Nat.not_lt_zero _), fun _ => ⟨v, rfl⟩⟩

theorem reads_byteAt (i : Nat) : Reads r (i + 1) (byteAt r i) := by
  refine ⟨fun h => ?_, fun h => ?_⟩
  · exact run_byteAt_of_none (List.getElem?_eq_none (by omega))
  · exact ⟨r[i], run_byteAt_of_some (List.getElem?_eq_getElem h)⟩

theorem Reads.bind {n m : Nat} {d : Decoder α} {f : α → Decoder β} (hd : Reads r n d)
    (hf : ∀ v, Reads r m (f v)) : Reads r (max n m) (d >>= f) := by
  by_cases hn : n ≤ r.length
  · obtain ⟨v, hv⟩ := hd.2 hn
    unfold Reads
    rw [run_bind_of_ok f hv]
    exact ⟨fun h => (hf v).1 (by omega), fun h => (hf v).2 (by omega)⟩
  · refine ⟨fun _ => run_bind_of_none f (hd.1 (by omega)), fun h => absurd h (by omega)⟩

/-! ### Response codes -/

/-- A byte that the payload has, from `start` on, is not the one of the code. -/
def Mismatch (r : Bytes) (start : Nat) (code : Bytes) : Prop :=
  ∃ i b c, r[start + i]? = some b ∧ code[i]? = some c ∧ b ≠ c

theorem not_mismatch_nil (start : Nat) : ¬ Mismatch r start [] := by
  rintro ⟨i, b, c, -, hc, -⟩
  simp at hc

theorem mismatch_cons_iff {start : Nat} {c : UInt8} {code : Bytes} :
    Mismatch r start (c :: code) ↔
      (∃ b, r[start]? = some b ∧ b ≠ c) ∨ Mismatch r (start + 1) code := by
  constructor
  · rintro ⟨i, b, c', hb, hc, hne⟩
    cases i with
    | zero =>
        obtain rfl : c = c' := Option.some.inj hc
        exact .inl ⟨b, hb, hne⟩
    | succ i => exact .inr ⟨i, b, c', by rw [← hb]; congr 1; omega, hc, hne⟩
  · rintro (⟨b, hb, hne⟩ | ⟨i, b, c', hb, hc, hne⟩)
    · exact ⟨0, b, c, hb, rfl, hne⟩
    · exact ⟨i + 1, b, c', by rw [← hb]; congr 1; omega, hc, hne⟩

/-- The decoder checks the code from `start` on before it reads `n` bytes: a wrong byte is
reported, and without one the decoder reads. -/
structure Checked (r : Bytes) (start : Nat) (code : Bytes) (n : Nat) (d : Decoder α) :
    Prop where
  reports : Mismatch r start code → ∃ e, d.run = some (.error e)
  reads : ¬ Mismatch r start code → Reads r n d

/-- A payload that is decoded has the right code and all the bytes. -/
theorem Checked.of_ok {start n : Nat} {code : Bytes} {d : Decoder α} {v : α}
    (h : Checked r start code n d) (hv : d.run = some (.ok v)) :
    ¬ Mismatch r start code ∧ n ≤ r.length := by
  have hcode : ¬ Mismatch r start code := by
    intro hm
    obtain ⟨e, he⟩ := h.reports hm
    rw [he] at hv
    cases hv
  refine ⟨hcode, ?_⟩
  by_contra hshort
  rw [(h.reads hcode).1 (by omega)] at hv
  cases hv

theorem checked_nil {start n : Nat} {d : Decoder α} (h : Reads r n d) : Checked r start [] n d :=
  ⟨fun hmismatch => absurd hmismatch (not_mismatch_nil start), fun _ => h⟩

/-- One byte of the code. Where the payload has ended, no later byte can tell it from a
payload with the right code. -/
theorem checked_cons {start n : Nat} {c : UInt8} {code : Bytes} {d rest : Decoder α}
    (hn : start < n) (h : Checked r (start + 1) code n rest)
    (hd : d = byteAt r start >>= fun b =>
      if b ≠ c then throw "unexpected response code" else rest) :
    Checked r start (c :: code) n d := by
  subst hd
  cases hb : r[start]? with
  | none =>
      have hshort : r.length ≤ start := List.getElem?_eq_none_iff.mp hb
      have hnone := run_bind_of_none
        (fun b => if b ≠ c then throw "unexpected response code" else rest) (run_byteAt_of_none hb)
      refine ⟨?_, fun _ => ⟨fun _ => hnone, fun h => absurd h (by omega)⟩⟩
      rintro ⟨i, b, -, hi, -⟩
      rw [List.getElem?_eq_none (by omega)] at hi
      cases hi
  | some b =>
      have hrun := run_bind_of_ok
        (fun b => if b ≠ c then throw "unexpected response code" else rest) (run_byteAt_of_some hb)
      by_cases hc : b = c
      · rw [if_neg (not_not.mpr hc)] at hrun
        have hsame : Mismatch r start (c :: code) ↔ Mismatch r (start + 1) code := by
          rw [mismatch_cons_iff]
          refine or_iff_right ?_
          rintro ⟨b', hb', hne⟩
          rw [hb] at hb'
          exact hne (Option.some.inj hb' ▸ hc)
        exact ⟨fun hm => by rw [hrun]; exact h.reports (hsame.mp hm),
          fun hm => by unfold Reads; rw [hrun]; exact h.reads (hsame.not.mp hm)⟩
      · rw [if_pos hc] at hrun
        refine ⟨fun _ => ⟨_, hrun⟩, fun hm => absurd ?_ hm⟩
        exact mismatch_cons_iff.mpr (.inl ⟨b, hb, hc⟩)

/-- The first two bytes of the code are checked by `validateResponseCode`. -/
theorem checked_validated {n : Nat} {c0 c1 : UInt8} {code : Bytes} {body : Bytes → Decoder α}
    (hn : 2 ≤ n) (h : Checked r 2 code n (body r)) :
    Checked r 0 (c0 :: c1 :: code) n (validateResponseCode (.ok r) c0 c1 >>= body) := by
  refine checked_cons (by omega) (checked_cons (by omega) h rfl) ?_
  have hcode : validateResponseCode (.ok r) c0 c1 = byteAt r 0 >>= fun b =>
      if b ≠ c0 then throw "unexpected response code"
      else byteAt r 1 >>= fun b' =>
        if b' ≠ c1 then throw "unexpected response code" else pure r := rfl
  rw [hcode, bind_assoc]
  refine bind_congr fun b => ?_
  by_cases hb : b ≠ c0
  · rw [if_pos hb, if_pos hb]
    rfl
  · rw [if_neg hb, if_neg hb, bind_assoc]
    refine bind_congr fun b' => ?_
    by_cases hb' : b' ≠ c1
    · rw [if_pos hb', if_pos hb']
      rfl
    · rw [if_neg hb', if_neg hb', pure_bind]

end Steps

/-! ### The nine getters -/

/-- The getters of the presentation layer. -/
inductive Getter
  | getOperation
  | getRoomTemperature
  | getOutdoorTemperature
  | getHumidity
  | getCoarseTemperatureAndHumidity
  | getFanMode
  | getProtocolVersion
  | getExtendedProtocolVersion
  | getUnitState
  deriving DecidableEq, Repr

namespace Getter

/-- The response code the getter checks. -/
def code : Getter → Bytes
  | .getOperation => [0x47, 0x31]
  | .getRoomTemperature => [0x53, 0x48]
  | .getOutdoorTemperature => [0x53, 0x61]
  | .getHumidity => [0x53, 0x65]
  | .getCoarseTemperatureAndHumidity => [0x47, 0x39]
  | .getFanMode => [0x53, 0x47]
  | .getProtocolVersion => [0x47, 0x38]
  | .getExtendedProtocolVersion => [0x47, 0x59]
  | .getUnitState => [0x53, 0x7A, 0x42, 0x32]

/-- The length of the reply, up to the last byte the getter reads. -/
def replyLength : Getter → Nat
  | .getOperation => 6
  | .getRoomTemperature => 6
  | .getOutdoorTemperature => 6
  | .getHumidity => 5
  | .getCoarseTemperatureAndHumidity => 5
  | .getFanMode => 3
  | .getProtocolVersion => 4
  | .getExtendedProtocolVersion => 8
  | .getUnitState => 6

/-- Forget the value of an outcome. -/
def forget {α : Type} (d : Decoder α) : Option (Except String Unit) :=
  d.run.map fun outcome => outcome.map fun _ => ()

/-- What the getter does with a payload: `none` for a read past its end, and otherwise
whether the callback is given an error or a value. -/
def outcome (r : Bytes) : Getter → Option (Except String Unit)
  | .getOperation => forget (S21.getOperation (.ok r))
  | .getRoomTemperature => forget (S21.getRoomTemperature (.ok r))
  | .getOutdoorTemperature => forget (S21.getOutdoorTemperature (.ok r))
  | .getHumidity => forget (S21.getHumidity (.ok r))
  | .getCoarseTemperatureAndHumidity => forget (S21.getCoarseTemperatureAndHumidity (.ok r))
  | .getFanMode => forget (S21.getFanMode (.ok r))
  | .getProtocolVersion => forget (S21.getProtocolVersion (.ok r))
  | .getExtendedProtocolVersion => forget (S21.getExtendedProtocolVersion (.ok r))
  | .getUnitState => forget (S21.getUnitState (.ok r))

/-- The payload is not read past its end, and is reported where it is too short. -/
def StaysInBounds (g : Getter) (r : Bytes) : Prop :=
  g.outcome r ≠ none ∧ (r.length < g.replyLength → ∃ e, g.outcome r = some (.error e))

section Checks

variable (r : Bytes)

theorem reads_reversedDigits (offset : Nat) :
    Reads r (max (offset + 1) (max (offset + 2) (max (offset + 3) 0)))
      (decodeReversedDigits r offset) :=
  (reads_byteAt offset).bind fun _ => (reads_byteAt (offset + 1)).bind fun _ =>
    (reads_byteAt (offset + 2)).bind fun _ => reads_pure _

theorem reads_sensorTemp : Reads r 6 (decodeSensorTemp r 2) :=
  (reads_reversedDigits r 2).bind fun _ => (reads_byteAt 5).bind fun _ => reads_pure _

theorem checked_getOperation :
    Checked r 0 (code .getOperation) 6 (S21.getOperation (.ok r)) :=
  checked_validated (by decide) <| checked_nil <|
    (reads_byteAt 2).bind fun _ => (reads_byteAt 3).bind fun _ =>
      (reads_byteAt 4).bind fun _ => (reads_byteAt 5).bind fun _ => reads_pure _

theorem checked_getRoomTemperature :
    Checked r 0 (code .getRoomTemperature) 6 (S21.getRoomTemperature (.ok r)) :=
  checked_validated (by decide) (checked_nil (reads_sensorTemp r))

theorem checked_getOutdoorTemperature :
    Checked r 0 (code .getOutdoorTemperature) 6 (S21.getOutdoorTemperature (.ok r)) :=
  checked_validated (by decide) (checked_nil (reads_sensorTemp r))

theorem checked_getHumidity : Checked r 0 (code .getHumidity) 5 (S21.getHumidity (.ok r)) :=
  checked_validated (by decide) <| checked_nil <|
    (reads_reversedDigits r 2).bind fun _ => reads_pure _

theorem checked_getCoarse :
    Checked r 0 (code .getCoarseTemperatureAndHumidity) 5
      (S21.getCoarseTemperatureAndHumidity (.ok r)) :=
  checked_validated (by decide) <| checked_nil <|
    (reads_byteAt 2).bind fun _ => (reads_byteAt 3).bind fun _ =>
      (reads_byteAt 4).bind fun _ => reads_pure _

theorem checked_getFanMode : Checked r 0 (code .getFanMode) 3 (S21.getFanMode (.ok r)) :=
  checked_validated (by decide) <| checked_nil <| (reads_byteAt 2).bind fun _ => reads_pure _

theorem checked_getProtocolVersion :
    Checked r 0 (code .getProtocolVersion) 4 (S21.getProtocolVersion (.ok r)) :=
  checked_validated (by decide) <| checked_nil <|
    (reads_byteAt 2).bind fun _ => (reads_byteAt 3).bind fun _ => reads_pure _

theorem checked_getExtendedProtocolVersion :
    Checked r 0 (code .getExtendedProtocolVersion) 8 (S21.getExtendedProtocolVersion (.ok r)) :=
  checked_validated (by decide) <| checked_nil <|
    (reads_byteAt 4).bind fun _ => (reads_byteAt 5).bind fun _ =>
      (reads_byteAt 6).bind fun _ => (reads_byteAt 7).bind fun _ => reads_pure _

/-- The unit state has a code of four bytes. -/
theorem checked_getUnitState :
    Checked r 0 (code .getUnitState) 6 (S21.getUnitState (.ok r)) := by
  have hbits : Reads r 6 (decodeRzHexByte r 4) :=
    (reads_byteAt 4).bind fun _ => (reads_byteAt 5).bind fun _ => reads_pure _
  exact checked_validated (by decide) <| checked_cons (by decide)
    (checked_cons (by decide) (checked_nil (hbits.bind fun _ => reads_pure _)) rfl) rfl

end Checks

/-- What a checked decoder does with a payload. -/
theorem inBounds_iff_of_checked {α : Type} {r code : Bytes} {n : Nat} {d : Decoder α}
    (h : Checked r 0 code n d) :
    (forget d ≠ none ∧ (r.length < n → ∃ e, forget d = some (.error e))) ↔
      n ≤ r.length ∨ Mismatch r 0 code := by
  by_cases hm : Mismatch r 0 code
  · obtain ⟨e, he⟩ := h.reports hm
    have hforget : forget d = some (.error e) := by
      rw [forget, he]
      rfl
    refine iff_of_true ⟨?_, fun _ => ⟨e, hforget⟩⟩ (.inr hm)
    rw [hforget]
    exact Option.some_ne_none _
  · by_cases hn : n ≤ r.length
    · obtain ⟨v, hv⟩ := (h.reads hm).2 hn
      refine iff_of_true ⟨?_, fun hshort => absurd hn (by omega)⟩ (.inl hn)
      rw [forget, hv]
      exact Option.some_ne_none _
    · refine iff_of_false ?_ (not_or.mpr ⟨hn, hm⟩)
      rintro ⟨hbounds, -⟩
      rw [forget, (h.reads hm).1 (by omega)] at hbounds
      exact hbounds rfl

/-- **Reads in bounds.** A getter reads a payload within its bounds, and reports one that is
too short, if and only if the payload has all the bytes it reads, or a byte that it does
have is not the one of the response code. -/
theorem staysInBounds_iff (g : Getter) (r : Bytes) :
    g.StaysInBounds r ↔ g.replyLength ≤ r.length ∨
      ∃ (i : Nat) (b c : UInt8), r[i]? = some b ∧ g.code[i]? = some c ∧ b ≠ c := by
  have hmismatch : Mismatch r 0 g.code ↔
      ∃ (i : Nat) (b c : UInt8), r[i]? = some b ∧ g.code[i]? = some c ∧ b ≠ c := by
    unfold Mismatch
    simp only [Nat.zero_add]
  rw [← hmismatch]
  cases g with
  | getOperation => exact inBounds_iff_of_checked (checked_getOperation r)
  | getRoomTemperature => exact inBounds_iff_of_checked (checked_getRoomTemperature r)
  | getOutdoorTemperature => exact inBounds_iff_of_checked (checked_getOutdoorTemperature r)
  | getHumidity => exact inBounds_iff_of_checked (checked_getHumidity r)
  | getCoarseTemperatureAndHumidity => exact inBounds_iff_of_checked (checked_getCoarse r)
  | getFanMode => exact inBounds_iff_of_checked (checked_getFanMode r)
  | getProtocolVersion => exact inBounds_iff_of_checked (checked_getProtocolVersion r)
  | getExtendedProtocolVersion =>
      exact inBounds_iff_of_checked (checked_getExtendedProtocolVersion r)
  | getUnitState => exact inBounds_iff_of_checked (checked_getUnitState r)

/-- A unit that answers F1 with its response code and nothing else. -/
theorem bare_code_read_past_end :
    ¬ ∀ (frame r : Bytes) (g : Getter), Frame.decode frame = .ok r → g.StaysInBounds r := by
  intro hclaim
  have hpayload : Frame.decode (Frame.encode [0x47, 0x31]) = .ok [0x47, 0x31] := by decide
  obtain ⟨hbounds, -⟩ := hclaim _ _ .getOperation hpayload
  exact hbounds rfl

end Getter

end DaikinBridge.S21
