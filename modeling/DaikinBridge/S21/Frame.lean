import DaikinBridge.S21.Presentation
import Mathlib.Algebra.GroupWithZero.Nat
import Mathlib.Data.List.Basic
import Mathlib.Data.Set.Insert

/-!
# DaikinBridge.S21.Frame

The frame codec of `src/s21/s21_frame.cpp`: a payload between STX and ETX, with a
checksum byte that avoids the reserved bytes.

`decode_layout` is decoding on bytes already split into their four parts; that the
decoder accepts the frames of the encoder and no other bytes (`decode_eq_ok_iff`)
follows from it. Avoiding the reserved bytes makes ten sums share five checksums, and
these are the errors beyond a plain sum that the checksum misses (`computeChecksum_eq_iff`).
-/

namespace DaikinBridge.S21.Frame

/-- The bytes a checksum must not be. -/
def kReserved : Bytes := [0x02, 0x03, 0x06, 0x0A, 0x15]

/-- The sum of the payload bytes, moved on by two when it is reserved; the loop over
the reserved bytes stops at the first hit. -/
def computeChecksum (payload : Bytes) : UInt8 :=
  let sum := payload.foldl (fun acc b => acc + b) 0
  if sum ∈ kReserved then sum + 2 else sum

/-- The frame of a payload: STX, the payload, its checksum, ETX. -/
def encode (payload : Bytes) : Bytes :=
  [0x02] ++ payload ++ [computeChecksum payload, 0x03]

/-- The payload of a frame, or what is wrong with the frame. -/
def decode (frame : Bytes) : Except String Bytes :=
  if frame.length < 4 then .error "frame too short"
  else if frame.head? ≠ some 0x02 then .error "missing STX"
  else if frame.getLast? ≠ some 0x03 then .error "missing ETX"
  else
    let payload := (frame.drop 1).take (frame.length - 3)
    if some (computeChecksum payload) ≠ frame[frame.length - 2]? then .error "bad checksum"
    else .ok payload

/-! ### The grammar -/

/-- Two past a reserved byte is no reserved byte, and there is no wrap. -/
theorem add_two_of_reserved {r : UInt8} (h : r ∈ kReserved) :
    r + 2 ∉ kReserved ∧ (r + 2).toNat = r.toNat + 2 := by
  simp only [kReserved, List.mem_cons, List.not_mem_nil, or_false] at h
  obtain rfl | rfl | rfl | rfl | rfl := h
  all_goals decide

/-- Checksums avoid the reserved bytes. -/
theorem computeChecksum_not_reserved (payload : Bytes) : computeChecksum payload ∉ kReserved := by
  unfold computeChecksum
  generalize payload.foldl (fun acc b => acc + b) 0 = sum
  dsimp only
  split
  · exact (add_two_of_reserved ‹_›).1
  · assumption

/-- Three bytes or more are a first byte, a middle, and two last bytes. -/
theorem exists_layout {frame : Bytes} (h : 3 ≤ frame.length) :
    ∃ stx payload sum etx, frame = stx :: (payload ++ [sum, etx]) := by
  cases frame with
  | nil => simp at h
  | cons stx rest =>
      have hlen : rest.length - 2 + 2 = rest.length := by
        simp only [List.length_cons] at h
        omega
      have htail : (rest.drop (rest.length - 2)).length = 2 := by
        rw [List.length_drop]
        omega
      obtain ⟨sum, etx, hlast⟩ := List.length_eq_two.mp htail
      refine ⟨stx, rest.take (rest.length - 2), sum, etx, ?_⟩
      rw [← hlast, List.take_append_drop]

/-- Decoding, on bytes already laid out. -/
theorem decode_layout (stx sum etx : UInt8) (payload : Bytes) :
    decode (stx :: (payload ++ [sum, etx])) =
      if payload = [] then .error "frame too short"
      else if stx ≠ 0x02 then .error "missing STX"
      else if etx ≠ 0x03 then .error "missing ETX"
      else if computeChecksum payload ≠ sum then .error "bad checksum"
      else .ok payload := by
  have hlen : (stx :: (payload ++ [sum, etx])).length = payload.length + 3 := by simp
  have hshort : payload.length + 3 < 4 ↔ payload = [] := by
    rw [← List.length_eq_zero_iff]
    omega
  have hlast : (stx :: (payload ++ [sum, etx])).getLast? = some etx := by
    rw [← List.cons_append, show [sum, etx] = [sum] ++ [etx] from rfl, ← List.append_assoc,
      List.getLast?_concat]
  have hmiddle : ((stx :: (payload ++ [sum, etx])).drop 1).take (payload.length + 3 - 3) =
      payload := by
    simp
  have hsum : (stx :: (payload ++ [sum, etx]))[payload.length + 3 - 2]? = some sum := by
    simp
  unfold decode
  rw [hlen, hlast]
  simp only [hshort, hmiddle, hsum, List.head?_cons, ne_eq, Option.some.injEq]

theorem encode_eq_layout (payload : Bytes) :
    encode payload = 0x02 :: (payload ++ [computeChecksum payload, 0x03]) := rfl

/-- A frame is accepted, with the payload it carries, if and only if it is the frame of
that payload and the payload is not empty. -/
theorem decode_eq_ok_iff (frame payload : Bytes) :
    decode frame = .ok payload ↔ payload ≠ [] ∧ frame = encode payload := by
  constructor
  · intro h
    by_cases hlen : 3 ≤ frame.length
    · obtain ⟨stx, middle, sum, etx, rfl⟩ := exists_layout hlen
      rw [decode_layout] at h
      split at h
      · cases h
      · rename_i hne
        split at h
        · cases h
        · rename_i hstx
          split at h
          · cases h
          · rename_i hetx
            split at h
            · cases h
            · rename_i hsum
              obtain rfl := Except.ok.inj h
              rw [not_not] at hstx hetx hsum
              exact ⟨hne, by rw [hstx, hetx, ← hsum, encode_eq_layout]⟩
    · have hshort : frame.length < 4 := by omega
      rw [decode, if_pos hshort] at h
      cases h
  · rintro ⟨hne, rfl⟩
    rw [encode_eq_layout, decode_layout, if_neg hne]
    simp

theorem encode_injective {p q : Bytes} (h : encode p = encode q) : p = q := by
  rw [encode_eq_layout, encode_eq_layout, List.cons.injEq] at h
  exact (List.append_inj' h.2 rfl).1

/-- **The codec accepts exactly its grammar.** A frame decodes to a payload if and only
if the payload is not empty and the frame is its encoding. So each of the two undoes
the other, no two payloads share a frame, and the frame of the empty payload is
rejected. -/
theorem codec_accepts_exactly_grammar :
    (∀ frame payload, decode frame = .ok payload ↔ payload ≠ [] ∧ frame = encode payload) ∧
      (∀ payload, payload ≠ [] → decode (encode payload) = .ok payload) ∧
      (∀ frame payload, decode frame = .ok payload → encode payload = frame) ∧
      Function.Injective encode ∧
      decode (encode []) = .error "frame too short" := by
  refine ⟨decode_eq_ok_iff, ?_, ?_, fun _ _ => encode_injective, rfl⟩
  · intro payload hne
    exact (decode_eq_ok_iff _ _).mpr ⟨hne, rfl⟩
  · intro frame payload h
    exact ((decode_eq_ok_iff _ _).mp h).2.symm

/-! ### What the checksum detects -/

/-- The sum of the bytes, unwrapped. -/
def byteSum (payload : Bytes) : Nat :=
  (payload.map UInt8.toNat).sum

/-- A frame with the bytes after STX overwritten by as many others. -/
def replacePayload (frame payload : Bytes) : Bytes :=
  frame.take 1 ++ payload ++ frame.drop (1 + payload.length)

/-- The sums modulo 256 are, in either order, a reserved byte and two past it: the pairs
that the avoidance of the reserved bytes folds together. -/
def Folded (p q : Bytes) : Prop :=
  ∃ r ∈ kReserved, ({byteSum p % 256, byteSum q % 256} : Set Nat) = {r.toNat, r.toNat + 2}

theorem foldl_add_toNat (payload : Bytes) (acc : UInt8) :
    (payload.foldl (fun acc b => acc + b) acc).toNat = (acc.toNat + byteSum payload) % 256 := by
  induction payload generalizing acc with
  | nil =>
      have hacc : acc.toNat < 256 := acc.toNat_lt
      simp only [List.foldl_nil, byteSum, List.map_nil, List.sum_nil]
      omega
  | cons b rest ih =>
      simp only [List.foldl_cons, ih, UInt8.toNat_add, byteSum, List.map_cons, List.sum_cons]
      omega

theorem sum_toNat (payload : Bytes) :
    (payload.foldl (fun acc b => acc + b) 0).toNat = byteSum payload % 256 := by
  rw [foldl_add_toNat, UInt8.toNat_zero, Nat.zero_add]

/-- Moving the reserved sums on by two joins each of them with one other sum. -/
theorem moved_eq_iff (a b : UInt8) :
    (if a ∈ kReserved then a + 2 else a) = (if b ∈ kReserved then b + 2 else b) ↔
      a = b ∨ ∃ r ∈ kReserved, (a = r ∧ b = r + 2) ∨ (a = r + 2 ∧ b = r) := by
  constructor
  · intro h
    split at h
    · rename_i ha
      split at h
      · exact .inl ((UInt8.add_left_inj 2).mp h)
      · exact .inr ⟨a, ha, .inl ⟨rfl, h.symm⟩⟩
    · split at h
      · rename_i hb
        exact .inr ⟨b, hb, .inr ⟨h, rfl⟩⟩
      · exact .inl h
  · intro h
    obtain rfl | ⟨r, hr, ⟨rfl, rfl⟩ | ⟨rfl, rfl⟩⟩ := h
    · rfl
    · rw [if_pos hr, if_neg (add_two_of_reserved hr).1]
    · rw [if_pos hr, if_neg (add_two_of_reserved hr).1]

/-- Two payloads share a checksum when their sums agree, or are folded together. -/
theorem computeChecksum_eq_iff (p q : Bytes) :
    computeChecksum q = computeChecksum p ↔
      byteSum p % 256 = byteSum q % 256 ∨ Folded p q := by
  have hpair : ∀ r ∈ kReserved,
      (p.foldl (fun acc b => acc + b) 0 = r ∧ q.foldl (fun acc b => acc + b) 0 = r + 2 ∨
        p.foldl (fun acc b => acc + b) 0 = r + 2 ∧ q.foldl (fun acc b => acc + b) 0 = r) ↔
      ({byteSum p % 256, byteSum q % 256} : Set Nat) = {r.toNat, r.toNat + 2} := by
    intro r hr
    simp only [Set.pair_eq_pair_iff, ← UInt8.toNat_inj, sum_toNat, (add_two_of_reserved hr).2]
  rw [eq_comm, computeChecksum, computeChecksum, moved_eq_iff, ← UInt8.toNat_inj, sum_toNat,
    sum_toNat]
  refine or_congr Iff.rfl (exists_congr fun r => ?_)
  exact and_congr_right (hpair r)

theorem replacePayload_encode {p q : Bytes} (h : q.length = p.length) :
    replacePayload (encode p) q = 0x02 :: (q ++ [computeChecksum p, 0x03]) := by
  have hrest : (encode p).drop (1 + q.length) = [computeChecksum p, 0x03] := by
    rw [encode_eq_layout, h, Nat.add_comm, List.drop_succ_cons, List.drop_left]
  rw [replacePayload, hrest, encode_eq_layout]
  rfl

/-- The frame of `p` with `q` put in its place is accepted when the two share a checksum. -/
theorem accepts_replaced_iff {p q : Bytes} (hp : p ≠ []) (h : q.length = p.length) :
    (∃ payload, decode (replacePayload (encode p) q) = .ok payload) ↔
      computeChecksum q = computeChecksum p := by
  have hq : q ≠ [] := by
    intro hnil
    rw [hnil, List.length_nil, eq_comm, List.length_eq_zero_iff] at h
    exact hp h
  rw [replacePayload_encode h, decode_layout, if_neg hq]
  by_cases hsum : computeChecksum q = computeChecksum p
  · simp [hsum]
  · simp [hsum]

theorem byteSum_set {p : Bytes} {i : Nat} (hi : i < p.length) (b : UInt8) :
    byteSum (p.set i b) + p[i].toNat = byteSum p + b.toNat := by
  induction p generalizing i with
  | nil => simp at hi
  | cons c rest ih =>
      cases i with
      | zero =>
          simp only [byteSum, List.set_cons_zero, List.map_cons, List.sum_cons,
            List.getElem_cons_zero]
          omega
      | succ i =>
          have hrest := ih (Nat.lt_of_succ_lt_succ hi)
          simp only [byteSum, List.set_cons_succ, List.map_cons, List.sum_cons,
            List.getElem_cons_succ] at hrest ⊢
          omega

/-- Changing one byte changes the sum. -/
theorem byteSum_set_ne {p : Bytes} {i : Nat} (hi : i < p.length) {b : UInt8} (hb : b ≠ p[i]) :
    byteSum p % 256 ≠ byteSum (p.set i b) % 256 := by
  intro hsame
  have hset := byteSum_set hi b
  have hnew : b.toNat < 256 := b.toNat_lt
  have hold : p[i].toNat < 256 := p[i].toNat_lt
  exact hb (UInt8.toNat_inj.mp (by omega))

/-- **What the checksum detects.** A checksum is never a reserved byte. A frame whose
payload bytes were replaced by as many others is accepted if and only if the two sums
agree modulo 256 or are a reserved byte and two past it; one changed byte changes the sum,
so it goes undetected in the second case only. -/
theorem checksum_detects_exactly (p : Bytes) (hp : p ≠ []) :
    computeChecksum p ∉ kReserved ∧
      (∀ q : Bytes, q.length = p.length →
        ((∃ payload, decode (replacePayload (encode p) q) = .ok payload) ↔
          byteSum p % 256 = byteSum q % 256 ∨ Folded p q)) ∧
      ∀ (i : Nat) (hi : i < p.length) (b : UInt8), b ≠ p[i] →
        ((∃ payload, decode (replacePayload (encode p) (p.set i b)) = .ok payload) ↔
          Folded p (p.set i b)) := by
  refine ⟨computeChecksum_not_reserved p, ?_, ?_⟩
  · intro q hlen
    rw [accepts_replaced_iff hp hlen, computeChecksum_eq_iff]
  · intro i hi b hb
    rw [accepts_replaced_iff hp List.length_set, computeChecksum_eq_iff]
    exact or_iff_right (byteSum_set_ne hi hb)

/-- The payload `0x02`: the checksum is not the reserved byte, and the corruption to `0x04`,
two past it, goes undetected. -/
theorem stx_corruption_undetected :
    computeChecksum [0x02] ∉ kReserved ∧
      ∃ payload, decode (replacePayload (encode [0x02]) [0x04]) = .ok payload := by
  obtain ⟨hreserved, -, hsingle⟩ := checksum_detects_exactly [0x02] (by decide)
  have hfolded : Folded [0x02] [0x04] := ⟨0x02, by decide, rfl⟩
  exact ⟨hreserved, (hsingle 0 (by decide) 0x04 (by decide)).mpr hfolded⟩

end DaikinBridge.S21.Frame
