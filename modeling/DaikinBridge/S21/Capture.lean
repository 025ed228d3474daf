import DaikinBridge.S21.DataLinkUart

/-!
# DaikinBridge.S21.Capture

From the bytes on the wire to the callback of a transact.

The UARTE is the environment, taken as its documentation has it: reception stops right
after the first byte that matches an enabled candidate, or when the buffer is full
(`receive`). A transact enables ETX and NAK. A frame is then cut exactly at its end,
whatever follows it, as long as its payload has neither of the two bytes: the checksum
never is one of them (`computeChecksum_not_reserved`).
-/

namespace DaikinBridge.S21

def S21DataLinkUart.kETX : UInt8 := 0x03

/-- Does a byte stop reception? -/
def MatchFilters.stops (f : MatchFilters) (b : UInt8) : Bool :=
  (f.etx && b == S21DataLinkUart.kETX) || (f.ack && b == S21DataLinkUart.kACK) ||
    (f.nak && b == S21DataLinkUart.kNAK)

/-- The bytes captured from a stream into a buffer with room for so many. -/
def receive (f : MatchFilters) : Nat → Bytes → Bytes
  | 0, _ => []
  | _ + 1, [] => []
  | room + 1, b :: stream => if f.stops b then [b] else b :: receive f room stream

/-- The capture ends with the first byte that stops it. -/
theorem receive_terminated {f : MatchFilters} {room : Nat} {body : Bytes} {last : UInt8}
    (hbody : ∀ b ∈ body, f.stops b = false) (hlast : f.stops last = true)
    (hroom : body.length < room) (rest : Bytes) :
    receive f room (body ++ last :: rest) = body ++ [last] := by
  induction body generalizing room with
  | nil =>
      obtain ⟨room, rfl⟩ : ∃ n, room = n + 1 := ⟨room - 1, by simp at hroom; omega⟩
      rw [List.nil_append, receive, if_pos hlast, List.nil_append]
  | cons b body ih =>
      have hb : ¬ f.stops b = true := by
        rw [hbody b List.mem_cons_self]
        exact Bool.false_ne_true
      obtain ⟨room, rfl⟩ : ∃ n, room = n + 1 := ⟨room - 1, by simp at hroom; omega⟩
      have htail : body.length < room := by
        simp only [List.length_cons] at hroom
        omega
      rw [List.cons_append, receive, if_neg hb, List.cons_append,
        ih (fun b' hb' => hbody b' (List.mem_cons_of_mem b hb')) htail]

namespace S21DataLinkUart

/-- The filters of a transact. -/
def transactFilters : MatchFilters := ⟨true, false, true⟩

theorem transact_filters {s : S21DataLinkUart} (hfree : s.opType = .none) (payload : Bytes) :
    (s.transact payload).filters = transactFilters := by
  rw [transact, if_neg (not_not.mpr hfree)]
  rfl

theorem transactFilters_stops (b : UInt8) :
    transactFilters.stops b = false ↔ b ≠ kETX ∧ b ≠ kNAK := by
  simp [MatchFilters.stops, transactFilters]

/-- In the frame of a clean payload only the last byte stops a transact. -/
theorem encode_body_clean {p : Bytes} (hp : ∀ b ∈ p, b ≠ kETX ∧ b ≠ kNAK) :
    ∀ b ∈ (0x02 : UInt8) :: (p ++ [Frame.computeChecksum p]), transactFilters.stops b = false := by
  intro b hb
  rw [transactFilters_stops]
  rcases List.mem_cons.mp hb with rfl | htail
  · decide
  · rcases List.mem_append.mp htail with hpay | hsum
    · exact hp b hpay
    · obtain rfl := List.mem_singleton.mp hsum
      have hres := Frame.computeChecksum_not_reserved p
      simp only [Frame.kReserved, List.mem_cons, not_or] at hres
      exact ⟨hres.2.1, hres.2.2.2.2.1⟩

theorem encode_eq_terminated (p : Bytes) :
    Frame.encode p = ((0x02 : UInt8) :: (p ++ [Frame.computeChecksum p])) ++ [kETX] := by
  simp [Frame.encode, kETX]

/-- A frame is captured whole, and nothing after it. -/
theorem receive_encode {p : Bytes} (hp : ∀ b ∈ p, b ≠ kETX ∧ b ≠ kNAK) {room : Nat}
    (hroom : p.length + 3 ≤ room) (rest : Bytes) :
    receive transactFilters room (Frame.encode p ++ rest) = Frame.encode p := by
  rw [encode_eq_terminated, List.append_assoc, List.singleton_append]
  refine receive_terminated (encode_body_clean hp) rfl ?_ rest
  simp
  omega

/-- So it is behind the acknowledgement of the request. -/
theorem receive_ack_encode {p : Bytes} (hp : ∀ b ∈ p, b ≠ kETX ∧ b ≠ kNAK) {room : Nat}
    (hroom : p.length + 4 ≤ room) (rest : Bytes) :
    receive transactFilters room (kACK :: Frame.encode p ++ rest) = kACK :: Frame.encode p := by
  obtain ⟨room, rfl⟩ : ∃ n, room = n + 1 := ⟨room - 1, by omega⟩
  have hack : ¬ transactFilters.stops kACK = true := by decide
  rw [List.cons_append, receive, if_neg hack, receive_encode hp (by omega)]

/-- The completion of a transact gives the callback what the received bytes amount
to. -/
theorem completion_transact {s : S21DataLinkUart} {owner n : Nat} {r : RxResult}
    (hop : s.opType = .transact) (hcb : s.transactCb = some owner)
    (hqueue : s.rxMsgq = some (n, r)) :
    s.completionWorkHandler.log = s.log ++ [.replied owner n (.transact (transactReply r))] := by
  simp only [completionWorkHandler, msgqGet, hqueue, configureMatch, hop, hcb, callBack]

/-- A transact that is under way with these bytes received, and status Ok, ends with the
reply. -/
def Delivers (data : Bytes) (reply : Except String Bytes) : Prop :=
  ∀ (s : S21DataLinkUart) (owner n : Nat), s.opType = .transact → s.transactCb = some owner →
    s.rxMsgq = some (n, ⟨data, .ok⟩) →
    s.completionWorkHandler.log = s.log ++ [.replied owner n (.transact reply)]

theorem delivers_transactReply (data : Bytes) : Delivers data (transactReply ⟨data, .ok⟩) :=
  fun _ _ _ hop hcb hqueue => completion_transact hop hcb hqueue

theorem delivers_encode {p : Bytes} (hne : p ≠ []) : Delivers (Frame.encode p) (.ok p) := by
  have hreply : transactReply ⟨Frame.encode p, .ok⟩ = Frame.decode (Frame.encode p) := rfl
  rw [← (Frame.decode_eq_ok_iff _ _).mpr ⟨hne, rfl⟩, ← hreply]
  exact delivers_transactReply _

theorem delivers_ack_encode {p : Bytes} (hne : p ≠ []) :
    Delivers (kACK :: Frame.encode p) (.ok p) := by
  have hreply : transactReply ⟨kACK :: Frame.encode p, .ok⟩ = Frame.decode (Frame.encode p) := rfl
  rw [← (Frame.decode_eq_ok_iff _ _).mpr ⟨hne, rfl⟩, ← hreply]
  exact delivers_transactReply _

/-- **Framing is transparent.** With the filters an accepted transact sets, a frame
whose payload has no ETX and no NAK is captured exactly, with or without an ACK before
it and whatever follows it, and its payload reaches the callback; a stream that starts
with NAK is captured as that byte and reaches it as an error. -/
theorem framing_transparent {s : S21DataLinkUart} (hfree : s.opType = .none) (request : Bytes)
    {p : Bytes} (hne : p ≠ []) (hp : ∀ b ∈ p, b ≠ kETX ∧ b ≠ kNAK)
    (hlen : p.length + 4 ≤ kBufSize) (rest : Bytes) :
    let capture := receive (s.transact request).filters kBufSize
    (capture (kACK :: Frame.encode p ++ rest) = kACK :: Frame.encode p ∧
        Delivers (capture (kACK :: Frame.encode p ++ rest)) (.ok p)) ∧
      (capture (Frame.encode p ++ rest) = Frame.encode p ∧
        Delivers (capture (Frame.encode p ++ rest)) (.ok p)) ∧
      Delivers (capture (kNAK :: rest)) (.error "NAK") := by
  intro capture
  have hfilters : capture = receive transactFilters kBufSize := by
    show receive (s.transact request).filters kBufSize = _
    rw [transact_filters hfree]
  have hack := receive_ack_encode hp hlen rest
  have hframe : receive transactFilters kBufSize (Frame.encode p ++ rest) = Frame.encode p :=
    receive_encode hp (by omega) rest
  have hnak : receive transactFilters kBufSize (kNAK :: rest) = [kNAK] := by
    have hstop : transactFilters.stops kNAK = true := rfl
    rw [kBufSize, receive, if_pos hstop]
  rw [hfilters, hack, hframe, hnak]
  exact ⟨⟨rfl, delivers_ack_encode hne⟩, ⟨rfl, delivers_encode hne⟩,
    delivers_transactReply [kNAK]⟩

/-- A two-byte payload with an ACK in it, before the next frame's first bytes. -/
theorem framing_transparent_ack_in_payload :
    receive (init.transact [0x46, 0x31]).filters kBufSize
        (kACK :: Frame.encode [0x06, 0x41] ++ [0x02, 0x15]) =
          [0x06, 0x02, 0x06, 0x41, 0x47, 0x03] ∧
      Delivers [0x06, 0x02, 0x06, 0x41, 0x47, 0x03] (.ok [0x06, 0x41]) := by
  have hclean : ∀ b ∈ ([0x06, 0x41] : Bytes), b ≠ kETX ∧ b ≠ kNAK := by
    intro b hb
    simp only [List.mem_cons, List.not_mem_nil, or_false] at hb
    rcases hb with rfl | rfl <;> decide
  have h := (framing_transparent (s := init) rfl [0x46, 0x31] (by decide) hclean (by decide)
    [0x02, 0x15]).1
  rw [h.1] at h
  exact h

end S21DataLinkUart

end DaikinBridge.S21
