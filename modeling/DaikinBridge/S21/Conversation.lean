import DaikinBridge.S21.Capture
import DaikinBridge.S21.SyncCalls

/-!
# DaikinBridge.S21.Conversation

A call over the wire: from the caller through the adapter, the presentation layer, the data
link and the frame codec to the unit, and back.

The unit reads what is handed to the transmitter, and sends an ACK or a NAK, or an ACK and the
frame of a response (`UnitReply`); whatever else comes down the line after that is of no account.
The hardware is that of `S21.Capture`. `call_over_the_wire` says that the unit reads the payload
of the request, and that the caller gets what the presentation layer makes of the unit's reply,
while any number of other threads come and wait.
-/

namespace DaikinBridge.S21

/-! ### The unit and the line -/

/-- What the frame of a request carries. -/
def Request.payload : Request → Bytes
  | .send payload => payload
  | .transact payload => payload

/-- What the unit says to a request. -/
inductive UnitReply
  | ack
  | nak
  /-- An ACK, and the frame of a response. -/
  | frame (p : Bytes)

namespace UnitReply

/-- On the line, with whatever comes after it. -/
def stream (rest : Bytes) : UnitReply → Bytes
  | ack => S21DataLinkUart.kACK :: rest
  | nak => S21DataLinkUart.kNAK :: rest
  | frame p => S21DataLinkUart.kACK :: Frame.encode p ++ rest

/-- Reads are answered by a frame, writes by an ACK, and either may be turned down. The payload of
a frame is short and has neither of the two bytes that end a capture. -/
def Answers : Request → UnitReply → Prop
  | .send _, ack => True
  | .transact _, frame p => p ≠ [] ∧ p.length + 4 ≤ S21DataLinkUart.kBufSize ∧
      ∀ b ∈ p, b ≠ S21DataLinkUart.kETX ∧ b ≠ S21DataLinkUart.kNAK
  | _, nak => True
  | _, _ => False

/-- What it means to the one who asked. -/
def reply : Request → UnitReply → Reply
  | .send _, nak => .send (.error "NAK")
  | .send _, _ => .send (.ok ())
  | .transact _, frame p => .transact (.ok p)
  | .transact _, _ => .transact (.error "NAK")

end UnitReply

namespace S21DataLinkUart

/-- The filters of an operation. -/
def filtersOf : Request → MatchFilters
  | .send _ => ⟨false, true, true⟩
  | .transact _ => transactFilters

/-- What the hardware does with what it receives under its filters: ENDRX with the capture, ENDTX
when the ACK is out (and late, if there is none), and the completion. -/
def conversation (filters : MatchFilters) (line : Bytes) : List Input :=
  let rx := receive filters kBufSize line
  [.interrupt ⟨false, true, false, false, false, rx.getLast? == some kNAK, rx⟩,
    .interrupt ⟨false, false, false, true, false, false, []⟩, .completion]

theorem filters_step_request {s : S21DataLinkUart} (hop : s.opType = .none) (request : Request) :
    (s.step request.input).filters = filtersOf request := by
  cases request with
  | send payload => simp [Request.input, step, send, hop, accept, startTransaction,
      configureMatch, msgqPurge, filtersOf]
  | transact payload => exact transact_filters hop payload

/-- The frame goes out whole. -/
theorem txBuf_step_request {s : S21DataLinkUart} (hop : s.opType = .none) {request : Request}
    (hlen : request.payload.length + 3 ≤ kBufSize) :
    (s.step request.input).txBuf = Frame.encode request.payload := by
  have hfits : (Frame.encode request.payload).length ≤ kBufSize := by
    simp only [Frame.encode, List.length_append, List.length_cons, List.length_nil]
    omega
  cases request with
  | send payload =>
      simp only [Request.input, step, send, hop, accept, startTransaction, configureMatch,
        msgqPurge]
      exact List.take_of_length_le hfits
  | transact payload =>
      simp only [Request.input, step, transact, hop, accept, startTransaction, configureMatch,
        msgqPurge]
      exact List.take_of_length_le hfits

/-! ### What is captured, and what becomes of it -/

/-- A NAK comes alone. -/
theorem receive_nak (request : Request) (rest : Bytes) :
    receive (filtersOf request) kBufSize (kNAK :: rest) = [kNAK] := by
  have hstop : (filtersOf request).stops kNAK = true := by
    cases request <;> rfl
  rw [kBufSize, receive, if_pos hstop]

/-- So does an ACK to a write. -/
theorem receive_ack (payload rest : Bytes) :
    receive (filtersOf (.send payload)) kBufSize (kACK :: rest) = [kACK] := by
  have hstop : (filtersOf (.send payload)).stops kACK = true := rfl
  rw [kBufSize, receive, if_pos hstop]

/-- What the bytes received amount to. -/
def replyTo : Request → Bytes → Reply
  | .send _, rx => .send (sendReply ⟨rx, .ok⟩)
  | .transact _, rx => .transact (transactReply ⟨rx, .ok⟩)

/-- The callback of the operation is in its place. -/
def Registered (s : S21DataLinkUart) : Request → Prop
  | .send _ => s.opType = .send ∧ s.sendCb = some s.accepted
  | .transact _ => s.opType = .transact ∧ s.transactCb = some s.accepted

/-- The request is out, and nothing has come back. -/
structure Waiting (s : S21DataLinkUart) (request : Request) : Prop where
  isrState : s.isrState = .waitingRx
  rxMsgq : s.rxMsgq = none
  registered : s.Registered request

/-- The bytes are in the queue, and the completion is due, or is when the ACK is out. -/
structure Received (s : S21DataLinkUart) (request : Request) (rx : Bytes) : Prop where
  rxMsgq : s.rxMsgq = some (s.accepted, ⟨rx, .ok⟩)
  registered : s.Registered request
  due : s.workPending = true ∨ s.isrState = .sendingAck

section Conversation

variable {s : S21DataLinkUart} {request : Request} {rx : Bytes}

theorem waiting_step_request (hop : s.opType = .none) (request : Request) :
    (s.step request.input).Waiting request := by
  cases request with
  | send payload =>
      simp only [Request.input, step, send, hop, ne_eq, not_true_eq_false, if_false, accept,
        startTransaction, configureMatch, msgqPurge]
      exact ⟨rfl, rfl, rfl, rfl⟩
  | transact payload =>
      simp only [Request.input, step, transact, hop, ne_eq, not_true_eq_false, if_false, accept,
        startTransaction, configureMatch, msgqPurge]
      exact ⟨rfl, rfl, rfl, rfl⟩

/-- ENDRX queues what is there. -/
theorem Waiting.endrx (h : s.Waiting request) (nakMatch : Bool) :
    (s.step (.interrupt ⟨false, true, false, false, false, nakMatch, rx⟩)).Received request rx := by
  have hregistered := h.registered
  simp only [step, isrHandler, onFrameTimeout, onEndrx, onError, onEndtx, finish, msgqPut,
    workSubmit, h.isrState, h.rxMsgq, Bool.false_eq_true, false_and, if_false, if_true]
  split
  · refine ⟨rfl, ?_, Or.inr rfl⟩
    cases request <;> exact hregistered
  · refine ⟨rfl, ?_, Or.inl rfl⟩
    cases request <;> exact hregistered

/-- ENDTX makes the completion due. -/
theorem Received.endtx (h : s.Received request rx) :
    (s.step (.interrupt ⟨false, false, false, true, false, false, []⟩)).Received request rx ∧
      (s.step (.interrupt ⟨false, false, false, true, false, false, []⟩)).workPending = true := by
  have hregistered := h.registered
  have hqueue := h.rxMsgq
  -- the callback stays registered as long as it is not moved out
  have hkeep : ∀ t : S21DataLinkUart, t.opType = s.opType → t.sendCb = s.sendCb →
      t.transactCb = s.transactCb → t.accepted = s.accepted → t.Registered request := by
    intro t hop hsend htransact haccepted
    cases request with
    | send payload => exact ⟨hop.trans hregistered.1, by rw [hsend, haccepted, hregistered.2]⟩
    | transact payload =>
        exact ⟨hop.trans hregistered.1, by rw [htransact, haccepted, hregistered.2]⟩
  simp only [step, isrHandler, onFrameTimeout, onEndrx, onError, onEndtx, workSubmit,
    Bool.false_eq_true, false_and, if_false, if_true]
  split
  · exact ⟨⟨hqueue, hkeep _ rfl rfl rfl rfl, Or.inl rfl⟩, rfl⟩
  · rename_i hout
    have hwork := h.due.resolve_right hout
    exact ⟨⟨hqueue, hkeep _ rfl rfl rfl rfl, Or.inl hwork⟩, hwork⟩

/-- The completion replies with what the bytes amount to. -/
theorem Received.completion (h : s.Received request rx) (hwork : s.workPending = true) :
    (s.step .completion).log = s.log ++ [.replied s.accepted s.accepted (replyTo request rx)] := by
  have hregistered := h.registered
  simp only [step, hwork, if_true, completionWorkHandler, msgqGet, h.rxMsgq, configureMatch]
  cases request with
  | send payload => simp only [hregistered.1, hregistered.2, callBack, replyTo]
  | transact payload => simp only [hregistered.1, hregistered.2, callBack, replyTo]

/-- **A conversation** ends with one reply, and it is what the bytes captured amount to. -/
theorem replies_conversation (hop : s.opType = .none) (request : Request) (line : Bytes) :
    replies (Lib.run step s
        (request.input :: conversation (s.step request.input).filters line)).log =
      replies s.log ++ [replyTo request (receive (filtersOf request) kBufSize line)] := by
  rw [filters_step_request hop]
  let rx := receive (filtersOf request) kBufSize line
  let s₁ := s.step request.input
  let s₂ := s₁.step (.interrupt ⟨false, true, false, false, false, rx.getLast? == some kNAK, rx⟩)
  let s₃ := s₂.step (.interrupt ⟨false, false, false, true, false, false, []⟩)
  have hwaiting : s₁.Waiting request := waiting_step_request hop request
  have hqueued : s₂.Received request rx := hwaiting.endrx _
  obtain ⟨hreceived, hwork⟩ := hqueued.endtx
  have hlog₁ : replies s₁.log = replies s.log := by
    have hlog : s₁.log = s.log ++ [.accepted (s.accepted + 1), .cleared s.rxMsgq.isSome] :=
      (step_request hop request).2.2
    rw [hlog, replies, List.filterMap_append]
    exact List.append_nil _
  -- the interrupts call nobody back
  have hquiet : ∀ (s : S21DataLinkUart) (irq : Interrupt),
      replies (s.step (.interrupt irq)).log = replies s.log := by
    intro s irq
    obtain ⟨more, hlog, hmore⟩ := (quietly_isrHandler s irq).log
    show replies (s.isrHandler irq).log = _
    rw [hlog, replies_append_silent hmore]
  show replies (s₃.step .completion).log = _
  rw [hreceived.completion hwork, replies, List.filterMap_append, ← replies, hquiet, hquiet, hlog₁]
  rfl

end Conversation

/-- A reply of the unit gets through. -/
theorem replyTo_receive {request : Request} {u : UnitReply} (h : u.Answers request)
    (rest : Bytes) :
    replyTo request (receive (filtersOf request) kBufSize (u.stream rest)) = u.reply request := by
  cases u with
  | nak =>
      rw [UnitReply.stream, receive_nak]
      cases request <;> rfl
  | ack =>
      cases request with
      | send payload =>
          rw [UnitReply.stream, receive_ack]
          rfl
      | transact payload => exact h.elim
  | frame p =>
      cases request with
      | send payload => exact h.elim
      | transact payload =>
          obtain ⟨hne, hlen, hclean⟩ := h
          have hcapture : receive (filtersOf (.transact payload)) kBufSize
              (kACK :: Frame.encode p ++ rest) = kACK :: Frame.encode p :=
            receive_ack_encode hclean hlen rest
          have hreply : transactReply ⟨kACK :: Frame.encode p, .ok⟩ =
              Frame.decode (Frame.encode p) := rfl
          rw [UnitReply.stream, hcapture, replyTo, hreply,
            (Frame.decode_eq_ok_iff _ _).mpr ⟨hne, rfl⟩]
          rfl

end S21DataLinkUart

/-! ### Requests -/

/-- Every request fits in the transmit buffer with its frame. -/
theorem PresentationCall.request_fits {call : PresentationCall} {request : Request}
    (h : call.request = .ok request) :
    request.payload ≠ [] ∧ request.payload.length + 3 ≤ S21DataLinkUart.kBufSize := by
  cases call with
  | setOperation onOff mode setPoint fanMode =>
      simp only [PresentationCall.request] at h
      cases hpayload : S21.setOperation onOff mode setPoint fanMode with
      | error text =>
          rw [hpayload] at h
          cases h
      | ok payload =>
          rw [hpayload] at h
          obtain rfl := Except.ok.inj h
          unfold S21.setOperation at hpayload
          split at hpayload
          · cases hpayload
          · obtain rfl := Except.ok.inj hpayload
            exact ⟨List.cons_ne_nil _ _, Nat.le_of_ble_eq_true rfl⟩
  | _ =>
      obtain rfl := Except.ok.inj h
      exact ⟨List.cons_ne_nil _ _, by decide⟩

namespace S21PresentationSyncAdapter

variable {T : Type} [DecidableEq T] {s s' : S21PresentationSyncAdapter T}

/-- What an event is for the data link. -/
def linkInput : AdapterEvent T → Option S21DataLinkUart.Input
  | .interrupt irq => some (.interrupt irq)
  | .completion => some .completion
  | _ => none

/-- While nobody calls the presentation layer, the data link sees the interrupts and the
completions. -/
theorem link_run {session : List (AdapterEvent T)} (hcalls : ∀ t, .call t ∉ session)
    (hrun : Lib.runGuarded step s session = some s') :
    s'.link = Lib.run S21DataLinkUart.step s.link (session.filterMap linkInput) ∧
      s'.granted = s.granted := by
  induction session generalizing s with
  | nil =>
      obtain rfl : s = s' := by simpa using hrun
      exact ⟨rfl, rfl⟩
  | cons e session ih =>
      obtain ⟨mid, hstep, hrest⟩ := Lib.runGuarded_cons_eq_some.mp hrun
      obtain ⟨hlink, hgranted⟩ := ih (fun t hmem => hcalls t (List.mem_cons_of_mem e hmem)) hrest
      cases steps_of_step hstep with
      | @call t call result hframe => exact absurd List.mem_cons_self (hcalls t)
      | interrupt irq =>
          obtain ⟨hmid, hsame⟩ := foldl_observe_frame (none : Option (T × PresentationCall))
            ((s.link.step (.interrupt irq)).log.drop s.link.log.length)
            { s with link := s.link.step (.interrupt irq) }
          exact ⟨hlink.trans (congrArg (Lib.run _ · _) hmid), hgranted.trans hsame⟩
      | completion =>
          obtain ⟨hmid, hsame⟩ := foldl_observe_frame (none : Option (T × PresentationCall))
            ((s.link.step .completion).log.drop s.link.log.length)
            { s with link := s.link.step .completion }
          exact ⟨hlink.trans (congrArg (Lib.run _ · _) hmid), hgranted.trans hsame⟩
      | _ => exact ⟨hlink, hgranted⟩

/-- **A call over the wire.** In any reachable state let a thread be about to call, and let its
operation be carried out by the hardware, with the filters it is left with, and answered by the
unit, whatever follows on the line, while other threads come, wait and, once it is their turn,
take the lock. The unit reads the payload of the request; and what the calls have returned by
then, with the answer in hand, is what they had returned before, and for this call what the unit's
reply means to it. -/
theorem call_over_the_wire {events session : List (AdapterEvent T)} {t : T}
    {call : PresentationCall} {result : Option Answer} {request : Request} {u : UnitReply}
    {rest : Bytes} (hrun : Lib.runGuarded step init events = some s)
    (hframe : s.frames t = some ⟨call, .call, result⟩) (hrequest : call.request = .ok request)
    (hanswers : u.Answers request) (hcalls : ∀ t', .call t' ∉ session)
    (hsession : session.filterMap linkInput =
      S21DataLinkUart.conversation (s.perform t call).link.filters (u.stream rest))
    (hrun' : Lib.runGuarded step s (.call t :: session) = some s') :
    Frame.decode (s.perform t call).link.txBuf = .ok request.payload ∧
      s'.returned ++ s'.inHand = s.returned ++ [(t, call, call.receive (u.reply request))] := by
  obtain ⟨stage, hturn⟩ := inTurn_run hrun
  obtain rfl := hturn.of_call hframe
  obtain ⟨-, -, hop⟩ := hturn.atStage
  obtain ⟨done, hgranted, hcount, hserial⟩ := hturn.history
  obtain ⟨hne, hlen⟩ := PresentationCall.request_fits hrequest
  obtain ⟨mid, hstep, hrest⟩ := Lib.runGuarded_cons_eq_some.mp hrun'
  have hmid : mid = s.perform t call := by
    rw [step, hframe] at hstep
    exact (Option.some.inj hstep).symm
  -- the call hands the request over
  have hcall : mid.link = s.link.step request.input ∧
      mid.granted = s.granted ++ [(t, call)] := by
    rw [hmid]
    simp only [perform, hrequest]
    exact foldl_observe_frame _ _ _
  obtain ⟨hlink, hsame⟩ := link_run hcalls hrest
  have hreplies : replies s'.link.log = replies s.link.log ++ [u.reply request] := by
    rw [hlink, hsession, ← hmid, hcall.1, ← S21DataLinkUart.replyTo_receive hanswers rest]
    exact S21DataLinkUart.replies_conversation hop request (u.stream rest)
  refine ⟨?_, ?_⟩
  · rw [← hmid, hcall.1, S21DataLinkUart.txBuf_step_request hop hlen]
    exact (Frame.decode_eq_ok_iff _ _).mpr ⟨hne, rfl⟩
  · have hboth := Lib.runGuarded_append_eq_some.mpr ⟨s, hrun, hrun'⟩
    obtain ⟨stage', hturn'⟩ := inTurn_run hboth
    have hdone : s.granted = done := hgranted.trans (List.append_nil _)
    have hreturned : s.returned = serial done (replies s.link.log) := by
      rw [← hserial]
      exact (List.append_nil _).symm
    rw [hturn'.serial_eq, hsame, hcall.2, hreplies, hdone, serial_append hcount, ← hreturned]
    simp only [serial, hrequest]

/-- A thread asks for the fan mode while another comes and waits, and the line goes on after the
frame of the response. -/
def fanModeRead : List (AdapterEvent Bool) :=
  [.enter true .getHumidity,
    .interrupt ⟨false, true, false, false, false, false,
      [0x06, 0x02, 0x53, 0x47, 0x41, 0xDB, 0x03]⟩,
    .interrupt ⟨false, false, false, true, false, false, []⟩, .completion,
    .take false, .unlock false, .lock true]

theorem call_over_the_wire_of_fanModeRead :
    ∃ s s', Lib.runGuarded step init
        [.enter false .getFanMode, .lock (false : Bool)] = some s ∧
      Lib.runGuarded step s (.call false :: fanModeRead) = some s' ∧
      Frame.decode (s.perform false .getFanMode).link.txBuf = .ok [0x52, 0x47] ∧
      s'.returned ++ s'.inHand = [(false, .getFanMode, some (.fanMode (pure .auto)))] := by
  obtain ⟨s, s', hrun, hrun', hframe, hreturned, hsession⟩ : ∃ s s', Lib.runGuarded step init
        [.enter false .getFanMode, .lock (false : Bool)] = some s ∧
      Lib.runGuarded step s (.call false :: fanModeRead) = some s' ∧
      s.frames false = some ⟨.getFanMode, .call, none⟩ ∧ s.returned = [] ∧
      fanModeRead.filterMap linkInput = S21DataLinkUart.conversation
        (s.perform false .getFanMode).link.filters
        (UnitReply.stream [0x06, 0x02] (.frame [0x53, 0x47, 0x41])) :=
    ⟨_, _, rfl, rfl, rfl, rfl, rfl⟩
  have hanswers : UnitReply.Answers (.transact [0x52, 0x47]) (.frame [0x53, 0x47, 0x41]) :=
    ⟨List.cons_ne_nil _ _, by decide, by simp [S21DataLinkUart.kETX, S21DataLinkUart.kNAK]⟩
  obtain ⟨hread, hanswer⟩ := call_over_the_wire hrun hframe rfl hanswers
    (by simp [fanModeRead]) hsession hrun'
  exact ⟨s, s', hrun, hrun', hread, by rw [hanswer, hreturned]; rfl⟩

end S21PresentationSyncAdapter

end DaikinBridge.S21
