import DaikinBridge.Lib.Requests
import DaikinBridge.Lib.Runs
import DaikinBridge.S21.Frame

/-!
# DaikinBridge.S21.DataLinkUart

The S21 data link over the UARTE (`src/s21/s21_datalink_uart.{h,cpp}`): the operation
slot taken by `send` and `transact`, the interrupt state machine, and the completion
handler on the system work queue.

The hardware is the environment. An interrupt comes with the event registers that are
set at that moment, fresh or left over from an earlier transaction, with the watchdog
and NAK-match flags, and with the bytes received. The three entry points are atomic
steps; the completion handler runs when its work item is pending.

The result queue has depth one. `log` is not part of the source: it records, for the
proofs, every use of the queue, the work item and the callbacks, each with the number
of the operation it belongs to, and `accepted` counts the operations.
-/

namespace DaikinBridge.S21

/-! ### State -/

/-- The interrupt state machine. -/
inductive IsrState
  /-- No active transaction. -/
  | idle
  /-- Awaiting the response. -/
  | waitingRx
  /-- Timed out, waiting for ENDRX to deliver what was received. -/
  | timedOut
  /-- Response received, ACK byte on its way. -/
  | sendingAck
  deriving DecidableEq, Repr

/-- The operation in progress. -/
inductive OpType
  | none
  | send
  | transact
  deriving DecidableEq, Repr

/-- How a transaction ended. -/
inductive RxStatus
  | ok
  | uartError
  | timeout
  deriving DecidableEq, Repr

/-- What an interrupt queues for the completion handler; `data` holds the `len` bytes
received. -/
structure RxResult where
  data : Bytes
  status : RxStatus
  deriving DecidableEq, Repr

/-- What a callback is given. -/
inductive Reply
  | send (result : Except String Unit)
  | transact (result : Except String Bytes)

/-- The MATCH filters enabled in the UARTE. -/
structure MatchFilters where
  etx : Bool
  ack : Bool
  nak : Bool
  deriving DecidableEq, Repr

/-- The driver, with the bytes and the filters it has set up in the UARTE; `accepted` and `log`
record, for the proofs, the operations taken on and what became of them. -/
structure S21DataLinkUart where
  isrState : IsrState
  opType : OpType
  /-- The queue, its message with the number of the operation it answers. -/
  rxMsgq : Option (Nat × RxResult)
  /-- The completion work item is pending. -/
  workPending : Bool
  /-- The callbacks, by the number of their operation; moved out when called. -/
  sendCb : Option Nat
  transactCb : Option Nat
  filters : MatchFilters
  /-- The bytes handed to the transmitter. -/
  txBuf : Bytes
  /-- Channel A chains ENDTX into STARTRX. -/
  chainTxRx : Bool
  /-- ENDTX raises an interrupt. -/
  endtxInterrupt : Bool
  accepted : Nat
  log : List (Lib.Event Reply)

/-- What an interrupt finds. -/
structure Interrupt where
  frameTimeout : Bool
  endrx : Bool
  error : Bool
  endtx : Bool
  timerCompare0 : Bool
  nakMatch : Bool
  /-- The bytes in the receive buffer. -/
  rx : Bytes
  deriving DecidableEq, Repr

namespace S21DataLinkUart

def kACK : UInt8 := 0x06
def kNAK : UInt8 := 0x15
def kBufSize : Nat := 32

/-- After `init`. -/
def init : S21DataLinkUart where
  isrState := .idle
  opType := .none
  rxMsgq := none
  workPending := false
  sendCb := none
  transactCb := none
  filters := ⟨false, false, false⟩
  txBuf := []
  chainTxRx := true
  endtxInterrupt := false
  accepted := 0
  log := []

variable (s : S21DataLinkUart)

/-! ### Kernel objects -/

/-- `k_msgq_put` without waiting. -/
def msgqPut (r : RxResult) : S21DataLinkUart :=
  match s.rxMsgq with
  | none => { s with
      rxMsgq := some (s.accepted, r)
      log := s.log ++ [.posted s.accepted false] }
  | some _ => { s with log := s.log ++ [.posted s.accepted true] }

/-- `k_msgq_purge`. -/
def msgqPurge : S21DataLinkUart :=
  { s with rxMsgq := none, log := s.log ++ [.cleared s.rxMsgq.isSome] }

/-- `k_work_submit`; submitting pending work leaves it pending. -/
def workSubmit : S21DataLinkUart :=
  { s with workPending := true, log := s.log ++ [.notified s.accepted] }

/-! ### send and transact -/

/-- Which bytes end a reception early. -/
def configureMatch (etx ack nak : Bool) : S21DataLinkUart :=
  { s with filters := ⟨etx, ack, nak⟩ }

/-- The common start of a transaction. It runs with the UARTE interrupt disabled from
the clearing of the events on. -/
def startTransaction (encoded : Bytes) (matchEtx matchAck : Bool) : S21DataLinkUart :=
  let s := s.configureMatch matchEtx matchAck true
  let s := { s with txBuf := encoded.take kBufSize }
  let s := s.msgqPurge
  { s with isrState := .waitingRx }

/-- Take the operation slot for the next operation. -/
def accept (op : OpType) : S21DataLinkUart :=
  { s with
    opType := op
    accepted := s.accepted + 1
    log := s.log ++ [.accepted (s.accepted + 1)] }

/-- `send`: a frame that the unit is to acknowledge. -/
def send (payload : Bytes) : S21DataLinkUart :=
  if s.opType ≠ .none then
    { s with log := s.log ++ [.rejected (.send (.error "busy"))] }
  else
    let s := s.accept .send
    let s := { s with sendCb := some s.accepted }
    s.startTransaction (Frame.encode payload) false true

/-- `transact`: a frame that the unit is to answer with one of its own. -/
def transact (payload : Bytes) : S21DataLinkUart :=
  if s.opType ≠ .none then
    { s with log := s.log ++ [.rejected (.transact (.error "busy"))] }
  else
    let s := s.accept .transact
    let s := { s with transactCb := some s.accepted }
    s.startTransaction (Frame.encode payload) true false

/-! ### Interrupts -/

/-- FRAME_TIMEOUT, handled first so that ENDRX sees the state it leaves. -/
def onFrameTimeout (irq : Interrupt) : S21DataLinkUart :=
  if irq.frameTimeout ∧ s.isrState = .waitingRx then { s with isrState := .timedOut } else s

/-- Queue a result, leave the transaction and submit the completion. -/
def finish (r : RxResult) : S21DataLinkUart :=
  let s := s.msgqPut r
  let s := { s with isrState := .idle }
  s.workSubmit

/-- ENDRX. The ACK path clears the ENDTX event, so the event registers are returned
too. -/
def onEndrx (irq : Interrupt) : S21DataLinkUart × Interrupt :=
  if irq.endrx then
    match s.isrState with
    | .timedOut => (s.finish ⟨irq.rx, .timeout⟩, irq)
    | .waitingRx =>
        let timeout := irq.timerCompare0
        let result : RxResult := ⟨irq.rx, if timeout then .timeout else .ok⟩
        let needsAck := !timeout && !irq.nakMatch && s.opType == .transact
        if needsAck then
          -- the result first; the work is submitted when the ACK is out
          let s := s.msgqPut result
          ({ s with
              chainTxRx := false
              txBuf := [kACK]
              endtxInterrupt := true
              isrState := .sendingAck },
            { irq with endtx := false })
        else (s.finish result, irq)
    -- a stale ENDRX
    | .sendingAck => (s, irq)
    | .idle => (s, irq)
  else (s, irq)

/-- ERROR ends a transaction that is still waiting. -/
def onError (irq : Interrupt) : S21DataLinkUart :=
  if irq.error ∧ s.isrState = .waitingRx then s.finish ⟨[], .uartError⟩ else s

/-- ENDTX: the ACK is out. -/
def onEndtx (irq : Interrupt) : S21DataLinkUart :=
  if irq.endtx then
    let s := { s with endtxInterrupt := false }
    if s.isrState = .sendingAck then
      let s := { s with chainTxRx := true, isrState := .idle }
      s.workSubmit
    else s
  else s

/-- `isrHandler`: the four events in the order of the source. -/
def isrHandler (irq : Interrupt) : S21DataLinkUart :=
  let s := s.onFrameTimeout irq
  let (s, irq) := s.onEndrx irq
  let s := s.onError irq
  s.onEndtx irq

/-! ### Completion -/

/-- `rxResultError`. -/
def rxResultError (r : RxResult) : Option String :=
  if r.status = .timeout then some "timeout"
  else if r.status ≠ .ok then some "uart error"
  else if r.data.length < 1 then some "no response"
  else if r.data[0]? = some kNAK then some "NAK"
  else none

/-- What the callback of a send is given. -/
def sendReply (r : RxResult) : Except String Unit :=
  match rxResultError r with
  | some error => .error error
  | none => if r.data[0]? ≠ some kACK then .error "unexpected response" else .ok ()

/-- What the callback of a transact is given; an ACK before the frame is skipped. -/
def transactReply (r : RxResult) : Except String Bytes :=
  match rxResultError r with
  | some error => .error error
  | none =>
      let frameStart := if r.data[0]? = some kACK then 1 else 0
      Frame.decode (r.data.drop frameStart)

/-- The result the completion handler works on, with its operation. An empty queue is
replaced by an error so that the callback still fires. -/
def msgqGet : S21DataLinkUart × Nat × RxResult :=
  match s.rxMsgq with
  | some (n, r) => ({ s with rxMsgq := none }, n, r)
  | none => ({ s with log := s.log ++ [.mailboxEmpty] }, s.accepted, ⟨[], .uartError⟩)

/-- Call a callback that has been moved out of its slot, if it is one. -/
def callBack (cb : Option Nat) (n : Nat) (reply : Reply) : S21DataLinkUart :=
  match cb with
  | some owner => { s with log := s.log ++ [.replied owner n reply] }
  | none => { s with log := s.log ++ [.noCallback] }

/-- The completion: the slot is freed first, so that the callback may start the next operation. -/
def completionWorkHandler : S21DataLinkUart :=
  let (s, n, r) := s.msgqGet
  let s := s.configureMatch false false false
  let op := s.opType
  let s := { s with opType := .none }
  match op with
  | .send =>
      let cb := s.sendCb
      let s := { s with sendCb := none }
      s.callBack cb n (.send (sendReply r))
  | .transact =>
      let cb := s.transactCb
      let s := { s with transactCb := none }
      s.callBack cb n (.transact (transactReply r))
  | .none => { s with log := s.log ++ [.noRequest] }

/-! ### Steps -/

/-- What can happen next. -/
inductive Input
  | send (payload : Bytes)
  | transact (payload : Bytes)
  | interrupt (irq : Interrupt)
  | completion

/-- One step. The work queue clears the pending flag before it runs the handler, and
runs nothing when no work is pending. -/
def step : Input → S21DataLinkUart
  | .send payload => s.send payload
  | .transact payload => s.transact payload
  | .interrupt irq => s.isrHandler irq
  | .completion =>
      if s.workPending then
        let s := { s with workPending := false }
        s.completionWorkHandler
      else s

end S21DataLinkUart

end DaikinBridge.S21
