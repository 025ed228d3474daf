import DaikinBridge.S21.DataLinkOnce
import DaikinBridge.S21.Manager
import Mathlib.Logic.Function.Basic

/-!
# DaikinBridge.S21.SyncAdapter

The synchronous face of the presentation layer
(`src/s21/s21_presentation_sync_adapter.{h,cpp}`), on top of the data link.

A call takes the mutex, starts its operation with a callback that writes the result into
the frame of the call and gives the semaphore, takes the semaphore, releases the mutex and
returns. Any number of threads make calls, and the steps of all of them, the interrupts and
the completions come in any order. What a callback is made of is the thread and the command
it belongs to; `callbacks` has it by the number of the operation.

`granted` and `returned` are not part of the source: they record the calls in the order in
which they started their operations, and what the calls returned.
-/

namespace DaikinBridge.S21

/-! ### Requests and answers -/

/-- What the data link is asked for. -/
inductive Request
  | send (payload : Bytes)
  | transact (payload : Bytes)
  deriving DecidableEq, Repr

namespace Request

/-- The call of the data link. -/
def input : Request → S21DataLinkUart.Input
  | send payload => .send payload
  | transact payload => .transact payload

/-- The operation it starts. -/
def opType : Request → OpType
  | send _ => .send
  | transact _ => .transact

end Request

/-- The operation a reply is for. -/
def Reply.opType : Reply → OpType
  | .send _ => .send
  | .transact _ => .transact

/-- What the callback of a command is given. -/
inductive Answer
  | setOperation (result : Except String Unit)
  | operation (result : Decoder GetOperationResult)
  | temperature (result : Decoder Int16)
  | humidity (result : Decoder UInt8)
  | coarseTemperatureAndHumidity (result : Decoder GetCoarseTemperatureAndHumidityResult)
  | fanMode (result : Decoder FanMode)
  | protocolVersion (result : Decoder (UInt8 × UInt8))
  | unitState (result : Decoder UnitState)

namespace PresentationCall

/-- What `S21Presentation` asks of the data link, or the error it calls back with at
once. -/
def request : PresentationCall → Except String Request
  | getOperation => .ok (.transact [0x46, 0x31])
  | getRoomTemperature => .ok (.transact [0x52, 0x48])
  | getOutdoorTemperature => .ok (.transact [0x52, 0x61])
  | getHumidity => .ok (.transact [0x52, 0x65])
  | getCoarseTemperatureAndHumidity => .ok (.transact [0x46, 0x39])
  | getFanMode => .ok (.transact [0x52, 0x47])
  | getProtocolVersion => .ok (.transact [0x46, 0x38])
  | getExtendedProtocolVersion => .ok (.transact [0x46, 0x59, 0x30, 0x30])
  | getUnitState => .ok (.transact [0x52, 0x7A, 0x42, 0x32])
  | setOperation onOff mode setPoint fanMode =>
      (S21.setOperation onOff mode setPoint fanMode).map .send

/-- The type of the callback. -/
def opType : PresentationCall → OpType
  | setOperation .. => .send
  | _ => .transact

/-- What the reply of the data link is for the callback; `none` is a reply of the other
type. -/
def receive : PresentationCall → Reply → Option Answer
  | setOperation .., .send result => some (.setOperation result)
  | getOperation, .transact r => some (.operation (S21.getOperation r))
  | getRoomTemperature, .transact r => some (.temperature (S21.getRoomTemperature r))
  | getOutdoorTemperature, .transact r => some (.temperature (S21.getOutdoorTemperature r))
  | getHumidity, .transact r => some (.humidity (S21.getHumidity r))
  | getCoarseTemperatureAndHumidity, .transact r =>
      some (.coarseTemperatureAndHumidity (S21.getCoarseTemperatureAndHumidity r))
  | getFanMode, .transact r => some (.fanMode (S21.getFanMode r))
  | getProtocolVersion, .transact r => some (.protocolVersion (S21.getProtocolVersion r))
  | getExtendedProtocolVersion, .transact r =>
      some (.protocolVersion (S21.getExtendedProtocolVersion r))
  | getUnitState, .transact r => some (.unitState (S21.getUnitState r))
  | _, _ => none

/-- A command asks for an operation of its own type. -/
theorem opType_request {call : PresentationCall} {request : Request}
    (h : call.request = .ok request) : request.opType = call.opType := by
  cases call with
  | setOperation onOff mode setPoint fanMode =>
      simp only [PresentationCall.request] at h
      cases hpayload : S21.setOperation onOff mode setPoint fanMode with
      | error text =>
          rw [hpayload] at h
          cases h
      | ok payload =>
          rw [hpayload] at h
          cases h
          rfl
  | _ =>
      cases h
      rfl

/-- A reply of the command's own type is received. -/
theorem receive_isSome {call : PresentationCall} {reply : Reply}
    (h : reply.opType = call.opType) : ∃ answer, call.receive reply = some answer := by
  cases reply with
  | send result =>
      cases call with
      | setOperation => exact ⟨_, rfl⟩
      | _ => cases h
  | transact response =>
      cases call with
      | setOperation => cases h
      | _ => exact ⟨_, rfl⟩

/-- Only `setOperation` calls back at once. -/
theorem opType_of_error {call : PresentationCall} {text : String}
    (h : call.request = .error text) : call.opType = .send := by
  cases call with
  | setOperation => rfl
  | _ => cases h

theorem opType_ne_none (call : PresentationCall) : call.opType ≠ .none := by
  cases call <;> exact nofun

end PresentationCall

/-! ### The adapter -/

/-- Where a thread stands in `syncCall`: before it takes the mutex, calls the presentation
layer, takes the semaphore, or releases the mutex. -/
inductive Point
  | lock
  | call
  | take
  | unlock
  deriving DecidableEq, Repr

/-- The frame of a `syncCall`; the callback refers to `result`. -/
structure SyncCall where
  call : PresentationCall
  point : Point
  result : Option Answer := none

/-- The adapter over its data link, with the threads that call it; `granted` and `returned`
record, for the proofs, who got the mutex, and what each call returned. -/
structure S21PresentationSyncAdapter (T : Type) where
  link : S21DataLinkUart
  /-- The owner of `mMutex`. -/
  mutex : Option T
  /-- The count of `mSem`. -/
  sem : Nat
  /-- The call each thread is in. -/
  frames : T → Option SyncCall
  /-- The callbacks handed to the data link. -/
  callbacks : Nat → Option (T × PresentationCall)
  granted : List (T × PresentationCall)
  returned : List (T × PresentationCall × Option Answer)

/-- What can happen next. -/
inductive AdapterEvent (T : Type)
  /-- The thread calls the adapter. -/
  | enter (t : T) (call : PresentationCall)
  | lock (t : T)
  /-- The call of the presentation layer. -/
  | call (t : T)
  | take (t : T)
  /-- The thread releases the mutex and returns. -/
  | unlock (t : T)
  | interrupt (irq : Interrupt)
  | completion

namespace S21PresentationSyncAdapter

/-- The largest count of `mSem`. -/
def kSemLimit : Nat := 1

variable {T : Type}

/-- After the constructor. -/
def init : S21PresentationSyncAdapter T where
  link := .init
  mutex := none
  sem := 0
  frames _ := none
  callbacks _ := none
  granted := []
  returned := []

section Steps

variable [DecidableEq T] (s : S21PresentationSyncAdapter T)

/-- The callback: it stores the result in the frame of its thread and gives the semaphore. -/
def callBack (callback : Option (T × PresentationCall)) (reply : Reply) :
    S21PresentationSyncAdapter T :=
  match callback with
  | none => s
  | some (t, call) => { s with
      frames := Function.update s.frames t
        ((s.frames t).map fun frame => { frame with result := call.receive reply })
      sem := min (s.sem + 1) kSemLimit }

/-- What the data link does with the callbacks. An operation it accepts keeps the one that
comes with it, and one it turns away calls it at once. -/
def observe (callback : Option (T × PresentationCall)) (s : S21PresentationSyncAdapter T) :
    Lib.Event Reply → S21PresentationSyncAdapter T
  | .accepted n => { s with callbacks := Function.update s.callbacks n callback }
  | .rejected reply => s.callBack callback reply
  | .replied owner _ reply => s.callBack (s.callbacks owner) reply
  | _ => s

/-- A step of the data link, with what it does with the callbacks. -/
def linkStep (callback : Option (T × PresentationCall)) (input : S21DataLinkUart.Input) :
    S21PresentationSyncAdapter T :=
  let link := s.link.step input
  (link.log.drop s.link.log.length).foldl (observe callback) { s with link }

/-- The call of the presentation layer, on behalf of the thread. -/
def perform (t : T) (call : PresentationCall) : S21PresentationSyncAdapter T :=
  let s := { s with
    frames := Function.update s.frames t (some { call, point := .take })
    granted := s.granted ++ [(t, call)] }
  match call.request with
  | .error text => s.callBack (some (t, call)) (.send (.error text))
  | .ok request => s.linkStep (some (t, call)) request.input

/-- One step, if it can be taken. -/
def step : AdapterEvent T → Option (S21PresentationSyncAdapter T)
  | .enter t call =>
      match s.frames t with
      | none => some { s with
          frames := Function.update s.frames t (some { call, point := .lock }) }
      | some _ => none
  | .lock t =>
      match s.frames t, s.mutex with
      | some ⟨call, .lock, result⟩, none => some { s with
          mutex := some t
          frames := Function.update s.frames t (some ⟨call, .call, result⟩) }
      | _, _ => none
  | .call t =>
      match s.frames t with
      | some ⟨call, .call, _⟩ => some (s.perform t call)
      | _ => none
  | .take t =>
      match s.frames t, s.sem with
      | some ⟨call, .take, result⟩, sem + 1 => some { s with
          sem := sem
          frames := Function.update s.frames t (some ⟨call, .unlock, result⟩) }
      | _, _ => none
  | .unlock t =>
      match s.frames t with
      | some ⟨call, .unlock, result⟩ => some { s with
          mutex := none
          frames := Function.update s.frames t none
          returned := s.returned ++ [(t, call, result)] }
      | _ => none
  | .interrupt irq => some (s.linkStep none (.interrupt irq))
  | .completion => some (s.linkStep none .completion)

end Steps

end S21PresentationSyncAdapter

end DaikinBridge.S21
