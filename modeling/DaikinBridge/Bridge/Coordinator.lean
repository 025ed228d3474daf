import DaikinBridge.Sync.AttributeAccess
import DaikinBridge.Sync.ChangePublisher
import DaikinBridge.Sync.Reports

/-!
# DaikinBridge.Bridge.Coordinator

The coordinator and its threads (`src/sync/sync_coordinator.cpp`, and the listeners and the
command work of `src/airconditioner_manager.cpp`).

Every mutating entry point changes the kernel and takes a snapshot of the listeners under
one lock, and does the rest outside it: the listeners are called one after the other, and
the pump is fired last. Between any two of these actions other threads may run. The model
keeps, for each thread, the list of actions it has still to perform; one step of the system
is one such action, or the locked part of an entry point, or something the Matter stack
does: the drain of the report queue, one report of it, and the read of a reported attribute,
which may come at any later time.

Controllers act on any number of threads. Observations and sends belong to the S21 work
queue, which runs one work item at a time; a send is two steps, since the coordinator is
not locked while the unit answers.

`queued`, `reports` and `transmissions` are not part of the source. They record, for the
proofs, what was handed to the report queue, what was reported, and what was sent with which
outcome.
-/

namespace DaikinBridge.Bridge

open S21 Sync
open Sync.Reconciler (KernelOp kernelStep reported)

/-- The two listeners the manager registers. -/
inductive Listener
  | matterAttributeChangeReporter
  | powerIndicator
  deriving DecidableEq, Repr

/-- The one pump handler. -/
inductive CommandPumpHandler
  | scheduleS21CommandHandler
  deriving DecidableEq, Repr

/-- What a thread does after it has left the lock. -/
inductive Action
  /-- The reporter appends to its queue, and posts a drain right after. -/
  | queueReports (attributes : List LogicalAttribute)
  | postDrain
  /-- The power indicator reads OnOff, and sets the LED to what it has read. -/
  | readOnOff
  | setLed (onOff : Bool)
  | firePump
  deriving DecidableEq, Repr

/-- `OnChangedAttributes` of the two listeners. -/
def Listener.onChangedAttributes (attributes : List LogicalAttribute) : Listener → List Action
  | .matterAttributeChangeReporter => [.queueReports attributes]
  | .powerIndicator => if .onOff ∈ attributes then [.readOnOff] else []

/-- The threads that enter the coordinator: the S21 work queue, and the controllers'. -/
inductive Worker (T : Type)
  | s21WorkQueue
  | controller (t : T)
  deriving DecidableEq, Repr

/-- The coordinator with its listeners, its threads, and what the Matter stack has to do. -/
structure Coordinator (T : Type) where
  kernel : Reconciler
  publisher : ChangePublisher Listener CommandPumpHandler
  /-- What each thread has still to do. -/
  todo : Worker T → List Action
  /-- The queue of the reporter, the drains posted, and what the running drain has left. -/
  queue : List LogicalAttribute
  postedDrains : Nat
  draining : List LogicalAttribute
  /-- Reported and not read again since. -/
  marked : List (ClusterId × AttributeId)
  /-- What the subscriber holds. -/
  mirror : ClusterId × AttributeId → Option Encoded
  led : Bool
  /-- The command work is scheduled; the command being sent. -/
  commandWork : Bool
  sending : Option S21OperationCommand
  queued : List LogicalAttribute
  reports : List (ClusterId × AttributeId)
  transmissions : List (S21OperationCommand × Bool)

/-- What can happen next. -/
inductive CoordinatorEvent (T : Type)
  | intent (t : T) (now : Int) (i : WriteIntent)
  | operational (now : Int) (obs : S21OperationalObservation)
  | environmental (obs : S21EnvironmentalObservation)
  | linkDown
  | commandStart
  | commandFinish (acknowledged : Bool)
  | proceed (w : Worker T)
  | drain
  | report
  | lookUp (address : ClusterId × AttributeId)

/-- The registry after `AirConditionerManager::Init`. -/
def installed : ChangePublisher Listener CommandPumpHandler :=
  let p := ChangePublisher.new.setCommandPumpHandler (some .scheduleS21CommandHandler)
  let p := (p.add (some .matterAttributeChangeReporter)).1
  (p.add (some .powerIndicator)).1

theorem installed_slots :
    installed.snapshot.slots = [.matterAttributeChangeReporter, .powerIndicator] := by
  decide

/-- The command an operation returns. -/
def sendCommand (r : Reconciler) : KernelOp → Option S21OperationCommand
  | .applyIntent now i => (r.applyIntent now i).2.sendCommand
  | .applyIntentBundle now is => (r.applyIntentBundle now is).2.sendCommand
  | .applyOperationalObservation now obs => (r.applyOperationalObservation now obs).2.sendCommand
  | .applyEnvironmentalObservation _ => none
  | .onCommandSent _ => none
  | .onCommandFailed => none
  | .notifyLinkDown => none

namespace Coordinator

variable {T : Type}

/-- After the initialisation of the bridge, with a subscriber that has read everything. -/
def start (config : ReconcilerConfig) (d : LogicalACStateDefaults) : Coordinator T where
  kernel := .new config d
  publisher := installed
  todo := fun _ => []
  queue := []
  postedDrains := 0
  draining := []
  marked := []
  mirror := (Reconciler.new config d).readAttribute
  led := Projector.projectedOnOff (Reconciler.new config d).state
  commandWork := false
  sending := none
  queued := []
  reports := []
  transmissions := []

/-- What is left to do for a change: `notify` the snapshot if anything is dirty, then
`firePump` if a command is to be sent. -/
def dispatch (s : Coordinator T) (dirty : List LogicalAttribute) (send : Bool) : List Action :=
  (if dirty = [] then [] else s.publisher.snapshot.slots.flatMap (·.onChangedAttributes dirty)) ++
    if send then [.firePump] else []

variable [DecidableEq T]

/-- The locked part of an entry point, called by `w`. -/
def mutate (s : Coordinator T) (w : Worker T) (op : KernelOp) : Coordinator T :=
  { s with
    kernel := kernelStep s.kernel op
    todo := Function.update s.todo w
      (s.dispatch (reported s.kernel op) (sendCommand s.kernel op).isSome) }

/-- One action of `w`, with `rest` left. -/
def perform (s : Coordinator T) (w : Worker T) (rest : List Action) : Action → Coordinator T
  | .queueReports attributes => { s with
      queue := s.queue ++ attributes
      queued := s.queued ++ attributes
      todo := Function.update s.todo w (.postDrain :: rest) }
  | .postDrain => { s with
      postedDrains := s.postedDrains + 1
      todo := Function.update s.todo w rest }
  | .readOnOff => { s with
      todo := Function.update s.todo w
        (.setLed (Projector.projectedOnOff s.kernel.state) :: rest) }
  | .setLed onOff => { s with
      led := onOff
      todo := Function.update s.todo w rest }
  -- without a handler, firing the pump does nothing
  | .firePump => { s with
      commandWork := s.commandWork || s.publisher.pump.isSome
      todo := Function.update s.todo w rest }

/-- How the outcome of a send is reported to the kernel. -/
def outcome (c : S21OperationCommand) (acknowledged : Bool) : KernelOp :=
  if acknowledged then .onCommandSent c else .onCommandFailed

/-- The S21 work queue is between two work items. -/
def QueueFree (s : Coordinator T) : Prop := s.todo .s21WorkQueue = [] ∧ s.sending = none

instance (s : Coordinator T) : Decidable s.QueueFree := by
  unfold QueueFree; infer_instance

/-- One step; `none` where the threads rule it out. -/
def step (s : Coordinator T) : CoordinatorEvent T → Option (Coordinator T)
  | .intent t now i =>
      if s.todo (.controller t) = [] then some (s.mutate (.controller t) (.applyIntent now i))
      else none
  | .operational now obs =>
      if s.QueueFree then some (s.mutate .s21WorkQueue (.applyOperationalObservation now obs))
      else none
  | .environmental obs =>
      if s.QueueFree then some (s.mutate .s21WorkQueue (.applyEnvironmentalObservation obs))
      else none
  | .linkDown => if s.QueueFree then some (s.mutate .s21WorkQueue .notifyLinkDown) else none
  | .commandStart =>
      if s.QueueFree ∧ s.commandWork = true then
        some { s with commandWork := false, sending := s.kernel.pendingCommand }
      else none
  | .commandFinish acknowledged =>
      match s.sending with
      | none => none
      | some c =>
          let s := s.mutate .s21WorkQueue (outcome c acknowledged)
          some { s with
            sending := none
            transmissions := s.transmissions ++ [(c, acknowledged)] }
  | .proceed w =>
      match s.todo w with
      | [] => none
      | action :: rest => some (s.perform w rest action)
  | .drain =>
      -- one drain at a time takes all of the queue
      if 0 < s.postedDrains ∧ s.draining = [] then
        some { s with postedDrains := s.postedDrains - 1, draining := s.queue, queue := [] }
      else none
  | .report =>
      match s.draining with
      | [] => none
      | a :: rest =>
          let address := toMatterAddress a
          if address = (0, 0) then some { s with draining := rest }
          else some { s with
            draining := rest
            marked := s.marked ++ [address]
            reports := s.reports ++ [address] }
  | .lookUp address =>
      if address ∈ s.marked then
        some { s with
          marked := s.marked.filter (· ≠ address)
          mirror := Function.update s.mirror address (s.kernel.readAttribute address) }
      else none

/-! ### What a step can do -/

/-- The steps, with what enables each and what it leaves. -/
inductive Steps (s : Coordinator T) : CoordinatorEvent T → Coordinator T → Prop
  | intent {t : T} (now : Int) (i : WriteIntent) (hfree : s.todo (.controller t) = []) :
      Steps s (.intent t now i) (s.mutate (.controller t) (.applyIntent now i))
  | operational (now : Int) (obs : S21OperationalObservation) (hfree : s.QueueFree) :
      Steps s (.operational now obs)
        (s.mutate .s21WorkQueue (.applyOperationalObservation now obs))
  | environmental (obs : S21EnvironmentalObservation) (hfree : s.QueueFree) :
      Steps s (.environmental obs) (s.mutate .s21WorkQueue (.applyEnvironmentalObservation obs))
  | linkDown (hfree : s.QueueFree) : Steps s .linkDown (s.mutate .s21WorkQueue .notifyLinkDown)
  | commandStart (hfree : s.QueueFree) (hwork : s.commandWork = true) :
      Steps s .commandStart { s with commandWork := false, sending := s.kernel.pendingCommand }
  | commandFinish {c : S21OperationCommand} (acknowledged : Bool) (hsending : s.sending = some c) :
      Steps s (.commandFinish acknowledged)
        { s.mutate .s21WorkQueue (outcome c acknowledged) with
          sending := none
          transmissions := s.transmissions ++ [(c, acknowledged)] }
  | proceed {w : Worker T} {action : Action} {rest : List Action}
      (htodo : s.todo w = action :: rest) : Steps s (.proceed w) (s.perform w rest action)
  | drain (hposted : 0 < s.postedDrains) (hfree : s.draining = []) :
      Steps s .drain
        { s with postedDrains := s.postedDrains - 1, draining := s.queue, queue := [] }
  | skip {a : LogicalAttribute} {rest : List LogicalAttribute} (hdraining : s.draining = a :: rest)
      (hsentinel : toMatterAddress a = (0, 0)) : Steps s .report { s with draining := rest }
  | report {a : LogicalAttribute} {rest : List LogicalAttribute}
      (hdraining : s.draining = a :: rest) (haddress : toMatterAddress a ≠ (0, 0)) :
      Steps s .report { s with
        draining := rest
        marked := s.marked ++ [toMatterAddress a]
        reports := s.reports ++ [toMatterAddress a] }
  | lookUp {address : ClusterId × AttributeId} (hmarked : address ∈ s.marked) :
      Steps s (.lookUp address)
        { s with
          marked := s.marked.filter (· ≠ address)
          mirror := Function.update s.mirror address (s.kernel.readAttribute address) }

theorem steps_of_step {s s' : Coordinator T} {e : CoordinatorEvent T} (h : s.step e = some s') :
    Steps s e s' := by
  cases e with
  | intent t now i =>
      obtain ⟨hfree, rfl⟩ := Option.ite_some_none_eq_some.mp h
      exact .intent now i hfree
  | operational now obs =>
      obtain ⟨hfree, rfl⟩ := Option.ite_some_none_eq_some.mp h
      exact .operational now obs hfree
  | environmental obs =>
      obtain ⟨hfree, rfl⟩ := Option.ite_some_none_eq_some.mp h
      exact .environmental obs hfree
  | linkDown =>
      obtain ⟨hfree, rfl⟩ := Option.ite_some_none_eq_some.mp h
      exact .linkDown hfree
  | commandStart =>
      obtain ⟨⟨hfree, hwork⟩, rfl⟩ := Option.ite_some_none_eq_some.mp h
      exact .commandStart hfree hwork
  | commandFinish acknowledged =>
      simp only [step] at h
      split at h
      · cases h
      · rename_i c hsending
        obtain rfl := Option.some.inj h
        exact .commandFinish acknowledged hsending
  | proceed w =>
      simp only [step] at h
      split at h
      · cases h
      · rename_i action rest htodo
        obtain rfl := Option.some.inj h
        exact .proceed htodo
  | drain =>
      obtain ⟨⟨hposted, hfree⟩, rfl⟩ := Option.ite_some_none_eq_some.mp h
      exact .drain hposted hfree
  | report =>
      simp only [step] at h
      split at h
      · cases h
      · rename_i a rest hdraining
        split at h
        · rename_i hsentinel
          obtain rfl := Option.some.inj h
          exact .skip hdraining hsentinel
        · rename_i haddress
          obtain rfl := Option.some.inj h
          exact .report hdraining haddress
  | lookUp address =>
      obtain ⟨hmarked, rfl⟩ := Option.ite_some_none_eq_some.mp h
      exact .lookUp hmarked

/-! ### What the threads keep -/

/-- The listeners stay registered, and the work queue does nothing else while a command is
being sent. -/
structure Orderly (s : Coordinator T) : Prop where
  publisher : s.publisher = installed
  sending : s.sending ≠ none → s.todo .s21WorkQueue = []

omit [DecidableEq T] in
theorem orderly_start (config : ReconcilerConfig) (d : LogicalACStateDefaults) :
    (start config d : Coordinator T).Orderly :=
  ⟨rfl, fun _ => rfl⟩

theorem Orderly.mutate {s : Coordinator T} (h : s.Orderly) (op : KernelOp) (hfree : s.QueueFree) :
    (s.mutate .s21WorkQueue op).Orderly :=
  ⟨h.publisher, fun hsending => absurd hfree.2 hsending⟩

theorem Orderly.perform {s : Coordinator T} (h : s.Orderly) {w : Worker T} {action : Action}
    {rest : List Action} (htodo : s.todo w = action :: rest) :
    (s.perform w rest action).Orderly := by
  refine ⟨?_, fun hsending => ?_⟩
  · cases action <;> exact h.publisher
  · have hbefore : s.sending ≠ none := by
      cases action <;> exact hsending
    have hw : .s21WorkQueue ≠ w := by
      rintro rfl
      rw [h.sending hbefore] at htodo
      cases htodo
    have hother : (s.perform w rest action).todo .s21WorkQueue = s.todo .s21WorkQueue := by
      cases action <;> exact Function.update_of_ne hw _ _
    rw [hother]
    exact h.sending hbefore

theorem orderly_step {s s' : Coordinator T} {e : CoordinatorEvent T} (h : s.Orderly)
    (hstep : s.step e = some s') : s'.Orderly := by
  cases steps_of_step hstep with
  | intent now i hfree => exact ⟨h.publisher, h.sending⟩
  | operational now obs hfree => exact h.mutate _ hfree
  | environmental obs hfree => exact h.mutate _ hfree
  | linkDown hfree => exact h.mutate _ hfree
  | commandStart hfree hwork => exact ⟨h.publisher, fun _ => hfree.1⟩
  | commandFinish acknowledged hsending => exact ⟨h.publisher, fun hnone => absurd rfl hnone⟩
  | proceed htodo => exact h.perform htodo
  | drain hposted hfree => exact ⟨h.publisher, h.sending⟩
  | skip hdraining hsentinel => exact ⟨h.publisher, h.sending⟩
  | report hdraining haddress => exact ⟨h.publisher, h.sending⟩
  | lookUp hmarked => exact ⟨h.publisher, h.sending⟩

end Coordinator

end DaikinBridge.Bridge
