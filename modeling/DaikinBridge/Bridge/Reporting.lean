import DaikinBridge.Bridge.Coordinator
import DaikinBridge.Lib.Publication
import DaikinBridge.Lib.Refinement
import DaikinBridge.Sync.Intents

/-!
# DaikinBridge.Bridge.Reporting

What a subscriber of the bridge sees, across all interleavings of the threads.

A change of the kernel is on its way to the subscriber in four places: with the thread that
made it, in the queue of the reporter, with the running drain, and among the paths the
Matter stack has marked. Forgetting which place it is in turns the coordinator into a
`Lib.Board` (`board`), whose values are the reads of all addresses; every step of the
coordinator is a step of the board (`board_step`). So whatever is not on its way is held
exactly by the subscriber (`subscriber_exact`). The one condition is on sends, which notify
nobody: they must not change what shows. Most acknowledged sends do, since they put a new value
in flight and its twin shows the observed one again until the unit confirms; one that carries no
news for what shows does not (`storedShadow`). The loss of the link notifies nobody either, but
what it changes has no address.

`postedDrain_of_queue` adds that a waiting report always has a drain to come, and
`reports_in_order` that the queue loses, repeats and reorders nothing.
-/

namespace DaikinBridge.Bridge

open S21 Sync
open Sync.Reconciler (KernelOp kernelStep reported SendShowsNothing coolingObservation)

/-! ### What an operation changes and does not report -/

/-- A read that an operation changes is a read of an attribute it reports. -/
def ReadsReported (r : Reconciler) (op : KernelOp) : Prop :=
  ∀ address, (∀ a ∈ reported r op, toMatterAddress a ≠ address) →
    (kernelStep r op).readAttribute address = r.readAttribute address

section Reported

variable {r : Reconciler}

/-- Operations that report the diff of their projections. -/
theorem readsReported_of_diff {op : KernelOp}
    (hdiff : reported r op = diffProjections
      (Projector.project r.config.projector r.state)
      (Projector.project (kernelStep r op).config.projector (kernelStep r op).state)) :
    ReadsReported r op := by
  intro address haddress
  refine Reconciler.readAttribute_congr fun a ha => ?_
  have hsame : (kernelStep r op).view a = r.view a := by
    by_contra hne
    refine haddress a ?_ ha
    rw [hdiff, mem_diffProjections]
    exact fun h => hne h.symm
  rw [hsame]

/-- Operations that leave the projection alone. -/
theorem readsReported_of_same {op : KernelOp}
    (hsame : Projector.project (kernelStep r op).config.projector (kernelStep r op).state =
      Projector.project r.config.projector r.state) : ReadsReported r op := by
  intro address _
  refine Reconciler.readAttribute_congr fun a _ => ?_
  rw [Reconciler.view, hsame, ← Reconciler.view]

/-- Losing the link changes only an attribute without an address. -/
theorem readsReported_linkDown : ReadsReported r .notifyLinkDown := by
  intro address _
  refine Reconciler.readAttribute_congr fun a _ => ?_
  cases a <;> rfl

theorem readsReported_outcome {c : S21OperationCommand} {acknowledged : Bool}
    (h : acknowledged = true → SendShowsNothing r.state) :
    ReadsReported r (Coordinator.outcome c acknowledged) := by
  cases acknowledged with
  | true => exact readsReported_of_same ((Reconciler.project_sent_iff r c _).mpr (h rfl))
  | false => exact readsReported_of_same rfl

end Reported

namespace Coordinator

variable {T : Type} [DecidableEq T]

/-! ### The coordinator as a board -/

/-- A report of the attribute has still to be made. -/
def Announced (s : Coordinator T) (a : LogicalAttribute) : Prop :=
  a ∈ s.queue ∨ a ∈ s.draining ∨
    ∃ w attributes, .queueReports attributes ∈ s.todo w ∧ a ∈ attributes

/-- A report for the address is on its way: still to be made, or made and not followed by a
read yet. -/
def OnItsWay (s : Coordinator T) (address : ClusterId × AttributeId) : Prop :=
  address ∈ s.marked ∨ address ≠ (0, 0) ∧ ∃ a, toMatterAddress a = address ∧ s.Announced a

/-- The coordinator without its queues and threads. -/
def board (s : Coordinator T) :
    Lib.Board fun _ : ClusterId × AttributeId => Option Encoded where
  current := s.kernel.readAttribute
  copy := s.mirror
  noticed := {address | s.OnItsWay address}

omit [DecidableEq T] in
/-- The reporter stays registered, and a thread that leaves the lock has the reports of its
change to make. -/
theorem queueReports_mem_dispatch {s : Coordinator T} (hpublisher : s.publisher = installed)
    {dirty : List LogicalAttribute} {send : Bool} (hdirty : dirty ≠ []) :
    .queueReports dirty ∈ s.dispatch dirty send := by
  rw [dispatch, if_neg hdirty, hpublisher, installed_slots]
  exact List.mem_append_left _ (List.mem_append_left _ (List.mem_singleton.mpr rfl))

theorem announced_mutate {s : Coordinator T} {w : Worker T} (op : KernelOp)
    (hfree : s.todo w = []) {a : LogicalAttribute} (h : s.Announced a) :
    (s.mutate w op).Announced a := by
  refine h.imp_right (Or.imp_right ?_)
  rintro ⟨w', attributes, hmem, ha⟩
  refine ⟨w', attributes, ?_, ha⟩
  have hne : w' ≠ w := by
    rintro rfl
    rw [hfree] at hmem
    cases hmem
  have hother : (s.mutate w op).todo w' = s.todo w' := Function.update_of_ne hne _ _
  rw [hother]
  exact hmem

/-- The locked part of an entry point publishes, if the operation reports what it changes. -/
theorem board_mutate {s : Coordinator T} (hpublisher : s.publisher = installed) {w : Worker T}
    {op : KernelOp} (hfree : s.todo w = []) (hreported : ReadsReported s.kernel op) :
    Lib.Board.Step s.board (s.mutate w op).board := by
  refine .publish _ _ ?_ fun address haddress => ?_
  · rintro address (hmarked | ⟨hne, a, ha, hannounced⟩)
    · exact Or.inl hmarked
    · exact Or.inr ⟨hne, a, ha, announced_mutate op hfree hannounced⟩
  · by_cases hne : address = (0, 0)
    · subst hne
      rfl
    · refine hreported address fun a ha heq => haddress ?_
      refine Or.inr ⟨hne, a, heq, Or.inr (Or.inr ⟨w, _, ?_, ha⟩)⟩
      rw [mutate]
      dsimp only
      rw [Function.update_self]
      exact queueReports_mem_dispatch hpublisher (List.ne_nil_of_mem ha)

omit [DecidableEq T] in
/-- A step that leaves the values and the copy alone and keeps what is on its way. -/
theorem board_quiet {s s' : Coordinator T} (hkernel : s'.kernel = s.kernel)
    (hmirror : s'.mirror = s.mirror) (hway : ∀ address, s.OnItsWay address → s'.OnItsWay address) :
    Lib.Board.Step s.board s'.board := by
  have hboard : s'.board = ⟨s.board.current, s.board.copy, {a | s'.OnItsWay a}⟩ := by
    rw [board, hkernel, hmirror]
    rfl
  rw [hboard]
  exact .publish _ _ hway fun _ _ => rfl

theorem board_perform {s : Coordinator T} {w : Worker T} {action : Action} {rest : List Action}
    (htodo : s.todo w = action :: rest) :
    Lib.Board.Step s.board (s.perform w rest action).board := by
  have hkernel : (s.perform w rest action).kernel = s.kernel := by
    cases action <;> rfl
  have hmirror : (s.perform w rest action).mirror = s.mirror := by
    cases action <;> rfl
  have hmarked : (s.perform w rest action).marked = s.marked := by
    cases action <;> rfl
  have hdraining : (s.perform w rest action).draining = s.draining := by
    cases action <;> rfl
  refine board_quiet hkernel hmirror fun address hway => ?_
  refine hway.imp (fun h => hmarked.symm ▸ h) (And.imp_right ?_)
  rintro ⟨a, ha, hannounced⟩
  refine ⟨a, ha, ?_⟩
  rcases hannounced with hqueue | hdrain | ⟨w', attributes, hmem, hin⟩
  · -- what is queued stays queued
    left
    cases action with
    | queueReports more => exact List.mem_append_left _ hqueue
    | _ => exact hqueue
  · exact Or.inr (Or.inl (hdraining.symm ▸ hdrain))
  · by_cases hw : w' = w
    · subst hw
      rw [htodo] at hmem
      rcases List.mem_cons.mp hmem with rfl | hrest
      · -- the reporter's own action puts its attributes in the queue
        exact Or.inl (List.mem_append_right _ hin)
      · refine Or.inr (Or.inr ⟨w', attributes, ?_, hin⟩)
        cases action <;> simp [perform, hrest]
    · refine Or.inr (Or.inr ⟨w', attributes, ?_, hin⟩)
      have hother : (s.perform w rest action).todo w' = s.todo w' := by
        cases action <;> exact Function.update_of_ne hw _ _
      rw [hother]
      exact hmem

omit [DecidableEq T] in
/-- A drain takes the queue over. -/
theorem board_drain {s : Coordinator T} (hfree : s.draining = []) :
    Lib.Board.Step s.board
      { s with postedDrains := s.postedDrains - 1, draining := s.queue, queue := [] }.board := by
  refine board_quiet rfl rfl fun address hway => ?_
  refine hway.imp_right (And.imp_right ?_)
  rintro ⟨a, ha, hannounced⟩
  refine ⟨a, ha, Or.inr ?_⟩
  rcases hannounced with hqueue | hdrain | hthread
  · exact Or.inl hqueue
  · rw [hfree] at hdrain
    cases hdrain
  · exact Or.inr hthread

omit [DecidableEq T] in
/-- The drain leaves its first attribute once the report of it, if it has an address, is
marked. -/
theorem board_report {s s' : Coordinator T} {a : LogicalAttribute} {rest : List LogicalAttribute}
    (hdraining : s.draining = a :: rest) (hkernel : s'.kernel = s.kernel)
    (hmirror : s'.mirror = s.mirror) (htodo : s'.todo = s.todo) (hqueue : s'.queue = s.queue)
    (hrest : s'.draining = rest) (hmarked : s.marked ⊆ s'.marked)
    (hreport : toMatterAddress a ≠ (0, 0) → toMatterAddress a ∈ s'.marked) :
    Lib.Board.Step s.board s'.board := by
  refine board_quiet hkernel hmirror fun address hway => ?_
  rcases hway with hmem | ⟨hne, a', ha', hannounced⟩
  · exact Or.inl (hmarked hmem)
  · by_cases heq : a' = a
    · subst heq ha'
      exact Or.inl (hreport hne)
    · refine Or.inr ⟨hne, a', ha', ?_⟩
      unfold Announced at hannounced ⊢
      rw [htodo, hqueue, hrest]
      rw [hdraining] at hannounced
      exact hannounced.imp_right (Or.imp_left fun h => (List.mem_cons.mp h).resolve_left heq)

omit [DecidableEq T] in
/-- A read of a marked path is a lookup of its address. -/
theorem board_lookUp (s : Coordinator T) (address : ClusterId × AttributeId) :
    Lib.Board.Step s.board
      { s with
        marked := s.marked.filter (· ≠ address)
        mirror := Function.update s.mirror address (s.kernel.readAttribute address) }.board := by
  refine .lookUp address _ ?_
  rintro other (hmarked | hannounced)
  · by_cases heq : other = address
    · exact Or.inl heq
    · exact Or.inr (Or.inl (List.mem_filter.mpr ⟨hmarked, decide_eq_true heq⟩))
  · exact Or.inr (Or.inr hannounced)

/-- An acknowledged send changes nothing that shows: each twin that it puts in flight, and that
is shown, shows its observed value already. -/
def SendShowsNothing (s : Coordinator T) : CoordinatorEvent T → Prop
  | .commandFinish true => Reconciler.SendShowsNothing s.kernel.state
  | _ => True

/-- **The coordinator is a board.** Every step publishes or looks up, or leaves the board as
it is. -/
theorem board_step {s s' : Coordinator T} {e : CoordinatorEvent T} (h : s.Orderly)
    (hsilent : s.SendShowsNothing e) (hstep : s.step e = some s') :
    Lib.Board.Step s.board s'.board := by
  cases steps_of_step hstep with
  | intent now i hfree => exact board_mutate h.publisher hfree (readsReported_of_diff rfl)
  | operational now obs hfree =>
      exact board_mutate h.publisher hfree.1 (readsReported_of_diff rfl)
  | environmental obs hfree =>
      exact board_mutate h.publisher hfree.1 (readsReported_of_diff rfl)
  | linkDown hfree => exact board_mutate h.publisher hfree.1 readsReported_linkDown
  | commandStart hfree hwork => exact board_quiet rfl rfl fun _ hway => hway
  | @commandFinish c acknowledged hsending =>
      have hfree : s.todo .s21WorkQueue = [] := by
        refine h.sending ?_
        rw [hsending]
        exact Option.some_ne_none c
      refine board_mutate h.publisher hfree (readsReported_outcome ?_)
      rintro rfl
      exact hsilent
  | proceed htodo => exact board_perform htodo
  | drain hposted hfree => exact board_drain hfree
  | skip hdraining hsentinel =>
      exact board_report hdraining rfl rfl rfl rfl rfl (List.Subset.refl _)
        fun hne => absurd hsentinel hne
  | report hdraining haddress =>
      exact board_report hdraining rfl rfl rfl rfl rfl (List.subset_append_left _ _)
        fun _ => List.mem_append_right _ (List.mem_singleton.mpr rfl)
  | lookUp hmarked => exact board_lookUp s _

/-! ### Drains -/

/-- A waiting report has a drain to come: one is posted, or a thread is about to post one. -/
def DrainToCome (s : Coordinator T) : Prop :=
  s.queue ≠ [] → 0 < s.postedDrains ∨ ∃ w, .postDrain ∈ s.todo w

theorem DrainToCome.mutate {s : Coordinator T} (h : s.DrainToCome) {w : Worker T} (op : KernelOp)
    (hfree : s.todo w = []) : (s.mutate w op).DrainToCome := by
  intro hqueue
  refine (h hqueue).imp_right ?_
  rintro ⟨w', hmem⟩
  have hne : w' ≠ w := by
    rintro rfl
    rw [hfree] at hmem
    cases hmem
  have hother : (s.mutate w op).todo w' = s.todo w' := Function.update_of_ne hne _ _
  exact ⟨w', hother.symm ▸ hmem⟩

/-- An action that does not touch the drains leaves a thread that posts one its post. -/
theorem DrainToCome.frame {s s' : Coordinator T} (h : s.DrainToCome) {w : Worker T}
    {action : Action} {rest left : List Action} (htodo : s.todo w = action :: rest)
    (hqueue : s'.queue = s.queue) (hposted : s'.postedDrains = s.postedDrains)
    (htodo' : s'.todo = Function.update s.todo w left) (hleft : rest ⊆ left)
    (hother : action ≠ .postDrain) : s'.DrainToCome := by
  intro hne
  rw [hqueue] at hne
  rw [hposted, htodo']
  refine (h hne).imp_right ?_
  rintro ⟨w', hmem⟩
  refine ⟨w', ?_⟩
  by_cases hw : w' = w
  · subst hw
    rw [htodo] at hmem
    rw [Function.update_self]
    exact hleft ((List.mem_cons.mp hmem).resolve_left hother.symm)
  · rw [Function.update_of_ne hw]
    exact hmem

theorem DrainToCome.perform {s : Coordinator T} (h : s.DrainToCome) {w : Worker T}
    {action : Action} {rest : List Action} (htodo : s.todo w = action :: rest) :
    (s.perform w rest action).DrainToCome := by
  cases action with
  | queueReports attributes =>
      refine fun _ => Or.inr ⟨w, ?_⟩
      simp [Coordinator.perform]
  | postDrain => exact fun _ => Or.inl (Nat.succ_pos _)
  | readOnOff => exact h.frame htodo rfl rfl rfl (List.subset_cons_self _ _) nofun
  | setLed onOff => exact h.frame htodo rfl rfl rfl (List.Subset.refl _) nofun
  | firePump => exact h.frame htodo rfl rfl rfl (List.Subset.refl _) nofun

theorem drainToCome_step {s s' : Coordinator T} {e : CoordinatorEvent T} (horderly : s.Orderly)
    (h : s.DrainToCome) (hstep : s.step e = some s') : s'.DrainToCome := by
  cases steps_of_step hstep with
  | intent now i hfree => exact h.mutate _ hfree
  | operational now obs hfree => exact h.mutate _ hfree.1
  | environmental obs hfree => exact h.mutate _ hfree.1
  | linkDown hfree => exact h.mutate _ hfree.1
  | commandStart hfree hwork => exact h
  | @commandFinish c acknowledged hsending =>
      refine DrainToCome.mutate h (outcome c acknowledged) (horderly.sending ?_)
      rw [hsending]
      exact Option.some_ne_none c
  | proceed htodo => exact h.perform htodo
  | drain hposted hfree => exact fun hqueue => absurd rfl hqueue
  | skip hdraining hsentinel => exact h
  | report hdraining haddress => exact h
  | lookUp hmarked => exact h

/-! ### Runs -/

/-- Every thread is done, no drain is posted or running, and every marked path has been
read. -/
structure Idle (s : Coordinator T) : Prop where
  todo : ∀ w, s.todo w = []
  postedDrains : s.postedDrains = 0
  draining : s.draining = []
  marked : s.marked = []

omit [DecidableEq T] in
/-- Then nothing is on its way. -/
theorem Idle.nothing_onItsWay {s : Coordinator T} (h : s.Idle) (hdrain : s.DrainToCome)
    (address : ClusterId × AttributeId) : ¬ s.OnItsWay address := by
  have hqueue : s.queue = [] := by
    by_contra hne
    rcases hdrain hne with hposted | ⟨w, hmem⟩
    · rw [h.postedDrains] at hposted
      exact Nat.lt_irrefl 0 hposted
    · rw [h.todo w] at hmem
      cases hmem
  rintro (hmarked | ⟨-, a, -, hannounced⟩)
  · rw [h.marked] at hmarked
    cases hmarked
  · rcases hannounced with hmem | hmem | ⟨w, attributes, hmem, -⟩
    · rw [hqueue] at hmem
      cases hmem
    · rw [h.draining] at hmem
      cases hmem
    · rw [h.todo w] at hmem
      cases hmem

theorem board_exact {config : ReconcilerConfig} {d : LogicalACStateDefaults}
    {events : List (CoordinatorEvent T)} {s : Coordinator T}
    (hrun : Lib.runGuarded step (start config d) events = some s)
    (hsilent : Lib.AlongGuarded step SendShowsNothing (start config d) events) :
    s.board.Exact ∧ s.DrainToCome := by
  have hstart : (start config d : Coordinator T).board.Exact := fun _ _ => rfl
  obtain ⟨⟨-, hdrain⟩, hsteps⟩ := Lib.runGuarded_simulates (R := Lib.Board.Step) board
    (I := fun s => s.Orderly ∧ s.DrainToCome)
    (fun s e t h hsilent hstep => ⟨⟨orderly_step h.1 hstep, drainToCome_step h.1 h.2 hstep⟩,
      board_step h.1 hsilent hstep⟩)
    ⟨orderly_start config d, fun hqueue => absurd rfl hqueue⟩ hsilent hrun
  exact ⟨hstart.steps hsteps, hdrain⟩

omit [DecidableEq T] in
/-- Once everything has caught up, the subscriber holds what is read. -/
theorem Idle.mirror_eq {s : Coordinator T} (h : s.Idle) (hexact : s.board.Exact)
    (hdrain : s.DrainToCome) : s.mirror = s.kernel.readAttribute :=
  funext fun address => hexact address (h.nothing_onItsWay hdrain address)

/-- **No lost update.** Take any run from boot, with any number of controller threads and any
interleaving, in which no send changes anything that shows. Then the subscriber holds, for
every address for which no report is on its way, what a read of the address returns; and once
the threads, the drains and the reads have caught up, it does so for all addresses.

The condition shuts out most ordinary acknowledged sends: the send of a new value that is shown
puts its twin in flight, where the observed value shows again, and reports that to nobody.
Sends that fail, that repeat what the unit does, or that move only what does not show, meet it. -/
theorem subscriber_exact {config : ReconcilerConfig} {d : LogicalACStateDefaults}
    {events : List (CoordinatorEvent T)} {s : Coordinator T}
    (hrun : Lib.runGuarded step (start config d) events = some s)
    (hsilent : Lib.AlongGuarded step SendShowsNothing (start config d) events) :
    (∀ address, ¬ s.OnItsWay address → s.mirror address = s.kernel.readAttribute address) ∧
      (s.Idle → s.mirror = s.kernel.readAttribute) := by
  obtain ⟨hexact, hdrain⟩ := board_exact hrun hsilent
  exact ⟨hexact, fun hidle => hidle.mirror_eq hexact hdrain⟩

/-- Two writes on different threads, the second made and queued before the first is: one
drain takes both, the other finds nothing, and one read of each address is enough. -/
def twoWrites : List (CoordinatorEvent Bool) :=
  [.intent true 1 (.setOccupiedHeatingSetpoint 2300),
    .intent false 2 (.setOccupiedCoolingSetpoint 2600),
    .proceed (.controller false), .proceed (.controller false), .proceed (.controller false),
    .proceed (.controller true), .proceed (.controller true), .proceed (.controller true),
    .drain, .report, .report, .report, .report, .report,
    .lookUp (toMatterAddress .occupiedHeatingSetpoint),
    .lookUp (toMatterAddress .occupiedCoolingSetpoint),
    .lookUp (toMatterAddress .setpointSource), .drain]

/-- The unit is found cooling, and a controller stores a heating setpoint for later. That shows
at once; the command that goes out is the one the unit follows already, and its acknowledgement
changes nothing that shows. -/
def storedShadow : List (CoordinatorEvent Bool) :=
  .operational 1000 coolingObservation :: List.replicate 4 (.proceed .s21WorkQueue) ++
    .intent true 3000 (.setOccupiedHeatingSetpoint 2300) ::
      List.replicate 3 (.proceed (.controller true)) ++ [.commandStart, .commandFinish true]

/-- One drain takes the reports of the poll and of the write. -/
def readStored : List (CoordinatorEvent Bool) :=
  .drain :: List.replicate 12 .report ++
    [.onOff, .systemMode, .occupiedHeatingSetpoint, .occupiedCoolingSetpoint, .setpointSource,
      .speedSetting, .fanMode, .speedCurrent, .percentSetting, .percentCurrent].map
        (fun a => .lookUp (toMatterAddress a)) ++ [.drain]

theorem storedShadow_silent :
    Lib.AlongGuarded step SendShowsNothing (start {} {}) storedShadow := by
  refine .cons trivial rfl <| .cons trivial rfl <| .cons trivial rfl <| .cons trivial rfl <|
    .cons trivial rfl <| .cons trivial rfl <| .cons trivial rfl <| .cons trivial rfl <|
    .cons trivial rfl <| .cons trivial rfl <| .cons ?_ rfl trivial
  -- every twin that is put in flight has its observed value desired
  exact ⟨.inr rfl, .inr rfl, fun _ => .inr rfl, fun _ => .inr rfl⟩

theorem twoWrites_and_storedShadow_exact :
    (∃ s, Lib.runGuarded step (start {} {}) twoWrites = some s ∧
      s.mirror = s.kernel.readAttribute) ∧
    ∃ s, Lib.runGuarded step (start {} {}) (storedShadow ++ readStored) = some s ∧
      s.transmissions = [(⟨true, .cool, 2400, .high⟩, true)] ∧
      s.mirror = s.kernel.readAttribute := by
  constructor
  · obtain ⟨s, hrun, hidle⟩ :
        ∃ s, Lib.runGuarded step (start {} {}) twoWrites = some s ∧ s.Idle := by
      refine ⟨_, rfl, ?_, rfl, rfl, rfl⟩
      rintro (_ | _ | _) <;> rfl
    have hsilent : Lib.AlongGuarded step SendShowsNothing (start {} {}) twoWrites :=
      Lib.alongGuarded_of_forall (by simp [twoWrites, SendShowsNothing])
    exact ⟨s, hrun, (subscriber_exact hrun hsilent).2 hidle⟩
  · obtain ⟨s, hrun, hsent, hidle⟩ :
        ∃ s, Lib.runGuarded step (start {} {}) (storedShadow ++ readStored) = some s ∧
          s.transmissions = [(⟨true, .cool, 2400, .high⟩, true)] ∧ s.Idle := by
      refine ⟨_, rfl, rfl, ?_, rfl, rfl, by decide +kernel⟩
      rintro (_ | _ | _) <;> rfl
    have hsilent : Lib.AlongGuarded step SendShowsNothing (start {} {})
        (storedShadow ++ readStored) :=
      storedShadow_silent.append fun _ _ =>
        Lib.alongGuarded_of_forall (by simp [readStored, SendShowsNothing])
    exact ⟨s, hrun, hsent, (subscriber_exact hrun hsilent).2 hidle⟩

/-! ### The report queue -/

/-- The addresses of the attributes that have one. -/
def addresses (attributes : List LogicalAttribute) : List (ClusterId × AttributeId) :=
  (attributes.map toMatterAddress).filter (· ≠ (0, 0))

@[simp] theorem addresses_append (as bs : List LogicalAttribute) :
    addresses (as ++ bs) = addresses as ++ addresses bs := by
  simp [addresses]

/-- What was queued is what was reported, followed by what the drain and the queue still
hold. -/
def InOrder (s : Coordinator T) : Prop :=
  addresses s.queued = s.reports ++ addresses (s.draining ++ s.queue)

theorem inOrder_step {s s' : Coordinator T} {e : CoordinatorEvent T} (h : s.InOrder)
    (hstep : s.step e = some s') : s'.InOrder := by
  unfold InOrder at h ⊢
  cases steps_of_step hstep with
  | @proceed w action rest htodo =>
      cases action with
      | queueReports attributes =>
          simp only [Coordinator.perform, addresses_append, h, List.append_assoc]
      | _ => exact h
  | drain hposted hfree => simpa [hfree] using h
  | @skip a rest hdraining hsentinel =>
      rw [hdraining, List.cons_append] at h
      have hskip : addresses (a :: (rest ++ s.queue)) = addresses (rest ++ s.queue) := by
        simp [addresses, hsentinel]
      rw [hskip] at h
      exact h
  | @report a rest hdraining haddress =>
      rw [hdraining, List.cons_append] at h
      have htake : addresses (a :: (rest ++ s.queue)) =
          toMatterAddress a :: addresses (rest ++ s.queue) := by
        simp [addresses, haddress]
      rw [htake] at h
      simp only [h, List.append_assoc, List.singleton_append]
  | _ => exact h

/-- **Reports in order.** In every state of every run, the reports made so far, followed by
those the drain and the queue still hold, are the addresses of all attributes ever handed to
the reporter, in that order: none is lost, repeated or overtaken. -/
theorem reports_in_order {config : ReconcilerConfig} {d : LogicalACStateDefaults}
    {events : List (CoordinatorEvent T)} {s : Coordinator T}
    (hrun : Lib.runGuarded step (start config d) events = some s) :
    addresses s.queued = s.reports ++ addresses (s.draining ++ s.queue) :=
  Lib.runGuarded_of_step (I := InOrder) (fun _ _ _ h hstep => inOrder_step h hstep)
    (rfl : (start config d : Coordinator T).InOrder) hrun

/-- In the middle of a drain: two reports are made, four are left. -/
theorem reports_in_order_of_twoWrites :
    ∃ s, Lib.runGuarded step (start {} {}) (twoWrites.take 11) = some s ∧
      addresses s.queued = s.reports ++ addresses (s.draining ++ s.queue) ∧
      s.reports.length = 2 ∧ s.draining ≠ [] := by
  obtain ⟨s, hrun, hreports, hdraining⟩ :
      ∃ s, Lib.runGuarded step (start {} {}) (twoWrites.take 11) = some s ∧
        s.reports.length = 2 ∧ s.draining ≠ [] := ⟨_, rfl, rfl, nofun⟩
  exact ⟨s, hrun, reports_in_order hrun, hreports, hdraining⟩

end Coordinator

end DaikinBridge.Bridge
