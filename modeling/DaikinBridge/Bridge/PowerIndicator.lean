import DaikinBridge.Bridge.Coordinator

/-!
# DaikinBridge.Bridge.PowerIndicator

The power indicator across all interleavings of the threads.

The listener reads OnOff under the lock and sets the LED after it has left the lock, so the
thread may be overtaken between the two, and the value it sets may be an old one. That does
no harm as long as another update is still to come. `LedFollows` says so of a state: the LED
shows the power state, or an update that will make it show it is due. `led_follows_iff` is
exact: the runs in which the LED follows are those in which no update that is outrun comes
last, and no send makes another power state show without an update.
-/

namespace DaikinBridge.Bridge.Coordinator

open S21 Sync
open Sync.Reconciler (KernelOp kernelStep reported)

variable {T : Type}

/-- What OnOff shows. -/
def shownOnOff (s : Coordinator T) : Bool := Projector.projectedOnOff s.kernel.state

/-- A thread has still to read OnOff for the LED, or has read `onOff` and has still to
set it. -/
def LedDue (onOff : Bool) (todo : Worker T → List Action) : Prop :=
  ∃ w, .readOnOff ∈ todo w ∨ .setLed onOff ∈ todo w

/-- The LED shows the power state, or is about to. -/
def LedFollows (s : Coordinator T) : Prop := s.led = s.shownOnOff ∨ LedDue s.shownOnOff s.todo

/-- When all threads are done, the LED shows the power state. -/
theorem LedFollows.of_done {s : Coordinator T} (h : s.LedFollows) (hdone : ∀ w, s.todo w = []) :
    s.led = s.shownOnOff := by
  refine h.resolve_right ?_
  rintro ⟨w, hmem | hmem⟩
  · rw [hdone w] at hmem
    cases hmem
  · rw [hdone w] at hmem
    cases hmem

variable [DecidableEq T]

/-- An LED update sets what OnOff shows, unless another update is still to come; and a send,
which notifies nobody, makes nothing show that is neither on the LED nor on its way there. -/
def LedNotOutrun (s : Coordinator T) : CoordinatorEvent T → Prop
  | .proceed w => ∀ onOff rest, s.todo w = .setLed onOff :: rest →
      onOff = s.shownOnOff ∨ LedDue s.shownOnOff (Function.update s.todo w rest)
  | .commandFinish true => s.sending ≠ none →
      s.led = s.kernel.state.onOff.observed ∨ LedDue s.kernel.state.onOff.observed s.todo
  | _ => True

/-! ### Steps -/

omit [DecidableEq T] in
/-- The indicator stays registered: a change of OnOff gives the thread that made it an
update to do. -/
theorem readOnOff_mem_dispatch {s : Coordinator T} (hpublisher : s.publisher = installed)
    {dirty : List LogicalAttribute} {send : Bool} (hdirty : .onOff ∈ dirty) :
    .readOnOff ∈ s.dispatch dirty send := by
  rw [dispatch, if_neg (List.ne_nil_of_mem hdirty), hpublisher, installed_slots]
  simp [Listener.onChangedAttributes, hdirty]

/-- A thread without anything to do owes no update, whatever it is given to do next. -/
theorem LedDue.update {onOff : Bool} {todo : Worker T → List Action} {w : Worker T}
    {actions : List Action} (hfree : todo w = []) (h : LedDue onOff todo) :
    LedDue onOff (Function.update todo w actions) := by
  obtain ⟨w', hmem⟩ := h
  have hne : w' ≠ w := by
    rintro rfl
    rw [hfree] at hmem
    rcases hmem with hmem | hmem <;> cases hmem
  refine ⟨w', ?_⟩
  rw [Function.update_of_ne hne]
  exact hmem

/-- The locked part of an entry point, if the operation reports a change of OnOff. -/
theorem LedFollows.mutate {s : Coordinator T} (h : s.LedFollows) (op : KernelOp)
    (hpublisher : s.publisher = installed) {w : Worker T}
    (hfree : s.todo w = [])
    (hreported : Projector.projectedOnOff (kernelStep s.kernel op).state ≠ s.shownOnOff →
      .onOff ∈ reported s.kernel op) : (s.mutate w op).LedFollows := by
  by_cases hsame : Projector.projectedOnOff (kernelStep s.kernel op).state = s.shownOnOff
  · have hshown : (s.mutate w op).shownOnOff = s.shownOnOff := hsame
    refine h.imp (fun hled => ?_) fun hdue => ?_
    · rw [hshown]
      exact hled
    · rw [hshown]
      exact hdue.update hfree
  · refine Or.inr ⟨w, Or.inl ?_⟩
    rw [Coordinator.mutate]
    dsimp only
    rw [Function.update_self]
    exact readOnOff_mem_dispatch hpublisher (hreported hsame)

/-- A change of OnOff is in the diff of the projections. -/
theorem onOff_mem_of_diff {r : Reconciler} {op : KernelOp}
    (hdiff : reported r op = diffProjections
      (Projector.project r.config.projector r.state)
      (Projector.project (kernelStep r op).config.projector (kernelStep r op).state))
    (hne : Projector.projectedOnOff (kernelStep r op).state ≠ Projector.projectedOnOff r.state) :
    .onOff ∈ reported r op := by
  rw [hdiff, mem_diffProjections]
  exact hne.symm

/-- An action that leaves the LED alone leaves an update that is due. -/
theorem LedFollows.frame {s s' : Coordinator T} (h : s.LedFollows) {w : Worker T}
    {action : Action} {rest left : List Action} (htodo : s.todo w = action :: rest)
    (hkernel : s'.kernel = s.kernel) (hled : s'.led = s.led)
    (htodo' : s'.todo = Function.update s.todo w left) (hleft : rest ⊆ left)
    (hread : action ≠ .readOnOff) (hset : ∀ onOff, action ≠ .setLed onOff) : s'.LedFollows := by
  have hshown : s'.shownOnOff = s.shownOnOff := by
    rw [shownOnOff, hkernel]
    rfl
  unfold LedFollows
  rw [hshown, hled, htodo']
  refine h.imp_right ?_
  rintro ⟨w', hmem⟩
  refine ⟨w', ?_⟩
  by_cases hw : w' = w
  · subst hw
    rw [htodo] at hmem
    rw [Function.update_self]
    exact hmem.imp (fun hmem => hleft ((List.mem_cons.mp hmem).resolve_left hread.symm))
      fun hmem => hleft ((List.mem_cons.mp hmem).resolve_left (hset _).symm)
  · rw [Function.update_of_ne hw]
    exact hmem

/-- One action: only setting the LED can go wrong. -/
theorem ledFollows_perform_iff {s : Coordinator T} (h : s.LedFollows) {w : Worker T}
    {action : Action} {rest : List Action} (htodo : s.todo w = action :: rest) :
    (s.perform w rest action).LedFollows ↔ s.LedNotOutrun (.proceed w) := by
  have hvacuous : (∀ onOff, action ≠ .setLed onOff) → s.LedNotOutrun (.proceed w) := by
    intro hother onOff rest' heq
    rw [htodo] at heq
    exact absurd (List.cons.inj heq).1 (hother onOff)
  cases action with
  | queueReports attributes =>
      exact iff_of_true (h.frame htodo rfl rfl rfl (List.subset_cons_self _ _) nofun nofun)
        (hvacuous nofun)
  | postDrain =>
      exact iff_of_true (h.frame htodo rfl rfl rfl (List.Subset.refl _) nofun nofun)
        (hvacuous nofun)
  | firePump =>
      exact iff_of_true (h.frame htodo rfl rfl rfl (List.Subset.refl _) nofun nofun)
        (hvacuous nofun)
  | readOnOff =>
      -- what has just been read is what shows
      refine iff_of_true (Or.inr ⟨w, Or.inr ?_⟩) (hvacuous nofun)
      simp [perform, shownOnOff]
  | setLed onOff =>
      constructor
      · intro hafter onOff' rest' heq
        rw [htodo] at heq
        obtain ⟨haction, rfl⟩ := List.cons.inj heq
        obtain rfl := Action.setLed.inj haction
        exact hafter
      · intro hcond
        exact hcond onOff rest htodo

/-- The report of a successful send: the observed power state shows. -/
theorem ledFollows_sent_iff {s : Coordinator T} (horderly : s.Orderly) {c : S21OperationCommand}
    (hsending : s.sending = some c) :
    LedFollows { s.mutate .s21WorkQueue (outcome c true) with
        sending := none
        transmissions := s.transmissions ++ [(c, true)] } ↔
      s.LedNotOutrun (.commandFinish true) := by
  have hne : s.sending ≠ none := by
    rw [hsending]
    exact Option.some_ne_none c
  have htodo : Function.update s.todo .s21WorkQueue [] = s.todo := by
    rw [← horderly.sending hne, Function.update_eq_self]
  have hshown : (s.mutate .s21WorkQueue (outcome c true)).shownOnOff =
      s.kernel.state.onOff.observed := by
    show projectedValue (s.kernel.onCommandSent c).state.onOff = _
    rw [Reconciler.sent_onOff, projectedValue_promote]
  have hafter : LedFollows { s.mutate .s21WorkQueue (outcome c true) with
      sending := none
      transmissions := s.transmissions ++ [(c, true)] } ↔
        s.led = s.kernel.state.onOff.observed ∨
          LedDue s.kernel.state.onOff.observed (Function.update s.todo .s21WorkQueue []) := by
    unfold LedFollows
    rw [← hshown]
    exact Iff.rfl
  rw [hafter, htodo]
  exact ⟨fun h _ => h, fun h => h hne⟩

/-- **One step.** From a state in which the LED follows, a step leads to another such state
if and only if the LED is not outrun. -/
theorem ledFollows_step_iff {s s' : Coordinator T} {e : CoordinatorEvent T}
    (horderly : s.Orderly) (h : s.LedFollows) (hstep : s.step e = some s') :
    s'.LedFollows ↔ s.LedNotOutrun e := by
  cases steps_of_step hstep with
  | intent now i hfree =>
      exact iff_of_true (h.mutate _ horderly.publisher hfree (onOff_mem_of_diff rfl)) trivial
  | operational now obs hfree =>
      exact iff_of_true (h.mutate _ horderly.publisher hfree.1 (onOff_mem_of_diff rfl)) trivial
  | environmental obs hfree =>
      exact iff_of_true (h.mutate _ horderly.publisher hfree.1 (onOff_mem_of_diff rfl)) trivial
  | linkDown hfree =>
      exact iff_of_true (h.mutate _ horderly.publisher hfree.1 fun hne => absurd rfl hne) trivial
  | commandStart hfree hwork => exact iff_of_true h trivial
  | @commandFinish c acknowledged hsending =>
      cases acknowledged with
      | true => exact ledFollows_sent_iff horderly hsending
      | false =>
          have hfree : s.todo .s21WorkQueue = [] := by
            refine horderly.sending ?_
            rw [hsending]
            exact Option.some_ne_none c
          refine iff_of_true ?_ trivial
          exact LedFollows.mutate h (outcome c false) horderly.publisher hfree
            fun hne => absurd rfl hne
  | proceed htodo => exact ledFollows_perform_iff h htodo
  | drain hposted hfree => exact iff_of_true h trivial
  | skip hdraining hsentinel => exact iff_of_true h trivial
  | report hdraining haddress => exact iff_of_true h trivial
  | lookUp hmarked => exact iff_of_true h trivial

/-- A step that is ruled out outruns nothing. -/
theorem ledNotOutrun_of_disabled {s : Coordinator T} {e : CoordinatorEvent T}
    (h : s.step e = none) : s.LedNotOutrun e := by
  cases e with
  | proceed w =>
      intro onOff rest htodo
      rw [step, htodo] at h
      cases h
  | commandFinish acknowledged =>
      cases acknowledged with
      | false => trivial
      | true =>
          intro hsending
          obtain ⟨c, hc⟩ := Option.ne_none_iff_exists'.mp hsending
          rw [step, hc] at h
          cases h
  | _ => trivial

/-- **The LED follows the power state** in every state of a run, from boot and under any
interleaving, if and only if no step of the run outruns it. -/
theorem led_follows_iff (config : ReconcilerConfig) (d : LogicalACStateDefaults)
    (events : List (CoordinatorEvent T)) :
    Lib.ThroughoutGuarded step LedFollows (start config d) events ↔
      Lib.AlongGuarded step LedNotOutrun (start config d) events :=
  Lib.throughoutGuarded_iff_along (I := Orderly)
    (fun _ _ _ h hstep => orderly_step h hstep)
    (fun _ _ _ horderly h hstep => ledFollows_step_iff horderly h hstep)
    (fun _ _ => ledNotOutrun_of_disabled) (orderly_start config d) (Or.inl rfl)

/-- The unit is switched on by one thread and off by another, which overtakes the first
between its read and its write of the LED: the LED stays on. -/
theorem led_outrun :
    ∃ s : Coordinator Bool, Lib.runGuarded step (start {} {})
        [.intent true 1 (.setOnOff true), .proceed (.controller true), .proceed (.controller true),
         .proceed (.controller true),
         .intent false 2 (.setOnOff false), .proceed (.controller false),
         .proceed (.controller false), .proceed (.controller false), .proceed (.controller false),
         .proceed (.controller true), .proceed (.controller true)] = some s ∧
      (∀ w, s.todo w = []) ∧ s.shownOnOff = false ∧ s.led = true := by
  refine ⟨_, rfl, ?_, rfl, rfl⟩
  rintro (_ | _ | _) <;> rfl

end DaikinBridge.Bridge.Coordinator
