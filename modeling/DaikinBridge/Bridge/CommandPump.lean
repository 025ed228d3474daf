import DaikinBridge.Bridge.Coordinator
import Mathlib.Data.List.Chain

/-!
# DaikinBridge.Bridge.CommandPump

The command pump across all interleavings of the threads.

The pump is edge-triggered: a mutation that leaves a command pending fires it, and it runs
once. Whether a command is pending is a state, which other operations may change without
firing. `pump_not_forgotten` says that the edges are enough but for one case: a pending
command has a run of the pump to come, unless a send has been reported and neither an intent
nor an operational observation has been taken since. So a command that a report of a send
leaves behind, a failed one for instance, waits for the next poll at most.

`transmissions_differ` is about the other end: the command remembered as sent keeps the pump
from sending a command twice running, whatever happens in between, unless the first attempt
failed.
-/

namespace DaikinBridge.Bridge

open S21 Sync
open Sync.Reconciler (KernelOp kernelStep reported)

/-- The event is an intent or an operational observation. -/
def CoordinatorEvent.TakesIn {T : Type} : CoordinatorEvent T → Prop
  | .intent _ _ _ => True
  | .operational _ _ => True
  | _ => False

namespace Coordinator

variable {T : Type}

/-- The command work is scheduled, or a thread is about to fire the pump. -/
def PumpDue (s : Coordinator T) : Prop :=
  s.commandWork = true ∨ ∃ w, .firePump ∈ s.todo w

/-- The last send has been reported, and nothing has been taken in since. -/
def ReportedLast (events : List (CoordinatorEvent T)) : Prop :=
  ∃ before acknowledged after, events = before ++ .commandFinish acknowledged :: after ∧
    ∀ e ∈ after, ¬ e.TakesIn

/-- A pending command has a run of the pump to come or in progress, unless a report of a send
came last. -/
def NotForgotten (events : List (CoordinatorEvent T)) (s : Coordinator T) : Prop :=
  s.kernel.pendingCommand ≠ none → s.PumpDue ∨ s.sending ≠ none ∨ ReportedLast events

theorem ReportedLast.concat {events : List (CoordinatorEvent T)} (h : ReportedLast events)
    {e : CoordinatorEvent T} (he : ¬ e.TakesIn) : ReportedLast (events ++ [e]) := by
  obtain ⟨before, acknowledged, after, rfl, hafter⟩ := h
  refine ⟨before, acknowledged, after ++ [e], by simp, fun e' he' => ?_⟩
  rcases List.mem_append.mp he' with hmem | hmem
  · exact hafter e' hmem
  · obtain rfl := List.mem_singleton.mp hmem
    exact he

theorem reportedLast_finish (events : List (CoordinatorEvent T)) (acknowledged : Bool) :
    ReportedLast (events ++ [.commandFinish acknowledged]) :=
  ⟨events, acknowledged, [], rfl, nofun⟩

variable [DecidableEq T]

/-! ### Steps -/

/-- An entry point that returns the pending command gives its thread the pump to fire. -/
theorem pumpDue_mutate_of_send {s : Coordinator T} {w : Worker T} {op : KernelOp}
    (hsend : sendCommand s.kernel op = (kernelStep s.kernel op).pendingCommand)
    (hpending : (kernelStep s.kernel op).pendingCommand ≠ none) : (s.mutate w op).PumpDue := by
  refine Or.inr ⟨w, ?_⟩
  obtain ⟨c, hc⟩ := Option.ne_none_iff_exists'.mp hpending
  rw [mutate]
  dsimp only
  rw [Function.update_self, hsend, hc, dispatch]
  exact List.mem_append_right _ (List.mem_singleton.mpr rfl)

/-- A thread without anything to do has no pump to fire, so nothing due is lost when it
enters. -/
theorem PumpDue.mutate {s : Coordinator T} (h : s.PumpDue) {w : Worker T} (op : KernelOp)
    (hfree : s.todo w = []) : (s.mutate w op).PumpDue := by
  refine h.imp_right ?_
  rintro ⟨w', hmem⟩
  have hne : w' ≠ w := by
    rintro rfl
    rw [hfree] at hmem
    cases hmem
  have hother : (s.mutate w op).todo w' = s.todo w' := Function.update_of_ne hne _ _
  exact ⟨w', hother.symm ▸ hmem⟩

/-- Firing schedules the command work; every other action leaves what is due. -/
theorem PumpDue.perform {s : Coordinator T} (h : s.PumpDue) (hpublisher : s.publisher = installed)
    {w : Worker T} {action : Action} {rest : List Action} (htodo : s.todo w = action :: rest) :
    (s.perform w rest action).PumpDue := by
  by_cases hfire : action = .firePump
  · subst hfire
    left
    show (s.commandWork || s.publisher.pump.isSome) = true
    rw [hpublisher]
    exact Bool.or_true _
  · have hwork : s.commandWork = true → (s.perform w rest action).commandWork = true := by
      intro hwork
      cases action with
      | firePump => exact absurd rfl hfire
      | _ => exact hwork
    refine h.imp hwork ?_
    rintro ⟨w', hmem⟩
    refine ⟨w', ?_⟩
    by_cases hw : w' = w
    · subst hw
      rw [htodo] at hmem
      have hrest : .firePump ∈ rest := (List.mem_cons.mp hmem).resolve_left (Ne.symm hfire)
      cases action <;> simp [Coordinator.perform, hrest]
    · have hother : (s.perform w rest action).todo w' = s.todo w' := by
        cases action <;> exact Function.update_of_ne hw _ _
      rw [hother]
      exact hmem

/-- Sensor readings change nothing that is pending. -/
theorem pendingCommand_environmental (r : Reconciler) (obs : S21EnvironmentalObservation) :
    (kernelStep r (.applyEnvironmentalObservation obs)).pendingCommand = r.pendingCommand := rfl

/-- Neither does the loss of the link. -/
theorem pendingCommand_linkDown (r : Reconciler) :
    (kernelStep r .notifyLinkDown).pendingCommand = r.pendingCommand := rfl

/-- An operation that neither fires the pump nor changes what is pending. -/
theorem NotForgotten.mutate {events : List (CoordinatorEvent T)} {s : Coordinator T}
    (h : NotForgotten events s) (op : KernelOp) (hfree : s.QueueFree)
    (hpending : (kernelStep s.kernel op).pendingCommand = s.kernel.pendingCommand)
    {e : CoordinatorEvent T} (he : ¬ e.TakesIn) :
    NotForgotten (events ++ [e]) (s.mutate .s21WorkQueue op) := by
  intro hsome
  have hbefore : s.kernel.pendingCommand ≠ none := hpending ▸ hsome
  rcases h hbefore with hdue | hsending | hlast
  · exact Or.inl (hdue.mutate op hfree.1)
  · exact absurd hfree.2 hsending
  · exact Or.inr (Or.inr (hlast.concat he))

omit [DecidableEq T] in
/-- A step that leaves the kernel and the pump alone. -/
theorem NotForgotten.frame {events : List (CoordinatorEvent T)} {s s' : Coordinator T}
    (h : NotForgotten events s) (hkernel : s'.kernel = s.kernel) (hsending : s'.sending = s.sending)
    (hdue : s.PumpDue → s'.PumpDue) {e : CoordinatorEvent T} (he : ¬ e.TakesIn) :
    NotForgotten (events ++ [e]) s' := by
  intro hsome
  rw [hkernel] at hsome
  rw [hsending]
  exact (h hsome).imp hdue (Or.imp_right fun hlast => hlast.concat he)

theorem notForgotten_step {events : List (CoordinatorEvent T)} {s s' : Coordinator T}
    {e : CoordinatorEvent T} (horderly : s.Orderly) (h : NotForgotten events s)
    (hstep : s.step e = some s') : NotForgotten (events ++ [e]) s' := by
  cases steps_of_step hstep with
  | intent now i hfree => exact fun hsome => Or.inl (pumpDue_mutate_of_send rfl hsome)
  | operational now obs hfree => exact fun hsome => Or.inl (pumpDue_mutate_of_send rfl hsome)
  | environmental obs hfree =>
      exact h.mutate (.applyEnvironmentalObservation obs) hfree
        (pendingCommand_environmental _ obs) id
  | linkDown hfree => exact h.mutate .notifyLinkDown hfree (pendingCommand_linkDown _) id
  | commandStart hfree hwork => exact fun hsome => Or.inr (Or.inl hsome)
  | commandFinish acknowledged hsending =>
      exact fun _ => Or.inr (Or.inr (reportedLast_finish events acknowledged))
  | @proceed w action rest htodo =>
      have hkernel : (s.perform w rest action).kernel = s.kernel := by
        cases action <;> rfl
      have hsending : (s.perform w rest action).sending = s.sending := by
        cases action <;> rfl
      exact h.frame hkernel hsending (fun hdue => hdue.perform horderly.publisher htodo) id
  | drain hposted hfree => exact h.frame rfl rfl id id
  | skip hdraining hsentinel => exact h.frame rfl rfl id id
  | report hdraining haddress => exact h.frame rfl rfl id id
  | lookUp hmarked => exact h.frame rfl rfl id id

/-! ### Runs -/

theorem notForgotten_run {config : ReconcilerConfig} {d : LogicalACStateDefaults}
    {events : List (CoordinatorEvent T)} {s : Coordinator T}
    (hrun : Lib.runGuarded step (start config d) events = some s) :
    s.Orderly ∧ NotForgotten events s := by
  induction events using List.reverseRecOn generalizing s with
  | nil =>
      obtain rfl : start config d = s := by simpa using hrun
      refine ⟨orderly_start config d, fun hsome => absurd ?_ hsome⟩
      exact Reconciler.pendingCommand_eq_none_iff.mpr (Or.inl (by
        simp [start, Reconciler.anyDirty, Reconciler.new, LogicalACState.new, TwinField.dirty]))
  | append_singleton events e ih =>
      obtain ⟨t, hbefore, hlast⟩ := Lib.runGuarded_append_eq_some.mp hrun
      obtain ⟨u, hstep, hnil⟩ := Lib.runGuarded_cons_eq_some.mp hlast
      obtain rfl : u = s := Option.some.inj hnil
      obtain ⟨horderly, hforgotten⟩ := ih hbefore
      exact ⟨orderly_step horderly hstep, notForgotten_step horderly hforgotten hstep⟩

/-- **No forgotten command.** Take any run from boot, with any number of controller threads
and any interleaving. If a command is pending at its end, the pump is scheduled, about to be
fired or sending, or the last send has been reported and neither an intent nor an operational
observation has been taken since. -/
theorem pump_not_forgotten {config : ReconcilerConfig} {d : LogicalACStateDefaults}
    {events : List (CoordinatorEvent T)} {s : Coordinator T}
    (hrun : Lib.runGuarded step (start config d) events = some s)
    (hpending : s.kernel.pendingCommand ≠ none) :
    s.PumpDue ∨ s.sending ≠ none ∨ ReportedLast events :=
  (notForgotten_run hrun).2 hpending

/-- Switch the unit on and see the write through to the pump. -/
def switchOn : List (CoordinatorEvent Unit) :=
  [.intent () 1 (.setOnOff true), .proceed (.controller ()), .proceed (.controller ()),
    .proceed (.controller ()), .proceed (.controller ()), .proceed (.controller ()), .commandStart]

/-- After a failed send the command is still pending, and the pump waits for the next
observation. -/
theorem pump_not_forgotten_of_failure :
    ∃ s, Lib.runGuarded step (start {} {}) (switchOn ++ [.commandFinish false]) = some s ∧
      s.kernel.pendingCommand ≠ none ∧
      (s.PumpDue ∨ s.sending ≠ none ∨ ReportedLast (switchOn ++ [.commandFinish false])) := by
  obtain ⟨s, hrun, hpending⟩ :
      ∃ s, Lib.runGuarded step (start {} {}) (switchOn ++ [.commandFinish false]) = some s ∧
        s.kernel.pendingCommand ≠ none := ⟨_, rfl, nofun⟩
  exact ⟨s, hrun, hpending, pump_not_forgotten hrun hpending⟩

/-! ### Transmissions -/

/-- A command follows itself only after a failure. -/
def Differ (x y : S21OperationCommand × Bool) : Prop := x.2 = true → x.1 ≠ y.1

/-- Neighbouring transmissions differ, the last successful one is remembered, and the command
being sent is another. -/
structure SentApart (s : Coordinator T) : Prop where
  chain : s.transmissions.IsChain Differ
  remembered : ∀ c, s.transmissions.getLast? = some (c, true) →
    s.kernel.lastSentCommand = some c
  sending : ∀ c x, s.sending = some c → s.transmissions.getLast? = some x → Differ x (c, true)

theorem SentApart.mutate {s : Coordinator T} (h : s.SentApart) (w : Worker T) (op : KernelOp)
    (hsame : (kernelStep s.kernel op).lastSentCommand = s.kernel.lastSentCommand) :
    (s.mutate w op).SentApart :=
  ⟨h.chain, fun c hc => hsame.trans (h.remembered c hc), h.sending⟩

theorem sentApart_step {s s' : Coordinator T} {e : CoordinatorEvent T} (h : s.SentApart)
    (hstep : s.step e = some s') : s'.SentApart := by
  cases steps_of_step hstep with
  | intent now i hfree => exact h.mutate _ _ rfl
  | operational now obs hfree => exact h.mutate _ _ rfl
  | environmental obs hfree => exact h.mutate _ _ rfl
  | linkDown hfree => exact h.mutate _ _ rfl
  | commandStart hfree hwork =>
      refine ⟨h.chain, h.remembered, fun c x hsending hlast hok heq => ?_⟩
      -- what is pending is not what is remembered
      obtain ⟨-, -, hnew⟩ := Reconciler.pendingCommand_eq_some_iff.mp hsending
      obtain ⟨c', ok⟩ := x
      obtain rfl : ok = true := hok
      obtain rfl : c' = c := heq
      exact hnew (h.remembered c' hlast)
  | @commandFinish c acknowledged hsending =>
      refine ⟨?_, fun c' hc' => ?_, fun c' x hc' => nomatch hc'⟩
      · refine List.isChain_append.mpr ⟨h.chain, List.isChain_singleton _, fun x hx y hy => ?_⟩
        obtain rfl : (c, acknowledged) = y := by simpa using hy
        exact h.sending c x hsending hx
      · rw [List.getLast?_append_cons, List.getLast?_singleton, Option.some.injEq] at hc'
        obtain ⟨rfl, rfl⟩ := Prod.mk.inj hc'
        rfl
  | @proceed w action rest htodo =>
      cases action <;> exact ⟨h.chain, h.remembered, h.sending⟩
  | drain hposted hfree => exact ⟨h.chain, h.remembered, h.sending⟩
  | skip hdraining hsentinel => exact ⟨h.chain, h.remembered, h.sending⟩
  | report hdraining haddress => exact ⟨h.chain, h.remembered, h.sending⟩
  | lookUp hmarked => exact ⟨h.chain, h.remembered, h.sending⟩

/-- **No command twice running.** In every run, with intents and observations at any moment,
two neighbouring transmissions carry different commands, unless the first of them failed. -/
theorem transmissions_differ {config : ReconcilerConfig} {d : LogicalACStateDefaults}
    {events : List (CoordinatorEvent T)} {s : Coordinator T}
    (hrun : Lib.runGuarded step (start config d) events = some s) :
    s.transmissions.IsChain Differ := by
  have hstart : (start config d : Coordinator T).SentApart :=
    ⟨List.isChain_nil, nofun, nofun⟩
  exact (Lib.runGuarded_of_step (fun _ _ _ h hstep => sentApart_step h hstep) hstart hrun).chain

/-- On and off again, with the first write not yet confirmed. -/
theorem transmissions_differ_of_two :
    ∃ s, Lib.runGuarded step (start {} {}) (switchOn ++
        [.commandFinish true, .intent () 2 (.setOnOff false), .proceed (.controller ()),
         .commandStart, .commandFinish true]) = some s ∧
      s.transmissions.length = 2 ∧ s.transmissions.IsChain Differ := by
  obtain ⟨s, hrun, htwo⟩ :
      ∃ s, Lib.runGuarded step (start {} {}) (switchOn ++
        [.commandFinish true, .intent () 2 (.setOnOff false), .proceed (.controller ()),
         .commandStart, .commandFinish true]) = some s ∧ s.transmissions.length = 2 :=
    ⟨_, rfl, rfl⟩
  exact ⟨s, hrun, htwo, transmissions_differ hrun⟩

end Coordinator

end DaikinBridge.Bridge
