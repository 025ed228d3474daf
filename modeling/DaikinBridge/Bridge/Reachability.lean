import DaikinBridge.Bridge.AirConditionerManager
import DaikinBridge.Sync.Reports
import DaikinBridge.Sync.Wishes

/-!
# DaikinBridge.Bridge.Reachability

The reachability supervisor.

Two parties keep it. `PollOperationalPhase` counts consecutive failures of `getOperation` and
reports the link down from the third on; the kernel holds the flag, which a successful
operational observation sets. `Supervised` ties the counter and the flag to the outcomes of
the polls so far. Everything else that reaches either party leaves both alone, so the outcomes
alone decide (`readReachable_iff`).
-/

namespace DaikinBridge.Bridge

open S21 Sync

/-- `BridgeKernel::readReachable`. -/
def readReachable (r : Reconciler) : Bool := r.state.reachable.observed

/-! ### What the kernel's operations do to the flag -/

section Kernel

variable (r : Reconciler) (now : Int)

theorem readReachable_applyIntent (i : WriteIntent) :
    readReachable (r.applyIntent now i).1 = readReachable r := by
  show (r.apply now i).state.reachable.observed = _
  rw [Reconciler.state_apply]
  rfl

theorem readReachable_applyIntentBundle (is : List WriteIntent) :
    readReachable (r.applyIntentBundle now is).1 = readReachable r := by
  refine Reconciler.applyBundle_keeps (P := fun r' => readReachable r' = readReachable r) r now
    ?_ ?_ rfl is
  · intro r' i h
    exact (readReachable_applyIntent r' now i).trans h
  · intro r' heat cool h
    rw [← h]
    unfold Reconciler.collapseAutoBand
    dsimp only
    split
    · rfl
    · rfl

theorem readReachable_applyOperationalObservation (obs : S21OperationalObservation) :
    readReachable (r.applyOperationalObservation now obs).1 = true := rfl

theorem readReachable_onCommandSent (cmd : S21OperationCommand) :
    readReachable (r.onCommandSent cmd) = readReachable r :=
  congrArg SensorField.observed (Reconciler.sent_reachable r cmd)

/-- Intents that arrive while a command is being sent. -/
theorem readReachable_meanwhile (writes : List (Int × WriteIntent)) :
    readReachable (writes.foldl (fun r write => (r.applyIntent write.1 write.2).1) r) =
      readReachable r := by
  induction writes generalizing r with
  | nil => rfl
  | cons write rest ih =>
      exact (ih _).trans (readReachable_applyIntent r write.1 write.2)

end Kernel

/-! ### The polls of a run -/

/-- What happens to the manager and its kernel. The two phases of a poll are events of their
own, since intents may arrive between them. -/
inductive LinkEvent
  | initRetry (x : Exchange)
  | environmentalPhase (p : PollExchange)
  | operationalPhase (p : PollExchange)
  | command (x : Exchange) (meanwhile : List (Int × WriteIntent))
  | intent (now : Int) (i : WriteIntent)
  | intentBundle (now : Int) (is : List WriteIntent)
  | environmental (obs : S21EnvironmentalObservation)
  | commandSent (cmd : S21OperationCommand)
  | commandFailed

namespace AirConditionerManager

/-- One event. -/
def handle (a : AirConditionerManager) : LinkEvent → AirConditionerManager
  | .initRetry x => { a with s21Manager := (a.s21Manager.init x).1 }
  | .environmentalPhase p => (a.pollEnvironmentalPhase p).after
  | .operationalPhase p => (a.pollOperationalPhase p).after
  | .command x meanwhile => a.commandWork x meanwhile
  | .intent now i => { a with kernel := (a.kernel.applyIntent now i).1 }
  | .intentBundle now is => { a with kernel := (a.kernel.applyIntentBundle now is).1 }
  | .environmental obs => { a with kernel := (a.kernel.applyEnvironmentalObservation obs).1 }
  | .commandSent cmd => { a with kernel := a.kernel.onCommandSent cmd }
  | .commandFailed => { a with kernel := a.kernel.onCommandFailed }

/-- A poll of the work queue is its two phases. -/
theorem work_poll (a : AirConditionerManager) (p : PollExchange) :
    a.work (.poll p) = Lib.run handle a [.environmentalPhase p, .operationalPhase p] := rfl

/-- Did `getOperation` succeed, where the event is an operational poll? -/
def outcome (a : AirConditionerManager) : LinkEvent → Option Bool
  | .operationalPhase p => some (a.s21Manager.getOperation p.operation).result.isOk
  | _ => none

/-- The outcomes of the operational polls of a run, in order. -/
def outcomes : AirConditionerManager → List LinkEvent → List Bool
  | _, [] => []
  | a, event :: rest => (a.outcome event).toList ++ outcomes (a.handle event) rest

end AirConditionerManager

/-- The failures since the last success. -/
def failuresSince (outcomes : List Bool) : Nat := (outcomes.reverse.takeWhile (!·)).length

@[simp] theorem failuresSince_success (outcomes : List Bool) :
    failuresSince (outcomes ++ [true]) = 0 := by
  simp [failuresSince]

@[simp] theorem failuresSince_failure (outcomes : List Bool) :
    failuresSince (outcomes ++ [false]) = failuresSince outcomes + 1 := by
  simp [failuresSince]

namespace AirConditionerManager

/-- Counter and flag follow the outcomes so far. -/
structure Supervised (a : AirConditionerManager) (outcomes : List Bool) : Prop where
  counted : a.consecutivePollFailures = failuresSince outcomes
  flagged : readReachable a.kernel = true ↔
    true ∈ outcomes ∧ failuresSince outcomes < kReachableFailureThreshold

section Supervised

variable {a b : AirConditionerManager} {before : List Bool}

/-- What touches neither the counter nor the flag keeps them as they should be. -/
theorem Supervised.untouched (h : Supervised a before)
    (hcounter : b.consecutivePollFailures = a.consecutivePollFailures)
    (hflag : readReachable b.kernel = readReachable a.kernel) : Supervised b (before ++ []) := by
  rw [List.append_nil]
  refine ⟨hcounter.trans h.counted, ?_⟩
  rw [hflag]
  exact h.flagged

/-- **One poll.** -/
theorem Supervised.operationalPhase (h : Supervised a before) (p : PollExchange) :
    Supervised (a.pollOperationalPhase p).after
      (before ++ [(a.s21Manager.getOperation p.operation).result.isOk]) := by
  unfold pollOperationalPhase
  dsimp only
  cases (a.s21Manager.getOperation p.operation).result with
  | ok op =>
      refine ⟨(failuresSince_success before).symm, iff_of_true ?_ ⟨?_, ?_⟩⟩
      · exact readReachable_applyOperationalObservation _ _ _
      · exact List.mem_append_right _ (List.mem_singleton.mpr rfl)
      · rw [show Except.isOk (Except.ok op : Except String GetOperationResult) = true from rfl,
          failuresSince_success]
        decide
  | error e =>
      -- the link is reported down again at every failure from the third on
      have hcount : a.consecutivePollFailures + 1 = failuresSince (before ++ [false]) := by
        rw [failuresSince_failure, h.counted]
      refine ⟨hcount, ?_⟩
      show readReachable (if a.consecutivePollFailures + 1 ≥ kReachableFailureThreshold then
        a.kernel.notifyLinkDown else a.kernel) = true ↔
          true ∈ before ++ [false] ∧ failuresSince (before ++ [false]) < kReachableFailureThreshold
      have hmem : true ∈ before ++ [false] ↔ true ∈ before := by simp
      rw [hmem, ← hcount]
      split
      · exact iff_of_false Bool.false_ne_true (by omega)
      · -- the flag is as it was, and two failures do not bring it down
        rw [h.flagged, ← h.counted]
        constructor
        · rintro ⟨hsuccess, -⟩
          exact ⟨hsuccess, by omega⟩
        · rintro ⟨hsuccess, hfew⟩
          exact ⟨hsuccess, by omega⟩

theorem environmentalPhase_untouched (p : PollExchange) :
    (a.pollEnvironmentalPhase p).after.consecutivePollFailures = a.consecutivePollFailures ∧
      readReachable (a.pollEnvironmentalPhase p).after.kernel = readReachable a.kernel := by
  unfold pollEnvironmentalPhase
  split
  · refine ⟨rfl, ?_⟩
    dsimp only
    split
    · rfl
    · rfl
  · exact ⟨rfl, rfl⟩

theorem commandWork_untouched (x : Exchange) (meanwhile : List (Int × WriteIntent)) :
    (a.commandWork x meanwhile).consecutivePollFailures = a.consecutivePollFailures ∧
      readReachable (a.commandWork x meanwhile).kernel = readReachable a.kernel := by
  unfold commandWork
  split
  · exact ⟨rfl, rfl⟩
  · refine ⟨rfl, ?_⟩
    dsimp only
    split
    · exact (readReachable_onCommandSent _ _).trans (readReachable_meanwhile _ _)
    · exact readReachable_meanwhile _ _

/-- **One event.** -/
theorem Supervised.handle (h : Supervised a before) (event : LinkEvent) :
    Supervised (a.handle event) (before ++ (a.outcome event).toList) := by
  cases event with
  | initRetry x => exact h.untouched rfl rfl
  | environmentalPhase p =>
      obtain ⟨hcounter, hflag⟩ := environmentalPhase_untouched (a := a) p
      exact h.untouched hcounter hflag
  | operationalPhase p => exact h.operationalPhase p
  | command x meanwhile =>
      obtain ⟨hcounter, hflag⟩ := commandWork_untouched (a := a) x meanwhile
      exact h.untouched hcounter hflag
  | intent now i => exact h.untouched rfl (readReachable_applyIntent _ now i)
  | intentBundle now is => exact h.untouched rfl (readReachable_applyIntentBundle _ now is)
  | environmental obs => exact h.untouched rfl rfl
  | commandSent cmd => exact h.untouched rfl (readReachable_onCommandSent _ cmd)
  | commandFailed => exact h.untouched rfl rfl

/-- **Every run.** -/
theorem Supervised.run (h : Supervised a before) (events : List LinkEvent) :
    Supervised (Lib.run AirConditionerManager.handle a events) (before ++ a.outcomes events) := by
  induction events generalizing a before with
  | nil =>
      rw [outcomes, List.append_nil]
      exact h
  | cons event rest ih =>
      rw [Lib.run_cons, outcomes, ← List.append_assoc]
      exact ih (h.handle event)

end Supervised

/-- **The reachability supervisor.** After any sequence of events from boot, the device reads
as reachable if and only if some operational poll has succeeded and fewer than three have
failed since the last that did. -/
theorem readReachable_iff (maxAge : Int) (config : ReconcilerConfig) (events : List LinkEvent) :
    readReachable (Lib.run handle (bootedWith maxAge config) events).kernel = true ↔
      true ∈ (bootedWith maxAge config).outcomes events ∧
        failuresSince ((bootedWith maxAge config).outcomes events) <
          kReachableFailureThreshold := by
  have hboot : Supervised (bootedWith maxAge config) [] := by
    refine ⟨rfl, iff_of_false Bool.false_ne_true ?_⟩
    simp
  have hend := hboot.run events
  rw [List.nil_append] at hend
  exact hend.flagged

/-- A poll of a unit that does not answer F1. -/
def silentPoll (now : Int) : PollExchange :=
  { coolingPoll now with
    operation := { Exchange.answering now .high with operation := .error "timeout" } }

/-- A success, and two failures after it. -/
def failedTwice : List LinkEvent :=
  [.initRetry (.answering 0 .high), .operationalPhase (coolingPoll 1000),
    .operationalPhase (silentPoll 20000), .operationalPhase (silentPoll 40000)]

/-- Two failures in a row are tolerated, the third is not. -/
theorem third_failure_unreachable :
    readReachable (Lib.run handle (bootedWith 10000 {}) failedTwice).kernel = true ∧
      ¬ readReachable (Lib.run handle (bootedWith 10000 {})
        (failedTwice ++ [.operationalPhase (silentPoll 60000)])).kernel = true := by
  rw [readReachable_iff, readReachable_iff]
  decide +kernel

end AirConditionerManager

end DaikinBridge.Bridge
