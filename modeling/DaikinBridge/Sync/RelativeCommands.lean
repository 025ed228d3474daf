import DaikinBridge.Sync.CommandRouter
import DaikinBridge.Sync.Intents
import DaikinBridge.Lib.Midpoint

/-!
# DaikinBridge.Sync.RelativeCommands

Commands that are relative to what is shown: Toggle of the OnOff cluster, and
SetpointRaiseLower of the thermostat.

Their handlers read the projected value and write the new one in two separate steps, and the
command pump may report a send anywhere before, between and after them. Of a twin they meet no
more than a `Dial`: its desired and observed values and whether a value is in flight. A read
shows the observed value while one is, and a send puts one there.
`relative_commands_accumulate_iff` follows from the two lines of arithmetic of
`Dial.desired_change_change`, through `dial_toggle` and `dial_raiseLower`.

In Auto a raise of both edges is two edits of the centre. `band_translates_iff` says when they
add up to a translation of the band.
-/

namespace DaikinBridge.Sync

/-! ### Dials -/

/-- What a relative command meets of a twin. -/
structure Dial (T : Type) where
  desired : T
  observed : T
  flying : Bool

namespace Dial

variable {T : Type} (d : Dial T)

/-- The value shown. -/
def shown : T := if d.flying then d.observed else d.desired

/-- After a number of sends. -/
def sent (n : Nat) : Dial T := { d with flying := d.flying || n != 0 }

/-- Read, some sends, and write what is made of the value read. -/
def change (f : T → T) (n : Nat) : Dial T := { d.sent n with desired := f d.shown }

theorem sent_sent (m n : Nat) : (d.sent m).sent n = d.sent (m + n) := by
  cases m <;> cases n <;> simp [sent]

/-- Two changes in a row: the second one starts from the first unless something is in flight
when it reads, and from the observed value then. -/
theorem desired_change_change (f g : T → T) (n₁ n₂ n₃ : Nat) :
    (((d.change f n₁).sent n₂).change g n₃).desired =
      g (if d.flying || n₁ + n₂ != 0 then d.observed else f d.desired) := by
  obtain ⟨desired, observed, flying⟩ := d
  cases flying <;> cases n₁ <;> cases n₂ <;> simp [change, sent, shown]

end Dial

/-- A twin as a dial. -/
def TwinField.dial {T : Type} (t : TwinField T) : Dial T where
  desired := t.desired
  observed := t.observed
  flying := t.inFlight.isSome

theorem TwinField.dial_promote {T : Type} (t : TwinField T) :
    t.promoteDesiredToInFlight.dial = t.dial.sent 1 := by
  simp [dial, Dial.sent]

/-- The limits of the side that is active in a mode. -/
def SetpointLimits.window (limits : SetpointLimits) : OperationalMode → Int16 × Int16
  | .cool => (limits.minCool, limits.maxCool)
  | _ => (limits.minHeat, limits.maxHeat)

namespace Reconciler

/-! ### Sends between commands -/

/-- Commands reported sent, one after the other. -/
def sends (r : Reconciler) (cs : List S21OperationCommand) : Reconciler :=
  cs.foldl onCommandSent r

/-- Each command is the pending one when it is reported sent. -/
def PendingSends : Reconciler → List S21OperationCommand → Prop
  | _, [] => True
  | r, c :: cs => r.pendingCommand = some c ∧ PendingSends (r.onCommandSent c) cs

/-- The mode is settled on `m`, and the guard window is open. -/
structure SettledOn (m : OperationalMode) (now : Int) (r : Reconciler) : Prop where
  desired : r.state.mode.desired = m
  observed : r.state.mode.observed = m
  window : WindowOpen r now

section Sends

variable {r : Reconciler} {now : Int} {m : OperationalMode}

theorem WindowOpen.later {r' : Reconciler} {now' : Int} (h : WindowOpen r now)
    (hconfig : r'.config = r.config) (htimes : r'.lastDeviceObserved = r.lastDeviceObserved)
    (hnow : now ≤ now') : WindowOpen r' now' := by
  have hout : ∀ {reported}, r.OutOfWindow now reported → r'.OutOfWindow now' reported := by
    intro reported hout
    unfold OutOfWindow at hout ⊢
    rw [hconfig]
    omega
  constructor <;> rw [htimes]
  · exact hout h.onOff
  · exact hout h.mode
  · exact hout h.heatSetpoint
  · exact hout h.coolSetpoint
  · exact hout h.autoSetpoint
  · exact hout h.fan

theorem SettledOn.later {now' : Int} (h : SettledOn m now r) (hnow : now ≤ now') :
    SettledOn m now' r :=
  ⟨h.desired, h.observed, h.window.later rfl rfl hnow⟩

theorem SettledOn.sent (h : SettledOn m now r) (c : S21OperationCommand) :
    SettledOn m now (r.onCommandSent c) := by
  refine ⟨?_, ?_, h.window.later rfl rfl (Int.le_refl now)⟩
  · rw [sent_mode]
    exact h.desired
  · rw [sent_mode]
    exact h.observed

theorem SettledOn.sends (h : SettledOn m now r) (cs : List S21OperationCommand) :
    SettledOn m now (r.sends cs) := by
  induction cs generalizing r with
  | nil => exact h
  | cons c cs ih => exact ih (h.sent c)

theorem SettledOn.apply (h : SettledOn m now r) {i : WriteIntent}
    (hmode : (r.wish now r.state.wishes i).mode = r.state.wishes.mode) :
    SettledOn m now (r.apply now i) := by
  refine ⟨?_, ?_, h.window.later rfl rfl (Int.le_refl now)⟩
  · exact (congrArg Wishes.mode (wishes_apply r now i)).trans (hmode.trans h.desired)
  · exact (apply_deviceViews r now i).mode.1.trans h.observed

theorem dial_onOff_sends (r : Reconciler) (cs : List S21OperationCommand) :
    (r.sends cs).state.onOff.dial = r.state.onOff.dial.sent cs.length := by
  induction cs generalizing r with
  | nil => simp [Reconciler.sends, Dial.sent]
  | cons c cs ih =>
      refine (ih (r.onCommandSent c)).trans ?_
      rw [sent_onOff, TwinField.dial_promote, Dial.sent_sent, Nat.add_comm, List.length_cons]

/-- A send puts the setpoint of the mode in flight. -/
theorem dial_setpoint_sends (h : SettledOn m now r) (hm : m.bearsSetpoint = true)
    (cs : List S21OperationCommand) :
    ((r.sends cs).state.activeSetpoint m).dial =
      (r.state.activeSetpoint m).dial.sent cs.length := by
  induction cs generalizing r with
  | nil => simp [Reconciler.sends, Dial.sent]
  | cons c cs ih =>
      refine (ih (h.sent c)).trans ?_
      rw [sent_activeSetpoint r c hm, if_pos h.desired, TwinField.dial_promote, Dial.sent_sent,
        Nat.add_comm, List.length_cons]

end Sends

/-! ### Toggle -/

section Toggle

variable {r : Reconciler} {now : Int} {m : OperationalMode}

/-- `InvokeCommand` of Toggle: read, possibly some sends, and apply. -/
def toggleAround (r : Reconciler) (now : Int) (cs : List S21OperationCommand) : Reconciler :=
  ((r.sends cs).applyIntent now (.setOnOff (!Projector.projectedOnOff r.state))).1

/-- With no send in between, it is the handler's Toggle. -/
theorem invokeOnOff_toggle (r : Reconciler) (now : Int) :
    r.invokeOnOff now .toggle = some (r.toggleAround now [], .success) := rfl

/-- What an intent leaves of a twin, as a dial. -/
theorem dial_of_sameDevice {T : Type} {t t' : TwinField T} (h : t.SameDevice t') :
    t'.dial = { t.dial with desired := t'.desired } := by
  simp [TwinField.dial, h.1, h.2]

theorem dial_toggle (h : SettledOn m now r) (cs : List S21OperationCommand) :
    (r.toggleAround now cs).state.onOff.dial = r.state.onOff.dial.change not cs.length := by
  let shown := Projector.projectedOnOff r.state
  have hviews := apply_deviceViews (r.sends cs) now (.setOnOff (!shown))
  have hdesired : ((r.sends cs).apply now (.setOnOff (!shown))).state.wishes.onOff = !shown := by
    rw [wishes_apply]
    simp [wish, (h.sends cs).window.admitsOnOff]
  refine (dial_of_sameDevice hviews.onOff).trans ?_
  rw [dial_onOff_sends, show ((r.sends cs).apply now _).state.onOff.desired = _ from hdesired]
  rfl

theorem SettledOn.toggle (h : SettledOn m now r) (cs : List S21OperationCommand) :
    SettledOn m now (r.toggleAround now cs) := by
  show SettledOn m now ((r.sends cs).apply now (.setOnOff _))
  refine (h.sends cs).apply ?_
  simp only [wish]
  split <;> rfl

end Toggle

/-! ### Raising and lowering -/

section RaiseLower

variable {r : Reconciler} {now : Int} {m : OperationalMode}

/-- The setpoint shown for the side that is active in a mode. -/
def shownSetpoint (r : Reconciler) : OperationalMode → Int16
  | .cool => Projector.projectedOccupiedCoolingSetpoint r.config.projector r.state
  | _ => Projector.projectedOccupiedHeatingSetpoint r.config.projector r.state

/-- `HandleSetpointRaiseLower` for the side that is active in Cool or Heat: read, possibly
some sends, and apply. -/
def raiseLowerAround (r : Reconciler) (now : Int) (limits : SetpointLimits) (m : OperationalMode)
    (amount : Int8) (cs : List S21OperationCommand) : Reconciler :=
  match m with
  | .cool => (r.sends cs).raiseLowerCool now limits (r.shownSetpoint .cool) amount
  | _ => (r.sends cs).raiseLowerHeat now limits (r.shownSetpoint .heat) amount

/-- With no send in between, it is the handler's. -/
theorem handleSetpointRaiseLower_eq (r : Reconciler) (now : Int) (limits : SetpointLimits)
    (amount : Int8) :
    r.handleSetpointRaiseLower now limits .kCool amount =
        (r.raiseLowerAround now limits .cool amount [], .success) ∧
      r.handleSetpointRaiseLower now limits .kHeat amount =
        (r.raiseLowerAround now limits .heat amount [], .success) :=
  ⟨rfl, rfl⟩

/-- The side that is active shows its own twin. -/
theorem shownSetpoint_eq (h : SettledOn m now r) (hm : m = .cool ∨ m = .heat) :
    r.shownSetpoint m = (r.state.activeSetpoint m).dial.shown := by
  have hshown : projectedValue r.state.mode = m := by
    simp [projectedValue, h.desired, h.observed]
  rcases hm with rfl | rfl
  · simp only [shownSetpoint, Projector.projectedOccupiedCoolingSetpoint, hshown, reduceCtorEq,
      if_false]
    rfl
  · simp only [shownSetpoint, Projector.projectedOccupiedHeatingSetpoint, hshown, reduceCtorEq,
      if_false]
    rfl

/-- A setpoint write to the active side sets its twin, and leaves the mode. -/
theorem wish_active (h : SettledOn m now r) (hm : m = .cool ∨ m = .heat) (w : Wishes) (v : Int16) :
    let i := if m = .cool then WriteIntent.setOccupiedCoolingSetpoint v
      else .setOccupiedHeatingSetpoint v
    (r.wish now w i).mode = w.mode ∧ (r.wish now w i).activeSetpoint m = v := by
  rcases hm with rfl | rfl
  · simp [wish, h.observed, h.window.admitsCool, Wishes.activeSetpoint]
  · simp [wish, h.observed, h.window.admitsHeat, Wishes.activeSetpoint]

theorem raiseLowerAround_eq (hm : m = .cool ∨ m = .heat) (limits : SetpointLimits) (amount : Int8)
    (cs : List S21OperationCommand) :
    let v := applySetpointDelta (r.shownSetpoint m) amount (limits.window m).1 (limits.window m).2
    r.raiseLowerAround now limits m amount cs = (r.sends cs).apply now
      (if m = .cool then .setOccupiedCoolingSetpoint v else .setOccupiedHeatingSetpoint v) := by
  rcases hm with rfl | rfl <;> rfl

theorem dial_raiseLower (h : SettledOn m now r) (hm : m = .cool ∨ m = .heat)
    (limits : SetpointLimits) (amount : Int8) (cs : List S21OperationCommand) :
    ((r.raiseLowerAround now limits m amount cs).state.activeSetpoint m).dial =
      (r.state.activeSetpoint m).dial.change (fun current =>
        applySetpointDelta current amount (limits.window m).1 (limits.window m).2) cs.length := by
  have hbears : m.bearsSetpoint = true := by
    rcases hm with rfl | rfl <;> rfl
  let v := applySetpointDelta (r.shownSetpoint m) amount (limits.window m).1 (limits.window m).2
  let i : WriteIntent :=
    if m = .cool then .setOccupiedCoolingSetpoint v else .setOccupiedHeatingSetpoint v
  have hviews := apply_deviceViews (r.sends cs) now i
  have hdesired : (((r.sends cs).apply now i).state.activeSetpoint m).desired = v := by
    rw [← LogicalACState.wishes_activeSetpoint, wishes_apply]
    exact (wish_active (h.sends cs) hm _ v).2
  rw [raiseLowerAround_eq hm]
  refine (dial_of_sameDevice (hviews.activeSetpoint m)).trans ?_
  rw [dial_setpoint_sends h hbears, hdesired]
  simp only [v, shownSetpoint_eq h hm]
  rfl

theorem SettledOn.raiseLower (h : SettledOn m now r) (hm : m = .cool ∨ m = .heat)
    (limits : SetpointLimits) (amount : Int8) (cs : List S21OperationCommand) :
    SettledOn m now (r.raiseLowerAround now limits m amount cs) := by
  rw [raiseLowerAround_eq hm]
  exact (h.sends cs).apply (wish_active (h.sends cs) hm _ _).1

/-- The change from a setpoint stays within the limits of the active side. -/
def Unclamped (limits : SetpointLimits) (m : OperationalMode) (current : Int16) (amount : Int8) :
    Prop :=
  (limits.window m).1.toInt ≤ current.toInt + amount.toInt * 10 ∧
    current.toInt + amount.toInt * 10 ≤ (limits.window m).2.toInt

/-- Where it is not clamped, a delta is added exactly. -/
theorem toInt_delta_of_unclamped {current lo hi : Int16} {amount : Int8}
    (hlo : lo.toInt ≤ current.toInt + amount.toInt * 10)
    (hhi : current.toInt + amount.toInt * 10 ≤ hi.toInt) :
    (applySetpointDelta current amount lo hi).toInt = current.toInt + amount.toInt * 10 := by
  rw [toInt_applySetpointDelta]
  dsimp only
  rw [if_neg (by omega), if_neg (by omega)]

end RaiseLower

/-! ### Two commands in a row -/

section Accumulate

variable {r : Reconciler} {m : OperationalMode} {t₁ t₂ : Int}

/-- Nothing of the twin is in flight, and nothing is sent before the second command reads. -/
def ReadsDesired {T : Type} (t : TwinField T) (cs₁ cs₂ : List S21OperationCommand) : Prop :=
  t.inFlight = none ∧ cs₁ = [] ∧ cs₂ = []

theorem readsDesired_iff {T : Type} {t : TwinField T} {cs₁ cs₂ : List S21OperationCommand} :
    ReadsDesired t cs₁ cs₂ ↔ ¬ (t.dial.flying || cs₁.length + cs₂.length != 0) = true := by
  simp [ReadsDesired, TwinField.dial, Option.isSome_iff_ne_none]

/-- Two toggles, with sends anywhere in between. -/
def toggleTwice (r : Reconciler) (t₁ t₂ : Int) (cs₁ cs₂ cs₃ : List S21OperationCommand) :
    Reconciler :=
  ((r.toggleAround t₁ cs₁).sends cs₂).toggleAround t₂ cs₃

/-- Two raises of the active side, with sends anywhere in between. -/
def raiseTwice (r : Reconciler) (t₁ t₂ : Int) (limits : SetpointLimits) (m : OperationalMode)
    (a b : Int8) (cs₁ cs₂ cs₃ : List S21OperationCommand) : Reconciler :=
  ((r.raiseLowerAround t₁ limits m a cs₁).sends cs₂).raiseLowerAround t₂ limits m b cs₃

theorem toggleTwice_restores_iff (h : SettledOn m t₁ r) (ht : t₁ ≤ t₂)
    (cs₁ cs₂ cs₃ : List S21OperationCommand) :
    (r.toggleTwice t₁ t₂ cs₁ cs₂ cs₃).state.onOff.desired = r.state.onOff.desired ↔
      ReadsDesired r.state.onOff cs₁ cs₂ ∨ r.state.onOff.observed ≠ r.state.onOff.desired := by
  have hfinal : (r.toggleTwice t₁ t₂ cs₁ cs₂ cs₃).state.onOff.dial =
      ((r.state.onOff.dial.change not cs₁.length).sent cs₂.length).change not cs₃.length := by
    rw [toggleTwice, dial_toggle (((h.toggle cs₁).sends cs₂).later ht), dial_onOff_sends,
      dial_toggle h]
  have hdesired := congrArg Dial.desired hfinal
  rw [Dial.desired_change_change] at hdesired
  rw [show (r.toggleTwice t₁ t₂ cs₁ cs₂ cs₃).state.onOff.desired = _ from hdesired]
  by_cases hcalm : ReadsDesired r.state.onOff cs₁ cs₂
  · rw [if_neg (readsDesired_iff.mp hcalm)]
    exact iff_of_true (Bool.not_not _) (.inl hcalm)
  · rw [if_pos (not_not.mp (mt readsDesired_iff.mpr hcalm)), or_iff_right hcalm]
    show (!r.state.onOff.observed) = r.state.onOff.desired ↔ _
    cases r.state.onOff.observed <;> cases r.state.onOff.desired <;> simp

theorem raiseTwice_adds_iff (h : SettledOn m t₁ r) (hm : m = .cool ∨ m = .heat) (ht : t₁ ≤ t₂)
    (limits : SetpointLimits) (a b : Int8) (cs₁ cs₂ cs₃ : List S21OperationCommand)
    (hfirst : Unclamped limits m (r.shownSetpoint m) a)
    (hsecond : Unclamped limits m
      (((r.raiseLowerAround t₁ limits m a cs₁).sends cs₂).shownSetpoint m) b) :
    (((r.raiseTwice t₁ t₂ limits m a b cs₁ cs₂ cs₃).state.activeSetpoint m).desired.toInt =
        (r.state.activeSetpoint m).desired.toInt + (a.toInt + b.toInt) * 10) ↔
      ReadsDesired (r.state.activeSetpoint m) cs₁ cs₂ ∨
        (r.state.activeSetpoint m).observed.toInt =
          (r.state.activeSetpoint m).desired.toInt + a.toInt * 10 := by
  have hbears : m.bearsSetpoint = true := by
    rcases hm with rfl | rfl <;> rfl
  let r' := (r.raiseLowerAround t₁ limits m a cs₁).sends cs₂
  have hsettled : SettledOn m t₁ r' := (h.raiseLower hm limits a cs₁).sends cs₂
  let f := fun current => applySetpointDelta current a (limits.window m).1 (limits.window m).2
  -- what the second command reads
  have hmiddle : (r'.state.activeSetpoint m).dial =
      ((r.state.activeSetpoint m).dial.change f cs₁.length).sent cs₂.length := by
    rw [dial_setpoint_sends (h.raiseLower hm limits a cs₁) hbears, dial_raiseLower h hm]
  have hfinal : ((r.raiseTwice t₁ t₂ limits m a b cs₁ cs₂ cs₃).state.activeSetpoint m).desired =
      applySetpointDelta (r'.shownSetpoint m) b (limits.window m).1 (limits.window m).2 := by
    rw [shownSetpoint_eq hsettled hm]
    exact congrArg Dial.desired (dial_raiseLower (hsettled.later ht) hm limits b cs₃)
  have hread : r'.shownSetpoint m =
      if ((r.state.activeSetpoint m).dial.flying || cs₁.length + cs₂.length != 0) = true then
        (r.state.activeSetpoint m).observed
      else f (r.state.activeSetpoint m).desired := by
    have hid := Dial.desired_change_change (r.state.activeSetpoint m).dial f id cs₁.length
      cs₂.length 0
    rw [shownSetpoint_eq hsettled hm, hmiddle]
    exact hid
  rw [hfinal, toInt_delta_of_unclamped hsecond.1 hsecond.2, hread]
  by_cases hcalm : ReadsDesired (r.state.activeSetpoint m) cs₁ cs₂
  · rw [if_neg (readsDesired_iff.mp hcalm)]
    have hshown : r.shownSetpoint m = (r.state.activeSetpoint m).desired := by
      rw [shownSetpoint_eq h hm]
      simp [Dial.shown, TwinField.dial, hcalm.1]
    rw [hshown] at hfirst
    refine iff_of_true ?_ (.inl hcalm)
    rw [toInt_delta_of_unclamped hfirst.1 hfirst.2]
    omega
  · rw [if_pos (not_not.mp (mt readsDesired_iff.mpr hcalm)), or_iff_right hcalm]
    omega

end Accumulate

/-- **Relative commands.** With the mode settled on Cool or Heat, the guard window open and no
report in between, two toggles restore the desired power if and only if nothing of it is in
flight when the second one reads, or the power observed is the other one; and two unclamped
raises of the active side add up if and only if nothing of its setpoint is in flight when the
second one reads, or the setpoint observed is the one that the first one asked for. The
commands in `cs₁` and `cs₃` are reported sent between the read and the write of a handler, and
those in `cs₂` between the two. -/
theorem relative_commands_accumulate_iff (r : Reconciler) (m : OperationalMode)
    (hm : m = .cool ∨ m = .heat) (t₁ t₂ : Int) (ht : t₁ ≤ t₂) (h : SettledOn m t₁ r)
    (cs₁ cs₂ cs₃ : List S21OperationCommand) :
    ((r.toggleTwice t₁ t₂ cs₁ cs₂ cs₃).state.onOff.desired = r.state.onOff.desired ↔
      ReadsDesired r.state.onOff cs₁ cs₂ ∨ r.state.onOff.observed ≠ r.state.onOff.desired) ∧
    (∀ (limits : SetpointLimits) (a b : Int8), Unclamped limits m (r.shownSetpoint m) a →
      Unclamped limits m (((r.raiseLowerAround t₁ limits m a cs₁).sends cs₂).shownSetpoint m) b →
      ((((r.raiseTwice t₁ t₂ limits m a b cs₁ cs₂ cs₃).state.activeSetpoint m).desired.toInt =
          (r.state.activeSetpoint m).desired.toInt + (a.toInt + b.toInt) * 10) ↔
        ReadsDesired (r.state.activeSetpoint m) cs₁ cs₂ ∨
          (r.state.activeSetpoint m).observed.toInt =
            (r.state.activeSetpoint m).desired.toInt + a.toInt * 10)) := by
  refine ⟨toggleTwice_restores_iff h ht cs₁ cs₂ cs₃, ?_⟩
  intro limits a b hfirst hsecond
  exact raiseTwice_adds_iff h hm ht limits a b cs₁ cs₂ cs₃ hfirst hsecond

theorem settledOn_coolingPolled : SettledOn .cool 3000 coolingPolled :=
  ⟨by decide, by decide, windowOpen_coolingPolled⟩

/-- Two toggles with no send before the second one restore the power. -/
theorem toggles_restore :
    (coolingPolled.toggleTwice 3000 3100 [] [] []).state.onOff.desired =
      coolingPolled.state.onOff.desired :=
  (relative_commands_accumulate_iff coolingPolled .cool (.inl rfl) 3000 3100 (by decide)
    settledOn_coolingPolled [] [] []).1.mpr (.inl ⟨by decide, rfl, rfl⟩)

/-- With the first one sent before the second one reads, both turn the unit off. -/
theorem sent_toggle_repeated :
    ¬ ∀ (r : Reconciler) (m : OperationalMode) (t₁ t₂ : Int)
        (cs₁ cs₂ cs₃ : List S21OperationCommand), Reachable r → m = .cool ∨ m = .heat →
        SettledOn m t₁ r → t₁ ≤ t₂ → PendingSends r cs₁ →
        PendingSends (r.toggleAround t₁ cs₁) cs₂ →
        PendingSends ((r.toggleAround t₁ cs₁).sends cs₂) cs₃ →
        (r.toggleTwice t₁ t₂ cs₁ cs₂ cs₃).state.onOff.desired = r.state.onOff.desired := by
  intro hclaim
  have hrestored := hclaim coolingPolled .cool 3000 3100 [] [⟨false, .cool, 2400, .high⟩] []
    ⟨{}, {}, _, rfl⟩ (.inl rfl) settledOn_coolingPolled (by decide) trivial
    ⟨by decide +kernel, trivial⟩ trivial
  exact absurd hrestored (by decide +kernel)

/-! ### Raising both edges of the Auto band -/

section Band

variable {r : Reconciler} {now : Int}

/-- Auto is settled, and neither the mode nor the centre is in flight. -/
structure AutoBand (r : Reconciler) (now : Int) : Prop extends SettledOn .auto now r where
  modeLanded : r.state.mode.inFlight = none
  centreLanded : r.state.autoSetpoint.inFlight = none

/-- The desired centre of the Auto band. -/
def centre (r : Reconciler) : Int := r.state.autoSetpoint.desired.toInt

/-- Half the width of the Auto band. -/
def halfWidth (r : Reconciler) : Int := r.config.projector.autoBandHalfWidthCentiC.toInt

/-- The edges shown are those of the desired centre. -/
theorem AutoBand.edges (h : AutoBand r now) :
    Projector.projectedOccupiedHeatingSetpoint r.config.projector r.state =
        Int16.ofInt (r.centre - r.halfWidth) ∧
      Projector.projectedOccupiedCoolingSetpoint r.config.projector r.state =
        Int16.ofInt (r.centre + r.halfWidth) := by
  have hmode : projectedValue r.state.mode = .auto := by
    simp [projectedValue, h.modeLanded, h.desired]
  have hcentre : projectedValue r.state.autoSetpoint = r.state.autoSetpoint.desired := by
    simp [projectedValue, h.centreLanded]
  constructor
  · rw [Projector.projectedOccupiedHeatingSetpoint, if_pos hmode, hcentre]
    rfl
  · rw [Projector.projectedOccupiedCoolingSetpoint, if_pos hmode, hcentre]
    rfl

/-- A setpoint write moves the centre, and leaves Auto settled. -/
theorem AutoBand.apply (h : AutoBand r now) (i : WriteIntent) {centre : Int16}
    (hwish : r.wish now r.state.wishes i = { r.state.wishes with autoSetpoint := centre }) :
    AutoBand (r.apply now i) now ∧ (r.apply now i).state.autoSetpoint.desired = centre := by
  have hviews := apply_deviceViews r now i
  have hmode : (r.wish now r.state.wishes i).mode = r.state.wishes.mode := by
    rw [hwish]
  refine ⟨⟨h.toSettledOn.apply hmode, ?_, ?_⟩, ?_⟩
  · exact hviews.mode.2.trans h.modeLanded
  · exact hviews.autoSetpoint.2.trans h.centreLanded
  · exact congrArg Wishes.autoSetpoint ((wishes_apply r now i).trans hwish)

theorem AutoBand.heatWrite (h : AutoBand r now) (v : Int16) :
    AutoBand (r.apply now (.setOccupiedHeatingSetpoint v)) now ∧
      (r.apply now (.setOccupiedHeatingSetpoint v)).centre =
        ((Int16.ofInt (r.centre + r.halfWidth)).toInt + v.toInt).tdiv 2 := by
  have hwish : r.wish now r.state.wishes (.setOccupiedHeatingSetpoint v) =
      { r.state.wishes with
        autoSetpoint := r.centreForHeatEdge r.state.autoSetpoint.desired v } := by
    simp only [wish, h.observed]
    exact if_pos (h.window.admitsCentre _)
  obtain ⟨hband, hcentre⟩ := h.apply _ hwish
  refine ⟨hband, ?_⟩
  rw [centre, hcentre]
  exact Lib.toInt_midpoint (Lib.toInt_range _) (Lib.toInt_range v)

theorem AutoBand.coolWrite (h : AutoBand r now) (v : Int16) :
    AutoBand (r.apply now (.setOccupiedCoolingSetpoint v)) now ∧
      (r.apply now (.setOccupiedCoolingSetpoint v)).centre =
        (v.toInt + (Int16.ofInt (r.centre - r.halfWidth)).toInt).tdiv 2 := by
  have hwish : r.wish now r.state.wishes (.setOccupiedCoolingSetpoint v) =
      { r.state.wishes with
        autoSetpoint := r.centreForCoolEdge r.state.autoSetpoint.desired v } := by
    simp only [wish, h.observed]
    exact if_pos (h.window.admitsCentre _)
  obtain ⟨hband, hcentre⟩ := h.apply _ hwish
  refine ⟨hband, ?_⟩
  rw [centre, hcentre]
  exact Lib.toInt_midpoint (Lib.toInt_range v) (Lib.toInt_range _)

/-- The band around the centre, moved by an amount, lies within the limits. -/
structure EdgesInside (limits : SetpointLimits) (centre half amount : Int) : Prop where
  minHeat : limits.minHeat.toInt ≤ centre - half + amount
  maxHeat : centre - half + amount ≤ limits.maxHeat.toInt
  minCool : limits.minCool.toInt ≤ centre + half + amount
  maxCool : centre + half + amount ≤ limits.maxCool.toInt

/-- The centre moves by the amount, and the edges shown move with it. -/
structure BandTranslates (r r' : Reconciler) (amount : Int) : Prop where
  centre : r'.centre = r.centre + amount
  heatEdge : (Projector.projectedOccupiedHeatingSetpoint r'.config.projector r'.state).toInt =
    (Projector.projectedOccupiedHeatingSetpoint r.config.projector r.state).toInt + amount
  coolEdge : (Projector.projectedOccupiedCoolingSetpoint r'.config.projector r'.state).toInt =
    (Projector.projectedOccupiedCoolingSetpoint r.config.projector r.state).toInt + amount

/-- Both edges are 16-bit values. -/
def EdgesFit (centre half : Int) : Prop :=
  (-32768 ≤ centre - half ∧ centre - half ≤ 32767) ∧
    (-32768 ≤ centre + half ∧ centre + half ≤ 32767)

/-- The cool half of the command, which starts from the band already moved by half the amount,
overshoots to `target`. It is not clamped there, or only by as much as the truncation of
the new centre `centre` takes back. -/
def OvershootInside (limits : SetpointLimits) (target centre : Int) : Prop :=
  (limits.minCool.toInt ≤ target ∧ target ≤ limits.maxCool.toInt) ∨
    (target = limits.minCool.toInt - 1 ∧ 0 ≤ centre) ∨
    (target = limits.maxCool.toInt + 1 ∧ centre ≤ 0)

/-- Limits are 16-bit values. -/
theorem EdgesInside.fit {limits : SetpointLimits} {centre half amount : Int}
    (h : EdgesInside limits centre half amount) : EdgesFit (centre + amount) half := by
  obtain ⟨hminHeat, hmaxHeat, hminCool, hmaxCool⟩ := h
  have hminHeat' := Lib.toInt_range limits.minHeat
  have hmaxHeat' := Lib.toInt_range limits.maxHeat
  have hminCool' := Lib.toInt_range limits.minCool
  have hmaxCool' := Lib.toInt_range limits.maxCool
  exact ⟨by omega, by omega⟩

/-- A band halfway between two others fits if they do. -/
theorem EdgesFit.halfway {centre half amount : Int} (h : EdgesFit centre half)
    (h' : EdgesFit (centre + amount * 10) half) : EdgesFit (centre + amount * 5) half := by
  unfold EdgesFit at *
  omega

theorem EdgesFit.toInt {centre half : Int} (h : EdgesFit centre half) :
    (Int16.ofInt (centre - half)).toInt = centre - half ∧
      (Int16.ofInt (centre + half)).toInt = centre + half := by
  obtain ⟨⟨hlo, hlo'⟩, hhi, hhi'⟩ := h
  exact ⟨Int16.toInt_ofInt_of_le hlo (by omega), Int16.toInt_ofInt_of_le hhi (by omega)⟩

/-- The heat half moves the centre by half the amount. -/
theorem AutoBand.raiseHeat (h : AutoBand r now) {limits : SetpointLimits} {amount : Int8}
    (hinside : EdgesInside limits r.centre r.halfWidth (amount.toInt * 10))
    (hfit : EdgesFit r.centre r.halfWidth) :
    (r.raiseLowerHeat now limits
      (Projector.projectedOccupiedHeatingSetpoint r.config.projector r.state) amount).centre =
      r.centre + amount.toInt * 5 := by
  obtain ⟨hheat, hcool⟩ := hfit.toInt
  have htarget : (applySetpointDelta (Int16.ofInt (r.centre - r.halfWidth)) amount
      limits.minHeat limits.maxHeat).toInt = r.centre - r.halfWidth + amount.toInt * 10 := by
    rw [toInt_delta_of_unclamped, hheat]
    · rw [hheat]
      exact hinside.minHeat
    · rw [hheat]
      exact hinside.maxHeat
  rw [h.edges.1]
  refine (h.heatWrite _).2.trans ?_
  rw [hcool, htarget, Lib.tdiv_two_eq_iff]
  exact .inl (by omega)

/-- The cool half aims half the amount too far, and comes back by the midpoint. -/
theorem AutoBand.raiseCool {r₁ : Reconciler} (h : AutoBand r₁ now) {limits : SetpointLimits}
    {amount : Int8} {c : Int} (hcentre : r₁.centre = c + amount.toInt * 5)
    (hinside : EdgesInside limits c r₁.halfWidth (amount.toInt * 10))
    (hfit : EdgesFit c r₁.halfWidth) :
    (r₁.raiseLowerCool now limits
        (Projector.projectedOccupiedCoolingSetpoint r₁.config.projector r₁.state) amount).centre =
        c + amount.toInt * 10 ↔
      OvershootInside limits (c + r₁.halfWidth + amount.toInt * 15) (c + amount.toInt * 10) := by
  obtain ⟨hheat, hcool⟩ := (hfit.halfway hinside.fit).toInt
  obtain ⟨-, -, hminCool, hmaxCool⟩ := hinside
  rw [h.edges.2, show (r₁.raiseLowerCool now limits _ amount).centre = _ from (h.coolWrite _).2,
    Lib.tdiv_two_eq_iff, toInt_applySetpointDelta, hcentre, hheat, hcool]
  unfold Lib.Midway OvershootInside
  dsimp only
  split <;> split <;> omega

/-- **Raising both edges.** In a settled Auto mode with nothing in flight and the guard window
open, let the band translated by the amount lie within the limits. Then SetpointRaiseLower of
both sides translates the band if and only if its edges are 16-bit values and the cool half of
the command, which overshoots by half the amount, is not clamped. -/
theorem band_translates_iff (r : Reconciler) (now : Int) (h : AutoBand r now)
    (limits : SetpointLimits) (amount : Int8)
    (hinside : EdgesInside limits r.centre r.halfWidth (amount.toInt * 10)) :
    BandTranslates r (r.handleSetpointRaiseLower now limits .kBoth amount).1
        (amount.toInt * 10) ↔
      EdgesFit r.centre r.halfWidth ∧
        OvershootInside limits (r.centre + r.halfWidth + amount.toInt * 15)
          (r.centre + amount.toInt * 10) := by
  let r₁ := r.raiseLowerHeat now limits
    (Projector.projectedOccupiedHeatingSetpoint r.config.projector r.state) amount
  let r₂ := r₁.raiseLowerCool now limits
    (Projector.projectedOccupiedCoolingSetpoint r₁.config.projector r₁.state) amount
  have hband₁ : AutoBand r₁ now := (h.heatWrite _).1
  have hband₂ : AutoBand r₂ now := (hband₁.coolWrite _).1
  have hwidth : r₂.halfWidth = r.halfWidth := rfl
  obtain ⟨hheat, hcool⟩ := h.edges
  obtain ⟨hheat₂, hcool₂⟩ := hband₂.edges
  obtain ⟨hlow, hhigh⟩ := hinside.fit.toInt
  have hmoved : EdgesFit r.centre r.halfWidth → (r₂.centre = r.centre + amount.toInt * 10 ↔
      OvershootInside limits (r.centre + r.halfWidth + amount.toInt * 15)
        (r.centre + amount.toInt * 10)) := by
    intro hfit
    exact hband₁.raiseCool (h.raiseHeat hinside hfit) hinside hfit
  show BandTranslates r r₂ _ ↔ _
  constructor
  · rintro ⟨hcentre, hheatEdge, hcoolEdge⟩
    rw [hheat₂, hheat, hcentre, hwidth, hlow] at hheatEdge
    rw [hcool₂, hcool, hcentre, hwidth, hhigh] at hcoolEdge
    -- the edges are where the translated ones, less the amount, are
    have hfit : EdgesFit r.centre r.halfWidth := by
      have hrange := Lib.toInt_range (Int16.ofInt (r.centre - r.halfWidth))
      have hrange' := Lib.toInt_range (Int16.ofInt (r.centre + r.halfWidth))
      exact ⟨by omega, by omega⟩
    exact ⟨hfit, (hmoved hfit).mp hcentre⟩
  · rintro ⟨hfit, hovershoot⟩
    have hcentre := (hmoved hfit).mpr hovershoot
    obtain ⟨hlow', hhigh'⟩ := hfit.toInt
    refine ⟨hcentre, ?_, ?_⟩
    · rw [hheat₂, hheat, hcentre, hwidth, hlow, hlow']
      omega
    · rw [hcool₂, hcool, hcentre, hwidth, hhigh, hhigh']
      omega

theorem autoBand_boot : AutoBand boot 0 :=
  ⟨⟨rfl, rfl, windowOpen_boot 0⟩, rfl, rfl⟩

/-- From boot, both edges can be raised by 0.1 °C. -/
theorem boot_band_translates :
    BandTranslates boot (boot.handleSetpointRaiseLower 0 {} .kBoth 1).1 10 := by
  refine (band_translates_iff boot 0 autoBand_boot {} 1 ⟨?_, ?_, ?_, ?_⟩).mpr
    ⟨⟨?_, ?_⟩, .inl ?_⟩ <;> decide

/-- Raised by 8 °C, to edges of 29.5 °C and 30.5 °C, the centre moves by 6.75 °C. -/
theorem boot_band_falls_short :
    ¬ ∀ (r : Reconciler) (now : Int) (limits : SetpointLimits) (amount : Int8), AutoBand r now →
      EdgesInside limits r.centre r.halfWidth (amount.toInt * 10) →
      BandTranslates r (r.handleSetpointRaiseLower now limits .kBoth amount).1
        (amount.toInt * 10) := by
  intro hclaim
  have hinside : EdgesInside {} boot.centre boot.halfWidth ((80 : Int8).toInt * 10) := by
    refine ⟨?_, ?_, ?_, ?_⟩ <;> decide
  exact absurd (hclaim boot 0 {} 80 autoBand_boot hinside).centre (by decide +kernel)

end Band

end Reconciler

end DaikinBridge.Sync
