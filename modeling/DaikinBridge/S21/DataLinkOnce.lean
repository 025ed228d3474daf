import DaikinBridge.S21.DataLinkUart

/-!
# DaikinBridge.S21.DataLinkOnce

The data link serves its operations one at a time, each exactly once.

`Matches` relates a state of the link to a phase of the request lifecycle
(`Lib.Lifecycle`), and says all the variables have to do with each other: which
interrupt states go with an operation under way, when the queue holds its result, and
when the completion is pending. Every entry point, and every event of an interrupt
separately, keeps the relation; so the log of a run, under any interleaving and any
stale events, is the log of a well-behaved server.
-/

namespace DaikinBridge.S21.S21DataLinkUart

open Lib (Lifecycle Phase)

/-! ### The invariant -/

/-- The operation slot is taken by the last accepted operation, whose callback is in
place. -/
def HoldsSlot (s : S21DataLinkUart) : Prop :=
  (s.opType = .send ∧ s.sendCb = some s.accepted) ∨
    (s.opType = .transact ∧ s.transactCb = some s.accepted)

/-- The queue holds the result of the last accepted operation. -/
def HoldsResult (s : S21DataLinkUart) : Prop := ∃ r, s.rxMsgq = some (s.accepted, r)

/-- What the variables look like in a phase. -/
def Matches (s : S21DataLinkUart) : Phase → Prop
  | .free => s.opType = .none ∧ s.isrState = .idle ∧ s.rxMsgq = none ∧ s.workPending = false
  | .running => s.HoldsSlot ∧ (s.isrState = .waitingRx ∨ s.isrState = .timedOut) ∧
      s.rxMsgq = none ∧ s.workPending = false
  | .posted => s.HoldsSlot ∧ s.isrState = .sendingAck ∧ s.HoldsResult ∧ s.workPending = false
  | .notified => s.HoldsSlot ∧ s.isrState = .idle ∧ s.HoldsResult ∧ s.workPending = true

/-- The log is that of a well-behaved server, and the variables match it. -/
def WellBehaved (s : S21DataLinkUart) : Prop :=
  ∃ p, Lifecycle s.log p s.accepted ∧ s.Matches p

theorem wellBehaved_init : WellBehaved init :=
  ⟨.free, .start, rfl, rfl, rfl, rfl⟩

variable {s : S21DataLinkUart}

theorem HoldsSlot.opType_ne (h : s.HoldsSlot) : s.opType ≠ .none := by
  rcases h with ⟨hop, -⟩ | ⟨hop, -⟩
  · rw [hop]; exact OpType.noConfusion
  · rw [hop]; exact OpType.noConfusion

/-- The slot is free exactly in the free phase. -/
theorem WellBehaved.free (h : s.WellBehaved) (hop : s.opType = .none) :
    Lifecycle s.log .free s.accepted ∧ s.Matches .free := by
  obtain ⟨p, hlife, hm⟩ := h
  cases p with
  | free => exact ⟨hlife, hm⟩
  | running => exact absurd hop hm.1.opType_ne
  | posted => exact absurd hop hm.1.opType_ne
  | notified => exact absurd hop hm.1.opType_ne

/-- A transaction waits for its response only in the running phase. -/
theorem WellBehaved.running (h : s.WellBehaved)
    (hisr : s.isrState = .waitingRx ∨ s.isrState = .timedOut) :
    Lifecycle s.log .running s.accepted ∧ s.Matches .running := by
  obtain ⟨p, hlife, hm⟩ := h
  cases p with
  | running => exact ⟨hlife, hm⟩
  | free => rcases hisr with h | h <;> rw [hm.2.1] at h <;> cases h
  | posted => rcases hisr with h | h <;> rw [hm.2.1] at h <;> cases h
  | notified => rcases hisr with h | h <;> rw [hm.2.1] at h <;> cases h

/-- An ACK is under way only in the posted phase. -/
theorem WellBehaved.posted (h : s.WellBehaved) (hisr : s.isrState = .sendingAck) :
    Lifecycle s.log .posted s.accepted ∧ s.Matches .posted := by
  obtain ⟨p, hlife, hm⟩ := h
  cases p with
  | posted => exact ⟨hlife, hm⟩
  | free => rw [hm.2.1] at hisr; cases hisr
  | running => rcases hm.2.1 with h | h <;> rw [h] at hisr <;> cases hisr
  | notified => rw [hm.2.1] at hisr; cases hisr

/-- Work is pending only in the notified phase. -/
theorem WellBehaved.notified (h : s.WellBehaved) (hwork : s.workPending = true) :
    Lifecycle s.log .notified s.accepted ∧ s.Matches .notified := by
  obtain ⟨p, hlife, hm⟩ := h
  cases p with
  | notified => exact ⟨hlife, hm⟩
  | free => rw [hm.2.2.2] at hwork; cases hwork
  | running => rw [hm.2.2.2] at hwork; cases hwork
  | posted => rw [hm.2.2.2] at hwork; cases hwork

/-! ### send and transact -/

/-- A rejected operation leaves everything but the log alone. -/
theorem wellBehaved_reject (h : s.WellBehaved) (reply : Reply) :
    WellBehaved { s with log := s.log ++ [.rejected reply] } := by
  obtain ⟨p, hlife, hm⟩ := h
  refine ⟨p, hlife.reject reply, ?_⟩
  cases p <;> exact hm

/-- A transaction started for the operation just accepted. -/
theorem wellBehaved_startTransaction (hlife : Lifecycle s.log .running s.accepted)
    (hslot : s.HoldsSlot) (hqueue : s.rxMsgq = none) (hwork : s.workPending = false)
    (encoded : Bytes) (matchEtx matchAck : Bool) :
    (s.startTransaction encoded matchEtx matchAck).WellBehaved := by
  refine ⟨.running, ?_, hslot, Or.inl rfl, rfl, hwork⟩
  have hclear := hlife.clear
  simp only [startTransaction, msgqPurge, configureMatch, hqueue, Option.isSome_none]
  exact hclear

theorem wellBehaved_send (h : s.WellBehaved) (payload : Bytes) : (s.send payload).WellBehaved := by
  unfold send
  by_cases hop : s.opType = .none
  · rw [if_neg (not_not.mpr hop)]
    obtain ⟨hlife, -, -, hqueue, hwork⟩ := h.free hop
    have hslot : HoldsSlot { s.accept .send with sendCb := some (s.accept .send).accepted } :=
      Or.inl ⟨rfl, rfl⟩
    exact wellBehaved_startTransaction hlife.accept hslot hqueue hwork _ _ _
  · rw [if_pos hop]
    exact wellBehaved_reject h _

theorem wellBehaved_transact (h : s.WellBehaved) (payload : Bytes) :
    (s.transact payload).WellBehaved := by
  unfold transact
  by_cases hop : s.opType = .none
  · rw [if_neg (not_not.mpr hop)]
    obtain ⟨hlife, -, -, hqueue, hwork⟩ := h.free hop
    have hslot : HoldsSlot { s.accept .transact with
        transactCb := some (s.accept .transact).accepted } := Or.inr ⟨rfl, rfl⟩
    exact wellBehaved_startTransaction hlife.accept hslot hqueue hwork _ _ _
  · rw [if_pos hop]
    exact wellBehaved_reject h _

/-! ### Interrupts -/

theorem wellBehaved_frameTimeout (h : s.WellBehaved) (irq : Interrupt) :
    (s.onFrameTimeout irq).WellBehaved := by
  unfold onFrameTimeout
  split
  · rename_i hcond
    obtain ⟨hlife, hslot, -, hqueue, hwork⟩ := h.running (Or.inl hcond.2)
    exact ⟨.running, hlife, hslot, Or.inr rfl, hqueue, hwork⟩
  · exact h

/-- A result queued in the running phase finds the queue empty. -/
theorem msgqPut_of_running (hm : s.Matches .running) (r : RxResult) :
    s.msgqPut r = { s with
      rxMsgq := some (s.accepted, r), log := s.log ++ [.posted s.accepted false] } := by
  unfold msgqPut
  rw [hm.2.2.1]

/-- Queueing the result and submitting the completion at once. -/
theorem wellBehaved_finish (h : s.WellBehaved)
    (hisr : s.isrState = .waitingRx ∨ s.isrState = .timedOut) (r : RxResult) :
    (s.finish r).WellBehaved := by
  obtain ⟨hlife, hm⟩ := h.running hisr
  simp only [finish, msgqPut_of_running hm r, workSubmit]
  exact ⟨.notified, hlife.post.notify, hm.1, rfl, ⟨r, rfl⟩, rfl⟩

theorem wellBehaved_endrx (h : s.WellBehaved) (irq : Interrupt) :
    (s.onEndrx irq).1.WellBehaved := by
  unfold onEndrx
  split
  · split
    · rename_i hisr
      exact wellBehaved_finish h (Or.inr hisr) _
    · rename_i hisr
      dsimp only
      split
      · -- the ACK path: put now, submit later
        obtain ⟨hlife, hm⟩ := h.running (Or.inl hisr)
        rw [msgqPut_of_running hm]
        exact ⟨.posted, hlife.post, hm.1, rfl, ⟨_, rfl⟩, hm.2.2.2⟩
      · exact wellBehaved_finish h (Or.inl hisr) _
    · exact h
    · exact h
  · exact h

theorem wellBehaved_error (h : s.WellBehaved) (irq : Interrupt) :
    (s.onError irq).WellBehaved := by
  unfold onError
  split
  · rename_i hcond
    exact wellBehaved_finish h (Or.inl hcond.2) _
  · exact h

theorem wellBehaved_endtx (h : s.WellBehaved) (irq : Interrupt) :
    (s.onEndtx irq).WellBehaved := by
  have hquiet : WellBehaved { s with endtxInterrupt := false } := by
    obtain ⟨p, hlife, hm⟩ := h
    refine ⟨p, hlife, ?_⟩
    cases p <;> exact hm
  unfold onEndtx
  split
  · dsimp only
    split
    · rename_i hisr
      obtain ⟨hlife, hslot, -, hresult, -⟩ := hquiet.posted hisr
      exact ⟨.notified, hlife.notify, hslot, rfl, hresult, rfl⟩
    · exact hquiet
  · exact h

/-- An interrupt with any events set. -/
theorem wellBehaved_isrHandler (h : s.WellBehaved) (irq : Interrupt) :
    (s.isrHandler irq).WellBehaved :=
  wellBehaved_endtx (wellBehaved_error (wellBehaved_endrx (wellBehaved_frameTimeout h irq) irq) _) _

/-! ### Completion -/

/-- The completion finds the result of its own operation and that operation's
callback. -/
theorem wellBehaved_completion (h : s.WellBehaved) (hwork : s.workPending = true) :
    WellBehaved { s with workPending := false }.completionWorkHandler := by
  obtain ⟨hlife, hslot, hisr, ⟨r, hqueue⟩, -⟩ := h.notified hwork
  unfold completionWorkHandler msgqGet
  simp only [hqueue, configureMatch]
  rcases hslot with ⟨hop, hcb⟩ | ⟨hop, hcb⟩
  · simp only [hop, hcb, callBack]
    exact ⟨.free, hlife.reply _, rfl, hisr, rfl, rfl⟩
  · simp only [hop, hcb, callBack]
    exact ⟨.free, hlife.reply _, rfl, hisr, rfl, rfl⟩

/-! ### Runs -/

theorem wellBehaved_step (s : S21DataLinkUart) (i : Input) (h : s.WellBehaved) :
    (s.step i).WellBehaved := by
  cases i with
  | send payload => exact wellBehaved_send h payload
  | transact payload => exact wellBehaved_transact h payload
  | interrupt irq => exact wellBehaved_isrHandler h irq
  | completion =>
      simp only [step]
      split
      · rename_i hwork
        exact wellBehaved_completion h hwork
      · exact h

/-- **Exactly once.** Whatever the order of operations, interrupts and completions, and
whatever events the interrupts find: every accepted operation has at most one put and
one submit, the put first and never into a full queue; the purge discards no result;
the completion finds a result and an operation; and every callback is called at most
once, by the completion of its own operation. -/
theorem operations_exactly_once (inputs : List Input) :
    Lib.ExactlyOnce (Lib.run step init inputs).log := by
  have hrun : Lib.Throughout step WellBehaved init inputs :=
    Lib.throughout_of_step wellBehaved_step wellBehaved_init
  obtain ⟨p, hlife, -⟩ := hrun.last
  exact hlife.exactlyOnce

/-- A transact whose response arrives together with a stale ENDTX: the result is put in
one interrupt and submitted in the next. -/
example : (Lib.run step init
    [.transact [0x46, 0x31],
     .interrupt ⟨false, true, false, true, false, false,
       [0x06, 0x02, 0x47, 0x31, 0x78, 0x03]⟩,
     .interrupt ⟨false, false, false, true, false, false, []⟩,
     .completion]).log =
    [.accepted 1, .cleared false, .posted 1 false, .notified 1,
     .replied 1 1 (.transact (.ok [0x47, 0x31]))] := by
  rfl

end DaikinBridge.S21.S21DataLinkUart
