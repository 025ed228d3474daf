import DaikinBridge.S21.SyncAdapter

/-!
# DaikinBridge.S21.SyncCalls

What the mutex and the semaphore of the adapter are for.

At any moment at most one thread is past the lock; `Stage` says how far it is, and `InTurn`
what the adapter looks like then. Every step keeps `InTurn`, under any interleaving of
threads, interrupts and completions (`inTurn_step`). So the data link never turns an
operation away, and the calls return what they would have returned had a single thread made
them one after the other (`calls_serialized`); a call that is past the lock is signalled
exactly when its answer is there (`caller_in_turn`).
-/

namespace DaikinBridge.S21

/-! ### What the data link does with its log -/

/-- An event without a callback. -/
def Silent : Lib.Event Reply → Prop
  | .accepted _ => False
  | .rejected _ => False
  | .replied _ _ _ => False
  | _ => True

/-- The reply an event brings. -/
def replyOf : Lib.Event Reply → Option Reply
  | .replied _ _ reply => some reply
  | _ => none

/-- The replies to the operations, in order. -/
def replies (log : List (Lib.Event Reply)) : List Reply := log.filterMap replyOf

theorem replyOf_of_silent {e : Lib.Event Reply} (h : Silent e) : replyOf e = none := by
  cases e with
  | replied => exact h.elim
  | _ => rfl

theorem replies_append_silent {log more : List (Lib.Event Reply)} (h : ∀ e ∈ more, Silent e) :
    replies (log ++ more) = replies log := by
  have hmore : more.filterMap replyOf = [] :=
    List.filterMap_eq_nil_iff.mpr fun e he => replyOf_of_silent (h e he)
  rw [replies, List.filterMap_append, hmore, List.append_nil]
  rfl

namespace S21DataLinkUart

variable {s s' s'' : S21DataLinkUart}

/-- The link works on the operation it has, or on none. -/
structure Quietly (s s' : S21DataLinkUart) : Prop where
  opType : s'.opType = s.opType
  accepted : s'.accepted = s.accepted
  log : ∃ more, s'.log = s.log ++ more ∧ ∀ e ∈ more, Silent e

theorem Quietly.refl (s : S21DataLinkUart) : Quietly s s :=
  ⟨rfl, rfl, [], (List.append_nil _).symm, nofun⟩

theorem Quietly.trans (h : Quietly s s') (h' : Quietly s' s'') : Quietly s s'' := by
  obtain ⟨more, hlog, hmore⟩ := h.log
  obtain ⟨more', hlog', hmore'⟩ := h'.log
  refine ⟨h'.opType.trans h.opType, h'.accepted.trans h.accepted, more ++ more', ?_, ?_⟩
  · rw [hlog', hlog, List.append_assoc]
  · exact List.forall_mem_append.mpr ⟨hmore, hmore'⟩

/-- A step that logs one silent event. -/
theorem Quietly.of_log {e : Lib.Event Reply} (hop : s'.opType = s.opType)
    (haccepted : s'.accepted = s.accepted) (hlog : s'.log = s.log ++ [e]) (he : Silent e) :
    Quietly s s' :=
  ⟨hop, haccepted, [e], hlog, by simpa using he⟩

/-- A step that logs nothing. -/
theorem Quietly.of_same (hop : s'.opType = s.opType) (haccepted : s'.accepted = s.accepted)
    (hlog : s'.log = s.log) : Quietly s s' :=
  ⟨hop, haccepted, [], hlog.trans (List.append_nil _).symm, nofun⟩

theorem quietly_msgqPut (s : S21DataLinkUart) (r : RxResult) : Quietly s (s.msgqPut r) := by
  unfold msgqPut
  split
  · exact .of_log rfl rfl rfl trivial
  · exact .of_log rfl rfl rfl trivial

theorem quietly_finish (s : S21DataLinkUart) (r : RxResult) : Quietly s (s.finish r) :=
  (quietly_msgqPut s r).trans (.of_log rfl rfl rfl trivial)

theorem quietly_onFrameTimeout (s : S21DataLinkUart) (irq : Interrupt) :
    Quietly s (s.onFrameTimeout irq) := by
  unfold onFrameTimeout
  split
  · exact .of_same rfl rfl rfl
  · exact .refl s

theorem quietly_onEndrx (s : S21DataLinkUart) (irq : Interrupt) :
    Quietly s (s.onEndrx irq).1 := by
  unfold onEndrx
  split
  · split
    · exact quietly_finish s _
    · dsimp only
      split
      · exact (quietly_msgqPut s _).trans (.of_same rfl rfl rfl)
      · exact quietly_finish s _
    · exact .refl s
    · exact .refl s
  · exact .refl s

theorem quietly_onError (s : S21DataLinkUart) (irq : Interrupt) : Quietly s (s.onError irq) := by
  unfold onError
  split
  · exact quietly_finish s _
  · exact .refl s

theorem quietly_onEndtx (s : S21DataLinkUart) (irq : Interrupt) : Quietly s (s.onEndtx irq) := by
  unfold onEndtx
  split
  · dsimp only
    split
    · exact .of_log rfl rfl rfl trivial
    · exact .of_same rfl rfl rfl
  · exact .refl s

/-- An interrupt calls no callback. -/
theorem quietly_isrHandler (s : S21DataLinkUart) (irq : Interrupt) :
    Quietly s (s.isrHandler irq) :=
  (((quietly_onFrameTimeout s irq).trans (quietly_onEndrx _ irq)).trans
    (quietly_onError _ _)).trans (quietly_onEndtx _ _)

/-- A free link accepts what it is asked for. -/
theorem step_request (hop : s.opType = .none) (request : Request) :
    (s.step request.input).opType = request.opType ∧
      (s.step request.input).accepted = s.accepted + 1 ∧
      (s.step request.input).log =
        s.log ++ [.accepted (s.accepted + 1), .cleared s.rxMsgq.isSome] := by
  cases request with
  | send payload =>
      simp [Request.input, step, send, hop, accept, startTransaction, configureMatch, msgqPurge,
        Request.opType]
  | transact payload =>
      simp [Request.input, step, transact, hop, accept, startTransaction, configureMatch,
        msgqPurge, Request.opType]

/-- A completion frees the link and replies to the last operation. -/
theorem step_completion (h : s.WellBehaved) (hwork : s.workPending = true) :
    s.opType ≠ .none ∧ (s.step .completion).opType = .none ∧
      (s.step .completion).accepted = s.accepted ∧
      ∃ reply : Reply, reply.opType = s.opType ∧
        (s.step .completion).log = s.log ++ [.replied s.accepted s.accepted reply] := by
  obtain ⟨-, hslot, -, ⟨r, hqueue⟩, -⟩ := h.notified hwork
  refine ⟨hslot.opType_ne, ?_⟩
  simp only [step, hwork, if_true, completionWorkHandler, msgqGet, hqueue, configureMatch]
  rcases hslot with ⟨hop, hcb⟩ | ⟨hop, hcb⟩
  · simp only [hop, hcb, callBack]
    exact ⟨trivial, trivial, _, rfl, rfl⟩
  · simp only [hop, hcb, callBack]
    exact ⟨trivial, trivial, _, rfl, rfl⟩

end S21DataLinkUart

/-! ### Calls made one after the other -/

section Serial

variable {T : Type}

/-- What the calls ask of the data link. -/
def asked (calls : List (T × PresentationCall)) : List Request :=
  calls.filterMap fun c => c.2.request.toOption

/-- What the calls return when they are made one after the other and the data link gives
these replies: a call that asks for something is answered by the next reply. -/
def serial : List (T × PresentationCall) → List Reply →
    List (T × PresentationCall × Option Answer)
  | [], _ => []
  | (t, call) :: calls, replies =>
      match call.request with
      | .error text => (t, call, call.receive (.send (.error text))) :: serial calls replies
      | .ok _ =>
          match replies with
          | [] => []
          | reply :: replies => (t, call, call.receive reply) :: serial calls replies

@[simp] theorem asked_append (calls more : List (T × PresentationCall)) :
    asked (calls ++ more) = asked calls ++ asked more := by
  simp [asked]

theorem asked_cons_error {t : T} {call : PresentationCall} {text : String}
    (h : call.request = .error text) (calls : List (T × PresentationCall)) :
    asked ((t, call) :: calls) = asked calls :=
  List.filterMap_cons_none (by rw [h]; rfl)

theorem asked_cons_ok {t : T} {call : PresentationCall} {request : Request}
    (h : call.request = .ok request) (calls : List (T × PresentationCall)) :
    asked ((t, call) :: calls) = request :: asked calls :=
  List.filterMap_cons_some (by rw [h]; rfl)

/-- Calls that use the replies up leave the rest to the calls after them. -/
theorem serial_append {calls : List (T × PresentationCall)} {replies : List Reply}
    (h : (asked calls).length = replies.length) (more : List (T × PresentationCall))
    (rest : List Reply) :
    serial (calls ++ more) (replies ++ rest) = serial calls replies ++ serial more rest := by
  induction calls generalizing replies with
  | nil =>
      obtain rfl : replies = [] := List.length_eq_zero_iff.mp h.symm
      rfl
  | cons c calls ih =>
      obtain ⟨t, call⟩ := c
      cases hrequest : call.request with
      | error text =>
          rw [asked_cons_error hrequest] at h
          simp only [List.cons_append, serial, hrequest, ih h]
      | ok request =>
          rw [asked_cons_ok hrequest] at h
          cases replies with
          | nil => cases h
          | cons reply replies =>
              simp only [List.cons_append, serial, hrequest, ih (Nat.succ.inj h)]

end Serial

namespace S21PresentationSyncAdapter

variable {T : Type}

/-! ### Steps -/

section Relation

variable [DecidableEq T] (s : S21PresentationSyncAdapter T)

/-- The steps, with what enables them. -/
inductive Steps : AdapterEvent T → S21PresentationSyncAdapter T → Prop
  | enter {t : T} {call : PresentationCall} (hfree : s.frames t = none) :
      Steps (.enter t call)
        { s with frames := Function.update s.frames t (some { call, point := .lock }) }
  | lock {t : T} {call : PresentationCall} {result : Option Answer}
      (hframe : s.frames t = some ⟨call, .lock, result⟩) (hmutex : s.mutex = none) :
      Steps (.lock t)
        { s with
          mutex := some t
          frames := Function.update s.frames t (some ⟨call, .call, result⟩) }
  | call {t : T} {call : PresentationCall} {result : Option Answer}
      (hframe : s.frames t = some ⟨call, .call, result⟩) : Steps (.call t) (s.perform t call)
  | take {t : T} {call : PresentationCall} {result : Option Answer} {sem : Nat}
      (hframe : s.frames t = some ⟨call, .take, result⟩) (hsem : s.sem = sem + 1) :
      Steps (.take t)
        { s with
          sem := sem
          frames := Function.update s.frames t (some ⟨call, .unlock, result⟩) }
  | unlock {t : T} {call : PresentationCall} {result : Option Answer}
      (hframe : s.frames t = some ⟨call, .unlock, result⟩) :
      Steps (.unlock t)
        { s with
          mutex := none
          frames := Function.update s.frames t none
          returned := s.returned ++ [(t, call, result)] }
  | interrupt (irq : Interrupt) : Steps (.interrupt irq) (s.linkStep none (.interrupt irq))
  | completion : Steps .completion (s.linkStep none .completion)

variable {s}

theorem steps_of_step {s' : S21PresentationSyncAdapter T} {e : AdapterEvent T}
    (h : s.step e = some s') : s.Steps e s' := by
  cases e with
  | enter t call =>
      simp only [step] at h
      split at h
      · rename_i hfree
        obtain rfl := Option.some.inj h
        exact .enter hfree
      · cases h
  | lock t =>
      simp only [step] at h
      split at h
      · rename_i hframe hmutex
        obtain rfl := Option.some.inj h
        exact .lock hframe hmutex
      · cases h
  | call t =>
      simp only [step] at h
      split at h
      · rename_i hframe
        obtain rfl := Option.some.inj h
        exact .call hframe
      · cases h
  | take t =>
      simp only [step] at h
      split at h
      · rename_i hframe hsem
        obtain rfl := Option.some.inj h
        exact .take hframe hsem
      · cases h
  | unlock t =>
      simp only [step] at h
      split at h
      · rename_i hframe
        obtain rfl := Option.some.inj h
        exact .unlock hframe
      · cases h
  | interrupt irq =>
      obtain rfl := Option.some.inj h
      exact .interrupt irq
  | completion =>
      obtain rfl := Option.some.inj h
      exact .completion

/-! ### Link steps -/

theorem foldl_observe_silent (callback : Option (T × PresentationCall))
    {more : List (Lib.Event Reply)} (h : ∀ e ∈ more, Silent e)
    (s : S21PresentationSyncAdapter T) : more.foldl (observe callback) s = s := by
  induction more generalizing s with
  | nil => rfl
  | cons e more ih =>
      obtain ⟨he, hmore⟩ := List.forall_mem_cons.mp h
      have hsame : observe callback s e = s := by
        cases e with
        | accepted => exact he.elim
        | rejected => exact he.elim
        | replied => exact he.elim
        | _ => rfl
      rw [List.foldl_cons, hsame]
      exact ih hmore s

theorem linkStep_of_log {callback : Option (T × PresentationCall)}
    {input : S21DataLinkUart.Input} {more : List (Lib.Event Reply)}
    (h : (s.link.step input).log = s.link.log ++ more) :
    s.linkStep callback input =
      more.foldl (observe callback) { s with link := s.link.step input } := by
  simp only [linkStep, h, List.drop_left]

/-- A link that works on makes no difference to the callers. -/
theorem linkStep_of_quietly {callback : Option (T × PresentationCall)}
    {input : S21DataLinkUart.Input} (h : S21DataLinkUart.Quietly s.link (s.link.step input)) :
    s.linkStep callback input = { s with link := s.link.step input } := by
  obtain ⟨more, hlog, hmore⟩ := h.log
  rw [linkStep_of_log hlog]
  exact foldl_observe_silent callback hmore _

/-- A free link keeps the callback of what it is asked for. -/
theorem linkStep_request {callback : Option (T × PresentationCall)} {request : Request}
    (hop : s.link.opType = .none) :
    s.linkStep callback request.input = { s with
      link := s.link.step request.input
      callbacks := Function.update s.callbacks (s.link.accepted + 1) callback } := by
  rw [linkStep_of_log (S21DataLinkUart.step_request hop request).2.2]
  rfl

end Relation

/-! ### Stages -/

/-- How far the thread past the lock is. -/
inductive Stage (T : Type)
  | free
  | entered (t : T) (call : PresentationCall)
  | inFlight (t : T) (call : PresentationCall)
  | answered (t : T) (call : PresentationCall) (answer : Answer)
  | taken (t : T) (call : PresentationCall) (answer : Answer)

namespace Stage

/-- The thread that has the mutex. -/
def owner : Stage T → Option T
  | free => none
  | entered t _ => some t
  | inFlight t _ => some t
  | answered t _ _ => some t
  | taken t _ _ => some t

/-- The call that waits for its reply. -/
def waiting : Stage T → List (T × PresentationCall)
  | inFlight t call => [(t, call)]
  | _ => []

/-- The call that is answered and has not returned. -/
def inHand : Stage T → List (T × PresentationCall × Option Answer)
  | answered t call answer => [(t, call, some answer)]
  | taken t call answer => [(t, call, some answer)]
  | _ => []

end Stage

/-- What the adapter looks like in a stage. -/
def Matches (s : S21PresentationSyncAdapter T) : Stage T → Prop
  | .free => s.sem = 0 ∧ s.link.opType = .none
  | .entered t call =>
      s.frames t = some ⟨call, .call, none⟩ ∧ s.sem = 0 ∧ s.link.opType = .none
  | .inFlight t call =>
      s.frames t = some ⟨call, .take, none⟩ ∧ s.sem = 0 ∧ s.link.opType = call.opType ∧
        s.callbacks s.link.accepted = some (t, call) ∧ ∃ request, call.request = .ok request
  | .answered t call answer =>
      s.frames t = some ⟨call, .take, some answer⟩ ∧ s.sem = 1 ∧ s.link.opType = .none
  | .taken t call answer =>
      s.frames t = some ⟨call, .unlock, some answer⟩ ∧ s.sem = 0 ∧ s.link.opType = .none

/-- The calls take turns. -/
structure InTurn (s : S21PresentationSyncAdapter T) (stage : Stage T) : Prop where
  mutex : s.mutex = stage.owner
  atStage : s.Matches stage
  /-- The other threads are outside, or before the lock. -/
  others : ∀ t frame, s.frames t = some frame → stage.owner ≠ some t →
    frame.point = .lock ∧ frame.result = none
  link : s.link.WellBehaved
  accepted : ∀ reply, .rejected reply ∉ s.link.log
  /-- The calls that do not wait for their reply have used the replies up, and have returned
  what the serial calls return. -/
  history : ∃ done, s.granted = done ++ stage.waiting ∧
    (asked done).length = (replies s.link.log).length ∧
    s.returned ++ stage.inHand = serial done (replies s.link.log)

theorem inTurn_init : (init : S21PresentationSyncAdapter T).InTurn .free where
  mutex := rfl
  atStage := ⟨rfl, rfl⟩
  others _ _ h _ := nomatch h
  link := S21DataLinkUart.wellBehaved_init
  accepted _ h := nomatch h
  history := ⟨[], rfl, rfl, rfl⟩

section Keep

variable {s s' : S21PresentationSyncAdapter T} {stage : Stage T} {t : T} {call : PresentationCall}
  {result : Option Answer}

theorem Matches.congr (h : s.Matches stage)
    (hframes : ∀ t, stage.owner = some t → s'.frames t = s.frames t) (hsem : s'.sem = s.sem)
    (hop : s'.link.opType = s.link.opType) (haccepted : s'.link.accepted = s.link.accepted)
    (hcallbacks : s'.callbacks = s.callbacks) : s'.Matches stage := by
  cases stage with
  | free => simpa only [Matches, hsem, hop] using h
  | entered t call => simpa only [Matches, hframes t rfl, hsem, hop] using h
  | inFlight t call =>
      simpa only [Matches, hframes t rfl, hsem, hop, haccepted, hcallbacks] using h
  | answered t call answer => simpa only [Matches, hframes t rfl, hsem, hop] using h
  | taken t call answer => simpa only [Matches, hframes t rfl, hsem, hop] using h

/-- The owner of a stage has a frame. -/
theorem Matches.frame (h : s.Matches stage) (howner : stage.owner = some t) :
    ∃ frame, s.frames t = some frame := by
  cases stage with
  | free => cases howner
  | _ =>
      cases howner
      exact ⟨_, h.1⟩

/-- Only the owner is past the lock. -/
theorem InTurn.owner_of_frame (h : s.InTurn stage) {frame : SyncCall}
    (hframe : s.frames t = some frame) (hpoint : frame.point ≠ .lock) :
    stage.owner = some t := by
  by_contra hother
  exact hpoint (h.others t frame hframe hother).1

theorem InTurn.of_call (h : s.InTurn stage) (hframe : s.frames t = some ⟨call, .call, result⟩) :
    stage = .entered t call := by
  have howner := h.owner_of_frame hframe nofun
  have hstage := h.atStage
  cases stage with
  | free => cases howner
  | entered =>
      cases howner
      cases hframe.symm.trans hstage.1
      rfl
  | _ =>
      cases howner
      cases hframe.symm.trans hstage.1

theorem InTurn.of_take (h : s.InTurn stage) (hframe : s.frames t = some ⟨call, .take, result⟩) :
    (stage = .inFlight t call ∧ result = none) ∨
      ∃ answer, stage = .answered t call answer ∧ result = some answer := by
  have howner := h.owner_of_frame hframe nofun
  have hstage := h.atStage
  cases stage with
  | free => cases howner
  | inFlight =>
      cases howner
      cases hframe.symm.trans hstage.1
      exact Or.inl ⟨rfl, rfl⟩
  | answered =>
      cases howner
      cases hframe.symm.trans hstage.1
      exact Or.inr ⟨_, rfl, rfl⟩
  | _ =>
      cases howner
      cases hframe.symm.trans hstage.1

theorem InTurn.of_unlock (h : s.InTurn stage)
    (hframe : s.frames t = some ⟨call, .unlock, result⟩) :
    ∃ answer, stage = .taken t call answer ∧ result = some answer := by
  have howner := h.owner_of_frame hframe nofun
  have hstage := h.atStage
  cases stage with
  | free => cases howner
  | taken =>
      cases howner
      cases hframe.symm.trans hstage.1
      exact ⟨_, rfl, rfl⟩
  | _ =>
      cases howner
      cases hframe.symm.trans hstage.1

/-- An operation is in flight only for a call that waits. -/
theorem InTurn.of_opType (h : s.InTurn stage) (hop : s.link.opType ≠ .none) :
    ∃ t call, stage = .inFlight t call := by
  have hstage := h.atStage
  cases stage with
  | free => exact absurd hstage.2 hop
  | entered t call => exact absurd hstage.2.2 hop
  | inFlight t call => exact ⟨t, call, rfl⟩
  | answered t call answer => exact absurd hstage.2.2 hop
  | taken t call answer => exact absurd hstage.2.2 hop

/-- The frames of the threads other than `t` stay as they are. -/
theorem InTurn.others_update [DecidableEq T] (h : s.InTurn stage) (stage' : Stage T)
    (frame : Option SyncCall) (howner : stage'.owner = some t)
    (hbefore : stage.owner = none ∨ stage.owner = some t) :
    ∀ t' frame', Function.update s.frames t frame t' = some frame' → stage'.owner ≠ some t' →
      frame'.point = .lock ∧ frame'.result = none := by
  intro t' frame' hframe hother
  have hne : t' ≠ t := by
    rintro rfl
    exact hother howner
  rw [Function.update_of_ne hne] at hframe
  refine h.others t' frame' hframe ?_
  rcases hbefore with hnone | hsome
  · rw [hnone]
    exact nofun
  · rw [hsome]
    exact fun heq => hne (Option.some.inj heq).symm

/-- A link that works on makes no difference to the callers. -/
theorem InTurn.quiet (h : s.InTurn stage) {link : S21DataLinkUart}
    (hquiet : S21DataLinkUart.Quietly s.link link) (hlink : link.WellBehaved) :
    InTurn { s with link } stage := by
  obtain ⟨more, hlog, hmore⟩ := hquiet.log
  obtain ⟨done, hgranted, hcount, hserial⟩ := h.history
  have hreplies : replies link.log = replies s.link.log := by
    rw [hlog, replies_append_silent hmore]
  refine ⟨h.mutex, h.atStage.congr (fun _ _ => rfl) rfl hquiet.opType hquiet.accepted rfl,
    h.others, hlink, fun reply hmem => ?_, done, hgranted, ?_, ?_⟩
  · rw [hlog] at hmem
    rcases List.mem_append.mp hmem with hbefore | hnew
    · exact h.accepted reply hbefore
    · exact hmore _ hnew
  · rw [hreplies]
    exact hcount
  · rw [hreplies]
    exact hserial

end Keep

section Turns

variable [DecidableEq T] {s : S21PresentationSyncAdapter T} {stage : Stage T} {t : T}
  {call : PresentationCall} {result : Option Answer}

theorem InTurn.enter (h : s.InTurn stage) (hfree : s.frames t = none) :
    InTurn { s with
      frames := Function.update s.frames t (some { call, point := .lock }) } stage := by
  have hnot : stage.owner ≠ some t := by
    intro howner
    obtain ⟨frame, hframe⟩ := h.atStage.frame howner
    rw [hfree] at hframe
    cases hframe
  refine ⟨h.mutex, h.atStage.congr (fun t' howner => ?_) rfl rfl rfl rfl,
    fun t' frame hframe hother => ?_, h.link, h.accepted, h.history⟩
  · refine Function.update_of_ne ?_ _ _
    rintro rfl
    exact hnot howner
  · dsimp only at hframe
    by_cases ht : t' = t
    · subst ht
      rw [Function.update_self] at hframe
      obtain rfl := Option.some.inj hframe
      exact ⟨rfl, rfl⟩
    · rw [Function.update_of_ne ht] at hframe
      exact h.others t' frame hframe hother

theorem InTurn.lock (h : s.InTurn stage) (hframe : s.frames t = some ⟨call, .lock, result⟩)
    (hmutex : s.mutex = none) :
    InTurn { s with
      mutex := some t
      frames := Function.update s.frames t (some ⟨call, .call, result⟩) } (.entered t call) := by
  have hnone : stage.owner = none := h.mutex.symm.trans hmutex
  have hresult : result = none := by
    refine (h.others t _ hframe ?_).2
    rw [hnone]
    exact nofun
  subst hresult
  cases stage with
  | free =>
      exact ⟨rfl, ⟨Function.update_self _ _ _, h.atStage.1, h.atStage.2⟩,
        h.others_update _ _ rfl (Or.inl rfl), h.link, h.accepted, h.history⟩
  | _ => cases hnone

/-- An answer for the call in flight, or for one that calls back at once. -/
theorem InTurn.answer (done : List (T × PresentationCall)) {answer : Answer} {reply : Reply}
    (hmutex : s.mutex = some t) (hframe : s.frames t = some ⟨call, .take, none⟩)
    (hsem : s.sem = 0) (hop : s.link.opType = .none)
    (hothers : ∀ t' frame, s.frames t' = some frame → t' ≠ t →
      frame.point = .lock ∧ frame.result = none)
    (hlink : s.link.WellBehaved) (haccepted : ∀ reply, .rejected reply ∉ s.link.log)
    (hanswer : call.receive reply = some answer) (hgranted : s.granted = done)
    (hcount : (asked done).length = (replies s.link.log).length)
    (hserial : s.returned ++ [(t, call, call.receive reply)] =
      serial done (replies s.link.log)) :
    (s.callBack (some (t, call)) reply).InTurn (.answered t call answer) := by
  refine ⟨hmutex, ⟨?_, ?_, hop⟩, fun t' frame hframe' hother => ?_, hlink, haccepted, done,
    hgranted.trans (List.append_nil _).symm, hcount, ?_⟩
  · simp only [callBack, Function.update_self, hframe, Option.map_some, hanswer]
  · simp only [callBack, hsem]
    rfl
  · have hne : t' ≠ t := by
      rintro rfl
      exact hother rfl
    simp only [callBack, Function.update_of_ne hne] at hframe'
    exact hothers t' frame hframe' hne
  · rw [hanswer] at hserial
    exact hserial

/-- The call starts its operation, or is answered at once. -/
theorem InTurn.perform (h : s.InTurn stage) (hframe : s.frames t = some ⟨call, .call, result⟩) :
    ∃ stage, (s.perform t call).InTurn stage := by
  obtain rfl := h.of_call hframe
  obtain ⟨hhere, hsem, hop⟩ := h.atStage
  obtain ⟨done, hwaiting, hcount, hinHand⟩ := h.history
  have hgranted : s.granted = done := hwaiting.trans (List.append_nil done)
  have hserial : s.returned = serial done (replies s.link.log) :=
    (List.append_nil _).symm.trans hinHand
  cases hrequest : call.request with
  | error text =>
      -- the presentation layer calls back at once, and the link is not asked
      have hkind : Reply.opType (.send (.error text)) = call.opType :=
        (PresentationCall.opType_of_error hrequest).symm
      obtain ⟨answer, hanswer⟩ := PresentationCall.receive_isSome hkind
      refine ⟨.answered t call answer, ?_⟩
      simp only [S21PresentationSyncAdapter.perform, hrequest]
      refine InTurn.answer (done ++ [(t, call)]) h.mutex (Function.update_self _ _ _) hsem
        hop (fun t' frame hframe' hne => ?_) h.link h.accepted hanswer ?_ ?_ ?_
      · exact h.others_update (.entered t call) (some ⟨call, .take, none⟩) rfl (Or.inr rfl) t'
          frame hframe' fun heq => hne (Option.some.inj heq).symm
      · rw [hgranted]
      · rw [asked_append, asked_cons_error hrequest]
        simpa [asked] using hcount
      · have hsplit := serial_append hcount [(t, call)] []
        rw [List.append_nil] at hsplit
        rw [hsplit, ← hserial]
        simp only [serial, hrequest]
  | ok request =>
      obtain ⟨hop', haccepted', hlog⟩ := S21DataLinkUart.step_request hop request
      have hreplies : replies (s.link.step request.input).log = replies s.link.log := by
        rw [hlog, replies, List.filterMap_append]
        exact List.append_nil _
      refine ⟨.inFlight t call, ?_⟩
      simp only [S21PresentationSyncAdapter.perform, hrequest]
      rw [linkStep_request (by exact hop)]
      refine ⟨h.mutex, ⟨Function.update_self _ _ _, hsem, ?_, ?_, request, hrequest⟩,
        h.others_update _ _ rfl (Or.inr rfl), S21DataLinkUart.wellBehaved_step _ _ h.link,
        fun reply hmem => ?_, done, ?_, ?_, ?_⟩
      · exact hop'.trans (PresentationCall.opType_request hrequest)
      · dsimp only
        rw [haccepted', Function.update_self]
      · rw [hlog] at hmem
        rcases List.mem_append.mp hmem with hbefore | hnew
        · exact h.accepted reply hbefore
        · simp at hnew
      · rw [hgranted]
        rfl
      · rw [hreplies]
        exact hcount
      · rw [hreplies]
        exact (List.append_nil _).trans hserial

/-- The completion answers the call in flight. -/
theorem InTurn.completion (h : s.InTurn stage) :
    ∃ stage, (s.linkStep none .completion).InTurn stage := by
  cases hwork : s.link.workPending with
  | false =>
      have hsame : s.link.step .completion = s.link := by
        simp [S21DataLinkUart.step, hwork]
      have hquiet : S21DataLinkUart.Quietly s.link (s.link.step .completion) := by
        rw [hsame]
        exact .refl _
      rw [linkStep_of_quietly hquiet]
      exact ⟨stage, h.quiet hquiet (S21DataLinkUart.wellBehaved_step _ _ h.link)⟩
  | true =>
      obtain ⟨hbusy, hop, haccepted, reply, hkind, hlog⟩ :=
        S21DataLinkUart.step_completion h.link hwork
      obtain ⟨t, call, rfl⟩ := h.of_opType hbusy
      obtain ⟨hframe, hsem, hcall, hcallback, request, hrequest⟩ := h.atStage
      obtain ⟨done, hgranted, hcount, hinHand⟩ := h.history
      have hserial : s.returned = serial done (replies s.link.log) :=
        (List.append_nil _).symm.trans hinHand
      obtain ⟨answer, hanswer⟩ := PresentationCall.receive_isSome (hkind.trans hcall)
      have hreplies :
          replies (s.link.step .completion).log = replies s.link.log ++ [reply] := by
        rw [hlog, replies, List.filterMap_append]
        rfl
      have hlink : s.linkStep none .completion =
          callBack { s with link := s.link.step .completion } (some (t, call)) reply := by
        rw [linkStep_of_log hlog, ← hcallback]
        rfl
      refine ⟨.answered t call answer, ?_⟩
      rw [hlink]
      refine InTurn.answer (done ++ [(t, call)]) h.mutex hframe hsem hop
        (fun t' frame hframe' hne => ?_) (S21DataLinkUart.wellBehaved_step _ _ h.link)
        (fun reply hmem => ?_) hanswer hgranted ?_ ?_
      · exact h.others t' frame hframe' fun heq => hne (Option.some.inj heq).symm
      · rw [hlog] at hmem
        rcases List.mem_append.mp hmem with hbefore | hnew
        · exact h.accepted reply hbefore
        · simp at hnew
      · rw [hreplies, asked_append, asked_cons_ok hrequest, List.length_append,
          List.length_append, hcount]
        rfl
      · rw [hreplies, serial_append hcount, ← hserial]
        simp only [serial, hrequest]

/-- **Every step keeps the turns.** -/
theorem inTurn_step {s' : S21PresentationSyncAdapter T} {e : AdapterEvent T}
    (h : s.InTurn stage) (hstep : s.step e = some s') : ∃ stage, s'.InTurn stage := by
  cases steps_of_step hstep with
  | enter hfree => exact ⟨stage, h.enter hfree⟩
  | lock hframe hmutex => exact ⟨_, h.lock hframe hmutex⟩
  | call hframe => exact h.perform hframe
  | take hframe hsem =>
      rcases h.of_take hframe with ⟨rfl, -⟩ | ⟨answer, rfl, rfl⟩
      · -- no signal before the answer
        rw [h.atStage.2.1] at hsem
        cases hsem
      · rw [h.atStage.2.1] at hsem
        cases hsem
        exact ⟨.taken _ _ answer, h.mutex, ⟨Function.update_self _ _ _, rfl, h.atStage.2.2⟩,
          h.others_update _ _ rfl (Or.inr rfl), h.link, h.accepted, h.history⟩
  | @unlock t call result hframe =>
      obtain ⟨answer, rfl, rfl⟩ := h.of_unlock hframe
      refine ⟨.free, rfl, ⟨h.atStage.2.1, h.atStage.2.2⟩, fun t' frame hframe' _ => ?_, h.link,
        h.accepted, ?_⟩
      · dsimp only at hframe'
        have hne : t' ≠ t := by
          rintro rfl
          rw [Function.update_self] at hframe'
          cases hframe'
        rw [Function.update_of_ne hne] at hframe'
        exact h.others t' frame hframe' fun heq => hne (Option.some.inj heq).symm
      · obtain ⟨done, hgranted, hcount, hserial⟩ := h.history
        exact ⟨done, hgranted, hcount, (List.append_nil _).trans hserial⟩
  | interrupt irq =>
      have hquiet := S21DataLinkUart.quietly_isrHandler s.link irq
      rw [linkStep_of_quietly hquiet]
      exact ⟨stage, h.quiet hquiet (S21DataLinkUart.wellBehaved_step _ (.interrupt irq) h.link)⟩
  | completion => exact h.completion

end Turns

/-! ### Runs -/

section Runs

variable [DecidableEq T] {s : S21PresentationSyncAdapter T}

/-- The call that is answered and has not returned. -/
def inHand (s : S21PresentationSyncAdapter T) : List (T × PresentationCall × Option Answer) :=
  match s.mutex with
  | none => []
  | some t =>
      match s.frames t with
      | some ⟨call, _, some answer⟩ => [(t, call, some answer)]
      | _ => []

omit [DecidableEq T] in
theorem InTurn.inHand_eq {stage : Stage T} (h : s.InTurn stage) : s.inHand = stage.inHand := by
  have hmutex := h.mutex
  have hstage := h.atStage
  unfold inHand
  cases stage with
  | free => simp only [hmutex, Stage.owner, Stage.inHand]
  | _ => simp only [hmutex, hstage.1, Stage.owner, Stage.inHand]

omit [DecidableEq T] in
/-- A call in flight has used no reply yet. -/
theorem InTurn.serial_eq {stage : Stage T} (h : s.InTurn stage) :
    s.returned ++ s.inHand = serial s.granted (replies s.link.log) := by
  obtain ⟨done, hgranted, hcount, hserial⟩ := h.history
  have hsplit := serial_append hcount stage.waiting []
  rw [List.append_nil, ← hgranted, ← hserial] at hsplit
  rw [h.inHand_eq, hsplit]
  have hstage := h.atStage
  cases stage with
  | inFlight t call =>
      obtain ⟨request, hrequest⟩ := hstage.2.2.2.2
      have hnone : serial [(t, call)] [] = [] := by simp only [serial, hrequest]
      exact ((congrArg _ hnone).trans (List.append_nil _)).symm
  | _ => exact (List.append_nil _).symm

theorem inTurn_run {events : List (AdapterEvent T)}
    (hrun : Lib.runGuarded step init events = some s) : ∃ stage, s.InTurn stage := by
  refine Lib.runGuarded_of_step (I := fun s => ∃ stage, s.InTurn stage) ?_
    ⟨.free, inTurn_init⟩ hrun
  rintro s e s' ⟨stage, hturn⟩ hstep
  exact inTurn_step hturn hstep

/-- The operation an input asks for. -/
def requestOf : S21DataLinkUart.Input → Option Request
  | .send payload => some (.send payload)
  | .transact payload => some (.transact payload)
  | _ => none

/-- The data link has been asked what the calls ask, in their order, and nothing else. -/
def Driven (s : S21PresentationSyncAdapter T) : Prop :=
  ∃ inputs, s.link = Lib.run S21DataLinkUart.step .init inputs ∧
    inputs.filterMap requestOf = asked s.granted

theorem callBack_frame (callback : Option (T × PresentationCall)) (reply : Reply)
    (s : S21PresentationSyncAdapter T) :
    (s.callBack callback reply).link = s.link ∧
      (s.callBack callback reply).granted = s.granted := by
  cases callback <;> exact ⟨rfl, rfl⟩

theorem foldl_observe_frame (callback : Option (T × PresentationCall))
    (more : List (Lib.Event Reply)) (s : S21PresentationSyncAdapter T) :
    (more.foldl (observe callback) s).link = s.link ∧
      (more.foldl (observe callback) s).granted = s.granted := by
  induction more generalizing s with
  | nil => exact ⟨rfl, rfl⟩
  | cons e more ih =>
      have he : (observe callback s e).link = s.link ∧
          (observe callback s e).granted = s.granted := by
        cases e with
        | rejected reply => exact callBack_frame _ _ s
        | replied owner n reply => exact callBack_frame _ _ s
        | _ => exact ⟨rfl, rfl⟩
      exact ⟨(ih _).1.trans he.1, (ih _).2.trans he.2⟩

/-- An input of the data link that comes with its call. -/
theorem Driven.linkStep (h : s.Driven) {granted : List (T × PresentationCall)}
    {frames : T → Option SyncCall} (callback : Option (T × PresentationCall))
    {input : S21DataLinkUart.Input}
    (hasked : asked granted = asked s.granted ++ (requestOf input).toList) :
    Driven (linkStep { s with granted, frames } callback input) := by
  obtain ⟨inputs, hlink, hrequests⟩ := h
  obtain ⟨hlink', hgranted'⟩ := foldl_observe_frame callback
    ((s.link.step input).log.drop s.link.log.length)
    { s with granted, frames, link := s.link.step input }
  refine ⟨inputs ++ [input], ?_, ?_⟩
  · rw [Lib.run_concat, ← hlink]
    exact hlink'
  · have hconcat : (inputs ++ [input]).filterMap requestOf =
        inputs.filterMap requestOf ++ (requestOf input).toList := by
      rw [List.filterMap_append]
      cases hrequest : requestOf input <;> simp [hrequest]
    rw [hconcat, hrequests, ← hasked]
    exact congrArg asked hgranted'.symm

theorem Driven.perform (h : s.Driven) (t : T) (call : PresentationCall) :
    (s.perform t call).Driven := by
  unfold S21PresentationSyncAdapter.perform
  cases hrequest : call.request with
  | error text =>
      obtain ⟨inputs, hlink, hrequests⟩ := h
      refine ⟨inputs, hlink, hrequests.trans ?_⟩
      have hasked : asked (s.granted ++ [(t, call)]) = asked s.granted := by
        rw [asked_append, asked_cons_error hrequest]
        exact List.append_nil _
      exact hasked.symm
  | ok request =>
      refine h.linkStep _ ?_
      rw [asked_append, asked_cons_ok hrequest]
      cases request <;> rfl

theorem driven_step {s' : S21PresentationSyncAdapter T} {e : AdapterEvent T} (h : s.Driven)
    (hstep : s.step e = some s') : s'.Driven := by
  cases steps_of_step hstep with
  | call hframe => exact h.perform _ _
  | interrupt irq => exact h.linkStep none (List.append_nil _).symm
  | completion => exact h.linkStep none (List.append_nil _).symm
  | _ => exact h

/-- **The calls are served one after the other.** Whatever number of threads make calls, and
however their steps, the interrupts and the completions interleave: the data link turns no
operation away; it is asked exactly what the calls ask, in the order in which they got the
mutex; and what the calls have returned, with the answer of the call in hand, is what they
return when made one after the other in that order. -/
theorem calls_serialized {events : List (AdapterEvent T)}
    (hrun : Lib.runGuarded step init events = some s) :
    (∀ reply, .rejected reply ∉ s.link.log) ∧
      (∃ inputs, s.link = Lib.run S21DataLinkUart.step .init inputs ∧
        inputs.filterMap requestOf = asked s.granted) ∧
      s.returned ++ s.inHand = serial s.granted (replies s.link.log) := by
  obtain ⟨stage, hturn⟩ := inTurn_run hrun
  have hdriven : s.Driven := Lib.runGuarded_of_step (fun _ _ _ h hstep => driven_step h hstep)
    ⟨[], rfl, rfl⟩ hrun
  exact ⟨hturn.accepted, hdriven, hturn.serial_eq⟩

/-- Three calls, two of them started while the first is in flight: one is turned away by the
presentation layer, and the other gets the reply that comes second. -/
def threeCalls : List (AdapterEvent (Fin 3)) :=
  [.enter 0 .getFanMode, .lock 0, .enter 1 .getHumidity,
    .enter 2 (.setOperation true .cool 3300 .auto), .call 0,
    .interrupt ⟨false, true, false, false, false, false,
      [0x06, 0x02, 0x53, 0x47, 0x41, 0xDB, 0x03]⟩,
    .interrupt ⟨false, false, false, true, false, false, []⟩,
    .completion, .take 0, .unlock 0, .lock 2, .call 2, .take 2, .unlock 2, .lock 1, .call 1,
    .interrupt ⟨true, false, false, false, false, false, []⟩,
    .interrupt ⟨false, true, false, false, false, false, []⟩, .completion, .take 1]

theorem calls_serialized_of_threeCalls :
    ∃ s, Lib.runGuarded step init threeCalls = some s ∧
      s.returned.map (fun c => (c.1, c.2.1)) =
        [(0, .getFanMode), (2, .setOperation true .cool 3300 .auto)] ∧
      s.returned ++ s.inHand =
        [(0, .getFanMode, some (.fanMode (pure .auto))),
          (2, .setOperation true .cool 3300 .auto,
            some (.setOperation (.error "setPoint out of range"))),
          (1, .getHumidity, some (.humidity (throw "timeout")))] := by
  obtain ⟨s, hrun, hreturned, hserial⟩ : ∃ s, Lib.runGuarded step init threeCalls = some s ∧
      s.returned.map (fun c => (c.1, c.2.1)) =
        [(0, .getFanMode), (2, .setOperation true .cool 3300 .auto)] ∧
      serial s.granted (replies s.link.log) =
        [(0, .getFanMode, some (.fanMode (pure .auto))),
          (2, .setOperation true .cool 3300 .auto,
            some (.setOperation (.error "setPoint out of range"))),
          (1, .getHumidity, some (.humidity (throw "timeout")))] := ⟨_, rfl, rfl, rfl⟩
  exact ⟨s, hrun, hreturned, (calls_serialized hrun).2.2.trans hserial⟩

/-- A step of the thread inside its call. -/
def OfCaller (t : T) (e : AdapterEvent T) : Prop :=
  e = .lock t ∨ e = .call t ∨ e = .take t ∨ e = .unlock t

/-- **No call is left waiting, and none goes on too early.** In every reachable state, a call
past the lock is the only one there; at the semaphore it is signalled exactly when its
answer is there, and until then its operation is the one in flight; at the end it has its
answer. When no call is past the lock, the semaphore is down and the link free. So there is
always a call that can go on, unless an operation is in flight. -/
theorem caller_in_turn {events : List (AdapterEvent T)}
    (hrun : Lib.runGuarded step init events = some s) :
    (∀ t frame, s.frames t = some frame → frame.point ≠ .lock → s.mutex = some t) ∧
      (∀ t call result, s.frames t = some ⟨call, .take, result⟩ →
        (0 < s.sem ↔ result.isSome) ∧ (result = none → s.link.opType = call.opType ∧
          s.callbacks s.link.accepted = some (t, call))) ∧
      (∀ t call result, s.frames t = some ⟨call, .unlock, result⟩ → result.isSome) ∧
      (s.mutex = none → s.sem = 0 ∧ s.link.opType = .none) ∧
      (∀ t, s.frames t ≠ none → s.link.opType = .none →
        ∃ t' e, OfCaller t' e ∧ (s.step e).isSome) := by
  obtain ⟨stage, hturn⟩ := inTurn_run hrun
  have hstage := hturn.atStage
  refine ⟨fun t frame hframe hpoint => ?_, fun t call result hframe => ?_,
    fun t call result hframe => ?_, fun hmutex => ?_, fun t hcall hop => ?_⟩
  · exact hturn.mutex.trans (hturn.owner_of_frame hframe hpoint)
  · rcases hturn.of_take hframe with ⟨rfl, rfl⟩ | ⟨answer, rfl, rfl⟩
    · refine ⟨?_, fun _ => ⟨hstage.2.2.1, hstage.2.2.2.1⟩⟩
      rw [hstage.2.1]
      simp
    · refine ⟨?_, nofun⟩
      rw [hstage.2.1]
      simp
  · obtain ⟨answer, rfl, rfl⟩ := hturn.of_unlock hframe
    rfl
  · cases stage with
    | free => exact hstage
    | _ => cases hturn.mutex.symm.trans hmutex
  · cases stage with
    | free =>
        -- every thread in a call is at the lock, and the mutex is free
        obtain ⟨⟨call, point, result⟩, hframe⟩ := Option.ne_none_iff_exists'.mp hcall
        obtain ⟨hpoint, hresult⟩ := hturn.others t _ hframe nofun
        dsimp only at hpoint
        subst hpoint
        have hmutex : s.mutex = none := hturn.mutex
        refine ⟨t, .lock t, Or.inl rfl, ?_⟩
        simp [step, hframe, hmutex]
    | entered t' call =>
        refine ⟨t', .call t', Or.inr (Or.inl rfl), ?_⟩
        simp [step, hstage.1]
    | inFlight t' call => exact absurd (hstage.2.2.1.symm.trans hop) call.opType_ne_none
    | answered t' call answer =>
        refine ⟨t', .take t', Or.inr (Or.inr (Or.inl rfl)), ?_⟩
        simp [step, hstage.1, hstage.2.1]
    | taken t' call answer =>
        refine ⟨t', .unlock t', Or.inr (Or.inr (Or.inr rfl)), ?_⟩
        simp [step, hstage.1]

/-- While the first of three calls is in flight, it waits for the semaphore and another waits
for the lock. -/
theorem caller_in_turn_of_threeCalls :
    ∃ s, Lib.runGuarded step init (threeCalls.take 6) = some s ∧ s.sem = 0 ∧
      s.link.opType = .transact ∧ s.mutex = some 0 := by
  obtain ⟨s, hrun, hframe⟩ : ∃ s, Lib.runGuarded step init (threeCalls.take 6) = some s ∧
      s.frames 0 = some ⟨.getFanMode, .take, none⟩ := ⟨_, rfl, rfl⟩
  obtain ⟨howner, hwaiting, -⟩ := caller_in_turn hrun
  obtain ⟨hsignal, hinFlight⟩ := hwaiting 0 _ _ hframe
  have hsem : ¬ 0 < s.sem := fun h => Bool.noConfusion (hsignal.mp h)
  exact ⟨s, hrun, Nat.eq_zero_of_not_pos hsem, (hinFlight rfl).1, howner 0 _ hframe nofun⟩

end Runs

end S21PresentationSyncAdapter

end DaikinBridge.S21
