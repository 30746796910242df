/-
HpscRtems.Link.ReturnTheorems — how far a send is from its return.

A send without time-out ends when its message has been read and its ACK has
been handled. `linkWork` counts the steps of the three tasks that are left:
each of them lowers it, and only a new call raises it, so without new calls
every order of steps comes to an end.

That the end is a return takes more than the ACK. The wake-up event must
come from this call's ACK: `Heard` says that no event is pending but the one
`link_ack` has sent to the task that waits, so the assertion on `tx_acked`
never fails.
-/
import HpscRtems.Link.AtomicTheorems

namespace HpscRtems.Link

open Machine Rtems

/-! ## §1 The steps that are left -/

/-- Of the sender. The store of the indication, past the copy, sets off the
receiver and then the ACK handler. -/
def Requester.work (copied : Bool) : Requester → Nat
  | .running _ _ .setTid => 19
  | .running _ _ .setEventWait => 18
  | .running _ _ .clearTxAcked => 17
  | .running _ _ .write => if copied then 15 else 16
  | .running _ _ (.waitAck _) => 3
  | .running _ _ (.checkAck _ _) => 2
  | .running _ _ (.clearTid _) => 1
  | _ => 0

/-- Of the ACK handler. -/
def AckTask.work (isAck : Bool) (ack : AckPc) : AckTask → Nat
  | .poll => if isAck then 7 else 0
  | .inLinkAck =>
    match ack with
    | .idle => 6
    | .test => 5
    | .send => 4
    | .sendTo _ => 3
    | .post _ _ => 2
  | .clearAck => 1

/-- Of the receiver, with the handler it sets off. -/
def RecvTask.work (isNew : Bool) : RecvTask → Nat
  | .poll => if isNew then 11 else 0
  | .read => 10
  | .clearNew => 9
  | .setAck => (if isNew then 11 else 0) + 8

def linkWork (l : LinkState) (isNew isAck copied : Bool) (ack : AckTask) (recv : RecvTask) : Nat :=
  l.req.work copied + ack.work isAck l.ack + recv.work isNew

theorem linkWork_le (l : LinkState) (isNew isAck copied : Bool) (ack : AckTask)
    (recv : RecvTask) : linkWork l isNew isAck copied ack recv ≤ 45 := by
  have hreq : l.req.work copied ≤ 19 := by
    unfold Requester.work
    split <;> (try split) <;> omega
  have hack : ack.work isAck l.ack ≤ 7 := by
    unfold AckTask.work
    split <;> (try split) <;> omega
  have hrecv : recv.work isNew ≤ 19 := by
    unfold RecvTask.work
    split <;> (try split) <;> omega
  unfold linkWork
  omega

/-- The sender's step out of `link->write` is one of those left. -/
theorem work_sendStep {s l : LinkState} {a : Act} (hs : SendStep s a l)
    (hcall : ∀ tid c, a ≠ .call tid c) (copied : Bool) :
    l.req.work false < s.req.work copied ∧ l.ack = s.ack := by
  cases hs with
  | call h hc => exact absurd rfl (hcall _ _)
  | setTid h | setEventWait h | clearTxAcked h | wakeAck h he | timeoutAck h ht he
  | acked h he ha | assertFailed h ha | ackTimedOut h he | clearTid h =>
    rw [h]
    exact ⟨by simp [Requester.work, LinkState.goto], rfl⟩

/-- So is the handler's in `link_ack`. -/
theorem work_linkAck (l : LinkState) (isAck : Bool) :
    (if l.linkAck.ack = .idle then AckTask.clearAck else .inLinkAck).work isAck l.linkAck.ack <
      AckTask.inLinkAck.work isAck l.ack ∧ l.linkAck.req = l.req := by
  unfold LinkState.linkAck
  cases hl : l.ack with
  | idle | send | sendTo id | post id ev => exact ⟨by simp [AckTask.work], rfl⟩
  | test =>
    refine ⟨?_, rfl⟩
    by_cases ht : l.rctx.tidRequester = idNone
    · simp [ht, AckTask.work]
    · simp [ht, AckTask.work]

/-- A call is in progress that was already, or has just been made. -/
theorem step_running {s l : LinkState} {b : Act} {tid : TaskId} {c : Call} {pc : Pc}
    (h : step s b = some l) (hr : l.req = .running tid c pc) :
    b = .call tid c ∨ ∃ pc', s.req = .running tid c pc' := by
  have hreturns : ∀ {tid' c' pc' rc}, s.req = .running tid' c' pc' →
      (s.sendReturns tid' c' rc).req = .running tid c pc → ∃ pc', s.req = .running tid c pc' := by
    intro tid' c' pc' rc hs hr'
    rcases s.sendReturns_req tid' c' rc with ⟨_, _, h⟩ | ⟨_, _, h⟩ | ⟨_, h⟩
    all_goals rw [h] at hr'
    all_goals cases hr'
    all_goals exact ⟨_, hs⟩
  cases step_stepped h with
  | call tid' c' _ =>
    cases hr
    exact .inl rfl
  | writeFailed hs | acked hs _ _ | ackTimedOut hs _ => exact .inr (hreturns hs hr)
  | clearTid hs => cases hr
  | ackSet | ackTest | ackTid | ackEvent | ackSend | recvStart | recvArgs | recvNull | recvStore
  | recvSize | recvTest | recvTid | recvEvent | recvSend => exact .inr ⟨_, hr⟩
  | _ =>
    rename_i hs
    cases hr
    first
    | exact .inr ⟨_, hs⟩
    | exact .inr ⟨_, ‹s.req = _›⟩

/-! ## §2 The wake-up comes from the ACK -/

namespace OneWay

variable {ρ : Type} {M : Medium ρ} {x x' : OneWay ρ} {a : OneWayAct}

/-- The call in progress waits for an event that is not among the events `p`
that are pending for its task anyway. -/
def Fresh (p : Pending) (l : LinkState) : Prop :=
  ∀ tid c pc, l.req = .running tid c pc → hasEvent (p tid) c.event = false

/-- Of the events the link sends, at most the one that reports the present
ACK is pending. -/
structure Heard (p : Pending) (x : OneWay ρ) : Prop where
  fresh : Fresh p x.link
  pending : ∀ id, x.link.pending id = p id ∨ ∃ tid c rc,
    x.link.req = .running tid c (.waitAck rc) ∧ id = tid ∧
      x.link.pending id = p id ||| c.event ∧ x.link.rctx.txAcked = true
  tested : ∀ tid c rc events, x.link.req = .running tid c (.checkAck rc events) →
    x.link.rctx.txAcked = true
  holds : ∀ tid c, x.link.req ≠ .running tid c .assertFailed
  /-- `link_ack` is for the task that waits. -/
  handler : x.ack = .inLinkAck → (∃ tid c rc, x.link.req = .running tid c (.waitAck rc)) ∧
    (x.link.ack ≠ .idle → x.link.rctx.txAcked = true) ∧ WillSend x

variable {p : Pending}

theorem heard_start (r : ρ) (heap : LinkRequestCtx) : Heard p (start r heap p) where
  fresh _ _ _ h := by cases h
  pending _ := .inl rfl
  tested _ _ _ _ h := by cases h
  holds _ _ h := by cases h
  handler h := by cases h

/-- Where nobody waits, nothing of the link's is pending. -/
theorem Heard.pending_eq (hh : Heard p x)
    (hreq : ∀ tid c rc, x.link.req ≠ .running tid c (.waitAck rc)) (id : RtemsId) :
    x.link.pending id = p id := by
  rcases hh.pending id with h | ⟨tid, c, rc, h, -⟩
  · exact h
  · exact absurd h (hreq tid c rc)

/-- An event that is not pending and sent is what a receive clears. -/
theorem clear_or_event {set ev : EventSet} (h : hasEvent set ev = false) :
    (set ||| ev) &&& ~~~ev = set := by
  have hand : set &&& ev = 0#32 := by simpa [hasEvent] using h
  ext i hi
  have hbit : (set &&& ev)[i] = (0#32)[i] := by rw [hand]
  simp only [BitVec.getElem_and, BitVec.getElem_zero] at hbit
  simp only [BitVec.getElem_and, BitVec.getElem_or, BitVec.getElem_not]
  revert hbit
  cases set[i] <;> cases ev[i] <;> simp

/-- A step of the sender after which nothing of the link's is pending. -/
theorem Heard.send (hpoll : x.ack = .poll) (hx : x'.ack = x.ack)
    (hfresh : Fresh p x'.link) (hpend : ∀ id, x'.link.pending id = p id)
    (htested : ∀ tid c rc events, x'.link.req = .running tid c (.checkAck rc events) →
      x'.link.rctx.txAcked = true)
    (hholds : ∀ tid c, x'.link.req ≠ .running tid c .assertFailed) : Heard p x' where
  fresh := hfresh
  pending id := .inl (hpend id)
  tested := htested
  holds := hholds
  handler h := by
    rw [hx, hpoll] at h
    cases h

/-- A statement of the sender before its receive. -/
theorem Heard.go (hh : Heard p x) (hpoll : x.ack = .poll) (hx : x'.ack = x.ack) {tid : TaskId}
    {c : Call} {pc pc' : Pc} (hr : x.link.req = .running tid c pc)
    (hpc : ∀ rc, pc ≠ .waitAck rc) (hr' : x'.link.req = .running tid c pc')
    (hpc' : pc' ≠ .assertFailed ∧ ∀ rc events, pc' ≠ .checkAck rc events)
    (hpend : x'.link.pending = x.link.pending) : Heard p x' := by
  refine .send hpoll hx (fun tid' c' pc'' h => ?_) (fun id => ?_) (fun tid' c' rc ev h => ?_)
    (fun tid' c' h => ?_)
  · rw [hr'] at h
    cases h
    exact hh.fresh _ _ _ hr
  · rw [hpend]
    refine hh.pending_eq (fun tid' c' rc h => ?_) id
    rw [hr] at h
    cases h
    exact hpc rc rfl
  · rw [hr'] at h
    cases h
    exact absurd rfl (hpc'.2 rc ev)
  · rw [hr'] at h
    cases h
    exact hpc'.1 rfl

/-- A step that is neither the sender's nor the ACK handler's. -/
theorem Heard.frame (hh : Heard p x) (hl : x'.link = x.link) (hack : x'.ack = x.ack) :
    Heard p x' where
  fresh := by rw [hl]; exact hh.fresh
  pending := by rw [hl]; exact hh.pending
  tested := by rw [hl]; exact hh.tested
  holds := by rw [hl]; exact hh.holds
  handler := by unfold WillSend; rw [hl, hack]; exact hh.handler

/-- A receive that returns reports the ACK and clears its event. -/
theorem Heard.wake (hi : AtomicInv M x) (hh : Heard p x) {tid : TaskId} {c : Call} {rc : Nat}
    (hr : x.link.req = .running tid c (.waitAck rc)) (he : x.link.notified = true) :
    x.link.rctx.txAcked = true ∧
      ∀ id, eventClear x.link.pending tid x.link.rctx.eventWait id = p id := by
  have hev : x.link.rctx.eventWait = c.event :=
    (hi.patient.base.link _ _ _ hr).eventWait (by simp [Pc.rank])
  rw [hi.patient.base.link.notified_eq hr (by simp [Pc.rank]), hev] at he
  have hfresh := hh.fresh _ _ _ hr
  have hsent : x.link.pending tid = p tid ||| c.event ∧ x.link.rctx.txAcked = true := by
    rcases hh.pending tid with h | ⟨tid', c', rc', hr', hid, hp, hk⟩
    · rw [h, hfresh] at he
      cases he
    · rw [hr] at hr'
      cases hr'
      exact ⟨hp, hk⟩
  refine ⟨hsent.2, fun id => ?_⟩
  rw [hev]
  by_cases hid : id = tid
  · rw [hid, eventClear_self, hsent.1, clear_or_event hfresh]
  · rw [eventClear, Function.update_of_ne hid]
    rcases hh.pending id with h | ⟨tid', c', rc', hr', hid', -⟩
    · exact h
    · rw [hr] at hr'
      cases hr'
      exact absurd hid' hid

theorem heard_sender (hi : AtomicInv M x) (hh : Heard p x) (hpoll : x.ack = .poll) {b : Act}
    {l : LinkState} (hf : Fresh p l) (hs : SendStep x.link b l) :
    Heard p { x with link := l, calls := b.addCall x.calls } := by
  cases hs with
  | call hr hc =>
    refine .send hpoll rfl hf (hh.pending_eq fun _ _ _ h => ?_) (fun _ _ _ _ h => by cases h)
      (fun _ _ h => by cases h)
    rw [h] at hr
    cases hr
  | setTid hr => exact hh.go hpoll rfl hr (by simp) rfl (by simp) rfl
  | setEventWait hr => exact hh.go hpoll rfl hr (by simp) rfl (by simp) rfl
  | clearTxAcked hr => exact hh.go hpoll rfl hr (by simp) rfl (by simp) rfl
  | wakeAck hr he =>
    obtain ⟨hk, hp⟩ := hh.wake hi hr he
    exact .send hpoll rfl hf hp (fun _ _ _ _ _ => hk) (fun _ _ h => by cases h)
  | timeoutAck hr ht _ => exact absurd (hi.patient.call _ (by rw [hr]; rfl)).1 ht
  | acked hr _ _ => exact hh.go hpoll rfl hr (by simp) rfl (by simp) rfl
  | assertFailed hr ha =>
    rw [hh.tested _ _ _ _ hr] at ha
    cases ha
  | ackTimedOut hr he =>
    rw [hi.patient.reported _ _ _ _ hr] at he
    cases he
  | clearTid hr =>
    refine .send hpoll rfl (fun _ _ _ h => by cases h) (hh.pending_eq fun _ _ _ h => ?_)
      (fun _ _ _ _ h => by cases h) (fun _ _ h => by cases h)
    rw [hr] at h
    cases h

/-- An ACK indication stands only for a task that waits. -/
theorem Heard.waits (hi : AtomicInv M x) (hh : Heard p x) (hd : AckDue M x) :
    ∃ tid c rc, x.link.req = .running tid c (.waitAck rc) := by
  obtain ⟨⟨c, hpos⟩, hans⟩ := hi.phase.answered hd
  cases hr : x.link.req with
  | idle => rw [hr] at hpos; cases hpos
  | returned => rw [hr] at hpos; cases hpos
  | running tid c' pc =>
    cases pc with
    | waitAck rc => exact ⟨tid, c', rc, rfl⟩
    | checkAck rc events => exact absurd hd (hans.acked (hh.tested _ _ _ _ hr))
    | assertFailed => exact absurd hr (hh.holds _ _)
    | _ => rw [hr] at hpos; cases hpos

theorem heard_step (hi : AtomicInv M x) (hh : Heard p x) (ht : HandlerAtomic x a)
    (hf : Fresh p x'.link) (h : oneWayStep M x a = some x') : Heard p x' := by
  have hpoll : a.ofTask = true → x.ack = .poll := by
    intro ha
    by_contra hne
    rw [ht hne] at ha
    cases ha
  cases oneWayStep_moved hi.patient.base h with
  | sender hs => exact heard_sender hi hh (hpoll rfl) hf hs
  | setNew hr _ _ => exact hh.go (hpoll rfl) rfl hr (by simp) rfl (by simp) rfl
  | setNewEmpty hr _ hz => exact absurd hz (hi.patient.call _ (by rw [hr]; rfl)).2
  | ackPoll ha hb =>
    have hwaits := hh.waits hi (.inl ⟨ha, hb⟩)
    have hidle := hi.alive.idle (by rw [ha]; simp)
    exact ⟨hh.fresh, hh.pending, hh.tested, hh.holds,
      fun _ => ⟨hwaits, fun hne => absurd hidle hne, rfl, by rw [hidle]; trivial⟩⟩
  | ackEnter ha _ =>
    refine ⟨hh.fresh, fun id => (hh.pending id).imp_right ?_, fun _ _ _ _ _ => rfl, hh.holds,
      fun _ => ⟨(hh.handler ha).1, fun _ => rfl, rfl, trivial⟩⟩
    rintro ⟨tid, c, rc, hr, hid, hp, -⟩
    exact ⟨tid, c, rc, hr, hid, hp, rfl⟩
  | ackTest ha hl _ =>
    exact ⟨hh.fresh, hh.pending, hh.tested, hh.holds, fun _ =>
      ⟨(hh.handler ha).1, fun _ => (hh.handler ha).2.1 (by rw [hl]; simp), rfl, trivial⟩⟩
  | ackNobody ha _ _ => exact ⟨hh.fresh, hh.pending, hh.tested, hh.holds, (fun h => by cases h)⟩
  | ackTid ha hl =>
    exact ⟨hh.fresh, hh.pending, hh.tested, hh.holds, fun _ =>
      ⟨(hh.handler ha).1, fun _ => (hh.handler ha).2.1 (by rw [hl]; simp), rfl, rfl⟩⟩
  | ackEvent ha hl =>
    obtain ⟨hr, hk, -, hto⟩ := hh.handler ha
    rw [hl] at hto
    exact ⟨hh.fresh, hh.pending, hh.tested, hh.holds, fun _ =>
      ⟨hr, fun _ => hk (by rw [hl]; simp), rfl, hto, rfl⟩⟩
  | @ackSend id ev ha hl =>
    obtain ⟨⟨tid, c, rc, hr⟩, hk, -, hto⟩ := hh.handler ha
    have hk := hk (by rw [hl]; simp)
    have hc := hi.patient.base.link _ _ _ hr
    rw [hl, hc.tidRequester (by simp [Pc.rank]), hc.eventWait (by simp [Pc.rank])] at hto
    obtain ⟨rfl, rfl⟩ := hto
    refine ⟨hh.fresh, fun j => ?_, hh.tested, hh.holds, (fun h => by cases h)⟩
    change eventSend x.link.pending tid c.event j = p j ∨ _
    by_cases hj : j = tid
    · refine .inr ⟨tid, c, rc, hr, hj, ?_, hk⟩
      show eventSend x.link.pending tid c.event j = _
      rw [hj, eventSend_self]
      rcases hh.pending tid with h | ⟨tid', c', rc', hr', -, h, -⟩
      · rw [h]
      · rw [hr] at hr'
        cases hr'
        rw [h, BitVec.or_assoc, BitVec.or_self]
    · left
      rw [eventSend, Function.update_of_ne hj]
      rcases hh.pending j with h | ⟨tid', c', rc', hr', hj', -⟩
      · exact h
      · rw [hr] at hr'
        cases hr'
        exact absurd hj' hj
  | clearAck ha => exact ⟨hh.fresh, hh.pending, hh.tested, hh.holds, (fun h => by cases h)⟩
  | _ => exact hh.frame rfl rfl

/-! ## §3 The result -/

/-- A call is to return the number of bytes it sends. -/
def Sized (x : OneWay ρ) : Prop :=
  match x.link.req with
  | .running _ c (.waitAck rc) | .running _ c (.checkAck rc _) => rc = c.sz
  | .running _ c (.clearTid rc) | .returned c rc => rc = c.sz
  | _ => True

theorem sized_step (hi : PatientInv x) (hs : x.Sized) (h : oneWayStep M x a = some x') :
    x'.Sized := by
  unfold Sized at hs ⊢
  cases oneWayStep_moved hi.base h with
  | sender hk =>
    cases hk with
    | call hr _ | setTid hr | setEventWait hr | clearTxAcked hr | assertFailed hr _ => trivial
    | timeoutAck hr ht _ => exact absurd (hi.call _ (by rw [hr]; rfl)).1 ht
    | ackTimedOut hr he =>
      rw [hi.reported _ _ _ _ hr] at he
      cases he
    | wakeAck hr _ | clearTid hr =>
      rw [hr] at hs
      exact hs
    | acked hr _ _ =>
      rw [hr] at hs
      exact congrArg Int.ofNat hs
  | setNew hr _ _ => rfl
  | setNewEmpty hr _ hz => exact absurd hz (hi.call _ (by rw [hr]; rfl)).2
  | _ => exact hs

/-! ## §4 Every step is one of those left -/

/-- The steps left at the accessor level. -/
def work (M : Medium ρ) (x : OneWay ρ) : Nat :=
  linkWork x.link (M.isNew x.medium) (M.isAck x.medium) x.copied x.ack x.recv

/-- A new message is eleven steps for the receiver and the handler. -/
theorem work_isNew (r : RecvTask) (b : Bool) : r.work true ≤ r.work b + 11 := by
  cases r <;> cases b <;> simp [RecvTask.work]

theorem work_isAck (k : AckTask) (pc : AckPc) (b : Bool) : k.work true pc ≤ k.work b pc + 7 := by
  cases k <;> cases b <;> simp [AckTask.work]

/-- The sender is not between the two accessors of `link->write`. -/
theorem Base.not_copied_of_send {b : Act} {l : LinkState} (hb : x.Base)
    (hs : SendStep x.link b l) : x.copied = false := by
  by_contra hne
  obtain ⟨tid, c, hw⟩ := hb.copied (by simpa using hne)
  cases hs with
  | call hr hc =>
    rw [hw] at hr
    cases hr
  | setTid hr | setEventWait hr | clearTxAcked hr | wakeAck hr _ | timeoutAck hr _ _
  | acked hr _ _ | assertFailed hr _ | ackTimedOut hr _ | clearTid hr =>
    rw [hw] at hr
    cases hr

/-- **Every step but a call is one of those left.** -/
theorem work_step (hb : x.Base) (hcall : a.call? = none) (h : oneWayStep M x a = some x') :
    work M x' < work M x := by
  unfold work linkWork
  cases oneWayStep_moved hb h with
  | @sender b l hs =>
    obtain ⟨hlt, hack⟩ := work_sendStep hs (fun tid c he => by subst he; cases hcall) x.copied
    simp only [hack, hb.not_copied_of_send hs] at hlt ⊢
    omega
  | copy hr hc _ =>
    simp only [hr, hc, Requester.work, M.isNew_write ‹_›, M.isAck_write ‹_›]
    simp
  | setNew hr hc _ =>
    have hrecv := work_isNew x.recv (M.isNew x.medium)
    simp only [hr, hc, Requester.work, M.isNew_setNew, M.isAck_setNew, LinkState.goto_req,
      LinkState.goto_ack, if_true]
    omega
  | setNewEmpty hr hc _ =>
    have hrecv := work_isNew x.recv (M.isNew x.medium)
    simp only [hr, hc, Requester.work, M.isNew_setNew, M.isAck_setNew, LinkState.goto_req,
      LinkState.goto_ack, if_true]
    omega
  | ackPoll ha hbit =>
    have hle : AckTask.inLinkAck.work (M.isAck x.medium) x.link.ack ≤ 6 := by
      cases x.link.ack <;> simp [AckTask.work]
    simp only [ha, hbit] at hle ⊢
    simp only [AckTask.work, if_true] at hle ⊢
    omega
  | ackEnter ha hl => simp [ha, hl, AckTask.work]
  | ackTest ha hl _ => simp [ha, hl, AckTask.work]
  | ackNobody ha hl _ => simp [ha, hl, AckTask.work]
  | ackTid ha hl => simp [ha, hl, AckTask.work]
  | ackEvent ha hl => simp [ha, hl, AckTask.work]
  | ackSend ha hl => simp [ha, hl, AckTask.work]
  | clearAck ha => simp [ha, AckTask.work]
  | recvPoll hr hbit => simp [hr, hbit, RecvTask.work]
  | read hr => simp [hr, RecvTask.work]
  | clearNew hr => simp [hr, RecvTask.work]
  | setAck hr =>
    have hack := work_isAck x.ack x.link.ack (M.isAck x.medium)
    simp only [hr, RecvTask.work, M.isNew_setAck, M.isAck_setAck]
    omega

/-! ## §5 Nothing left to do -/

/-- Where the sender, the ACK handler and the receiver have no step left,
the call has returned. -/
theorem Heard.returned (hi : AtomicInv M x) (hh : Heard p x) (hack : x.ack = .poll)
    (hrecv : x.recv = .poll) (hnew : M.isNew x.medium = false)
    (hbit : M.isAck x.medium = false) (hwrite : ∀ tid c, x.link.req ≠ .running tid c .write)
    (hrun : step x.link .run = none) (hwake : step x.link .wake = none) :
    x.link.req.isRunning = false := by
  cases hr : x.link.req with
  | idle => rfl
  | returned c rc => rfl
  | running tid c pc =>
    exfalso
    have hc := hi.patient.base.link _ _ _ hr
    have hsend := hi.patient.base.sends c (by rw [hr]; rfl)
    have hno : ¬ (pc.rank < 3 ∨ pc.inReply = true) := fun hk => by
      rw [hc.isRequest hk] at hsend
      cases hsend
    simp only [step, hr] at hrun hwake
    cases pc with
    | setReplySzRead | setReply | setReplySz => exact hno (.inl (by simp [Pc.rank]))
    | waitReply | checkReply events => exact hno (.inr rfl)
    | setTid | setEventWait | clearTxAcked | clearTid rc => cases hrun
    | write => exact hwrite _ _ hr
    | assertFailed => exact hh.holds _ _ hr
    | checkAck rc events =>
      simp only [LinkState.runStep] at hrun
      split at hrun
      · split at hrun <;> cases hrun
      · cases hrun
    | waitAck rc =>
      -- a sender that waits without a wake-up event finds a bit set
      have hn : x.link.notified = false := by
        rw [hi.patient.base.link.notified_eq hr (by simp [Pc.rank])]
        by_contra hne
        rw [if_pos (by simpa using hne)] at hwake
        cases hwake
      have hlost := hi.alive.notLost ⟨by rw [hr]; rfl, hn⟩ hack hrecv
      rw [hnew, hbit] at hlost
      simp at hlost

/-- What the return of a send rests on. -/
structure ReturnInv (M : Medium ρ) (p : Pending) (x : OneWay ρ) : Prop where
  atomic : AtomicInv M x
  heard : Heard p x
  sized : x.Sized

theorem returnInv_start {r : ρ} (heap : LinkRequestCtx) (p : Pending) (hnew : M.isNew r = false)
    (hack : M.isAck r = false) : ReturnInv M p (start r heap p) :=
  ⟨atomicInv_start heap p hnew hack, heard_start r heap, trivial⟩

theorem returnInv_step (hi : ReturnInv M p x) (hg : PatientNonempty x a) (ht : HandlerAtomic x a)
    (hf : Fresh p x'.link) (h : oneWayStep M x a = some x') : ReturnInv M p x' where
  atomic := atomicInv_step hi.atomic hg ht h
  heard := heard_step hi.atomic hi.heard ht hf h
  sized := sized_step hi.atomic.patient hi.sized h

/-- The event of a call just made is not pending otherwise if it was not
when the call was made. -/
theorem Heard.fresh_call (hh : Heard p x) {tid : TaskId} {c : Call}
    (hr : x.link.req.isRunning = false) (hf : hasEvent (x.link.pending tid) c.event = false) :
    hasEvent (p tid) c.event = false := by
  rwa [hh.pending_eq fun _ _ _ h => ?_] at hf
  rw [h] at hr
  cases hr

end OneWay

end HpscRtems.Link
