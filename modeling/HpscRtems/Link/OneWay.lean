/-
HpscRtems.Link.OneWay — sends over one direction of a link.

One task sends with `link_request_send`; the ACK handler (`link_shmem_ack`
in the ACK poll task, `link_mbox_ack` in the ISR) and the receiver
(`link_shmem_read` or `link_mbox_read`) run at any time in between. Each
accessor of the medium is one step, and so is each statement of `link.c`;
an ISR that is atomic for its own CPU takes fewer interleavings than these.

`calls`, `slot` and `reads` are not in the program: the calls made so far,
which of them the data in the medium come from, and what the receiver has
read, with the call it came from.
-/
import HpscRtems.Link.Medium
import HpscRtems.Link.RequestTheorems

namespace HpscRtems.Link

open Machine Rtems

/-! ## §1 State -/

/-- The ACK handler: waiting for the indication, inside `link_ack`, or about
to clear the indication. -/
inductive AckTask where
  | poll
  | inLinkAck
  | clearAck
  deriving DecidableEq

/-- The receiver: waiting for the indication, or before the accessor that
comes next in `link->read`. -/
inductive RecvTask where
  | poll
  | read
  | clearNew
  | setAck
  deriving DecidableEq

structure OneWay (ρ : Type) where
  link : LinkState
  medium : ρ
  /-- The sender is inside `link->write`, between its two accessors. -/
  copied : Bool
  ack : AckTask
  recv : RecvTask
  calls : List Call
  slot : Nat
  reads : List (Nat × Msg)

/-- A link just connected, over a medium in state `r`. -/
def OneWay.start {ρ : Type} (r : ρ) (heap : LinkRequestCtx) (p : Pending) : OneWay ρ :=
  ⟨.connected heap p, r, false, .poll, .poll, [], 0, []⟩

/-! ## §2 Steps -/

inductive OneWayAct where
  /-- The sending task calls `link_request_send`, or goes on outside
  `link->write`. -/
  | sender (a : Act)
  /-- `link->write`: the data. -/
  | copy
  /-- `link->write`: the indication. -/
  | setNew
  /-- The ACK handler sees the indication. -/
  | ackPoll
  /-- The ACK handler goes on inside `link_ack`. -/
  | linkAck
  | clearAck
  /-- The receiver sees the indication. -/
  | recvPoll
  /-- `link->read`: the data. -/
  | read
  | clearNew
  | setAck
  deriving DecidableEq

/-- The call the action begins. -/
def OneWayAct.call? : OneWayAct → Option Call
  | .sender (.call _ c) => some c
  | _ => none

/-- What the sending task does outside `link->write`. -/
def Act.ofSender : Act → Bool
  | .call _ c => !c.isRequest
  | .run => true
  | .wake => true
  | .timeout => true
  | _ => false

/-- The calls after the action. -/
def Act.addCall (a : Act) (calls : List Call) : List Call :=
  match a with
  | .call _ c => calls ++ [c]
  | _ => calls

variable {ρ : Type}

/-- One step of the system over the medium `M`. -/
def oneWayStep (M : Medium ρ) (x : OneWay ρ) : OneWayAct → Option (OneWay ρ)
  | .sender a =>
    if a.ofSender then
      (step x.link a).map fun l => { x with link := l, calls := a.addCall x.calls }
    else none
  | .copy =>
    match x.link.req, x.copied with
    | .running _ c .write, false =>
      (M.write x.medium (bufMem c.buf) c.sz).map fun r =>
        { x with medium := r, copied := true, slot := x.calls.length }
    | _, _ => none
  | .setNew =>
    match x.link.req, x.copied with
    | .running _ c .write, true =>
      (step x.link (.write c.sz)).map fun l =>
        { x with link := l, medium := M.setNew x.medium true, copied := false }
    | _, _ => none
  | .ackPoll =>
    if x.ack = .poll ∧ M.isAck x.medium = true then some { x with ack := .inLinkAck } else none
  | .linkAck =>
    if x.ack = .inLinkAck then
      some { x with
        link := x.link.linkAck
        ack := if x.link.linkAck.ack = .idle then .clearAck else .inLinkAck }
    else none
  | .clearAck =>
    if x.ack = .clearAck then some { x with medium := M.setAck x.medium false, ack := .poll }
    else none
  | .recvPoll =>
    if x.recv = .poll ∧ M.isNew x.medium = true then some { x with recv := .read } else none
  | .read =>
    if x.recv = .read then
      some { x with reads := x.reads ++ [(x.slot, M.read x.medium)], recv := .clearNew }
    else none
  | .clearNew =>
    if x.recv = .clearNew then some { x with medium := M.setNew x.medium false, recv := .setAck }
    else none
  | .setAck =>
    if x.recv = .setAck then some { x with medium := M.setAck x.medium true, recv := .poll }
    else none

/-! ## §3 A task that only sends -/

/-- The call of the requester. -/
def Requester.call? : Requester → Option Call
  | .idle => none
  | .running _ c _ => some c
  | .returned c _ => some c

/-- The steps of `link_request_send` outside `link->write`. -/
inductive SendStep (s : LinkState) : Act → LinkState → Prop
  | call {tid c} (h : s.req.isRunning = false) (hc : c.isRequest = false) :
      SendStep s (.call tid c) (s.goto tid c .setTid)
  | setTid {tid c} (h : s.req = .running tid c .setTid) :
      SendStep s .run (({ s with rctx.tidRequester := tid }).goto tid c .setEventWait)
  | setEventWait {tid c} (h : s.req = .running tid c .setEventWait) :
      SendStep s .run (({ s with rctx.eventWait := c.event }).goto tid c .clearTxAcked)
  | clearTxAcked {tid c} (h : s.req = .running tid c .clearTxAcked) :
      SendStep s .run (({ s with rctx.txAcked := false }).goto tid c .write)
  | wakeAck {tid c rc} (h : s.req = .running tid c (.waitAck rc)) (he : s.notified = true) :
      SendStep s .wake (({ s with pending := eventClear s.pending tid s.rctx.eventWait }).goto tid c
        (.checkAck rc (s.events tid)))
  | timeoutAck {tid c rc} (h : s.req = .running tid c (.waitAck rc)) (ht : c.ticks ≠ noTimeout)
      (he : s.notified = false) : SendStep s .timeout (s.goto tid c (.checkAck rc 0))
  | acked {tid c rc events} (h : s.req = .running tid c (.checkAck rc events))
      (he : hasEvent events s.rctx.eventWait = true) (ha : s.rctx.txAcked = true) :
      SendStep s .run (s.goto tid c (.clearTid rc))
  | assertFailed {tid c rc events} (h : s.req = .running tid c (.checkAck rc events))
      (ha : s.rctx.txAcked = false) : SendStep s .run (s.goto tid c .assertFailed)
  | ackTimedOut {tid c rc events} (h : s.req = .running tid c (.checkAck rc events))
      (he : hasEvent events s.rctx.eventWait = false) :
      SendStep s .run (s.goto tid c (.clearTid 0))
  | clearTid {tid c rc} (h : s.req = .running tid c (.clearTid rc)) :
      SendStep s .run { s with rctx.tidRequester := idNone, req := .returned c rc }

/-- The sender leaves `link_ack` alone. -/
theorem SendStep.ack {s l : LinkState} {a : Act} (hs : SendStep s a l) : l.ack = s.ack := by
  cases hs <;> rfl

theorem sendReturns_of_send (s : LinkState) (tid : TaskId) {c : Call} (rc : Nat)
    (hc : c.isRequest = false) : s.sendReturns tid c rc = s.goto tid c (.clearTid rc) := by
  simp [LinkState.sendReturns, hc]

/-- Where no `link_request` is in progress, these are all the steps. -/
theorem sendStep_of_stepped {s l : LinkState} {a : Act} (hi : LinkInv s)
    (hc : ∀ c, s.req.call? = some c → c.isRequest = false) (ha : a.ofSender = true)
    (hs : Stepped s a l) : SendStep s a l := by
  have hcall : ∀ {tid c pc}, s.req = .running tid c pc → c.isRequest = false := fun hr =>
    hc _ (by rw [hr]; rfl)
  have hno : ∀ {tid c pc}, s.req = .running tid c pc → pc.rank < 3 ∨ pc.inReply = true → False := by
    intro tid c pc hr hk
    have h := hcall hr
    rw [(hi _ _ _ hr).isRequest hk] at h
    cases h
  cases hs with
  | call tid c h =>
    have hc' : c.isRequest = false := by simpa [Act.ofSender] using ha
    simp only [hc', Bool.false_eq_true, if_false]
    exact .call h hc'
  | setReplySzRead hr => exact (hno hr (by simp [Pc.rank])).elim
  | setReply hr => exact (hno hr (by simp [Pc.rank])).elim
  | setReplySz hr => exact (hno hr (by simp [Pc.rank])).elim
  | setTid hr => exact .setTid hr
  | setEventWait hr => exact .setEventWait hr
  | clearTxAcked hr => exact .clearTxAcked hr
  | wakeAck hr he => exact .wakeAck hr (by rwa [hi.notified_eq hr (by simp [Pc.rank])])
  | timeoutAck hr ht he =>
    exact .timeoutAck hr ht (by rwa [hi.notified_eq hr (by simp [Pc.rank])])
  | acked hr he hk =>
    rw [sendReturns_of_send s _ _ (hcall hr)]
    exact .acked hr he hk
  | assertFailed hr _ hk => exact .assertFailed hr hk
  | ackTimedOut hr he =>
    rw [sendReturns_of_send s _ _ (hcall hr)]
    exact .ackTimedOut hr he
  | wakeReply hr _ => exact (hno hr (by simp [Pc.inReply])).elim
  | timeoutReply hr _ _ => exact (hno hr (by simp [Pc.inReply])).elim
  | replied hr _ => exact (hno hr (by simp [Pc.inReply])).elim
  | replyTimedOut hr _ => exact (hno hr (by simp [Pc.inReply])).elim
  | clearTid hr => exact .clearTid hr
  | _ => cases ha

/-! ## §4 Inversion -/

/-- What the system keeps from the start, whatever happens. -/
structure OneWay.Base (x : OneWay ρ) : Prop where
  link : LinkInv x.link
  sends : ∀ c, x.link.req.call? = some c → c.isRequest = false
  copied : x.copied = true → ∃ tid c, x.link.req = .running tid c .write
  last : ∀ c, x.link.req.call? = some c → ∃ pre, x.calls = pre ++ [c]

/-- The steps of the system, by what is executed. -/
inductive Moved (M : Medium ρ) (x : OneWay ρ) : OneWayAct → OneWay ρ → Prop
  | sender {a l} (hs : SendStep x.link a l) :
      Moved M x (.sender a) { x with link := l, calls := a.addCall x.calls }
  | copy {tid c r} (hr : x.link.req = .running tid c .write) (hc : x.copied = false)
      (hw : M.write x.medium (bufMem c.buf) c.sz = some r) :
      Moved M x .copy { x with medium := r, copied := true, slot := x.calls.length }
  | setNew {tid c} (hr : x.link.req = .running tid c .write) (hc : x.copied = true)
      (hz : c.sz ≠ 0) :
      Moved M x .setNew { x with
        link := x.link.goto tid c (.waitAck c.sz)
        medium := M.setNew x.medium true
        copied := false }
  | setNewEmpty {tid c} (hr : x.link.req = .running tid c .write) (hc : x.copied = true)
      (hz : c.sz = 0) :
      Moved M x .setNew { x with
        link := x.link.goto tid c (.clearTid 0), medium := M.setNew x.medium true, copied := false }
  | ackPoll (ha : x.ack = .poll) (hb : M.isAck x.medium = true) :
      Moved M x .ackPoll { x with ack := .inLinkAck }
  | ackEnter (ha : x.ack = .inLinkAck) (hl : x.link.ack = .idle) :
      Moved M x .linkAck
        { x with link := { x.link with rctx.txAcked := true, ack := .test }, ack := .inLinkAck }
  | ackTest (ha : x.ack = .inLinkAck) (hl : x.link.ack = .test)
      (ht : x.link.rctx.tidRequester ≠ idNone) :
      Moved M x .linkAck { x with link := { x.link with ack := .send }, ack := .inLinkAck }
  | ackNobody (ha : x.ack = .inLinkAck) (hl : x.link.ack = .test)
      (ht : x.link.rctx.tidRequester = idNone) :
      Moved M x .linkAck { x with link := { x.link with ack := .idle }, ack := .clearAck }
  | ackTid (ha : x.ack = .inLinkAck) (hl : x.link.ack = .send) :
      Moved M x .linkAck { x with
        link := { x.link with ack := .sendTo x.link.rctx.tidRequester }, ack := .inLinkAck }
  | ackEvent {id} (ha : x.ack = .inLinkAck) (hl : x.link.ack = .sendTo id) :
      Moved M x .linkAck { x with
        link := { x.link with ack := .post id x.link.rctx.eventWait }, ack := .inLinkAck }
  | ackSend {id ev} (ha : x.ack = .inLinkAck) (hl : x.link.ack = .post id ev) :
      Moved M x .linkAck { x with
        link := { x.link.post id ev with ack := .idle }, ack := .clearAck }
  | clearAck (ha : x.ack = .clearAck) :
      Moved M x .clearAck { x with medium := M.setAck x.medium false, ack := .poll }
  | recvPoll (hr : x.recv = .poll) (hb : M.isNew x.medium = true) :
      Moved M x .recvPoll { x with recv := .read }
  | read (hr : x.recv = .read) :
      Moved M x .read
        { x with reads := x.reads ++ [(x.slot, M.read x.medium)], recv := .clearNew }
  | clearNew (hr : x.recv = .clearNew) :
      Moved M x .clearNew { x with medium := M.setNew x.medium false, recv := .setAck }
  | setAck (hr : x.recv = .setAck) :
      Moved M x .setAck { x with medium := M.setAck x.medium true, recv := .poll }

/-- **Inversion.** Every step of the system is one of the listed ones. -/
theorem oneWayStep_moved {M : Medium ρ} {x x' : OneWay ρ} {a : OneWayAct} (hb : x.Base)
    (h : oneWayStep M x a = some x') : Moved M x a x' := by
  cases a with
  | sender a =>
    simp only [oneWayStep] at h
    split at h
    · obtain ⟨l, hl, rfl⟩ := Option.map_eq_some_iff.mp h
      exact .sender (sendStep_of_stepped hb.link hb.sends ‹_› (step_stepped hl))
    · cases h
  | copy =>
    simp only [oneWayStep] at h
    split at h
    · obtain ⟨r, hw, rfl⟩ := Option.map_eq_some_iff.mp h
      exact .copy ‹_› ‹_› hw
    · cases h
  | setNew =>
    simp only [oneWayStep] at h
    split at h
    · rename_i tid c hr hc
      have hsend : c.isRequest = false := hb.sends c (by rw [hr]; rfl)
      obtain ⟨l, hl, rfl⟩ := Option.map_eq_some_iff.mp h
      simp only [step, hr] at hl
      by_cases hz : c.sz = 0
      · rw [if_pos hz, sendReturns_of_send _ _ _ hsend, Option.some.injEq] at hl
        subst hl
        exact .setNewEmpty hr hc hz
      · rw [if_neg hz, Option.some.injEq] at hl
        subst hl
        exact .setNew hr hc hz
    · cases h
  | linkAck =>
    simp only [oneWayStep] at h
    split at h
    · rename_i ha
      simp only [LinkState.linkAck] at h
      cases hl : x.link.ack with
      | idle =>
        simp only [hl, Option.some.injEq] at h
        subst h
        exact .ackEnter ha hl
      | test =>
        by_cases ht : x.link.rctx.tidRequester = idNone
        · simp only [hl, ht, Option.some.injEq] at h
          subst h
          exact .ackNobody ha hl ht
        · simp only [hl, ne_eq, ht, not_false_eq_true, if_true, reduceCtorEq, if_false,
            Option.some.injEq] at h
          subst h
          exact .ackTest ha hl ht
      | send =>
        simp only [hl, reduceCtorEq, if_false, Option.some.injEq] at h
        subst h
        exact .ackTid ha hl
      | sendTo id =>
        simp only [hl, reduceCtorEq, if_false, Option.some.injEq] at h
        subst h
        exact .ackEvent ha hl
      | post id ev =>
        simp only [hl, Option.some.injEq] at h
        subst h
        exact .ackSend ha hl
    · cases h
  | ackPoll =>
    simp only [oneWayStep] at h
    split at h <;> cases h
    exact .ackPoll (And.left ‹_›) (And.right ‹_›)
  | clearAck =>
    simp only [oneWayStep] at h
    split at h <;> cases h
    exact .clearAck ‹_›
  | recvPoll =>
    simp only [oneWayStep] at h
    split at h <;> cases h
    exact .recvPoll (And.left ‹_›) (And.right ‹_›)
  | read =>
    simp only [oneWayStep] at h
    split at h <;> cases h
    exact .read ‹_›
  | clearNew =>
    simp only [oneWayStep] at h
    split at h <;> cases h
    exact .clearNew ‹_›
  | setAck =>
    simp only [oneWayStep] at h
    split at h <;> cases h
    exact .setAck ‹_›

theorem OneWay.base_start (r : ρ) (heap : LinkRequestCtx) (p : Pending) :
    (OneWay.start r heap p).Base where
  link := linkInv_connected heap p
  sends _ h := by cases h
  copied h := by cases h
  last _ h := by cases h

/-- The link of the system moves as a link does. -/
theorem oneWayStep_link {M : Medium ρ} {x x' : OneWay ρ} {a : OneWayAct}
    (h : oneWayStep M x a = some x') : x'.link = x.link ∨ ∃ a, step x.link a = some x'.link := by
  cases a with
  | sender a =>
    simp only [oneWayStep] at h
    split at h
    · obtain ⟨l, hl, rfl⟩ := Option.map_eq_some_iff.mp h
      exact Or.inr ⟨a, hl⟩
    · cases h
  | copy =>
    simp only [oneWayStep] at h
    split at h
    · obtain ⟨r, _, rfl⟩ := Option.map_eq_some_iff.mp h
      exact Or.inl rfl
    · cases h
  | setNew =>
    simp only [oneWayStep] at h
    split at h
    · obtain ⟨l, hl, rfl⟩ := Option.map_eq_some_iff.mp h
      exact Or.inr ⟨_, hl⟩
    · cases h
  | linkAck =>
    simp only [oneWayStep] at h
    split at h <;> cases h
    exact Or.inr ⟨.ack, rfl⟩
  | _ =>
    simp only [oneWayStep] at h
    split at h <;> cases h
    exact Or.inl rfl

/-- A step within the call, out of `link->write`. -/
theorem OneWay.Base.goto {x x' : OneWay ρ} {c : Call} (hb : x.Base) (hl : LinkInv x'.link)
    (h0 : x.link.req.call? = some c) (h1 : x'.link.req.call? = some c) (hc : x'.calls = x.calls)
    (hcop : x'.copied = false) : x'.Base where
  link := hl
  sends c' h2 := by
    rw [h1] at h2
    cases h2
    exact hb.sends c h0
  copied hk := by
    rw [hcop] at hk
    cases hk
  last c' h2 := by
    rw [h1] at h2
    cases h2
    rw [hc]
    exact hb.last c h0

theorem OneWay.Base.not_copied {x : OneWay ρ} {tid : TaskId} {c : Call} {pc : Pc} (hb : x.Base)
    (hr : x.link.req = .running tid c pc) (hpc : pc ≠ .write) : x.copied = false := by
  by_contra hk
  obtain ⟨tid', c', hw⟩ := hb.copied (by simpa using hk)
  rw [hr] at hw
  cases hw
  exact hpc rfl

theorem OneWay.base_step {M : Medium ρ} {x x' : OneWay ρ} {a : OneWayAct} (hb : x.Base)
    (h : oneWayStep M x a = some x') : x'.Base := by
  have hl : LinkInv x'.link := by
    rcases oneWayStep_link h with he | ⟨b, hs⟩
    · rw [he]
      exact hb.link
    · exact linkInv_step hb.link hs
  have hcop : ∀ {tid c pc}, x.link.req = .running tid c pc → pc ≠ .write → x.copied = false :=
    fun hr hpc => hb.not_copied hr hpc
  cases oneWayStep_moved hb h with
  | sender hs =>
    cases hs with
    | call hr hc =>
      refine ⟨hl, ?_, fun hk => ?_, ?_⟩
      · intro c hk
        cases hk
        exact hc
      · obtain ⟨tid', c', hw⟩ := hb.copied hk
        rw [hw] at hr
        cases hr
      · intro c hk
        cases hk
        exact ⟨_, rfl⟩
    | setTid hr => exact hb.goto hl (by rw [hr]; rfl) rfl rfl (hcop hr (by simp))
    | setEventWait hr => exact hb.goto hl (by rw [hr]; rfl) rfl rfl (hcop hr (by simp))
    | clearTxAcked hr => exact hb.goto hl (by rw [hr]; rfl) rfl rfl (hcop hr (by simp))
    | wakeAck hr _ => exact hb.goto hl (by rw [hr]; rfl) rfl rfl (hcop hr (by simp))
    | timeoutAck hr _ _ => exact hb.goto hl (by rw [hr]; rfl) rfl rfl (hcop hr (by simp))
    | acked hr _ _ => exact hb.goto hl (by rw [hr]; rfl) rfl rfl (hcop hr (by simp))
    | assertFailed hr _ => exact hb.goto hl (by rw [hr]; rfl) rfl rfl (hcop hr (by simp))
    | ackTimedOut hr _ => exact hb.goto hl (by rw [hr]; rfl) rfl rfl (hcop hr (by simp))
    | clearTid hr => exact hb.goto hl (by rw [hr]; rfl) rfl rfl (hcop hr (by simp))
  | copy hr _ _ => exact ⟨hl, hb.sends, fun _ => ⟨_, _, hr⟩, hb.last⟩
  | setNew hr _ _ => exact hb.goto hl (by rw [hr]; rfl) rfl rfl rfl
  | setNewEmpty hr _ _ => exact hb.goto hl (by rw [hr]; rfl) rfl rfl rfl
  | _ => exact ⟨hl, hb.sends, hb.copied, hb.last⟩

/-! ## §5 Where the sender is -/

/-- The call that has ended or is about to, with its result. -/
def Requester.outcome : Requester → Option (Call × Int)
  | .running _ c (.clearTid rc) => some (c, rc)
  | .returned c rc => some (c, rc)
  | _ => none

/-- The call waiting for its ACK, or past the receive and not yet through
with the test. -/
def Requester.awaiting : Requester → Option Call
  | .running _ c (.waitAck _) => some c
  | .running _ c (.checkAck _ _) => some c
  | .running _ c .assertFailed => some c
  | _ => none

/-- The requester is inside `link->write`. -/
def Requester.writing : Requester → Option Call
  | .running _ c .write => some c
  | _ => none

namespace OneWay

/-- The call whose message stands in the medium and waits for its ACK. -/
def sending (x : OneWay ρ) : Option Call :=
  if x.copied then x.link.req.writing else x.link.req.awaiting

/-- `link_ack` is going to be entered. -/
def AckDue (M : Medium ρ) (x : OneWay ρ) : Prop :=
  (x.ack = .poll ∧ M.isAck x.medium = true) ∨ (x.ack = .inLinkAck ∧ x.link.ack = .idle)

instance (M : Medium ρ) (x : OneWay ρ) : Decidable (AckDue M x) :=
  inferInstanceAs (Decidable (_ ∨ _))

/-- The receiver has read a message and not yet set the ACK indication. -/
def HasRead (x : OneWay ρ) : Prop := x.recv = .clearNew ∨ x.recv = .setAck

instance (x : OneWay ρ) : Decidable x.HasRead := inferInstanceAs (Decidable (_ ∨ _))

/-- The message of the present call, made of `c`, has been read from the
copy this call has written. -/
def ReadNow (M : Medium ρ) (x : OneWay ρ) (c : Call) : Prop :=
  (x.calls.length, M.msg (bufMem c.buf) c.sz) ∈ x.reads

end OneWay

end HpscRtems.Link
