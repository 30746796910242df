/-
HpscRtems.Link.RequestTheorems — what one step of a link can do, and what
`rctx` holds at each program point of a call.

`Stepped` lists the steps with their guards and results, one constructor
for each statement of `link.c`, and `step_stepped` is the inversion: every
invariant of the link is a case analysis over it. `LinkInv` says which
fields of `rctx` are the caller's at which point; it holds in every run
from a fresh link.
-/
import HpscRtems.Link.Request

namespace HpscRtems.Link

open Machine Rtems

/-! ## §1 Inversion -/

def Requester.isRunning : Requester → Bool
  | .running .. => true
  | _ => false

/-- The steps of a link, by the statement that is executed. -/
inductive Stepped (s : LinkState) : Act → LinkState → Prop
  | call (tid : TaskId) (c : Call) (h : s.req.isRunning = false) :
      Stepped s (.call tid c) (s.goto tid c (if c.isRequest then .setReplySzRead else .setTid))
  | setReplySzRead {tid c} (h : s.req = .running tid c .setReplySzRead) :
      Stepped s .run (({ s with rctx.replySzRead := 0 }).goto tid c .setReply)
  | setReply {tid c} (h : s.req = .running tid c .setReply) :
      Stepped s .run (({ s with rctx.reply := c.rbuf }).goto tid c .setReplySz)
  | setReplySz {tid c} (h : s.req = .running tid c .setReplySz) :
      Stepped s .run (({ s with rctx.replySz := c.rsz }).goto tid c .setTid)
  | setTid {tid c} (h : s.req = .running tid c .setTid) :
      Stepped s .run (({ s with rctx.tidRequester := tid }).goto tid c .setEventWait)
  | setEventWait {tid c} (h : s.req = .running tid c .setEventWait) :
      Stepped s .run (({ s with rctx.eventWait := c.event }).goto tid c .clearTxAcked)
  | clearTxAcked {tid c} (h : s.req = .running tid c .clearTxAcked) :
      Stepped s .run (({ s with rctx.txAcked := false }).goto tid c .write)
  | writeFailed {tid c} (h : s.req = .running tid c .write) :
      Stepped s (.write 0) (s.sendReturns tid c 0)
  | written {tid c rc} (h : s.req = .running tid c .write) (hrc : rc ≠ 0) :
      Stepped s (.write rc) (s.goto tid c (.waitAck rc))
  | wakeAck {tid c rc} (h : s.req = .running tid c (.waitAck rc))
      (he : hasEvent (s.pending tid) s.rctx.eventWait = true) :
      Stepped s .wake (({ s with pending := eventClear s.pending tid s.rctx.eventWait }).goto tid c
        (.checkAck rc (s.events tid)))
  | timeoutAck {tid c rc} (h : s.req = .running tid c (.waitAck rc)) (ht : c.ticks ≠ noTimeout)
      (he : hasEvent (s.pending tid) s.rctx.eventWait = false) :
      Stepped s .timeout (s.goto tid c (.checkAck rc 0))
  | acked {tid c rc events} (h : s.req = .running tid c (.checkAck rc events))
      (he : hasEvent events s.rctx.eventWait = true) (ha : s.rctx.txAcked = true) :
      Stepped s .run (s.sendReturns tid c rc)
  | assertFailed {tid c rc events} (h : s.req = .running tid c (.checkAck rc events))
      (he : hasEvent events s.rctx.eventWait = true) (ha : s.rctx.txAcked = false) :
      Stepped s .run (s.goto tid c .assertFailed)
  | ackTimedOut {tid c rc events} (h : s.req = .running tid c (.checkAck rc events))
      (he : hasEvent events s.rctx.eventWait = false) :
      Stepped s .run (s.sendReturns tid c 0)
  | wakeReply {tid c} (h : s.req = .running tid c .waitReply)
      (he : hasEvent (s.pending tid) s.rctx.eventWait = true) :
      Stepped s .wake (({ s with pending := eventClear s.pending tid s.rctx.eventWait }).goto tid c
        (.checkReply (s.events tid)))
  | timeoutReply {tid c} (h : s.req = .running tid c .waitReply) (ht : c.rticks ≠ noTimeout)
      (he : hasEvent (s.pending tid) s.rctx.eventWait = false) :
      Stepped s .timeout (s.goto tid c (.checkReply 0))
  | replied {tid c events} (h : s.req = .running tid c (.checkReply events))
      (he : hasEvent events s.rctx.eventWait = true) :
      Stepped s .run (s.goto tid c (.clearTid s.rctx.replySzRead))
  | replyTimedOut {tid c events} (h : s.req = .running tid c (.checkReply events))
      (he : hasEvent events s.rctx.eventWait = false) :
      Stepped s .run (s.goto tid c (.clearTid (-2)))
  | clearTid {tid c rc} (h : s.req = .running tid c (.clearTid rc)) :
      Stepped s .run { s with rctx.tidRequester := idNone, req := .returned c rc }
  | ackSet (h : s.ack = .idle) :
      Stepped s .ack { s with rctx.txAcked := true, ack := .test }
  | ackTest (h : s.ack = .test) :
      Stepped s .ack { s with ack := if s.rctx.tidRequester ≠ idNone then .send else .idle }
  | ackTid (h : s.ack = .send) :
      Stepped s .ack { s with ack := .sendTo s.rctx.tidRequester }
  | ackEvent {id} (h : s.ack = .sendTo id) :
      Stepped s .ack { s with ack := .post id s.rctx.eventWait }
  | ackSend {id ev} (h : s.ack = .post id ev) :
      Stepped s .ack { s.post id ev with ack := .idle }
  | recvStart (n : Nat) (h : s.recv = .idle) :
      Stepped s (.recvReply n) { s with recv := .haveReply s.rctx.reply }
  | recvArgs (n : Nat) {p} (h : s.recv = .haveReply p) :
      Stepped s (.recvReply n) { s with recv := .haveArgs p s.rctx.replySz }
  | recvNull (n : Nat) {sz} (h : s.recv = .haveArgs none sz) :
      Stepped s (.recvReply n) { s with recv := .assertFailed }
  | recvStore (n : Nat) {q sz} (h : s.recv = .haveArgs (some q) sz) :
      Stepped s (.recvReply n) { s with recv := .haveRead n }
  | recvSize (n : Nat) {k} (h : s.recv = .haveRead k) :
      Stepped s (.recvReply n) { s with rctx.replySzRead := k, recv := .test }
  | recvTest (n : Nat) (h : s.recv = .test) :
      Stepped s (.recvReply n)
        { s with recv := if s.rctx.tidRequester ≠ idNone then .send else .idle }
  | recvTid (n : Nat) (h : s.recv = .send) :
      Stepped s (.recvReply n) { s with recv := .sendTo s.rctx.tidRequester }
  | recvEvent (n : Nat) {id} (h : s.recv = .sendTo id) :
      Stepped s (.recvReply n) { s with recv := .post id s.rctx.eventWait }
  | recvSend (n : Nat) {id ev} (h : s.recv = .post id ev) :
      Stepped s (.recvReply n) { s.post id ev with recv := .idle }

theorem linkAck_stepped (s : LinkState) : Stepped s .ack s.linkAck := by
  unfold LinkState.linkAck
  split
  · exact .ackSet ‹_›
  · exact .ackTest ‹_›
  · exact .ackTid ‹_›
  · exact .ackEvent ‹_›
  · exact .ackSend ‹_›

theorem linkRecvReply_stepped {s s' : LinkState} {n : Nat} (h : s.linkRecvReply n = some s') :
    Stepped s (.recvReply n) s' := by
  unfold LinkState.linkRecvReply at h
  split at h <;> cases h
  · exact .recvStart n ‹_›
  · exact .recvArgs n ‹_›
  · exact .recvNull n ‹_›
  · exact .recvStore n ‹_›
  · exact .recvSize n ‹_›
  · exact .recvTest n ‹_›
  · exact .recvTid n ‹_›
  · exact .recvEvent n ‹_›
  · exact .recvSend n ‹_›

theorem runStep_stepped {s s' : LinkState} {tid : TaskId} {c : Call} {pc : Pc}
    (hr : s.req = .running tid c pc) (h : s.runStep tid c pc = some s') : Stepped s .run s' := by
  cases pc with
  | setReplySzRead => cases h; exact .setReplySzRead hr
  | setReply => cases h; exact .setReply hr
  | setReplySz => cases h; exact .setReplySz hr
  | setTid => cases h; exact .setTid hr
  | setEventWait => cases h; exact .setEventWait hr
  | clearTxAcked => cases h; exact .clearTxAcked hr
  | checkAck rc events =>
    simp only [LinkState.runStep] at h
    split at h
    · split at h <;> cases h
      · exact .acked hr ‹_› ‹_›
      · exact .assertFailed hr ‹_› (Bool.eq_false_iff.mpr ‹_›)
    · cases h
      exact .ackTimedOut hr (Bool.eq_false_iff.mpr ‹_›)
  | checkReply events =>
    simp only [LinkState.runStep] at h
    split at h <;> cases h
    · exact .replied hr ‹_›
    · exact .replyTimedOut hr (Bool.eq_false_iff.mpr ‹_›)
  | clearTid rc => cases h; exact .clearTid hr
  | write => cases h
  | waitAck rc => cases h
  | waitReply => cases h
  | assertFailed => cases h

theorem wake_stepped {s s' : LinkState} {tid : TaskId} {c : Call} {pc : Pc}
    (hr : s.req = .running tid c pc) (h : step s .wake = some s') : Stepped s .wake s' := by
  simp only [step, hr] at h
  split at h
  · cases pc with
    | waitAck rc => cases h; exact .wakeAck hr ‹_›
    | waitReply => cases h; exact .wakeReply hr ‹_›
    | _ => cases h
  · cases h

theorem timeout_stepped {s s' : LinkState} {tid : TaskId} {c : Call} {pc : Pc}
    (hr : s.req = .running tid c pc) (h : step s .timeout = some s') : Stepped s .timeout s' := by
  simp only [step, hr] at h
  split at h
  · rename_i hw
    have he := Bool.eq_false_iff.mpr hw.2
    cases pc with
    | waitAck rc => cases h; exact .timeoutAck hr hw.1 he
    | waitReply => cases h; exact .timeoutReply hr hw.1 he
    | _ => cases h
  · cases h

/-- **Inversion.** Every step of a link is one of the listed ones. -/
theorem step_stepped {s s' : LinkState} {a : Act} (h : step s a = some s') : Stepped s a s' := by
  cases a with
  | call tid c =>
    cases hr : s.req with
    | running tid' c' pc' => simp [step, hr] at h
    | idle =>
      simp only [step, hr, Option.some.injEq] at h
      subst h
      exact .call tid c (by simp [hr, Requester.isRunning])
    | returned c' rc' =>
      simp only [step, hr, Option.some.injEq] at h
      subst h
      exact .call tid c (by simp [hr, Requester.isRunning])
  | ack =>
    simp only [step, Option.some.injEq] at h
    subst h
    exact linkAck_stepped s
  | recvReply n =>
    simp only [step] at h
    exact linkRecvReply_stepped h
  | run =>
    cases hr : s.req with
    | running tid c pc =>
      simp only [step, hr] at h
      exact runStep_stepped hr h
    | idle => simp [step, hr] at h
    | returned c rc => simp [step, hr] at h
  | write rc =>
    cases hr : s.req with
    | running tid c pc =>
      cases pc with
      | write =>
        simp only [step, hr] at h
        by_cases hz : rc = 0
        · subst hz
          cases h
          exact .writeFailed hr
        · rw [if_neg hz] at h
          cases h
          exact .written hr hz
      | _ => simp [step, hr] at h
    | idle => simp [step, hr] at h
    | returned c rc => simp [step, hr] at h
  | wake =>
    cases hr : s.req with
    | running tid c pc => exact wake_stepped hr h
    | idle => simp [step, hr] at h
    | returned c rc => simp [step, hr] at h
  | timeout =>
    cases hr : s.req with
    | running tid c pc => exact timeout_stepped hr h
    | idle => simp [step, hr] at h
    | returned c rc => simp [step, hr] at h

/-! ## §2 Simp lemmas -/

namespace LinkState

variable (s : LinkState) (tid : TaskId) (c : Call) (pc : Pc) (rc : Nat) (id : RtemsId)
  (ev : EventSet)

@[simp] theorem goto_req : (s.goto tid c pc).req = .running tid c pc := rfl
@[simp] theorem goto_rctx : (s.goto tid c pc).rctx = s.rctx := rfl
@[simp] theorem goto_pending : (s.goto tid c pc).pending = s.pending := rfl
@[simp] theorem goto_ack : (s.goto tid c pc).ack = s.ack := rfl
@[simp] theorem goto_recv : (s.goto tid c pc).recv = s.recv := rfl

@[simp] theorem post_req : (s.post id ev).req = s.req := rfl
@[simp] theorem post_rctx : (s.post id ev).rctx = s.rctx := rfl
@[simp] theorem post_ack : (s.post id ev).ack = s.ack := rfl
@[simp] theorem post_recv : (s.post id ev).recv = s.recv := rfl

@[simp] theorem sendReturns_rctx : (s.sendReturns tid c rc).rctx = s.rctx := by
  unfold sendReturns; split <;> (try split) <;> rfl

@[simp] theorem sendReturns_pending : (s.sendReturns tid c rc).pending = s.pending := by
  unfold sendReturns; split <;> (try split) <;> rfl

@[simp] theorem sendReturns_ack : (s.sendReturns tid c rc).ack = s.ack := by
  unfold sendReturns; split <;> (try split) <;> rfl

@[simp] theorem sendReturns_recv : (s.sendReturns tid c rc).recv = s.recv := by
  unfold sendReturns; split <;> (try split) <;> rfl

/-- Where the requester is after `_link_request_send` returned. -/
theorem sendReturns_req :
    (c.isRequest = true ∧ rc = 0 ∧ (s.sendReturns tid c rc).req = .returned c (-1)) ∨
    (c.isRequest = true ∧ rc ≠ 0 ∧ (s.sendReturns tid c rc).req = .running tid c .waitReply) ∨
    (c.isRequest = false ∧ (s.sendReturns tid c rc).req = .running tid c (.clearTid rc)) := by
  unfold sendReturns
  by_cases hc : c.isRequest = true
  · by_cases hz : rc = 0
    · left; simp [hc, hz]
    · right; left; simp [hc, hz]
  · right; right
    simp [hc]

end LinkState

/-! ## §3 Whose step changes what -/

section Frame

variable {s s' : LinkState} {a : Act}

theorem step_recv (h : step s a = some s') (ha : a.isRecvReply = false) :
    s'.recv = s.recv := by
  cases step_stepped h <;>
    first
    | rfl
    | exact s.sendReturns_recv _ _ _
    | exact absurd ha (by simp [Act.isRecvReply])

theorem step_ack (h : step s a = some s') (ha : a ≠ .ack) : s'.ack = s.ack := by
  cases step_stepped h <;> first | exact absurd rfl ha | rfl | exact s.sendReturns_ack _ _ _

theorem ack_req (h : step s .ack = some s') : s'.req = s.req := by
  cases step_stepped h <;> rfl

theorem recvReply_req {n : Nat} (h : step s (.recvReply n) = some s') : s'.req = s.req := by
  cases step_stepped h <;> rfl

end Frame

/-! ## §4 The fields of `rctx` at each program point -/

/-- How many of the six assignments before `link->write` are done. -/
def Pc.rank : Pc → Nat
  | .setReplySzRead => 0
  | .setReply => 1
  | .setReplySz => 2
  | .setTid => 3
  | .setEventWait => 4
  | .clearTxAcked => 5
  | _ => 6

/-- The program points of `_link_request_recv` before its result is known. -/
def Pc.inReply : Pc → Bool
  | .waitReply => true
  | .checkReply _ => true
  | _ => false

/-- What a call of `tid` has put into `rctx` at `pc`. -/
structure CallInv (rctx : LinkRequestCtx) (tid : TaskId) (c : Call) (pc : Pc) : Prop where
  reply : c.isRequest = true → 2 ≤ pc.rank → rctx.reply = c.rbuf
  replySz : c.isRequest = true → 3 ≤ pc.rank → rctx.replySz = c.rsz
  tidRequester : 4 ≤ pc.rank → rctx.tidRequester = tid
  eventWait : 5 ≤ pc.rank → rctx.eventWait = c.event
  isRequest : pc.rank < 3 ∨ pc.inReply = true → c.isRequest = true

def LinkInv (s : LinkState) : Prop :=
  ∀ tid c pc, s.req = .running tid c pc → CallInv s.rctx tid c pc

theorem linkInv_connected (heap : LinkRequestCtx) (p : Pending) :
    LinkInv (.connected heap p) := by
  intro tid c pc h
  cases h

/-- Past the assignments the call's fields stay. -/
theorem CallInv.go {rctx : LinkRequestCtx} {tid : TaskId} {c : Call} {pc pc' : Pc}
    (h : CallInv rctx tid c pc) (hpc : 6 ≤ pc.rank)
    (hpc' : pc'.rank = 6 ∧ (pc'.inReply = true → pc.inReply = true)) :
    CallInv rctx tid c pc' where
  reply hc _ := h.reply hc (by omega)
  replySz hc _ := h.replySz hc (by omega)
  tidRequester _ := h.tidRequester (by omega)
  eventWait _ := h.eventWait (by omega)
  isRequest hk := h.isRequest (hk.imp (fun hk => by omega) hpc'.2)

theorem LinkInv.goto {s' : LinkState} {tid : TaskId} {c : Call} {pc : Pc}
    (hr : s'.req = .running tid c pc) (h : CallInv s'.rctx tid c pc) : LinkInv s' := by
  intro tid' c' pc' h'
  rw [hr] at h'
  cases h'
  exact h

theorem LinkInv.sendReturns {s : LinkState} {tid : TaskId} {c : Call} {pc : Pc} (rc : Nat)
    (h : CallInv s.rctx tid c pc) (hpc : 6 ≤ pc.rank) : LinkInv (s.sendReturns tid c rc) := by
  rcases s.sendReturns_req tid c rc with ⟨_, _, hr⟩ | ⟨hc, _, hr⟩ | ⟨_, hr⟩
  · intro tid' c' pc' h'
    rw [hr] at h'
    cases h'
  · refine LinkInv.goto hr ?_
    rw [LinkState.sendReturns_rctx]
    exact ⟨fun hc _ => h.reply hc (by omega), fun hc _ => h.replySz hc (by omega),
      fun _ => h.tidRequester (by omega), fun _ => h.eventWait (by omega), fun _ => hc⟩
  · refine LinkInv.goto hr ?_
    rw [LinkState.sendReturns_rctx]
    exact h.go hpc ⟨rfl, by simp [Pc.inReply]⟩

/-- The two deliveries leave the fields of the call alone. -/
theorem LinkInv.frame {s s' : LinkState} (hi : LinkInv s) (hreq : s'.req = s.req)
    (h1 : s'.rctx.reply = s.rctx.reply) (h2 : s'.rctx.replySz = s.rctx.replySz)
    (h3 : s'.rctx.tidRequester = s.rctx.tidRequester)
    (h4 : s'.rctx.eventWait = s.rctx.eventWait) : LinkInv s' := by
  intro tid c pc hr
  obtain ⟨a, b, d, e, f⟩ := hi tid c pc (hreq ▸ hr)
  exact ⟨by rwa [h1], by rwa [h2], by rwa [h3], by rwa [h4], f⟩

theorem linkInv_step {s s' : LinkState} {a : Act} (hi : LinkInv s) (h : step s a = some s') :
    LinkInv s' := by
  -- from the write on the fields stay
  have hgo : ∀ {tid c pc pc'}, s.req = .running tid c pc → pc.rank = 6 →
      s'.req = .running tid c pc' → s'.rctx = s.rctx →
      pc'.rank = 6 ∧ (pc'.inReply = true → pc.inReply = true) → LinkInv s' := by
    intro tid c pc pc' hr hpc hr' hctx hpc'
    refine LinkInv.goto hr' ?_
    rw [hctx]
    exact (hi _ _ _ hr).go (by omega) hpc'
  cases step_stepped h with
  | call tid c _ =>
    refine LinkInv.goto rfl ?_
    by_cases hc : c.isRequest = true
    · constructor <;> simp [hc, Pc.rank, Pc.inReply]
    · constructor <;> simp [hc, Pc.rank, Pc.inReply]
  | setReplySzRead hr =>
    have hk := hi _ _ _ hr
    refine LinkInv.goto rfl ?_
    constructor <;> simp [Pc.rank, Pc.inReply, hk.isRequest (Or.inl (by simp [Pc.rank]))]
  | setReply hr =>
    have hk := hi _ _ _ hr
    refine LinkInv.goto rfl ?_
    constructor <;> simp [Pc.rank, Pc.inReply, hk.isRequest (Or.inl (by simp [Pc.rank]))]
  | setReplySz hr =>
    have hk := hi _ _ _ hr
    refine LinkInv.goto rfl ?_
    constructor <;> simp [Pc.rank, Pc.inReply]
    exact fun hc => hk.reply hc (by simp [Pc.rank])
  | setTid hr =>
    have hk := hi _ _ _ hr
    refine LinkInv.goto rfl ?_
    constructor <;> simp [Pc.rank, Pc.inReply]
    · exact fun hc => hk.reply hc (by simp [Pc.rank])
    · exact fun hc => hk.replySz hc (by simp [Pc.rank])
  | setEventWait hr =>
    have hk := hi _ _ _ hr
    refine LinkInv.goto rfl ?_
    constructor <;> simp [Pc.rank, Pc.inReply]
    · exact fun hc => hk.reply hc (by simp [Pc.rank])
    · exact fun hc => hk.replySz hc (by simp [Pc.rank])
    · exact hk.tidRequester (by simp [Pc.rank])
  | clearTxAcked hr =>
    have hk := hi _ _ _ hr
    refine LinkInv.goto rfl ?_
    constructor <;> simp [Pc.rank, Pc.inReply]
    · exact fun hc => hk.reply hc (by simp [Pc.rank])
    · exact fun hc => hk.replySz hc (by simp [Pc.rank])
    · exact hk.tidRequester (by simp [Pc.rank])
    · exact hk.eventWait (by simp [Pc.rank])
  | writeFailed hr => exact LinkInv.sendReturns 0 (hi _ _ _ hr) (Nat.le_refl 6)
  | written hr _ => exact hgo hr rfl rfl rfl ⟨rfl, by simp [Pc.inReply]⟩
  | wakeAck hr _ => exact hgo hr rfl rfl rfl ⟨rfl, by simp [Pc.inReply]⟩
  | timeoutAck hr _ _ => exact hgo hr rfl rfl rfl ⟨rfl, by simp [Pc.inReply]⟩
  | acked hr _ _ => exact LinkInv.sendReturns _ (hi _ _ _ hr) (Nat.le_refl 6)
  | assertFailed hr _ _ => exact hgo hr rfl rfl rfl ⟨rfl, by simp [Pc.inReply]⟩
  | ackTimedOut hr _ => exact LinkInv.sendReturns 0 (hi _ _ _ hr) (Nat.le_refl 6)
  | wakeReply hr _ => exact hgo hr rfl rfl rfl ⟨rfl, by simp [Pc.inReply]⟩
  | timeoutReply hr _ _ => exact hgo hr rfl rfl rfl ⟨rfl, by simp [Pc.inReply]⟩
  | replied hr _ => exact hgo hr rfl rfl rfl ⟨rfl, by simp [Pc.inReply]⟩
  | replyTimedOut hr _ => exact hgo hr rfl rfl rfl ⟨rfl, by simp [Pc.inReply]⟩
  | clearTid hr =>
    intro tid c pc h'
    cases h'
  | ackSet _ => exact hi.frame rfl rfl rfl rfl rfl
  | ackTest _ => exact hi.frame rfl rfl rfl rfl rfl
  | ackTid _ | ackEvent _ | ackSend _ => exact hi.frame rfl rfl rfl rfl rfl
  | recvStart n _ => exact hi.frame rfl rfl rfl rfl rfl
  | recvArgs n _ => exact hi.frame rfl rfl rfl rfl rfl
  | recvNull n _ => exact hi.frame rfl rfl rfl rfl rfl
  | recvStore n _ => exact hi.frame rfl rfl rfl rfl rfl
  | recvSize n _ => exact hi.frame rfl rfl rfl rfl rfl
  | recvTest n _ => exact hi.frame rfl rfl rfl rfl rfl
  | recvTid n _ | recvEvent n _ | recvSend n _ => exact hi.frame rfl rfl rfl rfl rfl

/-- **`rctx` is the caller's** in every run of a link. -/
theorem linkInv_exec {s s' : LinkState} {as : List Act} (hi : LinkInv s)
    (h : exec step s as = some s') : LinkInv s' :=
  exec_invariant' (fun _ _ _ hi h => linkInv_step hi h) hi h

/-! ## §5 The event sends -/

/-- What the deliveries have read for their event sends is the requester's. -/
structure LinkState.Aimed (s : LinkState) : Prop where
  ackTo : ∀ id, s.ack = .sendTo id → id = s.rctx.tidRequester
  ackPost : ∀ id ev, s.ack = .post id ev → id = s.rctx.tidRequester ∧ ev = s.rctx.eventWait
  recvTo : ∀ id, s.recv = .sendTo id → id = s.rctx.tidRequester
  recvPost : ∀ id ev, s.recv = .post id ev → id = s.rctx.tidRequester ∧ ev = s.rctx.eventWait

theorem LinkState.Aimed.congr {s s' : LinkState} (h : s.Aimed) (hack : s'.ack = s.ack)
    (hrecv : s'.recv = s.recv) (ht : s'.rctx.tidRequester = s.rctx.tidRequester)
    (he : s'.rctx.eventWait = s.rctx.eventWait) : s'.Aimed where
  ackTo := by rw [hack, ht]; exact h.ackTo
  ackPost := by rw [hack, ht, he]; exact h.ackPost
  recvTo := by rw [hrecv, ht]; exact h.recvTo
  recvPost := by rw [hrecv, ht, he]; exact h.recvPost

/-- The deliveries read `rctx` as it is. -/
theorem LinkState.Aimed.delivery {s s' : LinkState} {a : Act} (h : s.Aimed)
    (ha : a = .ack ∨ a.isRecvReply = true) (hs : step s a = some s') : s'.Aimed := by
  cases step_stepped hs with
  | ackSet _ => exact ⟨by simp, by simp, h.recvTo, h.recvPost⟩
  | ackTest _ =>
    refine ⟨fun id hk => ?_, fun id ev hk => ?_, h.recvTo, h.recvPost⟩
    · simp only at hk
      split at hk <;> cases hk
    · simp only at hk
      split at hk <;> cases hk
  | ackTid _ => exact ⟨by simp, by simp, h.recvTo, h.recvPost⟩
  | ackEvent hk =>
    refine ⟨by simp, fun id ev hk' => ?_, h.recvTo, h.recvPost⟩
    cases hk'
    exact ⟨h.ackTo _ hk, rfl⟩
  | ackSend _ => exact ⟨by simp, by simp, h.recvTo, h.recvPost⟩
  | recvTest _ _ =>
    refine ⟨h.ackTo, h.ackPost, fun id hk => ?_, fun id ev hk => ?_⟩
    · simp only at hk
      split at hk <;> cases hk
    · simp only at hk
      split at hk <;> cases hk
  | recvTid _ _ => exact ⟨h.ackTo, h.ackPost, by simp, by simp⟩
  | recvEvent _ hk =>
    refine ⟨h.ackTo, h.ackPost, by simp, fun id ev hk' => ?_⟩
    cases hk'
    exact ⟨h.recvTo _ hk, rfl⟩
  | recvSend _ _ => exact ⟨h.ackTo, h.ackPost, by simp, by simp⟩
  | recvStart _ _ | recvArgs _ _ | recvNull _ _ | recvStore _ _ | recvSize _ _ =>
    exact ⟨h.ackTo, h.ackPost, by simp, by simp⟩
  | _ => rcases ha with ha | ha <;> cases ha

/-! ## §6 The pending event -/

/-- The requester is in the receive of `_link_request_send`. -/
def Requester.inAckWait : Requester → Bool
  | .running _ _ (.waitAck _) => true
  | _ => false

/-- The event the requester waits for is pending. -/
def LinkState.notified (s : LinkState) : Bool :=
  hasEvent (s.pending s.rctx.tidRequester) s.rctx.eventWait

theorem LinkInv.notified_eq {s : LinkState} {tid : TaskId} {c : Call} {pc : Pc} (hi : LinkInv s)
    (hr : s.req = .running tid c pc) (hpc : 4 ≤ pc.rank) :
    s.notified = hasEvent (s.pending tid) s.rctx.eventWait := by
  unfold LinkState.notified
  rw [(hi _ _ _ hr).tidRequester hpc]

theorem LinkInv.eventWait_mask {s : LinkState} {tid : TaskId} {c : Call} {pc : Pc}
    (hi : LinkInv s) (hr : s.req = .running tid c pc) (hpc : 5 ≤ pc.rank) :
    ∃ ev : Event, s.rctx.eventWait = ev.mask := by
  rw [(hi _ _ _ hr).eventWait hpc]
  cases c <;> exact ⟨_, rfl⟩

/-- What the requester waits for is an event. -/
theorem LinkInv.hasEvent_eventWait {s : LinkState} {tid : TaskId} {c : Call} {pc : Pc}
    (hi : LinkInv s) (hr : s.req = .running tid c pc) (hpc : 5 ≤ pc.rank) :
    hasEvent s.rctx.eventWait s.rctx.eventWait = true := by
  obtain ⟨ev, hev⟩ := hi.eventWait_mask hr hpc
  rw [hev]
  simp [hasEvent, mask_ne_zero]

/-- The events `ev` become pending for `id`, and the requester's may be
among them. -/
theorem LinkState.notified_post (s : LinkState) (id : RtemsId) (ev : EventSet) :
    (s.post id ev).notified =
      (s.notified || (id = s.rctx.tidRequester && hasEvent ev s.rctx.eventWait)) := by
  by_cases hid : id = s.rctx.tidRequester
  · subst hid
    simp [LinkState.notified, LinkState.post, hasEvent_or]
  · simp [LinkState.notified, LinkState.post, eventSend, hid, Function.update_of_ne (Ne.symm hid)]

end HpscRtems.Link
