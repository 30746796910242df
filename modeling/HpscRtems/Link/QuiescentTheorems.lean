/-
HpscRtems.Link.QuiescentTheorems — what a call leaves behind: `rctx.tid_requester`,
and the deliveries in progress.

`link_request_send` and `_link_request_recv` clear the field. `link_request`
itself does not, so it stays set when `_link_request_send` returns 0: the
write failed, or the ACK did not come in time. From then on an ACK or a
reply that no call waits for is posted to the task all the same. And a
delivery that has tested the field before it was cleared still makes its
event send after the call has returned.
-/
import HpscRtems.Link.RequestTheorems

namespace HpscRtems.Link

open Machine Rtems

/-! ## §1 The property and the condition -/

/-- The steps of `link_ack` and `link_recv_reply`. -/
def Act.ofDelivery : Act → Bool
  | .ack => true
  | .recvReply _ => true
  | _ => false

/-- No delivery is between its test of `tid_requester` and the end of its
event send. -/
def BeforeTest (s : LinkState) : Prop := s.ack.sending = false ∧ s.recv.sending = false

instance (s : LinkState) : Decidable (BeforeTest s) := inferInstanceAs (Decidable (_ ∧ _))

/-- The step is the `rtems_event_send` of a delivery. -/
def SendsEvent (s : LinkState) (a : Act) : Prop :=
  (a = .ack ∧ ∃ id ev, s.ack = .post id ev) ∨
    (a.isRecvReply = true ∧ ∃ id ev, s.recv = .post id ev)

/-- Outside a call no requester is on record, and the deliveries send no
event to any task. -/
structure Quiescent (s : LinkState) : Prop where
  tid : s.req.isRunning = false → s.rctx.tidRequester = idNone
  noPost : s.req.isRunning = false → ∀ bs, (∀ b ∈ bs, b.ofDelivery = true) →
    Along step (fun s b => ¬ SendsEvent s b) s bs

/-- The requester is a `link_request` at a program point that meets `P`. -/
def Requester.requestAt (P : Pc → Bool) : Requester → Bool
  | .running _ c pc => c.isRequest && P pc
  | _ => false

def Pc.isWrite : Pc → Bool
  | .write => true
  | _ => false

def Pc.isWaitAck : Pc → Bool
  | .waitAck _ => true
  | _ => false

/-- The requester is about to clear `tid_requester` and return. -/
def Requester.leaves : Requester → Bool
  | .running _ _ (.clearTid _) => true
  | _ => false

/-- The write of a `link_request` does not fail, its wait for the ACK does
not time out, and no call returns while a delivery is between its test of
`tid_requester` and its event send. -/
structure CleanExit (s : LinkState) (a : Act) : Prop where
  written : s.req.requestAt Pc.isWrite = true → a ≠ .write 0
  inTime : s.req.requestAt Pc.isWaitAck = true → a ≠ .timeout
  apart : s.req.leaves = true → a = .run → BeforeTest s

instance (s : LinkState) (a : Act) : Decidable (CleanExit s a) :=
  decidable_of_iff
    ((s.req.requestAt Pc.isWrite = true → a ≠ .write 0) ∧
      (s.req.requestAt Pc.isWaitAck = true → a ≠ .timeout) ∧
      (s.req.leaves = true → a = .run → BeforeTest s))
    ⟨fun h => ⟨h.1, h.2.1, h.2.2⟩, fun h => ⟨h.written, h.inTime, h.apart⟩⟩

/-! ## §2 Deliveries outside a call -/

/-- An event send is at the end of a delivery that has tested the field. -/
theorem BeforeTest.not_sendsEvent {s : LinkState} (h : BeforeTest s) (a : Act) :
    ¬ SendsEvent s a := by
  rintro (⟨-, id, ev, hk⟩ | ⟨-, id, ev, hk⟩)
  · have := h.1
    rw [hk] at this
    cases this
  · have := h.2
    rw [hk] at this
    cases this

/-- With no requester on record a delivery stays before its send. -/
theorem delivery_step {s s' : LinkState} {b : Act} (ht : s.rctx.tidRequester = idNone)
    (hk : BeforeTest s) (hb : b.ofDelivery = true) (h : step s b = some s') :
    s'.rctx.tidRequester = idNone ∧ BeforeTest s' := by
  obtain ⟨hack, hrecv⟩ := hk
  cases step_stepped h with
  | ackSet _ => exact ⟨ht, rfl, hrecv⟩
  | ackTest _ => exact ⟨ht, by simp [ht, AckPc.sending], hrecv⟩
  | ackTid ha | ackEvent ha | ackSend ha =>
    rw [ha] at hack
    cases hack
  | recvStart n _ | recvArgs n _ | recvNull n _ | recvStore n _ | recvSize n _ =>
    exact ⟨ht, hack, rfl⟩
  | recvTest n _ => exact ⟨ht, hack, by simp [ht, RecvPc.sending]⟩
  | recvTid n hs | recvEvent n hs | recvSend n hs =>
    rw [hs] at hrecv
    cases hrecv
  | _ => cases hb

theorem deliveries_send_nothing {s : LinkState} {bs : List Act}
    (ht : s.rctx.tidRequester = idNone) (hk : BeforeTest s)
    (hb : ∀ b ∈ bs, b.ofDelivery = true) : Along step (fun s b => ¬ SendsEvent s b) s bs := by
  induction bs generalizing s with
  | nil => trivial
  | cons b bs ih =>
    refine ⟨hk.not_sendsEvent b, fun u hu => ?_⟩
    obtain ⟨htid, hbefore⟩ := delivery_step ht hk (hb b (List.mem_cons_self ..)) hu
    exact ih htid hbefore fun b' hb' => hb b' (List.mem_cons_of_mem _ hb')

/-! ## §3 The condition is enough -/

/-- A call that has got this far comes back from `_link_request_send` with
a nonzero value. -/
structure QuiescentInv (s : LinkState) : Prop where
  tid : s.req.isRunning = false → s.rctx.tidRequester = idNone ∧ BeforeTest s
  written : ∀ tid c rc, s.req = .running tid c (.waitAck rc) → rc ≠ 0
  acked : ∀ tid c rc events, s.req = .running tid c (.checkAck rc events) →
    rc ≠ 0 ∧ (c.isRequest = true → hasEvent events s.rctx.eventWait = true)

theorem quiescent_of_inv {s : LinkState} (hi : QuiescentInv s) : Quiescent s where
  tid hr := (hi.tid hr).1
  noPost hr _ hb := deliveries_send_nothing (hi.tid hr).1 (hi.tid hr).2 hb

/-- A step to another program point of a call. -/
theorem QuiescentInv.goto {s' : LinkState} {tid : TaskId} {c : Call} {pc : Pc}
    (hr : s'.req = .running tid c pc) (hw : ∀ rc, pc ≠ .waitAck rc)
    (hc : ∀ rc events, pc ≠ .checkAck rc events) : QuiescentInv s' where
  tid h := by rw [hr] at h; cases h
  written tid' c' rc h := by
    rw [hr] at h
    cases h
    exact absurd rfl (hw rc)
  acked tid' c' rc events h := by
    rw [hr] at h
    cases h
    exact absurd rfl (hc rc events)

/-- `_link_request_send` returns, and does not fail a `link_request`. -/
theorem QuiescentInv.sendReturns {s : LinkState} {tid : TaskId} {c : Call} {rc : Nat}
    (h : c.isRequest = true → rc ≠ 0) : QuiescentInv (s.sendReturns tid c rc) := by
  rcases s.sendReturns_req tid c rc with ⟨hc, hz, _⟩ | ⟨_, _, hr⟩ | ⟨_, hr⟩
  · exact absurd hz (h hc)
  · exact .goto hr (by simp) (by simp)
  · exact .goto hr (by simp) (by simp)

/-- A step of a delivery. -/
theorem QuiescentInv.delivery {s s' : LinkState} {b : Act} (hi : QuiescentInv s)
    (hb : b.ofDelivery = true) (h : step s b = some s') : QuiescentInv s' := by
  have hsame : s'.req = s.req ∧ s'.rctx.eventWait = s.rctx.eventWait := by
    cases step_stepped h with
    | ackSet | ackTest | ackTid | ackEvent | ackSend | recvStart | recvArgs | recvNull
    | recvStore | recvSize | recvTest | recvTid | recvEvent | recvSend => exact ⟨rfl, rfl⟩
    | _ => cases hb
  obtain ⟨hreq, he⟩ := hsame
  constructor
  case tid =>
    intro hr
    obtain ⟨ht, hk⟩ := hi.tid (hreq ▸ hr)
    exact delivery_step ht hk hb h
  case written => exact fun tid c rc hr => hi.written tid c rc (hreq ▸ hr)
  case acked =>
    rw [he]
    exact fun tid c rc events hr => hi.acked tid c rc events (hreq ▸ hr)

theorem quiescentInv_step {s s' : LinkState} {a : Act} (hi : QuiescentInv s)
    (hg : CleanExit s a) (h : step s a = some s') : QuiescentInv s' := by
  by_cases hb : a.ofDelivery = true
  · exact hi.delivery hb h
  cases step_stepped h with
  | call tid c _ =>
    refine .goto rfl (fun rc => ?_) (fun rc events => ?_)
    · split <;> simp
    · split <;> simp
  | setReplySzRead _ => exact .goto rfl (by simp) (by simp)
  | setReply _ => exact .goto rfl (by simp) (by simp)
  | setReplySz _ => exact .goto rfl (by simp) (by simp)
  | setTid _ => exact .goto rfl (by simp) (by simp)
  | setEventWait _ => exact .goto rfl (by simp) (by simp)
  | clearTxAcked _ => exact .goto rfl (by simp) (by simp)
  | writeFailed hr =>
    refine .sendReturns fun hc => ?_
    exact absurd rfl (hg.written (by simp [hr, Requester.requestAt, hc, Pc.isWrite]))
  | written hr hrc =>
    constructor
    case tid => exact fun hn => by cases hn
    case written =>
      intro tid' c' rc' h'
      cases h'
      exact hrc
    case acked =>
      intro tid' c' rc' events h'
      cases h'
  | @wakeAck tid c rc hr he =>
    constructor
    case tid => exact fun hn => by cases hn
    case written =>
      intro tid' c' rc' h'
      cases h'
    case acked =>
      intro tid' c' rc' events h'
      cases h'
      refine ⟨hi.written _ _ _ hr, fun _ => ?_⟩
      show hasEvent (s.events tid) s.rctx.eventWait = true
      simp [LinkState.events, he]
  | @timeoutAck tid c rc hr _ _ =>
    have hc : c.isRequest = false := by
      by_contra hc
      exact hg.inTime (by simpa [hr, Requester.requestAt, Pc.isWaitAck] using hc) rfl
    constructor
    case tid => exact fun hn => by cases hn
    case written =>
      intro tid' c' rc' h'
      cases h'
    case acked =>
      intro tid' c' rc' events h'
      cases h'
      refine ⟨hi.written _ _ _ hr, fun hreq => ?_⟩
      rw [hc] at hreq
      cases hreq
  | acked hr _ _ => exact .sendReturns fun _ => (hi.acked _ _ _ _ hr).1
  | assertFailed _ _ _ => exact .goto rfl (by simp) (by simp)
  | ackTimedOut hr he =>
    refine .sendReturns fun hc => ?_
    have hev := (hi.acked _ _ _ _ hr).2 hc
    rw [he] at hev
    cases hev
  | wakeReply _ _ => exact .goto rfl (by simp) (by simp)
  | timeoutReply _ _ _ => exact .goto rfl (by simp) (by simp)
  | replied _ _ => exact .goto rfl (by simp) (by simp)
  | replyTimedOut _ _ => exact .goto rfl (by simp) (by simp)
  | clearTid hr =>
    constructor
    case tid => exact fun _ => ⟨rfl, hg.apart (by rw [hr]; rfl) rfl⟩
    case written =>
      intro tid' c' rc' h'
      cases h'
    case acked =>
      intro tid' c' rc' events h'
      cases h'
  | _ => exact absurd rfl hb

/-! ## §4 The condition is needed -/

/-- A `link_request` that returns -1 leaves its task on record. -/
theorem not_quiescent_of_sendReturns {s : LinkState} {tid : TaskId} {c : Call}
    (hc : c.isRequest = true) (ht : s.rctx.tidRequester = tid) :
    ¬ Quiescent (s.sendReturns tid c 0) := by
  intro hq
  have hreq : (s.sendReturns tid c 0).req = .returned c (-1) := by
    simp [LinkState.sendReturns, hc]
  have htid := hq.tid (by rw [hreq]; rfl)
  rw [LinkState.sendReturns_rctx, ht] at htid
  exact tid.property htid

/-- `link_ack`, past its test, comes to its event send. -/
theorem ack_comes_to_send {s : LinkState} (hk : s.ack.sending = true) :
    ∃ n, ¬ Along step (fun s b => ¬ SendsEvent s b) s (List.replicate n .ack) := by
  have hpost : ∀ {u : LinkState} {id ev}, u.ack = .post id ev →
      ¬ Along step (fun s b => ¬ SendsEvent s b) u [.ack] :=
    fun hu hal => hal.1 (.inl ⟨rfl, _, _, hu⟩)
  have hto : ∀ {u : LinkState} {id}, u.ack = .sendTo id →
      ¬ Along step (fun s b => ¬ SendsEvent s b) u [.ack, .ack] := fun {u id} hu hal => by
    have hstep : step u .ack = some { u with ack := .post id u.rctx.eventWait } := by
      simp [step, LinkState.linkAck, hu]
    exact hpost rfl (hal.2 _ hstep)
  cases hack : s.ack with
  | idle | test =>
    rw [hack] at hk
    cases hk
  | post id ev => exact ⟨1, hpost hack⟩
  | sendTo id => exact ⟨2, hto hack⟩
  | send =>
    refine ⟨3, fun hal => ?_⟩
    have hstep : step s .ack = some { s with ack := .sendTo s.rctx.tidRequester } := by
      simp [step, LinkState.linkAck, hack]
    exact hto rfl (hal.2 _ hstep)

/-- So does `link_recv_reply`. -/
theorem recv_comes_to_send {s : LinkState} (hk : s.recv.sending = true) :
    ∃ n, ¬ Along step (fun s b => ¬ SendsEvent s b) s (List.replicate n (.recvReply 0)) := by
  have hpost : ∀ {u : LinkState} {id ev}, u.recv = .post id ev →
      ¬ Along step (fun s b => ¬ SendsEvent s b) u [.recvReply 0] :=
    fun hu hal => hal.1 (.inr ⟨rfl, _, _, hu⟩)
  have hto : ∀ {u : LinkState} {id}, u.recv = .sendTo id →
      ¬ Along step (fun s b => ¬ SendsEvent s b) u [.recvReply 0, .recvReply 0] :=
    fun {u id} hu hal => by
      have hstep : step u (.recvReply 0) = some { u with recv := .post id u.rctx.eventWait } := by
        simp [step, LinkState.linkRecvReply, hu]
      exact hpost rfl (hal.2 _ hstep)
  cases hrecv : s.recv with
  | post id ev => exact ⟨1, hpost hrecv⟩
  | sendTo id => exact ⟨2, hto hrecv⟩
  | send =>
    refine ⟨3, fun hal => ?_⟩
    have hstep : step s (.recvReply 0) = some { s with recv := .sendTo s.rctx.tidRequester } := by
      simp [step, LinkState.linkRecvReply, hrecv]
    exact hto rfl (hal.2 _ hstep)
  | _ =>
    rw [hrecv] at hk
    cases hk

theorem not_quiescent_of_sending {s : LinkState} (hr : s.req.isRunning = false)
    (hk : ¬ BeforeTest s) : ¬ Quiescent s := by
  intro hq
  by_cases hack : s.ack.sending = true
  · obtain ⟨n, hn⟩ := ack_comes_to_send hack
    refine hn (hq.noPost hr _ fun b hb => ?_)
    rw [List.eq_of_mem_replicate hb]
    rfl
  · have hrecv : s.recv.sending = true := by
      by_contra hne
      exact hk ⟨by simpa using hack, by simpa using hne⟩
    obtain ⟨n, hn⟩ := recv_comes_to_send hrecv
    refine hn (hq.noPost hr _ fun b hb => ?_)
    rw [List.eq_of_mem_replicate hb]
    rfl

/-- A call that returns leaves a delivery past its test as it is. -/
theorem not_quiescent_of_leaves {s s' : LinkState} (h : step s .run = some s')
    (hl : s.req.leaves = true) (hk : ¬ BeforeTest s) : ¬ Quiescent s' := by
  cases hr : s.req with
  | running tid c pc =>
    cases pc with
    | clearTid rc =>
      simp only [step, hr, LinkState.runStep, Option.some.injEq] at h
      subst h
      exact not_quiescent_of_sending rfl hk
    | _ => simp [hr, Requester.leaves] at hl
  | _ => simp [hr, Requester.leaves] at hl

/-- After a failed send the call returns with its task still on record. -/
theorem not_quiescent_of_not_sent {s s' : LinkState} {a : Act} (hi : LinkInv s)
    (h : step s a = some s')
    (hg : ¬ ((s.req.requestAt Pc.isWrite = true → a ≠ .write 0) ∧
      (s.req.requestAt Pc.isWaitAck = true → a ≠ .timeout))) :
    ∃ bs t, exec step s' bs = some t ∧ ¬ Quiescent t := by
  cases hr : s.req with
  | running tid c pc =>
    have htid : pc.rank = 6 → s.rctx.tidRequester = tid := fun hpc =>
      (hi _ _ _ hr).tidRequester (by omega)
    cases pc with
    | write =>
      have hbad : c.isRequest = true ∧ a = .write 0 := by
        by_contra hn
        refine hg ⟨fun hw ha => hn ⟨?_, ha⟩, fun hw => ?_⟩
        · simpa [hr, Requester.requestAt, Pc.isWrite] using hw
        · simp [hr, Requester.requestAt, Pc.isWaitAck] at hw
      obtain ⟨hc, rfl⟩ := hbad
      simp only [step, hr, if_true, Option.some.injEq] at h
      subst h
      exact ⟨[], _, rfl, not_quiescent_of_sendReturns hc (htid rfl)⟩
    | waitAck rc =>
      have hbad : c.isRequest = true ∧ a = .timeout := by
        by_contra hn
        refine hg ⟨fun hw => ?_, fun hw ha => hn ⟨?_, ha⟩⟩
        · simp [hr, Requester.requestAt, Pc.isWrite] at hw
        · simpa [hr, Requester.requestAt, Pc.isWaitAck] using hw
      obtain ⟨hc, rfl⟩ := hbad
      have hs' : s' = s.goto tid c (.checkAck rc 0) := by
        simp only [step, hr, LinkState.afterReceive, Option.map_some] at h
        split at h
        · exact (Option.some.inj h).symm
        · cases h
      subst hs'
      have hrun : step (s.goto tid c (.checkAck rc 0)) .run =
          some ((s.goto tid c (.checkAck rc 0)).sendReturns tid c 0) := by
        simp [step, LinkState.runStep]
      exact ⟨[.run], _, by rw [exec_cons _ hrun]; rfl,
        not_quiescent_of_sendReturns hc (htid rfl)⟩
    | _ =>
      refine absurd ⟨fun hw => ?_, fun hw => ?_⟩ hg
      · simp [hr, Requester.requestAt, Pc.isWrite] at hw
      · simp [hr, Requester.requestAt, Pc.isWaitAck] at hw
  | _ =>
    refine absurd ⟨fun hw => ?_, fun hw => ?_⟩ hg
    · simp [hr, Requester.requestAt] at hw
    · simp [hr, Requester.requestAt] at hw

theorem not_quiescent_of_not_cleanExit {s s' : LinkState} {a : Act} (hi : LinkInv s)
    (h : step s a = some s') (hg : ¬ CleanExit s a) :
    ∃ bs t, exec step s' bs = some t ∧ ¬ Quiescent t := by
  by_cases hap : s.req.leaves = true → a = .run → BeforeTest s
  · refine not_quiescent_of_not_sent hi h fun hk => hg ⟨hk.1, hk.2, hap⟩
  · push Not at hap
    obtain ⟨hl, rfl, hk⟩ := hap
    exact ⟨[], s', rfl, not_quiescent_of_leaves h hl hk⟩

/-! ## §5 Runs -/

theorem quiescentInv_connected (heap : LinkRequestCtx) (p : Pending) :
    QuiescentInv (.connected heap p) where
  tid _ := ⟨rfl, rfl, rfl⟩
  written _ _ _ h := by cases h
  acked _ _ _ _ h := by cases h

/-- **Quiescent between calls**: so is every state of a run in which no
`link_request` fails to send and no call returns under a delivery that has
tested `tid_requester`, and a run in which one does goes on to a state that
is not. -/
theorem quiescent_of_cleanExit (heap : LinkRequestCtx) (p : Pending) (as : List Act) :
    (Along step CleanExit (.connected heap p) as →
      ∀ s, exec step (.connected heap p) as = some s → Quiescent s) ∧
    ∀ s a s', exec step (.connected heap p) as = some s → step s a = some s' →
      ¬ CleanExit s a → ∃ bs t, exec step s' bs = some t ∧ ¬ Quiescent t := by
  constructor
  · intro hG s h
    have hinv : QuiescentInv s :=
      exec_invariant (fun _ _ _ hi hg h => quiescentInv_step hi hg h)
        (quiescentInv_connected heap p) hG h
    exact quiescent_of_inv hinv
  · intro s a s' hs h hg
    exact not_quiescent_of_not_cleanExit (linkInv_exec (linkInv_connected heap p) hs) h hg

/-- A request whose ACK does not come within 10 ticks. -/
def unansweredRequest : List Act :=
  [.call 1 (.request 10 [] 64 10 (some 4096) 64 0),
   .run, .run, .run, .run, .run, .run, .write 64, .timeout, .run]

/-- The request returns -1 with its task on record. -/
theorem unanswered_not_quiescent :
    ¬ ∀ (heap : LinkRequestCtx) (p : Pending) (as : List Act) (s : LinkState),
      exec step (.connected heap p) as = some s → Quiescent s := by
  intro hall
  have hrun : (exec step (.connected ⟨0, 0, false, none, 0, 0⟩ (fun _ => 0))
      unansweredRequest).map (fun s => (s.req.isRunning, s.rctx.tidRequester)) =
      some (false, 1) := by
    decide
  obtain ⟨s, hs, hr⟩ := Option.map_eq_some_iff.mp hrun
  simp only [Prod.mk.injEq] at hr
  have h := (hall _ _ _ s hs).tid hr.1
  rw [hr.2] at h
  cases h

end HpscRtems.Link
