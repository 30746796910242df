/-
HpscRtems.Link.ExchangeTheorems — when a request returns the size of a
reply that came in time.

ACK and reply are the same event of the same task, and each of the two
waits takes whatever is pending. If both posts are made before the first
wait is woken, that wait takes both and the second one has nothing left to
wait for. `returnedSize_iff_inOrder` says that this, and three other
orders of the deliveries, are all that can go wrong.
-/
import HpscRtems.Link.Exchange

namespace HpscRtems.Link

open Machine Rtems

namespace Exchange

variable {size : Nat} {x x' : Exchange} {a : Act}

/-! ## §1 What every run of the exchange keeps -/

structure Inv (size : Nat) (x : Exchange) : Prop where
  link : LinkInv x.link
  request : ∀ tid c pc, x.link.req = .running tid c pc → c.isRequest = true
  notIdle : x.link.req ≠ .idle
  started : x.ackStarted = true ∨ x.recvStarted = true → x.link.req.sent = true
  ack : x.link.ack ≠ .idle → x.ackStarted = true
  recv : x.link.recv ≠ .idle → x.recvStarted = true
  haveRead : ∀ k, x.link.recv = .haveRead k → k = size
  stored : x.Stored → x.link.rctx.replySzRead = size
  notStored : ∀ tid c pc, x.link.req = .running tid c pc → 1 ≤ pc.rank → ¬ x.Stored →
    x.link.rctx.replySzRead = 0
  rc : ∀ tid c pc rc events, x.link.req = .running tid c pc →
    pc = .waitAck rc ∨ pc = .checkAck rc events → rc ≠ 0
  aimed : x.link.req.isRunning = true → x.link.Aimed

/-- A step of the exchange is an allowed step of the link. -/
theorem exchangeStep_some (h : exchangeStep size x a = some x') :
    x.Allowed size a ∧ step x.link a = some x'.link ∧
      x'.ackStarted = (x.ackStarted || a == .ack) ∧
      x'.recvStarted = (x.recvStarted || a.isRecvReply) := by
  unfold exchangeStep at h
  split at h
  · obtain ⟨l, hl, rfl⟩ := Option.map_eq_some_iff.mp h
    exact ⟨‹_›, hl, rfl, rfl⟩
  · cases h

/-- What the requester's own steps leave alone. -/
theorem requester_frame (ha : a ≠ .ack) (hb : a.isRecvReply = false)
    (h : exchangeStep size x a = some x') :
    x'.ackStarted = x.ackStarted ∧ x'.recvStarted = x.recvStarted ∧
      x'.link.ack = x.link.ack ∧ x'.link.recv = x.link.recv := by
  obtain ⟨_, hs, h1, h2⟩ := exchangeStep_some h
  refine ⟨?_, ?_, step_ack hs ha, step_recv hs hb⟩
  · rw [h1]; simp [ha]
  · rw [h2]; simp [hb]

theorem inv_start (rctx : LinkRequestCtx) (p : Pending) (tid : TaskId) (r : RequestArgs) :
    Inv size (start rctx p tid r) where
  link := LinkInv.goto rfl ⟨by simp [Pc.rank], by simp [Pc.rank], by simp [Pc.rank],
    by simp [Pc.rank], fun _ => rfl⟩
  request := by rintro _ _ _ ⟨⟩; rfl
  notIdle := by simp [start]
  started := by simp [start]
  ack := by simp [start]
  recv := by simp [start]
  haveRead := by simp [start]
  stored := by simp [start, Stored]
  notStored := by rintro _ _ _ ⟨⟩ hk; simp [Pc.rank] at hk
  rc := by rintro _ _ _ _ _ ⟨⟩ (hk | hk) <;> cases hk
  aimed _ := by constructor <;> simp [start]

/-- While the call runs, the deliveries aim at it: they begin when
`tid_requester` and `event_wait` have been written. -/
theorem aimed_step (hi : Inv size x) (h : exchangeStep size x a = some x') :
    x'.link.req.isRunning = true → x'.link.Aimed := by
  obtain ⟨hal, hs, -, -⟩ := exchangeStep_some h
  by_cases ha : a = .ack ∨ a.isRecvReply = true
  · intro hrun
    have hreq : x'.link.req = x.link.req := by
      rcases ha with rfl | ha
      · exact ack_req hs
      · cases a with
        | recvReply n => exact recvReply_req hs
        | _ => cases ha
    exact (hi.aimed (hreq ▸ hrun)).delivery ha hs
  rw [not_or] at ha
  have hack := step_ack hs ha.1
  have hrecv := step_recv hs (by simpa using ha.2)
  -- before the write no delivery has begun
  have hidle : x.link.req.sent = false → x'.link.Aimed := fun hsent => by
    have hno : x.link.ack = .idle ∧ x.link.recv = .idle := by
      constructor
      · by_contra hne
        rw [hi.started (.inl (hi.ack hne))] at hsent
        cases hsent
      · by_contra hne
        rw [hi.started (.inr (hi.recv hne))] at hsent
        cases hsent
    constructor <;> simp [hack, hrecv, hno.1, hno.2]
  have hkeep : x.link.req.isRunning = true →
      x'.link.rctx.tidRequester = x.link.rctx.tidRequester →
      x'.link.rctx.eventWait = x.link.rctx.eventWait → x'.link.Aimed := fun hrun ht he =>
    (hi.aimed hrun).congr hack hrecv ht he
  intro hrun
  generalize x'.link = l at hs hack hrecv hidle hkeep hrun
  cases step_stepped hs with
  | call _ _ _ => exact absurd hal (by simp [Allowed])
  | setTid hr => exact hidle (by rw [hr]; rfl)
  | setEventWait hr => exact hidle (by rw [hr]; rfl)
  | clearTid hr => cases hrun
  | writeFailed hr | acked hr _ _ | ackTimedOut hr _ =>
    exact hkeep (by rw [hr]; rfl) (by simp) (by simp)
  | ackSet | ackTest | ackTid | ackEvent | ackSend => exact absurd rfl ha.1
  | recvStart | recvArgs | recvNull | recvStore | recvSize | recvTest | recvTid | recvEvent
  | recvSend => exact absurd rfl ha.2
  | setReplySzRead hr | setReply hr | setReplySz hr | clearTxAcked hr | written hr _
  | wakeAck hr _ | timeoutAck hr _ _ | assertFailed hr _ _ | wakeReply hr _ | timeoutReply hr _ _
  | replied hr _ | replyTimedOut hr _ => exact hkeep (by rw [hr]; rfl) rfl rfl

/-- A requester's step that goes on to `pc'`. Only the first one, before
anything is sent, changes `reply_sz_read`. -/
theorem Inv.goto {tid : TaskId} {c : Call} {pc pc' : Pc} (hi : Inv size x)
    (hl : LinkInv x'.link) (hr : x.link.req = .running tid c pc)
    (hr' : x'.link.req = .running tid c pc')
    (hsent : x.link.req.sent = true → x'.link.req.sent = true)
    (hz : (1 ≤ pc.rank ∧ x'.link.rctx.replySzRead = x.link.rctx.replySzRead) ∨
      (x.link.req.sent = false ∧ x'.link.rctx.replySzRead = 0))
    (hrc : ∀ rc events, pc' = .waitAck rc ∨ pc' = .checkAck rc events → rc ≠ 0)
    (hf : x'.ackStarted = x.ackStarted ∧ x'.recvStarted = x.recvStarted ∧
      x'.link.ack = x.link.ack ∧ x'.link.recv = x.link.recv)
    (hm : x'.link.req.isRunning = true → x'.link.Aimed) : Inv size x' := by
  obtain ⟨h1, h2, h3, h4⟩ := hf
  have hst : x'.Stored ↔ x.Stored := by simp only [Stored, h2, h4]
  constructor
  · exact hl
  · intro tid' c' pc'' h
    rw [hr'] at h
    cases h
    exact hi.request _ _ _ hr
  · simp [hr']
  · rw [h1, h2]
    exact fun h => hsent (hi.started h)
  · rw [h3, h1]; exact hi.ack
  · rw [h4, h2]; exact hi.recv
  · rw [h4]; exact hi.haveRead
  · intro hq
    rcases hz with ⟨_, hz⟩ | ⟨hns, _⟩
    · rw [hz]
      exact hi.stored (hst.mp hq)
    · rw [hi.started (Or.inr (hst.mp hq).1)] at hns
      cases hns
  · intro _ _ _ _ _ hns
    rcases hz with ⟨hpc, hz⟩ | ⟨_, hz⟩
    · rw [hz]
      exact hi.notStored _ _ _ hr hpc (mt hst.mpr hns)
    · exact hz
  · intro tid' c' pc'' rc events h hk
    rw [hr'] at h
    cases h
    exact hrc rc events hk
  · exact hm

/-- A requester's step that ends the call. -/
theorem Inv.returned {c : Call} {rc : Int} (hi : Inv size x) (hr' : x'.link.req = .returned c rc)
    (hz : x'.link.rctx.replySzRead = x.link.rctx.replySzRead)
    (hf : x'.ackStarted = x.ackStarted ∧ x'.recvStarted = x.recvStarted ∧
      x'.link.ack = x.link.ack ∧ x'.link.recv = x.link.recv)
    (hm : x'.link.req.isRunning = true → x'.link.Aimed) : Inv size x' := by
  obtain ⟨h1, h2, h3, h4⟩ := hf
  have hst : x'.Stored ↔ x.Stored := by simp only [Stored, h2, h4]
  constructor
  · intro _ _ _ h; rw [hr'] at h; cases h
  · intro _ _ _ h; rw [hr'] at h; cases h
  · simp [hr']
  · intro _; rw [hr']; rfl
  · rw [h3, h1]; exact hi.ack
  · rw [h4, h2]; exact hi.recv
  · rw [h4]; exact hi.haveRead
  · rw [hst, hz]; exact hi.stored
  · intro _ _ _ h; rw [hr'] at h; cases h
  · intro _ _ _ _ _ h; rw [hr'] at h; cases h
  · exact hm

/-- `_link_request_send` returns inside a `link_request`. -/
theorem Inv.sendReturns {tid : TaskId} {c : Call} {pc : Pc} {rc : Nat} (hi : Inv size x)
    (hl : LinkInv x'.link) (hr : x.link.req = .running tid c pc) (hpc : 1 ≤ pc.rank)
    (hx : x'.link = x.link.sendReturns tid c rc)
    (hf : x'.ackStarted = x.ackStarted ∧ x'.recvStarted = x.recvStarted ∧
      x'.link.ack = x.link.ack ∧ x'.link.recv = x.link.recv)
    (hm : x'.link.req.isRunning = true → x'.link.Aimed) : Inv size x' := by
  have hz : x'.link.rctx.replySzRead = x.link.rctx.replySzRead := by rw [hx]; simp
  have hc := hi.request _ _ _ hr
  rcases x.link.sendReturns_req tid c rc with ⟨_, _, h⟩ | ⟨_, _, h⟩ | ⟨hc', _⟩
  · exact hi.returned (hx ▸ h) hz hf hm
  · refine hi.goto hl hr (hx ▸ h) (fun _ => by rw [hx, h]; rfl) (Or.inl ⟨hpc, hz⟩) ?_ hf hm
    rintro rc events (hk | hk) <;> cases hk
  · rw [hc] at hc'; cases hc'

/-- A delivery's step, which leaves the requester alone. -/
theorem Inv.delivery (hi : Inv size x) (hl : LinkInv x'.link) (hreq : x'.link.req = x.link.req)
    (hstarted : x'.ackStarted = true ∨ x'.recvStarted = true → x.link.req.sent = true)
    (hack : x'.link.ack ≠ .idle → x'.ackStarted = true)
    (hrecv : x'.link.recv ≠ .idle → x'.recvStarted = true)
    (hread : ∀ k, x'.link.recv = .haveRead k → k = size)
    (hst : x'.Stored → x'.link.rctx.replySzRead = size)
    (hns : ¬ x'.Stored → ¬ x.Stored ∧ x'.link.rctx.replySzRead = x.link.rctx.replySzRead)
    (hm : x'.link.req.isRunning = true → x'.link.Aimed) : Inv size x' where
  link := hl
  request := by rw [hreq]; exact hi.request
  notIdle := by rw [hreq]; exact hi.notIdle
  started := by rw [hreq]; exact hstarted
  ack := hack
  recv := hrecv
  haveRead := hread
  stored := hst
  notStored := by
    rw [hreq]
    intro tid c pc hr hpc h
    rw [(hns h).2]
    exact hi.notStored _ _ _ hr hpc (hns h).1
  rc := by rw [hreq]; exact hi.rc
  aimed := hm

theorem inv_ack (hi : Inv size x) (h : exchangeStep size x .ack = some x') : Inv size x' := by
  obtain ⟨ha, hs, h1, h2⟩ := exchangeStep_some h
  have hl := linkInv_step hi.link hs
  have h1' : x'.ackStarted = true := by rw [h1]; simp
  have h2' : x'.recvStarted = x.recvStarted := by rw [h2]; simp [Act.isRecvReply]
  have hrecv : x'.link.recv = x.link.recv := step_recv hs rfl
  have hz : x'.link.rctx.replySzRead = x.link.rctx.replySzRead := by
    generalize x'.link = l at hs
    cases step_stepped hs <;> rfl
  have hst : x'.Stored ↔ x.Stored := by simp only [Stored, h2', hrecv]
  refine hi.delivery hl (ack_req hs) (fun _ => ha.1) (fun _ => h1') ?_ ?_ ?_ ?_ (aimed_step hi h)
  · rw [hrecv, h2']; exact hi.recv
  · rw [hrecv]; exact hi.haveRead
  · rw [hst, hz]; exact hi.stored
  · rw [hst, hz]; exact fun h => ⟨h, rfl⟩

theorem inv_recvReply {n : Nat} (hi : Inv size x)
    (h : exchangeStep size x (.recvReply n) = some x') : Inv size x' := by
  obtain ⟨⟨hn, hsent, hnd⟩, hs, h1, h2⟩ := exchangeStep_some h
  have hl := linkInv_step hi.link hs
  have h1' : x'.ackStarted = x.ackStarted := by rw [h1]; simp
  have h2' : x'.recvStarted = true := by rw [h2]; simp [Act.isRecvReply]
  have hack : x'.link.ack = x.link.ack := step_ack hs (by simp)
  have hold : ¬ (x.recvStarted = true ∧ x.link.recv = .idle) := hnd
  refine hi.delivery hl (recvReply_req hs) (fun _ => hsent) (by rw [hack, h1']; exact hi.ack)
    (fun _ => h2') ?_ ?_ ?_ (aimed_step hi h)
  · -- the size held is the one read
    obtain ⟨l, b1, b2⟩ := x'
    cases step_stepped hs with
    | recvStore _ _ => rintro k ⟨⟩; exact hn
    | recvTest _ _ =>
      intro k hk
      by_cases ht : x.link.rctx.tidRequester = idNone <;> simp [ht] at hk
    | _ => rintro k ⟨⟩
  · obtain ⟨l, b1, b2⟩ := x'
    cases step_stepped hs with
    | recvSize _ hr => exact fun _ => hi.haveRead _ hr
    | recvTest _ hr => exact fun _ => hi.stored ⟨hi.recv (by simp [hr]), Or.inr (Or.inl hr)⟩
    | recvTid _ hr | recvEvent _ hr | recvSend _ hr =>
      exact fun _ => hi.stored ⟨hi.recv (by simp [hr]), Or.inr (Or.inr (by rw [hr]; rfl))⟩
    | _ => simp [Stored, RecvPc.sending]
  · obtain ⟨l, b1, b2⟩ := x'
    simp only at h2'
    cases step_stepped hs with
    | recvStart _ hr => exact fun _ => ⟨fun hq => hold ⟨hq.1, hr⟩, rfl⟩
    | recvArgs _ hr => exact fun _ => ⟨fun hq => by simp [Stored, hr, RecvPc.sending] at hq, rfl⟩
    | recvNull _ hr => exact fun _ => ⟨fun hq => by simp [Stored, hr, RecvPc.sending] at hq, rfl⟩
    | recvStore _ hr => exact fun _ => ⟨fun hq => by simp [Stored, hr, RecvPc.sending] at hq, rfl⟩
    | recvSize _ _ => simp [Stored, h2']
    | recvTest _ _ =>
      by_cases ht : x.link.rctx.tidRequester = idNone <;> simp [Stored, h2', ht, RecvPc.sending]
    | recvTid _ _ | recvEvent _ _ | recvSend _ _ => simp [Stored, h2', RecvPc.sending]

theorem inv_step (hi : Inv size x) (h : exchangeStep size x a = some x') : Inv size x' := by
  by_cases ha : a = .ack
  · subst ha
    exact inv_ack hi h
  by_cases hb : a.isRecvReply = true
  · cases a with
    | recvReply n => exact inv_recvReply hi h
    | _ => cases hb
  have hf := requester_frame ha (by simpa using hb) h
  obtain ⟨hal, hs, h1, h2⟩ := exchangeStep_some h
  have hl := linkInv_step hi.link hs
  have hm := aimed_step hi h
  obtain ⟨l, b1, b2⟩ := x'
  simp only at hs hl
  cases step_stepped hs with
  | call _ _ _ => exact absurd hal (by simp [Allowed])
  | setReplySzRead hr =>
    exact hi.goto hl hr rfl (by simp [hr, Requester.sent, Pc.rank])
      (Or.inr ⟨by rw [hr]; rfl, rfl⟩) (by simp) hf hm
  | setReply hr =>
    exact hi.goto hl hr rfl (by simp [hr, Requester.sent, Pc.rank])
      (Or.inl ⟨by simp [Pc.rank], rfl⟩) (by simp) hf hm
  | setReplySz hr =>
    exact hi.goto hl hr rfl (by simp [hr, Requester.sent, Pc.rank])
      (Or.inl ⟨by simp [Pc.rank], rfl⟩) (by simp) hf hm
  | setTid hr =>
    exact hi.goto hl hr rfl (by simp [hr, Requester.sent, Pc.rank])
      (Or.inl ⟨by simp [Pc.rank], rfl⟩) (by simp) hf hm
  | setEventWait hr =>
    exact hi.goto hl hr rfl (by simp [hr, Requester.sent, Pc.rank])
      (Or.inl ⟨by simp [Pc.rank], rfl⟩) (by simp) hf hm
  | clearTxAcked hr =>
    exact hi.goto hl hr rfl (by simp [hr, Requester.sent, Pc.rank])
      (Or.inl ⟨by simp [Pc.rank], rfl⟩) (by simp) hf hm
  | writeFailed hr => exact absurd rfl hal
  | written hr hrc =>
    exact hi.goto hl hr rfl (fun _ => rfl) (Or.inl ⟨(by decide), rfl⟩) (by simp [hrc]) hf hm
  | wakeAck hr _ =>
    refine hi.goto hl hr rfl (fun _ => rfl) (Or.inl ⟨by simp [Pc.rank], rfl⟩) ?_ hf hm
    rintro rc events (hk | hk) <;> cases hk
    exact hi.rc _ _ _ _ 0 hr (Or.inl rfl)
  | timeoutAck hr _ _ =>
    refine hi.goto hl hr rfl (fun _ => rfl) (Or.inl ⟨by simp [Pc.rank], rfl⟩) ?_ hf hm
    rintro rc events (hk | hk) <;> cases hk
    exact hi.rc _ _ _ _ 0 hr (Or.inl rfl)
  | acked hr _ _ => exact hi.sendReturns hl hr (by simp [Pc.rank]) rfl hf hm
  | assertFailed hr _ _ =>
    exact hi.goto hl hr rfl (fun _ => rfl) (Or.inl ⟨by simp [Pc.rank], rfl⟩) (by simp) hf hm
  | ackTimedOut hr _ => exact hi.sendReturns hl hr (by simp [Pc.rank]) rfl hf hm
  | wakeReply hr _ =>
    exact hi.goto hl hr rfl (fun _ => rfl) (Or.inl ⟨by simp [Pc.rank], rfl⟩) (by simp) hf hm
  | timeoutReply hr _ _ =>
    exact hi.goto hl hr rfl (fun _ => rfl) (Or.inl ⟨by simp [Pc.rank], rfl⟩) (by simp) hf hm
  | replied hr _ =>
    exact hi.goto hl hr rfl (fun _ => rfl) (Or.inl ⟨by simp [Pc.rank], rfl⟩) (by simp) hf hm
  | replyTimedOut hr _ =>
    exact hi.goto hl hr rfl (fun _ => rfl) (Or.inl ⟨by simp [Pc.rank], rfl⟩) (by simp) hf hm
  | clearTid hr => exact hi.returned rfl rfl hf hm
  | ackSet _ => exact absurd rfl ha
  | ackTest _ => exact absurd rfl ha
  | ackTid _ => exact absurd rfl ha
  | ackEvent _ => exact absurd rfl ha
  | ackSend _ => exact absurd rfl ha
  | recvStart _ _ => exact absurd rfl hb
  | recvArgs _ _ => exact absurd rfl hb
  | recvNull _ _ => exact absurd rfl hb
  | recvStore _ _ => exact absurd rfl hb
  | recvSize _ _ => exact absurd rfl hb
  | recvTest _ _ => exact absurd rfl hb
  | recvTid _ _ => exact absurd rfl hb
  | recvEvent _ _ => exact absurd rfl hb
  | recvSend _ _ => exact absurd rfl hb

/-! ## §2 Deliveries and the pending event -/

/-- A delivery leaves the requester where it is. Either it leaves the event
pending, or nothing has changed for the requester and no delivery has
become complete. -/
theorem delivery_notified {tid : TaskId} {c : Call} {pc : Pc} (hi : Inv size x)
    (ha : a = .ack ∨ a.isRecvReply = true) (hr : x.link.req = .running tid c pc)
    (h : exchangeStep size x a = some x') :
    x'.link.rctx.eventWait = x.link.rctx.eventWait ∧
      (x'.link.notified = true ∨ (x'.link.notified = x.link.notified ∧
        (x'.AckDone → x.AckDone) ∧ (x'.RecvDone → x.RecvDone))) := by
  obtain ⟨hal, hs, h1, h2⟩ := exchangeStep_some h
  have hsent : x.link.req.sent = true := by
    rcases ha with rfl | ha
    · exact hal.1
    · cases a with
      | recvReply n => exact hal.2.1
      | _ => cases ha
  have hpc : 6 ≤ pc.rank := by
    rw [hr] at hsent
    simp only [Requester.sent, Bool.and_eq_true, decide_eq_true_eq] at hsent
    exact hsent.1
  have htid : x.link.rctx.tidRequester ≠ idNone := by
    rw [(hi.link _ _ _ hr).tidRequester (by omega)]
    exact tid.2
  have haimed := hi.aimed (by rw [hr]; rfl)
  have hpost : ∀ {id ev}, id = x.link.rctx.tidRequester ∧ ev = x.link.rctx.eventWait →
      (x.link.post id ev).notified = true := by
    rintro id ev ⟨rfl, rfl⟩
    rw [LinkState.notified_post, hi.link.hasEvent_eventWait hr (by omega)]
    simp
  obtain ⟨l, b1, b2⟩ := x'
  simp only at h1 h2
  cases step_stepped hs with
  | ackSet _ =>
    exact ⟨rfl, Or.inr ⟨rfl, by simp [AckDone], by simp [RecvDone, h2, Act.isRecvReply]⟩⟩
  | ackTest _ =>
    exact ⟨rfl, Or.inr ⟨rfl, by simp [AckDone, htid], by simp [RecvDone, h2, Act.isRecvReply]⟩⟩
  | ackTid _ =>
    exact ⟨rfl, Or.inr ⟨rfl, by simp [AckDone], by simp [RecvDone, h2, Act.isRecvReply]⟩⟩
  | ackEvent _ =>
    exact ⟨rfl, Or.inr ⟨rfl, by simp [AckDone], by simp [RecvDone, h2, Act.isRecvReply]⟩⟩
  | ackSend hk => exact ⟨rfl, Or.inl (hpost (haimed.ackPost _ _ hk))⟩
  | recvStart _ _ => exact ⟨rfl, Or.inr ⟨rfl, by simp [AckDone, h1], by simp [RecvDone]⟩⟩
  | recvArgs _ _ => exact ⟨rfl, Or.inr ⟨rfl, by simp [AckDone, h1], by simp [RecvDone]⟩⟩
  | recvNull _ _ => exact ⟨rfl, Or.inr ⟨rfl, by simp [AckDone, h1], by simp [RecvDone]⟩⟩
  | recvStore _ _ => exact ⟨rfl, Or.inr ⟨rfl, by simp [AckDone, h1], by simp [RecvDone]⟩⟩
  | recvSize _ _ => exact ⟨rfl, Or.inr ⟨rfl, by simp [AckDone, h1], by simp [RecvDone]⟩⟩
  | recvTest _ _ =>
    exact ⟨rfl, Or.inr ⟨rfl, by simp [AckDone, h1], by simp [RecvDone, htid]⟩⟩
  | recvTid _ _ => exact ⟨rfl, Or.inr ⟨rfl, by simp [AckDone, h1], by simp [RecvDone]⟩⟩
  | recvEvent _ _ => exact ⟨rfl, Or.inr ⟨rfl, by simp [AckDone, h1], by simp [RecvDone]⟩⟩
  | recvSend _ hk => exact ⟨rfl, Or.inl (hpost (haimed.recvPost _ _ hk))⟩
  | _ => rcases ha with ha | ha <;> cases ha

/-- Once both deliveries are complete there are no more. -/
theorem no_delivery (ha : a = .ack ∨ a.isRecvReply = true) (h1 : x.AckDone) (h2 : x.RecvDone) :
    exchangeStep size x a = none := by
  rcases ha with rfl | ha
  · simp [exchangeStep, Allowed, h1]
  · cases a with
    | recvReply n => simp [exchangeStep, Allowed, h2]
    | _ => cases ha

theorem delivery_req (ha : a = .ack ∨ a.isRecvReply = true) (h : exchangeStep size x a = some x') :
    x'.link.req = x.link.req := by
  obtain ⟨_, hs, _, _⟩ := exchangeStep_some h
  rcases ha with rfl | ha
  · exact ack_req hs
  · cases a with
    | recvReply n => exact recvReply_req hs
    | _ => cases ha

/-! ## §3 Deliveries in order: the request is on its way to the size -/

/-- What is left to happen will return `size`. -/
def OnTrack (size : Nat) (x : Exchange) : Prop :=
  match x.link.req with
  | .running _ _ (.waitAck _) => x.AckDone ∨ x.RecvDone → x.link.notified = true
  | .running _ _ (.checkAck _ events) =>
    hasEvent events x.link.rctx.eventWait = true ∧
      (x.AckDone ∧ x.RecvDone → x.link.notified = true)
  | .running _ _ .waitReply => x.AckDone ∧ x.RecvDone → x.link.notified = true
  | .running _ _ (.checkReply events) => hasEvent events x.link.rctx.eventWait = true
  | .running _ _ (.clearTid rc) => rc = size
  | .running _ _ .assertFailed => False
  | .returned _ rc => rc = size
  | _ => True

/-- A delivery keeps the request on its way. -/
theorem onTrack_delivery (hi : Inv size x) (ht : OnTrack size x)
    (ha : a = .ack ∨ a.isRecvReply = true) (h : exchangeStep size x a = some x') :
    OnTrack size x' := by
  have hreq := delivery_req ha h
  unfold OnTrack at ht ⊢
  cases hr : x.link.req with
  | running tid c pc =>
    obtain ⟨he, hn⟩ := delivery_notified hi ha hr h
    rw [hreq]
    simp only [hr] at ht ⊢
    cases pc with
    | waitAck rc =>
      intro hd
      rcases hn with hn | ⟨hn, h1, h2⟩
      · exact hn
      · rw [hn]
        exact ht (hd.imp h1 h2)
    | checkAck rc events =>
      refine ⟨by rw [he]; exact ht.1, fun hd => ?_⟩
      rcases hn with hn | ⟨hn, h1, h2⟩
      · exact hn
      · rw [hn]
        exact ht.2 (hd.imp h1 h2)
    | waitReply =>
      intro hd
      rcases hn with hn | ⟨hn, h1, h2⟩
      · exact hn
      · rw [hn]
        exact ht (hd.imp h1 h2)
    | checkReply events => rw [he]; exact ht
    | _ => exact ht
  | idle => exact absurd hr hi.notIdle
  | returned c rc =>
    rw [hreq]
    simp only [hr] at ht ⊢
    exact ht

theorem onTrack_step (hi : Inv size x) (ht : OnTrack size x) (hg : InOrder size x a)
    (h : exchangeStep size x a = some x') : OnTrack size x' := by
  by_cases ha : a = .ack ∨ a.isRecvReply = true
  · exact onTrack_delivery hi ht ha h
  rw [not_or] at ha
  have hf := requester_frame ha.1 (by simpa using ha.2) h
  obtain ⟨hal, hs, -, -⟩ := exchangeStep_some h
  have hdone : (x'.AckDone ↔ x.AckDone) ∧ (x'.RecvDone ↔ x.RecvDone) := by
    simp only [AckDone, RecvDone, hf.1, hf.2.1, hf.2.2.1, hf.2.2.2, and_self]
  have hsend : ∀ {tid c pc rc}, x.link.req = .running tid c pc → rc ≠ 0 →
      (x.AckDone ∧ x.RecvDone → x.link.notified = true) →
      x'.link = x.link.sendReturns tid c rc → OnTrack size x' := by
    intro tid c pc rc hr hrc hn hx
    rcases x.link.sendReturns_req tid c rc with ⟨_, hz, _⟩ | ⟨_, _, hq⟩ | ⟨hc, _⟩
    · exact absurd hz hrc
    · have hnot : x'.link.notified = x.link.notified := by
        unfold LinkState.notified
        rw [hx]
        simp
      simp only [OnTrack, hx ▸ hq, hdone, hnot]
      exact hn
    · rw [hi.request _ _ _ hr] at hc
      cases hc
  obtain ⟨l, b1, b2⟩ := x'
  simp only at hs
  simp only [OnTrack] at ht
  cases step_stepped hs with
  | call _ _ _ => exact absurd hal (by simp [Allowed])
  | writeFailed hr => exact absurd rfl hal
  | written hr hrc =>
    intro hd
    have hst : x.link.req.sent = true := hi.started (by
      rcases hd with hd | hd
      · exact Or.inl (hdone.1.mp hd).1
      · exact Or.inr (hdone.2.mp hd).1)
    rw [hr] at hst
    cases hst
  | wakeAck hr he =>
    refine ⟨by simp [LinkState.events, he], fun hd => ?_⟩
    exact absurd ⟨hdone.1.mp hd.1, hdone.2.mp hd.2⟩ (hg.wakeAck rfl (by rw [hr]; rfl))
  | timeoutAck hr _ he =>
    -- the ACK is complete, so its event is pending and the wait cannot time out
    simp only [hr] at ht
    have hd : x.AckDone := by simpa [Allowed, hr, Requester.inReplyWait] using hal
    rw [← hi.link.notified_eq hr (by simp [Pc.rank]), ht (Or.inl hd)] at he
    cases he
  | acked hr _ _ =>
    simp only [hr] at ht
    exact hsend hr (hi.rc _ _ _ _ _ hr (Or.inr rfl)) ht.2 rfl
  | assertFailed hr he hna =>
    rw [hg.checkAck rfl (by rw [hr]; exact he)] at hna
    cases hna
  | ackTimedOut hr he =>
    simp only [hr] at ht
    rw [ht.1] at he
    cases he
  | wakeReply hr he => simp [OnTrack, LinkState.events, he]
  | timeoutReply hr _ he =>
    simp only [hr] at ht
    have hd : x.RecvDone := by simpa [Allowed, hr, Requester.inReplyWait] using hal
    have hd' : x.AckDone := hg.timeoutReply rfl (by rw [hr]; rfl)
    rw [← hi.link.notified_eq hr (by simp [Pc.rank]), ht ⟨hd', hd⟩] at he
    cases he
  | replied hr _ =>
    show (x.link.rctx.replySzRead : Int) = size
    by_cases hst : x.Stored
    · rw [hi.stored hst]
    · have hz := (hg.takeReply rfl (by rw [hr]; rfl)).resolve_left hst
      rw [hi.notStored _ _ _ hr (by simp [Pc.rank]) hst, hz]
  | replyTimedOut hr he =>
    simp only [hr] at ht
    rw [ht] at he
    cases he
  | clearTid hr =>
    simp only [hr] at ht
    exact ht
  | ackSet _ => exact absurd rfl ha.1
  | ackTest _ => exact absurd rfl ha.1
  | ackTid _ => exact absurd rfl ha.1
  | ackEvent _ => exact absurd rfl ha.1
  | ackSend _ => exact absurd rfl ha.1
  | recvStart _ _ => exact absurd rfl ha.2
  | recvArgs _ _ => exact absurd rfl ha.2
  | recvNull _ _ => exact absurd rfl ha.2
  | recvStore _ _ => exact absurd rfl ha.2
  | recvSize _ _ => exact absurd rfl ha.2
  | recvTest _ _ => exact absurd rfl ha.2
  | recvTid _ _ => exact absurd rfl ha.2
  | recvEvent _ _ => exact absurd rfl ha.2
  | recvSend _ _ => exact absurd rfl ha.2
  | _ => trivial

/-! ## §4 Deliveries out of order: the size will not be returned -/

/-- Whatever happens, `size` will not be returned. -/
def Doomed (size : Nat) (x : Exchange) : Prop :=
  match x.link.req with
  | .running _ _ (.checkAck _ events) =>
    hasEvent events x.link.rctx.eventWait = false ∨
      (x.AckDone ∧ x.RecvDone ∧ x.link.notified = false)
  | .running _ _ .waitReply => x.AckDone ∧ x.RecvDone ∧ x.link.notified = false
  | .running _ _ (.checkReply events) => hasEvent events x.link.rctx.eventWait = false
  | .running _ _ (.clearTid rc) => rc ≠ size
  | .running _ _ .assertFailed => True
  | .returned _ rc => rc ≠ size
  | _ => False

theorem not_returnedSize_of_doomed (h : Doomed size x) : ¬ x.ReturnedSize size := by
  intro hk
  obtain ⟨c, hr⟩ := hk
  simp only [Doomed, hr] at h
  exact h rfl

/-- A step out of order dooms the request. -/
theorem doomed_of_not_inOrder (hi : Inv size x) (h : exchangeStep size x a = some x')
    (hg : ¬ InOrder size x a) : Doomed size x' := by
  obtain ⟨hal, hs, -, -⟩ := exchangeStep_some h
  by_contra hd
  apply hg
  constructor
  · intro rfl hw hk
    obtain ⟨h1, h2⟩ := hk
    have hf := requester_frame (by simp) rfl h
    obtain ⟨l, b1, b2⟩ := x'
    cases step_stepped hs with
    | wakeAck hr _ =>
      refine hd (Or.inr ⟨⟨hf.1.trans h1.1, h1.2⟩, ⟨hf.2.1.trans h2.1, h2.2⟩, ?_⟩)
      have hk := (hi.link _ _ _ hr).tidRequester (by simp [Pc.rank])
      simp [LinkState.notified, hk]
    | wakeReply hr _ => rw [hr] at hw; cases hw
  · rintro rfl he
    obtain ⟨l, b1, b2⟩ := x'
    cases step_stepped hs with
    | acked _ _ hacked => exact hacked
    | assertFailed _ _ _ => exact absurd trivial hd
    | ackTimedOut hr hne =>
      rw [hr] at he
      simp only [Requester.ackEvents] at he
      rw [he] at hne
      cases hne
    | _ => simp_all [Requester.ackEvents]
  · rintro rfl hw
    obtain ⟨l, b1, b2⟩ := x'
    cases step_stepped hs with
    | timeoutAck hr _ _ => rw [hr] at hw; cases hw
    | timeoutReply hr _ _ => exact absurd (hasEvent_zero _) hd
  · rintro rfl hw
    obtain ⟨l, b1, b2⟩ := x'
    cases step_stepped hs with
    | replied hr _ =>
      by_contra hn
      rw [not_or] at hn
      apply hd
      show (x.link.rctx.replySzRead : Int) ≠ size
      rw [hi.notStored _ _ _ hr (by simp [Pc.rank]) hn.1]
      exact fun hq => hn.2 (by omega)
    | replyTimedOut hr _ =>
      exfalso
      apply hd
      show (-2 : Int) ≠ size
      omega
    | _ => simp_all [Requester.takesReply]

/-- A doomed request stays doomed. -/
theorem doomed_step (hi : Inv size x) (hd : Doomed size x) (h : exchangeStep size x a = some x') :
    Doomed size x' := by
  by_cases ha : a = .ack ∨ a.isRecvReply = true
  · have hreq := delivery_req ha h
    have hno : ¬ (x.AckDone ∧ x.RecvDone) := by
      intro hk
      obtain ⟨h1, h2⟩ := hk
      rw [no_delivery ha h1 h2] at h
      cases h
    unfold Doomed at hd ⊢
    rw [hreq]
    cases hr : x.link.req with
    | running tid c pc =>
      have he := (delivery_notified hi ha hr h).1
      simp only [hr] at hd ⊢
      cases pc with
      | checkAck rc events =>
        rcases hd with hd | ⟨h1, h2, _⟩
        · exact Or.inl (by rw [he]; exact hd)
        · exact absurd ⟨h1, h2⟩ hno
      | waitReply => exact absurd ⟨hd.1, hd.2.1⟩ hno
      | checkReply events => rw [he]; exact hd
      | _ => exact hd
    | idle => exact absurd hr hi.notIdle
    | returned c rc =>
      simp only [hr] at hd
      exact hd
  rw [not_or] at ha
  have hf := requester_frame ha.1 (by simpa using ha.2) h
  obtain ⟨hal, hs, -, -⟩ := exchangeStep_some h
  have hdone : (x'.AckDone ↔ x.AckDone) ∧ (x'.RecvDone ↔ x.RecvDone) := by
    simp only [AckDone, RecvDone, hf.1, hf.2.1, hf.2.2.1, hf.2.2.2, and_self]
  obtain ⟨l, b1, b2⟩ := x'
  simp only at hs
  simp only [Doomed] at hd
  cases step_stepped hs with
  | @acked tid c rc events hr he _ =>
    simp only [hr] at hd
    rcases hd with hd | hd
    · rw [he] at hd; cases hd
    · rcases x.link.sendReturns_req tid c rc with ⟨_, hz, _⟩ | ⟨_, _, hq⟩ | ⟨hc, _⟩
      · exact absurd hz (hi.rc _ _ _ _ _ hr (Or.inr rfl))
      · simp only [Doomed, hq, hdone]
        refine ⟨hd.1, hd.2.1, ?_⟩
        have hn := hd.2.2
        unfold LinkState.notified at hn ⊢
        simpa using hn
      · rw [hi.request _ _ _ hr] at hc; cases hc
  | assertFailed _ _ _ => trivial
  | @ackTimedOut tid c rc events hr _ =>
    rcases x.link.sendReturns_req tid c 0 with ⟨_, _, hq⟩ | ⟨_, hz, _⟩ | ⟨hc, _⟩
    · simp only [Doomed, hq]
      omega
    · exact absurd rfl hz
    · rw [hi.request _ _ _ hr] at hc; cases hc
  | wakeReply hr he =>
    simp only [hr] at hd
    rw [← hi.link.notified_eq hr (by simp [Pc.rank]), hd.2.2] at he
    cases he
  | timeoutReply _ _ _ => exact hasEvent_zero _
  | replied hr he =>
    simp only [hr] at hd
    rw [hd] at he
    cases he
  | replyTimedOut _ _ =>
    show (-2 : Int) ≠ size
    omega
  | clearTid hr =>
    simp only [hr] at hd
    exact hd
  | call _ _ _ => exact absurd hal (by simp [Allowed])
  | writeFailed _ => exact absurd rfl hal
  | ackTest _ => exact absurd rfl ha.1
  | recvTest _ _ => exact absurd rfl ha.2
  | _ => simp_all

/-! ## §5 Runs -/

/-- A settled request on its way has arrived. -/
theorem returnedSize_of_onTrack (hi : Inv size x) (ht : OnTrack size x) (hs : x.Settled) :
    x.ReturnedSize size := by
  obtain ⟨h1, h2, hrun, hwake, _⟩ := hs
  cases hr : x.link.req with
  | idle => exact absurd hr hi.notIdle
  | returned c rc =>
    simp only [OnTrack, hr] at ht
    exact ⟨c, by rw [hr, ht]⟩
  | running tid c pc =>
    exfalso
    have hsent := hi.started (Or.inl h1.1)
    -- a pending event would let the wait go on
    have hpend : LinkState.afterReceive (x.link.events tid) pc ≠ none → 4 ≤ pc.rank →
        x.link.notified = true → False := by
      intro hpc hk hn
      rw [hi.link.notified_eq hr hk] at hn
      simp only [step, hr, hn, if_true, Option.map_eq_none_iff] at hwake
      exact hpc hwake
    simp only [OnTrack, hr] at ht
    cases pc with
    | waitAck rc =>
      exact hpend (by simp [LinkState.afterReceive]) (by simp [Pc.rank]) (ht (Or.inl h1))
    | waitReply => exact hpend (by simp [LinkState.afterReceive]) (by simp [Pc.rank]) (ht ⟨h1, h2⟩)
    | checkAck rc events =>
      simp only [step, hr, LinkState.runStep, ht.1, if_true] at hrun
      split at hrun <;> cases hrun
    | checkReply events => simp [step, hr, LinkState.runStep, ht] at hrun
    | clearTid rc => simp [step, hr, LinkState.runStep] at hrun
    | assertFailed => exact ht
    | _ => simp [hr, Requester.sent, Pc.rank] at hsent

/-- **A reply in time is returned exactly when the deliveries come in
order.** For every link, every state it was left in and every interleaving
in which the write succeeds, both deliveries complete once and no wait
times out before its delivery is complete. -/
theorem returnedSize_iff_inOrder (size : Nat) (rctx : LinkRequestCtx) (p : Pending)
    (tid : TaskId) (r : RequestArgs) (as : List Act) (x : Exchange)
    (h : exec (exchangeStep size) (start rctx p tid r) as = some x) (hs : x.Settled) :
    x.ReturnedSize size ↔ Along (exchangeStep size) (InOrder size) (start rctx p tid r) as := by
  have h0 : Inv size (start rctx p tid r) := inv_start rctx p tid r
  constructor
  · intro hret
    refine along_of_exec (D := Doomed size) (fun _ _ _ hi h => inv_step hi h)
      (fun _ _ _ hi h hg => doomed_of_not_inOrder hi h hg)
      (fun _ _ _ hi hd h => doomed_step hi hd h) h0 h ?_
    exact fun hd => not_returnedSize_of_doomed hd hret
  · intro hG
    have hinv : Inv size x ∧ OnTrack size x :=
      exec_invariant (I := fun x => Inv size x ∧ OnTrack size x)
        (fun _ _ _ hi hg h => ⟨inv_step hi.1 h, onTrack_step hi.1 hi.2 hg h⟩)
        ⟨h0, trivial⟩ hG h
    exact returnedSize_of_onTrack hinv.1 hinv.2 hs

/-- A request for at most 64 bytes, on a link without leftovers. -/
def aRequest : Exchange :=
  start ⟨0, 0, false, none, 0, 0⟩ (fun _ => 0) 1 ⟨10, [], 64, 10, some 4096, 64, 0⟩

/-- The ACK, the first wake-up, the reply, the second wake-up. -/
def oneByOne : List Act :=
  [.run, .run, .run, .run, .run, .run, .write 64, .ack, .ack, .ack, .ack, .ack,
   .wake, .run, .recvReply 64, .recvReply 64, .recvReply 64, .recvReply 64, .recvReply 64,
   .recvReply 64, .recvReply 64, .recvReply 64, .wake, .run, .run]

theorem oneByOne_returnedSize :
    ∃ x, exec (exchangeStep 64) aRequest oneByOne = some x ∧ x.ReturnedSize 64 := by
  have h : ((exec (exchangeStep 64) aRequest oneByOne).any fun x => x.Settled) = true := by
    decide
  obtain ⟨x, hx, hs⟩ := (Option.any_eq_true _ _).mp h
  exact ⟨x, hx, (returnedSize_iff_inOrder 64 _ _ _ _ oneByOne x hx (by simpa using hs)).mpr
    (by decide)⟩

/-- The ACK and the reply before the requester is scheduled again. -/
def bothAtOnce : List Act :=
  [.run, .run, .run, .run, .run, .run, .write 64, .ack, .ack, .ack, .ack, .ack,
   .recvReply 64, .recvReply 64, .recvReply 64, .recvReply 64, .recvReply 64, .recvReply 64,
   .recvReply 64, .recvReply 64, .wake, .run, .timeout, .run, .run]

/-- When both come before the first wake-up, the request returns -2. -/
theorem bothAtOnce_not_returnedSize :
    ¬ ∀ (size : Nat) (rctx : LinkRequestCtx) (p : Pending) (tid : TaskId) (r : RequestArgs)
      (as : List Act) (x : Exchange), exec (exchangeStep size) (start rctx p tid r) as = some x →
      x.Settled → x.ReturnedSize size := by
  intro hall
  have h : ((exec (exchangeStep 64) aRequest bothAtOnce).any fun x => x.Settled ∧
      x.link.req = .returned (.request 10 [] 64 10 (some 4096) 64 0) (-2)) = true := by
    decide
  obtain ⟨x, hx, hs⟩ := (Option.any_eq_true _ _).mp h
  rw [decide_eq_true_eq] at hs
  obtain ⟨c, hc⟩ := hall 64 _ _ _ _ bothAtOnce x hx hs.1
  rw [hs.2] at hc
  cases hc

end Exchange

end HpscRtems.Link
