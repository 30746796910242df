/-
HpscRtems.Shmem.PingTheorems — a ping comes back byte for byte.

The run is the one of `protocolOrder`, taken in four parts: the request is
written, read and acknowledged (`request_part`), the handler takes it and
writes the reply (`serve_part`), the reply is read and acknowledged
(`reply_part`), and `cmd_flush` returns (`finish_part`). `Holds` is what is
to be known of a region between two steps: its message and its two bits.
-/
import HpscRtems.Command.FlushTheorems
import HpscRtems.Shmem.Request

namespace HpscRtems.Shmem

open Machine Rtems Command Server Link

/-! ## §1 Regions -/

/-- The region holds the message, with the bits NEW and ACK as given. -/
structure Holds (r : HpscShmemRegion) (m : Msg) (new ack : Bool) : Prop where
  data : readMsg r = m
  isNew : pollSees r statusBitNew = new
  isAck : pollSees r statusBitAck = ack

theorem holds_write {r : HpscShmemRegion} {m : Msg} {new ack : Bool} (h : Holds r m new ack)
    (mem : Mem) {p : Nat} (hp : isAligned p = true) :
    ∃ r', linkShmemWrite r mem p hpscMsgSize = some (r', hpscMsgSize) ∧
      Holds r' (Msg.ofMem fun i => mem (p + i)) true ack := by
  obtain ⟨r', hw⟩ := shmemWrite_isSome r mem hp (Nat.le_refl _)
  refine ⟨shmemSetNew r' true, by rw [linkShmemWrite, hw]; rfl, ?_, ?_, ?_⟩
  · rw [show readMsg (shmemSetNew r' true) = readMsg r' from shmemMedium.read_setNew r' true,
      readMsg_eq, (shmemWrite_data hw).1]
    exact Msg.ofMem_congr fun i hi => if_pos hi
  · exact shmemMedium.isNew_setNew r' true
  · have hstatus := (shmemWrite_data hw).2.1
    rw [show pollSees (shmemSetNew r' true) statusBitAck = pollSees r' statusBitAck from
      shmemMedium.isAck_setNew r' true, pollSees, shmemGetStatus, hstatus]
    exact h.isAck

theorem holds_read {r : HpscShmemRegion} {m : Msg} {new ack : Bool} (h : Holds r m new ack)
    (mem : Mem) {p sz : Nat} (hp : isAligned p = true) (hsz : hpscMsgSize ≤ sz) :
    ∃ r' mem', linkShmemRead r mem p sz = some (r', mem', hpscMsgSize) ∧
      Holds r' m false true ∧ Msg.ofMem (fun i => mem' (p + i)) = m := by
  obtain ⟨mem', hr⟩ := shmemRead_isSome r mem hp hsz
  refine ⟨shmemSetAck (shmemSetNew r false) true, mem', by rw [linkShmemRead, hr]; rfl,
    ⟨?_, ?_, ?_⟩, ?_⟩
  · exact (shmemMedium.read_setAck _ true).trans ((shmemMedium.read_setNew r false).trans h.data)
  · exact (shmemMedium.isNew_setAck _ true).trans (shmemMedium.isNew_setNew r false)
  · exact shmemMedium.isAck_setAck _ true
  · rw [(shmemRead_mem hr).2.1, ← readMsg_eq]
    exact h.data

theorem holds_acked {r : HpscShmemRegion} {m : Msg} {new ack : Bool} (h : Holds r m new ack) :
    Holds (shmemSetAck r false) m new false where
  data := (shmemMedium.read_setAck r false).trans h.data
  isNew := (shmemMedium.isNew_setAck r false).trans h.isNew
  isAck := shmemMedium.isAck_setAck r false

/-! ## §2 Events -/

/-- A notified requester receives the event. -/
theorem receive_notify {e : LinkEnd} {t : TaskId} (htid : e.rctx.tidRequester = t)
    (hev : e.rctx.eventWait ≠ 0#32) :
    ∃ e', e.notify.receive t = some e' ∧ e'.rctx = e.rctx ∧ e'.addr = e.addr := by
  have hsend : e.notify = { e with pending := eventSend e.pending t e.rctx.eventWait } := by
    rw [LinkEnd.notify, htid, if_pos t.property]
  have hhas : hasEvent (e.notify.pending t) e.notify.rctx.eventWait = true := by
    rw [hsend]
    simp only [eventSend_self]
    exact hasEvent_set _ _ hev
  refine ⟨_, if_pos hhas, ?_, ?_⟩
  · rw [hsend]
  · rw [hsend]

/-! ## §3 The request -/

variable {env : FlushEnv} {s s' : Session} {client handler : TaskId} {ev : Event}

/-- The request is queued on the server, and the client waits for the reply. -/
structure Requested (s s' : Session) (client : TaskId) (msg : Msg) (rbuf rsz : Nat) : Prop where
  flush : s'.flush = s.flush.push ⟨msg, some s.server.addr⟩ none none
  request : ∃ m, Holds s'.request m false false
  reply : s'.reply = s.reply
  server : s'.server = s.server
  serverPc : s'.serverPc = s.serverPc
  replyBuf : s'.replyBuf = s.replyBuf
  clientPc : s'.clientPc = .waitReply client
  rbuf : s'.client.rctx.reply = some rbuf
  rsz : s'.client.rctx.replySz = rsz
  tid : s'.client.rctx.tidRequester = client
  event : s'.client.rctx.eventWait ≠ 0#32

theorem request_part {m msg : Msg} {wbuf : Nat} (hidle : s.clientPc = .idle)
    (hreq : Holds s.request m false false) (hroom : next s.flush.cmdq.head ≠ s.flush.cmdq.tail)
    (hwbuf : isAligned wbuf = true) (hcmdBuf : isAligned s.cmdBuf = true)
    (hmsg : Msg.ofMem (fun i => s.mem (wbuf + i)) = msg) (rbuf rsz : Nat) :
    ∃ s', exec (sessionStep env) s [.request client wbuf hpscMsgSize (some rbuf) rsz ev,
        .serverRecv, .clientAck, .clientAcked] = some s' ∧ Requested s s' client msg rbuf rsz := by
  obtain ⟨r₁, hw, hr₁⟩ := holds_write hreq s.mem hwbuf
  rw [hmsg] at hr₁
  let e₁ := (s.client.beginRequest (some rbuf) rsz).beginSend client ev.mask
  let s₁ : Session :=
    { s with request := r₁, client := e₁, clientPc := .waitAck client hpscMsgSize }
  have h₁ : sessionStep env s (.request client wbuf hpscMsgSize (some rbuf) rsz ev) = some s₁ := by
    simp only [sessionStep, Session.requestStep, hidle, hw, Option.map_some]
    rfl
  obtain ⟨r₂, mem, hread, hr₂, hmem⟩ :=
    holds_read hr₁ (Msg.zero.placed s.cmdBuf) hcmdBuf (Nat.le_refl _)
  let cmd : Cmd := ⟨msg, some s.server.addr⟩
  let s₂ : Session := { s₁ with request := r₂, flush := s.flush.push cmd none none }
  have h₂ : sessionStep env s₁ .serverRecv = some s₂ := by
    have hrc : (cmdEnqueueCbUnsafe s.flush.cmdq cmd none none).2 = 0 :=
      cmdEnqueueCbUnsafe_taken cmd none none (Or.inl hroom)
    simp only [sessionStep, Session.recvCmdStep, s₁, hr₁.isNew, if_true, hread, hmem]
    exact if_pos hrc
  let s₃ : Session := { s₂ with client := e₁.linkAck, request := shmemSetAck r₂ false }
  have h₃ : sessionStep env s₂ .clientAck = some s₃ := by
    simp only [sessionStep, Session.clientAckStep, s₂, hr₂.isAck, if_true]
    rfl
  obtain ⟨e₂, hrecv, hrctx, -⟩ := receive_notify (e := { e₁ with rctx.txAcked := true })
    (t := client) rfl (mask_ne_zero ev)
  let s₄ : Session := { s₃ with client := e₂, clientPc := .waitReply client }
  have h₄ : sessionStep env s₃ .clientAcked = some s₄ := by
    have hrecv' : s₃.client.receive client = some e₂ := hrecv
    have hpc : s₃.clientPc = .waitAck client hpscMsgSize := rfl
    simp only [sessionStep, Session.clientAckedStep, hpc, hrecv']
    rw [if_pos (by rw [hrctx])]
  refine ⟨s₄, by rw [exec_cons _ h₁, exec_cons _ h₂, exec_cons _ h₃, exec_cons _ h₄]; rfl, ?_⟩
  exact ⟨rfl, ⟨_, holds_acked hr₂⟩, rfl, rfl, rfl, rfl, rfl, by rw [hrctx]; rfl,
    by rw [hrctx]; rfl, by rw [hrctx]; rfl, by rw [hrctx]; exact mask_ne_zero ev⟩

/-! ## §4 The handler -/

/-- The handler task waits for the ACK of the reply. -/
structure Served (env : FlushEnv) (s s' : Session) (handler : TaskId) (item : CmdqItem)
    (reply : Msg) : Prop where
  pc : ∃ no, s'.flush.pc = .sendReply ⟨no, item⟩
  calls : s'.flush.calls = s.flush.calls ++
    [.handler env.cb item.cmd (storesOf reply) ((hpscMsgSize : Nat) : Int)]
  buffer : s'.flush.reply = reply
  status : s'.flush.status = .success
  drained : s'.flush.cmdq.head = s'.flush.cmdq.tail
  reply : Holds s'.reply reply true false
  request : s'.request = s.request
  client : s'.client = s.client
  clientPc : s'.clientPc = s.clientPc
  mem : s'.mem = s.mem
  serverPc : s'.serverPc = .waitAck handler hpscMsgSize
  tid : s'.server.rctx.tidRequester = handler
  event : s'.server.rctx.eventWait ≠ 0#32

theorem serve_part {m : Msg} {payload : Mem} {psz : Nat} {item : CmdqItem}
    (hpc : s.flush.pc = .dequeue) (hq : s.flush.cmdq.pending = [item])
    (hcmd : item.cmd = ⟨Msg.typed .ping payload psz, some s.server.addr⟩)
    (hidle : s.serverPc = .idle) (hreplyBuf : isAligned s.replyBuf = true)
    (hreply : Holds s.reply m false false) :
    ∃ s', exec (sessionStep env) s [.flush, .flush, .process, .send handler] = some s' ∧
      Served env s s' handler item (Msg.typed .pong payload psz) := by
  -- the command is taken from the queue
  have hdeq := cmdDequeueUnsafe_pending s.flush.cmdq
  rw [hq] at hdeq
  obtain ⟨hnil, hitem⟩ := hdeq
  obtain ⟨q, hcq⟩ : ∃ q, cmdDequeue s.flush.cmdq =
      (q, some (item.cmd, item.handled.cb, item.handled.cbArg)) := ⟨_, Prod.ext rfl hitem⟩
  have hempty : q.head = q.tail := by
    have hfst : (cmdDequeueUnsafe s.flush.cmdq).1 = q := congrArg Prod.fst hcq
    rw [hfst] at hnil
    exact (Ring.contents_eq_nil q.ring).mp hnil
  let t : Taken := ⟨s.flush.stamp q.tail, item⟩
  let f₁ : FlushState := { s.flush with cmdq := q, pc := .define t, taken := s.flush.taken ++ [t] }
  have h₁ : sessionStep env s .flush = some { s with flush := f₁ } := by
    simp only [sessionStep, flushStep, FlushState.taskStep, hpc, hcq, Option.map_some]
    rfl
  let f₂ : FlushState := { f₁ with reply := Msg.zero, status := .success, pc := .serve t }
  have h₂ : sessionStep env { s with flush := f₁ } .flush = some { s with flush := f₂ } := rfl
  -- the handler answers
  let pong := Msg.typed .pong payload psz
  let f₃ : FlushState :=
    { f₂.call (.handler env.cb item.cmd (storesOf pong) ((hpscMsgSize : Nat) : Int)) with
      reply := pong
      pc := .sendReply t }
  have h₃ : sessionStep env { s with flush := f₂ } .process = some { s with flush := f₃ } := by
    have hserve : serverProcess t.item.cmd f₂.reply hpscMsgSize =
        some (((hpscMsgSize : Nat) : Int), pong) := by
      rw [show t.item.cmd = _ from hcmd]
      exact serverProcess_ping payload _
    have hf₂ : f₂.pc = .serve t := rfl
    simp only [sessionStep, Session.processStep, hf₂, hserve, flushStep, FlushState.servedStep]
    rw [if_neg (by decide), if_neg (by decide), storeReply_storesOf]
    rfl
  -- the reply is written
  obtain ⟨r, hw, hr⟩ := holds_write hreply (pong.placed s.replyBuf) hreplyBuf
  rw [Msg.ofMem_placed] at hr
  let e := s.server.beginSend handler cmdEventLink
  let s₄ : Session :=
    { s with reply := r, server := e, serverPc := .waitAck handler hpscMsgSize, flush := f₃ }
  have h₄ : sessionStep env { s with flush := f₃ } (.send handler) = some s₄ := by
    have hf₃ : f₃.pc = .sendReply t := rfl
    have hlink : t.item.cmd.link = some s.server.addr := congrArg Cmd.link hcmd
    have hbuf : f₃.reply = pong := rfl
    simp only [sessionStep, Session.sendStep, hf₃, hidle, hlink, if_true, hbuf, hw,
      Option.map_some]
    rfl
  refine ⟨s₄, by rw [exec_cons _ h₁, exec_cons _ h₂, exec_cons _ h₃, exec_cons _ h₄]; rfl, ?_⟩
  exact ⟨⟨_, rfl⟩, rfl, rfl, rfl, hempty, hr, rfl, rfl, rfl, rfl, rfl, rfl,
    show cmdEventLink ≠ 0#32 by decide⟩

/-! ## §5 The reply -/

/-- The client has the reply, and the handler's ACK has come. -/
structure Delivered (env : FlushEnv) (s s' : Session) (rbuf : Nat) (reply : Msg) : Prop where
  mem : Msg.ofMem (fun i => s'.mem (rbuf + i)) = reply
  clientPc : s'.clientPc = .returned ((hpscMsgSize : Nat) : Int)
  reply : ∃ m, Holds s'.reply m false false
  request : s'.request = s.request
  flush : flushStep env s.flush (.sent hpscMsgSize) = some s'.flush

theorem reply_part {m : Msg} {rbuf rsz : Nat} (hsz : hpscMsgSize ≤ rsz)
    (haligned : isAligned rbuf = true)
    (hreply : Holds s.reply m true false) (hclient : s.clientPc = .waitReply client)
    (hrbuf : s.client.rctx.reply = some rbuf) (hrsz : s.client.rctx.replySz = rsz)
    (hctid : s.client.rctx.tidRequester = client) (hcev : s.client.rctx.eventWait ≠ 0#32)
    (hserver : s.serverPc = .waitAck handler hpscMsgSize)
    (hstid : s.server.rctx.tidRequester = handler) (hsev : s.server.rctx.eventWait ≠ 0#32)
    (hflush : ∃ f, flushStep env s.flush (.sent hpscMsgSize) = some f) :
    ∃ s', exec (sessionStep env) s [.clientRecv, .clientReplied, .serverAck, .serverAcked]
        = some s' ∧ Delivered env s s' rbuf m := by
  obtain ⟨f, hf⟩ := hflush
  subst hrsz
  obtain ⟨r₁, mem, hread, hr₁, hmem⟩ := holds_read hreply s.mem haligned hsz
  let e := { s.client with rctx.replySzRead := hpscMsgSize }
  let s₁ : Session := { s with reply := r₁, mem := mem, client := e.notify }
  have h₁ : sessionStep env s .clientRecv = some s₁ := by
    show s.recvReplyStep = some s₁
    rw [Session.recvReplyStep, if_pos hreply.isNew]
    split
    · rename_i p hp
      obtain rfl : p = rbuf := Option.some.inj (hp.symm.trans hrbuf)
      rw [hread]
      rfl
    · rename_i hnone
      exact absurd (hnone.symm.trans hrbuf) (Option.some_ne_none rbuf).symm
  obtain ⟨e₂, hrecv, hrctx, -⟩ := receive_notify (e := e) (t := client) hctid hcev
  let s₂ : Session :=
    { s₁ with
      client := { e₂ with rctx.tidRequester := idNone }
      clientPc := .returned e₂.rctx.replySzRead }
  have h₂ : sessionStep env s₁ .clientReplied = some s₂ := by
    have hpc : s₁.clientPc = .waitReply client := hclient
    have hrecv' : s₁.client.receive client = some e₂ := hrecv
    simp only [sessionStep, Session.clientRepliedStep, hpc, hrecv', Option.map_some]
    rfl
  let s₃ : Session := { s₂ with server := s.server.linkAck, reply := shmemSetAck r₁ false }
  have h₃ : sessionStep env s₂ .serverAck = some s₃ := by
    have hack : pollSees s₂.reply statusBitAck = true := hr₁.isAck
    simp only [sessionStep, Session.serverAckStep, hack, if_true]
    rfl
  obtain ⟨e₄, hrecv₄, hrctx₄, -⟩ := receive_notify (e := { s.server with rctx.txAcked := true })
    (t := handler) hstid hsev
  let s₄ : Session :=
    { s₃ with server := { e₄ with rctx.tidRequester := idNone }, serverPc := .idle, flush := f }
  have h₄ : sessionStep env s₃ .serverAcked = some s₄ := by
    have hpc : s₃.serverPc = .waitAck handler hpscMsgSize := hserver
    have hrecv' : s₃.server.receive handler = some e₄ := hrecv₄
    have hf' : flushStep env s₃.flush (.sent hpscMsgSize) = some f := hf
    simp only [sessionStep, Session.serverAckedStep, hpc, hrecv', hf', Option.map_some]
    exact if_pos (by rw [hrctx₄])
  refine ⟨s₄, by rw [exec_cons _ h₁, exec_cons _ h₂, exec_cons _ h₃, exec_cons _ h₄]; rfl, ?_⟩
  refine ⟨hmem, ?_, ⟨_, holds_acked hr₁⟩, rfl, hf⟩
  show WaitPc.returned e₂.rctx.replySzRead = _
  rw [hrctx]

/-! ## §6 The end of the flush -/

/-- The reply has been sent. -/
theorem sent_served {f : FlushState} {t : Taken} (hpc : f.pc = .sendReply t)
    (hlink : t.item.cmd.link.isSome = true) :
    ∃ f', flushStep env f (.sent hpscMsgSize) = some f' ∧ f'.pc = .out t ∧
      f'.calls = f.calls ++
        [.requestSend t.item.cmd.link f.reply env.timeoutTicks hpscMsgSize] ∧
      f'.status = f.status ∧ f'.cmdq = f.cmdq := by
  refine ⟨_, by simp only [flushStep, FlushState.sentStep, hpc, hlink, if_true]; rfl, ?_⟩
  rw [if_neg (by decide)]
  exact ⟨rfl, rfl, rfl, rfl⟩

theorem finish_part {t : Taken} (hpc : s.flush.pc = .out t) (hcb : t.item.handled.cb = none)
    (hempty : s.flush.cmdq.head = s.flush.cmdq.tail) :
    ∃ f, exec (sessionStep env) s [.flush, .flush, .flush, .flush] = some { s with flush := f } ∧
      f.pc = .returned ∧ f.calls = (s.flush.callHandled env.handled).calls := by
  let f₁ : FlushState := { s.flush with pc := .outAll t }
  have h₁ : sessionStep env s .flush = some { s with flush := f₁ } := by
    simp only [sessionStep, flushStep, FlushState.taskStep, hpc, FlushState.callHandled, hcb,
      Option.map_some]
    rfl
  let f₂ : FlushState := { f₁.callHandled env.handled with pc := .count }
  have h₂ : sessionStep env { s with flush := f₁ } .flush = some { s with flush := f₂ } := rfl
  let f₃ : FlushState := { f₂ with i := f₂.i + 1, pc := .dequeue }
  have h₃ : sessionStep env { s with flush := f₂ } .flush = some { s with flush := f₃ } := rfl
  have hq : f₂.cmdq = s.flush.cmdq := by
    simp only [f₂, FlushState.callHandled]
    cases env.handled.cb <;> rfl
  have hdeq : cmdDequeue f₃.cmdq = (f₃.cmdq, none) := by
    show cmdDequeueUnsafe f₂.cmdq = (f₂.cmdq, none)
    rw [hq]
    exact if_pos hempty
  let f₄ : FlushState := { f₃ with pc := .returned }
  have h₄ : sessionStep env { s with flush := f₃ } .flush = some { s with flush := f₄ } := by
    have hf₃ : f₃.pc = .dequeue := rfl
    simp only [sessionStep, flushStep, FlushState.taskStep, hf₃, hdeq, Option.map_some]
    rfl
  refine ⟨f₄, by rw [exec_cons _ h₁, exec_cons _ h₂, exec_cons _ h₃, exec_cons _ h₄]; rfl, rfl, ?_⟩
  show (f₁.callHandled env.handled).calls = _
  unfold FlushState.callHandled
  cases env.handled.cb <;> rfl

/-! ## §7 The whole run -/

/-- Before a request: both parties idle, an empty queue at any place of the
ring, and the bits NEW and ACK clear in both regions. -/
structure Quiet (s : Session) : Prop where
  clientPc : s.clientPc = .idle
  serverPc : s.serverPc = .idle
  pc : s.flush.pc = .dequeue
  empty : s.flush.cmdq.head = s.flush.cmdq.tail
  request : pollSees s.request statusBitNew = false ∧ pollSees s.request statusBitAck = false
  reply : pollSees s.reply statusBitNew = false ∧ pollSees s.reply statusBitAck = false

/-- Before a request from `wbuf`, where `msg` stands, with a buffer for the
reply at `rbuf`: all buffers are aligned. -/
structure Ready (s : Session) (msg : Msg) (wbuf rbuf : Nat) : Prop extends Quiet s where
  message : Msg.ofMem (fun i => s.mem (wbuf + i)) = msg
  wbuf : isAligned wbuf = true
  rbuf : isAligned rbuf = true
  cmdBuf : isAligned s.cmdBuf = true
  replyBuf : isAligned s.replyBuf = true

/-- The ping has come back: what the handler got is the message that was
sent, with the link it came on; the client has the bytes PONG, 0, 0, 0, the
payload and zeros; and the bits are clear again. -/
structure Echoed (env : FlushEnv) (s s' : Session) (msg : Msg) (payload : Mem) (psz rbuf : Nat) :
    Prop where
  calls : ∃ no, s'.flush.calls = s.flush.calls ++ Completion.calls env
    ⟨⟨no, ⟨⟨msg, some s.server.addr⟩, ⟨none, none⟩⟩⟩, ((hpscMsgSize : Nat) : Int),
      storesOf (Msg.typed .pong payload psz), hpscMsgSize⟩
  flushed : s'.flush.pc = .returned
  bytes : ∀ i, i < hpscMsgSize → s'.mem (rbuf + i) =
    if i = 0 then HpscMsgType.pong.toByte
    else if hpscMsgPayloadOffset ≤ i ∧ i < hpscMsgPayloadOffset + psz then
      payload (i - hpscMsgPayloadOffset)
    else 0#8
  returned : s'.clientPc = .returned ((hpscMsgSize : Nat) : Int)
  request : pollSees s'.request statusBitNew = false ∧ pollSees s'.request statusBitAck = false
  reply : pollSees s'.reply statusBitNew = false ∧ pollSees s'.reply statusBitAck = false

theorem next_ne_of_empty {q : Cmdq} (hempty : q.head = q.tail) : next q.head ≠ q.tail := by
  intro hfull
  have hsize : q.ring.size = cmdqLen - 1 := (Ring.full_iff q.ring).mp hfull
  rw [(Ring.size_eq_zero q.ring).mpr hempty] at hsize
  exact absurd hsize (by decide)

/-- The first command of an empty queue. -/
theorem push_empty {f : FlushState} (hempty : f.cmdq.head = f.cmdq.tail) (cmd : Cmd)
    (cb cbArg : Ptr) : (f.push cmd cb cbArg).cmdq.pending = [⟨cmd, ⟨cb, cbArg⟩⟩] ∧
      (f.push cmd cb cbArg).pc = f.pc ∧ (f.push cmd cb cbArg).calls = f.calls := by
  have hroom := next_ne_of_empty hempty
  have hrc := cmdEnqueueCbUnsafe_taken cmd cb cbArg (Or.inl hroom)
  have hnil : f.cmdq.pending = [] := (Ring.contents_eq_nil f.cmdq.ring).mpr hempty
  rw [FlushState.push, if_pos hrc]
  refine ⟨?_, rfl, rfl⟩
  have hpend := cmdEnqueueCbUnsafe_pending cmd cb cbArg hroom
  rw [hnil] at hpend
  exact hpend

/-- **A ping is echoed byte for byte**, for every payload and whatever the
regions, the reply buffer and the queue held before. -/
theorem ping_echoed (env : FlushEnv) (client handler : TaskId) (ev : Event) (payload : Mem)
    (psz wbuf rbuf rsz : Nat) (hpsz : psz ≤ hpscMsgPayloadSize) (hrsz : hpscMsgSize ≤ rsz) :
    ∃ msg, hpscMsgPing Msg.zero hpscMsgSize (some payload) psz = some msg ∧
      ∀ s, Ready s msg wbuf rbuf →
        ∃ s', exec (sessionStep env) s (protocolOrder client handler wbuf rbuf rsz ev) = some s' ∧
          Echoed env s s' msg payload psz rbuf := by
  let msg := Msg.typed .ping payload psz
  have hping : hpscMsgPing Msg.zero hpscMsgSize (some payload) psz = some msg := by
    rw [hpscMsgPing, if_pos rfl, msgFill_zero _ _ hpsz]
  refine ⟨msg, hping, fun s hready => ?_⟩
  have hquiet := hready.toQuiet
  let pong := Msg.typed .pong payload psz
  let item : CmdqItem := ⟨⟨msg, some s.server.addr⟩, ⟨none, none⟩⟩
  obtain ⟨hpend, hpc, hcalls⟩ := push_empty hquiet.empty item.cmd none none
  have hreq : Holds s.request (readMsg s.request) false false :=
    ⟨rfl, hquiet.request.1, hquiet.request.2⟩
  have hrep : Holds s.reply (readMsg s.reply) false false :=
    ⟨rfl, hquiet.reply.1, hquiet.reply.2⟩
  obtain ⟨s₁, h₁, hs₁⟩ : ∃ s₁, _ ∧ Requested s s₁ client msg rbuf rsz :=
    @request_part env s client ev _ msg wbuf hquiet.clientPc hreq (next_ne_of_empty hquiet.empty)
      hready.wbuf hready.cmdBuf hready.message rbuf rsz
  rw [← hs₁.flush] at hpend hpc hcalls
  rw [← hs₁.reply] at hrep
  obtain ⟨s₂, h₂, hs₂⟩ : ∃ s₂, _ ∧ Served env s₁ s₂ handler item pong :=
    serve_part (hpc.trans hquiet.pc) hpend (by rw [hs₁.server]) (hs₁.serverPc.trans hquiet.serverPc)
      (by rw [hs₁.replyBuf]; exact hready.replyBuf) hrep
  obtain ⟨no, hno⟩ := hs₂.pc
  obtain ⟨f₃, hf₃, hf₃pc, hf₃calls, hf₃status, hf₃q⟩ := @sent_served env _ _ hno rfl
  obtain ⟨s₃, h₃, hs₃⟩ : ∃ s₃, _ ∧ Delivered env s₂ s₃ rbuf pong :=
    reply_part hrsz hready.rbuf hs₂.reply (hs₂.clientPc.trans hs₁.clientPc)
      (by rw [hs₂.client, hs₁.rbuf]) (by rw [hs₂.client, hs₁.rsz]) (by rw [hs₂.client, hs₁.tid])
      (by rw [hs₂.client]; exact hs₁.event) hs₂.serverPc hs₂.tid hs₂.event ⟨f₃, hf₃⟩
  obtain rfl : f₃ = s₃.flush := Option.some.inj (hf₃.symm.trans hs₃.flush)
  obtain ⟨f, h₄, hfpc, hfcalls⟩ :=
    @finish_part env s₃ _ hf₃pc rfl (by rw [hf₃q]; exact hs₂.drained)
  refine ⟨{ s₃ with flush := f }, ?_, ⟨no, ?_⟩, hfpc, fun i hi => ?_, hs₃.clientPc, ?_,
    ?_⟩
  · calc exec (sessionStep env) s (protocolOrder client handler wbuf rbuf rsz ev)
        = exec (sessionStep env) s₁ [.flush, .flush, .process, .send handler, .clientRecv,
            .clientReplied, .serverAck, .serverAcked, .flush, .flush, .flush, .flush] :=
          exec_append _ h₁
      _ = exec (sessionStep env) s₂ [.clientRecv, .clientReplied, .serverAck, .serverAcked,
            .flush, .flush, .flush, .flush] := exec_append _ h₂
      _ = exec (sessionStep env) s₃ [.flush, .flush, .flush, .flush] := exec_append _ h₃
      _ = some { s₃ with flush := f } := h₄
  · let c : Completion := ⟨⟨no, item⟩, ((hpscMsgSize : Nat) : Int), storesOf pong, hpscMsgSize⟩
    have hstatus : s₃.flush.status = c.status := hf₃status.trans hs₂.status
    have hservice : c.service env = [.handler env.cb item.cmd (storesOf pong) (hpscMsgSize : Nat),
        .requestSend item.cmd.link pong env.timeoutTicks hpscMsgSize] := by
      have hpos : 0 < c.replySz := show (0 : Int) < (hpscMsgSize : Nat) by decide
      rw [Completion.service, if_pos hpos, storeReply_storesOf]
    show f.calls = s.flush.calls ++ (c.service env ++ [] ++ c.report env.handled)
    rw [hfcalls, callHandled_calls _ _ c hstatus, hf₃calls, hs₂.calls, hs₂.buffer, hcalls,
      hservice]
    simp only [List.append_assoc, List.cons_append, List.nil_append]
  · have hbyte := congrArg (fun m : Msg => m[i]) hs₃.mem
    simp only [Msg.getElem_ofMem] at hbyte
    exact hbyte.trans (Msg.typed_getElem .pong payload psz i hi)
  · obtain ⟨m, hm⟩ := hs₁.request
    rw [show ({ s₃ with flush := f } : Session).request = s₁.request from
      hs₃.request.trans hs₂.request]
    exact ⟨hm.isNew, hm.isAck⟩
  · obtain ⟨m, hm⟩ := hs₃.reply
    exact ⟨hm.isNew, hm.isAck⟩

/-- Two idle processors, with something in every data array, and the
message to send at 0x80. -/
def exampleSession (msg : Msg) : Session where
  request := ⟨Msg.ofMem fun i => BitVec.ofNat 8 (3 * i), 0x80#32⟩
  reply := ⟨Msg.ofMem fun i => BitVec.ofNat 8 (5 * i), 0#32⟩
  client := ⟨0x100, ⟨idNone, 0#32, false, none, 0, 0⟩, fun _ => 0#32⟩
  server := ⟨0x200, ⟨idNone, 0#32, false, none, 0, 0⟩, fun _ => 0#32⟩
  clientPc := .idle
  serverPc := .idle
  mem := msg.placed 0x80
  cmdBuf := 0x20
  replyBuf := 0x60
  flush := .start .init Msg.zero .success

theorem exampleSession_ready (msg : Msg) : Ready (exampleSession msg) msg 0x80 0x40 where
  clientPc := rfl
  serverPc := rfl
  pc := rfl
  empty := rfl
  request := by
    simp only [exampleSession, pollSees, shmemGetStatus]
    decide
  reply := by
    simp only [exampleSession, pollSees, shmemGetStatus]
    decide
  message := msg.ofMem_placed 0x80
  wbuf := rfl
  rbuf := rfl
  cmdBuf := by
    simp only [exampleSession]
    decide
  replyBuf := by
    simp only [exampleSession]
    decide

/-- Three bytes of payload, and a buffer of 70 bytes for the reply. -/
theorem three_bytes_echoed :
    ∃ msg s', Echoed ⟨9, 0, ⟨none, none⟩⟩ (exampleSession msg) s' msg
      (fun i => BitVec.ofNat 8 (i + 1)) 3 0x40 := by
  obtain ⟨msg, -, hecho⟩ := ping_echoed ⟨9, 0, ⟨none, none⟩⟩ ⟨7, by decide⟩ ⟨8, by decide⟩ 2
    (fun i => BitVec.ofNat 8 (i + 1)) 3 0x80 0x40 70 (by decide) (by decide)
  obtain ⟨s', -, hs'⟩ := hecho (exampleSession msg) (exampleSession_ready msg)
  exact ⟨msg, s', hs'⟩

end HpscRtems.Shmem
