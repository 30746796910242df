/-
HpscRtems.Shmem.Request — a request to `server_process` and its reply over
shared memory (`link-shmem.c`, `link.c`, `server.c`).

The client calls `link_request`, and the server's handler task is about to
enter the loop of `cmd_flush`. A step is a whole call of a poll task's
callback, or a statement of `cmd_flush`, or what a task in `link_request` or
`link_request_send` does up to its next wait. Steps of different parties are
not divided here: this module is about the bytes, and
`HpscRtems.Link.Service` about the interleavings.

A step is not enabled where a poll task sees no bit, a task has no event to
receive, or an assertion fails: `shmem_write` and `shmem_read` assert that
the buffer they are given is aligned.
-/
import HpscRtems.Link.Request
import HpscRtems.Server
import HpscRtems.Shmem.Region

namespace HpscRtems.Shmem

open Machine Rtems Command Server Link

/-! ## §1 `link-shmem.c` -/

/-- `link_shmem_write`: the region the link sends to, and the return value. -/
def linkShmemWrite (out : HpscShmemRegion) (mem : Mem) (buf sz : Nat) :
    Option (HpscShmemRegion × Nat) :=
  (shmemWrite out mem buf sz).map fun w => (shmemSetNew w.1 true, w.2)

/-- `link_shmem_read`: the region the link receives on, the memory and the
return value. -/
def linkShmemRead (inn : HpscShmemRegion) (mem : Mem) (buf sz : Nat) :
    Option (HpscShmemRegion × Mem × Nat) :=
  (shmemRead inn mem buf sz).map fun r => (shmemSetAck (shmemSetNew inn false) true, r.1, r.2)

/-! ## §2 `link.c` -/

/-- A `struct link`, and the pending events of its processor's tasks. -/
structure LinkEnd where
  addr : Nat
  rctx : LinkRequestCtx
  pending : Pending

namespace LinkEnd

/-- `rtems_event_send` to the requester, if there is one. -/
def notify (e : LinkEnd) : LinkEnd :=
  if e.rctx.tidRequester ≠ idNone then
    { e with pending := eventSend e.pending e.rctx.tidRequester e.rctx.eventWait }
  else e

/-- `link_ack` -/
def linkAck (e : LinkEnd) : LinkEnd := notify { e with rctx.txAcked := true }

/-- What `link_request_send`, called by `self`, sets before it writes. -/
def beginSend (e : LinkEnd) (self : TaskId) (ev : EventSet) : LinkEnd :=
  { e with rctx.tidRequester := self, rctx.eventWait := ev, rctx.txAcked := false }

/-- What `link_request` sets before that. -/
def beginRequest (e : LinkEnd) (rbuf : Ptr) (rsz : Nat) : LinkEnd :=
  { e with rctx.replySzRead := 0, rctx.reply := rbuf, rctx.replySz := rsz }

/-- `rtems_event_receive` of task `self` returns with the event. -/
def receive (e : LinkEnd) (self : TaskId) : Option LinkEnd :=
  if hasEvent (e.pending self) e.rctx.eventWait then
    some { e with pending := eventClear e.pending self e.rctx.eventWait }
  else none

end LinkEnd

/-! ## §3 The two processors -/

/-- `CMD_EVENT_LINK` -/
def cmdEventLink : EventSet := 0x4#32

/-- Where a task in `link_request` or `link_request_send` waits. -/
inductive WaitPc where
  | idle
  | waitAck (self : TaskId) (rc : Nat)
  | waitReply (self : TaskId)
  | returned (rc : Int)
  deriving DecidableEq

structure Session where
  /-- The region of the requests: the client's out, the server's in. -/
  request : HpscShmemRegion
  /-- The region of the replies: the server's out, the client's in. -/
  reply : HpscShmemRegion
  client : LinkEnd
  server : LinkEnd
  clientPc : WaitPc
  /-- The handler task, in `link_request_send`. -/
  serverPc : WaitPc
  /-- The client's memory. -/
  mem : Mem
  /-- The address of `cmd.msg` in `link_recv_cmd`. -/
  cmdBuf : Nat
  /-- The address of `reply` in `cmd_handle`. -/
  replyBuf : Nat
  /-- The server's queue and handler task. -/
  flush : FlushState

inductive SessionAct where
  /-- `link_request` of the message at `wbuf`, up to the wait for the ACK. -/
  | request (self : TaskId) (wbuf wsz : Nat) (rbuf : Ptr) (rsz : Nat) (ev : Event)
  /-- The server's receive poll task: `link_recv_cmd`. -/
  | serverRecv
  /-- The client's ACK poll task: `link_shmem_ack`. -/
  | clientAck
  /-- `link_request` gets its ACK. -/
  | clientAcked
  /-- A statement of `cmd_flush`. -/
  | flush
  /-- The call of `server_process`. -/
  | process
  /-- `link_request_send` of the reply, up to the wait for the ACK. -/
  | send (self : TaskId)
  /-- The client's receive poll task: `link_recv_reply`. -/
  | clientRecv
  /-- `link_request` gets its reply. -/
  | clientReplied
  /-- The server's ACK poll task: `link_shmem_ack`. -/
  | serverAck
  /-- `link_request_send` gets its ACK. -/
  | serverAcked

namespace Session

/-- `link_request` -/
def requestStep (s : Session) (self : TaskId) (wbuf wsz : Nat) (rbuf : Ptr) (rsz : Nat)
    (ev : Event) : Option Session :=
  match s.clientPc with
  | .idle =>
    (linkShmemWrite s.request s.mem wbuf wsz).map fun w =>
      { s with
        request := w.1
        client := (s.client.beginRequest rbuf rsz).beginSend self ev.mask
        clientPc := if w.2 = 0 then .returned (-1) else .waitAck self w.2 }
  | _ => none

/-- `link_recv_cmd`; a command that is not queued is a panic. -/
def recvCmdStep (s : Session) : Option Session :=
  if pollSees s.request statusBitNew then
    match linkShmemRead s.request (Msg.zero.placed s.cmdBuf) s.cmdBuf hpscMsgSize with
    | some (r, mem, _) =>
      let cmd : Cmd := ⟨Msg.ofMem fun i => mem (s.cmdBuf + i), some s.server.addr⟩
      if (cmdEnqueueCbUnsafe s.flush.cmdq cmd none none).2 = 0 then
        some { s with request := r, flush := s.flush.push cmd none none }
      else none
    | none => none
  else none

/-- `link_shmem_ack` on the client. -/
def clientAckStep (s : Session) : Option Session :=
  if pollSees s.request statusBitAck then
    some { s with client := s.client.linkAck, request := shmemSetAck s.request false }
  else none

/-- `link_shmem_ack` on the server. -/
def serverAckStep (s : Session) : Option Session :=
  if pollSees s.reply statusBitAck then
    some { s with server := s.server.linkAck, reply := shmemSetAck s.reply false }
  else none

/-- The wait for the ACK of the request is over: `assert(tx_acked)`. -/
def clientAckedStep (s : Session) : Option Session :=
  match s.clientPc with
  | .waitAck self _ =>
    match s.client.receive self with
    | some e => if e.rctx.txAcked then some { s with client := e, clientPc := .waitReply self }
      else none
    | none => none
  | _ => none

/-- `server_process`, as `cmd_handle` calls it. -/
def processStep (env : FlushEnv) (s : Session) : Option Session :=
  match s.flush.pc with
  | .serve t =>
    match serverProcess t.item.cmd s.flush.reply hpscMsgSize with
    | some (replySz, reply) =>
      (flushStep env s.flush (.served replySz (storesOf reply))).map fun f => { s with flush := f }
    | none => none
  | _ => none

/-- `link_request_send` of the reply to the link of the command. -/
def sendStep (s : Session) (self : TaskId) : Option Session :=
  match s.flush.pc, s.serverPc with
  | .sendReply t, .idle =>
    if t.item.cmd.link = some s.server.addr then
      (linkShmemWrite s.reply (s.flush.reply.placed s.replyBuf) s.replyBuf hpscMsgSize).map fun w =>
        { s with
          reply := w.1
          server := s.server.beginSend self cmdEventLink
          serverPc := .waitAck self w.2 }
    else none
  | _, _ => none

/-- The wait for the ACK of the reply is over. -/
def serverAckedStep (env : FlushEnv) (s : Session) : Option Session :=
  match s.serverPc with
  | .waitAck self rc =>
    match s.server.receive self with
    | some e =>
      if e.rctx.txAcked then
        (flushStep env s.flush (.sent rc)).map fun f =>
          { s with server := { e with rctx.tidRequester := idNone }, serverPc := .idle, flush := f }
      else none
    | none => none
  | _ => none

/-- `link_recv_reply` -/
def recvReplyStep (s : Session) : Option Session :=
  if pollSees s.reply statusBitNew then
    match s.client.rctx.reply with
    | some p =>
      (linkShmemRead s.reply s.mem p s.client.rctx.replySz).map fun r =>
        { s with
          reply := r.1
          mem := r.2.1
          client := LinkEnd.notify { s.client with rctx.replySzRead := r.2.2 } }
    | none => none
  else none

/-- The wait for the reply is over. -/
def clientRepliedStep (s : Session) : Option Session :=
  match s.clientPc with
  | .waitReply self =>
    (s.client.receive self).map fun e =>
      { s with
        client := { e with rctx.tidRequester := idNone }
        clientPc := .returned e.rctx.replySzRead }
  | _ => none

end Session

/-- One step of a party. -/
def sessionStep (env : FlushEnv) (s : Session) : SessionAct → Option Session
  | .request self wbuf wsz rbuf rsz ev => s.requestStep self wbuf wsz rbuf rsz ev
  | .serverRecv => s.recvCmdStep
  | .clientAck => s.clientAckStep
  | .clientAcked => s.clientAckedStep
  | .flush => (flushStep env s.flush .task).map fun f => { s with flush := f }
  | .process => s.processStep env
  | .send self => s.sendStep self
  | .clientRecv => s.recvReplyStep
  | .clientReplied => s.clientRepliedStep
  | .serverAck => s.serverAckStep
  | .serverAcked => s.serverAckedStep env

/-- The steps of a request with a reply in the order of the protocol, and of
`cmd_flush` until it returns. -/
def protocolOrder (client handler : TaskId) (wbuf rbuf rsz : Nat) (ev : Event) :
    List SessionAct :=
  [.request client wbuf hpscMsgSize (some rbuf) rsz ev, .serverRecv, .clientAck, .clientAcked,
    .flush, .flush, .process, .send handler, .clientRecv, .clientReplied, .serverAck, .serverAcked,
    .flush, .flush, .flush, .flush]

end HpscRtems.Shmem
