/-
HpscRtems.Link.Request — the request protocol of `link.c`, one shared
access at a time.

Three activities share `link->rctx`: the requester, inside `link_request`
or `link_request_send`; `link_ack`, run by the ACK ISR or the ACK poll
task; and `link_recv_reply`, run by the receive ISR or the receive poll
task. `step` gives each of them its program points, so a list of actions
is an interleaving of the three. The transport is left open here:
`link->write` returns what the action says, and `link->read` returns the
size the action says.

Both calls share `_link_request_send`, so their program points are the
constructors of one type: a `link_request` enters at `setReplySzRead`, a
`link_request_send` at `setTid`. An `rtems_event_receive` is two actions,
one for each way it can return: `wake` with the pending events, `timeout`
with none of them. The `printk` calls, and the panics after an
`rtems_event_send` to the requester failed, are left out: the requester is
a live task.
-/
import HpscRtems.HpscMsg
import HpscRtems.Machine.Run

namespace HpscRtems.Link

open Rtems

/-! ## §1 State -/

/-- `struct link_request_ctx` -/
structure LinkRequestCtx where
  tidRequester : RtemsId
  eventWait : EventSet
  txAcked : Bool
  reply : Ptr
  replySz : Nat
  replySzRead : Nat
  deriving DecidableEq

/-- A call with its arguments. `wbuf` and `buf` are the memory from the
message buffer on. -/
inductive Call where
  | request (wtimeoutTicks : Nat) (wbuf : List Byte) (wsz : Nat)
      (rtimeoutTicks : Nat) (rbuf : Ptr) (rsz : Nat) (eventWait : Event)
  | requestSend (buf : List Byte) (sz : Nat) (ticks : Nat) (eventWait : Event)
  deriving DecidableEq

namespace Call

def isRequest : Call → Bool
  | request .. => true
  | requestSend .. => false

/-- The time-out of the wait for the ACK. -/
def ticks : Call → Nat
  | request w _ _ _ _ _ _ => w
  | requestSend _ _ t _ => t

/-- The time-out of the wait for the reply. -/
def rticks : Call → Nat
  | request _ _ _ r _ _ _ => r
  | requestSend .. => noTimeout

def buf : Call → List Byte
  | request _ b _ _ _ _ _ => b
  | requestSend b _ _ _ => b

def sz : Call → Nat
  | request _ _ n _ _ _ _ => n
  | requestSend _ n _ _ => n

def rbuf : Call → Ptr
  | request _ _ _ _ p _ _ => p
  | requestSend .. => none

def rsz : Call → Nat
  | request _ _ _ _ _ n _ => n
  | requestSend .. => 0

def event : Call → EventSet
  | request _ _ _ _ _ _ ev => ev.mask
  | requestSend _ _ _ ev => ev.mask

end Call

/-- The program points of the requester: the statement it executes next. -/
inductive Pc where
  | setReplySzRead
  | setReply
  | setReplySz
  | setTid
  | setEventWait
  | clearTxAcked
  | write
  | waitAck (rc : Nat)
  | checkAck (rc : Nat) (events : EventSet)
  | waitReply
  | checkReply (events : EventSet)
  | clearTid (rc : Int)
  | assertFailed
  deriving DecidableEq

/-- The requester, outside a call or inside one made by task `tid`. -/
inductive Requester where
  | idle
  | running (tid : TaskId) (c : Call) (pc : Pc)
  | returned (c : Call) (rc : Int)
  deriving DecidableEq

/-- Where `link_ack` stands; it starts by setting `tx_acked`. The two
arguments of `rtems_event_send` are read one after the other. -/
inductive AckPc where
  | idle
  | test
  | send
  | sendTo (id : RtemsId)
  | post (id : RtemsId) (ev : EventSet)
  deriving DecidableEq

/-- Between the test of `tid_requester` and the end of the event send. -/
def AckPc.sending : AckPc → Bool
  | send => true
  | sendTo _ => true
  | post _ _ => true
  | _ => false

/-- Where `link_recv_reply` stands, with the values it holds. -/
inductive RecvPc where
  | idle
  | haveReply (p : Ptr)
  | haveArgs (p : Ptr) (sz : Nat)
  | haveRead (n : Nat)
  | test
  | send
  | sendTo (id : RtemsId)
  | post (id : RtemsId) (ev : EventSet)
  | assertFailed
  deriving DecidableEq

def RecvPc.sending : RecvPc → Bool
  | send => true
  | sendTo _ => true
  | post _ _ => true
  | _ => false

structure LinkState where
  rctx : LinkRequestCtx
  pending : Pending
  req : Requester
  ack : AckPc
  recv : RecvPc

/-- `link_init`, on a block whose contents are `heap`. -/
def linkInit (heap : LinkRequestCtx) : LinkRequestCtx :=
  { heap with tidRequester := idNone, txAcked := false, reply := none }

/-- A link just connected, with the events `p` pending for the tasks. -/
def LinkState.connected (heap : LinkRequestCtx) (p : Pending) : LinkState :=
  ⟨linkInit heap, p, .idle, .idle, .idle⟩

/-! ## §2 Steps -/

inductive Act where
  /-- Task `tid` calls. -/
  | call (tid : TaskId) (c : Call)
  /-- The requester executes its next statement. -/
  | run
  /-- `link->write` returns `rc`. -/
  | write (rc : Nat)
  /-- `rtems_event_receive` returns with pending events. -/
  | wake
  /-- `rtems_event_receive` times out. -/
  | timeout
  /-- `link_ack` starts or goes on. -/
  | ack
  /-- `link_recv_reply` starts or goes on; `link->read` returns `n`. -/
  | recvReply (n : Nat)
  deriving DecidableEq

def Act.isRecvReply : Act → Bool
  | .recvReply _ => true
  | _ => false

namespace LinkState

/-- The requester goes on at `pc`. -/
def goto (s : LinkState) (tid : TaskId) (c : Call) (pc : Pc) : LinkState :=
  { s with req := .running tid c pc }

/-- `_link_request_send` returns `rc` to its caller. -/
def sendReturns (s : LinkState) (tid : TaskId) (c : Call) (rc : Nat) : LinkState :=
  if c.isRequest then
    if rc = 0 then { s with req := .returned c (-1) } else s.goto tid c .waitReply
  else s.goto tid c (.clearTid rc)

/-- The requested events that are pending for the requester. -/
def events (s : LinkState) (tid : TaskId) : EventSet := s.pending tid &&& s.rctx.eventWait

/-- The requester's own statements. -/
def runStep (s : LinkState) (tid : TaskId) (c : Call) : Pc → Option LinkState
  | .setReplySzRead => some (({ s with rctx.replySzRead := 0 }).goto tid c .setReply)
  | .setReply => some (({ s with rctx.reply := c.rbuf }).goto tid c .setReplySz)
  | .setReplySz => some (({ s with rctx.replySz := c.rsz }).goto tid c .setTid)
  | .setTid => some (({ s with rctx.tidRequester := tid }).goto tid c .setEventWait)
  | .setEventWait => some (({ s with rctx.eventWait := c.event }).goto tid c .clearTxAcked)
  | .clearTxAcked => some (({ s with rctx.txAcked := false }).goto tid c .write)
  | .checkAck rc events =>
    if hasEvent events s.rctx.eventWait then
      if s.rctx.txAcked then some (s.sendReturns tid c rc) else some (s.goto tid c .assertFailed)
    else some (s.sendReturns tid c 0)
  | .checkReply events =>
    if hasEvent events s.rctx.eventWait then some (s.goto tid c (.clearTid s.rctx.replySzRead))
    else some (s.goto tid c (.clearTid (-2)))
  | .clearTid rc => some { s with rctx.tidRequester := idNone, req := .returned c rc }
  | _ => none

/-- The program point after an `rtems_event_receive` at `pc`, by the events
it reports. -/
def afterReceive (events : EventSet) : Pc → Option Pc
  | .waitAck rc => some (.checkAck rc events)
  | .waitReply => some (.checkReply events)
  | _ => none

/-- The time-out of the receive at `pc`. -/
def waitTicks (c : Call) : Pc → Nat
  | .waitReply => c.rticks
  | _ => c.ticks

/-- `rtems_event_send`, with the arguments as they were read. -/
def post (s : LinkState) (id : RtemsId) (ev : EventSet) : LinkState :=
  { s with pending := eventSend s.pending id ev }

/-- `link_ack` -/
def linkAck (s : LinkState) : LinkState :=
  match s.ack with
  | .idle => { s with rctx.txAcked := true, ack := .test }
  | .test => { s with ack := if s.rctx.tidRequester ≠ idNone then .send else .idle }
  | .send => { s with ack := .sendTo s.rctx.tidRequester }
  | .sendTo id => { s with ack := .post id s.rctx.eventWait }
  | .post id ev => { s.post id ev with ack := .idle }

/-- `link_recv_reply`. A read into `NULL` fails an assertion of the
transport. -/
def linkRecvReply (s : LinkState) (n : Nat) : Option LinkState :=
  match s.recv with
  | .idle => some { s with recv := .haveReply s.rctx.reply }
  | .haveReply p => some { s with recv := .haveArgs p s.rctx.replySz }
  | .haveArgs none _ => some { s with recv := .assertFailed }
  | .haveArgs (some _) _ => some { s with recv := .haveRead n }
  | .haveRead k => some { s with rctx.replySzRead := k, recv := .test }
  | .test => some { s with recv := if s.rctx.tidRequester ≠ idNone then .send else .idle }
  | .send => some { s with recv := .sendTo s.rctx.tidRequester }
  | .sendTo id => some { s with recv := .post id s.rctx.eventWait }
  | .post id ev => some { s.post id ev with recv := .idle }
  | .assertFailed => none

end LinkState

/-- One step of the link. -/
def step (s : LinkState) (a : Act) : Option LinkState :=
  match a, s.req with
  | .call _ _, .running _ _ _ => none
  | .call tid c, _ => some (s.goto tid c (if c.isRequest then .setReplySzRead else .setTid))
  | .run, .running tid c pc => s.runStep tid c pc
  | .write rc, .running tid c .write =>
    if rc = 0 then some (s.sendReturns tid c 0) else some (s.goto tid c (.waitAck rc))
  | .wake, .running tid c pc =>
    if hasEvent (s.pending tid) s.rctx.eventWait then
      (LinkState.afterReceive (s.events tid) pc).map fun pc' =>
        ({ s with pending := eventClear s.pending tid s.rctx.eventWait }).goto tid c pc'
    else none
  | .timeout, .running tid c pc =>
    if LinkState.waitTicks c pc ≠ noTimeout ∧ ¬ hasEvent (s.pending tid) s.rctx.eventWait then
      (LinkState.afterReceive 0 pc).map fun pc' => s.goto tid c pc'
    else none
  | .ack, _ => some s.linkAck
  | .recvReply n, _ => s.linkRecvReply n
  | _, _ => none

end HpscRtems.Link
