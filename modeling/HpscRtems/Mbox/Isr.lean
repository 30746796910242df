/-
HpscRtems.Mbox.Isr — `hpsc_mbox_isr` over all channels of a mailbox, with
the callbacks it calls: `link_mbox_ack` and `link_mbox_read` through
`link->priv` (`link-mbox.c`), `link_recv_cmd`, `link_recv_reply` and
`link_ack` (`link.c`).

Every link is a heap object, and a callback gets at its channels only
through the argument in the channel's record. The ISR runs to its end on
the processor of the driver, and the other processor does not change the
registers meanwhile. A failed assertion, a panic and an access to a link
that does not exist are `none`. `handled`, which only decides about a
warning, is left out.

`invoked` and `reads` are not in the program: the callbacks called so far,
and the channels `hpsc_mbox_chan_read` was called for.
-/
import HpscRtems.Command.Handler
import HpscRtems.Link.Request
import HpscRtems.Mbox.Channel
import HpscRtems.Mbox.Connect

namespace HpscRtems.Mbox

open Machine Rtems Command Link

/-! ## §1 State -/

/-- `struct link_mbox`; `mbox` is the mailbox of the state. -/
structure LinkMbox where
  chanFrom : Fin channels
  chanTo : Fin channels

/-- A `struct link`, with the `struct link_mbox` its `priv` points to. -/
structure LinkObj where
  rctx : LinkRequestCtx
  priv : LinkMbox

/-- What the callbacks find in RTEMS and in `cmd_handler`. -/
structure IsrEnv where
  /-- Is there a task with this identifier? -/
  alive : RtemsId → Bool
  /-- `cmd_handler.tid` -/
  handlerTid : RtemsId

structure IsrState where
  mailbox : Mailbox
  links : Nat → Option LinkObj
  /-- The memory of the reply buffers. -/
  mem : Mem
  cmdq : Cmdq
  pending : Pending
  invoked : List ChanIrqInfo
  reads : List (Fin channels)

namespace IsrState

/-- An access to the registers of channel `i`. -/
def onBlock (s : IsrState) (i : Fin channels) (f : ChanBase → ChanBase) : IsrState :=
  { s with mailbox := s.mailbox.setBlock i (f (s.mailbox.block i)) }

/-- Write `link->rctx`, of the link `o` at `link`. -/
def setRctx (s : IsrState) (link : Nat) (o : LinkObj) (c : LinkRequestCtx) : IsrState :=
  { s with links := Function.update s.links link (some { o with rctx := c }) }

end IsrState

/-! ## §2 `rtems_event_send` and `cmd_enqueue` -/

def rtemsEventSend (env : IsrEnv) (s : IsrState) (id : RtemsId) (ev : EventSet) :
    IsrState × StatusCode :=
  if env.alive id then ({ s with pending := eventSend s.pending id ev }, .successful)
  else (s, .invalidId)

/-- `cmd_enqueue` -/
def cmdEnqueue (env : IsrEnv) (s : IsrState) (cmd : Cmd) : IsrState × Nat :=
  let (q, rc) := cmdEnqueueCbUnsafe s.cmdq cmd none none
  let s := { s with cmdq := q }
  if rc = 0 ∧ env.handlerTid ≠ idNone then
    let (s, sc) := rtemsEventSend env s env.handlerTid cmdEventNew
    (s, if sc ≠ .successful then 1 else 0)
  else (s, rc)

/-! ## §3 Callbacks -/

/-- The end of `link_ack` and of `link_recv_reply`: tell the requester. -/
def notifyRequester (env : IsrEnv) (s : IsrState) (c : LinkRequestCtx) : Option IsrState :=
  if c.tidRequester ≠ idNone then
    let (s, sc) := rtemsEventSend env s c.tidRequester c.eventWait
    if sc ≠ .successful then none else some s
  else some s

/-- `link_ack` -/
def linkAck (env : IsrEnv) (s : IsrState) (link : Nat) (o : LinkObj) : Option IsrState :=
  let c := { o.rctx with txAcked := true }
  notifyRequester env (s.setRctx link o c) c

/-- `link_mbox_ack` -/
def linkMboxAck (env : IsrEnv) (s : IsrState) (link : Nat) : Option IsrState :=
  match s.links link with
  | some o => (linkAck env s link o).map (·.onBlock o.priv.chanTo hpscMboxChanEventClearAck)
  | none => none

/-- `link_mbox_read` into the memory at `buf`: the memory and the return value. -/
def linkMboxRead (s : IsrState) (l : LinkMbox) (mem : Mem) (buf sz : Nat) :
    IsrState × Mem × Nat :=
  let r := hpscMboxChanRead (s.mailbox.block l.chanFrom) mem buf sz
  let s := { s with reads := s.reads ++ [l.chanFrom] }
  ((s.onBlock l.chanFrom hpscMboxChanEventClearRcv).onBlock l.chanFrom hpscMboxChanEventSetAck, r)

/-- `link_recv_cmd` -/
def linkRecvCmd (env : IsrEnv) (s : IsrState) (link : Nat) : Option IsrState :=
  match s.links link with
  | some o =>
    let (s, mem, _) := linkMboxRead s o.priv Msg.zero.toMem 0 hpscMsgSize
    let (s, rc) := cmdEnqueue env s ⟨Msg.ofMem mem, some link⟩
    if rc ≠ 0 then none else some s
  | none => none

/-- `link_recv_reply` -/
def linkRecvReply (env : IsrEnv) (s : IsrState) (link : Nat) : Option IsrState :=
  match s.links link with
  | some o =>
    match o.rctx.reply with
    | some p =>
      let (s, mem, n) := linkMboxRead s o.priv s.mem p o.rctx.replySz
      let c := { o.rctx with replySzRead := n }
      notifyRequester env ({ s with mem := mem }.setRctx link o c) c
    | none => none
  | none => none

/-- Call a callback. Code that is not the program's is not followed. -/
def callHandler (env : IsrEnv) (s : IsrState) (cb : Handler) (arg : Ptr) : Option IsrState :=
  let s := { s with invoked := s.invoked ++ [⟨some cb, arg⟩] }
  match cb, arg with
  | .linkRecvCmd, some link => linkRecvCmd env s link
  | .linkRecvReply, some link => linkRecvReply env s link
  | .linkMboxAck, some link => linkMboxAck env s link
  | _, _ => none

/-! ## §4 `hpsc_mbox_isr` -/

/-- `hpsc_mbox_chan_isr_a` -/
def hpscMboxChanIsrA (env : IsrEnv) (s : IsrState) (i : Fin channels) : Option IsrState :=
  match (s.mailbox.chan i).intA.cb with
  | some cb => callHandler env s cb (s.mailbox.chan i).intA.arg
  -- just clear the event, no ACK
  | none => some (s.onBlock i hpscMboxChanEventClearRcv)

/-- `hpsc_mbox_chan_isr_b` -/
def hpscMboxChanIsrB (env : IsrEnv) (s : IsrState) (i : Fin channels) : Option IsrState :=
  match (s.mailbox.chan i).intB.cb with
  | some cb => callHandler env s cb (s.mailbox.chan i).intB.arg
  -- just clear the event
  | none => some (s.onBlock i hpscMboxChanEventClearAck)

/-- `hpsc_mbox_chan_is_subscribed` -/
def hpscMboxChanIsSubscribed (s : Mailbox) (i : Fin channels) (event interrupt : Word) : Bool :=
  if !(s.chan i).active then false
  else if !hasEvent (s.block i).event event then false
  else if !hasEvent (s.block i).enable interrupt then false
  else true

/-- One turn of the loop of `hpsc_mbox_isr`. -/
def isrTurn (event interrupt : Word) (cb : IsrState → Fin channels → Option IsrState)
    (s : IsrState) (i : Fin channels) : Option IsrState :=
  if hpscMboxChanIsSubscribed s.mailbox i event interrupt then cb s i else some s

/-- `hpsc_mbox_isr` -/
def hpscMboxIsr (s : IsrState) (event interrupt : Word)
    (cb : IsrState → Fin channels → Option IsrState) : Option IsrState :=
  (List.finRange channels).foldlM (isrTurn event interrupt cb) s

/-- `hpsc_mbox_isr_a` -/
def hpscMboxIsrA (env : IsrEnv) (s : IsrState) : Option IsrState :=
  hpscMboxIsr s eventA (intA s.mailbox.mbox.intA.idx) (hpscMboxChanIsrA env)

/-- `hpsc_mbox_isr_b` -/
def hpscMboxIsrB (env : IsrEnv) (s : IsrState) : Option IsrState :=
  hpscMboxIsr s eventB (intB s.mailbox.mbox.intB.idx) (hpscMboxChanIsrB env)

/-! ## §5 Connecting and closing -/

/-- `link_mbox_connect`, with its heap objects; `malloc` gives no address
that is in use. -/
def connect (env : ConnectEnv) (s : IsrState) (a : ConnectArgs) (rctx : LinkRequestCtx) :
    IsrState :=
  match linkMboxConnect env s.mailbox a with
  | (m, some link) =>
    let o : LinkObj :=
      { rctx := { rctx with tidRequester := idNone, txAcked := false, reply := none }
        priv := ⟨a.idxFrom, a.idxTo⟩ }
    { s with mailbox := m, links := Function.update s.links link (some o) }
  | (m, none) => { s with mailbox := m }

/-- `link_mbox_close` of the link at `link`, with its heap objects. -/
def close (envFrom envTo : CallEnv) (s : IsrState) (link : Nat) : Option IsrState :=
  (s.links link).map fun o =>
    let m := (hpscMboxChanRelease envFrom s.mailbox o.priv.chanFrom).1
    let m := (hpscMboxChanRelease envTo m o.priv.chanTo).1
    { s with mailbox := m, links := Function.update s.links link none }

end HpscRtems.Mbox
