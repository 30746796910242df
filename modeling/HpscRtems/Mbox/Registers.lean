/-
HpscRtems.Mbox.Registers — one direction of a mailbox link, one register
access at a time.

The sender's task runs `link_request_send`, with `link_mbox_write` as
sixteen stores to DATA and one to EVENT_STATUS_SET. Its ACK ISR checks the
subscription, runs `link_mbox_ack` and clears event B; the task stands
still meanwhile. On the other processor the receive ISR checks its
subscription and runs `link_mbox_read`: sixteen loads, one store to
EVENT_STATUS_CLEAR and one to EVENT_STATUS_SET. Of `hpsc_mbox_isr` this is
the turn of the loop that belongs to the channel, and of `link_recv_cmd`
the read; `cmd_enqueue`, which follows it, does not touch the channel.

`calls` and `reads` are not in the program: the calls made so far and the
messages read so far.
-/
import HpscRtems.Link.OneWay
import HpscRtems.Mbox.Channel
import HpscRtems.Mbox.Connect

namespace HpscRtems.Mbox

open Machine Rtems Link

/-! ## §1 The two ends -/

/-- A link that sends on a channel and one that receives commands on it,
both connected, each known to the driver of its own processor. Both drivers
lead to the same registers. -/
structure Ends where
  sender : Mailbox
  senderLink : MboxLink
  receiver : Mailbox
  receiverLink : MboxLink
  sender_up : LinkUp sender senderLink
  receiver_up : LinkUp receiver receiverLink
  server : receiverLink.args.server ≠ 0
  chan_eq : receiverLink.args.idxFrom = senderLink.args.idxTo
  block_eq : receiver.block receiverLink.args.idxFrom = sender.block senderLink.args.idxTo

namespace Ends

/-- The sender's record of the channel. -/
def sChan (e : Ends) : HpscMboxChan := e.sender.chan e.senderLink.args.idxTo

/-- The receiver's record of the channel. -/
def rChan (e : Ends) : HpscMboxChan := e.receiver.chan e.receiverLink.args.idxFrom

/-- The registers of the channel at the start. -/
def block (e : Ends) : ChanBase := e.sender.block e.senderLink.args.idxTo

end Ends

/-! ## §2 State -/

/-- Where the sender's ACK ISR stands. -/
inductive AckIsr where
  | idle
  | checkEnable
  | inLinkAck
  | clearAck
  deriving DecidableEq

/-- Where the receive ISR stands; during the read, with the number of words
loaded and the buffer. -/
inductive RecvIsr where
  | idle
  | checkEnable
  | read (i : Fin dataRegs) (mem : Mem)
  | clearRcv
  | setAck

structure MboxState where
  link : LinkState
  block : ChanBase
  /-- The DATA registers the `link_mbox_write` in progress has stored. -/
  stored : Nat
  ackIsr : AckIsr
  recvIsr : RecvIsr
  calls : List Call
  reads : List Msg

/-- The links just connected, with the events `ev` left over on the channel. -/
def MboxState.start (e : Ends) (ev : Word) (heap : LinkRequestCtx) (p : Pending) : MboxState :=
  ⟨.connected heap p, { e.block with event := ev }, 0, .idle, .idle, [], []⟩

/-! ## §3 Steps -/

inductive MboxAct where
  /-- The sending task, outside `link_mbox_write`. -/
  | sender (a : Act)
  /-- `link_mbox_write`: the next store to DATA. -/
  | store
  /-- `link_mbox_write`: the store to EVENT_STATUS_SET. -/
  | setRcv
  | ackIsr
  | recvIsr
  deriving DecidableEq

def MboxAct.call? : MboxAct → Option Call
  | .sender (.call _ c) => some c
  | _ => none

/-- The ACK ISR of the sender's driver, for the channel. -/
def ackIsrStep (e : Ends) (c : MboxState) : Option MboxState :=
  match c.ackIsr with
  | .idle =>
    if e.sChan.active = true ∧ hasEvent c.block.event eventB = true then
      some { c with ackIsr := .checkEnable }
    else none
  | .checkEnable =>
    if hasEvent c.block.enable (intB e.sender.mbox.intB.idx) = true then
      match e.sChan.intB.cb with
      | some .linkMboxAck => some { c with ackIsr := .inLinkAck }
      | some _ => none
      -- nobody to tell: just clear the event
      | none => some { c with ackIsr := .clearAck }
    else some { c with ackIsr := .idle }
  | .inLinkAck =>
    some { c with
      link := c.link.linkAck
      ackIsr := if c.link.linkAck.ack = .idle then .clearAck else .inLinkAck }
  | .clearAck => some { c with block := hpscMboxChanEventClearAck c.block, ackIsr := .idle }

/-- The receive ISR of the receiver's driver, for the channel. -/
def recvIsrStep (e : Ends) (c : MboxState) : Option MboxState :=
  match c.recvIsr with
  | .idle =>
    if e.rChan.active = true ∧ hasEvent c.block.event eventA = true then
      some { c with recvIsr := .checkEnable }
    else none
  | .checkEnable =>
    if hasEvent c.block.enable (intA e.receiver.mbox.intA.idx) = true then
      match e.rChan.intA.cb with
      | some .linkRecvCmd => some { c with recvIsr := .read 0 Msg.zero.toMem }
      | some _ => none
      -- nobody to read it: clear the event, no ACK
      | none => some { c with block := hpscMboxChanEventClearRcv c.block, recvIsr := .idle }
    else some { c with recvIsr := .idle }
  | .read i mem =>
    let mem := readWord c.block 0 hpscMsgSize mem i
    if h : i.val + 1 < dataRegs then some { c with recvIsr := .read ⟨i.val + 1, h⟩ mem }
    else some { c with recvIsr := .clearRcv, reads := c.reads ++ [Msg.ofMem mem] }
  | .clearRcv => some { c with block := hpscMboxChanEventClearRcv c.block, recvIsr := .setAck }
  | .setAck => some { c with block := hpscMboxChanEventSetAck c.block, recvIsr := .idle }

/-- One step of the two ends. -/
def mboxLinkStep (e : Ends) (c : MboxState) : MboxAct → Option MboxState
  | .sender a =>
    if c.ackIsr = .idle ∧ a.ofSender = true then
      (step c.link a).map fun l => { c with link := l, calls := a.addCall c.calls }
    else none
  | .store =>
    match c.link.req, c.ackIsr with
    | .running _ call .write, .idle =>
      if h : c.stored < dataRegs ∧ call.sz ≤ hpscMboxDataSize then
        let i : Fin dataRegs := ⟨c.stored, h.1⟩
        some { c with
          block := c.block.storeData i (dataWord (bufMem call.buf) call.sz i)
          stored := c.stored + 1 }
      else none
    | _, _ => none
  | .setRcv =>
    match c.link.req, c.ackIsr with
    | .running _ call .write, .idle =>
      if c.stored = dataRegs then
        (step c.link (.write call.sz)).map fun l =>
          { c with link := l, block := hpscMboxChanEventSetRcv c.block, stored := 0 }
      else none
    | _, _ => none
  | .ackIsr => ackIsrStep e c
  | .recvIsr => recvIsrStep e c

/-! ## §4 What connecting has set up -/

namespace Ends

theorem sChan_cb (e : Ends) : e.sChan.intB.cb = some .linkMboxAck := by
  rw [sChan, e.sender_up.to_up.record]
  rfl

theorem rChan_cb (e : Ends) : e.rChan.intA.cb = some .linkRecvCmd := by
  have hcb : rcvCb e.receiverLink.args.server = .linkRecvCmd := if_pos e.server
  rw [rChan, e.receiver_up.from_up.record]
  exact congrArg some hcb

theorem ack_enabled (e : Ends) :
    hasEvent e.block.enable (intB e.sender.mbox.intB.idx) = true := by
  have h := e.sender_up.to_up.enabledB rfl
  simpa [hasEvent, block] using h

theorem recv_enabled (e : Ends) :
    hasEvent e.block.enable (intA e.receiver.mbox.intA.idx) = true := by
  have h := e.receiver_up.from_up.enabledA rfl
  rw [e.block_eq] at h
  simpa [hasEvent, block] using h

end Ends

end HpscRtems.Mbox
