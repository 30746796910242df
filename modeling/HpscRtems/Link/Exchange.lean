/-
HpscRtems.Link.Exchange — one `link_request` and the two deliveries that
belong to it.

The request starts on a link in any state without a delivery in progress:
`rctx` and the pending events are whatever earlier calls left. `link_ack`
and `link_recv_reply` each run once, from the write on, and
`exchangeStep` lets a wait time out only after the delivery it is for is
complete. These are the premises under which a request is expected to
return the size of the reply.
-/
import HpscRtems.Link.RequestTheorems

namespace HpscRtems.Link

open Machine Rtems

/-! ## §1 The exchange -/

/-- A link inside one request, with the deliveries that have begun. -/
structure Exchange where
  link : LinkState
  ackStarted : Bool
  recvStarted : Bool

/-- The arguments of a `link_request`. -/
structure RequestArgs where
  wtimeoutTicks : Nat
  wbuf : List Byte
  wsz : Nat
  rtimeoutTicks : Nat
  rbuf : Ptr
  rsz : Nat
  eventWait : Event

def RequestArgs.call (r : RequestArgs) : Call :=
  .request r.wtimeoutTicks r.wbuf r.wsz r.rtimeoutTicks r.rbuf r.rsz r.eventWait

/-- Task `tid` enters `link_request`. -/
def Exchange.start (rctx : LinkRequestCtx) (p : Pending) (tid : TaskId) (r : RequestArgs) :
    Exchange :=
  ⟨⟨rctx, p, .running tid r.call .setReplySzRead, .idle, .idle⟩, false, false⟩

/-- `link->write` has returned. -/
def Requester.sent : Requester → Bool
  | .running _ _ pc => 6 ≤ pc.rank && pc != .write
  | _ => true

/-- The requester is in the receive of `_link_request_recv`. -/
def Requester.inReplyWait : Requester → Bool
  | .running _ _ .waitReply => true
  | _ => false

/-- The events the receive of `_link_request_send` has just reported. -/
def Requester.ackEvents : Requester → EventSet
  | .running _ _ (.checkAck _ events) => events
  | _ => 0#32

/-- The requester is about to take `rctx.reply_sz_read`. -/
def Requester.takesReply : Requester → Bool
  | .running _ _ (.checkReply _) => true
  | _ => false

namespace Exchange

/-- `link_ack` has run for this request. -/
def AckDone (x : Exchange) : Prop := x.ackStarted = true ∧ x.link.ack = .idle

/-- `link_recv_reply` has run for this request. -/
def RecvDone (x : Exchange) : Prop := x.recvStarted = true ∧ x.link.recv = .idle

instance (x : Exchange) : Decidable x.AckDone := inferInstanceAs (Decidable (_ ∧ _))
instance (x : Exchange) : Decidable x.RecvDone := inferInstanceAs (Decidable (_ ∧ _))

/-- The steps the premises allow. -/
def Allowed (size : Nat) (x : Exchange) : Act → Prop
  | .call _ _ => False
  | .run => True
  | .write rc => rc ≠ 0
  | .wake => True
  | .timeout => if x.link.req.inReplyWait then x.RecvDone else x.AckDone
  | .ack => x.link.req.sent = true ∧ ¬ x.AckDone
  | .recvReply n => n = size ∧ x.link.req.sent = true ∧ ¬ x.RecvDone

instance (size : Nat) (x : Exchange) : ∀ a, Decidable (x.Allowed size a)
  | .call _ _ => inferInstanceAs (Decidable False)
  | .run => inferInstanceAs (Decidable True)
  | .write _ => inferInstanceAs (Decidable (_ ≠ _))
  | .wake => inferInstanceAs (Decidable True)
  | .timeout =>
    inferInstanceAs (Decidable (if x.link.req.inReplyWait then x.RecvDone else x.AckDone))
  | .ack => inferInstanceAs (Decidable (_ ∧ _))
  | .recvReply _ => inferInstanceAs (Decidable (_ ∧ _ ∧ _))

end Exchange

/-- One step of the exchange; the reply has `size` bytes. -/
def exchangeStep (size : Nat) (x : Exchange) (a : Act) : Option Exchange :=
  if x.Allowed size a then
    (step x.link a).map fun l =>
      { link := l
        ackStarted := x.ackStarted || a == .ack
        recvStarted := x.recvStarted || a.isRecvReply }
  else none

/-! ## §2 Outcome and order of the deliveries -/

namespace Exchange

/-- Both deliveries are complete and the requester has no step left: it
has returned, failed the assertion, or waits without time-out for an event
that nobody will send. -/
def Settled (x : Exchange) : Prop :=
  x.AckDone ∧ x.RecvDone ∧
    step x.link .run = none ∧ step x.link .wake = none ∧ step x.link .timeout = none

instance (x : Exchange) : Decidable x.Settled :=
  inferInstanceAs (Decidable (_ ∧ _ ∧ _ ∧ _ ∧ _))

/-- The request has returned the size of the reply. -/
def ReturnedSize (size : Nat) (x : Exchange) : Prop :=
  ∃ c, x.link.req = .returned c size

/-- `link_recv_reply` has written `rctx.reply_sz_read`. -/
def Stored (x : Exchange) : Prop :=
  x.recvStarted = true ∧
    (x.link.recv = .idle ∨ x.link.recv = .test ∨ x.link.recv.sending = true)

/-- The order of the deliveries against the requester's two waits. -/
structure InOrder (size : Nat) (x : Exchange) (a : Act) : Prop where
  /-- One of the two posts is still to come when the first wait is woken. -/
  wakeAck : a = .wake → x.link.req.inAckWait = true → ¬ (x.AckDone ∧ x.RecvDone)
  /-- The post that woke it was made after `tx_acked` was set. -/
  checkAck : a = .run → hasEvent x.link.req.ackEvents x.link.rctx.eventWait = true →
    x.link.rctx.txAcked = true
  /-- The second wait does not time out while `link_ack` is running. -/
  timeoutReply : a = .timeout → x.link.req.inReplyWait = true → x.AckDone
  /-- The second wait was not woken before the reply was stored. -/
  takeReply : a = .run → x.link.req.takesReply = true → x.Stored ∨ size = 0

instance (x : Exchange) : Decidable x.Stored := inferInstanceAs (Decidable (_ ∧ _))

instance (size : Nat) (x : Exchange) (a : Act) : Decidable (InOrder size x a) :=
  decidable_of_iff
    ((a = .wake → x.link.req.inAckWait = true → ¬ (x.AckDone ∧ x.RecvDone)) ∧
      (a = .run → hasEvent x.link.req.ackEvents x.link.rctx.eventWait = true →
        x.link.rctx.txAcked = true) ∧
      (a = .timeout → x.link.req.inReplyWait = true → x.AckDone) ∧
      (a = .run → x.link.req.takesReply = true → x.Stored ∨ size = 0))
    ⟨fun h => ⟨h.1, h.2.1, h.2.2.1, h.2.2.2⟩,
      fun h => ⟨h.wakeAck, h.checkAck, h.timeoutReply, h.takeReply⟩⟩

end Exchange

end HpscRtems.Link
