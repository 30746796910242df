/-
HpscRtems.Link.Service — a client that makes requests of a server, over
both directions of a link.

The client calls `link_request`; its ACK handler and `link_recv_reply` run
at any time in between. On the server `link_recv_cmd` reads the requests
and queues them, and `cmd_handle` takes them in turn and answers each with
one `link_request_send`, or with nothing. Both ends execute the same
`link.c`. The accessors of the two media are one step each, as in
`OneWay`; the queue is a list here, and what the handler answers is open.

`calls`, `slot` and `answers` are not in the program: the number of the
client's latest call, the call that the data in the request medium belong
to, and the answers written so far, each with the number of the call whose
request was handled.
-/
import HpscRtems.Link.OneWay
import HpscRtems.Mbox.Channel
import HpscRtems.Shmem.Region

namespace HpscRtems.Link

open Machine Rtems

/-! ## §1 Reading into a buffer -/

/-- A medium with its `link->read` into any buffer. -/
structure ReplyMedium (ρ : Type) extends Medium ρ where
  /-- The data part of `link->read` of `sz` bytes to the address `p`: the
  memory and the return value; `none` when an assertion fails. -/
  readInto : ρ → Mem → Nat → Nat → Option (Mem × Nat)
  /-- What a read with a buffer of `sz` bytes returns. -/
  readSize : Nat → Nat
  readInto_size : ∀ {r mem p sz mem' n}, readInto r mem p sz = some (mem', n) → n = readSize sz
  readInto_mem : ∀ {r mem p sz mem' n}, readInto r mem p sz = some (mem', n) →
    ∀ i, i < n → mem' (p + i) = (read r).toMem i

/-- The shared memory link: a read takes the whole message. -/
def shmemReply : ReplyMedium Shmem.HpscShmemRegion where
  toMedium := Shmem.shmemMedium
  readInto := Shmem.shmemRead
  readSize _ := hpscMsgSize
  readInto_size h := (Shmem.shmemRead_mem h).1
  readInto_mem {r mem p sz mem' n} h i hi := by
    obtain ⟨rfl, hdata, -⟩ := Shmem.shmemRead_mem h
    show mem' (p + i) = (Shmem.readMsg r).toMem i
    rw [Shmem.readMsg_eq, ← hdata, Msg.toMem_eq _ _ hi, Msg.getElem_ofMem]

/-- The mailbox link: a read takes the words the size asks for. -/
def mboxReply : ReplyMedium Mbox.ChanBase where
  toMedium := Mbox.mboxMedium
  readInto b mem p sz := some (Mbox.hpscMboxChanRead b mem p sz)
  readSize sz := 4 * min (Mbox.wordCount sz) Mbox.dataRegs
  readInto_size h := by
    cases h
    rfl
  readInto_mem {b mem p sz mem' n} h i hi := by
    cases h
    obtain ⟨j, k, rfl, hk⟩ : ∃ j k, i = 4 * j + k ∧ k < 4 := ⟨i / 4, i % 4, by omega, by omega⟩
    have hj : j < Mbox.dataRegs ∧ j < Mbox.wordCount sz := by omega
    have hlt : 4 * j + k < hpscMsgSize := by
      have hj16 := hj.1
      simp only [Mbox.dataRegs] at hj16
      simp only [hpscMsgSize]
      omega
    have hread := Mbox.foldl_readWord b p sz mem (List.finRange Mbox.dataRegs) ⟨j, hj.1⟩ k hk
    rw [if_pos ⟨List.mem_finRange _, hj.2⟩] at hread
    show (Mbox.hpscMboxChanRead b mem p sz).1 (p + (4 * j + k)) = (Mbox.readMsg b).toMem (4 * j + k)
    rw [Msg.toMem_eq _ _ hlt, Mbox.readMsg_getElem b ⟨j, hj.1⟩ k hk hlt]
    exact hread

/-! ## §2 One end's way out -/

/-- A link with the medium it sends on. -/
structure Outgoing (ρ : Type) where
  link : LinkState
  medium : ρ
  /-- The task is inside `link->write`, between its two accessors. -/
  copied : Bool
  ack : AckTask

inductive OutAct where
  /-- The task calls, or goes on outside `link->write`. -/
  | task (a : Act)
  | copy
  | setNew
  | ackPoll
  | linkAck
  | clearAck
  deriving DecidableEq

/-- What the task does outside `link->write`. -/
def Act.ofTask : Act → Bool
  | .call _ _ => true
  | .run => true
  | .wake => true
  | .timeout => true
  | _ => false

variable {ρ : Type}

/-- One step of the task or of its ACK handler. -/
def outStep (M : Medium ρ) (o : Outgoing ρ) : OutAct → Option (Outgoing ρ)
  | .task a =>
    if a.ofTask then (step o.link a).map fun l => { o with link := l } else none
  | .copy =>
    match o.link.req, o.copied with
    | .running _ c .write, false =>
      (M.write o.medium (bufMem c.buf) c.sz).map fun r => { o with medium := r, copied := true }
    | _, _ => none
  | .setNew =>
    match o.link.req, o.copied with
    | .running _ c .write, true =>
      (step o.link (.write c.sz)).map fun l =>
        { o with link := l, medium := M.setNew o.medium true, copied := false }
    | _, _ => none
  | .ackPoll =>
    if o.ack = .poll ∧ M.isAck o.medium = true then some { o with ack := .inLinkAck } else none
  | .linkAck =>
    if o.ack = .inLinkAck then
      some { o with
        link := o.link.linkAck
        ack := if o.link.linkAck.ack = .idle then .clearAck else .inLinkAck }
    else none
  | .clearAck =>
    if o.ack = .clearAck then some { o with medium := M.setAck o.medium false, ack := .poll }
    else none

/-! ## §3 Client and server -/

/-- The client's receive handler: waiting for the indication, inside
`link_recv_reply`, or inside its `link->read`, which will return `n`. -/
inductive ReplyTask where
  | poll
  | inRecvReply
  | clearNew (n : Nat)
  | setAck (n : Nat)
  deriving DecidableEq

structure Service (ρ : Type) where
  client : Outgoing ρ
  server : Outgoing ρ
  /-- The server's receive handler. -/
  cmd : RecvTask
  reply : ReplyTask
  /-- The command queue, with the call each command came from. -/
  queue : List (Nat × Msg)
  /-- The call whose command `cmd_handle` has and has not answered yet. -/
  holding : Option Nat
  /-- The client's memory. -/
  mem : Mem
  calls : Nat
  slot : Nat
  answers : List (Nat × Msg)

/-- Two links just connected, over media in the states `r` and `r'`. -/
def Service.start (r r' : ρ) (heap heap' : LinkRequestCtx) (p p' : Pending) (mem : Mem) :
    Service ρ where
  client := ⟨.connected heap p, r, false, .poll⟩
  server := ⟨.connected heap' p', r', false, .poll⟩
  cmd := .poll
  reply := .poll
  queue := []
  holding := none
  mem := mem
  calls := 0
  slot := 0
  answers := []

inductive ServiceAct where
  | client (a : OutAct)
  | server (a : OutAct)
  /-- `link_recv_cmd` on the server: the indication, the read with the
  enqueue, and the two accessors that end the read. -/
  | cmdPoll
  | cmdRead
  | cmdClearNew
  | cmdSetAck
  /-- `cmd_handle` takes the next command. -/
  | dequeue
  /-- The handler fails or has no reply. -/
  | noReply
  /-- `link_recv_reply` on the client: the indication, its own statements,
  and the three accessors of the read. -/
  | replyPoll
  | replyRun
  | replyRead
  | replyClearNew
  | replySetAck
  deriving DecidableEq

/-- The client only makes requests. -/
def OutAct.ofClient : OutAct → Bool
  | .task (.call _ c) => c.isRequest
  | _ => true

/-- The server only sends replies, of `HPSC_MSG_SIZE` bytes. -/
def OutAct.ofServer : OutAct → Bool
  | .task (.call _ c) => !c.isRequest && c.sz = hpscMsgSize
  | _ => true

/-- The action begins a call. -/
def OutAct.isCall : OutAct → Bool
  | .task (.call _ _) => true
  | _ => false

/-- One step of the two ends. -/
def serviceStep (P : ReplyMedium ρ) (x : Service ρ) : ServiceAct → Option (Service ρ)
  | .client a =>
    if a.ofClient then
      (outStep P.toMedium x.client a).map fun o =>
        { x with
          client := o
          calls := if a.isCall then x.calls + 1 else x.calls
          slot := if a = .copy then x.calls else x.slot }
    else none
  | .server a =>
    match a, x.holding with
    | .copy, some t =>
      (outStep P.toMedium x.server .copy).map fun o =>
        { x with server := o, answers := x.answers ++ [(t, P.read o.medium)] }
    | .setNew, some _ =>
      (outStep P.toMedium x.server .setNew).map fun o => { x with server := o, holding := none }
    | .copy, none => none
    | .setNew, none => none
    | a, h =>
      -- a reply is sent only while a command is held
      if a.ofServer ∧ (a.isCall = true → h.isSome = true) then
        (outStep P.toMedium x.server a).map fun o => { x with server := o }
      else none
  | .cmdPoll =>
    if x.cmd = .poll ∧ P.isNew x.client.medium = true then some { x with cmd := .read } else none
  | .cmdRead =>
    if x.cmd = .read then
      some { x with queue := x.queue ++ [(x.slot, P.read x.client.medium)], cmd := .clearNew }
    else none
  | .cmdClearNew =>
    if x.cmd = .clearNew then
      some { x with client.medium := P.setNew x.client.medium false, cmd := .setAck }
    else none
  | .cmdSetAck =>
    if x.cmd = .setAck then
      some { x with client.medium := P.setAck x.client.medium true, cmd := .poll }
    else none
  | .dequeue =>
    match x.queue, x.holding with
    | (t, _) :: queue, none =>
      if x.server.link.req.isRunning = false then some { x with queue := queue, holding := some t }
      else none
    | _, _ => none
  | .noReply =>
    if x.holding.isSome = true ∧ x.server.link.req.isRunning = false then
      some { x with holding := none }
    else none
  | .replyPoll =>
    if x.reply = .poll ∧ P.isNew x.server.medium = true then some { x with reply := .inRecvReply }
    else none
  | .replyRun =>
    match x.reply, x.client.link.recv with
    | .inRecvReply, .haveArgs (some _) _ => none
    | .inRecvReply, _ =>
      (x.client.link.linkRecvReply 0).map fun l =>
        { x with client.link := l, reply := if l.recv = .idle then .poll else .inRecvReply }
    | _, _ => none
  | .replyRead =>
    match x.reply, x.client.link.recv with
    | .inRecvReply, .haveArgs (some q) sz =>
      (P.readInto x.server.medium x.mem q sz).map fun r =>
        { x with mem := r.1, reply := .clearNew r.2 }
    | _, _ => none
  | .replyClearNew =>
    match x.reply with
    | .clearNew n =>
      some { x with server.medium := P.setNew x.server.medium false, reply := .setAck n }
    | _ => none
  | .replySetAck =>
    match x.reply with
    | .setAck n =>
      (x.client.link.linkRecvReply n).map fun l =>
        { x with
          server.medium := P.setAck x.server.medium true
          client.link := l
          reply := .inRecvReply }
    | _ => none

/-! ## §4 Whose reply it is -/

/-- A request that returned a positive number has as many bytes in its
buffer of an answer to its own request. -/
def Service.OwnReply (x : Service ρ) : Prop :=
  ∀ c rc, x.client.link.req = .returned c rc → 0 < rc →
    ∃ q m, c.rbuf = some q ∧ (x.calls, m) ∈ x.answers ∧
      ∀ i : Nat, (i : Int) < rc → x.mem (q + i) = m.toMem i

/-- `link_recv_reply` has a reply to read or to report. -/
def Service.Undelivered (x : Service ρ) : Prop :=
  x.reply ≠ .poll ∧ x.client.link.recv ≠ .test ∧ x.client.link.recv.sending = false

/-- A request waits to be read or is being read, the server has a request
it has not answered, or a reply is not delivered. -/
def Service.Outstanding (P : ReplyMedium ρ) (x : Service ρ) : Prop :=
  P.isNew x.client.medium = true ∨ x.cmd = .read ∨ x.queue ≠ [] ∨ x.holding.isSome = true ∨
    P.isNew x.server.medium = true ∨ x.Undelivered

instance (x : Service ρ) : Decidable x.Undelivered := inferInstanceAs (Decidable (_ ∧ _ ∧ _))

instance (P : ReplyMedium ρ) (x : Service ρ) : Decidable (x.Outstanding P) :=
  inferInstanceAs (Decidable (_ ∨ _ ∨ _ ∨ _ ∨ _ ∨ _))

/-- The request the action begins. -/
def ServiceAct.request? : ServiceAct → Option Call
  | .client (.task (.call _ c)) => some c
  | _ => none

/-- A call begins only when nothing of an earlier one is outstanding. -/
def AfterAll (P : ReplyMedium ρ) (x : Service ρ) (a : ServiceAct) : Prop :=
  a.request?.isSome = true → ¬ x.Outstanding P

instance (P : ReplyMedium ρ) (x : Service ρ) (a : ServiceAct) : Decidable (AfterAll P x a) :=
  inferInstanceAs (Decidable (_ → _))

end HpscRtems.Link
