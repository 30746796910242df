/-
HpscRtems.Shutdown — `shutdown` (`shutdown.c`), up to the point from which
only drivers are left to stop: it stops the command handler, closes the
links of the link store, and drops what is left in the command queue.

The other parties go on meanwhile: the handler task, the interrupt handlers
of the mailboxes and the poll tasks of the shared-memory links, which call
`link_recv_cmd`, and the rest of the system. An interrupt handler keeps the
lock of its channel while the callback runs, and a poll task runs its
callback itself, so each of them is at one point of one callback. What a
callback other than `link_recv_cmd` does is left out, as are the `printf`
calls and `link->name`, which only they use.

`CMD_EVENT_NEW` and `SHM_EVENT_EXIT` are the same event. An enqueuer that
finds `cmd_handler.tid` cleared sends it to whatever task is executing, and
if this is a poll task, the poll task exits.
-/
import HpscRtems.Command.Handler
import HpscRtems.Mbox.Driver
import HpscRtems.Shmem.Poll

namespace HpscRtems.Shutdown

open Rtems Command Mbox Shmem

/-! ## §1 Links -/

/-- `link->priv`: `struct link_mbox`, with the mailbox `μ` of the system, or
`struct link_shmem`, with its poll tasks. -/
inductive LinkPriv (μ : Type) where
  | mbox (mbox : μ) (chanFrom chanTo : Fin channels)
  | shmem (spRecv spAck : TaskId)
  deriving DecidableEq

/-- `struct link`, at the address `addr`. -/
structure Link (μ : Type) where
  addr : Nat
  priv : LinkPriv μ
  deriving DecidableEq

/-- Who calls the callbacks: the interrupt handler on a channel, or a poll task. -/
inductive Source (μ : Type) where
  | chan (mbox : μ) (i : Fin channels)
  | poll (tid : TaskId)
  deriving DecidableEq

/-- Can the callbacks of the source execute in, or over, the task `self`? An
interrupt may come upon any task. -/
def Source.executesIn {μ : Type} (self : TaskId) : Source μ → Bool
  | .chan _ _ => true
  | .poll tid => tid = self

/-- Where the messages to the link come from. -/
def Link.source {μ : Type} (l : Link μ) : Source μ :=
  match l.priv with
  | .mbox m i _ => .chan m i
  | .shmem spRecv _ => .poll spRecv

/-! ## §2 State -/

/-- Where a source is in the callback it has called. -/
inductive CallPc where
  | idle
  /-- `link_recv_cmd`, up to the critical section of `cmd_enqueue`. -/
  | recvCmd (link : Ptr)
  /-- `link_recv_cmd`, in `cmd_enqueue` after the critical section. -/
  | enqueue
  /-- Any other callback. -/
  | other
  deriving DecidableEq

/-- Where a callback begins. -/
def CallPc.enter (isRecvCmd : Bool) (arg : Ptr) : CallPc :=
  if isRecvCmd then .recvCmd arg else .other

/-- `link_recv_cmd` runs. -/
def CallPc.arriving : CallPc → Bool
  | .recvCmd _ | .enqueue => true
  | _ => false

/-- The program points of `link_mbox_close` and `link_shmem_close`. -/
inductive ClosePc where
  | releaseFrom
  | releaseTo
  /-- `shmem_poll_task_destroy(slink->sp_ack)` -/
  | ackSend
  | ackWait
  /-- `shmem_poll_task_destroy(slink->sp_recv)` -/
  | recvSend
  | recvWait
  | free
  deriving DecidableEq

/-- `link->close` -/
def LinkPriv.close {μ : Type} : LinkPriv μ → ClosePc
  | .mbox .. => .releaseFrom
  | .shmem .. => .ackSend

/-- The program points of `shutdown`. -/
inductive ShutdownPc (μ : Type) where
  | start
  /-- In `cmd_handle_task_destroy`. -/
  | destroy
  /-- `link_store_extract_first` -/
  | extract
  /-- In `link_disconnect(link)`. -/
  | close (link : Link μ) (pc : ClosePc)
  | dropAll
  /-- `cmd_drop_all` has returned. -/
  | dropped
  deriving DecidableEq

/-- The link that is being closed. -/
def ShutdownPc.closing {μ : Type} : ShutdownPc μ → List (Link μ)
  | .close l _ => [l]
  | _ => []

/-- `closed` lists the links whose close functions have returned, and is not
in the program. -/
structure System (μ : Type) where
  handler : HandlerState (Source μ)
  mbox : μ → Mailbox
  poll : TaskId → Option PollTask
  call : Source μ → CallPc
  /-- `lchain` of `link-store.c` -/
  store : List (Link μ)
  pc : ShutdownPc μ
  closed : List (Link μ)

/-! ## §3 Steps -/

inductive Act (μ : Type) where
  /-- A handler task or the rest of the system. -/
  | handler (a : HandlerAct (Source μ))
  /-- `hpsc_mbox_isr` finds that channel `i` has raised its event. -/
  | isr (m : μ) (i : Fin channels) (line : Line)
  /-- The next statement of a poll task, which finds the status bits `status`. -/
  | poll (tid : TaskId) (status : BitVec 32)
  | timeout (tid : TaskId)
  | wake (tid : TaskId)
  /-- `link_recv_cmd` has read `msg` and enters the critical section. -/
  | recv (e : Source μ) (msg : Msg)
  /-- `cmd_enqueue` reads `cmd_handler.tid`. -/
  | enq (e : Source μ)
  /-- `cmd_enqueue` sends its event, in or over the task `self`. -/
  | notify (e : Source μ) (self : TaskId)
  /-- The callback returns. -/
  | ret (e : Source μ)
  /-- The next statement of `shutdown`, called by `self`. The device takes
  the write of a release or not, and an event send returns `sc`. -/
  | shutdown (self : TaskId) (takes : Bool) (sc : StatusCode)

namespace System

variable {μ : Type}

/-- A poll task that has not exited. -/
def live (s : System μ) (tid : TaskId) : Bool := (s.poll tid).any PollTask.live

/-- `sp->running` -/
def running (s : System μ) (tid : TaskId) : Bool := (s.poll tid).any PollTask.running

def setPoll (s : System μ) (tid : TaskId) (t : PollTask) : System μ :=
  { s with poll := Function.update s.poll tid (some t) }

/-- An event is sent to the task `tid`, which may be a poll task. -/
def tell (s : System μ) (tid : TaskId) (ev : EventSet) : System μ :=
  { s with poll := Function.update s.poll tid ((s.poll tid).map fun t => t.send ev) }

/-- What the handler's tasks and the rest of the system do by themselves. A
poll task is not deleted by others. -/
def allows (s : System μ) : HandlerAct (Source μ) → Bool
  | .outside (.delete tid) => !s.live tid
  | .outside _ | .task _ | .served .. | .sent .. | .wake _ => true
  | _ => false

/-- `rtems_event_receive` of a poll task returns. -/
def pollStep (s : System μ) (tid : TaskId) (f : PollTask → Option PollTask) :
    Option (System μ) :=
  match s.poll tid with
  | some t => (f t).map (s.setPoll tid)
  | none => none

variable [DecidableEq μ]

def setCall (s : System μ) (e : Source μ) (c : CallPc) : System μ :=
  { s with call := Function.update s.call e c }

/-- `hpsc_mbox_isr`, on a channel whose cause bit is set: the test of the
subscription, and `hpsc_mbox_chan_isr_a` or `hpsc_mbox_chan_isr_b`. -/
def isrStep (s : System μ) (m : μ) (i : Fin channels) (line : Line) : Option (System μ) :=
  if s.call (.chan m i) = .idle ∧ ((s.mbox m).chan i).active = true ∧
      hasEvent ((s.mbox m).block i).enable (line.bit (s.mbox m).mbox) = true then
    let info := line.chanInfo ((s.mbox m).chan i)
    match info.cb with
    | some cb => some (s.setCall (.chan m i) (.enter (cb = .linkRecvCmd) info.arg))
    | none => some s
  else none

/-- The next statement of a poll task: it may call its callback or exit. -/
def pollNext (s : System μ) (tid : TaskId) (status : BitVec 32) : Option (System μ) :=
  match s.poll tid with
  | some t =>
    match t.next status with
    | some t' =>
      match t'.pc with
      | .callback =>
        some ((s.setPoll tid t').setCall (.poll tid) (.enter (t.cb = .linkRecvCmd) t.cbArg))
      | .exited =>
        (handlerStep s.handler (.outside (.delete tid))).map fun h =>
          { s.setPoll tid t' with handler := h }
      | _ => some (s.setPoll tid t')
    | none => none
  | none => none

/-- `cmd_enqueue(&cmd)` in `link_recv_cmd`: the critical section. -/
def recvStep (s : System μ) (e : Source μ) (msg : Msg) : Option (System μ) :=
  match s.call e with
  | .recvCmd link =>
    (handlerStep s.handler (.push e ⟨msg, link⟩ none none)).map fun h =>
      ({ s with handler := h }).setCall e .enqueue
  | _ => none

def enqStep (s : System μ) (e : Source μ) : Option (System μ) :=
  match s.call e with
  | .enqueue => (handlerStep s.handler (.enq e)).map fun h => { s with handler := h }
  | _ => none

/-- The event goes to `cmd_handler.tid` as it was read, or, where that has
been cleared, to the executing task. -/
def notifyStep (s : System μ) (e : Source μ) (self : TaskId) : Option (System μ) :=
  match s.handler.enq e with
  | .send _ id =>
    if s.call e = .enqueue ∧ e.executesIn self = true then
      (handlerStep s.handler (.notify e self)).map fun h =>
        ({ s with handler := h }).tell (if h : id ≠ idNone then ⟨id, h⟩ else self) cmdEventNew
    else none
  | _ => none

/-- The callback of `e` is over. -/
def back (s : System μ) (e : Source μ) : Option (System μ) :=
  match e with
  | .chan _ _ => some (s.setCall e .idle)
  | .poll tid => (s.pollStep tid PollTask.ret).map fun s => s.setCall e .idle

/-- A callback returns; `link_recv_cmd` panics where `cmd_enqueue` failed. -/
def retStep (s : System μ) (e : Source μ) : Option (System μ) :=
  match s.call e, s.handler.enq e with
  | .other, _ => s.back e
  | .enqueue, .returned _ 0 => s.back e
  | _, _ => none

/-- `hpsc_mbox_chan_release`, which waits for the lock of the channel. -/
def releaseStep (s : System μ) (m : μ) (i : Fin channels) (takes : Bool) (pc : ShutdownPc μ) :
    Option (System μ) :=
  if s.call (.chan m i) = .idle then
    some { s with
      mbox := Function.update s.mbox m (hpscMboxChanRelease ⟨false, takes⟩ (s.mbox m) i).1
      pc := pc }
  else none

/-- `rtems_event_send(sp->tid, SHM_EVENT_EXIT)`: it succeeds on a live task.
An identifier whose task is gone may have been given to another task. -/
def exitStep (s : System μ) (tid : TaskId) (sc : StatusCode) (wait next : ShutdownPc μ) :
    Option (System μ) :=
  if sc = .successful then some { s.tell tid shmEventExit with pc := wait }
  else if s.live tid then none
  else some { s with pc := next }

/-- `while (sp->running)` -/
def waitStep (s : System μ) (tid : TaskId) (next : ShutdownPc μ) : Option (System μ) :=
  if s.running tid then some s else some { s with pc := next }

/-- `link_mbox_close` or `link_shmem_close` -/
def closeStep (s : System μ) (l : Link μ) (pc : ClosePc) (takes : Bool) (sc : StatusCode) :
    Option (System μ) :=
  match l.priv, pc with
  | .mbox m chanFrom _, .releaseFrom => s.releaseStep m chanFrom takes (.close l .releaseTo)
  | .mbox m _ chanTo, .releaseTo => s.releaseStep m chanTo takes (.close l .free)
  | .shmem _ spAck, .ackSend => s.exitStep spAck sc (.close l .ackWait) (.close l .recvSend)
  | .shmem _ spAck, .ackWait => s.waitStep spAck (.close l .recvSend)
  | .shmem spRecv _, .recvSend => s.exitStep spRecv sc (.close l .recvWait) (.close l .free)
  | .shmem spRecv _, .recvWait => s.waitStep spRecv (.close l .free)
  | _, .free => some { s with closed := s.closed ++ [l], pc := .extract }
  | _, _ => none

/-- `shutdown` -/
def shutdownStep (s : System μ) (self : TaskId) (takes : Bool) (sc : StatusCode) :
    Option (System μ) :=
  match s.pc with
  | .start =>
    (handlerStep s.handler (.call .destroy)).map fun h => { s with handler := h, pc := .destroy }
  | .destroy =>
    match s.handler.ctl with
    | .returned .destroy _ => some { s with pc := .extract }
    | .destroySend _ =>
      (handlerStep s.handler (.exitSend self)).map fun h => { s with handler := h }
    | _ => (handlerStep s.handler .ctl).map fun h => { s with handler := h }
  | .extract =>
    match s.store with
    | l :: store => some { s with store := store, pc := .close l l.priv.close }
    | [] => some { s with pc := .dropAll }
  | .close l pc => s.closeStep l pc takes sc
  | .dropAll =>
    (handlerStep s.handler .dropAll).map fun h => { s with handler := h, pc := .dropped }
  | .dropped => none

end System

/-- One step of the system. -/
def step {μ : Type} [DecidableEq μ] (s : System μ) : Act μ → Option (System μ)
  | .handler a =>
    if s.allows a then (handlerStep s.handler a).map fun h => { s with handler := h } else none
  | .isr m i line => s.isrStep m i line
  | .poll tid status => s.pollNext tid status
  | .timeout tid => s.pollStep tid PollTask.timeout
  | .wake tid => s.pollStep tid PollTask.wake
  | .recv e msg => s.recvStep e msg
  | .enq e => s.enqStep e
  | .notify e self => s.notifyStep e self
  | .ret e => s.retStep e
  | .shutdown self takes sc => s.shutdownStep self takes sc

end HpscRtems.Shutdown
