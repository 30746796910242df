/-
HpscRtems.Shmem.Link — the life of a shared-memory link:
`link_shmem_connect` with its undo path and `link_shmem_close`
(`link-shmem.c`, `shmem-poll.c`), and the two poll tasks meanwhile, with the
callbacks of `link.c` they call.

The parties are the task that connects and closes, the two poll tasks, the
remote side, which may change the regions at any time, the tasks that make
requests on the open link, and the task that starts and stops the command
handler. Each access of the first three to one of the six heap objects is
recorded when the object is not there: `faults` has every use of, and every
free of, what is not allocated. A poll task reads `sp->poll_ticks` before
it waits; here it does so when the wait ends, which is later.

A failed assertion is `none`. The panics of the callbacks, on a full command
queue or a failed event send, are left out: the runs here go on where the
program stops. `faults`, `writes` and `commands` are not in the program: the
last two are what the link's callbacks have written to the status words and
put into the command queue.
-/
import HpscRtems.Command.Handler
import HpscRtems.Link.Request
import HpscRtems.Shmem.Poll
import HpscRtems.Shmem.Region

namespace HpscRtems.Shmem

open Machine Rtems Command Link

/-! ## §1 Objects and program points -/

/-- The heap objects of a link. -/
inductive Obj where
  /-- `struct link` -/
  | link
  /-- `struct link_shmem` -/
  | slink
  | shmemOut
  | shmemIn
  | spRecv
  | spAck
  deriving DecidableEq

inductive Cell where
  | absent
  | live
  | freed
  deriving DecidableEq

/-- The two poll tasks. -/
inductive Side where
  | recv
  | ack
  deriving DecidableEq

namespace Side

/-- The `struct shmem_poll` of the task. -/
def sp : Side → Obj
  | recv => .spRecv
  | ack => .spAck

/-- `sp->shm` -/
def shm : Side → Obj
  | recv => .shmemIn
  | ack => .shmemOut

/-- `sp->status_mask` -/
def mask : Side → BitVec 32
  | recv => statusBitNew
  | ack => statusBitAck

end Side

/-- Where a poll task is in its callback. -/
inductive CbPc where
  /-- `shmem_read` -/
  | read
  /-- `shmem_set_new(slink->shmem_in, false)` -/
  | setNew
  /-- `shmem_set_ack(slink->shmem_in, true)` -/
  | setAck
  /-- The critical section of `cmd_enqueue`. -/
  | enqueue
  /-- `link->rctx.tx_acked = true` -/
  | linkAck
  /-- Is there a task to send an event to? -/
  | test
  /-- `rtems_event_send`, with the identifier read again. -/
  | send
  /-- `shmem_set_ack(slink->shmem_out, false)` -/
  | clearAck
  | done
  deriving DecidableEq

/-- Where a callback begins. -/
def PollCb.first : PollCb → CbPc
  | linkShmemAck => .linkAck
  | _ => .read

/-- Where a callback goes on once the event is sent. -/
def PollCb.after : PollCb → CbPc
  | linkShmemAck => .clearAck
  | _ => .done

/-- The program points of `link_shmem_connect` and `link_shmem_close`. -/
inductive CtlPc where
  | mallocLink
  | mallocSlink
  | openOut
  | openIn
  /-- `shmem_poll_task_start(&slink->sp_recv, ..)` -/
  | mallocRecv
  | startRecv
  /-- `shmem_poll_task_start(&slink->sp_ack, ..)` -/
  | mallocAck
  | startAck
  /-- `stop_recv_task` -/
  | undoSend
  | undoWait
  | undoFree
  /-- `free_all` -/
  | undoIn
  /-- `free_out` -/
  | undoOut
  /-- `free_links` -/
  | undoSlink
  /-- `free_link` -/
  | undoLink
  /-- `link_shmem_connect` has returned `NULL`. -/
  | failed
  /-- `link_shmem_connect` has returned the link. -/
  | opened
  /-- `shmem_poll_task_destroy(slink->sp_ack)` -/
  | ackSend
  | ackWait
  | ackFree
  /-- `shmem_poll_task_destroy(slink->sp_recv)` -/
  | recvSend
  | recvWait
  | recvFree
  | closeOut
  | closeIn
  | freeSlink
  | freeLink
  /-- `link_shmem_close` has returned. -/
  | closed
  deriving DecidableEq

/-! ## §2 State -/

/-- The arguments of `link_shmem_connect`, and the address of its link. -/
structure LinkCfg where
  addr : Nat
  isServer : Bool
  /-- `tid_recv` and `tid_ack` -/
  tid : Side → TaskId

/-- `sp->cb` -/
def LinkCfg.cb (cfg : LinkCfg) : Side → PollCb
  | .recv => if cfg.isServer then .linkRecvCmd else .linkRecvReply
  | .ack => .linkShmemAck

/-- What a callback writes to the status word of a region. -/
inductive StatusWrite where
  | newCleared
  | ackSet
  | ackCleared
  deriving DecidableEq

structure LinkSys where
  heap : Obj → Cell
  ctl : CtlPc
  /-- The value `link_shmem_close` returns. -/
  rc : Int
  poll : Side → Option PollTask
  call : Side → CbPc
  /-- `cmd.msg` of `link_recv_cmd` -/
  msg : Msg
  /-- `link->rctx` -/
  rctx : LinkRequestCtx
  /-- `cmd_handler.tid` -/
  handlerTid : RtemsId
  inn : HpscShmemRegion
  out : HpscShmemRegion
  faults : List Obj
  writes : List StatusWrite
  commands : List Cmd

namespace LinkSys

/-- Before `link_shmem_connect`. -/
def start (inn out : HpscShmemRegion) (rctx : LinkRequestCtx) (handlerTid : RtemsId) : LinkSys where
  heap _ := .absent
  ctl := .mallocLink
  rc := 0
  poll _ := none
  call _ := .done
  msg := Msg.zero
  rctx := rctx
  handlerTid := handlerTid
  inn := inn
  out := out
  faults := []
  writes := []
  commands := []

/-- Access the objects. -/
def touch (s : LinkSys) (os : List Obj) : LinkSys :=
  { s with faults := s.faults ++ os.filter fun o => s.heap o ≠ .live }

def alloc (s : LinkSys) (o : Obj) (pc : CtlPc) : LinkSys :=
  { s with heap := Function.update s.heap o .live, ctl := pc }

def free (s : LinkSys) (o : Obj) (pc : CtlPc) : LinkSys :=
  { s.touch [o] with heap := Function.update s.heap o .freed, ctl := pc }

def setPoll (s : LinkSys) (x : Side) (t : PollTask) : LinkSys :=
  { s with poll := Function.update s.poll x (some t) }

@[simp] theorem setPoll_poll_self (s : LinkSys) (x : Side) (t : PollTask) :
    (s.setPoll x t).poll x = some t := by simp [setPoll]

theorem setPoll_poll_of_ne (s : LinkSys) {x y : Side} (h : y ≠ x) (t : PollTask) :
    (s.setPoll x t).poll y = s.poll y := by simp [setPoll, h]

def setCall (s : LinkSys) (x : Side) (c : CbPc) : LinkSys :=
  { s with call := Function.update s.call x c }

/-- The status word poll task `x` tests. -/
def status (s : LinkSys) : Side → BitVec 32
  | .recv => shmemGetStatus s.inn
  | .ack => shmemGetStatus s.out

/-- An event is sent to the task `id`, which may be one of the poll tasks. -/
def tell (s : LinkSys) (cfg : LinkCfg) (id : RtemsId) (ev : EventSet) : LinkSys :=
  { s with
    poll := fun x => if cfg.tid x = id then (s.poll x).map fun t => t.send ev else s.poll x }

/-! ## §3 The poll tasks -/

/-- `rtems_event_receive` of poll task `x` returns. -/
def receiveStep (s : LinkSys) (x : Side) (f : PollTask → Option PollTask) : Option LinkSys :=
  match s.poll x with
  | some t => (f t).map fun t' => (s.touch [x.sp]).setPoll x t'
  | none => none

/-- What the next statement of a poll task accesses. -/
def pollAccess (x : Side) : PollPc → List Obj
  | .testStatus => [x.sp, x.shm]
  | .clearRunning => [x.sp]
  | _ => []

/-- The next statement of poll task `x`, outside its callback. -/
def nextStep (s : LinkSys) (x : Side) : Option LinkSys :=
  match s.poll x with
  | some t =>
    (t.next (s.status x)).map fun t' =>
      -- a callback that is called begins at its first point
      ((s.touch (pollAccess x t.pc)).setPoll x t').setCall x t.cb.first
  | none => none

/-- The task the callback sends its event to, and the event. -/
def notice (s : LinkSys) : PollCb → RtemsId × EventSet
  | .linkRecvCmd => (s.handlerTid, cmdEventNew)
  | _ => (s.rctx.tidRequester, s.rctx.eventWait)

/-- What the callback accesses to get at them. -/
def noticeAccess : PollCb → List Obj
  | .linkRecvCmd => []
  | _ => [.link]

/-- The task an event of a callback of `x` goes to: `RTEMS_ID_NONE` is
`RTEMS_SELF`. -/
def receiver (s : LinkSys) (cfg : LinkCfg) (x : Side) (cb : PollCb) : RtemsId :=
  if (s.notice cb).1 = idNone then cfg.tid x else (s.notice cb).1

/-- The next statement of the callback `t.cb`. -/
def callStep (s : LinkSys) (cfg : LinkCfg) (x : Side) (t : PollTask) : Option LinkSys :=
  match s.call x with
  | .read =>
    let s := s.touch [.link, .slink, .shmemIn]
    match t.cb with
    | .linkRecvCmd => some { s.setCall x .setNew with msg := readMsg s.inn }
    | .linkRecvReply =>
      if s.rctx.reply.isSome = true ∧ hpscMsgSize ≤ s.rctx.replySz then some (s.setCall x .setNew)
      else none
    | .linkShmemAck => none
  | .setNew =>
    let s := s.touch [.slink, .shmemIn]
    some { s.setCall x .setAck with
      inn := shmemSetNew s.inn false
      writes := s.writes ++ [.newCleared] }
  | .setAck =>
    let s := s.touch [.slink, .shmemIn]
    some { s.setCall x (if t.cb = .linkRecvCmd then .enqueue else .test) with
      inn := shmemSetAck s.inn true
      writes := s.writes ++ [.ackSet] }
  | .enqueue =>
    some { s.setCall x .test with commands := s.commands ++ [⟨s.msg, some cfg.addr⟩] }
  | .linkAck =>
    let s := s.touch [.link]
    some { s.setCall x .test with rctx := { s.rctx with txAcked := true } }
  | .test =>
    let s := s.touch (noticeAccess t.cb)
    let s := if t.cb = .linkRecvReply then
        { s with rctx := { s.rctx with replySzRead := hpscMsgSize } } else s
    some (s.setCall x (if (s.notice t.cb).1 ≠ idNone then .send else t.cb.after))
  | .send =>
    let s := s.touch (noticeAccess t.cb)
    some ((s.tell cfg (s.receiver cfg x t.cb) (s.notice t.cb).2).setCall x t.cb.after)
  | .clearAck =>
    let s := s.touch [.slink, .shmemOut]
    some { s.setCall x .done with
      out := shmemSetAck s.out false
      writes := s.writes ++ [.ackCleared] }
  | .done => t.ret.map fun t' => s.setPoll x t'

/-! ## §4 Connecting and closing -/

/-- `rtems_event_send(sp->tid, SHM_EVENT_EXIT)`: it succeeds on a live task.
An identifier whose task is gone may have been given to another task. -/
def exitSend (s : LinkSys) (x : Side) (ok : Bool) (wait : CtlPc) (next : LinkSys) :
    Option LinkSys :=
  let t := (s.poll x).map fun t => t.send shmEventExit
  if ok then some { s.touch [.slink, x.sp] with poll := Function.update s.poll x t, ctl := wait }
  else if (s.poll x).any PollTask.live then none
  else some (next.touch [.slink, x.sp])

/-- `while (sp->running)` -/
def exitWait (s : LinkSys) (x : Side) (next : CtlPc) : Option LinkSys :=
  let s := s.touch [x.sp]
  if (s.poll x).any PollTask.running then some s else some { s with ctl := next }

/-- `rtems_task_start` of poll task `x`. -/
def startTask (s : LinkSys) (cfg : LinkCfg) (x : Side) (pc : CtlPc) : LinkSys :=
  { s.setPoll x (.start (cfg.cb x) (some cfg.addr) x.mask) with ctl := pc }

/-- The next statement of `link_shmem_connect` or `link_shmem_close`; `ok`
says whether its call succeeds. -/
def ctlStep (s : LinkSys) (cfg : LinkCfg) (ok : Bool) : Option LinkSys :=
  match s.ctl with
  | .mallocLink => some (if ok then s.alloc .link .mallocSlink else { s with ctl := .failed })
  | .mallocSlink =>
    some (if ok then
      { (s.touch [.link]).alloc .slink .openOut with
        rctx := { s.rctx with tidRequester := idNone, txAcked := false, reply := none } }
    else { s with ctl := .undoLink })
  | .openOut =>
    let s := s.touch [.slink]
    some (if ok then s.alloc .shmemOut .openIn else { s with ctl := .undoSlink })
  | .openIn =>
    let s := s.touch [.slink]
    some (if ok then s.alloc .shmemIn .mallocRecv else { s with ctl := .undoOut })
  | .mallocRecv =>
    let s := s.touch [.slink]
    some (if ok then s.alloc .spRecv .startRecv else { s with ctl := .undoIn })
  | .startRecv =>
    some (if ok then (s.touch [.spRecv]).startTask cfg .recv .mallocAck
      else (s.touch [.slink]).free .spRecv .undoIn)
  | .mallocAck =>
    let s := s.touch [.slink]
    some (if ok then s.alloc .spAck .startAck else { s with ctl := .undoSend })
  | .startAck =>
    some (if ok then (s.touch [.spAck]).startTask cfg .ack .opened
      else (s.touch [.slink]).free .spAck .undoSend)
  | .undoSend => s.exitSend .recv ok .undoWait { s with ctl := .undoIn }
  | .undoWait => s.exitWait .recv .undoFree
  | .undoFree => some (s.free .spRecv .undoIn)
  | .undoIn => some ((s.touch [.slink]).free .shmemIn .undoOut)
  | .undoOut => some ((s.touch [.slink]).free .shmemOut .undoSlink)
  | .undoSlink => some (s.free .slink .undoLink)
  | .undoLink => some (s.free .link .failed)
  | .ackSend => s.exitSend .ack ok .ackWait { s with ctl := .recvSend, rc := -1 }
  | .ackWait => s.exitWait .ack .ackFree
  | .ackFree => some (s.free .spAck .recvSend)
  | .recvSend => s.exitSend .recv ok .recvWait { s with ctl := .closeOut, rc := -1 }
  | .recvWait => s.exitWait .recv .recvFree
  | .recvFree => some (s.free .spRecv .closeOut)
  | .closeOut => some ((s.touch [.slink]).free .shmemOut .closeIn)
  | .closeIn => some ((s.touch [.slink]).free .shmemIn .freeSlink)
  | .freeSlink => some (s.free .slink .freeLink)
  | .freeLink => some (s.free .link .closed)
  | .failed | .opened | .closed => none

end LinkSys

/-- Others than the connecting task may know of the link. -/
def CtlPc.shared : CtlPc → Bool
  | .opened | .ackSend | .ackWait | .ackFree | .recvSend | .recvWait | .recvFree | .closeOut
  | .closeIn | .freeSlink | .freeLink | .closed => true
  | _ => false

inductive LinkAct where
  | ctl (ok : Bool)
  /-- `link_shmem_close` is called. -/
  | close
  | timeout (x : Side)
  | wake (x : Side)
  | next (x : Side)
  | call (x : Side)
  /-- The remote side writes to the regions. -/
  | remote (inn out : HpscShmemRegion)
  /-- A request changes `link->rctx`. -/
  | request (rctx : LinkRequestCtx)
  /-- The command handler is started or stopped. -/
  | handler (tid : RtemsId)

/-- One step. -/
def linkStep (cfg : LinkCfg) (s : LinkSys) : LinkAct → Option LinkSys
  | .ctl ok => s.ctlStep cfg ok
  | .close => if s.ctl = .opened then some { s.touch [.link] with ctl := .ackSend } else none
  | .timeout x => s.receiveStep x PollTask.timeout
  | .wake x => s.receiveStep x PollTask.wake
  | .next x => s.nextStep x
  | .call x =>
    match s.poll x with
    | some t => if t.pc = .callback then s.callStep cfg x t else none
    | none => none
  | .remote inn out => some { s with inn := inn, out := out }
  | .request rctx => if s.ctl.shared then some { s with rctx := rctx } else none
  | .handler tid => some { s with handlerTid := tid }

end HpscRtems.Shmem
