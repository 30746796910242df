/-
HpscRtems.Command.Handler — the command handler of `command.c`: its task,
the task that starts and stops it, and the callers of `cmd_enqueue_cb`.

Every access to `cmd_handler`, every critical section of the queue and
every call into RTEMS is one step, so a list of actions is an interleaving
of the parties. A task handle may be started again and again and several
tasks may have been started as handlers; that at most one of them is in
its loop is proved, not built in.

What the C code calls is left open: the handler callback answers with any
size and bytes, and `link_request_send` returns any value. `log`, the
callback a handler task was started with and what an enqueue did to the
queue are not in the program. The `printk` calls and the counts of handled
commands are left out, but for `cmd->link->name` in the arguments of the one
before the reply: where the command has no link, nothing follows it.
-/
import HpscRtems.Command.Queue
import HpscRtems.Tasks

namespace HpscRtems.Command

open Rtems

/-! ## §1 State -/

/-- `CMD_EVENT_NEW` -/
def cmdEventNew : EventSet := 0x1#32

/-- `CMD_EVENT_EXIT` -/
def cmdEventExit : EventSet := 0x2#32

/-- `cmd_status` -/
inductive CmdStatus where
  | success
  | handlerFailed
  | replyFailed
  | unknown
  deriving DecidableEq

/-- `struct cmd_handler_ctx` -/
structure CmdHandlerCtx where
  tid : RtemsId
  cb : Ptr
  timeoutTicks : Nat
  running : Bool
  deriving DecidableEq

/-- `cmd_handler` as it is initialised, and as a failed start and a stop
leave it. -/
def CmdHandlerCtx.none : CmdHandlerCtx := ⟨idNone, Option.none, 0, false⟩

/-- The program points of `cmd_handle_task`, with `cmd_flush` and
`cmd_handle` in it. -/
inductive HandlePc where
  /-- `cmd_flush`: the next `cmd_dequeue`. -/
  | flush
  /-- `cmd_handle`: `assert(cmd_handler.cb)`. -/
  | handle (item : CmdqItem)
  /-- The call of `cmd_handler.cb`. -/
  | serve (item : CmdqItem)
  /-- `cmd->link->name`, and the call of `link_request_send`. -/
  | sendReply (item : CmdqItem) (reply : Msg)
  /-- Inside `link_request_send`. -/
  | inSend (item : CmdqItem)
  /-- `out`: the callback of the command. -/
  | out (item : CmdqItem) (status : CmdStatus)
  /-- The global callback. -/
  | outAll (item : CmdqItem) (status : CmdStatus)
  /-- `rtems_event_receive` -/
  | receive
  | check (events : EventSet)
  | clearRunning
  /-- `rtems_task_exit` -/
  | exit
  | assertFailed
  deriving DecidableEq

namespace HandlePc

/-- The command `cmd_handle` is active on. -/
def handling : HandlePc → Option CmdqItem
  | handle item | serve item | sendReply item _ | inSend item | out item _ | outAll item _ =>
    some item
  | _ => none

/-- The task has not left the loop of `cmd_handle_task`. -/
def inLoop : HandlePc → Bool
  | clearRunning | exit => false
  | _ => true

/-- The task has still to clear `running`. -/
def owns : HandlePc → Bool
  | exit => false
  | _ => true

end HandlePc

/-- A handler task, with the callback of the start call that started it. -/
structure HandlerTask where
  cb : Nat
  pc : HandlePc
  deriving DecidableEq

/-- The calls of the controlling task. -/
inductive CtlCall where
  | start (taskId : TaskId) (cb : Nat) (timeoutTicks : Nat)
  | destroy
  deriving DecidableEq

/-- What follows `cmd_handler_set`. -/
inductive AfterSet where
  | taskStart
  | ret (sc : StatusCode)
  deriving DecidableEq

/-- The program points of the controlling task. `cmd_handler_set` writes the
four fields of `v` one after the other. -/
inductive CtlPc where
  | idle
  | startTest (c : CtlCall)
  | setTid (c : CtlCall) (v : CmdHandlerCtx) (k : AfterSet)
  | setCb (c : CtlCall) (v : CmdHandlerCtx) (k : AfterSet)
  | setTicks (c : CtlCall) (v : CmdHandlerCtx) (k : AfterSet)
  | setRunning (c : CtlCall) (v : CmdHandlerCtx) (k : AfterSet)
  /-- `rtems_task_start` -/
  | taskStart (c : CtlCall)
  | destroyTest (c : CtlCall)
  | destroySend (c : CtlCall)
  | destroyWait (c : CtlCall)
  /-- A start that found a handler running has returned `RTEMS_UNSATISFIED`. -/
  | refused (c : CtlCall)
  | returned (c : CtlCall) (sc : StatusCode)
  deriving DecidableEq

/-- What the critical section of an enqueue did: the queue before and after
it, and the command. -/
structure Pushed where
  before : Cmdq
  after : Cmdq
  item : CmdqItem

/-- Where a caller of `cmd_enqueue_cb` stands. -/
inductive EnqPc where
  | idle
  /-- The test of `cmd_handler.tid`. -/
  | test (p : Pushed)
  /-- `cmd_handler.tid` is read again, for the call. -/
  | load (p : Pushed)
  /-- `rtems_event_send(id, CMD_EVENT_NEW)` -/
  | send (p : Pushed) (id : RtemsId)
  | returned (p : Pushed) (rc : Nat)

/-- Between the release of the queue lock and the send of the event. -/
def EnqPc.between : EnqPc → Bool
  | .test _ | .load _ | .send _ _ => true
  | _ => false

/-- The calls `cmd_handle` makes. -/
inductive Callout where
  | serve (cb : Nat) (cmd : Cmd)
  | send (link : Ptr) (reply : Msg) (ticks : Nat)
  | handled (cb : Nat) (arg : Ptr) (status : CmdStatus)
  deriving DecidableEq

/-- The state of `command.c`, of the tasks and of the enqueuers `ι`. -/
structure HandlerState (ι : Type) where
  cmdq : Cmdq
  ctx : CmdHandlerCtx
  handled : CmdHandledCtx
  tasks : TaskTable HandlerTask
  ctl : CtlPc
  enq : ι → EnqPc
  log : List Callout

/-- The state before `main`: the queue is empty and there is no handler. -/
def HandlerState.init (ι : Type) (handled : CmdHandledCtx) : HandlerState ι :=
  ⟨.init, .none, handled, .empty, .idle, fun _ => .idle, []⟩

/-! ## §2 Steps -/

inductive HandlerAct (ι : Type) where
  /-- The rest of the system. -/
  | outside (a : OutsideAct)
  /-- The controlling task calls. -/
  | call (c : CtlCall)
  /-- The controlling task executes its next statement. -/
  | ctl
  /-- `rtems_task_start` returns `sc`. -/
  | taskStart (sc : StatusCode)
  /-- `rtems_event_send` of the controlling task, which is `self`. -/
  | exitSend (self : TaskId)
  /-- A handler task executes its next statement. -/
  | task (id : TaskId)
  /-- The handler callback returns. -/
  | served (id : TaskId) (replySz : Int) (reply : Msg)
  /-- `link_request_send` returns. -/
  | sent (id : TaskId) (rc : Nat)
  /-- `rtems_event_receive` returns with pending events. -/
  | wake (id : TaskId)
  /-- The critical section of `cmd_enqueue_cb`. -/
  | push (e : ι) (cmd : Cmd) (cb cbArg : Ptr)
  /-- The enqueuer executes its next statement. -/
  | enq (e : ι)
  /-- `rtems_event_send` of the enqueuer, called (or interrupting) `self`. -/
  | notify (e : ι) (self : TaskId)
  | dropAll

namespace HandlerState

variable {ι : Type}

/-- The task object of an identifier. -/
def task (s : HandlerState ι) (id : RtemsId) : TaskObj HandlerTask := s.tasks.task id

/-- Handler task `id` goes on at `pc`. -/
def goto (s : HandlerState ι) (id : TaskId) (t : HandlerTask) (pc : HandlePc) : HandlerState ι :=
  { s with tasks := s.tasks.set id (.running { t with pc := pc }) }

/-- `cmd_handle` makes a call. -/
def note (s : HandlerState ι) (c : Callout) : HandlerState ι := { s with log := s.log ++ [c] }

/-- The statements of `cmd_handle_task_start` and `cmd_handle_task_destroy`
between the calls into RTEMS. -/
def ctlStep (s : HandlerState ι) : Option (HandlerState ι) :=
  match s.ctl with
  | .startTest (.start id cb ticks) =>
    if s.ctx.running then some { s with ctl := .refused (.start id cb ticks) }
    else some { s with ctl := .setTid (.start id cb ticks) ⟨id, some cb, ticks, true⟩ .taskStart }
  | .setTid c v k => some { s with ctx.tid := v.tid, ctl := .setCb c v k }
  | .setCb c v k => some { s with ctx.cb := v.cb, ctl := .setTicks c v k }
  | .setTicks c v k => some { s with ctx.timeoutTicks := v.timeoutTicks, ctl := .setRunning c v k }
  | .setRunning c v k =>
    some { s with
      ctx.running := v.running
      ctl := match k with
        | .taskStart => .taskStart c
        | .ret sc => .returned c sc }
  | .destroyTest c =>
    if s.ctx.running then some { s with ctl := .destroySend c }
    else some { s with ctl := .returned c .notDefined }
  | .destroyWait c =>
    if s.ctx.running then some s
    else some { s with ctl := .setTid c .none (.ret .successful) }
  | _ => none

/-- `rtems_task_start(cmd_handler.tid, cmd_handle_task, 1)`. It succeeds on
a dormant task only. -/
def taskStartStep (s : HandlerState ι) (sc : StatusCode) : Option (HandlerState ι) :=
  match s.ctl with
  | .taskStart (.start id cb ticks) =>
    if sc = .successful then
      match s.task s.ctx.tid with
      | .dormant =>
        some { s with
          tasks := s.tasks.set s.ctx.tid (.running ⟨cb, .flush⟩)
          ctl := .returned (.start id cb ticks) .successful }
      | _ => Option.none
    else some { s with ctl := .setTid (.start id cb ticks) .none (.ret sc) }
  | _ => none

/-- `rtems_event_send(cmd_handler.tid, CMD_EVENT_EXIT)` -/
def exitSendStep (s : HandlerState ι) (self : TaskId) : Option (HandlerState ι) :=
  match s.ctl with
  | .destroySend c =>
    let r := s.tasks.send self s.ctx.tid cmdEventExit
    some { s with
      tasks := r.1
      ctl := if r.2 = .successful then .destroyWait c else .returned c r.2 }
  | _ => none

/-- The statements of `cmd_handle_task` between the calls it waits in. -/
def taskStep (s : HandlerState ι) (id : TaskId) (t : HandlerTask) : Option (HandlerState ι) :=
  match t.pc with
  | .flush =>
    match cmdDequeue s.cmdq with
    | (cmdq, some (cmd, cb, cbArg)) =>
      some (({ s with cmdq := cmdq }).goto id t (.handle ⟨cmd, ⟨cb, cbArg⟩⟩))
    | (cmdq, .none) => some (({ s with cmdq := cmdq }).goto id t .receive)
  | .handle item =>
    if s.ctx.cb.isSome then some (s.goto id t (.serve item)) else some (s.goto id t .assertFailed)
  | .sendReply item reply =>
    -- `cmd->link->name` comes first
    if item.cmd.link.isSome then
      some ((s.note (.send item.cmd.link reply s.ctx.timeoutTicks)).goto id t (.inSend item))
    else none
  | .out item status =>
    match item.handled.cb with
    | some cb =>
      some ((s.note (.handled cb item.handled.cbArg status)).goto id t (.outAll item status))
    | .none => some (s.goto id t (.outAll item status))
  | .outAll _ status =>
    match s.handled.cb with
    | some cb =>
      some ((s.note (.handled cb s.handled.cbArg status)).goto id t .flush)
    | .none => some (s.goto id t .flush)
  | .check events =>
    if hasEvent events cmdEventExit then some (s.goto id t .clearRunning)
    else some (s.goto id t .flush)
  | .clearRunning => some (({ s with ctx.running := false }).goto id t .exit)
  | .exit => some { s with tasks := s.tasks.set id .absent }
  | _ => none

/-- `reply_sz = cmd_handler.cb(cmd, reply, sizeof(reply))`, and the two tests
of `reply_sz`. -/
def servedStep (s : HandlerState ι) (id : TaskId) (t : HandlerTask) (replySz : Int) (reply : Msg) :
    Option (HandlerState ι) :=
  match t.pc, s.ctx.cb with
  | .serve item, some cb =>
    some ((s.note (.serve cb item.cmd)).goto id t
      (if replySz < 0 then .out item .handlerFailed
        else if replySz = 0 then .out item .success
        else .sendReply item reply))
  | _, _ => none

/-- `link_request_send` returns `rc`. -/
def sentStep (s : HandlerState ι) (id : TaskId) (t : HandlerTask) (rc : Nat) :
    Option (HandlerState ι) :=
  match t.pc with
  | .inSend item => some (s.goto id t (.out item (if rc = 0 then .replyFailed else .success)))
  | _ => none

/-- `rtems_event_receive(CMD_EVENT_NEW | CMD_EVENT_EXIT, RTEMS_EVENT_ANY,
RTEMS_NO_TIMEOUT, &events)` returns. -/
def wakeStep (s : HandlerState ι) (id : TaskId) (t : HandlerTask) : Option (HandlerState ι) :=
  match t.pc with
  | .receive =>
    if hasEvent (s.tasks.pending id) (cmdEventNew ||| cmdEventExit) then
      some (({ s with tasks := s.tasks.received id (cmdEventNew ||| cmdEventExit) }).goto id t
        (.check (s.tasks.pending id &&& (cmdEventNew ||| cmdEventExit))))
    else none
  | _ => none

/-- A step of the handler task `id`. -/
def ofTask (s : HandlerState ι) (id : TaskId)
    (f : HandlerTask → Option (HandlerState ι)) : Option (HandlerState ι) :=
  match s.task id with
  | .running t => f t
  | _ => none

variable [DecidableEq ι]

/-- Enqueuer `e` goes on at `pc`. -/
def enqGoto (s : HandlerState ι) (e : ι) (pc : EnqPc) : HandlerState ι :=
  { s with enq := Function.update s.enq e pc }

/-- `cmd_enqueue_cb`: the critical section. -/
def pushStep (s : HandlerState ι) (e : ι) (cmd : Cmd) (cb cbArg : Ptr) : Option (HandlerState ι) :=
  if (s.enq e).between then none
  else
    let r := cmdEnqueueCbUnsafe s.cmdq cmd cb cbArg
    let p : Pushed := ⟨s.cmdq, r.1, ⟨cmd, ⟨cb, cbArg⟩⟩⟩
    some (({ s with cmdq := r.1 }).enqGoto e (if r.2 = 0 then .test p else .returned p r.2))

/-- `cmd_enqueue_cb`: the two reads of `cmd_handler.tid`. -/
def enqStep (s : HandlerState ι) (e : ι) : Option (HandlerState ι) :=
  match s.enq e with
  | .test p => some (s.enqGoto e (if s.ctx.tid ≠ idNone then .load p else .returned p 0))
  | .load p => some (s.enqGoto e (.send p s.ctx.tid))
  | _ => none

/-- `rc = rtems_event_send(cmd_handler.tid, CMD_EVENT_NEW) != RTEMS_SUCCESSFUL` -/
def notifyStep (s : HandlerState ι) (e : ι) (self : TaskId) : Option (HandlerState ι) :=
  match s.enq e with
  | .send p id =>
    let r := s.tasks.send self id cmdEventNew
    some (({ s with tasks := r.1 }).enqGoto e
      (.returned p (if r.2 ≠ StatusCode.successful then 1 else 0)))
  | _ => none

end HandlerState

/-- One step of the system. -/
def handlerStep {ι : Type} [DecidableEq ι] (s : HandlerState ι) :
    HandlerAct ι → Option (HandlerState ι)
  | .outside a =>
    (s.tasks.outsideStep (cmdEventNew ||| cmdEventExit) a).map fun t => { s with tasks := t }
  | .call c =>
    match s.ctl with
    | .idle | .refused _ | .returned _ _ =>
      some { s with
        ctl := match c with
          | .start .. => .startTest c
          | .destroy => .destroyTest c }
    | _ => none
  | .ctl => s.ctlStep
  | .taskStart sc => s.taskStartStep sc
  | .exitSend self => s.exitSendStep self
  | .task id => s.ofTask id (s.taskStep id)
  | .served id replySz reply => s.ofTask id fun t => s.servedStep id t replySz reply
  | .sent id rc => s.ofTask id fun t => s.sentStep id t rc
  | .wake id => s.ofTask id (s.wakeStep id)
  | .push e cmd cb cbArg => s.pushStep e cmd cb cbArg
  | .enq e => s.enqStep e
  | .notify e self => s.notifyStep e self
  | .dropAll => some { s with cmdq := (cmdDropAll s.cmdq).1 }

end HpscRtems.Command
