/-
HpscRtems.Command.Flush — one call of `cmd_flush`, with the calls
`cmd_handle` makes and what it has of them (`command.c`).

The handler callback may return any size and store any bytes into the reply
buffer, and `link_request_send` may return any value. Between any two
statements commands may be enqueued, by ISRs, by other tasks or by the
callbacks, and the queue may be dropped. The callback of the handler and
the global callback stay what they are: `command.h` asks of its users to
register the latter only while there is nothing to handle.

`calls` is the list of the calls made, with what they were given and what
they returned, `accepted` lists the commands the queue took, and every
command carries its number in that list. None of it is in the program.
-/
import HpscRtems.Command.Handler
import HpscRtems.Command.QueueTheorems

namespace HpscRtems.Command

open Rtems Machine

/-! ## §1 Calls -/

/-- What a handler callback stores into the reply buffer, by offset. -/
abbrev Stores := Fin hpscMsgSize → Option Byte

/-- The buffer after the stores. -/
def storeReply (reply : Msg) (w : Stores) : Msg := Vector.ofFn fun i => (w i).getD reply[i]

/-- The calls of `cmd_handle`, with arguments and results. -/
inductive FlushCall where
  /-- `cmd_handler.cb(cmd, reply, sizeof(reply))` -/
  | handler (cb : Nat) (cmd : Cmd) (stores : Stores) (replySz : Int)
  /-- `link_request_send(cmd->link, reply, sizeof(reply), ticks, CMD_EVENT_LINK)` -/
  | requestSend (link : Ptr) (reply : Msg) (ticks : Nat) (rc : Nat)
  /-- A `cmd_handled_t`. -/
  | handled (cb : Nat) (arg : Ptr) (status : CmdStatus)

/-- What `cmd_handle` finds in `cmd_handler` and `cmd_handled`. -/
structure FlushEnv where
  cb : Nat
  timeoutTicks : Nat
  handled : CmdHandledCtx

/-! ## §2 State -/

/-- A command of the queue, and the number of its enqueue. -/
structure Taken where
  no : Nat
  item : CmdqItem

/-- The program points of `cmd_flush`, with `cmd_handle` in it. -/
inductive FlushPc where
  /-- The test of the loop: `cmd_dequeue`. -/
  | dequeue
  /-- `cmd_handle`: `HPSC_MSG_DEFINE(reply)` and the status. -/
  | define (t : Taken)
  /-- The call of `cmd_handler.cb`. -/
  | serve (t : Taken)
  /-- `cmd->link->name`, and the call of `link_request_send`. -/
  | sendReply (t : Taken)
  /-- `out`: the callback of the command. -/
  | out (t : Taken)
  /-- The global callback. -/
  | outAll (t : Taken)
  /-- `i++` -/
  | count
  | returned

/-- The queue, and the local variables of `cmd_flush` and `cmd_handle`. -/
structure FlushState where
  cmdq : Cmdq
  pc : FlushPc
  reply : Msg
  status : CmdStatus
  i : Nat
  calls : List FlushCall
  /-- The number of the enqueue that wrote each slot last. -/
  stamp : Fin cmdqLen → Nat
  accepted : List CmdqItem
  taken : List Taken
  dropped : List Taken

namespace FlushState

/-- A call of `cmd_flush` on the queue `q`, on a stack with any contents. The
pending commands are numbered from 0 on. -/
def start (q : Cmdq) (reply : Msg) (status : CmdStatus) : FlushState where
  cmdq := q
  pc := .dequeue
  reply := reply
  status := status
  i := 0
  calls := []
  stamp i := (i.val + 3 - q.tail.val) % cmdqLen
  accepted := q.pending
  taken := []
  dropped := []

/-- The queue with the numbers of its commands. -/
def ring (s : FlushState) : Ring Taken cmdqLen :=
  ⟨fun i => ⟨s.stamp i, s.cmdq.q i⟩, s.cmdq.head, s.cmdq.tail⟩

/-- The pending commands, oldest first. -/
def waiting (s : FlushState) : List Taken := s.ring.contents

/-- Make a call. -/
def call (s : FlushState) (c : FlushCall) : FlushState := { s with calls := s.calls ++ [c] }

/-- Call a `cmd_handled_t`, if there is one. -/
def callHandled (s : FlushState) (h : CmdHandledCtx) : FlushState :=
  match h.cb with
  | some cb => s.call (.handled cb h.cbArg s.status)
  | none => s

/-- The statements that need no answer from outside. -/
def taskStep (env : FlushEnv) (s : FlushState) : Option FlushState :=
  match s.pc with
  | .dequeue =>
    match cmdDequeue s.cmdq with
    | (q, some (cmd, cb, cbArg)) =>
      let t : Taken := ⟨s.stamp q.tail, ⟨cmd, ⟨cb, cbArg⟩⟩⟩
      some { s with cmdq := q, pc := .define t, taken := s.taken ++ [t] }
    | (q, none) => some { s with cmdq := q, pc := .returned }
  | .define t => some { s with reply := Msg.zero, status := .success, pc := .serve t }
  | .out t => some { s.callHandled t.item.handled with pc := .outAll t }
  | .outAll _ => some { s.callHandled env.handled with pc := .count }
  | .count => some { s with i := s.i + 1, pc := .dequeue }
  | _ => none

/-- `reply_sz = cmd_handler.cb(cmd, reply, sizeof(reply))` and the two tests
of `reply_sz`. -/
def servedStep (env : FlushEnv) (s : FlushState) (replySz : Int) (w : Stores) :
    Option FlushState :=
  match s.pc with
  | .serve t =>
    let s := { s.call (.handler env.cb t.item.cmd w replySz) with reply := storeReply s.reply w }
    some (if replySz < 0 then { s with status := .handlerFailed, pc := .out t }
      else if replySz = 0 then { s with pc := .out t }
      else { s with pc := .sendReply t })
  | _ => none

/-- `rc = link_request_send(...)` and the test of `rc`. The `printk` before
it takes `cmd->link->name`: where the command has no link, nothing follows. -/
def sentStep (env : FlushEnv) (s : FlushState) (rc : Nat) : Option FlushState :=
  match s.pc with
  | .sendReply t =>
    if t.item.cmd.link.isSome then
      let s := s.call (.requestSend t.item.cmd.link s.reply env.timeoutTicks rc)
      some (if rc = 0 then { s with status := .replyFailed, pc := .out t }
        else { s with pc := .out t })
    else none
  | _ => none

/-- The critical section of `cmd_enqueue_cb`. -/
def push (s : FlushState) (cmd : Cmd) (cb cbArg : Ptr) : FlushState :=
  let r := cmdEnqueueCbUnsafe s.cmdq cmd cb cbArg
  if r.2 = 0 then
    { s with
      cmdq := r.1
      stamp := Function.update s.stamp r.1.head s.accepted.length
      accepted := s.accepted ++ [⟨cmd, ⟨cb, cbArg⟩⟩] }
  else { s with cmdq := r.1 }

/-- `cmd_drop_all` -/
def dropAll (s : FlushState) : FlushState :=
  { s with cmdq := (cmdDropAll s.cmdq).1, dropped := s.dropped ++ s.waiting }

end FlushState

/-! ## §3 Steps -/

inductive FlushAct where
  /-- The next statement. -/
  | task
  /-- The handler callback returns. -/
  | served (replySz : Int) (w : Stores)
  /-- `link_request_send` returns. -/
  | sent (rc : Nat)
  | push (cmd : Cmd) (cb cbArg : Ptr)
  | dropAll

/-- Is the step one of `cmd_flush`? -/
def FlushAct.own : FlushAct → Bool
  | .task | .served _ _ | .sent _ => true
  | _ => false

def flushStep (env : FlushEnv) (s : FlushState) : FlushAct → Option FlushState
  | .task => s.taskStep env
  | .served replySz w => s.servedStep env replySz w
  | .sent rc => s.sentStep env rc
  | .push cmd cb cbArg => some (s.push cmd cb cbArg)
  | .dropAll => some s.dropAll

end HpscRtems.Command
