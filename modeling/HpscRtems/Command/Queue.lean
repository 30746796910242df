/-
HpscRtems.Command.Queue — the command queue of `command.c`.

`struct cmdq` is a ring of `CMDQ_LEN` slots told apart by `head` (the slot
written last) and `tail` (the slot read last). The two indices are only
ever assigned values modulo `CMDQ_LEN`, which their type records. Each
function below is one critical section of the C code under the queue's
interrupt lock; the `printk` calls are left out.

§2 is the abstract queue: a list of at most `CMDQ_LEN - 1` commands under
the same operations. `QueueTheorems` compares the two.
-/
import HpscRtems.HpscMsg
import HpscRtems.Machine.Ring
import HpscRtems.Machine.Run

namespace HpscRtems.Command

open Rtems

/-! ## §1 `struct cmdq` -/

/-- `struct cmd` -/
structure Cmd where
  msg : Msg
  link : Ptr
  deriving DecidableEq

/-- `struct cmd_handled_ctx` -/
structure CmdHandledCtx where
  cb : Ptr
  cbArg : Ptr
  deriving DecidableEq

/-- `struct cmdq_item` -/
structure CmdqItem where
  cmd : Cmd
  handled : CmdHandledCtx
  deriving DecidableEq

/-- `CMDQ_LEN` -/
abbrev cmdqLen : Nat := 4

/-- `struct cmdq` -/
structure Cmdq where
  q : Fin cmdqLen → CmdqItem
  head : Fin cmdqLen
  tail : Fin cmdqLen

/-- `static struct cmdq cmdq`: everything but the lock is zero. -/
def Cmdq.init : Cmdq where
  q := fun _ => ⟨⟨Msg.zero, none⟩, ⟨none, none⟩⟩
  head := ⟨0, by decide⟩
  tail := ⟨0, by decide⟩

/-- `cmdq_size_unsafe` -/
def cmdqSizeUnsafe (cmdq : Cmdq) : Nat :=
  if cmdq.head.val ≥ cmdq.tail.val then cmdq.head.val - cmdq.tail.val
  else cmdqLen - cmdq.tail.val + cmdq.head.val

/-- `cmd_enqueue_cb_unsafe`. The test for a full queue is the one of the C
source: `%` binds more tightly than `+` there as here. -/
def cmdEnqueueCbUnsafe (cmdq : Cmdq) (cmd : Cmd) (cb cbArg : Ptr) : Cmdq × Nat :=
  if cmdq.head.val + 1 % cmdqLen = cmdq.tail.val then (cmdq, 1)
  else
    let head := Machine.next cmdq.head
    ({ cmdq with head := head, q := Function.update cmdq.q head ⟨cmd, ⟨cb, cbArg⟩⟩ }, 0)

/-- `cmd_dequeue_unsafe`; `none` is the return value 1. -/
def cmdDequeueUnsafe (cmdq : Cmdq) : Cmdq × Option (Cmd × Ptr × Ptr) :=
  if cmdq.head = cmdq.tail then (cmdq, none)
  else
    let tail := Machine.next cmdq.tail
    let item := cmdq.q tail
    ({ cmdq with tail := tail }, some (item.cmd, item.handled.cb, item.handled.cbArg))

/-- `cmd_enqueue_cb`, with the handler task `tid` it finds published and the
status `sc` that `rtems_event_send` would give for it. -/
def cmdEnqueueCb (cmdq : Cmdq) (tid : RtemsId) (sc : StatusCode) (cmd : Cmd) (cb cbArg : Ptr) :
    Cmdq × Nat :=
  let (cmdq', rc) := cmdEnqueueCbUnsafe cmdq cmd cb cbArg
  if rc = 0 ∧ tid ≠ idNone then (cmdq', if sc ≠ .successful then 1 else 0) else (cmdq', rc)

/-- `cmd_dequeue` -/
def cmdDequeue (cmdq : Cmdq) : Cmdq × Option (Cmd × Ptr × Ptr) := cmdDequeueUnsafe cmdq

/-- `cmd_drop_all` -/
def cmdDropAll (cmdq : Cmdq) : Cmdq × Nat :=
  ({ cmdq with tail := cmdq.head }, cmdqSizeUnsafe cmdq)

/-! ## §2 Operations and the abstract queue -/

/-- The calls a run is made of. An enqueue carries what it finds of the
handler task: the published `tid` and the status of the event send. -/
inductive CmdqOp where
  | enqueueCb (cmd : Cmd) (cb cbArg : Ptr) (tid : RtemsId) (sc : StatusCode)
  | dequeue
  | dropAll
  deriving DecidableEq

/-- What a caller sees: for an enqueue, whether the queue refused the
command and the value returned. -/
inductive CmdqResult where
  | enqueued (refused : Bool) (rc : Nat)
  | dequeued (item : Option (Cmd × Ptr × Ptr))
  | dropped (n : Nat)
  deriving DecidableEq

def cmdqStep (cmdq : Cmdq) : CmdqOp → Cmdq × CmdqResult
  | .enqueueCb cmd cb cbArg tid sc =>
    let refused := (cmdEnqueueCbUnsafe cmdq cmd cb cbArg).2 != 0
    let (cmdq', rc) := cmdEnqueueCb cmdq tid sc cmd cb cbArg
    (cmdq', .enqueued refused rc)
  | .dequeue => let (cmdq', item) := cmdDequeue cmdq; (cmdq', .dequeued item)
  | .dropAll => let (cmdq', n) := cmdDropAll cmdq; (cmdq', .dropped n)

/-- The value `cmd_enqueue_cb` owes its caller: 1 when the command was
refused or the handler could not be told of it. -/
def enqueueRc (refused : Bool) (tid : RtemsId) (sc : StatusCode) : Nat :=
  if refused then 1 else if tid ≠ idNone ∧ sc ≠ .successful then 1 else 0

/-- The abstract queue: the pending commands, oldest first, and a refusal
when `CMDQ_LEN - 1` of them are pending. -/
def fifoStep (pending : List CmdqItem) : CmdqOp → List CmdqItem × CmdqResult
  | .enqueueCb cmd cb cbArg tid sc =>
    if pending.length = cmdqLen - 1 then (pending, .enqueued true (enqueueRc true tid sc))
    else (pending ++ [⟨cmd, ⟨cb, cbArg⟩⟩], .enqueued false (enqueueRc false tid sc))
  | .dequeue =>
    match pending with
    | [] => ([], .dequeued none)
    | item :: rest => (rest, .dequeued (some (item.cmd, item.handled.cb, item.handled.cbArg)))
  | .dropAll => ([], .dropped pending.length)

end HpscRtems.Command
