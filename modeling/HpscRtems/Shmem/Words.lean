/-
HpscRtems.Shmem.Words — one direction of a shared memory link, one access
to the region at a time.

The sender's task runs `link_request_send`, with `link_shmem_write` as the
stores of `vmem_cpy` and `vmem_set`, a load of the status word and a store
of it. The ACK poll task runs `link_shmem_ack`, which ends in a load and a
store of the status word. On the other processor the receiver's poll task
runs `link_shmem_read`: sixteen loads of `mem_vcpy`, then two times a load
and a store of the status word.

`shmem_set_new` and `shmem_set_ack` write back what they have loaded with
one bit changed, so a store that comes in between is lost. Nothing in the
code keeps the three tasks apart.

`calls`, `slot` and `reads` are not in the program: the calls made so far,
which of them has written the whole data array last, and the messages read
so far, each with the call it came from.
-/
import HpscRtems.Link.OneWay
import HpscRtems.Shmem.Region

namespace HpscRtems.Shmem.Words

open Machine Rtems Link Shmem

/-! ## §1 State -/

/-- Where the ACK poll task is; `stored` is the status word that
`shmem_set_ack(slink->shmem_out, false)` is to store. -/
inductive AckPoll where
  | poll
  | inLinkAck
  | loadAck
  | storeAck (loaded : BitVec 32)
  deriving DecidableEq

/-- Where the receiver's poll task is; during the read, with the number of
words loaded and the buffer. -/
inductive RecvPoll where
  | poll
  | read (i : Nat) (mem : Mem)
  | loadNew
  | storeNew (loaded : BitVec 32)
  | loadAck
  | storeAck (loaded : BitVec 32)

structure ShmemState where
  link : LinkState
  region : HpscShmemRegion
  /-- The bytes that the `shmem_write` in progress has stored. -/
  written : Nat
  /-- The status word that the `shmem_set_new` in progress has loaded. -/
  newLoaded : Option (BitVec 32)
  ack : AckPoll
  recv : RecvPoll
  calls : List Call
  slot : Nat
  reads : List (Nat × Msg)

/-- A link just connected, over the region `r`. -/
def ShmemState.start (r : HpscShmemRegion) (heap : LinkRequestCtx) (p : Pending) : ShmemState :=
  ⟨.connected heap p, r, 0, none, .poll, .poll, [], 0, []⟩

/-- The messages read so far. -/
def ShmemState.got (c : ShmemState) : List Msg := c.reads.map (·.2)

/-! ## §2 Steps -/

inductive ShmemAct where
  /-- The sending task, outside `link_shmem_write`. -/
  | sender (a : Act)
  /-- `shmem_write`: the next store. -/
  | store
  /-- `shmem_set_new(slink->shmem_out, true)`: the load. -/
  | loadNew
  /-- `shmem_set_new(slink->shmem_out, true)`: the store. -/
  | storeNew
  | ack
  | recv
  deriving DecidableEq

def ShmemAct.call? : ShmemAct → Option Call
  | .sender (.call _ c) => some c
  | _ => none

/-- The steps of the sending task. -/
def ShmemAct.ofTask : ShmemAct → Bool
  | .sender _ | .store | .loadNew | .storeNew => true
  | _ => false

/-- The next store of `shmem_write` at offset `d`: a word of the message as
long as one is left, then its bytes, then zeros. -/
def nextStore (data : Mem) (buf : Mem) (sz d : Nat) : Mem × Nat :=
  if d + 4 ≤ sz then (storeWord data d (loadWord buf d), d + 4)
  else (Function.update data d (if d < sz then buf d else 0), d + 1)

/-- The ACK poll task. A poll that sees no ACK does nothing. -/
def ackStep (c : ShmemState) : Option ShmemState :=
  match c.ack with
  | .poll => if pollSees c.region statusBitAck then some { c with ack := .inLinkAck } else none
  | .inLinkAck =>
    some { c with
      link := c.link.linkAck
      ack := if c.link.linkAck.ack = .idle then .loadAck else .inLinkAck }
  | .loadAck => some { c with ack := .storeAck c.region.status }
  | .storeAck v =>
    some { c with region := { c.region with status := v &&& ~~~statusBitAck }, ack := .poll }

/-- The receiver's poll task. -/
def recvStep (c : ShmemState) : Option ShmemState :=
  match c.recv with
  | .poll =>
    if pollSees c.region statusBitNew then some { c with recv := .read 0 Msg.zero.toMem } else none
  | .read i mem =>
    let mem := storeWord mem (4 * i) (loadWord c.region.data.toMem (4 * i))
    if 4 * (i + 1) < hpscMsgSize then some { c with recv := .read (i + 1) mem }
    else some { c with recv := .loadNew, reads := c.reads ++ [(c.slot, Msg.ofMem mem)] }
  | .loadNew => some { c with recv := .storeNew c.region.status }
  | .storeNew v =>
    some { c with region := { c.region with status := v &&& ~~~statusBitNew }, recv := .loadAck }
  | .loadAck => some { c with recv := .storeAck c.region.status }
  | .storeAck v =>
    some { c with region := { c.region with status := v ||| statusBitAck }, recv := .poll }

/-- One step of the three tasks, where the buffer of the `n`-th call is at
`addr n`. A write whose assertions fail does not go on. -/
def wordStep (addr : Nat → Nat) (c : ShmemState) : ShmemAct → Option ShmemState
  | .sender a =>
    if a.ofSender = true then
      (step c.link a).map fun l => { c with link := l, calls := a.addCall c.calls }
    else none
  | .store =>
    match c.link.req with
    | .running _ call .write =>
      if isAligned (addr c.calls.length) ∧ c.written < hpscMsgSize ∧ call.sz ≤ hpscMsgSize then
        let (mem, d) := nextStore c.region.data.toMem (bufMem call.buf) call.sz c.written
        some { c with
          region := { c.region with data := Msg.ofMem mem }
          written := d
          slot := if d = hpscMsgSize then c.calls.length else c.slot }
      else none
    | _ => none
  | .loadNew =>
    match c.link.req, c.newLoaded with
    | .running _ _ .write, none =>
      if c.written = hpscMsgSize then some { c with newLoaded := some c.region.status } else none
    | _, _ => none
  | .storeNew =>
    match c.link.req, c.newLoaded with
    | .running _ call .write, some v =>
      (step c.link (.write call.sz)).map fun l =>
        { c with
          link := l
          region := { c.region with status := v ||| statusBitNew }
          written := 0
          newLoaded := none }
    | _, _ => none
  | .ack => ackStep c
  | .recv => recvStep c

/-! ## §3 Overlapping updates and copies -/

/-- The receiver is about to load or store the status word. -/
def RecvPoll.atStatus : RecvPoll → Bool
  | .poll | .read _ _ => false
  | _ => true

/-- The receiver has loaded the status word and is to store it. -/
def RecvPoll.updating : RecvPoll → Bool
  | .storeNew _ | .storeAck _ => true
  | _ => false

/-- The ACK poll task has loaded the status word and is to store it. -/
def AckPoll.updating : AckPoll → Bool
  | .storeAck _ => true
  | _ => false

/-- A load or store of the status word by the sender or the receiver. -/
def ShmemAct.atStatus (c : ShmemState) : ShmemAct → Bool
  | .loadNew | .storeNew => true
  | .recv => c.recv.atStatus
  | _ => false

/-- The clear of ACK in `link_shmem_ack` overlaps no other update of the
status word: nobody else is in one when it begins, and nobody begins or
ends one before it is done. -/
def ClearAlone (c : ShmemState) (a : ShmemAct) : Prop :=
  (a = .ack → c.ack = .loadAck → c.newLoaded = none ∧ c.recv.updating = false) ∧
    (c.ack.updating = true → a.atStatus c = false)

instance (c : ShmemState) (a : ShmemAct) : Decidable (ClearAlone c a) :=
  inferInstanceAs (Decidable ((_ → _) ∧ (_ → _)))

/-- Somebody has loaded the status word and is to store it. -/
def ShmemState.updating (c : ShmemState) : Bool :=
  c.newLoaded.isSome || c.ack.updating || c.recv.updating

/-- A load of the status word that a store of it is to follow. -/
def ShmemAct.beginsUpdate (c : ShmemState) : ShmemAct → Bool
  | .loadNew => true
  | .ack => c.ack = .loadAck
  | .recv => c.recv.atStatus && !c.recv.updating
  | _ => false

/-- No update of the status word begins while another is in progress. -/
def UpdatesAlone (c : ShmemState) (a : ShmemAct) : Prop :=
  a.beginsUpdate c = true → c.updating = false

instance (c : ShmemState) (a : ShmemAct) : Decidable (UpdatesAlone c a) :=
  inferInstanceAs (Decidable (_ → _))

/-- The receiver has loaded some of the words of a message. -/
def RecvPoll.reading : RecvPoll → Bool
  | .read i _ => i ≠ 0
  | _ => false

/-- A load of a word of the message. -/
def ShmemAct.loadsWord (c : ShmemState) : ShmemAct → Bool
  | .recv => match c.recv with
    | .read _ _ => true
    | _ => false
  | _ => false

/-- A message is copied as a whole: no store of one falls between two loads,
and no load between two stores. -/
def CopyAlone (c : ShmemState) (a : ShmemAct) : Prop :=
  (a = .store → c.recv.reading = false) ∧
    (a.loadsWord c = true → c.written = 0 ∨ c.written = hpscMsgSize)

instance (c : ShmemState) (a : ShmemAct) : Decidable (CopyAlone c a) :=
  inferInstanceAs (Decidable ((_ → _) ∧ (_ → _)))

end HpscRtems.Shmem.Words
