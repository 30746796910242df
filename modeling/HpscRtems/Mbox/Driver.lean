/-
HpscRtems.Mbox.Driver — the mailbox driver `hpsc-mbox.c`: its records, the
register blocks of the channels, and claim and release.

A `Mailbox` is the driver's `struct hpsc_mbox` together with the register
blocks its pointers lead to. The blocks are kept by address, so a channel
reaches its own block only through the `base` pointer that the last claim
computed for it, as in C.

The device decides whether it takes a write to CONFIG; `takes` is its
answer, and a write it does not take leaves CONFIG as it was. The locks
are left out: claim and release of one mailbox are synchronised by their
callers (`hpsc-mbox.h`), and the ISRs lock one channel at a time.
-/
import HpscRtems.Rtems

namespace HpscRtems.Mbox

open Rtems

abbrev Word := BitVec 32

/-! ## §1 Registers -/

/-- `HPSC_MBOX_DATA_REGS` -/
abbrev dataRegs : Nat := 16

/-- `HPSC_MBOX_CHANNELS` -/
abbrev channels : Nat := 32

/-- `struct hpsc_mbox_chan_base`. `event` is the event state behind
EVENT_CAUSE, EVENT_STATUS, EVENT_STATUS_SET and EVENT_STATUS_CLEAR. -/
structure ChanBase where
  config : Word
  event : Word
  enable : Word
  data : Fin dataRegs → Word

/-- `sizeof(struct hpsc_mbox_chan_base)` -/
abbrev chanBaseSize : Nat := 4 * 4 + 4 * dataRegs

def regConfigUnsecure : Word := 0x1#32
def regConfigOwnerShift : Nat := 8
def regConfigOwnerMask : Word := 0x0000ff00#32
def regConfigSrcShift : Nat := 16
def regConfigSrcMask : Word := 0x00ff0000#32
def regConfigDestShift : Nat := 24
def regConfigDestMask : Word := 0xff000000#32

/-- `HPSC_MBOX_EVENT_A` (message received) -/
def eventA : Word := 0x1#32

/-- `HPSC_MBOX_EVENT_B` (message acknowledged) -/
def eventB : Word := 0x2#32

/-- `HPSC_MBOX_INT_A` -/
def intA (idx : Nat) : Word := 1#32 <<< (2 * idx)

/-- `HPSC_MBOX_INT_B` -/
def intB (idx : Nat) : Word := 1#32 <<< (2 * idx + 1)

/-! ## §2 Driver records -/

/-- The interrupt handlers the program installs on channels; `other` is any
other code address. -/
inductive Handler where
  | linkRecvCmd
  | linkRecvReply
  | linkMboxAck
  | other (addr : Nat)
  deriving DecidableEq, Repr

/-- `struct hpsc_mbox_chan_irq_info` -/
structure ChanIrqInfo where
  cb : Option Handler
  arg : Ptr
  deriving DecidableEq

/-- `struct hpsc_mbox_chan`. `inst` is the C field `instance`. -/
structure HpscMboxChan where
  base : Nat
  inst : Nat
  intA : ChanIrqInfo
  intB : ChanIrqInfo
  owner : Byte
  src : Byte
  dest : Byte
  active : Bool
  deriving DecidableEq

/-- `struct hpsc_mbox_irq_info` -/
structure HpscMboxIrqInfo where
  n : Nat
  idx : Nat
  deriving DecidableEq

/-- `struct hpsc_mbox`. `hpsc_mbox_init` gives every channel its own number
and nothing changes it afterwards. -/
structure HpscMbox where
  chans : Fin channels → HpscMboxChan
  base : Nat
  intA : HpscMboxIrqInfo
  intB : HpscMboxIrqInfo
  inst_eq : ∀ i, (chans i).inst = i.val

/-- The two interrupts of a mailbox. -/
inductive Line where
  | a
  | b
  deriving DecidableEq

/-- `mbox->int_a` or `mbox->int_b` -/
def Line.info (m : HpscMbox) : Line → HpscMboxIrqInfo
  | a => m.intA
  | b => m.intB

/-- `chan->int_a` or `chan->int_b` -/
def Line.chanInfo (c : HpscMboxChan) : Line → ChanIrqInfo
  | a => c.intA
  | b => c.intB

/-- `interrupt` of `hpsc_mbox_isr` -/
def Line.bit (m : HpscMbox) : Line → Word
  | a => Mbox.intA m.intA.idx
  | b => Mbox.intB m.intB.idx

/-- The driver's record and the register blocks by address. -/
structure Mailbox where
  mbox : HpscMbox
  regs : Nat → ChanBase

namespace Mailbox

def chan (s : Mailbox) (i : Fin channels) : HpscMboxChan := s.mbox.chans i

/-- The register block `chan->base` points to. -/
def block (s : Mailbox) (i : Fin channels) : ChanBase := s.regs (s.chan i).base

/-- Replace a channel record by one with the same number. -/
def setChan (s : Mailbox) (i : Fin channels) (c : HpscMboxChan) (h : c.inst = i.val) : Mailbox :=
  { s with
    mbox :=
      { s.mbox with
        chans := Function.update s.mbox.chans i c
        inst_eq := by
          intro j
          by_cases hj : j = i
          · subst hj; simpa using h
          · simpa [Function.update_of_ne hj] using s.mbox.inst_eq j } }

/-- Write the register block of channel `i`. -/
def setBlock (s : Mailbox) (i : Fin channels) (b : ChanBase) : Mailbox :=
  { s with regs := Function.update s.regs (s.chan i).base b }

end Mailbox

/-! ## §3 CONFIG -/

/-- Write CONFIG; the device may not take the value. -/
def ChanBase.writeConfig (b : ChanBase) (takes : Bool) (v : Word) : ChanBase :=
  if takes then { b with config := v } else b

/-- The CONFIG value of an owner claim. -/
def configWord (owner src dest : Byte) : Word :=
  regConfigUnsecure |||
    ((owner.setWidth 32 <<< regConfigOwnerShift) &&& regConfigOwnerMask) |||
    ((src.setWidth 32 <<< regConfigSrcShift) &&& regConfigSrcMask) |||
    ((dest.setWidth 32 <<< regConfigDestShift) &&& regConfigDestMask)

/-- `hpsc_mbox_chan_config_read`: owner, src and dest. -/
def hpscMboxChanConfigRead (s : Mailbox) (i : Fin channels) : Byte × Byte × Byte :=
  let val := (s.block i).config
  (((val &&& regConfigOwnerMask) >>> regConfigOwnerShift).setWidth 8,
    ((val &&& regConfigSrcMask) >>> regConfigSrcShift).setWidth 8,
    ((val &&& regConfigDestMask) >>> regConfigDestShift).setWidth 8)

/-- `hpsc_mbox_chan_config_write`: write, read back, compare. -/
def hpscMboxChanConfigWrite (takes : Bool) (s : Mailbox) (i : Fin channels)
    (owner src dest : Byte) : Mailbox × StatusCode :=
  let cfg := configWord owner src dest
  let s' := s.setBlock i ((s.block i).writeConfig takes cfg)
  if (s'.block i).config ≠ cfg then (s', .notOwnerOfResource) else (s', .successful)

/-- `hpsc_mbox_chan_reset` -/
def hpscMboxChanReset (takes : Bool) (s : Mailbox) (i : Fin channels) : Mailbox :=
  s.setBlock i ((s.block i).writeConfig takes 0#32)

/-! ## §4 Claim and release -/

/-- The arguments of `hpsc_mbox_chan_claim` after the mailbox and the
channel. -/
structure ClaimArgs where
  owner : Byte
  src : Byte
  dest : Byte
  cbA : Option Handler
  cbB : Option Handler
  cbArg : Ptr
  deriving DecidableEq

/-- The channel record `hpsc_mbox_chan_init` leaves. -/
def initChan (mboxBase inst : Nat) (a : ClaimArgs) : HpscMboxChan where
  base := mboxBase + inst * chanBaseSize
  inst := inst
  intA := ⟨a.cbA, a.cbArg⟩
  intB := ⟨a.cbB, a.cbArg⟩
  owner := a.owner
  src := a.src
  dest := a.dest
  active := true

/-- The channel record `hpsc_mbox_chan_destroy` leaves. -/
def destroyChan (c : HpscMboxChan) : HpscMboxChan where
  base := c.base
  inst := c.inst
  intA := ⟨none, none⟩
  intB := ⟨none, none⟩
  owner := 0
  src := 0
  dest := 0
  active := false

/-- `hpsc_mbox_chan_init` -/
def hpscMboxChanInit (s : Mailbox) (i : Fin channels) (a : ClaimArgs) : Mailbox :=
  s.setChan i (initChan s.mbox.base (s.chan i).inst a) (s.mbox.inst_eq i)

/-- `hpsc_mbox_chan_destroy` -/
def hpscMboxChanDestroy (s : Mailbox) (i : Fin channels) : Mailbox :=
  s.setChan i (destroyChan (s.chan i)) (s.mbox.inst_eq i)

/-- The enable bits a claim asks for. -/
def enableBits (s : Mailbox) (i : Fin channels) : Word :=
  (if (s.chan i).intA.cb.isSome then intA s.mbox.intA.idx else 0) |||
    (if (s.chan i).intB.cb.isSome then intB s.mbox.intB.idx else 0)

/-- `chan->base->EVENT_ENABLE |= val` -/
def enableInterrupts (s : Mailbox) (i : Fin channels) : Mailbox :=
  s.setBlock i { s.block i with enable := (s.block i).enable ||| enableBits s i }

/-- The context of a call: is an interrupt in progress, and does the device
take the CONFIG write? -/
structure CallEnv where
  inIsr : Bool
  takes : Bool
  deriving DecidableEq

/-- `hpsc_mbox_chan_claim` from the test of `chan->active` on, without the
code after the label `cleanup`: the state in which that label is reached,
or in which the claim succeeds. -/
def hpscMboxChanClaimTry (takes : Bool) (s : Mailbox) (i : Fin channels) (a : ClaimArgs) :
    Mailbox × StatusCode :=
  if (s.chan i).active then (s, .resourceInUse)
  else
    let s := hpscMboxChanInit s i a
    if (s.chan i).owner ≠ 0 then
      let w := hpscMboxChanConfigWrite takes s i a.owner a.src a.dest
      if w.2 ≠ .successful then w else (enableInterrupts w.1 i, .successful)
    else
      -- not owner: check the registers against the requested values
      let (_, srcHw, destHw) := hpscMboxChanConfigRead s i
      if a.cbB.isSome ∧ a.src ≠ 0 ∧ srcHw ≠ a.src then (s, .unsatisfied)
      -- the source compares `dest_hw` with `src` here
      else if a.cbA.isSome ∧ a.dest ≠ 0 ∧ destHw ≠ a.src then (s, .unsatisfied)
      else (enableInterrupts s i, .successful)

/-- `hpsc_mbox_chan_claim` -/
def hpscMboxChanClaim (env : CallEnv) (s : Mailbox) (i : Fin channels) (a : ClaimArgs) :
    Mailbox × StatusCode :=
  if env.inIsr then (s, .calledFromIsr)
  else
    let c := hpscMboxChanClaimTry env.takes s i a
    if c.2 = .successful then c else (hpscMboxChanDestroy c.1 i, c.2)

/-- `hpsc_mbox_chan_release` -/
def hpscMboxChanRelease (env : CallEnv) (s : Mailbox) (i : Fin channels) : Mailbox × StatusCode :=
  if env.inIsr then (s, .calledFromIsr)
  else
    let s := s.setBlock i
      { s.block i with
        enable := (s.block i).enable &&& ~~~(intA s.mbox.intA.idx ||| intB s.mbox.intB.idx) }
    let s := if (s.chan i).owner ≠ 0 then hpscMboxChanReset env.takes s i else s
    (hpscMboxChanDestroy s i, .successful)

/-! ## §5 Runs of the driver -/

/-- `hpsc_mbox_init`, on a block whose contents are `heap`: a channel gets
its number and becomes inactive, its other fields stay what they were. -/
def hpscMboxInit (heap : Fin channels → HpscMboxChan) (base : Nat) (intA intB : HpscMboxIrqInfo) :
    HpscMbox where
  chans i := { heap i with inst := i.val, active := false }
  base := base
  intA := intA
  intB := intB
  inst_eq _ := rfl

/-- `hpsc_mbox_probe`: `mem` is the result of `malloc`, with its contents,
and `scA` and `scB` are the results of the two handler installations. -/
def hpscMboxProbe (mem : Option (Fin channels → HpscMboxChan)) (base : Nat)
    (infoA infoB : HpscMboxIrqInfo) (scA scB : StatusCode) : Option HpscMbox × StatusCode :=
  match mem with
  | none => (none, .noMemory)
  | some heap =>
    if scA ≠ .successful then (none, scA)
    else if scB ≠ .successful then (none, scB)
    else (some (hpscMboxInit heap base infoA infoB), .successful)

/-- The loop of `hpsc_mbox_remove` over `is`; `takes` is the device's answer
on each channel. -/
def releaseAll (inIsr : Bool) (takes : Fin channels → Bool) (s : Mailbox)
    (is : List (Fin channels)) : Mailbox :=
  is.foldl (fun s i => (hpscMboxChanRelease ⟨inIsr, takes i⟩ s i).1) s

/-- `hpsc_mbox_remove`: the mailbox as it is freed, and the return value, or
`none` where an assertion about the removal of the handlers fails. -/
def hpscMboxRemove (inIsr : Bool) (takes : Fin channels → Bool) (scA scB : StatusCode)
    (s : Mailbox) : Mailbox × Option StatusCode :=
  (releaseAll inIsr takes s (List.finRange channels),
    if scA = .successful ∧ scB = .successful then some scB else none)

inductive MboxOp where
  | claim (env : CallEnv) (i : Fin channels) (a : ClaimArgs)
  | release (env : CallEnv) (i : Fin channels)

def mboxStep (s : Mailbox) : MboxOp → Mailbox × StatusCode
  | .claim env i a => hpscMboxChanClaim env s i a
  | .release env i => hpscMboxChanRelease env s i

/-! ## §6 What the updates leave alone -/

namespace Mailbox

@[simp] theorem chan_setChan (s : Mailbox) (i : Fin channels) (c : HpscMboxChan)
    (h : c.inst = i.val) : (s.setChan i c h).chan i = c := by
  simp [setChan, chan]

theorem chan_setChan_of_ne (s : Mailbox) {i j : Fin channels} (c : HpscMboxChan)
    (h : c.inst = i.val) (hj : j ≠ i) : (s.setChan i c h).chan j = s.chan j := by
  simp [setChan, chan, Function.update_of_ne hj]

@[simp] theorem regs_setChan (s : Mailbox) (i : Fin channels) (c : HpscMboxChan)
    (h : c.inst = i.val) : (s.setChan i c h).regs = s.regs := rfl

@[simp] theorem base_setChan (s : Mailbox) (i : Fin channels) (c : HpscMboxChan)
    (h : c.inst = i.val) : (s.setChan i c h).mbox.base = s.mbox.base := rfl

@[simp] theorem intA_setChan (s : Mailbox) (i : Fin channels) (c : HpscMboxChan)
    (h : c.inst = i.val) : (s.setChan i c h).mbox.intA = s.mbox.intA := rfl

@[simp] theorem intB_setChan (s : Mailbox) (i : Fin channels) (c : HpscMboxChan)
    (h : c.inst = i.val) : (s.setChan i c h).mbox.intB = s.mbox.intB := rfl

@[simp] theorem mbox_setBlock (s : Mailbox) (i : Fin channels) (b : ChanBase) :
    (s.setBlock i b).mbox = s.mbox := rfl

@[simp] theorem chan_setBlock (s : Mailbox) (i : Fin channels) (b : ChanBase) (j : Fin channels) :
    (s.setBlock i b).chan j = s.chan j := rfl

@[simp] theorem block_setBlock (s : Mailbox) (i : Fin channels) (b : ChanBase) :
    (s.setBlock i b).block i = b := by
  simp [setBlock, block, chan]

@[simp] theorem regs_setBlock (s : Mailbox) (i : Fin channels) (b : ChanBase) :
    (s.setBlock i b).regs (s.chan i).base = b := by
  simp [setBlock]

theorem regs_setBlock_of_ne (s : Mailbox) (i : Fin channels) (b : ChanBase) {addr : Nat}
    (h : addr ≠ (s.chan i).base) : (s.setBlock i b).regs addr = s.regs addr := by
  simp [setBlock, Function.update_of_ne h]

end Mailbox

end HpscRtems.Mbox
