/-
HpscRtems.Shmem.Region — the accessors of a shared memory region
(`shmem.c`).

The region holds one message and a status word. `shmem_set_new` and
`shmem_set_ack` read, change and write the whole word; each accessor is
one step here. A failed assertion is `none`.

`shmemWriteBy` and `shmemReadBy` are the bodies of `shmem_write` and
`shmem_read`, over the loops that copy and fill. Here the region is apart
from the memory of the buffers; in `HpscRtems.Shmem.Bytes` both are in one
memory.
-/
import HpscRtems.Link.Medium

namespace HpscRtems.Shmem

open Machine Rtems

/-! ## §1 Accessors -/

/-- `HPSC_SHMEM_STATUS_BIT_NEW` -/
def statusBitNew : BitVec 32 := 0x01#32

/-- `HPSC_SHMEM_STATUS_BIT_ACK` -/
def statusBitAck : BitVec 32 := 0x02#32

/-- `struct hpsc_shmem_region` -/
structure HpscShmemRegion where
  data : Msg
  status : BitVec 32
  deriving DecidableEq

/-- `IS_ALIGNED` -/
def isAligned (p : Nat) : Bool := p % 4 == 0

/-- `shmem_write` of the `sz` bytes from `msg` on. In a memory `m` that has
the data array, `cpy m n` copies the first `n` bytes to it, and `set m s n`
clears `n` bytes of it from `s` on. -/
def shmemWriteBy {σ : Type} (cpy : σ → Nat → σ) (set : σ → Nat → Nat → σ) (m : σ) (msg sz : Nat) :
    Option (σ × Nat) :=
  if isAligned msg ∧ sz ≤ hpscMsgSize then
    let szRem := hpscMsgSize - sz
    let m := cpy m sz
    let m := if szRem ≠ 0 then set m sz szRem else m
    some (m, sz)
  else none

/-- `shmem_read` into a buffer of `sz` bytes at `msg`. In a memory `m` that
has the buffer, `cpy m n` copies `n` bytes of the data array to it. -/
def shmemReadBy {σ : Type} (cpy : σ → Nat → σ) (m : σ) (msg sz : Nat) : Option (σ × Nat) :=
  if isAligned msg ∧ hpscMsgSize ≤ sz then some (cpy m hpscMsgSize, hpscMsgSize) else none

/-- `vmem_cpy` -/
def vmemCpy (dest : Mem) (d : Nat) (src : Mem) (s n : Nat) : Mem := copyLoop dest d src s n

/-- `mem_vcpy` -/
def memVcpy (dest : Mem) (d : Nat) (src : Mem) (s n : Nat) : Mem := copyLoop dest d src s n

/-- `vmem_set` -/
def vmemSet (dest : Mem) (d : Nat) (c : Byte) (n : Nat) : Mem := fillLoop dest d c n

/-- `shmem_write` of the `sz` bytes of `mem` from `p` on: the region and the
return value. -/
def shmemWrite (r : HpscShmemRegion) (mem : Mem) (p sz : Nat) : Option (HpscShmemRegion × Nat) :=
  (shmemWriteBy (fun data n => vmemCpy data 0 mem p n) (fun data s n => vmemSet data s 0 n)
    r.data.toMem p sz).map fun w => ({ r with data := Msg.ofMem w.1 }, w.2)

/-- `shmem_read` into the memory at `p`: the memory and the return value. -/
def shmemRead (r : HpscShmemRegion) (mem : Mem) (p sz : Nat) : Option (Mem × Nat) :=
  shmemReadBy (fun mem n => memVcpy mem p r.data.toMem 0 n) mem p sz

/-- The message `shmem_read` puts into a buffer of zeros, as `link_recv_cmd`
and the reply buffers have it. -/
def readMsg (r : HpscShmemRegion) : Msg :=
  match shmemRead r Msg.zero.toMem 0 hpscMsgSize with
  | some (mem, _) => Msg.ofMem mem
  | none => Msg.zero

/-- `shmem_get_status` -/
def shmemGetStatus (r : HpscShmemRegion) : BitVec 32 := r.status

/-- `shmem_set_new` -/
def shmemSetNew (r : HpscShmemRegion) (val : Bool) : HpscShmemRegion :=
  if val then { r with status := r.status ||| statusBitNew }
  else { r with status := r.status &&& ~~~statusBitNew }

/-- `shmem_set_ack` -/
def shmemSetAck (r : HpscShmemRegion) (val : Bool) : HpscShmemRegion :=
  if val then { r with status := r.status ||| statusBitAck }
  else { r with status := r.status &&& ~~~statusBitAck }

/-- The test of `shm_poll_task`: is a bit of `mask` set in the status? -/
def pollSees (r : HpscShmemRegion) (mask : BitVec 32) : Bool := shmemGetStatus r &&& mask != 0#32

/-- Neither NEW nor ACK is set. -/
def HpscShmemRegion.Clear (r : HpscShmemRegion) : Prop :=
  pollSees r statusBitNew = false ∧ pollSees r statusBitAck = false

instance HpscShmemRegion.Clear.instDecidable (r : HpscShmemRegion) : Decidable r.Clear :=
  inferInstanceAs (Decidable (_ ∧ _))

/-! ## §2 What a write leaves -/

/-- A write is done where the assertions hold. -/
theorem shmemWrite_isSome (r : HpscShmemRegion) (mem : Mem) {p sz : Nat}
    (hp : isAligned p = true) (hsz : sz ≤ hpscMsgSize) :
    ∃ r', shmemWrite r mem p sz = some (r', sz) := by
  rw [shmemWrite, shmemWriteBy, if_pos ⟨hp, hsz⟩]
  exact ⟨_, rfl⟩

/-- **A write leaves the message**, padded with zeros. -/
theorem shmemWrite_data {r r' : HpscShmemRegion} {mem : Mem} {p sz n : Nat}
    (h : shmemWrite r mem p sz = some (r', n)) :
    r'.data = Msg.padded (fun i => mem (p + i)) sz ∧ r'.status = r.status ∧ n = sz := by
  unfold shmemWrite shmemWriteBy at h
  split at h
  · rename_i hsz
    simp only [Option.map_some, Option.some.injEq, Prod.mk.injEq] at h
    obtain ⟨rfl, rfl⟩ := h
    refine ⟨?_, rfl, rfl⟩
    apply Msg.ofMem_congr
    intro i hi
    by_cases hrem : hpscMsgSize - sz = 0
    · rw [if_neg (by simpa using hrem), vmemCpy, copyLoop_apply, if_pos (by omega),
        if_pos (by omega)]
      simp
    · rw [if_pos (by simpa using hrem), vmemSet, fillLoop_apply, vmemCpy, copyLoop_apply]
      by_cases hlow : i < sz
      · rw [if_neg (by omega), if_pos (by omega), if_pos hlow]
        simp
      · rw [if_pos (by omega), if_neg hlow]
  · cases h

/-- A read is done where the assertions hold. -/
theorem shmemRead_isSome (r : HpscShmemRegion) (mem : Mem) {p sz : Nat}
    (hp : isAligned p = true) (hsz : hpscMsgSize ≤ sz) :
    ∃ mem', shmemRead r mem p sz = some (mem', hpscMsgSize) :=
  ⟨_, if_pos ⟨hp, hsz⟩⟩

/-- A read copies the whole message and nothing else. -/
theorem shmemRead_mem {r : HpscShmemRegion} {mem mem' : Mem} {p sz n : Nat}
    (h : shmemRead r mem p sz = some (mem', n)) :
    n = hpscMsgSize ∧ Msg.ofMem (fun i => mem' (p + i)) = r.data ∧
      ∀ a, a < p ∨ p + hpscMsgSize ≤ a → mem' a = mem a := by
  unfold shmemRead shmemReadBy at h
  split at h
  · simp only [Option.some.injEq, Prod.mk.injEq] at h
    obtain ⟨rfl, rfl⟩ := h
    refine ⟨rfl, ?_, fun a ha => ?_⟩
    · refine Eq.trans ?_ (Msg.ofMem_toMem r.data)
      apply Msg.ofMem_congr
      intro i hi
      rw [memVcpy, copyLoop_apply, if_pos (by omega)]
      congr 1
      omega
    · rw [memVcpy, copyLoop_apply, if_neg (by omega)]
  · cases h

@[simp] theorem readMsg_eq (r : HpscShmemRegion) : readMsg r = r.data := by
  obtain ⟨mem, h⟩ := shmemRead_isSome r Msg.zero.toMem (p := 0) rfl (Nat.le_refl _)
  unfold readMsg
  rw [h]
  simpa using (shmemRead_mem h).2.1

/-- From the start of a buffer on. -/
theorem shmemWrite_zero_data {r r' : HpscShmemRegion} {buf : Mem} {sz n : Nat}
    (h : shmemWrite r buf 0 sz = some (r', n)) :
    r'.data = Msg.padded buf sz ∧ r'.status = r.status ∧ n = sz := by
  simpa only [Nat.zero_add] using shmemWrite_data h

/-! ## §3 The region as a medium -/

/-- A region is a medium: NEW and ACK are its status bits. A buffer is the
memory from an aligned address on: with any other, `shmem_write` stops at
its assertion. -/
def shmemMedium : Link.Medium HpscShmemRegion where
  write r buf sz := (shmemWrite r buf 0 sz).map (·.1)
  read := readMsg
  isNew r := pollSees r statusBitNew
  isAck r := pollSees r statusBitAck
  setNew := shmemSetNew
  setAck := shmemSetAck
  msg := Msg.padded
  read_write h := by
    obtain ⟨⟨_, _⟩, hw, rfl⟩ := Option.map_eq_some_iff.mp h
    rw [readMsg_eq]
    exact (shmemWrite_zero_data hw).1
  isNew_write h := by
    obtain ⟨⟨_, _⟩, hw, rfl⟩ := Option.map_eq_some_iff.mp h
    simp only [pollSees, shmemGetStatus, (shmemWrite_zero_data hw).2.1]
  isAck_write h := by
    obtain ⟨⟨_, _⟩, hw, rfl⟩ := Option.map_eq_some_iff.mp h
    simp only [pollSees, shmemGetStatus, (shmemWrite_zero_data hw).2.1]
  read_setNew r v := by cases v <;> simp [shmemSetNew]
  isNew_setNew r v := by
    cases v
    · exact hasEvent_clear r.status statusBitNew
    · exact hasEvent_set r.status statusBitNew (by decide)
  isAck_setNew r v := by
    cases v
    · exact (hasEvent_other (by decide)).2
    · exact (hasEvent_other (by decide)).1
  read_setAck r v := by cases v <;> simp [shmemSetAck]
  isNew_setAck r v := by
    cases v
    · exact (hasEvent_other (by decide)).2
    · exact (hasEvent_other (by decide)).1
  isAck_setAck r v := by
    cases v
    · exact hasEvent_clear r.status statusBitAck
    · exact hasEvent_set r.status statusBitAck (by decide)

end HpscRtems.Shmem
