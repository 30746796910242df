/-
HpscRtems.Shmem.Bytes — `shmem_write` and `shmem_read` in the memory of the
processor (`shmem.c`).

The message, the region and the reader's buffer are ranges of one memory,
and the functions of this module are `shmemWriteBy` and `shmemReadBy` over
loops that load from and store to that memory. The parameters of both
copies are `restrict` pointers: the callers keep the ranges apart.

`regionAt` is the region that stands at an address; `shmemWrite_refines` and
`shmemRead_refines` say that the functions do there what the ones on
`HpscShmemRegion` do.
-/
import HpscRtems.Shmem.Region

namespace HpscRtems.Shmem.Bytes

open Machine Rtems

/-! ## §1 Code -/

/-- `HPSC_SHMEM_REGION_SZ` -/
abbrev hpscShmemRegionSz : Nat := hpscMsgSize + 4

/-- `vmem_set` -/
def vmemSet (m : Mem) (s : Nat) (c : Byte) (n : Nat) : Mem := fillLoop m s c n

/-- `vmem_cpy` -/
def vmemCpy (m : Mem) (dest src n : Nat) : Mem := moveLoop m dest src n

/-- `mem_vcpy` -/
def memVcpy (m : Mem) (dest src n : Nat) : Mem := moveLoop m dest src n

/-- `shmem_write` to the region at `shm`: the memory and the return value. -/
def shmemWrite (m : Mem) (shm msg sz : Nat) : Option (Mem × Nat) :=
  shmemWriteBy (fun m n => vmemCpy m shm msg n) (fun m s n => vmemSet m (shm + s) 0 n) m msg sz

/-- `shmem_read` from the region at `shm`. -/
def shmemRead (m : Mem) (shm msg sz : Nat) : Option (Mem × Nat) :=
  shmemReadBy (fun m n => memVcpy m msg shm n) m msg sz

/-- The region at an address: the data array, then the status word. -/
def regionAt (m : Mem) (shm : Nat) : HpscShmemRegion where
  data := Msg.ofMem fun i => m (shm + i)
  status := loadWord m (shm + hpscMsgSize)

/-! ## §2 What the functions do to memory -/

/-- **Both copies are byte copies**, for every size. -/
theorem copies_eq (m : Mem) (dest src n : Nat) (h : Apart src n dest n) :
    vmemCpy m dest src n = byteCopy m dest src n ∧ memVcpy m dest src n = byteCopy m dest src n :=
  ⟨moveLoop_eq m dest src n h, moveLoop_eq m dest src n h⟩

/-- A write fills the data array with the message and zeros. -/
theorem shmemWrite_apply (m : Mem) (shm msg sz : Nat) (hmsg : isAligned msg = true)
    (hsz : sz ≤ hpscMsgSize) (hapart : Apart msg sz shm sz) :
    ∃ m', shmemWrite m shm msg sz = some (m', sz) ∧
      ∀ x, m' x = if shm ≤ x ∧ x < shm + hpscMsgSize then
        if x - shm < sz then m (msg + (x - shm)) else 0#8 else m x := by
  have hcopy := (copies_eq m shm msg sz hapart).1
  have hset : ∀ x, (if hpscMsgSize - sz ≠ 0 then vmemSet (vmemCpy m shm msg sz) (shm + sz) 0
      (hpscMsgSize - sz) else vmemCpy m shm msg sz) x =
        vmemSet (vmemCpy m shm msg sz) (shm + sz) 0 (hpscMsgSize - sz) x := by
    intro x
    by_cases hrem : hpscMsgSize - sz = 0
    · rw [if_neg (by simpa using hrem), hrem]
      rfl
    · rw [if_pos hrem]
  refine ⟨_, if_pos ⟨hmsg, hsz⟩, fun x => ?_⟩
  rw [hset, vmemSet, fillLoop_apply, hcopy, byteCopy]
  by_cases hin : shm ≤ x ∧ x < shm + hpscMsgSize
  · rw [if_pos hin]
    by_cases hlow : x - shm < sz
    · rw [if_neg (by omega), if_pos (by omega), if_pos hlow]
    · rw [if_pos (by omega), if_neg hlow]
      rfl
  · rw [if_neg hin, if_neg (by omega), if_neg (by omega)]

/-- A read fills `HPSC_MSG_SIZE` bytes of the buffer. -/
theorem shmemRead_apply (m : Mem) (shm msg sz : Nat) (hmsg : isAligned msg = true)
    (hsz : hpscMsgSize ≤ sz) (hapart : Apart shm hpscMsgSize msg hpscMsgSize) :
    ∃ m', shmemRead m shm msg sz = some (m', hpscMsgSize) ∧
      ∀ x, m' x = if msg ≤ x ∧ x < msg + hpscMsgSize then m (shm + (x - msg)) else m x := by
  refine ⟨memVcpy m msg shm hpscMsgSize, if_pos ⟨hmsg, hsz⟩, fun x => ?_⟩
  rw [(copies_eq m msg shm hpscMsgSize hapart).2]
  rfl

/-! ## §3 The region at an address -/

theorem region_eq {r r' : HpscShmemRegion} (hd : r.data = r'.data) (hs : r.status = r'.status) :
    r = r' := by
  cases r
  cases r'
  simp_all

theorem regionAt_data (m : Mem) (shm : Nat) :
    (regionAt m shm).data = Msg.ofMem fun i => m (shm + i) := rfl

/-- The status word is the four bytes behind the data array. -/
theorem regionAt_status_congr {m m' : Mem} {shm : Nat}
    (h : ∀ x, shm + hpscMsgSize ≤ x → x < shm + hpscShmemRegionSz → m' x = m x) :
    (regionAt m' shm).status = (regionAt m shm).status := by
  have hregion : hpscShmemRegionSz = hpscMsgSize + 4 := rfl
  simp only [regionAt, loadWord]
  rw [h _ (by omega) (by omega), h _ (by omega) (by omega), h _ (by omega) (by omega),
    h _ (Nat.le_refl _) (by omega)]

/-- **A write is a write to the region at its address.** -/
theorem shmemWrite_refines (m : Mem) (shm msg sz : Nat) (hmsg : isAligned msg = true)
    (hsz : sz ≤ hpscMsgSize) (hapart : Apart msg sz shm sz) :
    ∃ m', shmemWrite m shm msg sz = some (m', sz) ∧
      Shmem.shmemWrite (regionAt m shm) m msg sz = some (regionAt m' shm, sz) := by
  obtain ⟨m', hw, happly⟩ := shmemWrite_apply m shm msg sz hmsg hsz hapart
  refine ⟨m', hw, ?_⟩
  obtain ⟨r', hr⟩ := shmemWrite_isSome (regionAt m shm) m hmsg hsz
  obtain ⟨hdata, hstatus, -⟩ := shmemWrite_data hr
  have hd : (regionAt m' shm).data = r'.data := by
    rw [hdata, regionAt_data, Msg.padded]
    refine Msg.ofMem_congr fun i hi => ?_
    rw [happly, if_pos (by omega), Nat.add_sub_cancel_left]
    rfl
  have hs : (regionAt m' shm).status = r'.status := by
    rw [hstatus]
    exact regionAt_status_congr fun x hlow _ => by rw [happly, if_neg (by omega)]
  rw [hr, region_eq hd hs]

/-- **A read is a read of the region at its address.** -/
theorem shmemRead_refines (m : Mem) (shm msg sz : Nat)
    (hapart : Apart shm hpscMsgSize msg hpscMsgSize) :
    shmemRead m shm msg sz = Shmem.shmemRead (regionAt m shm) m msg sz := by
  have hcopy : memVcpy m msg shm hpscMsgSize =
      Shmem.memVcpy m msg (regionAt m shm).data.toMem 0 hpscMsgSize := by
    rw [(copies_eq m msg shm hpscMsgSize hapart).2]
    funext x
    rw [byteCopy, Shmem.memVcpy, copyLoop_apply]
    by_cases hin : msg ≤ x ∧ x < msg + hpscMsgSize
    · rw [if_pos hin, if_pos hin, Nat.zero_add, Msg.toMem_eq _ _ (by omega), regionAt,
        Msg.getElem_ofMem]
    · rw [if_neg hin, if_neg hin]
  simp only [shmemRead, Shmem.shmemRead, shmemReadBy, hcopy]

/-! ## §4 Write, then read -/

/-- From `m` on, `shmem_write` of `sz` bytes from `msg` on leaves `m₁`, and
`shmem_read` into `buf` then leaves `m₂`, for a region at `shm`: the buffer
has the message and zeros, and only the data array and `HPSC_MSG_SIZE` bytes
of the buffer have changed. -/
structure RoundTrip (m m₁ m₂ : Mem) (shm msg sz buf bufSz : Nat) : Prop where
  write : shmemWrite m shm msg sz = some (m₁, sz)
  read : shmemRead m₁ shm buf bufSz = some (m₂, hpscMsgSize)
  message : ∀ k, k < hpscMsgSize → m₂ (buf + k) = if k < sz then m (msg + k) else 0#8
  region : ∀ x, x < shm ∨ shm + hpscMsgSize ≤ x → m₁ x = m x
  buffer : ∀ x, x < buf ∨ buf + hpscMsgSize ≤ x → m₂ x = m₁ x
  status : (regionAt m₁ shm).status = (regionAt m shm).status ∧
    (regionAt m₂ shm).status = (regionAt m shm).status

/-- **Write and read are inverse** up to the zeros behind the message, and
the copies they are made of are byte copies for every number of bytes. The
message keeps clear of the data array, and the buffer of the region. -/
theorem write_read_roundTrip (m : Mem) (shm msg sz buf bufSz : Nat) (hmsg : isAligned msg = true)
    (hsz : sz ≤ hpscMsgSize) (hbuf : isAligned buf = true) (hbufSz : hpscMsgSize ≤ bufSz)
    (hwrite : Apart msg sz shm hpscMsgSize)
    (hread : Apart shm hpscShmemRegionSz buf hpscMsgSize) :
    (∃ m₁ m₂, RoundTrip m m₁ m₂ shm msg sz buf bufSz) ∧
      ∀ (m : Mem) (dest src n : Nat), Apart src n dest n →
        vmemCpy m dest src n = byteCopy m dest src n ∧
          memVcpy m dest src n = byteCopy m dest src n := by
  have hregion : hpscShmemRegionSz = hpscMsgSize + 4 := rfl
  obtain ⟨m₁, hw, happly₁⟩ := shmemWrite_apply m shm msg sz hmsg hsz (by omega)
  obtain ⟨m₂, hr, happly₂⟩ := shmemRead_apply m₁ shm buf bufSz hbuf hbufSz (by omega)
  have hstatus₁ : (regionAt m₁ shm).status = (regionAt m shm).status :=
    regionAt_status_congr fun x hlow _ => by rw [happly₁, if_neg (by omega)]
  have hstatus₂ : (regionAt m₂ shm).status = (regionAt m₁ shm).status :=
    regionAt_status_congr fun x hlow hhigh => by rw [happly₂, if_neg (by omega)]
  refine ⟨⟨m₁, m₂, hw, hr, fun k hk => ?_, fun x hx => ?_, fun x hx => ?_,
    ⟨hstatus₁, hstatus₂.trans hstatus₁⟩⟩, copies_eq⟩
  · rw [happly₂, if_pos (by omega), Nat.add_sub_cancel_left, happly₁, if_pos (by omega),
      Nat.add_sub_cancel_left]
  · rw [happly₁, if_neg (by omega)]
  · rw [happly₂, if_neg (by omega)]

/-- Seven bytes at 0x100, the region at 0x1000, a buffer of 68 bytes at 0x200. -/
theorem seven_bytes_roundTrip :
    ∃ m₁ m₂, RoundTrip (fun a => BitVec.ofNat 8 a) m₁ m₂ 0x1000 0x100 7 0x200 68 :=
  (write_read_roundTrip (fun a => BitVec.ofNat 8 a) 0x1000 0x100 7 0x200 68 rfl (by decide) rfl
    (by decide) (by decide) (by decide)).1

end HpscRtems.Shmem.Bytes
