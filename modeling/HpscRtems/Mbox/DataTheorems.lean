/-
HpscRtems.Mbox.DataTheorems — the bytes of a message in the data registers,
for sizes that are not a multiple of the word size.

`hpsc_mbox_chan_write` and `hpsc_mbox_chan_read` round the size up to words.
A write then sends up to three bytes that follow the buffer, where
`shmem_write` sends zeros, and a read stores up to three bytes more than the
caller's buffer has, and says so in its return value.

`dataMem` is the byte view of `DATA`; `hpscMboxChanRead_apply` and
`write_dataMem` say which bytes the two functions move.
-/
import HpscRtems.Mbox.Channel
import HpscRtems.Mbox.ClaimTheorems
import HpscRtems.Shmem.Region

namespace HpscRtems.Mbox

open Machine Rtems

/-! ## §1 Sizes in words -/

theorem wordCount_le (sz : Nat) : sz ≤ 4 * wordCount sz := by
  unfold wordCount
  split <;> omega

theorem wordCount_lt (sz : Nat) : 4 * wordCount sz < sz + 4 := by
  unfold wordCount
  split <;> omega

/-- The size in words, as a size in bytes and cut to the registers. -/
def wordBytes (sz : Nat) : Nat := 4 * min (wordCount sz) dataRegs

/-- Rounding changes nothing for sizes of whole words and for large buffers. -/
theorem wordBytes_eq_iff (sz : Nat) :
    wordBytes sz = min sz hpscMboxDataSize ↔ 4 ∣ sz ∨ hpscMboxDataSize ≤ sz := by
  have hle := wordCount_le sz
  have hlt := wordCount_lt sz
  have hsize : hpscMboxDataSize = 4 * dataRegs := rfl
  unfold wordBytes
  omega

/-! ## §2 Bytes of the registers -/

/-- `DATA` as bytes. -/
def ChanBase.dataMem (b : ChanBase) : Mem := fun k =>
  if h : k / 4 < dataRegs then byteOf (b.data ⟨k / 4, h⟩) (k % 4) else 0#8

theorem dataMem_word (b : ChanBase) (i : Fin dataRegs) {k : Nat} (hk : k < 4) :
    b.dataMem (4 * i.val + k) = byteOf (b.data i) k := by
  have hq : (4 * i.val + k) / 4 = i.val := by omega
  have hr : (4 * i.val + k) % 4 = k := by omega
  simp only [ChanBase.dataMem, hq, hr, i.isLt, dif_pos]

/-- An address the loop of `hpsc_mbox_chan_read` does not come to. -/
theorem foldl_readWord_outside (b : ChanBase) (p sz : Nat) (mem : Mem) (l : List (Fin dataRegs))
    (a : Nat) (ha : a < p ∨ p + hpscMboxDataSize ≤ a) :
    l.foldl (readWord b p sz) mem a = mem a := by
  induction l generalizing mem with
  | nil => rfl
  | cons i l ih =>
    have hi := i.isLt
    have hsize : hpscMboxDataSize = 4 * dataRegs := rfl
    rw [List.foldl_cons, ih, readWord]
    split
    · rw [storeWord, if_neg (by omega)]
    · rfl

/-- **What a read stores**: the bytes of the registers, up to the end of the
last word it has begun. -/
theorem hpscMboxChanRead_apply (b : ChanBase) (mem : Mem) (p sz a : Nat) :
    (hpscMboxChanRead b mem p sz).1 a =
      if p ≤ a ∧ a < p + wordBytes sz then b.dataMem (a - p) else mem a := by
  have hsize : hpscMboxDataSize = 4 * dataRegs := rfl
  simp only [hpscMboxChanRead]
  by_cases hin : p ≤ a ∧ a < p + hpscMboxDataSize
  · obtain ⟨i, k, rfl, hk⟩ : ∃ i k, a = p + (4 * i + k) ∧ k < 4 :=
      ⟨(a - p) / 4, (a - p) % 4, by omega, by omega⟩
    have hi : i < dataRegs := by omega
    rw [foldl_readWord b p sz mem _ ⟨i, hi⟩ k hk, Nat.add_sub_cancel_left,
      dataMem_word b ⟨i, hi⟩ hk]
    by_cases hw : i < wordCount sz
    · rw [if_pos ⟨List.mem_finRange _, hw⟩, if_pos]
      unfold wordBytes
      omega
    · rw [if_neg fun h => hw h.2, if_neg]
      unfold wordBytes
      omega
  · rw [foldl_readWord_outside b p sz mem _ a (by omega), if_neg]
    unfold wordBytes
    omega

/-! ## §3 Reading into a buffer -/

/-- A read of `sz` bytes stores the first bytes of the registers, as many as
there are and the buffer has room for, and returns their number. -/
structure ReadsWithin (b : ChanBase) (mem : Mem) (p sz : Nat) : Prop where
  stored : ∀ k, k < min sz hpscMboxDataSize →
    (hpscMboxChanRead b mem p sz).1 (p + k) = b.dataMem k
  kept : ∀ a, a < p ∨ p + min sz hpscMboxDataSize ≤ a → (hpscMboxChanRead b mem p sz).1 a = mem a
  returned : (hpscMboxChanRead b mem p sz).2 = min sz hpscMboxDataSize

/-- **Where a read stays within its buffer**: for sizes of whole words, and
for buffers no smaller than the registers. -/
theorem readsWithin_iff (b : ChanBase) (mem : Mem) (p sz : Nat) :
    ReadsWithin b mem p sz ↔ 4 ∣ sz ∨ hpscMboxDataSize ≤ sz := by
  rw [← wordBytes_eq_iff]
  constructor
  · intro h
    exact h.returned
  · intro hsz
    refine ⟨fun k hk => ?_, fun a ha => ?_, hsz⟩
    · rw [hpscMboxChanRead_apply, hsz, if_pos (by omega), Nat.add_sub_cancel_left]
    · rw [hpscMboxChanRead_apply, hsz, if_neg (by omega)]

/-- A read of five bytes stores eight. -/
theorem read_beyond_buffer :
    ¬ ∀ (b : ChanBase) (mem : Mem) (p sz : Nat), ReadsWithin b mem p sz := by
  intro hall
  have h := (readsWithin_iff _ _ _ _).mp (hall ⟨0, 0, 0, fun _ => 0⟩ (fun _ => 0) 0 5)
  revert h
  decide

/-! ## §4 Writing a message -/

/-- `hpsc_mbox_chan_write` on channel `i` of a mailbox. -/
def Mailbox.chanWrite (s : Mailbox) (i : Fin channels) (buf : Mem) (sz : Nat) :
    Option (Mailbox × Nat) :=
  (hpscMboxChanWrite (s.block i) buf sz).map fun w => (s.setBlock i w.1, w.2)

/-- The bytes a write leaves in the registers: those of the buffer up to the
end of its last word, then zeros. -/
theorem write_dataMem {b b' : ChanBase} {buf : Mem} {sz n : Nat}
    (h : hpscMboxChanWrite b buf sz = some (b', n)) (k : Nat) (hk : k < hpscMboxDataSize) :
    b'.dataMem k = if k < 4 * wordCount sz then buf k else 0#8 := by
  have hsize : hpscMboxDataSize = 4 * dataRegs := rfl
  have hq : k / 4 < dataRegs := by omega
  simp only [ChanBase.dataMem, hq, dif_pos, (hpscMboxChanWrite_data h).1, dataWord]
  by_cases hw : k < 4 * wordCount sz
  · rw [if_pos (by omega), if_pos hw, byteOf_loadWord _ _ _ (by omega), Nat.div_add_mod]
  · rw [if_neg (by omega), if_neg hw, byteOf_zero]

theorem foldl_storeData_frame (b : ChanBase) (w : Fin dataRegs → Word) (l : List (Fin dataRegs)) :
    (l.foldl (fun b i => b.storeData i (w i)) b).config = b.config ∧
      (l.foldl (fun b i => b.storeData i (w i)) b).enable = b.enable := by
  induction l generalizing b with
  | nil => exact ⟨rfl, rfl⟩
  | cons i l ih => exact ih (b.storeData i (w i))

/-- Of a channel's registers a write changes `DATA` only. -/
theorem write_frame {b b' : ChanBase} {buf : Mem} {sz n : Nat}
    (h : hpscMboxChanWrite b buf sz = some (b', n)) :
    b'.config = b.config ∧ b'.event = b.event ∧ b'.enable = b.enable := by
  have hevent := (hpscMboxChanWrite_data h).2.1
  unfold hpscMboxChanWrite at h
  split at h
  · simp only [Option.some.injEq, Prod.mk.injEq] at h
    obtain ⟨rfl, rfl⟩ := h
    obtain ⟨hconfig, henable⟩ := foldl_storeData_frame b (dataWord buf sz) (List.finRange dataRegs)
    exact ⟨hconfig, hevent, henable⟩
  · cases h

/-- A write took the mailbox from `s` to `s'`, and the message of channel
`i` is now the `sz` bytes of `buf` and zeros, as `shmem_write` has it. The
other registers are what they were. -/
structure Sent (s s' : Mailbox) (i : Fin channels) (buf : Mem) (sz : Nat) : Prop where
  read : ∀ mem p k, k < hpscMboxDataSize →
    (hpscMboxChanRead (s'.block i) mem p hpscMboxDataSize).1 (p + k) =
      if k < sz then buf k else 0#8
  shmem : ∀ r r' n, Shmem.shmemWrite r buf 0 sz = some (r', n) → readMsg (s'.block i) = r'.data
  config : (s'.block i).config = (s.block i).config
  event : (s'.block i).event = (s.block i).event
  enable : (s'.block i).enable = (s.block i).enable
  mbox : s'.mbox = s.mbox
  others : ∀ addr, addr ≠ (s.chan i).base → s'.regs addr = s.regs addr

/-- `hpsc_mbox_chan_write` takes the message and sends nothing else. -/
def SendsMessage (s : Mailbox) (i : Fin channels) (buf : Mem) (sz : Nat) : Prop :=
  ∃ s', s.chanWrite i buf sz = some (s', sz) ∧ Sent s s' i buf sz

/-- A full read gives the bytes of the registers. -/
theorem fullRead_apply (b : ChanBase) (mem : Mem) (p k : Nat) (hk : k < hpscMboxDataSize) :
    (hpscMboxChanRead b mem p hpscMboxDataSize).1 (p + k) = b.dataMem k :=
  ((readsWithin_iff b mem p hpscMboxDataSize).mpr (Or.inr (Nat.le_refl _))).stored k
    (Nat.lt_of_lt_of_eq hk (Nat.min_self _).symm)

/-- The bytes between the end of the message and the next word boundary are
zeros. -/
def ZeroTail (buf : Mem) (sz : Nat) : Prop := ∀ k, sz ≤ k → k < 4 * wordCount sz → buf k = 0#8

theorem zeroTail_of_dvd {buf : Mem} {sz : Nat} (h : 4 ∣ sz) : ZeroTail buf sz := by
  intro k hlow hhigh
  have hsz := wordCount_of_dvd h
  omega

/-- The bytes that were written are the message's and zeros where the tail is zero. -/
theorem write_dataMem_of_zeroTail {b b' : ChanBase} {buf : Mem} {sz n : Nat}
    (h : hpscMboxChanWrite b buf sz = some (b', n)) (htail : ZeroTail buf sz) (k : Nat)
    (hk : k < hpscMboxDataSize) : b'.dataMem k = if k < sz then buf k else 0#8 := by
  have hle := wordCount_le sz
  rw [write_dataMem h k hk]
  by_cases hlow : k < sz
  · rw [if_pos hlow, if_pos (by omega)]
  · rw [if_neg hlow]
    by_cases hhigh : k < 4 * wordCount sz
    · rw [if_pos hhigh]
      exact htail k (by omega) hhigh
    · rw [if_neg hhigh]

/-- **Where a mailbox message is the sender's bytes and nothing else**: where
the bytes that follow the buffer in its last word are zeros. -/
theorem sendsMessage_iff (s : Mailbox) (i : Fin channels) (buf : Mem) (sz : Nat)
    (hsz : sz ≤ hpscMboxDataSize) : SendsMessage s i buf sz ↔ ZeroTail buf sz := by
  obtain ⟨b', hw⟩ : ∃ b', hpscMboxChanWrite (s.block i) buf sz = some (b', sz) :=
    ⟨_, if_pos hsz⟩
  have hwrite : s.chanWrite i buf sz = some (s.setBlock i b', sz) := by
    rw [Mailbox.chanWrite, hw]
    rfl
  constructor
  · rintro ⟨s', hs', hsent⟩ k hlow hhigh
    rw [hwrite] at hs'
    cases hs'
    have hk : k < hpscMboxDataSize := by
      have hlt := wordCount_lt sz
      have hsize : hpscMboxDataSize = 4 * dataRegs := rfl
      omega
    have hread := hsent.read (fun _ => 0#8) 0 k hk
    rw [fullRead_apply _ _ _ _ hk, Mailbox.block_setBlock, write_dataMem hw k hk, if_pos hhigh,
      if_neg (by omega)] at hread
    exact hread
  · intro htail
    have hdata := write_dataMem_of_zeroTail hw htail
    obtain ⟨hconfig, hevent, henable⟩ := write_frame hw
    refine ⟨_, hwrite, ?_, ?_, ?_, ?_, ?_, rfl, fun addr ha => s.regs_setBlock_of_ne i b' ha⟩
    · intro mem p k hk
      rw [fullRead_apply _ _ _ _ hk, Mailbox.block_setBlock, hdata k hk]
    · intro r r' n hr
      rw [Mailbox.block_setBlock, (Shmem.shmemWrite_zero_data hr).1]
      apply Msg.ofMem_congr
      intro k hk
      have hread := fullRead_apply b' Msg.zero.toMem 0 k hk
      rw [Nat.zero_add] at hread
      exact hread.trans (hdata k hk)
    · rw [Mailbox.block_setBlock, hconfig]
    · rw [Mailbox.block_setBlock, hevent]
    · rw [Mailbox.block_setBlock, henable]

/-- The sizes that go through whatever follows the buffer. -/
theorem sendsMessage_all_iff (s : Mailbox) (i : Fin channels) (sz : Nat)
    (hsz : sz ≤ hpscMboxDataSize) : (∀ buf, SendsMessage s i buf sz) ↔ 4 ∣ sz := by
  constructor
  · intro h
    have htail := (sendsMessage_iff s i (fun _ => 1#8) sz hsz).mp (h _)
    by_contra hdvd
    have hlt : sz < 4 * wordCount sz := by
      unfold wordCount
      rw [if_pos (by omega)]
      omega
    exact absurd (htail sz (Nat.le_refl _) hlt) (show ¬ (1#8 = 0#8) by decide)
  · intro h buf
    exact (sendsMessage_iff s i buf sz hsz).mpr (zeroTail_of_dvd h)

/-- Five bytes 0xff, zeros up to the end of the word, and 0xff again. -/
def fiveBytes : Mem := fun k => if k < 5 ∨ 8 ≤ k then 0xff#8 else 0#8

theorem sends_five : SendsMessage probed 0 fiveBytes 5 := by
  refine (sendsMessage_iff probed 0 fiveBytes 5 (by decide)).mpr fun k hlow hhigh => if_neg ?_
  have hwords : 4 * wordCount 5 = 8 := rfl
  omega

/-- A message of 19 bytes takes the one that follows it along. -/
theorem sends_byte_beyond :
    ¬ ∀ (s : Mailbox) (i : Fin channels) (buf : Mem) (sz : Nat), sz ≤ hpscMboxDataSize →
      SendsMessage s i buf sz := by
  intro hall
  have htail := (sendsMessage_iff probed 0 (fun _ => 0xff#8) 19 (by decide)).mp
    (hall _ _ _ _ (by decide))
  exact absurd (htail 19 (Nat.le_refl _) (by decide)) (by decide)

end HpscRtems.Mbox
