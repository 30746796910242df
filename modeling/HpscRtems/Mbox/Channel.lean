/-
HpscRtems.Mbox.Channel — data and events of a mailbox channel
(`hpsc-mbox.c`).

The functions work on the register block the channel's `base` points to.
A message is sixteen words; a write stores the words of the buffer and
zeros the rest, and a read copies words back. `eventSet` and `eventClear`
are the writes to EVENT_STATUS_SET and EVENT_STATUS_CLEAR, which change the
given bits only.
-/
import Mathlib.Order.Fin.Basic
import HpscRtems.Link.Medium
import HpscRtems.Mbox.Driver

namespace HpscRtems.Mbox

open Machine Rtems

/-! ## §1 Data -/

/-- `HPSC_MBOX_DATA_SIZE` -/
abbrev hpscMboxDataSize : Nat := 4 * dataRegs

/-- `len` of both loops: `sz` in words, rounded up. -/
def wordCount (sz : Nat) : Nat := sz / 4 + if sz % 4 ≠ 0 then 1 else 0

/-- What the two loops of `hpsc_mbox_chan_write` store into `DATA[i]`. -/
def dataWord (buf : Mem) (sz : Nat) (i : Fin dataRegs) : Word :=
  if i.val < wordCount sz then loadWord buf (4 * i.val) else 0#32

/-- `chan->base->DATA[i] = w` -/
def ChanBase.storeData (b : ChanBase) (i : Fin dataRegs) (w : Word) : ChanBase :=
  { b with data := Function.update b.data i w }

/-- `hpsc_mbox_chan_write`: the registers and the return value. -/
def hpscMboxChanWrite (b : ChanBase) (buf : Mem) (sz : Nat) : Option (ChanBase × Nat) :=
  if sz ≤ hpscMboxDataSize then
    some ((List.finRange dataRegs).foldl (fun b i => b.storeData i (dataWord buf sz i)) b, sz)
  else none

/-- One turn of the loop of `hpsc_mbox_chan_read`: `msg[i] = DATA[i]`. -/
def readWord (b : ChanBase) (p sz : Nat) (mem : Mem) (i : Fin dataRegs) : Mem :=
  if i.val < wordCount sz then storeWord mem (p + 4 * i.val) (b.data i) else mem

/-- `hpsc_mbox_chan_read` into the memory at `p`: the memory and the return
value. -/
def hpscMboxChanRead (b : ChanBase) (mem : Mem) (p sz : Nat) : Mem × Nat :=
  ((List.finRange dataRegs).foldl (readWord b p sz) mem, 4 * min (wordCount sz) dataRegs)

/-- The message `hpsc_mbox_chan_read` puts into a buffer of
`HPSC_MSG_SIZE` bytes. -/
def readMsg (b : ChanBase) : Msg :=
  Msg.ofMem (hpscMboxChanRead b Msg.zero.toMem 0 hpscMsgSize).1

/-! ## §2 Events -/

def ChanBase.eventSet (b : ChanBase) (ev : Word) : ChanBase := { b with event := b.event ||| ev }

def ChanBase.eventClear (b : ChanBase) (ev : Word) : ChanBase :=
  { b with event := b.event &&& ~~~ev }

/-- `hpsc_mbox_chan_event_set_rcv` -/
def hpscMboxChanEventSetRcv (b : ChanBase) : ChanBase := b.eventSet eventA

/-- `hpsc_mbox_chan_event_set_ack` -/
def hpscMboxChanEventSetAck (b : ChanBase) : ChanBase := b.eventSet eventB

/-- `hpsc_mbox_chan_event_clear_rcv` -/
def hpscMboxChanEventClearRcv (b : ChanBase) : ChanBase := b.eventClear eventA

/-- `hpsc_mbox_chan_event_clear_ack` -/
def hpscMboxChanEventClearAck (b : ChanBase) : ChanBase := b.eventClear eventB

/-! ## §3 What a write leaves to be read -/

theorem foldl_storeData (b : ChanBase) (w : Fin dataRegs → Word) (l : List (Fin dataRegs)) :
    (l.foldl (fun b i => b.storeData i (w i)) b).event = b.event ∧
      ∀ i, (l.foldl (fun b i => b.storeData i (w i)) b).data i =
        if i ∈ l then w i else b.data i := by
  induction l generalizing b with
  | nil => simp
  | cons j l ih =>
    obtain ⟨he, hd⟩ := ih (b.storeData j (w j))
    refine ⟨he, fun i => ?_⟩
    rw [List.foldl_cons, hd]
    by_cases hl : i ∈ l
    · rw [if_pos hl, if_pos (List.mem_cons_of_mem j hl)]
    · by_cases hj : i = j
      · subst hj
        simp [hl, ChanBase.storeData]
      · simp [hl, hj, ChanBase.storeData]

/-- After a write `DATA` holds the words of the message. -/
theorem hpscMboxChanWrite_data {b b' : ChanBase} {buf : Mem} {sz n : Nat}
    (h : hpscMboxChanWrite b buf sz = some (b', n)) :
    b'.data = dataWord buf sz ∧ b'.event = b.event ∧ n = sz := by
  unfold hpscMboxChanWrite at h
  split at h
  · simp only [Option.some.injEq, Prod.mk.injEq] at h
    obtain ⟨rfl, rfl⟩ := h
    obtain ⟨he, hd⟩ := foldl_storeData b (dataWord buf sz) (List.finRange dataRegs)
    refine ⟨?_, he, rfl⟩
    funext i
    rw [hd, if_pos (List.mem_finRange i)]
  · cases h

theorem foldl_readWord (b : ChanBase) (p sz : Nat) (mem : Mem) (l : List (Fin dataRegs))
    (i : Fin dataRegs) (k : Nat) (hk : k < 4) :
    l.foldl (readWord b p sz) mem (p + (4 * i.val + k)) =
      if i ∈ l ∧ i.val < wordCount sz then byteOf (b.data i) k else mem (p + (4 * i.val + k)) := by
  induction l generalizing mem with
  | nil => simp
  | cons j l ih =>
    rw [List.foldl_cons, ih]
    by_cases hl : i ∈ l ∧ i.val < wordCount sz
    · rw [if_pos hl, if_pos ⟨List.mem_cons_of_mem j hl.1, hl.2⟩]
    · rw [if_neg hl]
      unfold readWord
      by_cases hj : i = j
      · subst hj
        by_cases hw : i.val < wordCount sz
        · rw [if_pos hw, if_pos ⟨List.mem_cons_self, hw⟩, storeWord, if_pos (by omega)]
          congr 1
          omega
        · rw [if_neg hw, if_neg (fun h => hw h.2)]
      · have hne : i.val ≠ j.val := fun h => hj (Fin.ext h)
        have hmem : ¬ (i ∈ j :: l ∧ i.val < wordCount sz) := by
          intro hk
          obtain ⟨h, hw⟩ := hk
          rcases List.mem_cons.mp h with h | h
          · exact hj h
          · exact hl ⟨h, hw⟩
        rw [if_neg hmem]
        split
        · rw [storeWord, if_neg (by omega)]
        · rfl

/-- The bytes of a message are those of the registers. -/
theorem readMsg_getElem (b : ChanBase) (i : Fin dataRegs) (k : Nat) (hk : k < 4)
    (hi : 4 * i.val + k < hpscMsgSize) : (readMsg b)[4 * i.val + k] = byteOf (b.data i) k := by
  have h := foldl_readWord b 0 hpscMsgSize Msg.zero.toMem (List.finRange dataRegs) i k hk
  have hw : i.val < wordCount hpscMsgSize := Nat.lt_of_lt_of_eq i.isLt (by decide)
  rw [if_pos ⟨List.mem_finRange i, hw⟩, Nat.zero_add] at h
  simpa [readMsg, hpscMboxChanRead] using h

/-- **A written message is read back**, padded with zeros from the word the
size ends in. -/
theorem readMsg_of_data {b : ChanBase} {buf : Mem} {sz : Nat} (h : b.data = dataWord buf sz) :
    readMsg b = Msg.padded buf (4 * wordCount sz) := by
  apply Vector.ext
  intro j hj
  obtain ⟨i, k, rfl, hk⟩ : ∃ i k, j = 4 * i + k ∧ k < 4 := ⟨j / 4, j % 4, by omega, by omega⟩
  have hi : i < dataRegs := by
    simp only [hpscMsgSize] at hj
    simp only [dataRegs]
    omega
  rw [readMsg_getElem b ⟨i, hi⟩ k hk hj, h, Msg.padded, Msg.getElem_ofMem, dataWord]
  by_cases hw : i < wordCount sz
  · rw [if_pos hw, if_pos (by omega), byteOf_loadWord _ _ _ hk]
  · rw [if_neg hw, if_neg (by omega)]
    exact byteOf_zero k

/-- A message of whole words is padded from its end on. -/
theorem wordCount_of_dvd {sz : Nat} (h : 4 ∣ sz) : 4 * wordCount sz = sz := by
  unfold wordCount
  rw [if_neg (by omega)]
  omega

/-! ## §4 The channel as a medium -/

/-- A channel is a medium: event A says that the message is new, event B
that it has been read. -/
def mboxMedium : Link.Medium ChanBase where
  write b buf sz := (hpscMboxChanWrite b buf sz).map (·.1)
  read := readMsg
  isNew b := hasEvent b.event eventA
  isAck b := hasEvent b.event eventB
  setNew b v := if v then hpscMboxChanEventSetRcv b else hpscMboxChanEventClearRcv b
  setAck b v := if v then hpscMboxChanEventSetAck b else hpscMboxChanEventClearAck b
  msg buf sz := Msg.padded buf (4 * wordCount sz)
  read_write h := by
    obtain ⟨⟨_, _⟩, hw, rfl⟩ := Option.map_eq_some_iff.mp h
    exact readMsg_of_data (hpscMboxChanWrite_data hw).1
  isNew_write h := by
    obtain ⟨⟨_, _⟩, hw, rfl⟩ := Option.map_eq_some_iff.mp h
    simp only [(hpscMboxChanWrite_data hw).2.1]
  isAck_write h := by
    obtain ⟨⟨_, _⟩, hw, rfl⟩ := Option.map_eq_some_iff.mp h
    simp only [(hpscMboxChanWrite_data hw).2.1]
  read_setNew b v := by cases v <;> rfl
  isNew_setNew b v := by
    cases v
    · exact hasEvent_clear b.event eventA
    · exact hasEvent_set b.event eventA (by decide)
  isAck_setNew b v := by
    cases v
    · exact (hasEvent_other (by decide)).2
    · exact (hasEvent_other (by decide)).1
  read_setAck b v := by cases v <;> rfl
  isNew_setAck b v := by
    cases v
    · exact (hasEvent_other (by decide)).2
    · exact (hasEvent_other (by decide)).1
  isAck_setAck b v := by
    cases v
    · exact hasEvent_clear b.event eventB
    · exact hasEvent_set b.event eventB (by decide)

end HpscRtems.Mbox
