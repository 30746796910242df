/-
HpscRtems.HpscMsg — the message format every link carries (`hpsc-msg.h`).

A message is `HPSC_MSG_SIZE` bytes: the type at offset 0, the payload from
`HPSC_MSG_PAYLOAD_OFFSET` on.
-/
import HpscRtems.Machine.Memory
import HpscRtems.Rtems

namespace HpscRtems

open Machine Rtems

/-- `HPSC_MSG_SIZE` -/
abbrev hpscMsgSize : Nat := 64

/-- `uint8_t msg[HPSC_MSG_SIZE]` -/
abbrev Msg := Vector Byte hpscMsgSize

/-- `HPSC_MSG_DEFINE`: a message of zeros. -/
def Msg.zero : Msg := Vector.replicate hpscMsgSize 0

/-- The message as memory from address 0 on. -/
def Msg.toMem (m : Msg) : Mem := fun i => m.toArray.getD i 0

/-- The message that stands in memory from address 0 on. -/
def Msg.ofMem (mem : Mem) : Msg := Vector.ofFn fun i => mem i.val

/-- The message that has the first `n` bytes of `buf`, then zeros. -/
def Msg.padded (buf : Mem) (n : Nat) : Msg :=
  Msg.ofMem fun i => if i < n then buf i else 0

@[simp] theorem Msg.getElem_ofMem (mem : Mem) (i : Nat) (hi : i < hpscMsgSize) :
    (Msg.ofMem mem)[i] = mem i := by
  simp [Msg.ofMem]

theorem Msg.toMem_eq (m : Msg) (i : Nat) (hi : i < hpscMsgSize) : m.toMem i = m[i] := by
  simp [Msg.toMem, Array.getD, hi]

/-- Messages agree when the memory they come from does. -/
theorem Msg.ofMem_congr {mem mem' : Mem} (h : ∀ i, i < hpscMsgSize → mem i = mem' i) :
    Msg.ofMem mem = Msg.ofMem mem' := by
  ext i hi
  simp [h i hi]

@[simp] theorem Msg.ofMem_toMem (m : Msg) : Msg.ofMem m.toMem = m := by
  ext i hi
  rw [Msg.getElem_ofMem, Msg.toMem_eq m i hi]

/-- The message as memory from address `p` on. -/
def Msg.placed (m : Msg) (p : Nat) : Mem := fun a => m.toMem (a - p)

@[simp] theorem Msg.ofMem_placed (m : Msg) (p : Nat) :
    Msg.ofMem (fun i => m.placed p (p + i)) = m := by
  simp only [Msg.placed, Nat.add_sub_cancel_left]
  exact Msg.ofMem_toMem m

/-- The memory from a message buffer on. -/
def bufMem (buf : List Byte) : Mem := fun i => buf.getD i 0

end HpscRtems
