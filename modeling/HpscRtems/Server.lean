/-
HpscRtems.Server — the messages of a ping (`hpsc-msg.c`) and the command
handler that answers it (`server.c`).

Of `enum hpsc_msg_type` the types the handler tells apart are named; what
it does on the others it does on every other byte. A failed assertion is
`none`.
-/
import HpscRtems.Command.Flush

namespace HpscRtems.Server

open Machine Rtems Command

/-! ## §1 Messages -/

/-- `HPSC_MSG_PAYLOAD_OFFSET` -/
abbrev hpscMsgPayloadOffset : Nat := 4

/-- `HPSC_MSG_PAYLOAD_SIZE` -/
abbrev hpscMsgPayloadSize : Nat := hpscMsgSize - 4

inductive HpscMsgType where
  | nop
  | ping
  | pong
  deriving DecidableEq, Repr

/-- The value of the enumerator, as it is stored into a message. -/
def HpscMsgType.toByte : HpscMsgType → Byte
  | nop => 0
  | ping => 1
  | pong => 2

/-- `msg_fill`; `payload` is the memory from the payload on. -/
def msgFill (buf : Msg) (t : HpscMsgType) (payload : Option Mem) (psz : Nat) : Option Msg :=
  if psz ≤ hpscMsgPayloadSize then
    let buf : Msg := buf.set 0 t.toByte
    match payload with
    | some p => some (Msg.ofMem (copyBytes buf.toMem hpscMsgPayloadOffset p 0 psz))
    | none => some buf
  else none

/-- `hpsc_msg_ping` -/
def hpscMsgPing (buf : Msg) (sz : Nat) (payload : Option Mem) (psz : Nat) : Option Msg :=
  if sz = hpscMsgSize then msgFill buf .ping payload psz else none

/-- `hpsc_msg_pong` -/
def hpscMsgPong (buf : Msg) (sz : Nat) (payload : Option Mem) (psz : Nat) : Option Msg :=
  if sz = hpscMsgSize then msgFill buf .pong payload psz else none

/-! ## §2 The handler -/

/-- `server_process`: the return value, and the reply buffer. -/
def serverProcess (cmd : Cmd) (reply : Msg) (replySz : Nat) : Option (Int × Msg) :=
  if cmd.msg[0] = HpscMsgType.nop.toByte then some (0, reply)
  else if cmd.msg[0] = HpscMsgType.ping.toByte then
    (hpscMsgPong reply replySz (some fun i => cmd.msg.toMem (hpscMsgPayloadOffset + i))
      hpscMsgPayloadSize).map fun reply => (replySz, reply)
  else if cmd.msg[0] = HpscMsgType.pong.toByte then some (0, reply)
  else some (-1, reply)

/-- The bytes a handler stores that leaves the buffer as `reply`. -/
def storesOf (reply : Msg) : Stores := fun i => some (reply.get i)

@[simp] theorem storeReply_storesOf (m reply : Msg) : storeReply m (storesOf reply) = reply := by
  refine Vector.ext fun i hi => ?_
  simp only [storeReply, storesOf, Vector.getElem_ofFn, Option.getD_some]
  rfl

/-! ## §3 What the messages are -/

/-- The message of type `t` with `psz` bytes of payload, and zeros. -/
def Msg.typed (t : HpscMsgType) (payload : Mem) (psz : Nat) : Msg :=
  Msg.ofMem fun i =>
    if i = 0 then t.toByte
    else if hpscMsgPayloadOffset ≤ i ∧ i < hpscMsgPayloadOffset + psz then
      payload (i - hpscMsgPayloadOffset)
    else 0#8

theorem Msg.typed_getElem (t : HpscMsgType) (payload : Mem) (psz i : Nat) (hi : i < hpscMsgSize) :
    (Msg.typed t payload psz)[i] = if i = 0 then t.toByte
      else if hpscMsgPayloadOffset ≤ i ∧ i < hpscMsgPayloadOffset + psz then
        payload (i - hpscMsgPayloadOffset)
      else 0#8 := by
  rw [Msg.typed, Msg.getElem_ofMem]

/-- **Filling a zeroed buffer** gives the message. -/
theorem msgFill_zero (t : HpscMsgType) (payload : Mem) {psz : Nat}
    (hpsz : psz ≤ hpscMsgPayloadSize) :
    msgFill Msg.zero t (some payload) psz = some (Msg.typed t payload psz) := by
  have hoff : hpscMsgPayloadOffset = 4 := rfl
  rw [msgFill, if_pos hpsz]
  refine congrArg some (Msg.ofMem_congr fun i hi => ?_)
  rw [copyBytes_apply]
  by_cases hin : hpscMsgPayloadOffset ≤ i ∧ i < hpscMsgPayloadOffset + psz
  · rw [if_pos hin, if_neg (by omega), if_pos hin, Nat.zero_add]
  · rw [if_neg hin, Msg.toMem_eq _ _ hi]
    by_cases h0 : i = 0
    · subst h0
      simp
    · rw [if_neg h0, if_neg hin, Vector.getElem_set_ne _ _ (by omega)]
      simp [Msg.zero]

/-- A ping is answered by a pong with the same payload. -/
theorem serverProcess_ping (payload : Mem) {psz : Nat} (link : Ptr) :
    serverProcess ⟨Msg.typed .ping payload psz, link⟩ Msg.zero hpscMsgSize =
      some (((hpscMsgSize : Nat) : Int), Msg.typed .pong payload psz) := by
  have hsize : hpscMsgSize = hpscMsgPayloadOffset + hpscMsgPayloadSize := rfl
  have hzero : (Msg.typed .ping payload psz)[0] = HpscMsgType.ping.toByte := by
    rw [Msg.typed_getElem, if_pos rfl]
  rw [serverProcess, hzero, if_neg (by decide), if_pos rfl, hpscMsgPong, if_pos rfl,
    msgFill_zero _ _ (Nat.le_refl _)]
  simp only [Option.map_some, Option.some.injEq, Prod.mk.injEq, true_and]
  refine Msg.ofMem_congr fun i hi => ?_
  by_cases h0 : i = 0
  · rw [if_pos h0, if_pos h0]
  · rw [if_neg h0, if_neg h0]
    by_cases hin : hpscMsgPayloadOffset ≤ i
    · have hback : hpscMsgPayloadOffset + (i - hpscMsgPayloadOffset) = i := by omega
      rw [if_pos (by omega)]
      beta_reduce
      rw [hback, Msg.toMem_eq _ _ hi, Msg.typed_getElem, if_neg h0]
    · rw [if_neg (by omega), if_neg (by omega)]

end HpscRtems.Server
