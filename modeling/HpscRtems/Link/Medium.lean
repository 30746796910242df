/-
HpscRtems.Link.Medium — what two ends of a link share, one direction.

`shmem.c` and the data and event part of `hpsc-mbox.c` offer the same
things under different names: room for one message, an indication that it
is new (NEW, event A) and one that it has been read (ACK, event B). A
`Medium` is such a place with its accessors, and the laws say that they do
not disturb each other.
-/
import HpscRtems.HpscMsg

namespace HpscRtems.Link

open Machine Rtems

/-- A one-way channel with states `ρ`. -/
structure Medium (ρ : Type) where
  /-- The data part of `link->write`; `none` when an assertion fails. -/
  write : ρ → Mem → Nat → Option ρ
  /-- The data part of `link->read`, into a buffer of `HPSC_MSG_SIZE` bytes. -/
  read : ρ → Msg
  isNew : ρ → Bool
  isAck : ρ → Bool
  setNew : ρ → Bool → ρ
  setAck : ρ → Bool → ρ
  /-- The message a write of `sz` bytes leaves to be read. -/
  msg : Mem → Nat → Msg
  read_write : ∀ {r r' buf sz}, write r buf sz = some r' → read r' = msg buf sz
  isNew_write : ∀ {r r' buf sz}, write r buf sz = some r' → isNew r' = isNew r
  isAck_write : ∀ {r r' buf sz}, write r buf sz = some r' → isAck r' = isAck r
  read_setNew : ∀ r v, read (setNew r v) = read r
  isNew_setNew : ∀ r v, isNew (setNew r v) = v
  isAck_setNew : ∀ r v, isAck (setNew r v) = isAck r
  read_setAck : ∀ r v, read (setAck r v) = read r
  isNew_setAck : ∀ r v, isNew (setAck r v) = isNew r
  isAck_setAck : ∀ r v, isAck (setAck r v) = v

attribute [simp] Medium.read_setNew Medium.isNew_setNew Medium.isAck_setNew Medium.read_setAck
  Medium.isNew_setAck Medium.isAck_setAck

end HpscRtems.Link
