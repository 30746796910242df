/-
HpscRtems.Gic — the trigger mode of an interrupt vector (`gic.c`).

The mode of a vector is one bit of one of three kinds of register: those of
the redistributor for the vectors below 16 and from 16 to 31, and the array
of the distributor for the others. `gic_trigger_set` reads the register,
changes the bit and stores the register, so the question is what happens to
the other fifteen vectors that share it.

The registers are those of the BSP headers; that they do not overlap is the
type `GicReg`. Shifts are on 32-bit words.
-/
import Mathlib.Logic.Function.Basic
import Mathlib.Tactic.SplitIfs

namespace HpscRtems.Gic

/-! ## §1 Registers -/

/-- The configuration registers: two of the redistributor (`gic_sgi_ppi`),
the others of the distributor (`gic_dist`). -/
inductive GicReg where
  | icspicfgr0
  | icspicfgr1
  | icdicfr (i : Fin 64)
  deriving DecidableEq, Repr

abbrev GicRegs := GicReg → BitVec 32

/-- An interrupt vector of the controller. -/
abbrev RtemsVectorNumber := Fin 1020

/-- `gic_trigger_mode` -/
inductive GicTriggerMode where
  | levelTriggered
  | edgeTriggered
  deriving DecidableEq, Repr

/-- The value of the enumerator. -/
def GicTriggerMode.toWord : GicTriggerMode → BitVec 32
  | levelTriggered => 0#32
  | edgeTriggered => 1#32

/-- The cast of a word, of which only 0 and 1 are enumerators. -/
def GicTriggerMode.ofWord (w : BitVec 32) : GicTriggerMode :=
  if w = 0#32 then levelTriggered else edgeTriggered

/-! ## §2 `gic.c` -/

/-- `GIC_TRIGGER_BIT` -/
def gicTriggerBit (vec : RtemsVectorNumber) : Nat := 2 * (vec.val % 16) + 1

def toRegPtr (vector : RtemsVectorNumber) : GicReg :=
  if vector.val < 16 then .icspicfgr0
  else if vector.val < 32 then .icspicfgr1
  else .icdicfr ⟨vector.val / 16, by omega⟩

def gicTriggerGet (r : GicRegs) (vector : RtemsVectorNumber) : GicTriggerMode :=
  let bit := gicTriggerBit vector
  let value := r (toRegPtr vector)
  .ofWord ((value >>> bit) &&& 1#32)

def gicTriggerSet (r : GicRegs) (vector : RtemsVectorNumber) (condition : GicTriggerMode) :
    GicRegs :=
  let bit := gicTriggerBit vector
  let mask := 1#32 <<< bit
  let bitValue := condition.toWord <<< bit
  let reg := toRegPtr vector
  let value := r reg
  let value := value &&& ~~~mask
  let value := value ||| bitValue
  Function.update r reg value

/-! ## §3 Where the bit of a vector is -/

theorem gicTriggerBit_lt (v : RtemsVectorNumber) : gicTriggerBit v < 32 := by
  unfold gicTriggerBit
  omega

/-- The register is the quotient by 16, whichever bank holds it. -/
theorem toRegPtr_eq_iff (v w : RtemsVectorNumber) :
    toRegPtr w = toRegPtr v ↔ w.val / 16 = v.val / 16 := by
  unfold toRegPtr
  split_ifs <;> simp only [GicReg.icdicfr.injEq, Fin.mk.injEq, true_iff, false_iff] <;> omega

/-- No two vectors share a bit. -/
theorem eq_of_same_bit {v w : RtemsVectorNumber} (hr : toRegPtr w = toRegPtr v)
    (hb : gicTriggerBit w = gicTriggerBit v) : w = v := by
  have hquot := (toRegPtr_eq_iff v w).1 hr
  unfold gicTriggerBit at hb
  apply Fin.ext
  omega

/-! ## §4 One bit of a word -/

theorem toWord_shiftLeft_getLsbD (m : GicTriggerMode) (b i : Nat) (hi : i < 32) :
    (m.toWord <<< b).getLsbD i = decide (i = b ∧ m = .edgeTriggered) := by
  cases m with
  | levelTriggered => simp [GicTriggerMode.toWord]
  | edgeTriggered =>
    simp only [GicTriggerMode.toWord, BitVec.getLsbD_shiftLeft, hi, decide_true, Bool.true_and,
      BitVec.getLsbD_one, and_true]
    by_cases h : i < b
    · simp [h, show i ≠ b by omega]
    · by_cases heq : i = b
      · simp [heq]
      · simp [h, heq, show i - b ≠ 0 by omega]

/-- What is read of a word at `b` is its bit `b`. -/
theorem ofWord_bit (w : BitVec 32) (b : Nat) :
    GicTriggerMode.ofWord ((w >>> b) &&& 1#32)
      = if w.getLsbD b then .edgeTriggered else .levelTriggered := by
  have hand : (w >>> b) &&& 1#32 = if w.getLsbD b then 1#32 else 0#32 := by
    apply BitVec.eq_of_getLsbD_eq
    intro i hi
    by_cases h0 : i = 0
    · subst h0
      cases hw : w.getLsbD b <;> simp [hw]
    · cases hw : w.getLsbD b <;> simp [h0]
  rw [hand]
  cases w.getLsbD b <;> rfl

/-- The registers after a set, bit by bit: the mode at the bit of the vector
and what was there everywhere else. -/
theorem gicTriggerSet_getLsbD (r : GicRegs) (v : RtemsVectorNumber) (m : GicTriggerMode)
    (reg : GicReg) (i : Nat) (hi : i < 32) :
    (gicTriggerSet r v m reg).getLsbD i
      = if reg = toRegPtr v ∧ i = gicTriggerBit v then decide (m = .edgeTriggered)
        else (r reg).getLsbD i := by
  unfold gicTriggerSet
  by_cases hreg : reg = toRegPtr v
  · subst hreg
    simp only [Function.update_self, BitVec.getLsbD_or, BitVec.getLsbD_and, BitVec.getLsbD_not,
      hi, decide_true, Bool.true_and, true_and]
    have hmask : (1#32 <<< gicTriggerBit v).getLsbD i = decide (i = gicTriggerBit v) := by
      simpa [GicTriggerMode.toWord] using toWord_shiftLeft_getLsbD .edgeTriggered _ i hi
    rw [hmask, toWord_shiftLeft_getLsbD m _ i hi]
    by_cases hb : i = gicTriggerBit v <;> simp [hb]
  · simp [hreg]

theorem gicTriggerGet_eq (r : GicRegs) (v : RtemsVectorNumber) :
    gicTriggerGet r v = if (r (toRegPtr v)).getLsbD (gicTriggerBit v) then .edgeTriggered
      else .levelTriggered :=
  ofWord_bit _ _

/-! ## §5 Independence -/

/-- **Trigger modes are independent**: after a set, the vector has the mode
that was asked for, every other vector the mode it had, and no bit of any
register other than the vector's own has changed. -/
theorem trigger_modes_independent (r : GicRegs) (v : RtemsVectorNumber) (m : GicTriggerMode) :
    gicTriggerGet (gicTriggerSet r v m) v = m ∧
      (∀ w, w ≠ v → gicTriggerGet (gicTriggerSet r v m) w = gicTriggerGet r w) ∧
      ∀ reg i, ¬(reg = toRegPtr v ∧ i = gicTriggerBit v) →
        (gicTriggerSet r v m reg).getLsbD i = (r reg).getLsbD i := by
  refine ⟨?_, ?_, ?_⟩
  · rw [gicTriggerGet_eq, gicTriggerSet_getLsbD _ _ _ _ _ (gicTriggerBit_lt v)]
    cases m <;> simp
  · intro w hne
    have hother : ¬(toRegPtr w = toRegPtr v ∧ gicTriggerBit w = gicTriggerBit v) :=
      fun h => hne (eq_of_same_bit h.1 h.2)
    rw [gicTriggerGet_eq, gicTriggerSet_getLsbD _ _ _ _ _ (gicTriggerBit_lt w), if_neg hother,
      gicTriggerGet_eq]
  · intro reg i hother
    by_cases hi : i < 32
    · rw [gicTriggerSet_getLsbD _ _ _ _ _ hi, if_neg hother]
    · rw [BitVec.getLsbD_of_ge _ _ (by omega), BitVec.getLsbD_of_ge _ _ (by omega)]

end HpscRtems.Gic
