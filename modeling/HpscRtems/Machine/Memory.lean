/-
HpscRtems.Machine.Memory — byte memories, 32-bit words in them, and the
usual copy and fill loops.

A memory is a function from addresses to bytes; words are little-endian.
`copyLoop` moves whole words while at least one is left and then the
remaining bytes, and `copyLoop_apply` says what any such copy amounts to.
`moveLoop` does the same within one memory, where the two ranges have to be
apart.
-/
import Mathlib.Logic.Function.Basic

namespace HpscRtems.Machine

/-- Bytes by address. -/
abbrev Mem := Nat → BitVec 8

/-! ## §1 Words -/

/-- Byte `k` of a word. -/
def byteOf (w : BitVec 32) (k : Nat) : BitVec 8 := w.extractLsb' (8 * k) 8

def loadWord (m : Mem) (a : Nat) : BitVec 32 :=
  m (a + 3) ++ m (a + 2) ++ m (a + 1) ++ m a

def storeWord (m : Mem) (a : Nat) (w : BitVec 32) : Mem :=
  fun x => if a ≤ x ∧ x < a + 4 then byteOf w (x - a) else m x

/-- The bytes of a loaded word are the bytes it was loaded from. -/
theorem byteOf_loadWord (m : Mem) (a k : Nat) (hk : k < 4) :
    byteOf (loadWord m a) k = m (a + k) := by
  have h4 : k = 0 ∨ k = 1 ∨ k = 2 ∨ k = 3 := by omega
  unfold byteOf loadWord
  apply BitVec.eq_of_getLsbD_eq
  intro i hi
  simp only [BitVec.getLsbD_extractLsb', BitVec.getLsbD_append, hi, decide_true, Bool.true_and]
  rcases h4 with rfl | rfl | rfl | rfl
  · rw [if_pos (by omega)]
    congr 1
    omega
  · rw [if_neg (by omega), if_pos (by omega)]
    congr 1
    omega
  · rw [if_neg (by omega), if_neg (by omega), if_pos (by omega)]
    congr 1
    omega
  · rw [if_neg (by omega), if_neg (by omega), if_neg (by omega)]
    congr 1
    omega

theorem byteOf_zero (k : Nat) : byteOf 0#32 k = 0#8 := by
  ext i hi
  simp [byteOf]

/-! ## §2 Copy and fill -/

/-- `n` bytes from `s` on to `d` on, one by one. -/
def copyBytes (dest : Mem) (d : Nat) (src : Mem) (s : Nat) : Nat → Mem
  | 0 => dest
  | n + 1 => copyBytes (Function.update dest d (src s)) (d + 1) src (s + 1) n

/-- `n` bytes from `s` on to `d` on, by words as long as one is left. -/
def copyLoop (dest : Mem) (d : Nat) (src : Mem) (s : Nat) : Nat → Mem
  | n + 4 => copyLoop (storeWord dest d (loadWord src s)) (d + 4) src (s + 4) n
  | n => copyBytes dest d src s n

/-- `n` bytes from `d` on become `c`. -/
def fillLoop (dest : Mem) (d : Nat) (c : BitVec 8) : Nat → Mem
  | 0 => dest
  | n + 1 => fillLoop (Function.update dest d c) (d + 1) c n

theorem copyBytes_apply (dest : Mem) (d : Nat) (src : Mem) (s n x : Nat) :
    copyBytes dest d src s n x = if d ≤ x ∧ x < d + n then src (s + (x - d)) else dest x := by
  induction n generalizing dest d s with
  | zero =>
    rw [if_neg (by omega)]
    rfl
  | succ n ih =>
    rw [copyBytes, ih]
    by_cases hx : x = d
    · subst hx
      rw [if_neg (by omega), if_pos (by omega), Function.update_self, Nat.sub_self, Nat.add_zero]
    · rw [Function.update_of_ne hx]
      by_cases hin : d + 1 ≤ x ∧ x < d + 1 + n
      · rw [if_pos hin, if_pos (by omega)]
        congr 1
        omega
      · rw [if_neg hin, if_neg (by omega)]

/-- **A copy is a copy**, whatever mixture of words and bytes it is done in. -/
theorem copyLoop_apply (dest : Mem) (d : Nat) (src : Mem) (s n x : Nat) :
    copyLoop dest d src s n x = if d ≤ x ∧ x < d + n then src (s + (x - d)) else dest x := by
  induction n using Nat.strongRecOn generalizing dest d s with
  | ind n ih =>
    match n with
    | 0 => exact copyBytes_apply dest d src s 0 x
    | 1 => exact copyBytes_apply dest d src s 1 x
    | 2 => exact copyBytes_apply dest d src s 2 x
    | 3 => exact copyBytes_apply dest d src s 3 x
    | n + 4 =>
      rw [copyLoop, ih n (by omega)]
      by_cases hlow : x < d + 4
      · rw [if_neg (by omega)]
        unfold storeWord
        by_cases hd : d ≤ x
        · rw [if_pos ⟨hd, hlow⟩, if_pos (by omega), byteOf_loadWord _ _ _ (by omega)]
        · rw [if_neg (by omega), if_neg (by omega)]
      · by_cases hin : x < d + 4 + n
        · rw [if_pos (by omega), if_pos (by omega)]
          congr 1
          omega
        · rw [if_neg (by omega), if_neg (by omega)]
          unfold storeWord
          rw [if_neg (by omega)]

theorem fillLoop_apply (dest : Mem) (d : Nat) (c : BitVec 8) (n x : Nat) :
    fillLoop dest d c n x = if d ≤ x ∧ x < d + n then c else dest x := by
  induction n generalizing dest d with
  | zero =>
    rw [if_neg (by omega)]
    rfl
  | succ n ih =>
    rw [fillLoop, ih]
    by_cases hx : x = d
    · subst hx
      rw [if_neg (by omega), if_pos (by omega), Function.update_self]
    · rw [Function.update_of_ne hx]
      by_cases hin : d + 1 ≤ x ∧ x < d + 1 + n
      · rw [if_pos hin, if_pos (by omega)]
      · rw [if_neg hin, if_neg (by omega)]

/-! ## §3 Copies within one memory -/

/-- The `n` bytes from `a` on and the `k` bytes from `b` on do not overlap. -/
abbrev Apart (a n b k : Nat) : Prop := a + n ≤ b ∨ b + k ≤ a

/-- `n` bytes from `s` on to `d` on, as if all were read before any is written. -/
def byteCopy (m : Mem) (d s n : Nat) : Mem :=
  fun x => if d ≤ x ∧ x < d + n then m (s + (x - d)) else m x

/-- The loop over words: the memory, the two pointers and the count it leaves. -/
def moveWords (m : Mem) (d s : Nat) : Nat → Mem × Nat × Nat × Nat
  | n + 4 => moveWords (storeWord m d (loadWord m s)) (d + 4) (s + 4) n
  | n => (m, d, s, n)

/-- The loop over bytes. -/
def moveBytes (m : Mem) (d s : Nat) : Nat → Mem
  | 0 => m
  | n + 1 => moveBytes (Function.update m d (m s)) (d + 1) (s + 1) n

/-- `n` bytes from `s` on to `d` on, by words as long as one is left. -/
def moveLoop (m : Mem) (d s n : Nat) : Mem :=
  let (m, d, s, n) := moveWords m d s n
  moveBytes m d s n

@[simp] theorem byteCopy_zero (m : Mem) (d s : Nat) : byteCopy m d s 0 = m := by
  funext x
  exact if_neg (by omega)

/-- A copy in two steps is one copy. -/
theorem byteCopy_add (m : Mem) (d s k n : Nat) (h : Apart s (k + n) d (k + n)) :
    byteCopy (byteCopy m d s k) (d + k) (s + k) n = byteCopy m d s (k + n) := by
  funext x
  unfold byteCopy
  by_cases hlow : x < d + k
  · rw [if_neg (by omega)]
    by_cases hd : d ≤ x
    · rw [if_pos ⟨hd, hlow⟩, if_pos (by omega)]
    · rw [if_neg (by omega), if_neg (by omega)]
  · by_cases hin : x < d + k + n
    · rw [if_pos (by omega), if_neg (by omega), if_pos (by omega)]
      congr 1
      omega
    · rw [if_neg (by omega), if_neg (by omega), if_neg (by omega)]

/-- One word moved is four bytes copied. -/
theorem storeWord_loadWord (m : Mem) (d s : Nat) :
    storeWord m d (loadWord m s) = byteCopy m d s 4 := by
  funext x
  unfold storeWord byteCopy
  by_cases hx : d ≤ x ∧ x < d + 4
  · rw [if_pos hx, if_pos hx, byteOf_loadWord _ _ _ (by omega)]
  · rw [if_neg hx, if_neg hx]

theorem update_eq_byteCopy (m : Mem) (d s : Nat) :
    Function.update m d (m s) = byteCopy m d s 1 := by
  funext x
  unfold byteCopy
  by_cases hx : x = d
  · rw [hx, Function.update_self, if_pos (by omega), Nat.sub_self, Nat.add_zero]
  · rw [Function.update_of_ne hx, if_neg (by omega)]

/-- The word loop copies what it has counted off. -/
theorem moveWords_eq (m : Mem) (d s n : Nat) (h : Apart s n d n) :
    moveWords m d s n = (byteCopy m d s (n / 4 * 4), d + n / 4 * 4, s + n / 4 * 4, n % 4) := by
  induction n using Nat.strongRecOn generalizing m d s with
  | ind n ih =>
    match n with
    | 0 => simp [moveWords]
    | 1 => simp [moveWords]
    | 2 => simp [moveWords]
    | 3 => simp [moveWords]
    | n + 4 =>
      have hq : (n + 4) / 4 * 4 = 4 + n / 4 * 4 := by omega
      have hr : (n + 4) % 4 = n % 4 := by omega
      rw [moveWords, ih n (by omega) _ _ _ (by omega), storeWord_loadWord,
        byteCopy_add _ _ _ _ _ (by omega), hq, hr, Nat.add_assoc, Nat.add_assoc]

theorem moveBytes_eq (m : Mem) (d s n : Nat) (h : Apart s n d n) :
    moveBytes m d s n = byteCopy m d s n := by
  induction n generalizing m d s with
  | zero => exact (byteCopy_zero m d s).symm
  | succ n ih =>
    rw [moveBytes, ih _ _ _ (by omega), update_eq_byteCopy, byteCopy_add _ _ _ _ _ (by omega),
      Nat.add_comm 1 n]

/-- **A move is a copy**, for ranges that are apart. -/
theorem moveLoop_eq (m : Mem) (d s n : Nat) (h : Apart s n d n) :
    moveLoop m d s n = byteCopy m d s n := by
  have hn : n / 4 * 4 + n % 4 = n := by omega
  rw [moveLoop, moveWords_eq m d s n h]
  simp only
  rw [moveBytes_eq _ _ _ _ (by omega), byteCopy_add _ _ _ _ _ (by omega), hn]

end HpscRtems.Machine
