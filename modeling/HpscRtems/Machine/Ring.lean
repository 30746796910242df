/-
HpscRtems.Machine.Ring — ring buffers told apart by two indices only, over
any element type and any number of slots.

The convention is that of pre-increment rings: `head` is the slot written
last, `tail` the slot read last, and the pending elements lie in the slots
after `tail` up to and including `head`. One slot always stays free, so a
ring of `n` slots holds at most `n - 1` elements and `next head = tail`
says that it is full.

`window slots i k` lists the `k` elements after slot `i`; `contents` is the
window of `size` elements after `tail`. The three operations are the three
list operations on `contents`: `contents_push` appends, `contents_pop`
uncovers the oldest element, `contents_clear` empties.
-/
import Mathlib.Logic.Function.Basic
import Mathlib.Data.Fin.Basic
import Mathlib.Data.List.Basic

namespace HpscRtems.Machine

variable {α : Type*} {n : Nat}

/-! ## Positions -/

/-- The slot after `i`, wrapping at the end. -/
def next (i : Fin n) : Fin n :=
  ⟨(i.val + 1) % n, Nat.mod_lt _ (Nat.lt_of_le_of_lt (Nat.zero_le _) i.isLt)⟩

/-- The slot `k` places after `i`. -/
def advance (i : Fin n) : Nat → Fin n
  | 0 => i
  | k + 1 => advance (next i) k

theorem next_val (i : Fin n) : (next i).val = if i.val + 1 = n then 0 else i.val + 1 := by
  have hi := i.isLt
  simp only [next]
  split
  · rename_i h; rw [h, Nat.mod_self]
  · exact Nat.mod_eq_of_lt (by omega)

/-- Up to one full turn, `advance` wraps at most once. -/
theorem advance_val (i : Fin n) (k : Nat) (hk : k ≤ n) :
    (advance i k).val = if i.val + k < n then i.val + k else i.val + k - n := by
  induction k generalizing i with
  | zero =>
    have hi := i.isLt
    simp [advance, hi]
  | succ k ih =>
    have hi := i.isLt
    rw [advance, ih (next i) (by omega), next_val]
    split <;> split <;> split <;> omega

theorem advance_next (i : Fin n) (k : Nat) : advance (next i) k = next (advance i k) := by
  induction k generalizing i with
  | zero => rfl
  | succ k ih => exact ih (next i)

/-! ## Windows -/

/-- The `k` elements in the slots after `i`. -/
def window (slots : Fin n → α) (i : Fin n) : Nat → List α
  | 0 => []
  | k + 1 => slots (next i) :: window slots (next i) k

@[simp] theorem length_window (slots : Fin n → α) (i : Fin n) (k : Nat) :
    (window slots i k).length = k := by
  induction k generalizing i with
  | zero => rfl
  | succ k ih => simp [window, ih]

theorem window_snoc (slots : Fin n → α) (i : Fin n) (k : Nat) :
    window slots i (k + 1) = window slots i k ++ [slots (next (advance i k))] := by
  induction k generalizing i with
  | zero => rfl
  | succ k ih => rw [window, ih (next i)]; rfl

/-- Writing a slot outside the window leaves the window alone. -/
theorem window_update (slots : Fin n → α) (i j : Fin n) (x : α) (k : Nat)
    (h : ∀ m, m < k → advance i (m + 1) ≠ j) :
    window (Function.update slots j x) i k = window slots i k := by
  induction k generalizing i with
  | zero => rfl
  | succ k ih =>
    have hne : next i ≠ j := h 0 (Nat.succ_pos k)
    have hrest : ∀ m, m < k → advance (next i) (m + 1) ≠ j :=
      fun m hm => h (m + 1) (Nat.succ_lt_succ hm)
    simp only [window, Function.update_of_ne hne, ih (next i) hrest]

/-! ## Rings -/

structure Ring (α : Type*) (n : Nat) where
  slots : Fin n → α
  head : Fin n
  tail : Fin n

namespace Ring

/-- The distance from `tail` to `head` on a circle of `n` places. -/
def distance (n head tail : Nat) : Nat :=
  if tail ≤ head then head - tail else n - tail + head

/-- The number of pending elements, from the two indices alone. -/
def size (r : Ring α n) : Nat := distance n r.head.val r.tail.val

/-- The pending elements, oldest first. -/
def contents (r : Ring α n) : List α := window r.slots r.tail r.size

/-- Write `x` after the newest element. -/
def push (r : Ring α n) (x : α) : Ring α n :=
  { r with slots := Function.update r.slots (next r.head) x, head := next r.head }

/-- Step over the oldest element. -/
def pop (r : Ring α n) : Ring α n := { r with tail := next r.tail }

/-- The element `pop` steps over. -/
def front (r : Ring α n) : α := r.slots (next r.tail)

/-- Forget every pending element. -/
def clear (r : Ring α n) : Ring α n := { r with tail := r.head }

theorem size_lt (r : Ring α n) : r.size < n := by
  have hh := r.head.isLt
  have ht := r.tail.isLt
  simp only [size, distance]
  split <;> omega

@[simp] theorem length_contents (r : Ring α n) : r.contents.length = r.size := by
  simp [contents]

/-- `size` places after `tail` lies `head`. -/
theorem advance_tail (r : Ring α n) : advance r.tail r.size = r.head := by
  have hh := r.head.isLt
  have ht := r.tail.isLt
  have hs := r.size_lt
  apply Fin.ext
  rw [advance_val _ _ (Nat.le_of_lt hs)]
  simp only [size, distance] at hs ⊢
  split <;> split <;> omega

theorem size_eq_zero (r : Ring α n) : r.size = 0 ↔ r.head = r.tail := by
  have hh := r.head.isLt
  have ht := r.tail.isLt
  rw [Fin.ext_iff]
  simp only [size, distance]
  split <;> omega

/-- The ring is full exactly when the slot after `head` is `tail`. -/
theorem full_iff (r : Ring α n) : next r.head = r.tail ↔ r.size = n - 1 := by
  have hh := r.head.isLt
  have ht := r.tail.isLt
  rw [Fin.ext_iff, next_val]
  simp only [size, distance]
  split <;> split <;> omega

theorem size_push (r : Ring α n) (x : α) (h : next r.head ≠ r.tail) :
    (r.push x).size = r.size + 1 := by
  have hstep : ∀ h' h t : Nat, h < n → t < n → h' ≠ t →
      h' = (if h + 1 = n then 0 else h + 1) → distance n h' t = distance n h t + 1 := by
    intro h' h t hh ht hne hv
    simp only [distance]
    split at hv <;> split <;> split <;> omega
  exact hstep _ _ _ r.head.isLt r.tail.isLt (fun hv => h (Fin.ext hv)) (next_val r.head)

/-- **Push appends**, as long as the ring is not full. -/
theorem contents_push (r : Ring α n) (x : α) (h : next r.head ≠ r.tail) :
    (r.push x).contents = r.contents ++ [x] := by
  have hs := r.size_lt
  -- the slot written is none of those the pending elements lie in
  have hout : ∀ m, m < r.size → advance r.tail (m + 1) ≠ next r.head := by
    intro m hm heq
    have ht := r.tail.isLt
    rw [← r.advance_tail, ← advance_next] at heq
    have hv := congrArg Fin.val heq
    rw [show advance (next r.tail) r.size = advance r.tail (r.size + 1) from rfl,
      advance_val _ _ (by omega), advance_val _ _ (by omega)] at hv
    split at hv <;> split at hv <;> omega
  have hpush : (r.push x).contents
      = window (Function.update r.slots (next r.head) x) r.tail (r.size + 1) := by
    rw [contents, size_push r x h]
    rfl
  rw [hpush, window_snoc, window_update _ _ _ _ _ hout, r.advance_tail]
  simp [contents]

theorem size_pop (r : Ring α n) (h : r.head ≠ r.tail) : r.size = r.pop.size + 1 := by
  have hh := r.head.isLt
  have ht := r.tail.isLt
  rw [Ne, Fin.ext_iff] at h
  simp only [size, pop, distance, next_val]
  split <;> split <;> split <;> omega

/-- **Pop takes the oldest element**, as long as the ring is not empty. -/
theorem contents_pop (r : Ring α n) (h : r.head ≠ r.tail) :
    r.contents = r.front :: r.pop.contents := by
  rw [contents, size_pop r h, window]
  rfl

theorem contents_clear (r : Ring α n) : r.clear.contents = [] := by
  simp [contents, clear, size, distance, window]

theorem contents_eq_nil (r : Ring α n) : r.contents = [] ↔ r.head = r.tail := by
  rw [← List.length_eq_zero_iff, length_contents, size_eq_zero]

end Ring

end HpscRtems.Machine
