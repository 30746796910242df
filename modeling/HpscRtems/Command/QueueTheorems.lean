/-
HpscRtems.Command.QueueTheorems — the command queue against the bounded
FIFO it is meant to be.

`Cmdq.ring` reads the C structure as a ring buffer, and the list a queue
stands for is the ring's `contents`. Dequeue and drop are the list
operations in every state. Enqueue is not: its test for a full queue,
`cmdq.head + 1 % CMDQ_LEN == cmdq.tail`, leaves out the parentheses around
`head + 1`, so it compares `head + 1` itself with `tail` and cannot see a
full queue whose `head` is the last slot (`full_test_iff`). There the
command is taken, `head` runs into `tail`, and the queue reads as empty:
`CMDQ_LEN` commands are lost at once.

`cmdq_fifo_iff` says that this is the only thing that goes wrong: a run
agrees with the abstract queue exactly when none of its enqueues meets
`head = CMDQ_LEN - 1` and `tail = 0`.
-/
import HpscRtems.Command.Queue

namespace HpscRtems.Command

open Rtems Machine

/-! ## The queue as a ring -/

/-- `struct cmdq` read as a ring buffer. -/
def Cmdq.ring (cmdq : Cmdq) : Ring CmdqItem cmdqLen := ⟨cmdq.q, cmdq.head, cmdq.tail⟩

/-- The pending commands, oldest first. -/
def Cmdq.pending (cmdq : Cmdq) : List CmdqItem := cmdq.ring.contents

/-- The state in which the C code cannot tell that the queue is full. -/
def Cmdq.fullAtEnd (cmdq : Cmdq) : Prop :=
  cmdq.head.val = cmdqLen - 1 ∧ cmdq.tail.val = 0

instance (cmdq : Cmdq) : Decidable cmdq.fullAtEnd := by
  unfold Cmdq.fullAtEnd
  infer_instance

theorem cmdqSizeUnsafe_eq (cmdq : Cmdq) : cmdqSizeUnsafe cmdq = cmdq.pending.length := by
  rw [Cmdq.pending, Ring.length_contents]
  rfl

/-- The test the C code makes is the test for a full ring, except in the
one state where the ring is full and `head` is the last slot. -/
theorem full_test_iff (cmdq : Cmdq) :
    cmdq.head.val + 1 % cmdqLen = cmdq.tail.val ↔
      next cmdq.head = cmdq.tail ∧ ¬ cmdq.fullAtEnd := by
  have hh := cmdq.head.isLt
  have ht := cmdq.tail.isLt
  have hlen : cmdqLen = 4 := rfl
  rw [show 1 % cmdqLen = 1 from rfl, Fin.ext_iff, next_val]
  simp only [Cmdq.fullAtEnd]
  split <;> omega

theorem length_pending_iff (cmdq : Cmdq) :
    cmdq.pending.length = cmdqLen - 1 ↔ next cmdq.head = cmdq.tail := by
  rw [Cmdq.pending, Ring.length_contents, ← Ring.full_iff]
  rfl

theorem fullAtEnd_full {cmdq : Cmdq} (h : cmdq.fullAtEnd) : next cmdq.head = cmdq.tail := by
  rw [Fin.ext_iff, next_val, h.1, h.2]
  rfl

/-! ## One operation -/

/-- A refused enqueue changes nothing. -/
theorem cmdEnqueueCbUnsafe_refused {cmdq : Cmdq} (cmd : Cmd) (cb cbArg : Ptr)
    (h : next cmdq.head = cmdq.tail) (hend : ¬ cmdq.fullAtEnd) :
    cmdEnqueueCbUnsafe cmdq cmd cb cbArg = (cmdq, 1) :=
  if_pos ((full_test_iff cmdq).mpr ⟨h, hend⟩)

/-- An enqueue the test lets through returns 0. -/
theorem cmdEnqueueCbUnsafe_taken {cmdq : Cmdq} (cmd : Cmd) (cb cbArg : Ptr)
    (h : next cmdq.head ≠ cmdq.tail ∨ cmdq.fullAtEnd) :
    (cmdEnqueueCbUnsafe cmdq cmd cb cbArg).2 = 0 := by
  have htest : ¬ (cmdq.head.val + 1 % cmdqLen = cmdq.tail.val) := by
    rw [full_test_iff]
    intro hk
    obtain ⟨hfull, hend⟩ := hk
    rcases h with h | h
    · exact h hfull
    · exact hend h
  simp only [cmdEnqueueCbUnsafe, if_neg htest]

/-- An enqueue into a queue that is not full appends the command. -/
theorem cmdEnqueueCbUnsafe_pending {cmdq : Cmdq} (cmd : Cmd) (cb cbArg : Ptr)
    (h : next cmdq.head ≠ cmdq.tail) :
    (cmdEnqueueCbUnsafe cmdq cmd cb cbArg).1.pending = cmdq.pending ++ [⟨cmd, ⟨cb, cbArg⟩⟩] := by
  have htest : ¬ (cmdq.head.val + 1 % cmdqLen = cmdq.tail.val) := fun ht =>
    h ((full_test_iff cmdq).mp ht).1
  simp only [cmdEnqueueCbUnsafe, if_neg htest]
  exact Ring.contents_push cmdq.ring _ h

/-- `cmd_enqueue_cb` leaves the queue as its critical section does. -/
theorem cmdEnqueueCb_queue (cmdq : Cmdq) (tid : RtemsId) (sc : StatusCode) (cmd : Cmd)
    (cb cbArg : Ptr) :
    (cmdEnqueueCb cmdq tid sc cmd cb cbArg).1 = (cmdEnqueueCbUnsafe cmdq cmd cb cbArg).1 := by
  simp only [cmdEnqueueCb]
  split <;> rfl

theorem cmdEnqueueCb_rc (cmdq : Cmdq) (tid : RtemsId) (sc : StatusCode) (cmd : Cmd)
    (cb cbArg : Ptr) :
    (cmdEnqueueCb cmdq tid sc cmd cb cbArg).2
      = enqueueRc ((cmdEnqueueCbUnsafe cmdq cmd cb cbArg).2 != 0) tid sc := by
  have hrc : (cmdEnqueueCbUnsafe cmdq cmd cb cbArg).2 = 0 ∨
      (cmdEnqueueCbUnsafe cmdq cmd cb cbArg).2 = 1 := by
    unfold cmdEnqueueCbUnsafe
    split
    · exact Or.inr rfl
    · exact Or.inl rfl
  simp only [cmdEnqueueCb, enqueueRc]
  rcases hrc with h | h
  · by_cases ht : tid = idNone
    · simp [h, ht]
    · by_cases hs : sc = .successful <;> simp [h, ht, hs]
  · simp [h]

/-- Dequeue uncovers the oldest pending command, or fails on none. -/
theorem cmdDequeueUnsafe_pending (cmdq : Cmdq) :
    match cmdq.pending with
    | [] => cmdDequeueUnsafe cmdq = (cmdq, none)
    | item :: rest =>
      (cmdDequeueUnsafe cmdq).1.pending = rest ∧
        (cmdDequeueUnsafe cmdq).2 = some (item.cmd, item.handled.cb, item.handled.cbArg) := by
  by_cases h : cmdq.head = cmdq.tail
  · have hnil : cmdq.pending = [] := (Ring.contents_eq_nil cmdq.ring).mpr h
    simp [hnil, cmdDequeueUnsafe, h]
  · have hcons : cmdq.pending = cmdq.ring.front :: cmdq.ring.pop.contents :=
      Ring.contents_pop cmdq.ring h
    rw [hcons]
    simp only [cmdDequeueUnsafe, if_neg h]
    exact ⟨rfl, rfl⟩

theorem cmdDequeue_none {q q' : Cmdq} (h : cmdDequeue q = (q', none)) :
    q' = q ∧ q.head = q.tail := by
  unfold cmdDequeue cmdDequeueUnsafe at h
  split at h
  · cases h
    exact ⟨rfl, ‹_›⟩
  · cases h

theorem cmdDropAll_pending (cmdq : Cmdq) : (cmdDropAll cmdq).1.pending = [] :=
  Ring.contents_clear cmdq.ring

/-! ## Runs -/

/-- An enqueue finds the queue in a state in which its test is right. -/
def EnqueueSafe (cmdq : Cmdq) : CmdqOp → Prop
  | .enqueueCb .. => ¬ cmdq.fullAtEnd
  | _ => True

/-- The queue stands for this list of pending commands. -/
def Represents (cmdq : Cmdq) (pending : List CmdqItem) : Prop := cmdq.pending = pending

/-- The run of `ops` on the C queue gives its callers what the abstract
queue gives, and ends with the same commands pending. -/
def FifoRun (ops : List CmdqOp) : Prop :=
  outputs cmdqStep Cmdq.init ops = outputs fifoStep [] ops ∧
    (final cmdqStep Cmdq.init ops).pending = final fifoStep [] ops

/-- **Answers.** In related states the two queues answer an operation alike
exactly when it is not an enqueue at `fullAtEnd`. -/
theorem answer_iff {cmdq : Cmdq} {pending : List CmdqItem} {op : CmdqOp}
    (h : Represents cmdq pending) :
    (cmdqStep cmdq op).2 = (fifoStep pending op).2 ↔ EnqueueSafe cmdq op := by
  subst h
  cases op with
  | enqueueCb cmd cb cbArg tid sc =>
    simp only [cmdqStep, fifoStep, cmdEnqueueCb_rc, EnqueueSafe, length_pending_iff]
    by_cases hfull : next cmdq.head = cmdq.tail
    · by_cases hend : cmdq.fullAtEnd
      · have h0 := cmdEnqueueCbUnsafe_taken cmd cb cbArg (Or.inr hend)
        simp [hfull, hend, h0]
      · have h1 := cmdEnqueueCbUnsafe_refused cmd cb cbArg hfull hend
        simp [hfull, hend, h1]
    · have h0 := cmdEnqueueCbUnsafe_taken cmd cb cbArg (Or.inl hfull)
      have hend : ¬ cmdq.fullAtEnd := fun h => hfull (fullAtEnd_full h)
      simp [hfull, hend, h0]
  | dequeue =>
    have hd := cmdDequeueUnsafe_pending cmdq
    cases hp : cmdq.pending with
    | nil =>
      rw [hp] at hd
      simp only [cmdqStep, fifoStep, cmdDequeue, hd, EnqueueSafe]
    | cons item rest =>
      rw [hp] at hd
      simp only [cmdqStep, fifoStep, cmdDequeue, hd.2, EnqueueSafe]
  | dropAll =>
    simp [cmdqStep, fifoStep, cmdDropAll, cmdqSizeUnsafe_eq, EnqueueSafe]

/-- **Step.** An operation that meets the condition keeps the two queues related. -/
theorem represents_step {cmdq : Cmdq} {pending : List CmdqItem} {op : CmdqOp}
    (h : Represents cmdq pending) (hsafe : EnqueueSafe cmdq op) :
    Represents (cmdqStep cmdq op).1 (fifoStep pending op).1 := by
  subst h
  cases op with
  | enqueueCb cmd cb cbArg tid sc =>
    simp only [cmdqStep, fifoStep, Represents, length_pending_iff, cmdEnqueueCb_queue]
    by_cases hfull : next cmdq.head = cmdq.tail
    · rw [if_pos hfull, cmdEnqueueCbUnsafe_refused cmd cb cbArg hfull hsafe]
    · rw [if_neg hfull]
      exact cmdEnqueueCbUnsafe_pending cmd cb cbArg hfull
  | dequeue =>
    have hd := cmdDequeueUnsafe_pending cmdq
    cases hp : cmdq.pending with
    | nil =>
      rw [hp] at hd
      simp only [cmdqStep, fifoStep, cmdDequeue, hd]
      exact hp
    | cons item rest =>
      rw [hp] at hd
      exact hd.1
  | dropAll => exact cmdDropAll_pending cmdq

/-- **The command queue is a bounded FIFO exactly on the runs that never
enqueue while `head` is the last slot and `tail` slot 0.** -/
theorem cmdq_fifo_iff (ops : List CmdqOp) :
    FifoRun ops ↔ Inputs cmdqStep EnqueueSafe Cmdq.init ops := by
  have h0 : Represents Cmdq.init [] := (Ring.contents_eq_nil Cmdq.init.ring).mpr rfl
  have hout := outputs_eq_iff (G := EnqueueSafe) (R := Represents) answer_iff represents_step h0 ops
  constructor
  · intro hk
    obtain ⟨ho, _⟩ := hk
    exact hout.mp ho
  · intro hsafe
    exact ⟨hout.mpr hsafe, final_related represents_step h0 hsafe⟩

/-- A command told apart from the others by its link. -/
def cmdOnLink (link : Nat) : CmdqOp :=
  .enqueueCb ⟨Msg.zero, some link⟩ none none idNone .successful

/-- Four enqueues into the empty queue, then a dequeue: the fourth is taken
although three commands are pending, and the dequeue finds nothing. -/
theorem cmdq_not_fifo : ¬ ∀ ops, FifoRun ops := by
  intro h
  have hrun := (h [cmdOnLink 1, cmdOnLink 2, cmdOnLink 3, cmdOnLink 4, .dequeue]).1
  revert hrun
  decide

end HpscRtems.Command
