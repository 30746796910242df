/-
HpscRtems.Shmem.Poll — the poll tasks of the shared-memory links
(`shmem-poll.c`).

A poll task waits for its exit event with a time-out and tests the status
bits of its region whenever the time has passed. The wait, the test and the
callback are points of their own, so that other tasks can come in between.
`running` is the task's last word to the one that stops it: it holds as long
as the task is at or before the statement that clears it. The region and the
length of the time-out are left out; what the status bits are when they are
tested is the caller's to say.
-/
import HpscRtems.Rtems

namespace HpscRtems.Shmem

open Rtems

/-! ## §1 `struct shmem_poll` and its task -/

/-- `SHM_EVENT_EXIT` -/
def shmEventExit : EventSet := 0x1#32

/-- The callbacks `link_shmem_init` installs. -/
inductive PollCb where
  | linkRecvCmd
  | linkRecvReply
  | linkShmemAck
  deriving DecidableEq

/-- The program points of `shm_poll_task`. -/
inductive PollPc where
  /-- `rtems_event_receive` -/
  | receive
  /-- `rtems_event_receive` has returned, with the exit event or without. -/
  | check (exit : Bool)
  | testStatus
  /-- The call of `sp->cb`. -/
  | callback
  | clearRunning
  /-- `rtems_task_exit` -/
  | exit
  | exited
  deriving DecidableEq

/-- The task has still to clear `running`. -/
def PollPc.inLoop : PollPc → Bool
  | exit | exited => false
  | _ => true

/-- `struct shmem_poll`, with the point its task is at and the events pending
for the task. -/
structure PollTask where
  cb : PollCb
  cbArg : Ptr
  statusMask : BitVec 32
  running : Bool
  pc : PollPc
  pending : EventSet
  running_eq : running = pc.inLoop
  deriving DecidableEq

namespace PollTask

/-- `shmem_poll_init`, and a start of the task that succeeds. -/
def start (cb : PollCb) (cbArg : Ptr) (statusMask : BitVec 32) : PollTask :=
  ⟨cb, cbArg, statusMask, true, .receive, 0, rfl⟩

/-- The task has not exited. -/
def live (t : PollTask) : Bool := t.pc ≠ .exited

/-- The task goes on at a point that is in the loop as much as the last. -/
def goto (t : PollTask) (pc : PollPc) (h : pc.inLoop = t.pc.inLoop) : PollTask :=
  { t with pc := pc, running_eq := t.running_eq.trans h.symm }

/-- `rtems_event_send` to the task. -/
def send (t : PollTask) (ev : EventSet) : PollTask := { t with pending := t.pending ||| ev }

/-! ## §2 Steps -/

/-- `rtems_event_receive` returns with the exit event. -/
def wake (t : PollTask) : Option PollTask :=
  if h : t.pc = .receive ∧ hasEvent t.pending shmEventExit = true then
    some { t.goto (.check true) (by rw [h.1]; rfl) with pending := t.pending &&& ~~~shmEventExit }
  else none

/-- `rtems_event_receive` returns after `poll_ticks` without an event. -/
def timeout (t : PollTask) : Option PollTask :=
  if h : t.pc = .receive ∧ hasEvent t.pending shmEventExit = false then
    some (t.goto (.check false) (by rw [h.1]; rfl))
  else none

/-- The next statement of the task; `status` is what `shmem_get_status`
returns. -/
def next (t : PollTask) (status : BitVec 32) : Option PollTask :=
  match h : t.pc with
  | .check true => some (t.goto .clearRunning (by rw [h]; rfl))
  | .check false => some (t.goto .testStatus (by rw [h]; rfl))
  | .testStatus =>
    if hasEvent status t.statusMask then some (t.goto .callback (by rw [h]; rfl))
    else some (t.goto .receive (by rw [h]; rfl))
  | .clearRunning => some { t with running := false, pc := .exit, running_eq := rfl }
  | .exit => some (t.goto .exited (by rw [h]; rfl))
  | _ => none

/-- The callback returns. -/
def ret (t : PollTask) : Option PollTask :=
  if h : t.pc = .callback then some (t.goto .receive (by rw [h]; rfl)) else none

/-! ## §3 What the steps leave alone -/

variable {t t' : PollTask}

@[simp] theorem goto_pc (pc : PollPc) (h : pc.inLoop = t.pc.inLoop) : (t.goto pc h).pc = pc := rfl

/-- A task that stays as it is called, and does not come back into its loop. -/
structure Kept (t t' : PollTask) : Prop where
  cb : t'.cb = t.cb
  left : t'.pc.inLoop = true → t.pc.inLoop = true

theorem kept_send (ev : EventSet) : Kept t (t.send ev) := ⟨rfl, fun h => h⟩

theorem kept_goto (pc : PollPc) (h : pc.inLoop = t.pc.inLoop) : Kept t (t.goto pc h) :=
  ⟨rfl, fun hk => h.symm.trans hk⟩

theorem kept_wake (h : t.wake = some t') : Kept t t' ∧ t.pc ≠ .callback := by
  unfold wake at h
  split at h
  · rename_i hpc
    cases h
    exact ⟨⟨rfl, fun _ => by rw [hpc.1]; rfl⟩, by simp [hpc.1]⟩
  · cases h

theorem kept_timeout (h : t.timeout = some t') : Kept t t' ∧ t.pc ≠ .callback := by
  unfold timeout at h
  split at h
  · rename_i hpc
    cases h
    exact ⟨kept_goto _ _, by simp [hpc.1]⟩
  · cases h

theorem kept_next {status : BitVec 32} (h : t.next status = some t') :
    Kept t t' ∧ t.pc ≠ .callback := by
  unfold next at h
  split at h
  case h_3 hpc =>
    split at h <;> cases h <;> exact ⟨kept_goto _ _, by simp [hpc]⟩
  case h_6 => cases h
  case h_4 hpc =>
    cases h
    exact ⟨⟨rfl, fun hk => by cases hk⟩, by simp [hpc]⟩
  all_goals
    rename_i hpc
    cases h
    exact ⟨kept_goto _ _, by simp [hpc]⟩

theorem kept_ret (h : t.ret = some t') : Kept t t' := by
  unfold ret at h
  split at h
  · cases h
    exact kept_goto _ _
  · cases h

end PollTask

end HpscRtems.Shmem
