/-
HpscRtems.Shmem.ConnectTheorems — what a `link_shmem_connect` that fails
leaves behind.

The undo path frees what was allocated and stops the receive poll task. But
this task runs while the start of the ACK poll task can still fail. When it
finds a message meanwhile, it calls the callback of the half-built link:
the message is taken off the region and acknowledged, and a server's
command is queued with the link that is about to be freed. A failed connect
has no effect exactly when the receive poll task finds no message before it
is stopped (`failed_connect_iff`).

`Unnoticed` holds as long as it does not, and `Noticed` from then on.
-/
import HpscRtems.Shmem.CloseTheorems

namespace HpscRtems.Shmem

open Machine Rtems Command Link

/-! ## §1 No effect -/

/-- The poll tasks have nothing left to do but `rtems_task_exit`, every
structure that was allocated has been freed, none was used or freed when it
was not there, no command was queued, and no status bit was changed. -/
structure NoEffect (s : LinkSys) : Prop where
  stopped : ∀ x t, s.poll x = some t → t.pc = .exit ∨ t.pc = .exited
  freed : ∀ o, s.heap o ≠ .live
  uses : s.faults = []
  commands : s.commands = []
  writes : s.writes = []

/-- The receive poll task, if it tests the status, finds no message. -/
def FindsNone (s : LinkSys) : LinkAct → Prop
  | .next .recv => ∀ t, s.poll .recv = some t → t.pc = .testStatus →
      hasEvent s.inn.status t.statusMask = false
  | _ => True

variable {cfg : LinkCfg} {s s' : LinkSys} {a : LinkAct} {x : Side}

/-! ## §2 What the steps do -/

/-- A poll task goes on, or is sent an event. -/
def PollGoes (p p' : Option PollTask) : Prop :=
  p' = p ∨ ∃ t t', p = some t ∧ p' = some t' ∧ PollTask.Kept t t'

theorem pollGoes_setPoll {t t' : PollTask} (ht : s.poll x = some t) (hk : PollTask.Kept t t')
    (y : Side) : PollGoes (s.poll y) ((s.setPoll x t').poll y) := by
  by_cases hy : y = x
  · subst hy
    exact Or.inr ⟨t, t', ht, s.setPoll_poll_self y t', hk⟩
  · exact Or.inl (s.setPoll_poll_of_ne hy t')

/-- What a step of poll task `x` does, outside its callback. -/
structure OwnFrame (s s' : LinkSys) (a : LinkAct) (x : Side) (t : PollTask) : Prop where
  ctl : s'.ctl = s.ctl
  writes : s'.writes = s.writes
  commands : s'.commands = s.commands
  task : s.poll x = some t ∧ t.pc ≠ .callback
  poll : ∃ t', s'.poll = (s.setPoll x t').poll ∧ PollTask.Kept t t' ∧
    (t'.pc = .callback → a = .next x ∧ t.pc = .testStatus ∧
      hasEvent (s.status x) t.statusMask = true ∧ s'.call x = t.cb.first)
  others : ∀ y, y ≠ x → s'.call y = s.call y

theorem receive_frame {f : PollTask → Option PollTask}
    (hf : ∀ {t t'}, f t = some t' → (PollTask.Kept t t' ∧ t.pc ≠ .callback) ∧ t'.pc ≠ .callback)
    (hs : s.receiveStep x f = some s') : ∃ t, OwnFrame s s' a x t := by
  unfold LinkSys.receiveStep at hs
  split at hs
  · rename_i t ht
    obtain ⟨t', ht', rfl⟩ := Option.map_eq_some_iff.mp hs
    obtain ⟨⟨hkept, hpc⟩, hpc'⟩ := hf ht'
    exact ⟨t, rfl, rfl, rfl, ⟨ht, hpc⟩, ⟨t', rfl, hkept, fun h => absurd h hpc'⟩, fun _ _ => rfl⟩
  · cases hs

theorem timeout_pc {t t' : PollTask} (h : t.timeout = some t') :
    (PollTask.Kept t t' ∧ t.pc ≠ .callback) ∧ t'.pc ≠ .callback := by
  refine ⟨PollTask.kept_timeout h, ?_⟩
  unfold PollTask.timeout at h
  split at h
  · cases h
    exact fun hpc => by cases hpc
  · cases h

theorem wake_pc {t t' : PollTask} (h : t.wake = some t') :
    (PollTask.Kept t t' ∧ t.pc ≠ .callback) ∧ t'.pc ≠ .callback := by
  refine ⟨PollTask.kept_wake h, ?_⟩
  unfold PollTask.wake at h
  split at h
  · cases h
    exact fun hpc => by cases hpc
  · cases h

/-- The callback is called where the status bits are found set. -/
theorem next_callback {t t' : PollTask} {status : BitVec 32} (h : t.next status = some t') :
    t'.pc = .callback ↔ t.pc = .testStatus ∧ hasEvent status t.statusMask = true := by
  unfold PollTask.next at h
  split at h
  case h_3 hat =>
    split at h
    · rename_i hsees
      cases h
      exact ⟨fun _ => ⟨hat, hsees⟩, fun _ => rfl⟩
    · rename_i hsees
      cases h
      exact ⟨fun hpc => (by cases hpc), fun hpc => absurd hpc.2 hsees⟩
  case h_6 => cases h
  all_goals
    rename_i hat
    cases h
    exact ⟨fun hpc => (by cases hpc), fun hpc => by rw [hat] at hpc; cases hpc.1⟩

theorem next_frame (hs : s.nextStep x = some s') : ∃ t, OwnFrame s s' (.next x) x t := by
  unfold LinkSys.nextStep at hs
  split at hs
  · rename_i t ht
    obtain ⟨t', ht', rfl⟩ := Option.map_eq_some_iff.mp hs
    obtain ⟨hkept, hpc⟩ := PollTask.kept_next ht'
    refine ⟨t, rfl, rfl, rfl, ⟨ht, hpc⟩, ⟨t', rfl, hkept, fun h => ?_⟩,
      fun y hy => Function.update_of_ne hy _ _⟩
    obtain ⟨hat, hsees⟩ := (next_callback ht').mp h
    exact ⟨rfl, hat, hsees, Function.update_self _ _ _⟩
  · cases hs

namespace CtlPc

/-- The receive poll task has not been started yet. -/
def before : CtlPc → Bool
  | mallocLink | mallocSlink | openOut | openIn | mallocRecv | startRecv => true
  | _ => false

/-- The receive poll task is not running any more, or never was. -/
def undone : CtlPc → Bool
  | undoFree | undoIn | undoOut | undoSlink | undoLink | failed => true
  | _ => false

/-- From `pc` the connecting or closing task may go on to `pc'` whatever the
receive poll task does. -/
def leadsTo (pc pc' : CtlPc) : Bool :=
  (!pc'.before || pc.before) && (!pc'.undone || pc.before || pc.undone) &&
    (!pc.shared || pc'.shared)

theorem shared_of_runs {pc : CtlPc} (h : pc.runs .ack = true) : pc.shared = true := by
  revert h
  cases pc <;> decide

end CtlPc

/-- What a step does that is not a poll task's. -/
structure RestFrame (cfg : LinkCfg) (s s' : LinkSys) : Prop where
  writes : s'.writes = s.writes
  commands : s'.commands = s.commands
  call : s'.call = s.call
  poll : ∀ x, s'.poll x = s.poll x ∨
    (∃ t, s.poll x = some t ∧ s'.poll x = some (t.send shmEventExit)) ∨
    (∃ arg mask, s'.poll x = some (.start (cfg.cb x) arg mask)) ∧
      (x = .recv → s.ctl = .startRecv ∧ s'.ctl = .mallocAck)
  before : s'.ctl.before = true → s.ctl.before = true
  undone : s'.ctl.undone = true → s.ctl.before = true ∨ s.ctl.undone = true ∨
    ∀ t, s.poll .recv = some t → t.pc.inLoop = false
  shared : s.ctl.shared = true → s'.ctl.shared = true

theorem CtlPc.leadsTo_iff {pc pc' : CtlPc} (h : pc.leadsTo pc' = true) :
    (pc'.before = true → pc.before = true) ∧
      (pc'.undone = true → pc.before = true ∨ pc.undone = true) ∧
      (pc.shared = true → pc'.shared = true) := by
  simp only [CtlPc.leadsTo, Bool.and_eq_true, Bool.or_eq_true, Bool.not_eq_true'] at h
  obtain ⟨⟨hbefore, hundone⟩, hshared⟩ := h
  refine ⟨fun hpc => hbefore.resolve_left (by simp [hpc]), fun hpc => ?_,
    fun hpc => hshared.resolve_left (by simp [hpc])⟩
  rw [or_assoc] at hundone
  exact hundone.resolve_left (by simp [hpc])

/-- The connecting or closing task goes on, and has at most sent an exit
event or started a poll task. -/
theorem rest_of_leadsTo {pc₀ : CtlPc} (hctl : s.ctl = pc₀) (hlead : pc₀.leadsTo s'.ctl = true)
    (hwrites : s'.writes = s.writes) (hcommands : s'.commands = s.commands)
    (hcall : s'.call = s.call)
    (hpoll : ∀ x, s'.poll x = s.poll x ∨
      (∃ t, s.poll x = some t ∧ s'.poll x = some (t.send shmEventExit)) ∨
      (∃ arg mask, s'.poll x = some (.start (cfg.cb x) arg mask)) ∧
        (x = .recv → s.ctl = .startRecv ∧ s'.ctl = .mallocAck)) : RestFrame cfg s s' := by
  subst hctl
  obtain ⟨hbefore, hundone, hshared⟩ := CtlPc.leadsTo_iff hlead
  exact ⟨hwrites, hcommands, hcall, hpoll, hbefore, fun h => (hundone h).imp_right Or.inl, hshared⟩

/-- The receive poll task is found to be gone. -/
theorem rest_of_left {pc₀ : CtlPc} (hctl : s.ctl = pc₀) (hpc₀ : pc₀.shared = false)
    (hleft : ∀ t, s.poll .recv = some t → t.pc.inLoop = false) (hpc : s'.ctl.before = false)
    (hwrites : s'.writes = s.writes) (hcommands : s'.commands = s.commands)
    (hcall : s'.call = s.call) (hpoll : s'.poll = s.poll) : RestFrame cfg s s' := by
  subst hctl
  refine ⟨hwrites, hcommands, hcall, fun x => Or.inl (congrFun hpoll x), fun h => ?_,
    fun _ => Or.inr (Or.inr hleft), fun h => ?_⟩
  · rw [hpc] at h
    cases h
  · rw [hpc₀] at h
    cases h

/-- `SHM_EVENT_EXIT` is sent to a task that may be there, or the task is gone. -/
theorem exitSend_cases {ok : Bool} {wait : CtlPc} {next : LinkSys}
    (hs : s.exitSend x ok wait next = some s') :
    (s'.ctl = wait ∧ s'.writes = s.writes ∧ s'.commands = s.commands ∧ s'.call = s.call ∧
      ∀ y, s'.poll y = s.poll y ∨
        ∃ t, s.poll y = some t ∧ s'.poll y = some (t.send shmEventExit)) ∨
    ((∀ t, s.poll x = some t → t.pc.inLoop = false) ∧ s' = next.touch [.slink, x.sp]) := by
  unfold LinkSys.exitSend at hs
  dsimp only at hs
  split at hs
  · cases hs
    refine Or.inl ⟨rfl, rfl, rfl, rfl, fun y => ?_⟩
    by_cases hy : y = x
    · subst hy
      cases hpoll : s.poll y with
      | none => exact Or.inl (by simp)
      | some t => exact Or.inr ⟨t, rfl, by simp⟩
    · exact Or.inl (Function.update_of_ne hy _ _)
  · split at hs
    · cases hs
    · rename_i hlive
      cases hs
      refine Or.inr ⟨fun t ht => ?_, rfl⟩
      have hpc : t.pc = .exited := by simpa [ht, PollTask.live] using hlive
      rw [hpc]
      rfl

/-- The wait for a poll task goes on, or the task has left its loop. -/
theorem exitWait_cases {next : CtlPc} (hs : s.exitWait x next = some s') :
    s' = s.touch [x.sp] ∨
    ((∀ t, s.poll x = some t → t.pc.inLoop = false) ∧
      s' = { s.touch [x.sp] with ctl := next }) := by
  unfold LinkSys.exitWait at hs
  dsimp only at hs
  split at hs
  · cases hs
    exact Or.inl rfl
  · rename_i hrun
    cases hs
    refine Or.inr ⟨fun t ht => ?_, rfl⟩
    have hpoll : (s.touch [x.sp]).poll x = some t := ht
    rw [hpoll, Option.any_some, t.running_eq] at hrun
    simpa using hrun

theorem rest_startTask {pc : CtlPc} (hlead : s.ctl.leadsTo pc = true)
    (hx : x = .recv → s.ctl = .startRecv ∧ pc = .mallocAck) :
    RestFrame cfg s ((s.touch [x.sp]).startTask cfg x pc) := by
  refine rest_of_leadsTo rfl hlead rfl rfl rfl fun y => ?_
  by_cases hy : y = x
  · subst hy
    exact Or.inr (Or.inr ⟨⟨_, _, Function.update_self _ _ _⟩, hx⟩)
  · exact Or.inl (Function.update_of_ne hy _ _)

theorem rest_ctl {ok : Bool} (hs : s.ctlStep cfg ok = some s') : RestFrame cfg s s' := by
  unfold LinkSys.ctlStep at hs
  cases hctl : s.ctl <;> simp only [hctl] at hs
  case startRecv | startAck =>
    cases hs
    cases ok with
    | true => exact rest_startTask (by rw [hctl]; rfl) (by simp [hctl])
    | false => exact rest_of_leadsTo hctl rfl rfl rfl rfl fun _ => Or.inl rfl
  case undoSend =>
    obtain ⟨hpc, hwrites, hcommands, hcall, hpoll⟩ | ⟨hleft, rfl⟩ := exitSend_cases hs
    · exact rest_of_leadsTo hctl (by rw [hpc]; rfl) hwrites hcommands hcall fun x =>
        (hpoll x).imp_right Or.inl
    · exact rest_of_left hctl rfl hleft rfl rfl rfl rfl rfl
  case ackSend | recvSend =>
    obtain ⟨hpc, hwrites, hcommands, hcall, hpoll⟩ | ⟨-, rfl⟩ := exitSend_cases hs
    · exact rest_of_leadsTo hctl (by rw [hpc]; rfl) hwrites hcommands hcall fun x =>
        (hpoll x).imp_right Or.inl
    · exact rest_of_leadsTo hctl rfl rfl rfl rfl fun _ => Or.inl rfl
  case undoWait =>
    obtain rfl | ⟨hleft, rfl⟩ := exitWait_cases hs
    · exact rest_of_leadsTo hctl (by show CtlPc.leadsTo _ s.ctl = true; rw [hctl]; rfl) rfl rfl rfl
        fun _ => Or.inl rfl
    · exact rest_of_left hctl rfl hleft rfl rfl rfl rfl rfl
  case ackWait | recvWait =>
    obtain rfl | ⟨-, rfl⟩ := exitWait_cases hs
    · exact rest_of_leadsTo hctl (by show CtlPc.leadsTo _ s.ctl = true; rw [hctl]; rfl) rfl rfl rfl
        fun _ => Or.inl rfl
    · exact rest_of_leadsTo hctl rfl rfl rfl rfl fun _ => Or.inl rfl
  case failed | opened | closed => cases hs
  case undoFree | undoIn | undoOut | undoSlink | undoLink | ackFree | recvFree | closeOut |
      closeIn | freeSlink | freeLink =>
    cases hs
    exact rest_of_leadsTo hctl rfl rfl rfl rfl fun _ => Or.inl rfl
  case mallocLink | mallocSlink | openOut | openIn | mallocRecv | mallocAck =>
    cases hs
    cases ok <;> exact rest_of_leadsTo hctl rfl rfl rfl rfl fun _ => Or.inl rfl

/-- Every step is one of a poll task, one of a callback, or leaves the
callbacks alone. -/
theorem step_frame (hs : linkStep cfg s a = some s') :
    RestFrame cfg s s' ∨ (∃ x t, OwnFrame s s' a x t) ∨
      ∃ x t os, s.poll x = some t ∧ t.pc = .callback ∧ CallFrame cfg s s' x t os := by
  cases a with
  | ctl ok => exact Or.inl (rest_ctl hs)
  | close =>
    simp only [linkStep] at hs
    split at hs
    · rename_i hctl
      cases hs
      exact Or.inl (rest_of_leadsTo hctl rfl rfl rfl rfl fun _ => Or.inl rfl)
    · cases hs
  | timeout x => exact Or.inr (Or.inl ⟨x, receive_frame timeout_pc hs⟩)
  | wake x => exact Or.inr (Or.inl ⟨x, receive_frame wake_pc hs⟩)
  | next x => exact Or.inr (Or.inl ⟨x, next_frame hs⟩)
  | call x =>
    simp only [linkStep] at hs
    split at hs
    · rename_i t ht
      split at hs
      · rename_i hpc
        obtain ⟨os, hf⟩ := callStep_frame hs
        exact Or.inr (Or.inr ⟨x, t, os, ht, hpc, hf⟩)
      · cases hs
    · cases hs
  | remote inn out =>
    cases hs
    exact Or.inl ⟨rfl, rfl, rfl, fun _ => Or.inl rfl, id, fun h => Or.inr (Or.inl h), id⟩
  | request rctx =>
    simp only [linkStep] at hs
    split at hs
    · cases hs
      exact Or.inl ⟨rfl, rfl, rfl, fun _ => Or.inl rfl, id, fun h => Or.inr (Or.inl h), id⟩
    · cases hs
  | handler tid =>
    cases hs
    exact Or.inl ⟨rfl, rfl, rfl, fun _ => Or.inl rfl, id, fun h => Or.inr (Or.inl h), id⟩

/-! ## §3 The receive poll task comes and goes -/

/-- The receive poll task is there when it has been started, and out of its
loop when it has been stopped. -/
structure Staged (cfg : LinkCfg) (s : LinkSys) : Prop where
  before : s.ctl.before = true → s.poll .recv = none
  undone : s.ctl.undone = true → ∀ t, s.poll .recv = some t → t.pc.inLoop = false
  cb : ∀ t, s.poll .recv = some t → t.cb = cfg.cb .recv

theorem OwnFrame.goes {t : PollTask} (hf : OwnFrame s s' a x t) (y : Side) :
    PollGoes (s.poll y) (s'.poll y) := by
  obtain ⟨t', hpoll, hkept, -⟩ := hf.poll
  rw [hpoll]
  exact pollGoes_setPoll hf.task.1 hkept y

theorem call_goes {t : PollTask} {os : List Obj} (ht : s.poll x = some t)
    (hf : CallFrame cfg s s' x t os) (y : Side) : PollGoes (s.poll y) (s'.poll y) := by
  rcases hf.poll with heq | ⟨-, heq⟩ | ⟨-, t', ht', heq⟩
  · exact Or.inl (congrFun heq y)
  · rw [heq]
    exact (tell_poll _ _ y).imp_right fun ⟨_, t', ht', hsend⟩ =>
      ⟨t', _, ht', hsend, PollTask.kept_send _⟩
  · rw [heq]
    exact pollGoes_setPoll ht (PollTask.kept_ret ht') y

/-- As long as the receive poll task goes on, it is the same. -/
theorem Staged.goes (h : Staged cfg s) (hgo : PollGoes (s.poll .recv) (s'.poll .recv))
    (hbefore : s'.ctl.before = true → s.ctl.before = true)
    (hundone : s'.ctl.undone = true → s.ctl.before = true ∨ s.ctl.undone = true ∨
      ∀ t, s.poll .recv = some t → t.pc.inLoop = false) : Staged cfg s' := by
  have hleft : s'.ctl.undone = true → ∀ t, s.poll .recv = some t → t.pc.inLoop = false := by
    intro hu
    rcases hundone hu with hb | hu | hleft
    · intro t ht
      rw [h.before hb] at ht
      cases ht
    · exact h.undone hu
    · exact hleft
  rcases hgo with heq | ⟨t₀, t', ht₀, ht', hkept⟩
  · refine ⟨fun hb => heq.trans (h.before (hbefore hb)), fun hu => ?_, ?_⟩
    · rw [heq]
      exact hleft hu
    · rw [heq]
      exact h.cb
  · refine ⟨fun hb => ?_, fun hu t ht => ?_, fun t ht => ?_⟩
    · rw [h.before (hbefore hb)] at ht₀
      cases ht₀
    · obtain rfl : t' = t := Option.some.inj (ht'.symm.trans ht)
      have hno := hleft hu t₀ ht₀
      by_contra hloop
      rw [hkept.left (by simpa using hloop)] at hno
      cases hno
    · obtain rfl : t' = t := Option.some.inj (ht'.symm.trans ht)
      exact hkept.cb.trans (h.cb t₀ ht₀)

theorem staged_step (h : Staged cfg s) (hs : linkStep cfg s a = some s') : Staged cfg s' := by
  have hsame : s'.ctl = s.ctl → PollGoes (s.poll .recv) (s'.poll .recv) → Staged cfg s' := by
    intro hctl hgo
    exact h.goes hgo (by rw [hctl]; exact id) (by rw [hctl]; exact fun hu => Or.inr (Or.inl hu))
  rcases step_frame hs with hf | ⟨x, t, hf⟩ | ⟨x, t, os, ht, -, hf⟩
  · rcases hf.poll .recv with heq | ⟨t, ht, ht'⟩ | ⟨⟨arg, mask, ht'⟩, hpc⟩
    · exact h.goes (Or.inl heq) hf.before hf.undone
    · exact h.goes (Or.inr ⟨t, _, ht, ht', PollTask.kept_send _⟩) hf.before hf.undone
    · obtain ⟨-, hpc'⟩ := hpc rfl
      refine ⟨fun hb => ?_, fun hu => ?_, fun t ht => ?_⟩
      · rw [hpc'] at hb
        cases hb
      · rw [hpc'] at hu
        cases hu
      · rw [ht'] at ht
        cases ht
        rfl
  · exact hsame hf.ctl (hf.goes _)
  · exact hsame hf.ctl (call_goes ht hf _)

/-! ## §4 No message is noticed -/

/-- While the link is being connected, no poll task is in its callback, and
none has been. -/
structure Idle (cfg : LinkCfg) (s : LinkSys) : Prop where
  safe : Safe cfg s
  call : ∀ x t, s.poll x = some t → t.pc ≠ .callback
  commands : s.commands = []
  writes : s.writes = []

def Unnoticed (cfg : LinkCfg) (s : LinkSys) : Prop := s.ctl.shared = false → Idle cfg s

theorem Idle.sendsNoExit (h : Idle cfg s) (a : LinkAct) : SendsNoExit cfg s a := by
  cases a with
  | call x => exact fun t ht hpc => absurd hpc (h.call x t ht)
  | _ => trivial

theorem unnoticed_step (h : Unnoticed cfg s) (hG : FindsNone s a)
    (hs : linkStep cfg s a = some s') : Unnoticed cfg s' := by
  intro hshared
  rcases step_frame hs with hf | ⟨x, t, hf⟩ | ⟨x, t, os, ht, hpc, hf⟩
  · have hnot : s.ctl.shared = false := by
      by_contra hsh
      rw [hf.shared (by simpa using hsh)] at hshared
      cases hshared
    have hidle := h hnot
    refine ⟨safe_step hidle.safe (hidle.sendsNoExit a) hs, fun x t ht => ?_,
      hf.commands.trans hidle.commands, hf.writes.trans hidle.writes⟩
    rcases hf.poll x with heq | ⟨t₀, ht₀, ht'⟩ | ⟨⟨arg, mask, ht'⟩, -⟩
    · exact hidle.call x t (heq.symm.trans ht)
    · obtain rfl : t₀.send shmEventExit = t := Option.some.inj (ht'.symm.trans ht)
      exact hidle.call x t₀ ht₀
    · obtain rfl : PollTask.start (cfg.cb x) arg mask = t := Option.some.inj (ht'.symm.trans ht)
      exact fun hpc => by cases hpc
  · rw [hf.ctl] at hshared
    have hidle := h hshared
    refine ⟨safe_step hidle.safe (hidle.sendsNoExit a) hs, fun y u hu hpc => ?_,
      hf.commands.trans hidle.commands, hf.writes.trans hidle.writes⟩
    obtain ⟨t', hpoll, -, hcall⟩ := hf.poll
    rw [hpoll] at hu
    by_cases hy : y = x
    · subst hy
      obtain rfl : t' = u := Option.some.inj ((s.setPoll_poll_self y t').symm.trans hu)
      obtain ⟨rfl, hat, hsees, -⟩ := hcall hpc
      cases y with
      | recv =>
        rw [show hasEvent (s.status .recv) t.statusMask = false from hG t hf.task.1 hat] at hsees
        cases hsees
      | ack =>
        -- the ACK poll task is started last
        have hruns := hidle.safe.inLoop .ack t hf.task.1 (by rw [hat]; rfl)
        rw [CtlPc.shared_of_runs hruns] at hshared
        cases hshared
    · exact hidle.call y u ((s.setPoll_poll_of_ne hy t').symm.trans hu) hpc
  · rw [hf.ctl] at hshared
    exact absurd hpc ((h hshared).call x t ht)

theorem Idle.noEffect (h : Idle cfg s) (hctl : s.ctl = .failed) : NoEffect s := by
  refine ⟨fun x t ht => left_loop ?_, fun o ho => ?_, h.safe.faults, h.commands, h.writes⟩
  · by_contra hloop
    have hruns := h.safe.inLoop x t ht (by simpa using hloop)
    rw [hctl] at hruns
    cases hruns
  · have hheld := (h.safe.heap o).mp ho
    rw [hctl] at hheld
    cases hheld

/-! ## §5 A message is noticed -/

/-- A message is being, or has been, taken off the region. -/
def Noticed (s : LinkSys) : Prop :=
  s.writes ≠ [] ∨
    ∃ t, s.poll .recv = some t ∧ t.pc = .callback ∧ (s.call .recv = .read ∨ s.call .recv = .setNew)

theorem linkCfg_cb_first (cfg : LinkCfg) : (cfg.cb .recv).first = .read := by
  show PollCb.first (if cfg.isServer then .linkRecvCmd else .linkRecvReply) = .read
  split <;> rfl

theorem noticed_of_finds (h : Staged cfg s) (hs : linkStep cfg s a = some s')
    (hfinds : ¬ FindsNone s a) : Noticed s' := by
  cases a with
  | next x =>
    cases x with
    | recv =>
      simp only [FindsNone, not_forall, Bool.not_eq_false] at hfinds
      obtain ⟨t, ht, hat, hsees⟩ := hfinds
      simp only [linkStep, LinkSys.nextStep, ht] at hs
      obtain ⟨t', ht', rfl⟩ := Option.map_eq_some_iff.mp hs
      have hpc : t'.pc = .callback := (next_callback ht').mpr ⟨hat, hsees⟩
      refine Or.inr ⟨t', s.setPoll_poll_self .recv t', hpc, Or.inl ?_⟩
      show Function.update s.call .recv t.cb.first .recv = .read
      rw [Function.update_self, h.cb t ht]
      exact linkCfg_cb_first cfg
    | ack => exact absurd trivial hfinds
  | _ => exact absurd trivial hfinds

theorem noticed_step (h : Staged cfg s) (hn : Noticed s) (hs : linkStep cfg s a = some s') :
    Noticed s' := by
  have hgrows : (∃ ws, s'.writes = s.writes ++ ws) → s.writes ≠ [] → Noticed s' := by
    rintro ⟨ws, hws⟩ hne
    refine Or.inl ?_
    rw [hws]
    exact List.append_ne_nil_of_left_ne_nil hne ws
  rcases step_frame hs with hf | ⟨x, t, hf⟩ | ⟨x, t, os, ht, hpc, hf⟩
  · rcases hn with hne | ⟨t, ht, hpc, hat⟩
    · exact hgrows ⟨[], by simp [hf.writes]⟩ hne
    · rw [← hf.call] at hat
      rcases hf.poll .recv with heq | ⟨t₀, ht₀, ht'⟩ | ⟨-, hstart⟩
      · exact Or.inr ⟨t, heq.trans ht, hpc, hat⟩
      · obtain rfl : t₀ = t := Option.some.inj (ht₀.symm.trans ht)
        exact Or.inr ⟨_, ht', hpc, hat⟩
      · rw [h.before (by rw [(hstart rfl).1]; rfl)] at ht
        cases ht
  · rcases hn with hne | ⟨t₀, ht₀, hpc, hat⟩
    · exact hgrows ⟨[], by simp [hf.writes]⟩ hne
    · have hx : x ≠ .recv := by
        rintro rfl
        obtain rfl : t = t₀ := Option.some.inj (hf.task.1.symm.trans ht₀)
        exact hf.task.2 hpc
      obtain ⟨t', hpoll, -, -⟩ := hf.poll
      refine Or.inr ⟨t₀, ?_, hpc, ?_⟩
      · rw [hpoll]
        exact (s.setPoll_poll_of_ne hx.symm t').trans ht₀
      · rw [hf.others _ hx.symm]
        exact hat
  · rcases hn with hne | ⟨t₀, ht₀, hpc₀, hat⟩
    · exact hgrows hf.writes hne
    · by_cases hx : x = .recv
      · subst hx
        rcases hat with hread | hset
        · obtain ⟨hcall, hpoll⟩ := hf.read hread
          exact Or.inr ⟨t₀, (congrFun hpoll _).trans ht₀, hpc₀, Or.inr hcall⟩
        · exact Or.inl (hf.setNew hset)
      · rw [← hf.others .recv (Ne.symm hx)] at hat
        rcases hf.poll with heq | ⟨-, heq⟩ | ⟨-, t', -, heq⟩
        · exact Or.inr ⟨t₀, (congrFun heq _).trans ht₀, hpc₀, hat⟩
        · have htell := @tell_poll cfg s (s.receiver cfg x t.cb) (s.notice t.cb).2 .recv
          rcases htell with hsame | ⟨-, t₁, ht₁, hsend⟩
          · exact Or.inr ⟨t₀, (congrFun heq _).trans (hsame.trans ht₀), hpc₀, hat⟩
          · obtain rfl : t₁ = t₀ := Option.some.inj (ht₁.symm.trans ht₀)
            exact Or.inr ⟨_, (congrFun heq _).trans hsend, hpc₀, hat⟩
        · refine Or.inr ⟨t₀, ?_, hpc₀, hat⟩
          rw [heq]
          exact (s.setPoll_poll_of_ne (Ne.symm hx) t').trans ht₀

/-! ## §6 Failed connects -/

/-- **A failed connect has no effect** exactly when the receive poll task
finds no message before it is stopped. -/
theorem failed_connect_iff (cfg : LinkCfg) (inn out : HpscShmemRegion) (rctx : LinkRequestCtx)
    (tid : RtemsId) (as : List LinkAct) (s : LinkSys)
    (h : exec (linkStep cfg) (.start inn out rctx tid) as = some s) (hctl : s.ctl = .failed) :
    NoEffect s ↔ Along (linkStep cfg) FindsNone (.start inn out rctx tid) as := by
  have hstaged : Staged cfg (.start inn out rctx tid) :=
    ⟨fun _ => rfl, fun hu => (by cases hu), fun _ ht => (by cases ht)⟩
  constructor
  · intro hno
    refine along_of_exec (D := Noticed) (fun _ _ _ => staged_step)
      (fun _ _ _ => noticed_of_finds) (fun _ _ _ => noticed_step) hstaged h ?_
    rintro (hwrites | ⟨t, ht, hpc, -⟩)
    · exact hwrites hno.writes
    · rcases hno.stopped .recv t ht with hexit | hexit <;> rw [hexit] at hpc <;> cases hpc
  · intro hG
    have hunnoticed : Unnoticed cfg (.start inn out rctx tid) := fun _ =>
      ⟨safe_start inn out rctx tid, fun _ _ ht => (by cases ht), rfl, rfl⟩
    have hidle := exec_invariant (I := Unnoticed cfg) (fun _ _ _ => unnoticed_step) hunnoticed hG h
    exact (hidle (by rw [hctl]; rfl)).noEffect hctl

instance (s : LinkSys) : ∀ a, Decidable (FindsNone s a)
  | .next .recv =>
    match h : s.poll .recv with
    | none => isTrue fun t ht => by rw [h] at ht; cases ht
    | some t =>
      decidable_of_iff (t.pc = .testStatus → hasEvent s.inn.status t.statusMask = false)
        (by simp [FindsNone, h])
  | .next .ack | .ctl _ | .close | .timeout _ | .wake _ | .call _ | .remote _ _ | .request _
  | .handler _ => isTrue trivial

/-- The undo path: the receive poll task is stopped, and everything freed. -/
def undoActs : List LinkAct :=
  [.ctl false, .ctl true] ++ leaveActs .recv ++ List.replicate 6 (.ctl true)

/-- The ACK poll task cannot be started; the message comes too late. -/
theorem message_after_test : ∃ s, s.ctl = .failed ∧ NoEffect s := by
  let empty : HpscShmemRegion := ⟨Msg.zero, 0#32⟩
  let start : LinkSys := .start empty empty ⟨idNone, 0#32, false, none, 0, 0⟩ 9
  let as : List LinkAct := List.replicate 7 (.ctl true) ++
    [.timeout .recv, .next .recv, .next .recv, .remote ⟨Msg.zero, statusBitNew⟩ empty] ++ undoActs
  have hctl : (exec (linkStep exampleCfg) start as).map (·.ctl) = some .failed := by decide
  obtain ⟨s, hs, hfailed⟩ := Option.map_eq_some_iff.mp hctl
  exact ⟨s, hfailed, (failed_connect_iff exampleCfg _ _ _ _ as s hs hfailed).mpr (by decide)⟩

/-- The message is there when the receive poll task tests the status. The
command is queued with a link that is then freed. -/
theorem queued_with_freed_link : ¬ ∀ cfg inn out rctx tid as s,
    exec (linkStep cfg) (.start inn out rctx tid) as = some s → s.ctl = .failed → NoEffect s := by
  intro h
  let as : List LinkAct := List.replicate 7 (.ctl true) ++ receiveActs ++
    [.call .recv, .call .recv] ++ undoActs
  have hrun : (exec (linkStep exampleCfg) exampleStart as).map
      (fun s => (s.ctl, s.commands.map (·.link), s.heap .link)) =
      some (.failed, [some 0x100], .freed) := by decide
  obtain ⟨s, hs, hend⟩ := Option.map_eq_some_iff.mp hrun
  obtain ⟨hctl, hrest⟩ := Prod.mk.inj hend
  have hcommands := (h _ _ _ _ _ _ s hs hctl).commands
  rw [hcommands] at hrest
  cases (Prod.mk.inj hrest).1

end HpscRtems.Shmem
