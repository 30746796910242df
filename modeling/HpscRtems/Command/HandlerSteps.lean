/-
HpscRtems.Command.HandlerSteps — what one step of the command handler's
system can do.

`Moved` lists the steps with their guards and results, one constructor for
each statement of `command.c`, and `handlerStep_moved` is the inversion.
-/
import HpscRtems.Command.Handler
import HpscRtems.Command.QueueTheorems

namespace HpscRtems.Command

open Machine Rtems

variable {ι : Type} {s s' : HandlerState ι} {a : HandlerAct ι}

/-- The controlling task is outside a call. -/
def CtlPc.atRest : CtlPc → Bool
  | .idle | .refused _ | .returned _ _ => true
  | _ => false

/-- Where a call begins. -/
def CtlCall.enter : CtlCall → CtlPc
  | .start id cb ticks => .startTest (.start id cb ticks)
  | .destroy => .destroyTest .destroy

/-- What follows `cmd_handler_set` for the call `c`. -/
def AfterSet.goOn (c : CtlCall) : AfterSet → CtlPc
  | .taskStart => .taskStart c
  | .ret sc => .returned c sc

/-- The program point after the callback returned `replySz`. -/
def afterServe (item : CmdqItem) (replySz : Int) (reply : Msg) : HandlePc :=
  if replySz < 0 then .out item .handlerFailed
  else if replySz = 0 then .out item .success
  else .sendReply item reply

theorem ofTask_some {id : TaskId} {f : HandlerTask → Option (HandlerState ι)}
    (h : s.ofTask id f = some s') : ∃ t, s.task id = .running t ∧ f t = some s' := by
  unfold HandlerState.ofTask at h
  split at h
  · exact ⟨_, ‹_›, h⟩
  · cases h

variable [DecidableEq ι]

/-- The steps of the system, by the statement that is executed. -/
inductive Moved (s : HandlerState ι) : HandlerAct ι → HandlerState ι → Prop
  | outside {a t} (h : Outside (cmdEventNew ||| cmdEventExit) s.tasks t) :
      Moved s (.outside a) { s with tasks := t }
  | call (c : CtlCall) (h : s.ctl.atRest = true) : Moved s (.call c) { s with ctl := c.enter }
  | refuse {id cb ticks} (h : s.ctl = .startTest (.start id cb ticks))
      (hr : s.ctx.running = true) : Moved s .ctl { s with ctl := .refused (.start id cb ticks) }
  | begin {id cb ticks} (h : s.ctl = .startTest (.start id cb ticks))
      (hr : s.ctx.running = false) :
      Moved s .ctl
        { s with ctl := .setTid (.start id cb ticks) ⟨id, some cb, ticks, true⟩ .taskStart }
  | setTid {c v k} (h : s.ctl = .setTid c v k) :
      Moved s .ctl { s with ctx.tid := v.tid, ctl := .setCb c v k }
  | setCb {c v k} (h : s.ctl = .setCb c v k) :
      Moved s .ctl { s with ctx.cb := v.cb, ctl := .setTicks c v k }
  | setTicks {c v k} (h : s.ctl = .setTicks c v k) :
      Moved s .ctl { s with ctx.timeoutTicks := v.timeoutTicks, ctl := .setRunning c v k }
  | setRunning {c v k} (h : s.ctl = .setRunning c v k) :
      Moved s .ctl { s with ctx.running := v.running, ctl := k.goOn c }
  | started {id cb ticks} (h : s.ctl = .taskStart (.start id cb ticks))
      (hd : s.task s.ctx.tid = .dormant) :
      Moved s (.taskStart .successful)
        { s with
          tasks := s.tasks.set s.ctx.tid (.running ⟨cb, .flush⟩)
          ctl := .returned (.start id cb ticks) .successful }
  | startFailed {id cb ticks sc} (h : s.ctl = .taskStart (.start id cb ticks))
      (hsc : sc ≠ .successful) :
      Moved s (.taskStart sc) { s with ctl := .setTid (.start id cb ticks) .none (.ret sc) }
  | destroyTest {c} (h : s.ctl = .destroyTest c) (hr : s.ctx.running = true) :
      Moved s .ctl { s with ctl := .destroySend c }
  | noHandler {c} (h : s.ctl = .destroyTest c) (hr : s.ctx.running = false) :
      Moved s .ctl { s with ctl := .returned c .notDefined }
  | exitSent {c self} (h : s.ctl = .destroySend c)
      (he : (s.task (TaskTable.receiver self s.ctx.tid)).exists = true) :
      Moved s (.exitSend self)
        { s with tasks := (s.tasks.send self s.ctx.tid cmdEventExit).1, ctl := .destroyWait c }
  | exitUnsent {c self} (h : s.ctl = .destroySend c)
      (he : (s.task (TaskTable.receiver self s.ctx.tid)).exists = false) :
      Moved s (.exitSend self) { s with ctl := .returned c .invalidId }
  | wait {c} (h : s.ctl = .destroyWait c) (hr : s.ctx.running = true) : Moved s .ctl s
  | waited {c} (h : s.ctl = .destroyWait c) (hr : s.ctx.running = false) :
      Moved s .ctl { s with ctl := .setTid c .none (.ret .successful) }
  | dequeued {id : TaskId} {t q cmd cb cbArg} (ht : s.task id = .running t) (hpc : t.pc = .flush)
      (hq : cmdDequeue s.cmdq = (q, some (cmd, cb, cbArg))) :
      Moved s (.task id) (({ s with cmdq := q }).goto id t (.handle ⟨cmd, ⟨cb, cbArg⟩⟩))
  | drained {id : TaskId} {t} (ht : s.task id = .running t) (hpc : t.pc = .flush)
      (hq : s.cmdq.head = s.cmdq.tail) : Moved s (.task id) (s.goto id t .receive)
  | asserted {id : TaskId} {t item} (ht : s.task id = .running t) (hpc : t.pc = .handle item)
      (hcb : s.ctx.cb.isSome = true) : Moved s (.task id) (s.goto id t (.serve item))
  | assertFails {id : TaskId} {t item} (ht : s.task id = .running t) (hpc : t.pc = .handle item)
      (hcb : s.ctx.cb = none) : Moved s (.task id) (s.goto id t .assertFailed)
  | served {id : TaskId} {t item cb replySz reply} (ht : s.task id = .running t)
      (hpc : t.pc = .serve item) (hcb : s.ctx.cb = some cb) :
      Moved s (.served id replySz reply)
        ((s.note (.serve cb item.cmd)).goto id t (afterServe item replySz reply))
  | sendReply {id : TaskId} {t item reply} (ht : s.task id = .running t)
      (hpc : t.pc = .sendReply item reply) (hlink : item.cmd.link.isSome = true) :
      Moved s (.task id)
        ((s.note (.send item.cmd.link reply s.ctx.timeoutTicks)).goto id t (.inSend item))
  | sent {id : TaskId} {t item} (rc : Nat) (ht : s.task id = .running t)
      (hpc : t.pc = .inSend item) :
      Moved s (.sent id rc) (s.goto id t (.out item (if rc = 0 then .replyFailed else .success)))
  | reported {id : TaskId} {t item status cb} (ht : s.task id = .running t)
      (hpc : t.pc = .out item status) (hcb : item.handled.cb = some cb) :
      Moved s (.task id)
        ((s.note (.handled cb item.handled.cbArg status)).goto id t (.outAll item status))
  | unreported {id : TaskId} {t item status} (ht : s.task id = .running t)
      (hpc : t.pc = .out item status) (hcb : item.handled.cb = none) :
      Moved s (.task id) (s.goto id t (.outAll item status))
  | reportedAll {id : TaskId} {t item status cb} (ht : s.task id = .running t)
      (hpc : t.pc = .outAll item status) (hcb : s.handled.cb = some cb) :
      Moved s (.task id) ((s.note (.handled cb s.handled.cbArg status)).goto id t .flush)
  | unreportedAll {id : TaskId} {t item status} (ht : s.task id = .running t)
      (hpc : t.pc = .outAll item status) (hcb : s.handled.cb = none) :
      Moved s (.task id) (s.goto id t .flush)
  | woken {id : TaskId} {t} (ht : s.task id = .running t) (hpc : t.pc = .receive)
      (he : hasEvent (s.tasks.pending id) (cmdEventNew ||| cmdEventExit) = true) :
      Moved s (.wake id)
        (({ s with tasks := s.tasks.received id (cmdEventNew ||| cmdEventExit) }).goto id t
          (.check (s.tasks.pending id &&& (cmdEventNew ||| cmdEventExit))))
  | leave {id : TaskId} {t events} (ht : s.task id = .running t) (hpc : t.pc = .check events)
      (he : hasEvent events cmdEventExit = true) : Moved s (.task id) (s.goto id t .clearRunning)
  | stay {id : TaskId} {t events} (ht : s.task id = .running t) (hpc : t.pc = .check events)
      (he : hasEvent events cmdEventExit = false) : Moved s (.task id) (s.goto id t .flush)
  | cleared {id : TaskId} {t} (ht : s.task id = .running t) (hpc : t.pc = .clearRunning) :
      Moved s (.task id) (({ s with ctx.running := false }).goto id t .exit)
  | exited {id : TaskId} {t} (ht : s.task id = .running t) (hpc : t.pc = .exit) :
      Moved s (.task id) { s with tasks := s.tasks.set id .absent }
  | pushed {e cmd cb cbArg} (h : (s.enq e).between = false)
      (hrc : (cmdEnqueueCbUnsafe s.cmdq cmd cb cbArg).2 = 0) :
      Moved s (.push e cmd cb cbArg)
        (({ s with cmdq := (cmdEnqueueCbUnsafe s.cmdq cmd cb cbArg).1 }).enqGoto e
          (.test ⟨s.cmdq, (cmdEnqueueCbUnsafe s.cmdq cmd cb cbArg).1, ⟨cmd, ⟨cb, cbArg⟩⟩⟩))
  | full {e cmd cb cbArg} (h : (s.enq e).between = false)
      (hrc : cmdEnqueueCbUnsafe s.cmdq cmd cb cbArg = (s.cmdq, 1)) :
      Moved s (.push e cmd cb cbArg)
        (s.enqGoto e (.returned ⟨s.cmdq, s.cmdq, ⟨cmd, ⟨cb, cbArg⟩⟩⟩ 1))
  | noTid {e p} (h : s.enq e = .test p) (ht : s.ctx.tid = idNone) :
      Moved s (.enq e) (s.enqGoto e (.returned p 0))
  | tested {e p} (h : s.enq e = .test p) (ht : s.ctx.tid ≠ idNone) :
      Moved s (.enq e) (s.enqGoto e (.load p))
  | loaded {e p} (h : s.enq e = .load p) : Moved s (.enq e) (s.enqGoto e (.send p s.ctx.tid))
  | notified {e p id self} (h : s.enq e = .send p id)
      (he : (s.task (TaskTable.receiver self id)).exists = true) :
      Moved s (.notify e self)
        (({ s with tasks := (s.tasks.send self id cmdEventNew).1 }).enqGoto e (.returned p 0))
  | unheard {e p id self} (h : s.enq e = .send p id)
      (he : (s.task (TaskTable.receiver self id)).exists = false) :
      Moved s (.notify e self) (s.enqGoto e (.returned p 1))
  | dropped : Moved s .dropAll { s with cmdq := (cmdDropAll s.cmdq).1 }

theorem ctlStep_moved (h : s.ctlStep = some s') : Moved s .ctl s' := by
  unfold HandlerState.ctlStep at h
  split at h
  · split at h <;> cases h
    · exact .refuse ‹_› ‹_›
    · exact .begin ‹_› (by simpa using ‹¬ s.ctx.running = true›)
  · cases h; exact .setTid ‹_›
  · cases h; exact .setCb ‹_›
  · cases h; exact .setTicks ‹_›
  · cases h; exact .setRunning ‹_›
  · split at h <;> cases h
    · exact .destroyTest ‹_› ‹_›
    · exact .noHandler ‹_› (by simpa using ‹¬ s.ctx.running = true›)
  · split at h <;> cases h
    · exact .wait ‹_› ‹_›
    · exact .waited ‹_› (by simpa using ‹¬ s.ctx.running = true›)
  · cases h

theorem taskStartStep_moved {sc : StatusCode} (h : s.taskStartStep sc = some s') :
    Moved s (.taskStart sc) s' := by
  unfold HandlerState.taskStartStep at h
  split at h
  · split at h
    · subst sc
      split at h <;> cases h
      exact .started ‹_› ‹_›
    · cases h
      exact .startFailed ‹_› ‹_›
  · cases h

theorem exitSendStep_moved {self : TaskId} (h : s.exitSendStep self = some s') :
    Moved s (.exitSend self) s' := by
  unfold HandlerState.exitSendStep at h
  split at h
  · by_cases he : (s.task (TaskTable.receiver self s.ctx.tid)).exists = true
    · have hsend := s.tasks.send_of_exists self _ cmdEventExit he
      rw [hsend] at h
      cases h
      have hm := Moved.exitSent (s := s) ‹_› he
      rwa [hsend] at hm
    · have he' : (s.task (TaskTable.receiver self s.ctx.tid)).exists = false := by
        simpa using he
      rw [s.tasks.send_of_absent self _ cmdEventExit he'] at h
      cases h
      exact .exitUnsent ‹_› he'
  · cases h

/-- `cmd_flush` takes the next command or comes to its end. -/
theorem flush_moved {id : TaskId} {t : HandlerTask} (ht : s.task id = .running t)
    (hpc : t.pc = .flush) (h : s.taskStep id t = some s') : Moved s (.task id) s' := by
  simp only [HandlerState.taskStep, hpc] at h
  cases hq : cmdDequeue s.cmdq with
  | mk q item =>
    cases item with
    | none =>
      obtain ⟨rfl, hempty⟩ := cmdDequeue_none hq
      rw [hq] at h
      exact Option.some.inj h ▸ .drained ht hpc hempty
    | some item =>
      obtain ⟨cmd, cb, cbArg⟩ := item
      rw [hq] at h
      exact Option.some.inj h ▸ .dequeued ht hpc hq

theorem taskStep_moved {id : TaskId} {t : HandlerTask} (ht : s.task id = .running t)
    (h : s.taskStep id t = some s') : Moved s (.task id) s' := by
  cases hpc : t.pc with
  | flush => exact flush_moved ht hpc h
  | handle item =>
    simp only [HandlerState.taskStep, hpc] at h
    cases hcb : s.ctx.cb with
    | none =>
      rw [hcb] at h
      exact Option.some.inj h ▸ .assertFails ht hpc hcb
    | some cb =>
      rw [hcb] at h
      exact Option.some.inj h ▸ .asserted ht hpc (by rw [hcb]; rfl)
  | sendReply item reply =>
    simp only [HandlerState.taskStep, hpc] at h
    split at h
    · exact Option.some.inj h ▸ .sendReply ht hpc ‹_›
    · cases h
  | out item status =>
    simp only [HandlerState.taskStep, hpc] at h
    cases hcb : item.handled.cb with
    | none =>
      rw [hcb] at h
      exact Option.some.inj h ▸ .unreported ht hpc hcb
    | some cb =>
      rw [hcb] at h
      exact Option.some.inj h ▸ .reported ht hpc hcb
  | outAll item status =>
    simp only [HandlerState.taskStep, hpc] at h
    cases hcb : s.handled.cb with
    | none =>
      rw [hcb] at h
      exact Option.some.inj h ▸ .unreportedAll ht hpc hcb
    | some cb =>
      rw [hcb] at h
      exact Option.some.inj h ▸ .reportedAll ht hpc hcb
  | check events =>
    simp only [HandlerState.taskStep, hpc] at h
    cases he : hasEvent events cmdEventExit with
    | true =>
      rw [he] at h
      exact Option.some.inj h ▸ .leave ht hpc he
    | false =>
      rw [he] at h
      exact Option.some.inj h ▸ .stay ht hpc he
  | clearRunning =>
    simp only [HandlerState.taskStep, hpc] at h
    exact Option.some.inj h ▸ .cleared ht hpc
  | exit =>
    simp only [HandlerState.taskStep, hpc] at h
    exact Option.some.inj h ▸ .exited ht hpc
  | _ => simp [HandlerState.taskStep, hpc] at h

/-- An enqueue is taken, or refused with the queue unchanged. -/
theorem cmdEnqueueCbUnsafe_cases (q : Cmdq) (cmd : Cmd) (cb cbArg : Ptr) :
    (cmdEnqueueCbUnsafe q cmd cb cbArg).2 = 0 ∨ cmdEnqueueCbUnsafe q cmd cb cbArg = (q, 1) := by
  unfold cmdEnqueueCbUnsafe
  split
  · exact Or.inr rfl
  · exact Or.inl rfl

theorem pushStep_moved {e : ι} {cmd : Cmd} {cb cbArg : Ptr}
    (h : s.pushStep e cmd cb cbArg = some s') : Moved s (.push e cmd cb cbArg) s' := by
  unfold HandlerState.pushStep at h
  split at h
  · cases h
  · have hb : (s.enq e).between = false := by simpa using ‹¬ _ = true›
    rcases cmdEnqueueCbUnsafe_cases s.cmdq cmd cb cbArg with hrc | hrc
    · simp only [hrc, if_true, Option.some.injEq] at h
      subst h
      exact .pushed hb hrc
    · simp only [hrc, Option.some.injEq] at h
      subst h
      exact .full hb hrc

theorem enqStep_moved {e : ι} (h : s.enqStep e = some s') : Moved s (.enq e) s' := by
  unfold HandlerState.enqStep at h
  split at h
  · cases h
    split
    · exact .tested ‹_› ‹_›
    · exact .noTid ‹_› (by simpa using ‹¬ s.ctx.tid ≠ idNone›)
  · cases h; exact .loaded ‹_›
  · cases h

theorem notifyStep_moved {e : ι} {self : TaskId} (h : s.notifyStep e self = some s') :
    Moved s (.notify e self) s' := by
  unfold HandlerState.notifyStep at h
  split at h
  · rename_i p id hp
    by_cases he : (s.task (TaskTable.receiver self id)).exists = true
    · have hsend := s.tasks.send_of_exists self _ cmdEventNew he
      rw [hsend] at h
      cases h
      have hm := Moved.notified (s := s) hp he
      rwa [hsend] at hm
    · have he' : (s.task (TaskTable.receiver self id)).exists = false := by simpa using he
      rw [s.tasks.send_of_absent self _ cmdEventNew he'] at h
      cases h
      exact .unheard hp he'
  · cases h

/-- **Inversion**: every step is one of those listed. -/
theorem handlerStep_moved (h : handlerStep s a = some s') : Moved s a s' := by
  cases a with
  | outside a =>
    obtain ⟨t, ht, rfl⟩ := Option.map_eq_some_iff.mp h
    exact .outside (outside_of_step ht)
  | call c =>
    have hrest : s.ctl.atRest = true ∧ s' = { s with ctl := c.enter } := by
      simp only [handlerStep] at h
      split at h <;> cases h <;> refine ⟨by simp [*, CtlPc.atRest], ?_⟩ <;> cases c <;> rfl
    rw [hrest.2]
    exact .call c hrest.1
  | ctl => exact ctlStep_moved h
  | taskStart sc => exact taskStartStep_moved h
  | exitSend self => exact exitSendStep_moved h
  | task id =>
    obtain ⟨t, ht, h⟩ := ofTask_some h
    exact taskStep_moved ht h
  | served id replySz reply =>
    obtain ⟨t, ht, h⟩ := ofTask_some h
    simp only [HandlerState.servedStep] at h
    split at h <;> cases h
    exact .served ht ‹_› ‹_›
  | sent id rc =>
    obtain ⟨t, ht, h⟩ := ofTask_some h
    simp only [HandlerState.sentStep] at h
    split at h <;> cases h
    exact .sent rc ht ‹_›
  | wake id =>
    obtain ⟨t, ht, h⟩ := ofTask_some h
    simp only [HandlerState.wakeStep] at h
    split at h
    · split at h <;> cases h
      exact .woken ht ‹_› ‹_›
    · cases h
  | push e cmd cb cbArg => exact pushStep_moved h
  | enq e => exact enqStep_moved h
  | notify e self => exact notifyStep_moved h
  | dropAll =>
    cases h
    exact .dropped

end HpscRtems.Command
