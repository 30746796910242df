/-
HpscRtems.Watchdog — the watchdog of one CPU: its kicker task, and the
calls that start and stop it (`watchdog-cpu.c`).

The kicker's variable `events` is not initialised, and a receive that times
out does not write it; `rtems_task_start` is given what it holds. Of the
driver of the watchdog the model has the handlers that are installed and
the watchdogs that are enabled; a handler that is installed is not
installed again, and one that is not is not removed. `kicks` are the
watchdogs kicked so far.

`told` and `before` are not in the program: the tasks that
`watchdog_cpu_task_stop` has told to exit, and what the last call found.
No other party reads the context of the CPU between the writes of a start,
which are one step.
-/
import HpscRtems.Machine.Run
import HpscRtems.Tasks

namespace HpscRtems.Watchdog

open Machine Rtems

/-! ## §1 State -/

/-- `WDT_TASK_EXIT` -/
def wdtTaskExit : EventSet := 0x1#32

/-- A handler of the watchdog's interrupt, with its argument. -/
structure Isr where
  wdt : Ptr
  cb : Ptr
  cbArg : Ptr
  deriving DecidableEq

/-- `struct watchdog_task_ctx` -/
structure WatchdogTaskCtx where
  wdt : Ptr
  tid : RtemsId
  ticks : Nat
  cb : Ptr
  cbArg : Ptr
  running : Bool
  deriving DecidableEq

def WatchdogTaskCtx.isr (c : WatchdogTaskCtx) : Isr := ⟨c.wdt, c.cb, c.cbArg⟩

/-- The program points of `watchdog_task`. -/
inductive KickPc where
  /-- `wdt_kick` -/
  | kick
  /-- `rtems_event_receive` -/
  | receive
  /-- The receive has returned, with or without time-out. -/
  | test (timedOut : Bool)
  | clearRunning
  /-- `rtems_task_exit` -/
  | exit
  deriving DecidableEq

/-- The task has still to clear `running`. -/
def KickPc.owns : KickPc → Bool
  | exit => false
  | _ => true

/-- A kicker task and its variable `events`. -/
structure Kicker where
  pc : KickPc
  events : EventSet
  deriving DecidableEq

/-- The arguments of `watchdog_cpu_task_start`; `wdt` is not `NULL`. -/
structure StartArgs where
  wdt : Nat
  taskId : TaskId
  ticks : Nat
  cb : Ptr
  cbArg : Ptr
  deriving DecidableEq

def StartArgs.isr (a : StartArgs) : Isr := ⟨some a.wdt, a.cb, a.cbArg⟩

/-- The context a start fills in. -/
def StartArgs.ctx (a : StartArgs) : WatchdogTaskCtx :=
  ⟨some a.wdt, a.taskId, a.ticks, a.cb, a.cbArg, true⟩

inductive WdtCall where
  | start (a : StartArgs)
  | stop
  deriving DecidableEq

/-- The program points of the task that starts and stops the watchdog. -/
inductive WdtPc where
  | idle
  | startTest (a : StartArgs)
  | fill (a : StartArgs)
  /-- `wdt_handler_install` -/
  | install (a : StartArgs)
  | enable (a : StartArgs)
  /-- `rtems_task_start` -/
  | taskStart (a : StartArgs)
  /-- `rtems_task_start` has returned `sc`; the handler is removed. -/
  | undo (a : StartArgs) (sc : StatusCode)
  | fail (a : StartArgs) (sc : StatusCode)
  | stopTest
  | stopRemove
  | stopSend
  | stopWait
  | returned (c : WdtCall) (sc : StatusCode)
  | assertFailed
  deriving DecidableEq

/-- The controlling task is outside a call. -/
def WdtPc.atRest : WdtPc → Bool
  | idle | returned _ _ => true
  | _ => false

/-- What a call finds. -/
structure Found where
  ctx : WatchdogTaskCtx
  installed : Isr → Bool
  enabled : Nat → Bool

structure WdtState where
  ctx : WatchdogTaskCtx
  installed : Isr → Bool
  enabled : Nat → Bool
  tasks : TaskTable Kicker
  ctl : WdtPc
  kicks : List Ptr
  told : RtemsId → Bool
  before : Found

/-- `tasks = { 0 }`: nothing is installed and no watchdog is enabled. -/
def WdtState.init : WdtState where
  ctx := ⟨none, idNone, 0, none, none, false⟩
  installed _ := false
  enabled _ := false
  tasks := .empty
  ctl := .idle
  kicks := []
  told _ := false
  before := ⟨⟨none, idNone, 0, none, none, false⟩, fun _ => false, fun _ => false⟩

/-! ## §2 Steps -/

inductive WdtAct where
  /-- The rest of the system. -/
  | outside (a : OutsideAct)
  /-- The controlling task calls. -/
  | call (c : WdtCall)
  /-- The controlling task executes its next statement. -/
  | ctl
  /-- `wdt_handler_install` returns `sc`. -/
  | install (sc : StatusCode)
  /-- `rtems_task_start` returns `sc`; `garbage` is what `events` of the new
  task holds. -/
  | taskStart (sc : StatusCode) (garbage : EventSet)
  /-- `rtems_event_send` of the controlling task, which is `self`. -/
  | exitSend (self : TaskId)
  /-- A kicker task executes its next statement. -/
  | task (id : TaskId)
  /-- `rtems_event_receive` returns, with a time-out or the event. -/
  | timeout (id : TaskId)
  | wake (id : TaskId)
  deriving DecidableEq

namespace WdtState

def task (s : WdtState) (id : RtemsId) : TaskObj Kicker := s.tasks.task id

/-- Kicker `id` goes on as `k`. -/
def goto (s : WdtState) (id : TaskId) (k : Kicker) : WdtState :=
  { s with tasks := s.tasks.set id (.running k) }

/-- `wdt_handler_remove`, and the assertion that it succeeds. -/
def handlerRemove (s : WdtState) (i : Isr) (ctl : WdtPc) : WdtState :=
  if s.installed i then { s with installed := Function.update s.installed i false, ctl := ctl }
  else { s with ctl := .assertFailed }

/-- The statements of `watchdog_cpu_task_start` and `watchdog_cpu_task_stop`
between the calls whose results are open. -/
def ctlStep (s : WdtState) : Option WdtState :=
  match s.ctl with
  | .startTest a =>
    if s.ctx.running then some { s with ctl := .returned (.start a) .unsatisfied }
    else some { s with ctl := .fill a }
  | .fill a => some { s with ctx := a.ctx, ctl := .install a }
  | .enable a =>
    some { s with enabled := Function.update s.enabled a.wdt true, ctl := .taskStart a }
  | .undo a sc => some (s.handlerRemove a.isr (.fail a sc))
  | .fail a sc => some { s with ctx.running := false, ctl := .returned (.start a) sc }
  | .stopTest =>
    if s.ctx.running then some { s with ctl := .stopRemove }
    else some { s with ctl := .returned .stop .notDefined }
  | .stopRemove => some (s.handlerRemove s.ctx.isr .stopSend)
  | .stopWait =>
    if s.ctx.running then some s else some { s with ctl := .returned .stop .successful }
  | _ => none

/-- `wdt_handler_install(wdt, cb, cb_arg)` -/
def installStep (s : WdtState) (sc : StatusCode) : Option WdtState :=
  match s.ctl with
  | .install a =>
    if sc = .successful then
      if s.installed a.isr then none
      else some { s with installed := Function.update s.installed a.isr true, ctl := .enable a }
    else some { s with ctl := .fail a sc }
  | _ => none

/-- `rtems_task_start(task_id, watchdog_task, ctx)`. It succeeds on a dormant
task only. -/
def taskStartStep (s : WdtState) (sc : StatusCode) (garbage : EventSet) : Option WdtState :=
  match s.ctl with
  | .taskStart a =>
    if sc = .successful then
      match s.task a.taskId with
      | .dormant =>
        some { s.goto a.taskId ⟨.kick, garbage⟩ with
          told := Function.update s.told a.taskId false
          ctl := .returned (.start a) .successful }
      | _ => none
    else some { s with ctl := .undo a sc }
  | _ => none

/-- `rtems_event_send(ctx->tid, WDT_TASK_EXIT)` -/
def exitSendStep (s : WdtState) (self : TaskId) : Option WdtState :=
  match s.ctl with
  | .stopSend =>
    let r := s.tasks.send self s.ctx.tid wdtTaskExit
    if r.2 = .successful then
      some { s with
        tasks := r.1
        told := Function.update s.told s.ctx.tid true
        ctl := .stopWait }
    else some { s with ctl := .returned .stop r.2 }
  | _ => none

/-- The statements of `watchdog_task`. -/
def taskStep (s : WdtState) (id : TaskId) (k : Kicker) : Option WdtState :=
  match k.pc with
  | .kick => some { s.goto id { k with pc := .receive } with kicks := s.kicks ++ [s.ctx.wdt] }
  | .test _ =>
    some (s.goto id { k with pc := if hasEvent k.events wdtTaskExit then .clearRunning else .kick })
  | .clearRunning => some ({ s with ctx.running := false }.goto id { k with pc := .exit })
  | .exit => some { s with tasks := s.tasks.set id .absent }
  | .receive => none

/-- `rtems_event_receive(WDT_TASK_EXIT, RTEMS_EVENT_ANY, ctx->ticks, &events)`
times out. -/
def timeoutStep (s : WdtState) (id : TaskId) (k : Kicker) : Option WdtState :=
  if k.pc = .receive ∧ s.ctx.ticks ≠ noTimeout ∧
      hasEvent (s.tasks.pending id) wdtTaskExit = false then
    some (s.goto id { k with pc := .test true })
  else none

/-- The receive returns the event. -/
def wakeStep (s : WdtState) (id : TaskId) (k : Kicker) : Option WdtState :=
  if k.pc = .receive ∧ hasEvent (s.tasks.pending id) wdtTaskExit = true then
    some ({ s with tasks := s.tasks.received id wdtTaskExit }.goto id
      ⟨.test false, s.tasks.pending id &&& wdtTaskExit⟩)
  else none

/-- A step of the kicker task `id`. -/
def ofTask (s : WdtState) (id : TaskId) (f : Kicker → Option WdtState) : Option WdtState :=
  match s.task id with
  | .running k => f k
  | _ => none

end WdtState

/-- One step of the system. -/
def wdtStep (s : WdtState) : WdtAct → Option WdtState
  | .outside a => (s.tasks.outsideStep wdtTaskExit a).map fun t => { s with tasks := t }
  | .call c =>
    if s.ctl.atRest then
      some { s with
        ctl := match c with
          | .start a => .startTest a
          | .stop => .stopTest
        before := ⟨s.ctx, s.installed, s.enabled⟩ }
    else none
  | .ctl => s.ctlStep
  | .install sc => s.installStep sc
  | .taskStart sc garbage => s.taskStartStep sc garbage
  | .exitSend self => s.exitSendStep self
  | .task id => s.ofTask id (s.taskStep id)
  | .timeout id => s.ofTask id (s.timeoutStep id)
  | .wake id => s.ofTask id (s.wakeStep id)

/-! ## §3 Inversion -/

/-- Where a call begins. -/
def WdtCall.enter : WdtCall → WdtPc
  | .start a => .startTest a
  | .stop => .stopTest

/-- The steps of the system, by the statement that is executed. -/
inductive Moved (s : WdtState) : WdtAct → WdtState → Prop
  | outside {a t} (h : Outside wdtTaskExit s.tasks t) : Moved s (.outside a) { s with tasks := t }
  | call (c : WdtCall) (h : s.ctl.atRest = true) :
      Moved s (.call c)
        { s with ctl := c.enter, before := ⟨s.ctx, s.installed, s.enabled⟩ }
  | refuse {a} (h : s.ctl = .startTest a) (hr : s.ctx.running = true) :
      Moved s .ctl { s with ctl := .returned (.start a) .unsatisfied }
  | begin {a} (h : s.ctl = .startTest a) (hr : s.ctx.running = false) :
      Moved s .ctl { s with ctl := .fill a }
  | filled {a} (h : s.ctl = .fill a) : Moved s .ctl { s with ctx := a.ctx, ctl := .install a }
  | installed {a} (h : s.ctl = .install a) (hi : s.installed a.isr = false) :
      Moved s (.install .successful)
        { s with installed := Function.update s.installed a.isr true, ctl := .enable a }
  | notInstalled {a sc} (h : s.ctl = .install a) (hsc : sc ≠ .successful) :
      Moved s (.install sc) { s with ctl := .fail a sc }
  | enabled {a} (h : s.ctl = .enable a) :
      Moved s .ctl { s with enabled := Function.update s.enabled a.wdt true, ctl := .taskStart a }
  | started {a garbage} (h : s.ctl = .taskStart a) (hd : s.task a.taskId = .dormant) :
      Moved s (.taskStart .successful garbage)
        { s.goto a.taskId ⟨.kick, garbage⟩ with
          told := Function.update s.told a.taskId false
          ctl := .returned (.start a) .successful }
  | notStarted {a sc garbage} (h : s.ctl = .taskStart a) (hsc : sc ≠ .successful) :
      Moved s (.taskStart sc garbage) { s with ctl := .undo a sc }
  | undone {a sc} (h : s.ctl = .undo a sc) : Moved s .ctl (s.handlerRemove a.isr (.fail a sc))
  | failed {a sc} (h : s.ctl = .fail a sc) :
      Moved s .ctl { s with ctx.running := false, ctl := .returned (.start a) sc }
  | stopTest (h : s.ctl = .stopTest) (hr : s.ctx.running = true) :
      Moved s .ctl { s with ctl := .stopRemove }
  | noKicker (h : s.ctl = .stopTest) (hr : s.ctx.running = false) :
      Moved s .ctl { s with ctl := .returned .stop .notDefined }
  | removed (h : s.ctl = .stopRemove) : Moved s .ctl (s.handlerRemove s.ctx.isr .stopSend)
  | told {self} (h : s.ctl = .stopSend)
      (he : (s.task (TaskTable.receiver self s.ctx.tid)).exists = true) :
      Moved s (.exitSend self)
        { s with
          tasks := (s.tasks.send self s.ctx.tid wdtTaskExit).1
          told := Function.update s.told s.ctx.tid true
          ctl := .stopWait }
  | untold {self} (h : s.ctl = .stopSend)
      (he : (s.task (TaskTable.receiver self s.ctx.tid)).exists = false) :
      Moved s (.exitSend self) { s with ctl := .returned .stop .invalidId }
  | wait (h : s.ctl = .stopWait) (hr : s.ctx.running = true) : Moved s .ctl s
  | waited (h : s.ctl = .stopWait) (hr : s.ctx.running = false) :
      Moved s .ctl { s with ctl := .returned .stop .successful }
  | kicked {id : TaskId} {k} (ht : s.task id = .running k) (hpc : k.pc = .kick) :
      Moved s (.task id)
        { s.goto id { k with pc := .receive } with kicks := s.kicks ++ [s.ctx.wdt] }
  | leave {id : TaskId} {k b} (ht : s.task id = .running k) (hpc : k.pc = .test b)
      (he : hasEvent k.events wdtTaskExit = true) :
      Moved s (.task id) (s.goto id { k with pc := .clearRunning })
  | stay {id : TaskId} {k b} (ht : s.task id = .running k) (hpc : k.pc = .test b)
      (he : hasEvent k.events wdtTaskExit = false) :
      Moved s (.task id) (s.goto id { k with pc := .kick })
  | cleared {id : TaskId} {k} (ht : s.task id = .running k) (hpc : k.pc = .clearRunning) :
      Moved s (.task id) ({ s with ctx.running := false }.goto id { k with pc := .exit })
  | exited {id : TaskId} {k} (ht : s.task id = .running k) (hpc : k.pc = .exit) :
      Moved s (.task id) { s with tasks := s.tasks.set id .absent }
  | timedOut {id : TaskId} {k} (ht : s.task id = .running k) (hpc : k.pc = .receive)
      (hticks : s.ctx.ticks ≠ noTimeout)
      (he : hasEvent (s.tasks.pending id) wdtTaskExit = false) :
      Moved s (.timeout id) (s.goto id { k with pc := .test true })
  | woken {id : TaskId} {k} (ht : s.task id = .running k) (hpc : k.pc = .receive)
      (he : hasEvent (s.tasks.pending id) wdtTaskExit = true) :
      Moved s (.wake id)
        ({ s with tasks := s.tasks.received id wdtTaskExit }.goto id
          ⟨.test false, s.tasks.pending id &&& wdtTaskExit⟩)

variable {s s' : WdtState} {a : WdtAct}

theorem ofTask_some {id : TaskId} {f : Kicker → Option WdtState} (h : s.ofTask id f = some s') :
    ∃ k, s.task id = .running k ∧ f k = some s' := by
  unfold WdtState.ofTask at h
  split at h
  · exact ⟨_, ‹_›, h⟩
  · cases h

theorem ctlStep_moved (h : s.ctlStep = some s') : Moved s .ctl s' := by
  unfold WdtState.ctlStep at h
  split at h
  case h_1 a hc =>
    split at h <;> cases h
    · exact .refuse hc ‹_›
    · exact .begin hc (by simpa using ‹¬ s.ctx.running = true›)
  case h_2 a hc => cases h; exact .filled hc
  case h_3 a hc => cases h; exact .enabled hc
  case h_4 a sc hc => cases h; exact .undone hc
  case h_5 a sc hc => cases h; exact .failed hc
  case h_6 hc =>
    split at h <;> cases h
    · exact .stopTest hc ‹_›
    · exact .noKicker hc (by simpa using ‹¬ s.ctx.running = true›)
  case h_7 hc => cases h; exact .removed hc
  case h_8 hc =>
    split at h <;> cases h
    · exact .wait hc ‹_›
    · exact .waited hc (by simpa using ‹¬ s.ctx.running = true›)
  case h_9 => cases h

theorem installStep_moved {sc : StatusCode} (h : s.installStep sc = some s') :
    Moved s (.install sc) s' := by
  unfold WdtState.installStep at h
  split at h
  · split at h
    · subst sc
      split at h <;> cases h
      exact .installed ‹_› (by simpa using ‹¬ _ = true›)
    · cases h
      exact .notInstalled ‹_› ‹_›
  · cases h

theorem taskStartStep_moved {sc : StatusCode} {g : EventSet} (h : s.taskStartStep sc g = some s') :
    Moved s (.taskStart sc g) s' := by
  unfold WdtState.taskStartStep at h
  split at h
  · split at h
    · subst sc
      split at h <;> cases h
      exact .started ‹_› ‹_›
    · cases h
      exact .notStarted ‹_› ‹_›
  · cases h

theorem exitSendStep_moved {self : TaskId} (h : s.exitSendStep self = some s') :
    Moved s (.exitSend self) s' := by
  unfold WdtState.exitSendStep at h
  split at h
  · rename_i hc
    by_cases he : (s.task (TaskTable.receiver self s.ctx.tid)).exists = true
    · have hm := Moved.told hc he
      rw [s.tasks.send_of_exists self _ wdtTaskExit he] at h hm
      cases h
      exact hm
    · have he' : (s.task (TaskTable.receiver self s.ctx.tid)).exists = false := by simpa using he
      rw [s.tasks.send_of_absent self _ wdtTaskExit he'] at h
      cases h
      exact .untold hc he'
  · cases h

theorem taskStep_moved {id : TaskId} {k : Kicker} (ht : s.task id = .running k)
    (h : s.taskStep id k = some s') : Moved s (.task id) s' := by
  unfold WdtState.taskStep at h
  split at h
  case h_1 hpc => cases h; exact .kicked ht hpc
  case h_2 b hpc =>
    cases h
    cases he : hasEvent k.events wdtTaskExit with
    | true => exact .leave ht hpc he
    | false => exact .stay ht hpc he
  case h_3 hpc => cases h; exact .cleared ht hpc
  case h_4 hpc => cases h; exact .exited ht hpc
  case h_5 => cases h

/-- **Inversion**: every step is one of those listed. -/
theorem wdtStep_moved (h : wdtStep s a = some s') : Moved s a s' := by
  cases a with
  | outside a =>
    obtain ⟨t, ht, rfl⟩ := Option.map_eq_some_iff.mp h
    exact .outside (outside_of_step ht)
  | call c =>
    simp only [wdtStep] at h
    split at h <;> cases h
    cases c with
    | start a => exact .call (.start a) ‹_›
    | stop => exact .call .stop ‹_›
  | ctl => exact ctlStep_moved h
  | install sc => exact installStep_moved h
  | taskStart sc g => exact taskStartStep_moved h
  | exitSend self => exact exitSendStep_moved h
  | task id =>
    obtain ⟨k, ht, h⟩ := ofTask_some h
    exact taskStep_moved ht h
  | timeout id =>
    obtain ⟨k, ht, h⟩ := ofTask_some h
    simp only [WdtState.timeoutStep] at h
    split at h <;> cases h
    rename_i hc
    exact .timedOut ht hc.1 hc.2.1 hc.2.2
  | wake id =>
    obtain ⟨k, ht, h⟩ := ofTask_some h
    simp only [WdtState.wakeStep] at h
    split at h <;> cases h
    rename_i hc
    exact .woken ht hc.1 hc.2

end HpscRtems.Watchdog
