/-
HpscRtems.Command.HandlerTheorems — the life of the command handler.

A handler task that has not cleared `running` owns `cmd_handler`: the
record names it and holds the callback it was started with. The
controlling task writes the record only while nobody owns it, and it asks
for an exit only where it then waits for it. So there is one handler at
most, and one that sleeps has been told of every command: the enqueuer
pushes before it reads `tid`, and `tid` is published before the task runs.
-/
import HpscRtems.Command.HandlerSteps

namespace HpscRtems.Command

open Machine Rtems

variable {ι : Type} {s s' : HandlerState ι} {a : HandlerAct ι}

/-! ## §1 The invariant -/

/-- No field of `cmd_handler` is being written and no task is being started. -/
def CtlPc.settled : CtlPc → Bool
  | .setTid .. | .setCb .. | .setTicks .. | .setRunning .. | .taskStart _ => false
  | _ => true

/-- The task has received `CMD_EVENT_EXIT`. -/
def HandlePc.leaving : HandlePc → Bool
  | .check events => hasEvent events cmdEventExit
  | .clearRunning => true
  | _ => false

/-- The task is in `cmd_flush`. -/
def HandlePc.flushing : HandlePc → Bool
  | .flush | .handle _ | .serve _ | .sendReply _ _ | .inSend _ | .out _ _ | .outAll _ _ => true
  | _ => false

/-- The enqueuer is going to tell task `id` of its command. -/
def EnqPc.tells (id : RtemsId) : EnqPc → Bool
  | .test _ | .load _ => true
  | .send _ id' => id' = id
  | _ => false

/-- What `cmd_handler_set` writes, by what follows it. -/
structure Setting (c : CtlCall) (v : CmdHandlerCtx) (k : AfterSet) : Prop where
  start : k = .taskStart →
    ∃ id cb ticks, c = .start id cb ticks ∧ v = ⟨id, some cb, ticks, true⟩
  ret : ∀ sc, k = .ret sc → v = .none

/-- What the controlling task has put into `cmd_handler`. -/
def CtlInv (ctx : CmdHandlerCtx) : CtlPc → Prop
  | .setTid c v k => Setting c v k
  | .setCb c v k => Setting c v k ∧ ctx.tid = v.tid
  | .setTicks c v k => Setting c v k ∧ ctx.tid = v.tid ∧ ctx.cb = v.cb
  | .setRunning c v k =>
    Setting c v k ∧ ctx.tid = v.tid ∧ ctx.cb = v.cb ∧ ctx.timeoutTicks = v.timeoutTicks
  | .taskStart c => ∃ id cb ticks, c = .start id cb ticks ∧ ctx = ⟨id, some cb, ticks, true⟩
  | .destroyTest c | .destroyWait c => c = .destroy
  | .destroySend c => c = .destroy ∧ ctx.running = true
  | .returned c sc => (c = .destroy ↔ sc = .successful) → ctx = .none
  | _ => True

structure HandlerInv (s : HandlerState ι) : Prop where
  /-- A task that has not cleared `running` is the one on record. -/
  owner : ∀ id t, s.task id = .running t → t.pc.owns = true →
    s.ctl.settled = true ∧ s.ctx.tid = id ∧ s.ctx.cb = some t.cb ∧ s.ctx.running = true
  running : s.ctl.settled = true → s.ctx.running = true →
    ∃ id t, s.task id = .running t ∧ t.pc.owns = true
  ctl : CtlInv s.ctx s.ctl
  ok : ∀ id t, s.task id = .running t → t.pc ≠ .assertFailed
  /-- An exit is asked for where it is waited for. -/
  exit : ∀ id t, s.task id = .running t → t.pc.owns = true →
    hasEvent (s.tasks.pending id) cmdEventExit = true ∨ t.pc.leaving = true →
    ∃ c, s.ctl = .destroyWait c
  fresh : ∀ id, s.task id = .dormant → hasEvent (s.tasks.pending id) cmdEventExit = false
  named : ∀ id, (s.task id).exists = true → id ≠ idNone
  /-- A task that waits has been told, or is going to be. -/
  awake : ∀ id t, s.task id = .running t → t.pc = .receive → s.cmdq.head ≠ s.cmdq.tail →
    hasEvent (s.tasks.pending id) cmdEventNew = true ∨ ∃ e, (s.enq e).tells id = true

theorem handlerInv_init (ι : Type) (handled : CmdHandledCtx) :
    HandlerInv (HandlerState.init ι handled) where
  owner _ _ h := by cases h
  running _ h := by cases h
  ctl := trivial
  ok _ _ h := by cases h
  exit _ _ h := by cases h
  fresh _ h := by cases h
  named _ h := by cases h
  awake _ _ h := by cases h

/-- What is known of `cmd_handler` at the program point. -/
theorem HandlerInv.ctl_at {pc : CtlPc} (hi : HandlerInv s) (hc : s.ctl = pc) : CtlInv s.ctx pc :=
  hc ▸ hi.ctl

/-! ## §2 Steps of the controlling task -/

/-- No task has `cmd_handler`. -/
def NoOwner (s : HandlerState ι) : Prop :=
  ∀ id t, s.task id = .running t → t.pc.owns = false

namespace HandlerInv

theorem noOwner_of_not_settled (hi : HandlerInv s) (h : s.ctl.settled = false) : NoOwner s := by
  intro id t ht
  by_contra ho
  have hk := (hi.owner id t ht (by simpa using ho)).1
  rw [h] at hk
  cases hk

theorem noOwner_of_not_running (hi : HandlerInv s) (h : s.ctx.running = false) : NoOwner s := by
  intro id t ht
  by_contra ho
  have hk := (hi.owner id t ht (by simpa using ho)).2.2.2
  rw [h] at hk
  cases hk

/-- The record changes while no task has it. -/
theorem write {ctx : CmdHandlerCtx} {ctl : CtlPc} (hi : HandlerInv s) (hn : NoOwner s)
    (hc : CtlInv ctx ctl) (hr : ctl.settled = true → ctx.running = false) :
    HandlerInv { s with ctx := ctx, ctl := ctl } where
  owner id t ht ho := by
    rw [hn id t ht] at ho
    cases ho
  running h1 h2 := by
    have hf : ctx.running = false := hr h1
    exact absurd (hf.symm.trans h2) (by simp)
  ctl := hc
  ok := hi.ok
  exit id t ht ho := by
    rw [hn id t ht] at ho
    cases ho
  fresh := hi.fresh
  named := hi.named
  awake := hi.awake

/-- The controlling task goes on and leaves the record alone. -/
theorem goOn {ctl : CtlPc} (hi : HandlerInv s) (hs : s.ctl.settled = true)
    (hw : ∀ c, s.ctl ≠ .destroyWait c) (hs' : ctl.settled = true) (hc : CtlInv s.ctx ctl) :
    HandlerInv { s with ctl := ctl } where
  owner id t ht ho := ⟨hs', (hi.owner id t ht ho).2⟩
  running _ h := hi.running hs h
  ctl := hc
  ok := hi.ok
  exit id t ht ho he := by
    obtain ⟨c, hcw⟩ := hi.exit id t ht ho he
    exact absurd hcw (hw c)
  fresh := hi.fresh
  named := hi.named
  awake := hi.awake

/-- Two tasks that have not cleared `running` are one. -/
theorem one (hi : HandlerInv s) {id j : RtemsId} {t u : HandlerTask}
    (ht : s.task id = .running t) (ho : t.pc.owns = true) (hu : s.task j = .running u)
    (hou : u.pc.owns = true) : j = id :=
  (hi.owner j u hu hou).2.1.symm.trans (hi.owner id t ht ho).2.1

end HandlerInv

/-! ## §3 Steps of a handler task -/

theorem task_goto (s : HandlerState ι) (id : TaskId) (t : HandlerTask) (pc : HandlePc) :
    (s.goto id t pc).task id = .running { t with pc := pc } := by
  simp [HandlerState.goto, HandlerState.task]

theorem running_goto {id : TaskId} {t u : HandlerTask} {pc : HandlePc} {j : RtemsId}
    (h : (s.goto id t pc).task j = .running u) :
    (j = id ∧ u = { t with pc := pc }) ∨ (j ≠ id ∧ s.task j = .running u) :=
  TaskTable.running_set _ h

theorem of_flushing {pc : HandlePc} (h : pc.flushing = true) :
    pc.owns = true ∧ pc ≠ .assertFailed ∧ pc.leaving = false ∧ pc ≠ .receive := by
  cases pc with
  | receive => cases h
  | check _ => cases h
  | clearRunning => cases h
  | exit => cases h
  | assertFailed => cases h
  | _ => exact ⟨rfl, nofun, rfl, nofun⟩

theorem owns_of_receive {pc : HandlePc} (h : pc = .receive) : pc.owns = true := by
  subst h
  rfl

namespace HandlerInv

/-- A task in its loop goes on in it, or leaves it on `CMD_EVENT_EXIT`. -/
theorem work {id : TaskId} {t : HandlerTask} {pc : HandlePc} {q : Cmdq} {log : List Callout}
    (hi : HandlerInv s) (ht : s.task id = .running t) (ho : t.pc.owns = true)
    (ho' : pc.owns = true) (hok : pc ≠ .assertFailed)
    (hleave : pc.leaving = true → t.pc.leaving = true)
    (hsleep : pc = .receive → q.head = q.tail) :
    HandlerInv (({ s with cmdq := q, log := log }).goto id t pc) := by
  constructor
  case owner =>
    intro j u hu hou
    rcases running_goto hu with ⟨rfl, rfl⟩ | ⟨_, hu'⟩
    · exact hi.owner id t ht ho
    · exact hi.owner j u hu' hou
  case running => exact fun _ _ => ⟨id, _, task_goto _ _ _ _, ho'⟩
  case ctl => exact hi.ctl
  case ok =>
    intro j u hu
    rcases running_goto hu with ⟨rfl, rfl⟩ | ⟨_, hu'⟩
    · exact hok
    · exact hi.ok j u hu'
  case exit =>
    intro j u hu hou he
    rcases running_goto hu with ⟨rfl, rfl⟩ | ⟨_, hu'⟩
    · exact hi.exit id t ht ho (he.imp_right hleave)
    · exact hi.exit j u hu' hou he
  case fresh =>
    intro j hj
    exact hi.fresh j (TaskTable.dormant_set _ hj).2
  case named => exact TaskTable.named_set _ _ hi.named
  case awake =>
    intro j u hu hpc hne
    rcases running_goto hu with ⟨rfl, rfl⟩ | ⟨hj, hu'⟩
    · exact absurd (hsleep hpc) hne
    · exact absurd (hi.one ht ho hu' (owns_of_receive hpc)) hj

/-- A task goes on in `cmd_flush`. -/
theorem flush {id : TaskId} {t : HandlerTask} {pc : HandlePc} {q : Cmdq} {log : List Callout}
    (hi : HandlerInv s) (ht : s.task id = .running t) (ho : t.pc.owns = true)
    (hpc : pc.flushing = true) :
    HandlerInv (({ s with cmdq := q, log := log }).goto id t pc) := by
  obtain ⟨howns, hok, hleave, hreceive⟩ := of_flushing hpc
  exact hi.work ht ho howns hok (fun hk => absurd (hleave.symm.trans hk) (by simp))
    (fun hk => absurd hk hreceive)

/-- The task receives its events. -/
theorem woken {id : TaskId} {t : HandlerTask} (hi : HandlerInv s) (ht : s.task id = .running t)
    (hpc : t.pc = .receive) :
    HandlerInv (({ s with tasks := s.tasks.received id (cmdEventNew ||| cmdEventExit) }).goto id t
      (.check (s.tasks.pending id &&& (cmdEventNew ||| cmdEventExit)))) := by
  have ho : t.pc.owns = true := owns_of_receive hpc
  have hother : ∀ {j : RtemsId}, j ≠ id →
      (s.tasks.received id (cmdEventNew ||| cmdEventExit)).pending j = s.tasks.pending j :=
    fun hj => Function.update_of_ne hj _ _
  have hgone : hasEvent ((s.tasks.received id (cmdEventNew ||| cmdEventExit)).pending id)
      cmdEventExit = false := by
    show hasEvent (eventClear s.tasks.pending id _ id) cmdEventExit = false
    rw [eventClear_self]
    simp [hasEvent, cmdEventNew, cmdEventExit, BitVec.and_assoc]
  have hkept : hasEvent (s.tasks.pending id &&& (cmdEventNew ||| cmdEventExit)) cmdEventExit =
      hasEvent (s.tasks.pending id) cmdEventExit := by
    simp [hasEvent, cmdEventNew, cmdEventExit, BitVec.and_assoc]
  constructor
  case owner =>
    intro j u hu hou
    rcases running_goto hu with ⟨rfl, rfl⟩ | ⟨_, hu'⟩
    · exact hi.owner id t ht ho
    · exact hi.owner j u hu' hou
  case running => exact fun _ _ => ⟨id, _, task_goto _ _ _ _, rfl⟩
  case ctl => exact hi.ctl
  case ok =>
    intro j u hu
    rcases running_goto hu with ⟨rfl, rfl⟩ | ⟨_, hu'⟩
    · simp
    · exact hi.ok j u hu'
  case exit =>
    intro j u hu hou he
    rcases running_goto hu with ⟨rfl, rfl⟩ | ⟨hj, hu'⟩
    · refine hi.exit id t ht ho (Or.inl ?_)
      rcases he with he | he
      · have he' := hgone.symm.trans he
        cases he'
      · exact hkept.symm.trans he
    · refine hi.exit j u hu' hou (he.imp_left fun he => ?_)
      exact (congrArg (hasEvent · cmdEventExit) (hother hj)).symm.trans he
  case fresh =>
    intro j hj
    obtain ⟨hji, hd⟩ := TaskTable.dormant_set _ hj
    show hasEvent ((s.tasks.received id _).pending j) cmdEventExit = false
    rw [hother hji]
    exact hi.fresh j hd
  case named => exact TaskTable.named_set _ _ hi.named
  case awake =>
    intro j u hu hpc' _
    rcases running_goto hu with ⟨rfl, rfl⟩ | ⟨hj, hu'⟩
    · cases hpc'
    · exact absurd (hi.one ht ho hu' (owns_of_receive hpc')) hj

/-- The last act of a handler task on the record. -/
theorem cleared {id : TaskId} {t : HandlerTask} (hi : HandlerInv s) (ht : s.task id = .running t)
    (hpc : t.pc = .clearRunning) :
    HandlerInv (({ s with ctx.running := false }).goto id t .exit) := by
  have ho : t.pc.owns = true := by rw [hpc]; rfl
  obtain ⟨c, hw⟩ := hi.exit id t ht ho (Or.inr (by rw [hpc]; rfl))
  have hnone : ∀ {j : RtemsId} {u : HandlerTask}, j ≠ id → s.task j = .running u →
      u.pc.owns = false := by
    intro j u hj hu
    by_contra hou
    exact hj (hi.one ht ho hu (by simpa using hou))
  constructor
  case owner =>
    intro j u hu hou
    rcases running_goto hu with ⟨rfl, rfl⟩ | ⟨hj, hu'⟩
    · cases hou
    · rw [hnone hj hu'] at hou
      cases hou
  case running =>
    intro _ hr
    cases hr
  case ctl =>
    have hctl := hi.ctl
    rw [hw] at hctl
    show CtlInv _ s.ctl
    rw [hw]
    exact hctl
  case ok =>
    intro j u hu
    rcases running_goto hu with ⟨rfl, rfl⟩ | ⟨_, hu'⟩
    · simp
    · exact hi.ok j u hu'
  case exit => exact fun _ _ _ _ _ => ⟨c, hw⟩
  case fresh =>
    intro j hj
    exact hi.fresh j (TaskTable.dormant_set _ hj).2
  case named => exact TaskTable.named_set _ _ hi.named
  case awake =>
    intro j u hu hpc' hne
    rcases running_goto hu with ⟨rfl, rfl⟩ | ⟨_, hu'⟩
    · cases hpc'
    · exact hi.awake j u hu' hpc' hne

/-- The task is gone. -/
theorem exited {id : TaskId} {t : HandlerTask} (hi : HandlerInv s) (ht : s.task id = .running t)
    (hpc : t.pc = .exit) : HandlerInv { s with tasks := s.tasks.set id .absent } := by
  have hkeep : ∀ {j : RtemsId} {x}, (s.tasks.set id .absent).task j = x → x ≠ .absent →
      s.task j = x :=
    fun hj hx => TaskTable.of_task_gone _ hj hx
  constructor
  case owner => exact fun j u hu hou => hi.owner j u (hkeep hu (by simp)) hou
  case running =>
    intro h1 h2
    obtain ⟨j, u, hu, hou⟩ := hi.running h1 h2
    refine ⟨j, u, ?_, hou⟩
    have hji : j ≠ id := by
      intro hj
      rw [hj, ht] at hu
      cases hu
      rw [hpc] at hou
      cases hou
    exact (TaskTable.task_set_of_ne _ _ hji).trans hu
  case ctl => exact hi.ctl
  case ok => exact fun j u hu => hi.ok j u (hkeep hu (by simp))
  case exit => exact fun j u hu hou he => hi.exit j u (hkeep hu (by simp)) hou he
  case fresh => exact fun j hj => hi.fresh j (hkeep hj (by simp))
  case named => exact TaskTable.named_set _ _ hi.named
  case awake => exact fun j u hu hpc' hne => hi.awake j u (hkeep hu (by simp)) hpc' hne

end HandlerInv

/-! ## §4 Starting, stopping, and the rest of the system -/

namespace HandlerInv

/-- `rtems_task_start` succeeds. -/
theorem started {id : TaskId} {cb ticks : Nat} (hi : HandlerInv s)
    (h : s.ctl = .taskStart (.start id cb ticks)) (hd : s.task s.ctx.tid = .dormant) :
    HandlerInv { s with
      tasks := s.tasks.set s.ctx.tid (.running ⟨cb, .flush⟩)
      ctl := .returned (.start id cb ticks) .successful } := by
  have hn : NoOwner s := hi.noOwner_of_not_settled (by rw [h]; rfl)
  obtain ⟨id', cb', ticks', hc, hctx⟩ := hi.ctl_at h
  cases hc
  have hid : s.ctx.tid ≠ idNone := hi.named _ (by rw [hd]; rfl)
  constructor
  case owner =>
    intro j u hu hou
    rcases TaskTable.running_set _ hu with ⟨rfl, rfl⟩ | ⟨_, hu'⟩
    · exact ⟨rfl, rfl, by rw [hctx], by rw [hctx]⟩
    · rw [hn j u hu'] at hou
      cases hou
  case running => exact fun _ _ => ⟨s.ctx.tid, _, TaskTable.task_set _ _ _, rfl⟩
  case ctl => exact fun hk => by cases hk.mpr rfl
  case ok =>
    intro j u hu
    rcases TaskTable.running_set _ hu with ⟨rfl, rfl⟩ | ⟨_, hu'⟩
    · simp
    · exact hi.ok j u hu'
  case exit =>
    intro j u hu hou he
    rcases TaskTable.running_set _ hu with ⟨rfl, rfl⟩ | ⟨_, hu'⟩
    · rcases he with he | he
      · exact absurd ((hi.fresh _ hd).symm.trans he) (by simp)
      · cases he
    · rw [hn j u hu'] at hou
      cases hou
  case fresh => exact fun j hj => hi.fresh j (TaskTable.dormant_set _ hj).2
  case named => exact @TaskTable.named_set _ s.tasks _ ⟨s.ctx.tid, hid⟩ hi.named
  case awake =>
    intro j u hu hpc hne
    rcases TaskTable.running_set _ hu with ⟨rfl, rfl⟩ | ⟨_, hu'⟩
    · cases hpc
    · exact hi.awake j u hu' hpc hne

/-- A stop finds the task that it tells to exit. -/
theorem exit_heard {c : CtlCall} {self : TaskId} (hi : HandlerInv s)
    (h : s.ctl = .destroySend c) :
    (s.task (TaskTable.receiver self s.ctx.tid)).exists = true := by
  obtain ⟨id, t, ht, ho⟩ := hi.running (by rw [h]; rfl) (hi.ctl_at h).2
  have hid : id ≠ idNone := hi.named id (by rw [ht]; rfl)
  rw [(hi.owner id t ht ho).2.1, TaskTable.receiver_of_ne self hid, ht]
  rfl

/-- The exit event is sent to the handler. -/
theorem exitSent {c : CtlCall} {self : TaskId} (hi : HandlerInv s) (h : s.ctl = .destroySend c) :
    HandlerInv { s with
      tasks := (s.tasks.send self s.ctx.tid cmdEventExit).1, ctl := .destroyWait c } := by
  obtain ⟨hc, hrun⟩ := hi.ctl_at h
  obtain ⟨id, t, ht, ho⟩ := hi.running (by rw [h]; rfl) hrun
  have htid := (hi.owner id t ht ho).2.1
  have hid : id ≠ idNone := hi.named id (by rw [ht]; rfl)
  have hrecv : TaskTable.receiver self s.ctx.tid = id := by
    rw [htid]
    exact TaskTable.receiver_of_ne self hid
  have htask : ∀ j, (s.tasks.send self s.ctx.tid cmdEventExit).1.task j = s.task j :=
    fun j => congrFun (TaskTable.task_send ..) j
  constructor
  case owner => exact fun j u hu hou => ⟨rfl, (hi.owner j u ((htask j).symm.trans hu) hou).2⟩
  case running => exact fun _ _ => ⟨id, t, (htask id).trans ht, ho⟩
  case ctl => exact hc
  case ok => exact fun j u hu => hi.ok j u ((htask j).symm.trans hu)
  case exit => exact fun _ _ _ _ _ => ⟨c, rfl⟩
  case fresh =>
    intro j hj
    have hj' : s.task j = .dormant := (htask j).symm.trans hj
    have hji : j ≠ id := by
      intro heq
      rw [heq, ht] at hj'
      cases hj'
    show hasEvent ((s.tasks.send self s.ctx.tid cmdEventExit).1.pending j) cmdEventExit = false
    rw [TaskTable.send_of_exists _ _ _ _ (by rw [hrecv, show s.tasks.task id = _ from ht]; rfl),
      hrecv]
    show hasEvent (eventSend s.tasks.pending id cmdEventExit j) cmdEventExit = false
    rw [eventSend, Function.update_of_ne hji]
    exact hi.fresh j hj'
  case named => exact fun j hj => hi.named j ((congrArg TaskObj.exists (htask j)).symm.trans hj)
  case awake =>
    intro j u hu hpc hne
    exact (hi.awake j u ((htask j).symm.trans hu) hpc hne).imp_left fun hnew =>
      TaskTable.hasEvent_send _ _ _ _ hnew

theorem outside {t : TaskTable HandlerTask} (hi : HandlerInv s)
    (h : Outside (cmdEventNew ||| cmdEventExit) s.tasks t) : HandlerInv { s with tasks := t } where
  owner id u hu := hi.owner id u ((h.running id u).mp hu)
  running h1 h2 := by
    obtain ⟨id, u, hu, hou⟩ := hi.running h1 h2
    exact ⟨id, u, (h.running id u).mpr hu, hou⟩
  ctl := hi.ctl
  ok id u hu := hi.ok id u ((h.running id u).mp hu)
  exit id u hu hou he := by
    have hu' := (h.running id u).mp hu
    refine hi.exit id u hu' hou (he.imp_left fun he => ?_)
    exact (h.events id cmdEventExit (by rw [hu']; rfl) (by decide)).symm.trans he
  fresh id hd := by
    rcases h.dormant id hd with hd' | hf
    · exact (h.events id cmdEventExit (by rw [hd']; rfl) (by decide)).trans (hi.fresh id hd')
    · exact hf cmdEventExit
  named id he := (h.named id he).elim (hi.named id) (fun hid => hid)
  awake id u hu hpc hne := by
    have hu' := (h.running id u).mp hu
    exact (hi.awake id u hu' hpc hne).imp_left fun he =>
      (h.events id cmdEventNew (by rw [hu']; rfl) (by decide)).trans he

end HandlerInv

/-! ## §5 Steps of the enqueuers -/

/-- Events are sent and enqueuers go on; no task and no field of
`cmd_handler` changes. -/
theorem HandlerInv.told {t : TaskTable HandlerTask} {q : Cmdq} {enq : ι → EnqPc}
    (hi : HandlerInv s) (htask : ∀ id, t.task id = s.task id)
    (hexit : ∀ id, hasEvent (t.pending id) cmdEventExit =
      hasEvent (s.tasks.pending id) cmdEventExit)
    (hawake : ∀ id u, s.task id = .running u → u.pc = .receive → q.head ≠ q.tail →
      hasEvent (t.pending id) cmdEventNew = true ∨ ∃ e, (enq e).tells id = true) :
    HandlerInv { s with tasks := t, cmdq := q, enq := enq } where
  owner id u hu := hi.owner id u ((htask id).symm.trans hu)
  running h1 h2 := by
    obtain ⟨id, u, hu, hou⟩ := hi.running h1 h2
    exact ⟨id, u, (htask id).trans hu, hou⟩
  ctl := hi.ctl
  ok id u hu := hi.ok id u ((htask id).symm.trans hu)
  exit id u hu hou he :=
    hi.exit id u ((htask id).symm.trans hu) hou (he.imp_left fun he => (hexit id).symm.trans he)
  fresh id hd := (hexit id).trans (hi.fresh id ((htask id).symm.trans hd))
  named id he := hi.named id ((congrArg TaskObj.exists (htask id)).symm.trans he)
  awake id u hu := hawake id u ((htask id).symm.trans hu)

theorem not_tells_of_not_between {pc : EnqPc} {id : RtemsId} (h : pc.between = false) :
    pc.tells id = false := by
  cases pc <;> simp_all [EnqPc.between, EnqPc.tells]

variable [DecidableEq ι]

/-- An enqueuer that was not going to tell `id` goes on. -/
theorem tells_update {enq : ι → EnqPc} {e : ι} {pc : EnqPc} {id : RtemsId}
    (he : (enq e).tells id = false) (h : ∃ e', (enq e').tells id = true) :
    ∃ e', (Function.update enq e pc e').tells id = true := by
  obtain ⟨e', he'⟩ := h
  refine ⟨e', ?_⟩
  have hne : e' ≠ e := by
    intro heq
    rw [heq, he] at he'
    cases he'
  rwa [Function.update_of_ne hne]

/-- A task that waits is told, where the enqueuer does not tell it later. -/
theorem HandlerInv.notified {e : ι} {p : Pushed} {id : RtemsId} {self : TaskId}
    (hi : HandlerInv s) (h : s.enq e = .send p id) :
    HandlerInv (({ s with tasks := (s.tasks.send self id cmdEventNew).1 }).enqGoto e
      (.returned p 0)) := by
  refine hi.told (fun j => congrFun (TaskTable.task_send ..) j)
    (fun j => TaskTable.hasEvent_send_other _ _ _ _ rfl) ?_
  intro j u hu hpc hne
  rcases hi.awake j u hu hpc hne with hnew | htell
  · exact Or.inl (TaskTable.hasEvent_send _ _ _ _ hnew)
  · by_cases hj : id = j
    · left
      subst hj
      have hrecv : TaskTable.receiver self id = id :=
        TaskTable.receiver_of_ne self (hi.named id (by rw [hu]; rfl))
      rw [TaskTable.send_of_exists _ _ _ _ (by rw [hrecv, show s.tasks.task id = _ from hu]; rfl),
        hrecv]
      show hasEvent (eventSend s.tasks.pending id cmdEventNew id) cmdEventNew = true
      rw [eventSend_self]
      exact hasEvent_set _ _ (by decide)
    · right
      exact tells_update (by simp [h, EnqPc.tells, hj]) htell

/-- Only a task that does not exist is not told. -/
theorem HandlerInv.unheard {e : ι} {p : Pushed} {id : RtemsId} {self : TaskId}
    (hi : HandlerInv s) (h : s.enq e = .send p id)
    (he : (s.task (TaskTable.receiver self id)).exists = false) :
    HandlerInv (s.enqGoto e (.returned p 1)) := by
  refine hi.told (fun _ => rfl) (fun _ => rfl) ?_
  intro j u hu hpc hne
  refine (hi.awake j u hu hpc hne).imp_right (tells_update ?_)
  have hj : id ≠ j := by
    intro heq
    subst heq
    rw [TaskTable.receiver_of_ne self (hi.named id (by rw [hu]; rfl)), hu] at he
    cases he
  simp [h, EnqPc.tells, hj]

theorem handlerInv_step (hi : HandlerInv s) (h : handlerStep s a = some s') : HandlerInv s' := by
  cases handlerStep_moved h with
  | outside ho => exact hi.outside ho
  | call c hc =>
    refine hi.goOn ?_ ?_ ?_ ?_
    · cases hs : s.ctl <;> simp_all [CtlPc.atRest, CtlPc.settled]
    · intro c' hw
      rw [hw] at hc
      cases hc
    · cases c <;> rfl
    · cases c <;> simp [CtlCall.enter, CtlInv]
  | refuse hc hr => exact hi.goOn (by rw [hc]; rfl) (by simp [hc]) rfl trivial
  | begin hc hr =>
    refine hi.write (hi.noOwner_of_not_running hr) ?_ (fun hk => by cases hk)
    exact ⟨fun _ => ⟨_, _, _, rfl, rfl⟩, fun _ hk => (by cases hk)⟩
  | setTid hc =>
    have hctl := hi.ctl_at hc
    exact hi.write (hi.noOwner_of_not_settled (by rw [hc]; rfl)) ⟨hctl, rfl⟩
      (fun hk => by cases hk)
  | setCb hc =>
    have hctl := hi.ctl_at hc
    exact hi.write (hi.noOwner_of_not_settled (by rw [hc]; rfl)) ⟨hctl.1, hctl.2, rfl⟩
      (fun hk => by cases hk)
  | setTicks hc =>
    have hctl := hi.ctl_at hc
    exact hi.write (hi.noOwner_of_not_settled (by rw [hc]; rfl))
      ⟨hctl.1, hctl.2.1, hctl.2.2, rfl⟩ (fun hk => by cases hk)
  | @setRunning c v k hc =>
    have hctl := hi.ctl_at hc
    obtain ⟨hset, htid, hcb, hticks⟩ := hctl
    have hctx : { s.ctx with running := v.running } = v := by
      cases v
      simp_all
    refine hi.write (hi.noOwner_of_not_settled (by rw [hc]; rfl)) ?_ ?_
    · rw [hctx]
      cases k with
      | taskStart => exact hset.start rfl
      | ret sc => exact fun _ => hset.ret sc rfl
    · cases k with
      | taskStart => exact fun hk => by cases hk
      | ret sc => exact fun _ => by rw [hset.ret sc rfl]; rfl
  | started hc hd => exact hi.started hc hd
  | startFailed hc _ =>
    refine hi.write (hi.noOwner_of_not_settled (by rw [hc]; rfl)) ?_ (fun hk => by cases hk)
    exact ⟨fun hk => (by cases hk), fun _ _ => rfl⟩
  | destroyTest hc hr =>
    have hctl := hi.ctl_at hc
    exact hi.goOn (by rw [hc]; rfl) (by simp [hc]) rfl ⟨hctl, hr⟩
  | noHandler hc hr =>
    have hctl := hi.ctl_at hc
    exact hi.goOn (by rw [hc]; rfl) (by simp [hc]) rfl (fun hk => by cases hk.mp hctl)
  | exitSent hc _ => exact hi.exitSent hc
  | exitUnsent hc _ =>
    have hctl := hi.ctl_at hc
    exact hi.goOn (by rw [hc]; rfl) (by simp [hc]) rfl (fun hk => by cases hk.mp hctl.1)
  | wait _ _ => exact hi
  | waited hc hr =>
    refine hi.write (hi.noOwner_of_not_running hr) ?_ (fun hk => by cases hk)
    exact ⟨fun hk => (by cases hk), fun _ _ => rfl⟩
  | dequeued ht hpc _ => exact hi.flush ht (by rw [hpc]; rfl) rfl
  | drained ht hpc hq =>
    exact hi.work ht (by rw [hpc]; rfl) rfl (by simp) (fun hk => by cases hk) (fun _ => hq)
  | asserted ht hpc _ => exact hi.flush ht (by rw [hpc]; rfl) rfl
  | @assertFails id t _ ht hpc hcb =>
    have hown := (hi.owner id t ht (by rw [hpc]; rfl)).2.2.1
    rw [hcb] at hown
    cases hown
  | served ht hpc _ =>
    refine hi.flush ht (by rw [hpc]; rfl) ?_
    unfold afterServe
    split
    · rfl
    · split <;> rfl
  | sendReply ht hpc _ => exact hi.flush ht (by rw [hpc]; rfl) rfl
  | sent rc ht hpc => exact hi.flush ht (by rw [hpc]; rfl) rfl
  | reported ht hpc _ => exact hi.flush ht (by rw [hpc]; rfl) rfl
  | unreported ht hpc _ => exact hi.flush ht (by rw [hpc]; rfl) rfl
  | reportedAll ht hpc _ => exact hi.flush ht (by rw [hpc]; rfl) rfl
  | unreportedAll ht hpc _ => exact hi.flush ht (by rw [hpc]; rfl) rfl
  | woken ht hpc _ => exact hi.woken ht hpc
  | leave ht hpc he =>
    exact hi.work ht (by rw [hpc]; rfl) rfl (by simp) (fun _ => by rw [hpc]; exact he)
      (fun hk => by cases hk)
  | stay ht hpc _ => exact hi.flush ht (by rw [hpc]; rfl) rfl
  | cleared ht hpc => exact hi.cleared ht hpc
  | exited ht hpc => exact hi.exited ht hpc
  | @pushed e _ _ _ _ _ =>
    refine hi.told (fun _ => rfl) (fun _ => rfl) (fun j u _ _ _ => Or.inr ⟨e, ?_⟩)
    simp [EnqPc.tells]
  | full he _ =>
    refine hi.told (fun _ => rfl) (fun _ => rfl) (fun j u hu hpc hne => ?_)
    exact (hi.awake j u hu hpc hne).imp_right (tells_update (not_tells_of_not_between he))
  | noTid _ ht =>
    refine hi.told (fun _ => rfl) (fun _ => rfl) (fun j u hu hpc _ => ?_)
    have hown := (hi.owner j u hu (owns_of_receive hpc)).2.1
    exact absurd (hown.symm.trans ht) (hi.named j (by rw [hu]; rfl))
  | @tested e _ _ _ =>
    refine hi.told (fun _ => rfl) (fun _ => rfl) (fun j u _ _ _ => Or.inr ⟨e, ?_⟩)
    simp [EnqPc.tells]
  | @loaded e _ _ =>
    refine hi.told (fun _ => rfl) (fun _ => rfl) (fun j u hu hpc _ => Or.inr ⟨e, ?_⟩)
    simp [EnqPc.tells, (hi.owner j u hu (owns_of_receive hpc)).2.1]
  | notified he _ => exact hi.notified he
  | unheard he hx => exact hi.unheard he hx
  | dropped => exact hi.told (fun _ => rfl) (fun _ => rfl) (fun _ _ _ _ hne => absurd rfl hne)

/-- **`cmd_handler` is its owner's** in every run. -/
theorem handlerInv_exec {s s' : HandlerState ι} {as : List (HandlerAct ι)} (hi : HandlerInv s)
    (h : exec handlerStep s as = some s') : HandlerInv s' :=
  exec_invariant' (fun _ _ _ hi h => handlerInv_step hi h) hi h

end HpscRtems.Command
