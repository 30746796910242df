/-
HpscRtems.WatchdogTheorems — the watchdog's kicker and its starts and stops.

A kicker that has not cleared `running` is the one on record, and while a
start is under way there is none. What the rest needs is that a kicker
leaves its loop only when it has been told to; that follows from the value
of `events`, which its first receives leave as the stack had it.
-/
import HpscRtems.Watchdog

namespace HpscRtems.Watchdog

open Machine Rtems

variable {s s' : WdtState} {a : WdtAct}

/-! ## §1 The invariant -/

def noIsr : Isr → Bool := fun _ => false

def onlyIsr (i : Isr) : Isr → Bool := fun j => decide (j = i)

theorem update_noIsr (i : Isr) : Function.update noIsr i true = onlyIsr i := by
  funext j
  by_cases hj : j = i
  · subst hj
    simp [onlyIsr]
  · simp [onlyIsr, noIsr, hj]

theorem update_onlyIsr (i : Isr) : Function.update (onlyIsr i) i false = noIsr := by
  funext j
  by_cases hj : j = i
  · subst hj
    simp [noIsr]
  · simp [onlyIsr, noIsr, hj]

/-- A start is under way, past its test of `running`. -/
def WdtPc.starting : WdtPc → Bool
  | .fill _ | .install _ | .enable _ | .taskStart _ | .undo _ _ | .fail _ _ => true
  | _ => false

/-- What the controlling task has done so far. -/
def CtlInv (ctx : WatchdogTaskCtx) (installed : Isr → Bool) (enabled : Nat → Bool) : WdtPc → Prop
  | .idle | .returned _ _ | .startTest _ | .stopTest =>
    installed = if ctx.running then onlyIsr ctx.isr else noIsr
  | .fill _ => ctx.running = false ∧ installed = noIsr
  | .install a => ctx = a.ctx ∧ installed = noIsr
  | .enable a => ctx = a.ctx ∧ installed = onlyIsr a.isr
  | .taskStart a => ctx = a.ctx ∧ installed = onlyIsr a.isr ∧ enabled a.wdt = true
  | .undo a sc => ctx = a.ctx ∧ installed = onlyIsr a.isr ∧ sc ≠ .successful
  | .fail a sc => ctx = a.ctx ∧ installed = noIsr ∧ sc ≠ .successful
  | .stopRemove => ctx.running = true ∧ installed = onlyIsr ctx.isr
  | .stopSend => ctx.running = true ∧ installed = noIsr
  | .stopWait => installed = noIsr
  | .assertFailed => False

/-- The kicker has received the exit event, or has it pending. -/
def Leaving (pending : EventSet) (pc : KickPc) : Prop :=
  hasEvent pending wdtTaskExit = true ∨ pc = .test false ∨ pc = .clearRunning ∨ pc = .exit

structure WdtInv (s : WdtState) : Prop where
  /-- A kicker that has not cleared `running` is the one on record. -/
  owner : ∀ id k, s.task id = .running k → k.pc.owns = true →
    s.ctl.starting = false ∧ s.ctx.tid = id ∧ s.ctx.running = true
  running : s.ctl.starting = false → s.ctx.running = true →
    ∃ id k, s.task id = .running k ∧ k.pc.owns = true
  ctl : CtlInv s.ctx s.installed s.enabled s.ctl
  told : ∀ id k, s.task id = .running k → Leaving (s.tasks.pending id) k.pc → s.told id = true
  /-- A kicker is told where its end is then waited for. -/
  waits : ∀ id k, s.task id = .running k → k.pc.owns = true → s.told id = true →
    s.ctl = .stopWait
  fresh : ∀ id, s.task id = .dormant → hasEvent (s.tasks.pending id) wdtTaskExit = false
  named : ∀ id, (s.task id).exists = true → id ≠ idNone

theorem wdtInv_init : WdtInv .init where
  owner _ _ h := by cases h
  running _ h := by cases h
  ctl := rfl
  told _ _ h := by cases h
  waits _ _ h := by cases h
  fresh _ h := by cases h
  named _ h := by cases h

/-! ## §2 Steps of the controlling task -/

/-- No kicker has the context. -/
def NoOwner (s : WdtState) : Prop := ∀ id k, s.task id = .running k → k.pc.owns = false

namespace WdtInv

theorem noOwner_of_starting (hi : WdtInv s) (h : s.ctl.starting = true) : NoOwner s := by
  intro id k hk
  by_contra ho
  have hc := (hi.owner id k hk (by simpa using ho)).1
  rw [h] at hc
  cases hc

theorem noOwner_of_not_running (hi : WdtInv s) (h : s.ctx.running = false) : NoOwner s := by
  intro id k hk
  by_contra ho
  have hc := (hi.owner id k hk (by simpa using ho)).2.2
  rw [h] at hc
  cases hc

/-- Two kickers that have not cleared `running` are one. -/
theorem one (hi : WdtInv s) {id j : RtemsId} {k l : Kicker} (hk : s.task id = .running k)
    (ho : k.pc.owns = true) (hl : s.task j = .running l) (hol : l.pc.owns = true) : j = id :=
  (hi.owner j l hl hol).2.1.symm.trans (hi.owner id k hk ho).2.1

/-- The kicker of a context that is in use. -/
theorem kicker (hi : WdtInv s) (h : s.ctl.starting = false) (hr : s.ctx.running = true) :
    ∃ k, s.task s.ctx.tid = .running k ∧ k.pc.owns = true := by
  obtain ⟨id, k, hk, ho⟩ := hi.running h hr
  rw [(hi.owner id k hk ho).2.1]
  exact ⟨k, hk, ho⟩

/-- The controlling task goes on while no kicker has the context. -/
theorem write {ctx : WatchdogTaskCtx} {installed : Isr → Bool} {enabled : Nat → Bool}
    {ctl : WdtPc} (hi : WdtInv s) (hn : NoOwner s) (hc : CtlInv ctx installed enabled ctl)
    (hr : ctl.starting = false → ctx.running = false) :
    WdtInv { s with ctx := ctx, installed := installed, enabled := enabled, ctl := ctl } where
  owner id k hk ho := by
    rw [hn id k hk] at ho
    cases ho
  running h1 h2 := by
    have hf : ctx.running = false := hr h1
    exact absurd (hf.symm.trans h2) (by simp)
  ctl := hc
  told := hi.told
  waits id k hk ho := by
    rw [hn id k hk] at ho
    cases ho
  fresh := hi.fresh
  named := hi.named

/-- The controlling task goes on and leaves the context alone. -/
theorem goOn {installed : Isr → Bool} {ctl : WdtPc} {before : Found} (hi : WdtInv s)
    (hs : s.ctl.starting = false) (hw : s.ctl ≠ .stopWait) (hs' : ctl.starting = false)
    (hc : CtlInv s.ctx installed s.enabled ctl) :
    WdtInv { s with installed := installed, ctl := ctl, before := before } where
  owner id k hk ho := ⟨hs', (hi.owner id k hk ho).2⟩
  running _ h := hi.running hs h
  ctl := hc
  told := hi.told
  waits id k hk ho ht := absurd (hi.waits id k hk ho ht) hw
  fresh := hi.fresh
  named := hi.named

/-- `rtems_task_start` succeeds. -/
theorem started {w : StartArgs} {garbage : EventSet} (hi : WdtInv s) (h : s.ctl = .taskStart w)
    (hd : s.task w.taskId = .dormant) :
    WdtInv { s.goto w.taskId ⟨.kick, garbage⟩ with
      told := Function.update s.told w.taskId false
      ctl := .returned (.start w) .successful } := by
  have hn : NoOwner s := hi.noOwner_of_starting (by rw [h]; rfl)
  have hctl := hi.ctl
  rw [h] at hctl
  obtain ⟨hctx, hisr, _⟩ := hctl
  constructor
  case owner =>
    intro j l hl hol
    rcases TaskTable.running_set _ hl with ⟨rfl, rfl⟩ | ⟨_, hl'⟩
    · exact ⟨rfl, by simp [WdtState.goto, hctx, StartArgs.ctx], by
        simp [WdtState.goto, hctx, StartArgs.ctx]⟩
    · rw [hn j l hl'] at hol
      cases hol
  case running => exact fun _ _ => ⟨w.taskId, _, TaskTable.task_set _ _ _, rfl⟩
  case ctl =>
    show s.installed = if s.ctx.running then onlyIsr s.ctx.isr else noIsr
    rw [hctx, hisr]
    rfl
  case told =>
    intro j l hl he
    rcases TaskTable.running_set _ hl with ⟨rfl, rfl⟩ | ⟨hj, hl'⟩
    · rcases he with he | he | he | he
      · exact absurd ((hi.fresh _ hd).symm.trans he) (by simp)
      · cases he
      · cases he
      · cases he
    · exact (Function.update_of_ne hj _ _).trans (hi.told j l hl' he)
  case waits =>
    intro j l hl hol ht
    rcases TaskTable.running_set _ hl with ⟨rfl, rfl⟩ | ⟨_, hl'⟩
    · exact absurd ((Function.update_self (w.taskId : RtemsId) false s.told).symm.trans ht)
        (by simp)
    · rw [hn j l hl'] at hol
      cases hol
  case fresh => exact fun j hj => hi.fresh j (TaskTable.dormant_set _ hj).2
  case named => exact TaskTable.named_set _ _ hi.named

/-- The exit event is sent to the kicker. -/
theorem exitSent {self : TaskId} (hi : WdtInv s) (h : s.ctl = .stopSend) :
    WdtInv { s with
      tasks := (s.tasks.send self s.ctx.tid wdtTaskExit).1
      told := Function.update s.told s.ctx.tid true
      ctl := .stopWait } := by
  have hctl := hi.ctl
  rw [h] at hctl
  obtain ⟨k, hk, ho⟩ := hi.kicker (by rw [h]; rfl) hctl.1
  have hrecv : TaskTable.receiver self s.ctx.tid = s.ctx.tid :=
    TaskTable.receiver_of_ne self (hi.named _ (by rw [hk]; rfl))
  have htask : ∀ j, (s.tasks.send self s.ctx.tid wdtTaskExit).1.task j = s.task j :=
    fun j => congrFun (TaskTable.task_send ..) j
  have hpending : ∀ j, j ≠ s.ctx.tid →
      (s.tasks.send self s.ctx.tid wdtTaskExit).1.pending j = s.tasks.pending j := by
    intro j hj
    rw [TaskTable.send_of_exists _ _ _ _ (by rw [hrecv, show s.tasks.task _ = _ from hk]; rfl),
      hrecv]
    exact Function.update_of_ne hj _ _
  constructor
  case owner => exact fun j l hl hol => ⟨rfl, (hi.owner j l ((htask j).symm.trans hl) hol).2⟩
  case running => exact fun _ _ => ⟨_, k, (htask _).trans hk, ho⟩
  case ctl => exact hctl.2
  case told =>
    intro j l hl he
    by_cases hj : j = s.ctx.tid
    · rw [hj]
      exact Function.update_self _ _ _
    · refine (Function.update_of_ne hj _ _).trans (hi.told j l ((htask j).symm.trans hl) ?_)
      exact he.imp_left fun he => (congrArg (hasEvent · wdtTaskExit) (hpending j hj)).symm.trans he
  case waits => exact fun _ _ _ _ _ => rfl
  case fresh =>
    intro j hj
    have hj' : s.task j = .dormant := (htask j).symm.trans hj
    have hne : j ≠ s.ctx.tid := by
      intro heq
      rw [heq, hk] at hj'
      cases hj'
    exact (congrArg (hasEvent · wdtTaskExit) (hpending j hne)).trans (hi.fresh j hj')
  case named => exact fun j hj => hi.named j ((congrArg TaskObj.exists (htask j)).symm.trans hj)

/-! ## §3 Steps of a kicker, and of the rest of the system -/

/-- A kicker in its loop goes on in it, or leaves it when it has been told. -/
theorem work {id : TaskId} {k l : Kicker} {kicks : List Ptr} (hi : WdtInv s)
    (hk : s.task id = .running k) (ho : k.pc.owns = true) (ho' : l.pc.owns = true)
    (htold : l.pc = .test false ∨ l.pc = .clearRunning → s.told id = true) :
    WdtInv { s.goto id l with kicks := kicks } := by
  constructor
  case owner =>
    intro j m hm hom
    rcases TaskTable.running_set _ hm with ⟨rfl, rfl⟩ | ⟨_, hm'⟩
    · exact hi.owner id k hk ho
    · exact hi.owner j m hm' hom
  case running => exact fun _ _ => ⟨id, l, TaskTable.task_set _ _ _, ho'⟩
  case ctl => exact hi.ctl
  case told =>
    intro j m hm he
    rcases TaskTable.running_set _ hm with ⟨rfl, rfl⟩ | ⟨_, hm'⟩
    · rcases he with he | he | he | he
      · exact hi.told id k hk (Or.inl he)
      · exact htold (Or.inl he)
      · exact htold (Or.inr he)
      · rw [he] at ho'
        cases ho'
    · exact hi.told j m hm' he
  case waits =>
    intro j m hm hom ht
    rcases TaskTable.running_set _ hm with ⟨rfl, rfl⟩ | ⟨_, hm'⟩
    · exact hi.waits id k hk ho ht
    · exact hi.waits j m hm' hom ht
  case fresh => exact fun j hj => hi.fresh j (TaskTable.dormant_set _ hj).2
  case named => exact TaskTable.named_set _ _ hi.named

/-- A kicker receives the exit event. -/
theorem woken {id : TaskId} {k : Kicker} {events : EventSet} (hi : WdtInv s)
    (hk : s.task id = .running k) (hpc : k.pc = .receive)
    (he : hasEvent (s.tasks.pending id) wdtTaskExit = true) :
    WdtInv ({ s with tasks := s.tasks.received id wdtTaskExit }.goto id ⟨.test false, events⟩) := by
  have ho : k.pc.owns = true := by rw [hpc]; rfl
  have htold : s.told id = true := hi.told id k hk (Or.inl he)
  have hother : ∀ {j : RtemsId}, j ≠ id →
      (s.tasks.received id wdtTaskExit).pending j = s.tasks.pending j :=
    fun hj => Function.update_of_ne hj _ _
  constructor
  case owner =>
    intro j m hm hom
    rcases TaskTable.running_set _ hm with ⟨rfl, rfl⟩ | ⟨_, hm'⟩
    · exact hi.owner id k hk ho
    · exact hi.owner j m hm' hom
  case running => exact fun _ _ => ⟨id, _, TaskTable.task_set _ _ _, rfl⟩
  case ctl => exact hi.ctl
  case told =>
    intro j m hm hl
    rcases TaskTable.running_set _ hm with ⟨rfl, rfl⟩ | ⟨hj, hm'⟩
    · exact htold
    · refine hi.told j m hm' (hl.imp_left fun hl => ?_)
      exact (congrArg (hasEvent · wdtTaskExit) (hother hj)).symm.trans hl
  case waits =>
    intro j m hm hom ht
    rcases TaskTable.running_set _ hm with ⟨rfl, rfl⟩ | ⟨_, hm'⟩
    · exact hi.waits id k hk ho ht
    · exact hi.waits j m hm' hom ht
  case fresh =>
    intro j hj
    obtain ⟨hji, hj'⟩ := TaskTable.dormant_set _ hj
    exact (congrArg (hasEvent · wdtTaskExit) (hother hji)).trans (hi.fresh j hj')
  case named => exact TaskTable.named_set _ _ hi.named

/-- The last act of a kicker on the context. -/
theorem cleared {id : TaskId} {k : Kicker} (hi : WdtInv s) (hk : s.task id = .running k)
    (hpc : k.pc = .clearRunning) :
    WdtInv ({ s with ctx.running := false }.goto id { k with pc := .exit }) := by
  have ho : k.pc.owns = true := by rw [hpc]; rfl
  have htold : s.told id = true := hi.told id k hk (Or.inr (Or.inr (Or.inl hpc)))
  have hw : s.ctl = .stopWait := hi.waits id k hk ho htold
  have hnone : ∀ {j : RtemsId} {m : Kicker}, j ≠ id → s.task j = .running m →
      m.pc.owns = false := by
    intro j m hj hm
    by_contra hom
    exact hj (hi.one hk ho hm (by simpa using hom))
  constructor
  case owner =>
    intro j m hm hom
    rcases TaskTable.running_set _ hm with ⟨rfl, rfl⟩ | ⟨hj, hm'⟩
    · cases hom
    · rw [hnone hj hm'] at hom
      cases hom
  case running =>
    intro _ hr
    cases hr
  case ctl =>
    have hctl := hi.ctl
    rw [hw] at hctl
    show CtlInv _ s.installed s.enabled s.ctl
    rw [hw]
    exact hctl
  case told =>
    intro j m hm he
    rcases TaskTable.running_set _ hm with ⟨rfl, rfl⟩ | ⟨_, hm'⟩
    · exact htold
    · exact hi.told j m hm' he
  case waits => exact fun _ _ _ _ _ => hw
  case fresh => exact fun j hj => hi.fresh j (TaskTable.dormant_set _ hj).2
  case named => exact TaskTable.named_set _ _ hi.named

theorem exited {id : TaskId} {k : Kicker} (hi : WdtInv s) (hk : s.task id = .running k)
    (hpc : k.pc = .exit) : WdtInv { s with tasks := s.tasks.set id .absent } := by
  have hkeep : ∀ {j : RtemsId} {x : TaskObj Kicker}, x ≠ .absent →
      (s.tasks.set id .absent).task j = x → s.task j = x :=
    fun hx hj => TaskTable.of_task_gone _ hj hx
  constructor
  case owner => exact fun j m hm => hi.owner j m (hkeep (by simp) hm)
  case running =>
    intro h1 h2
    obtain ⟨j, m, hm, hom⟩ := hi.running h1 h2
    have hji : j ≠ id := by
      intro heq
      rw [heq, hk] at hm
      cases hm
      rw [hpc] at hom
      cases hom
    exact ⟨j, m, (TaskTable.task_set_of_ne _ _ hji).trans hm, hom⟩
  case ctl => exact hi.ctl
  case told => exact fun j m hm => hi.told j m (hkeep (by simp) hm)
  case waits => exact fun j m hm => hi.waits j m (hkeep (by simp) hm)
  case fresh => exact fun j hj => hi.fresh j (hkeep (by simp) hj)
  case named => exact TaskTable.named_set _ _ hi.named

theorem outside {t : TaskTable Kicker} (hi : WdtInv s) (h : Outside wdtTaskExit s.tasks t) :
    WdtInv { s with tasks := t } where
  owner id k hk := hi.owner id k ((h.running id k).mp hk)
  running h1 h2 := by
    obtain ⟨id, k, hk, ho⟩ := hi.running h1 h2
    exact ⟨id, k, (h.running id k).mpr hk, ho⟩
  ctl := hi.ctl
  told id k hk he := by
    have hk' := (h.running id k).mp hk
    refine hi.told id k hk' (he.imp_left fun he => ?_)
    exact (h.events id wdtTaskExit (by rw [hk']; rfl) (by decide)).symm.trans he
  waits id k hk := hi.waits id k ((h.running id k).mp hk)
  fresh id hd := by
    rcases h.dormant id hd with hd' | hf
    · exact (h.events id wdtTaskExit (by rw [hd']; rfl) (by decide)).trans (hi.fresh id hd')
    · exact hf wdtTaskExit
  named id he := (h.named id he).elim (hi.named id) (fun hid => hid)

end WdtInv

/-! ## §4 One step -/

/-- A kicker that leaves its loop has been told to. -/
def LeavesTold (s : WdtState) (a : WdtAct) : Prop :=
  ∀ (id : TaskId) k b, a = .task id → s.task id = .running k → k.pc = .test b →
    hasEvent k.events wdtTaskExit = true → s.told id = true

theorem wdtInv_step (hi : WdtInv s) (hg : LeavesTold s a) (h : wdtStep s a = some s') :
    WdtInv s' := by
  have hctl := hi.ctl
  cases wdtStep_moved h with
  | outside ho => exact hi.outside ho
  | call c hc =>
    have hinst : s.installed = if s.ctx.running then onlyIsr s.ctx.isr else noIsr := by
      cases hs : s.ctl <;> rw [hs] at hc hctl <;> first | exact hctl | cases hc
    refine hi.goOn ?_ ?_ ?_ ?_
    · cases hs : s.ctl <;> rw [hs] at hc <;> first | rfl | cases hc
    · intro hw
      rw [hw] at hc
      cases hc
    · cases c <;> rfl
    · cases c <;> exact hinst
  | refuse hc hr =>
    rw [hc] at hctl
    exact hi.goOn (by rw [hc]; rfl) (by simp [hc]) rfl hctl
  | begin hc hr =>
    rw [hc] at hctl
    refine hi.write (hi.noOwner_of_not_running hr) ⟨hr, ?_⟩ (fun hk => by cases hk)
    exact hctl.trans (by rw [hr]; rfl)
  | filled hc =>
    rw [hc] at hctl
    exact hi.write (hi.noOwner_of_not_running hctl.1) ⟨rfl, hctl.2⟩ (fun hk => by cases hk)
  | installed hc hinst =>
    rw [hc] at hctl
    refine hi.write (hi.noOwner_of_starting (by rw [hc]; rfl)) ⟨hctl.1, ?_⟩
      (fun hk => by cases hk)
    rw [hctl.2]
    exact update_noIsr _
  | notInstalled hc hsc =>
    rw [hc] at hctl
    exact hi.write (hi.noOwner_of_starting (by rw [hc]; rfl)) ⟨hctl.1, hctl.2, hsc⟩
      (fun hk => by cases hk)
  | enabled hc =>
    rw [hc] at hctl
    exact hi.write (hi.noOwner_of_starting (by rw [hc]; rfl))
      ⟨hctl.1, hctl.2, Function.update_self _ _ _⟩ (fun hk => by cases hk)
  | started hc hd => exact hi.started hc hd
  | notStarted hc hsc =>
    rw [hc] at hctl
    exact hi.write (hi.noOwner_of_starting (by rw [hc]; rfl)) ⟨hctl.1, hctl.2.1, hsc⟩
      (fun hk => by cases hk)
  | @undone w sc hc =>
    rw [hc] at hctl
    have hinst : s.installed w.isr = true := by simp [hctl.2.1, onlyIsr]
    simp only [WdtState.handlerRemove, hinst, if_true]
    refine hi.write (hi.noOwner_of_starting (by rw [hc]; rfl)) ⟨hctl.1, ?_, hctl.2.2⟩
      (fun hk => by cases hk)
    rw [hctl.2.1]
    exact update_onlyIsr _
  | failed hc =>
    rw [hc] at hctl
    exact hi.write (hi.noOwner_of_starting (by rw [hc]; rfl)) hctl.2.1 (fun _ => rfl)
  | stopTest hc hr =>
    rw [hc] at hctl
    refine hi.goOn (by rw [hc]; rfl) (by simp [hc]) rfl ⟨hr, ?_⟩
    exact hctl.trans (by rw [hr]; rfl)
  | noKicker hc hr =>
    rw [hc] at hctl
    exact hi.goOn (by rw [hc]; rfl) (by simp [hc]) rfl hctl
  | removed hc =>
    rw [hc] at hctl
    have hinst : s.installed s.ctx.isr = true := by simp [hctl.2, onlyIsr]
    simp only [WdtState.handlerRemove, hinst, if_true]
    refine hi.goOn (by rw [hc]; rfl) (by simp [hc]) rfl ⟨hctl.1, ?_⟩
    rw [hctl.2]
    exact update_onlyIsr _
  | told hc he => exact hi.exitSent hc
  | untold hc he =>
    rw [hc] at hctl
    obtain ⟨k, hk, _⟩ := hi.kicker (by rw [hc]; rfl) hctl.1
    rw [TaskTable.receiver_of_ne _ (hi.named _ (by rw [hk]; rfl)), hk] at he
    cases he
  | wait _ _ => exact hi
  | waited hc hr =>
    rw [hc] at hctl
    refine hi.write (hi.noOwner_of_not_running hr) ?_ (fun _ => hr)
    show s.installed = if s.ctx.running then onlyIsr s.ctx.isr else noIsr
    rw [hr]
    exact hctl
  | kicked hk hpc => exact hi.work hk (by rw [hpc]; rfl) rfl (fun hl => by simp at hl)
  | @leave id k b hk hpc he =>
    have htold : s.told id = true := hg id k b rfl hk hpc he
    exact hi.work hk (by rw [hpc]; rfl) rfl (fun _ => htold)
  | stay hk hpc _ => exact hi.work hk (by rw [hpc]; rfl) rfl (fun hl => by simp at hl)
  | cleared hk hpc => exact hi.cleared hk hpc
  | exited hk hpc => exact hi.exited hk hpc
  | timedOut hk hpc _ _ => exact hi.work hk (by rw [hpc]; rfl) rfl (fun hl => by simp at hl)
  | woken hk hpc he => exact hi.woken hk hpc he

/-! ## §5 The kicker stops only when told to -/

/-- A kicker kicks again after a time-out, and leaves its loop, to clear
`running`, only if `watchdog_cpu_task_stop` has sent it the exit event. -/
structure KicksOn (s : WdtState) : Prop where
  goesOn : ∀ (id : TaskId) k, s.task id = .running k → k.pc = .test true →
    ∃ s', exec wdtStep s [.task id, .task id] = some s' ∧ s'.kicks = s.kicks ++ [s.ctx.wdt]
  told : ∀ id k, s.task id = .running k → k.pc = .clearRunning ∨ k.pc = .exit → s.told id = true

/-- `events` of a kicker that is started does not hold the exit event by
chance, or the kicker waits without time-out. -/
def CleanStart (s : WdtState) (a : WdtAct) : Prop :=
  ∀ garbage, a = .taskStart .successful garbage →
    hasEvent garbage wdtTaskExit = false ∨ s.ctx.ticks = noTimeout

/-- The exit event is in `events` only once it has been received. -/
structure CleanInv (s : WdtState) : Prop where
  inv : WdtInv s
  clean : ∀ id k, s.task id = .running k → k.pc = .kick ∨ k.pc = .receive →
    hasEvent k.events wdtTaskExit = false ∨ s.ctx.ticks = noTimeout
  timedOut : ∀ id k, s.task id = .running k → k.pc = .test true →
    hasEvent k.events wdtTaskExit = false

theorem CleanInv.leavesTold (hi : CleanInv s) : LeavesTold s a := by
  intro id k b _ hk hpc he
  cases b with
  | true =>
    rw [hi.timedOut id k hk hpc] at he
    cases he
  | false => exact hi.inv.told id k hk (Or.inr (Or.inl hpc))

theorem CleanInv.kicksOn (hi : CleanInv s) : KicksOn s where
  goesOn id k hk hpc := by
    have he := hi.timedOut id k hk hpc
    have h1 : wdtStep s (.task id) = some (s.goto id { k with pc := .kick }) := by
      simp [wdtStep, WdtState.ofTask, hk, WdtState.taskStep, hpc, he]
    have h2 : wdtStep (s.goto id { k with pc := .kick }) (.task id) =
        some { (s.goto id { k with pc := .kick }).goto id { k with pc := .receive } with
          kicks := s.kicks ++ [s.ctx.wdt] } := by
      simp [wdtStep, WdtState.ofTask, WdtState.task, WdtState.goto, WdtState.taskStep]
    exact ⟨_, by rw [exec_cons _ h1, exec_cons _ h2]; rfl, rfl⟩
  told id k hk hpc := hi.inv.told id k hk (Or.inr (Or.inr hpc))

/-- The tasks of a state, and whether they run without time-out, decide. -/
theorem CleanInv.of_kickers (hi : CleanInv s) (hinv : WdtInv s')
    (ht : ∀ id k, s'.task id = .running k → s.task id = .running k)
    (hticks : s'.ctx.ticks = s.ctx.ticks) : CleanInv s' where
  inv := hinv
  clean id k hk hpc := by
    rw [hticks]
    exact hi.clean id k (ht id k hk) hpc
  timedOut id k hk := hi.timedOut id k (ht id k hk)

/-- One kicker goes on. -/
theorem CleanInv.of_goto {id : TaskId} {l : Kicker} (hi : CleanInv s) (hinv : WdtInv s')
    (ht : ∀ j k, s'.task j = .running k → (j = id ∧ k = l) ∨ (j ≠ id ∧ s.task j = .running k))
    (hticks : s'.ctx.ticks = s.ctx.ticks)
    (hclean : l.pc = .kick ∨ l.pc = .receive →
      hasEvent l.events wdtTaskExit = false ∨ s.ctx.ticks = noTimeout)
    (htimed : l.pc = .test true → hasEvent l.events wdtTaskExit = false) : CleanInv s' where
  inv := hinv
  clean j k hk hpc := by
    rw [hticks]
    rcases ht j k hk with ⟨_, rfl⟩ | ⟨_, hk'⟩
    · exact hclean hpc
    · exact hi.clean j k hk' hpc
  timedOut j k hk hpc := by
    rcases ht j k hk with ⟨_, rfl⟩ | ⟨_, hk'⟩
    · exact htimed hpc
    · exact hi.timedOut j k hk' hpc

theorem cleanInv_step (hi : CleanInv s) (hg : CleanStart s a) (h : wdtStep s a = some s') :
    CleanInv s' := by
  have hinv : WdtInv s' := wdtInv_step hi.inv hi.leavesTold h
  cases wdtStep_moved h with
  | outside ho => exact hi.of_kickers hinv (fun id k hk => (ho.running id k).mp hk) rfl
  | filled hc =>
    have hn : NoOwner s := hi.inv.noOwner_of_starting (by rw [hc]; rfl)
    have hgone : ∀ {id k}, s.task id = .running k → k.pc.owns = true → False := by
      intro id k hk ho
      rw [hn id k hk] at ho
      cases ho
    constructor
    case inv => exact hinv
    case clean =>
      intro id k hk hpc
      exact (hgone hk (by rcases hpc with hpc | hpc <;> rw [hpc] <;> rfl)).elim
    case timedOut => exact fun id k hk hpc => (hgone hk (by rw [hpc]; rfl)).elim
  | started _ _ =>
    exact hi.of_goto hinv (fun _ _ hk => TaskTable.running_set _ hk) rfl
      (fun _ => hg _ rfl) (fun hpc => by cases hpc)
  | undone hc =>
    refine hi.of_kickers hinv ?_ ?_ <;> unfold WdtState.handlerRemove <;> split <;>
      first | exact fun _ _ hk => hk | rfl
  | removed hc =>
    refine hi.of_kickers hinv ?_ ?_ <;> unfold WdtState.handlerRemove <;> split <;>
      first | exact fun _ _ hk => hk | rfl
  | told _ _ =>
    exact hi.of_kickers hinv
      (fun id k hk => (congrFun (TaskTable.task_send ..) id).symm.trans hk) rfl
  | @kicked id k hk hpc =>
    exact hi.of_goto hinv (fun _ _ hk' => TaskTable.running_set _ hk') rfl
      (fun _ => hi.clean id k hk (Or.inl hpc)) (fun hl => by cases hl)
  | leave _ _ _ =>
    exact hi.of_goto hinv (fun _ _ hk' => TaskTable.running_set _ hk') rfl
      (fun hl => by simp at hl) (fun hl => by cases hl)
  | stay _ _ he =>
    exact hi.of_goto hinv (fun _ _ hk' => TaskTable.running_set _ hk') rfl
      (fun _ => Or.inl he) (fun hl => by cases hl)
  | cleared _ _ =>
    exact hi.of_goto hinv (fun _ _ hk' => TaskTable.running_set _ hk') rfl
      (fun hl => by simp at hl) (fun hl => by cases hl)
  | exited _ _ =>
    exact hi.of_kickers hinv (fun j k hk => TaskTable.of_task_gone _ hk (by simp)) rfl
  | @timedOut id k hk hpc hticks _ =>
    exact hi.of_goto hinv (fun _ _ hk' => TaskTable.running_set _ hk') rfl
      (fun hl => by simp at hl)
      (fun _ => (hi.clean id k hk (Or.inr hpc)).resolve_right hticks)
  | woken _ _ _ =>
    exact hi.of_goto hinv (fun _ _ hk' => TaskTable.running_set _ hk') rfl
      (fun hl => by simp at hl) (fun hl => by cases hl)
  | _ => exact hi.of_kickers hinv (fun _ _ hk => hk) rfl

/-- A kicker that tests `events` and finds the exit event leaves. -/
theorem test_untold {u : WdtState} {id : TaskId} {k : Kicker} {b : Bool}
    (hk : u.task id = .running k) (hpc : k.pc = .test b) (he : hasEvent k.events wdtTaskExit = true)
    (hu : u.told id = false) : ∃ t, wdtStep u (.task id) = some t ∧ ¬ KicksOn t := by
  have hstep : wdtStep u (.task id) = some (u.goto id { k with pc := .clearRunning }) := by
    simp [wdtStep, WdtState.ofTask, hk, WdtState.taskStep, hpc, he]
  refine ⟨_, hstep, fun hon => ?_⟩
  have htold := hon.told id _ (TaskTable.task_set _ _ _) (Or.inl rfl)
  rw [show (u.goto id _).told = u.told from rfl, hu] at htold
  cases htold

/-- So does one that waits with the event in `events`: the wait times out and
leaves `events` alone, or it returns the event. -/
theorem receive_untold {u : WdtState} {id : TaskId} {garbage : EventSet}
    (hk : u.task id = .running ⟨.receive, garbage⟩) (hg : hasEvent garbage wdtTaskExit = true)
    (hticks : u.ctx.ticks ≠ noTimeout) (hu : u.told id = false) :
    ∃ bs t, exec wdtStep u bs = some t ∧ ¬ KicksOn t := by
  cases hp : hasEvent (u.tasks.pending id) wdtTaskExit with
  | false =>
    have h2 : wdtStep u (.timeout id) = some (u.goto id ⟨.test true, garbage⟩) := by
      simp [wdtStep, WdtState.ofTask, hk, WdtState.timeoutStep, hticks, hp]
    obtain ⟨t, h3, hbad⟩ := test_untold (u := u.goto id ⟨.test true, garbage⟩)
      (TaskTable.task_set _ _ _) rfl hg hu
    exact ⟨[_, _], t, by rw [exec_cons _ h2, exec_cons _ h3]; rfl, hbad⟩
  | true =>
    have h2 : wdtStep u (.wake id) =
        some ({ u with tasks := u.tasks.received id wdtTaskExit }.goto id
          ⟨.test false, u.tasks.pending id &&& wdtTaskExit⟩) := by
      simp [wdtStep, WdtState.ofTask, hk, WdtState.wakeStep, hp]
    obtain ⟨t, h3, hbad⟩ := test_untold
      (u := WdtState.goto { u with tasks := u.tasks.received id wdtTaskExit } id
        ⟨.test false, u.tasks.pending id &&& wdtTaskExit⟩)
      (TaskTable.task_set _ _ _) rfl ((hasEvent_and _ _).trans hp) hu
    exact ⟨[_, _], t, by rw [exec_cons _ h2, exec_cons _ h3]; rfl, hbad⟩

/-- A kicker that is started with the exit event in `events` leaves untold. -/
theorem leaves_untold (id : TaskId) {garbage : EventSet}
    (hk : s.task id = .running ⟨.kick, garbage⟩) (hg : hasEvent garbage wdtTaskExit = true)
    (hticks : s.ctx.ticks ≠ noTimeout) (ht : s.told id = false) :
    ∃ bs t, exec wdtStep s bs = some t ∧ ¬ KicksOn t := by
  have h1 : wdtStep s (.task id) = some { s.goto id ⟨.receive, garbage⟩ with
      kicks := s.kicks ++ [s.ctx.wdt] } := by
    simp [wdtStep, WdtState.ofTask, hk, WdtState.taskStep]
  obtain ⟨bs, t, h2, hbad⟩ := receive_untold (u := { s.goto id ⟨.receive, garbage⟩ with
    kicks := s.kicks ++ [s.ctx.wdt] }) (TaskTable.task_set _ _ _) hg hticks ht
  exact ⟨_ :: bs, t, by rw [exec_cons _ h1]; exact h2, hbad⟩

theorem not_kicksOn_of_not_cleanStart (h : wdtStep s a = some s') (hg : ¬ CleanStart s a) :
    ∃ bs t, exec wdtStep s' bs = some t ∧ ¬ KicksOn t := by
  simp only [CleanStart, not_forall, not_or] at hg
  obtain ⟨garbage, rfl, he, hticks⟩ := hg
  cases wdtStep_moved h with
  | @started w _ hc hd =>
    exact leaves_untold w.taskId (TaskTable.task_set _ _ _) (by simpa using he) hticks
      (Function.update_self _ _ _)
  | notStarted _ hsc => exact absurd rfl hsc

theorem cleanInv_init : CleanInv .init where
  inv := wdtInv_init
  clean _ _ h := by cases h
  timedOut _ _ h := by cases h

/-- **The kicker stops only when told to**, in every run in which no kicker
that can time out is started with the exit event in `events`. From a start
that does, the run goes on to a kicker that leaves untold. -/
theorem kicksOn_of_cleanStart (as : List WdtAct) :
    (Along wdtStep CleanStart .init as → ∀ s, exec wdtStep .init as = some s → KicksOn s) ∧
    ∀ s a s', exec wdtStep .init as = some s → wdtStep s a = some s' → ¬ CleanStart s a →
      ∃ bs t, exec wdtStep s' bs = some t ∧ ¬ KicksOn t := by
  constructor
  · intro hG s h
    have hinv : CleanInv s :=
      exec_invariant (fun _ _ _ hi hg h => cleanInv_step hi hg h) cleanInv_init hG h
    exact hinv.kicksOn
  · intro s a s' _ h hg
    exact not_kicksOn_of_not_cleanStart h hg

/-- The start of watchdog 7 by task 1. -/
def startSeven : StartArgs := ⟨7, 1, 5, some 64, some 7⟩

/-- A kicker is started, with 1 in `events`, and times out. -/
def strayExit : List WdtAct :=
  [.outside (.create 1), .call (.start startSeven), .ctl, .ctl,
   .install .successful, .ctl, .taskStart .successful 1#32,
   .task 1, .timeout 1, .task 1]

/-- It leaves its loop after the first time-out. -/
theorem strayExit_not_kicksOn :
    ¬ ∀ (as : List WdtAct) (s : WdtState), exec wdtStep .init as = some s → KicksOn s := by
  intro hall
  have hrun : (exec wdtStep .init strayExit).map (fun s => (s.task 1, s.told 1)) =
      some (.running ⟨.clearRunning, 1#32⟩, false) := by
    decide
  obtain ⟨s, hs, hv⟩ := Option.map_eq_some_iff.mp hrun
  simp only [Prod.mk.injEq] at hv
  have htold := (hall _ s hs).told 1 _ hv.1 (Or.inl rfl)
  rw [hv.2] at htold
  cases htold

/-! ## §6 Exact bookkeeping -/

/-- What the calls owe their callers. -/
structure Exact (s : WdtState) : Prop where
  /-- Between calls `running` is true exactly when the handler is installed
  and a kicker that has not been told to stop is in its loop. -/
  running : s.ctl.atRest = true → (s.ctx.running = true ↔
    s.installed s.ctx.isr = true ∧
      ∃ k, s.task s.ctx.tid = .running k ∧ k.pc.owns = true ∧ s.told s.ctx.tid = false)
  installed : s.ctl.atRest = true → ∀ i, s.installed i = true → s.ctx.running = true ∧ i = s.ctx.isr
  asserts : s.ctl ≠ .assertFailed
  /-- A start while a kicker is running changes nothing. -/
  refuses : ∀ w sc, s.ctl = .returned (.start w) sc → s.before.ctx.running = true →
    sc = .unsatisfied ∧ s.ctx = s.before.ctx ∧ s.installed = s.before.installed ∧
      s.enabled = s.before.enabled
  /-- A start that fails leaves the handlers, `running` and the watchdogs as
  it found them. -/
  restores : ∀ w sc, s.ctl = .returned (.start w) sc → sc ≠ .successful →
    s.installed = s.before.installed ∧ s.ctx.running = s.before.ctx.running ∧
      s.enabled = s.before.enabled

/-- A start whose `rtems_task_start` fails had found its watchdog enabled. -/
def EnabledBefore (s : WdtState) (a : WdtAct) : Prop :=
  ∀ w sc garbage, s.ctl = .taskStart w → a = .taskStart sc garbage → sc ≠ .successful →
    s.before.enabled w.wdt = true

/-- What the call in progress has changed since it began. -/
def FoundInv (s : WdtState) : WdtPc → Prop
  | .startTest _ =>
    s.ctx = s.before.ctx ∧ s.installed = s.before.installed ∧ s.enabled = s.before.enabled
  | .fill _ | .install _ | .enable _ =>
    s.before.ctx.running = false ∧ s.before.installed = noIsr ∧ s.enabled = s.before.enabled
  | .taskStart w =>
    s.before.ctx.running = false ∧ s.before.installed = noIsr ∧
      s.enabled = Function.update s.before.enabled w.wdt true
  | .undo _ _ | .fail _ _ =>
    s.before.ctx.running = false ∧ s.before.installed = noIsr ∧ s.enabled = s.before.enabled
  | .returned (.start _) sc =>
    (s.before.ctx.running = true → sc = .unsatisfied ∧ s.ctx = s.before.ctx) ∧
      (sc ≠ .successful → s.installed = s.before.installed ∧
        s.ctx.running = s.before.ctx.running ∧ s.enabled = s.before.enabled)
  | _ => True

structure ExactInv (s : WdtState) : Prop where
  inv : WdtInv s
  found : FoundInv s s.ctl

theorem ExactInv.exact (hi : ExactInv s) : Exact s := by
  have hctl := hi.inv.ctl
  have hfound := hi.found
  have hinst : s.ctl.atRest = true →
      s.installed = if s.ctx.running then onlyIsr s.ctx.isr else noIsr := by
    intro hr
    cases hc : s.ctl <;> rw [hc] at hr hctl <;> first | exact hctl | cases hr
  constructor
  case running =>
    intro hr
    have hst : s.ctl.starting = false := by
      cases hc : s.ctl <;> rw [hc] at hr <;> first | rfl | cases hr
    constructor
    · intro hrun
      obtain ⟨k, hk, ho⟩ := hi.inv.kicker hst hrun
      refine ⟨?_, k, hk, ho, ?_⟩
      · rw [hinst hr, hrun]
        simp [onlyIsr]
      · by_contra htold
        have hw := hi.inv.waits _ k hk ho (by simpa using htold)
        rw [hw] at hr
        cases hr
    · rintro ⟨_, k, hk, ho, _⟩
      exact (hi.inv.owner _ k hk ho).2.2
  case installed =>
    intro hr i hi'
    rw [hinst hr] at hi'
    cases hrun : s.ctx.running with
    | true => exact ⟨rfl, by simpa [hrun, onlyIsr] using hi'⟩
    | false => simp [hrun, noIsr] at hi'
  case asserts =>
    intro hc
    rw [hc] at hctl
    exact hctl
  case refuses =>
    intro w sc hc hrun
    rw [hc] at hfound
    obtain ⟨hsc, hctx⟩ := hfound.1 hrun
    have hkept := hfound.2 (by rw [hsc]; decide)
    exact ⟨hsc, hctx, hkept.1, hkept.2.2⟩
  case restores =>
    intro w sc hc hsc
    rw [hc] at hfound
    exact hfound.2 hsc

/-- The condition on a step under which a kicker behaves and a start can be undone. -/
structure Undoable (s : WdtState) (a : WdtAct) : Prop where
  leavesTold : LeavesTold s a
  enabledBefore : EnabledBefore s a

theorem exactInv_step (hi : ExactInv s) (hg : Undoable s a) (h : wdtStep s a = some s') :
    ExactInv s' := by
  have hinv : WdtInv s' := wdtInv_step hi.inv hg.leavesTold h
  have hctl := hi.inv.ctl
  have hfound := hi.found
  refine ⟨hinv, ?_⟩
  cases wdtStep_moved h with
  | outside _ => exact hfound
  | call c _ =>
    cases c with
    | start w => exact ⟨rfl, rfl, rfl⟩
    | stop => trivial
  | refuse hc _ =>
    rw [hc] at hfound
    exact ⟨fun _ => ⟨rfl, hfound.1⟩,
      fun _ => ⟨hfound.2.1, congrArg WatchdogTaskCtx.running hfound.1, hfound.2.2⟩⟩
  | begin hc hr =>
    rw [hc] at hctl hfound
    refine ⟨by rw [← hfound.1]; exact hr, ?_, hfound.2.2⟩
    rw [← hfound.2.1]
    exact hctl.trans (by rw [hr]; rfl)
  | filled hc =>
    rw [hc] at hfound
    exact hfound
  | installed hc _ =>
    rw [hc] at hfound
    exact hfound
  | notInstalled hc _ =>
    rw [hc] at hfound
    exact hfound
  | enabled hc =>
    rw [hc] at hfound
    exact ⟨hfound.1, hfound.2.1, by rw [← hfound.2.2]⟩
  | started hc _ =>
    rw [hc] at hfound
    refine ⟨fun hrun => ?_, fun hsc => absurd rfl hsc⟩
    exact absurd (hfound.1.symm.trans hrun) (by simp)
  | @notStarted w sc garbage hc hsc =>
    rw [hc] at hfound
    refine ⟨hfound.1, hfound.2.1, hfound.2.2.trans ?_⟩
    -- the watchdog had been enabled, so enabling it has changed nothing
    rw [← hg.enabledBefore w sc garbage hc rfl hsc]
    exact Function.update_eq_self _ _
  | undone hc =>
    rw [hc] at hfound
    unfold WdtState.handlerRemove
    split
    · exact hfound
    · trivial
  | failed hc =>
    rw [hc] at hctl hfound
    refine ⟨fun hrun => absurd (hfound.1.symm.trans hrun) (by simp), fun _ => ⟨?_, ?_, hfound.2.2⟩⟩
    · exact hctl.2.1.trans hfound.2.1.symm
    · exact hfound.1.symm
  | stopTest _ _ => trivial
  | noKicker _ _ => trivial
  | removed _ =>
    unfold WdtState.handlerRemove
    split <;> trivial
  | told _ _ => trivial
  | untold _ _ => trivial
  | wait _ _ => exact hfound
  | waited _ _ => trivial
  | @cleared id k hk hpc =>
    have hw : s.ctl = .stopWait := hi.inv.waits id k hk (by rw [hpc]; rfl)
      (hi.inv.told id k hk (Or.inr (Or.inr (Or.inl hpc))))
    show FoundInv _ s.ctl
    rw [hw]
    trivial
  | _ => exact hfound

/-- A start that fails in `rtems_task_start` leaves a watchdog enabled that
it found disabled. -/
theorem not_exact_of_not_enabledBefore (hi : WdtInv s) (h : wdtStep s a = some s')
    (hg : ¬ EnabledBefore s a) :
    ∃ bs t, Along wdtStep LeavesTold s' bs ∧ exec wdtStep s' bs = some t ∧ ¬ Exact t := by
  simp only [EnabledBefore, not_forall] at hg
  obtain ⟨w, sc, garbage, hc, rfl, hsc, hoff⟩ := hg
  have hctl := hi.ctl
  rw [hc] at hctl
  have hs' : s' = { s with ctl := .undo w sc } := by
    cases wdtStep_moved h with
    | started _ _ => exact absurd rfl hsc
    | @notStarted v _ _ hv _ =>
      rw [hc] at hv
      cases hv
      rfl
  subst hs'
  have hinst : s.installed w.isr = true := by simp [hctl.2.1, onlyIsr]
  have h1 : wdtStep { s with ctl := .undo w sc } .ctl = some { s with
      installed := Function.update s.installed w.isr false, ctl := .fail w sc } := by
    simp [wdtStep, WdtState.ctlStep, WdtState.handlerRemove, hinst]
  have h2 : wdtStep { s with
      installed := Function.update s.installed w.isr false, ctl := .fail w sc } .ctl =
      some { s with
        installed := Function.update s.installed w.isr false
        ctx.running := false
        ctl := .returned (.start w) sc } := rfl
  have hquiet : ∀ u, LeavesTold u .ctl := fun u id k b ha => by cases ha
  refine ⟨[.ctl, .ctl], _, ⟨hquiet _, fun _ _ => ⟨hquiet _, fun _ _ => trivial⟩⟩,
    by rw [exec_cons _ h1, exec_cons _ h2]; rfl, fun hex => ?_⟩
  have hsame : s.enabled = s.before.enabled := (hex.restores w sc rfl hsc).2.2
  rw [← hsame] at hoff
  exact hoff hctl.2.2

theorem exactInv_init : ExactInv .init where
  inv := wdtInv_init
  found := trivial

/-- **Starts and stops keep exact books**, in every run of kickers that
leave only when told, if a start fails in `rtems_task_start` only for a
watchdog that had been enabled before. From a start that fails there for
another one, the run goes on to a watchdog left enabled. -/
theorem watchdog_exact (as : List WdtAct) :
    (Along wdtStep LeavesTold .init as → Along wdtStep EnabledBefore .init as →
      ∀ s, exec wdtStep .init as = some s → Exact s) ∧
    ∀ s a s', Along wdtStep LeavesTold .init as → exec wdtStep .init as = some s →
      wdtStep s a = some s' → ¬ EnabledBefore s a →
      ∃ bs t, Along wdtStep LeavesTold s' bs ∧ exec wdtStep s' bs = some t ∧ ¬ Exact t := by
  constructor
  · intro hleave hen s h
    have hinv : ExactInv s := exec_invariant (fun _ _ _ hi hg h => exactInv_step hi hg h)
      exactInv_init (along_and (fun _ _ h h' => ⟨h, h'⟩) hleave hen) h
    exact hinv.exact
  · intro s a s' hleave hs h hg
    have hinv : WdtInv s :=
      exec_invariant (fun _ _ _ hi hg h => wdtInv_step hi hg h) wdtInv_init hleave hs
    exact not_exact_of_not_enabledBefore hinv h hg

/-- A start of watchdog 7 whose `rtems_task_start` fails: there is no such task. -/
def startFails : List WdtAct :=
  [.call (.start startSeven), .ctl, .ctl, .install .successful, .ctl, .taskStart .invalidId 0#32,
   .ctl, .ctl]

/-- The watchdog stays enabled, with no handler and no kicker. -/
theorem startFails_not_exact :
    ¬ ∀ (as : List WdtAct) (s : WdtState), Along wdtStep LeavesTold .init as →
      exec wdtStep .init as = some s → Exact s := by
  intro hall
  have hrun : (exec wdtStep .init startFails).map
      (fun s => (s.ctl, s.enabled 7, s.before.enabled 7)) =
      some (.returned (.start startSeven) .invalidId, true, false) := by
    decide
  obtain ⟨s, hs, hv⟩ := Option.map_eq_some_iff.mp hrun
  simp only [Prod.mk.injEq] at hv
  have hquiet : Along wdtStep LeavesTold .init startFails := by
    refine along_of_forall (fun a ha u id k b heq => ?_) _
    rw [heq] at ha
    simp [startFails] at ha
  have hsame := congrFun ((hall _ s hquiet hs).restores _ _ hv.1 (by decide)).2.2 7
  rw [hv.2.1, hv.2.2] at hsame
  cases hsame

end HpscRtems.Watchdog
