/-
HpscRtems.Command.LifecycleTheorems — what holds of the command handler in
every run: it does not sleep while a command waits for it, and its starts
and stops are safe.
-/
import HpscRtems.Command.HandlerTheorems

namespace HpscRtems.Command

open Machine Rtems

variable {ι : Type} [DecidableEq ι] {s s' : HandlerState ι} {a : HandlerAct ι}

/-! ## §1 Sleep -/

/-- Task `id` is blocked in `rtems_event_receive` with neither event pending,
and no enqueuer is between the queue lock and its event. -/
structure Asleep (s : HandlerState ι) (id : RtemsId) : Prop where
  waits : ∃ t, s.task id = .running t ∧ t.pc = .receive
  noNew : hasEvent (s.tasks.pending id) cmdEventNew = false
  noExit : hasEvent (s.tasks.pending id) cmdEventExit = false
  noEnqueuer : ∀ e, (s.enq e).between = false

/-- **A handler that sleeps has nothing to do**: the queue is empty. -/
theorem asleep_queue_empty (handled : CmdHandledCtx) (as : List (HandlerAct ι))
    (s : HandlerState ι) (id : RtemsId)
    (h : exec handlerStep (HandlerState.init ι handled) as = some s) (ha : Asleep s id) :
    s.cmdq.head = s.cmdq.tail := by
  have hi : HandlerInv s := handlerInv_exec (handlerInv_init ι handled) h
  obtain ⟨t, ht, hpc⟩ := ha.waits
  by_contra hne
  rcases hi.awake id t ht hpc hne with hnew | ⟨e, he⟩
  · rw [ha.noNew] at hnew
    cases hnew
  · rw [not_tells_of_not_between (ha.noEnqueuer e)] at he
    cases he

/-- A handler is created and started; it finds the command that was
enqueued before, serves it without a reply and goes to sleep. -/
def firstCommand : List (HandlerAct Unit) :=
  [.push () ⟨Msg.zero, some 8⟩ none none, .enq (),
   .outside (.create 1), .call (.start 1 64 0),
   .ctl, .ctl, .ctl, .ctl, .ctl, .taskStart .successful,
   .task 1, .task 1, .served 1 0 Msg.zero,
   .task 1, .task 1, .task 1]

theorem firstCommand_queue_empty :
    ∃ s, exec handlerStep (HandlerState.init Unit ⟨none, none⟩) firstCommand = some s ∧
      Asleep s 1 ∧ s.cmdq.head = s.cmdq.tail := by
  have hrun : (exec handlerStep (HandlerState.init Unit ⟨none, none⟩) firstCommand).map
      (fun s => (s.task 1, s.tasks.pending 1, (s.enq ()).between)) =
      some (.running ⟨64, .receive⟩, 0#32, false) := by
    decide
  obtain ⟨s, hs, hv⟩ := Option.map_eq_some_iff.mp hrun
  simp only [Prod.mk.injEq] at hv
  obtain ⟨htask, hpend, henq⟩ := hv
  have ha : Asleep s 1 :=
    ⟨⟨_, htask, rfl⟩, by rw [hpend]; rfl, by rw [hpend]; rfl, fun _ => henq⟩
  exact ⟨s, hs, ha, asleep_queue_empty ⟨none, none⟩ firstCommand s 1 hs ha⟩

/-! ## §2 Starts and stops -/

/-- The actions of the controlling task. -/
def HandlerAct.ofCtl : HandlerAct ι → Bool
  | .call _ | .ctl | .taskStart _ | .exitSend _ => true
  | _ => false

/-- What is true of the handler in a state, and of what follows from it. -/
structure Lifecycle (s : HandlerState ι) : Prop where
  /-- One handler is in its loop at most. -/
  one : ∀ id id' t t', s.task id = .running t → s.task id' = .running t' →
    t.pc.inLoop = true → t'.pc.inLoop = true → id = id'
  /-- `cmd_handle` finds the callback its task was started with. -/
  callback : ∀ id t, s.task id = .running t → t.pc.handling.isSome = true → s.ctx.cb = some t.cb
  asserts : ∀ id t, s.task id = .running t → t.pc ≠ .assertFailed
  /-- A start while a handler is running returns `RTEMS_UNSATISFIED` and
  changes nothing, whatever the other parties do meanwhile. -/
  refuses : ∀ id t, s.ctl.atRest = true → s.task id = .running t → t.pc.inLoop = true →
    ∀ tid cb ticks s₁ as s₂ s₃, handlerStep s (.call (.start tid cb ticks)) = some s₁ →
      (∀ a ∈ as, a.ofCtl = false) → exec handlerStep s₁ as = some s₂ →
      handlerStep s₂ .ctl = some s₃ →
      s₂.ctx = s.ctx ∧ s₃ = { s₂ with ctl := .refused (.start tid cb ticks) }
  /-- A start whose `rtems_task_start` fails leaves no handler on record. -/
  failed : ∀ tid cb ticks sc, s.ctl = .returned (.start tid cb ticks) sc → sc ≠ .successful →
    s.ctx.tid = idNone ∧ s.ctx.cb = none ∧ s.ctx.running = false
  /-- After a stop nothing is handled before the next successful start. -/
  stopped : s.ctl = .returned .destroy .successful → ∀ as s', exec handlerStep s as = some s' →
    (∀ a ∈ as, a ≠ .taskStart .successful) →
    ∀ id t, s'.task id = .running t → t.pc.inLoop = false

theorem owns_of_inLoop {pc : HandlePc} (h : pc.inLoop = true) : pc.owns = true := by
  cases pc <;> simp_all [HandlePc.inLoop, HandlePc.owns]

theorem owns_of_handling {pc : HandlePc} (h : pc.handling.isSome = true) : pc.owns = true := by
  cases pc <;> simp_all [HandlePc.handling, HandlePc.owns]

/-- While a start is about to test `running`, the others leave the record alone. -/
theorem startTest_kept {c : CtlCall} (hi : HandlerInv s) (hc : s.ctl = .startTest c)
    (ha : a.ofCtl = false) (h : handlerStep s a = some s') :
    s'.ctl = .startTest c ∧ s'.ctx = s.ctx := by
  have hcleared : ∀ {id : TaskId} {t}, s.task id = .running t → t.pc ≠ .clearRunning := by
    intro id t ht hpc
    obtain ⟨c', hw⟩ := hi.exit id t ht (by rw [hpc]; rfl) (Or.inr (by rw [hpc]; rfl))
    rw [hc] at hw
    cases hw
  cases handlerStep_moved h with
  | cleared ht hpc => exact absurd hpc (hcleared ht)
  | call _ _ => cases ha
  | refuse _ _ => cases ha
  | begin _ _ => cases ha
  | setTid _ => cases ha
  | setCb _ => cases ha
  | setTicks _ => cases ha
  | setRunning _ => cases ha
  | started _ _ => cases ha
  | startFailed _ _ => cases ha
  | destroyTest _ _ => cases ha
  | noHandler _ _ => cases ha
  | exitSent _ _ => cases ha
  | exitUnsent _ _ => cases ha
  | wait _ _ => cases ha
  | waited _ _ => cases ha
  | _ => exact ⟨hc, rfl⟩

theorem startTest_kept_exec {c : CtlCall} {as : List (HandlerAct ι)} (hi : HandlerInv s)
    (hc : s.ctl = .startTest c) (ha : ∀ a ∈ as, a.ofCtl = false)
    (h : exec handlerStep s as = some s') : s'.ctl = .startTest c ∧ s'.ctx = s.ctx := by
  induction as generalizing s with
  | nil => cases h; exact ⟨hc, rfl⟩
  | cons a as ih =>
    obtain ⟨u, hsu, hu⟩ := exec_cons_some h
    obtain ⟨hcu, hxu⟩ := startTest_kept hi hc (ha a (List.mem_cons_self ..)) hsu
    have hrest := ih (handlerInv_step hi hsu) hcu
      (fun b hb => ha b (List.mem_cons_of_mem _ hb)) hu
    exact ⟨hrest.1, hrest.2.trans hxu⟩

/-- The actions of the handler tasks. -/
def HandlerAct.ofHandler : HandlerAct ι → Bool
  | .task _ | .served .. | .sent .. | .wake _ => true
  | _ => false

/-- A task that has cleared `running` has only its exit before it. -/
theorem handler_of_noOwner (hn : NoOwner s) (ha : a.ofHandler = true)
    (h : handlerStep s a = some s') :
    ∃ id : TaskId, s' = { s with tasks := s.tasks.set id .absent } := by
  have hgone : ∀ {id : TaskId} {t}, s.task id = .running t → t.pc.owns = true → False := by
    intro id t ht ho
    rw [hn id t ht] at ho
    cases ho
  cases handlerStep_moved h with
  | @exited id _ _ _ => exact ⟨id, rfl⟩
  | dequeued ht hpc _ => exact (hgone ht (by rw [hpc]; rfl)).elim
  | drained ht hpc _ => exact (hgone ht (by rw [hpc]; rfl)).elim
  | asserted ht hpc _ => exact (hgone ht (by rw [hpc]; rfl)).elim
  | assertFails ht hpc _ => exact (hgone ht (by rw [hpc]; rfl)).elim
  | served ht hpc _ => exact (hgone ht (by rw [hpc]; rfl)).elim
  | sendReply ht hpc _ => exact (hgone ht (by rw [hpc]; rfl)).elim
  | sent _ ht hpc => exact (hgone ht (by rw [hpc]; rfl)).elim
  | reported ht hpc _ => exact (hgone ht (by rw [hpc]; rfl)).elim
  | unreported ht hpc _ => exact (hgone ht (by rw [hpc]; rfl)).elim
  | reportedAll ht hpc _ => exact (hgone ht (by rw [hpc]; rfl)).elim
  | unreportedAll ht hpc _ => exact (hgone ht (by rw [hpc]; rfl)).elim
  | woken ht hpc _ => exact (hgone ht (by rw [hpc]; rfl)).elim
  | leave ht hpc _ => exact (hgone ht (by rw [hpc]; rfl)).elim
  | stay ht hpc _ => exact (hgone ht (by rw [hpc]; rfl)).elim
  | cleared ht hpc => exact (hgone ht (by rw [hpc]; rfl)).elim
  | _ => cases ha

/-- Only a start brings a handler about. -/
theorem noOwner_step (hn : NoOwner s) (ha : a ≠ .taskStart .successful)
    (h : handlerStep s a = some s') : NoOwner s' := by
  cases hof : a.ofHandler with
  | true =>
    obtain ⟨id, rfl⟩ := handler_of_noOwner hn hof h
    exact fun j u hu => hn j u (TaskTable.of_task_gone _ hu (by simp))
  | false =>
    cases handlerStep_moved h with
    | outside ho => exact fun id t ht => hn id t ((ho.running id t).mp ht)
    | started _ _ => exact absurd rfl ha
    | exitSent _ _ =>
      exact fun id t ht => hn id t ((congrFun (TaskTable.task_send ..) id).symm.trans ht)
    | notified _ _ =>
      exact fun id t ht => hn id t ((congrFun (TaskTable.task_send ..) id).symm.trans ht)
    | _ => first | exact hn | cases hof

/-- With no handler the queue is left to its other users. -/
theorem cmdq_of_noOwner (hn : NoOwner s) (hpush : ∀ e cmd cb cbArg, a ≠ .push e cmd cb cbArg)
    (hdrop : a ≠ .dropAll) (h : handlerStep s a = some s') : s'.cmdq = s.cmdq := by
  cases hof : a.ofHandler with
  | true =>
    obtain ⟨id, rfl⟩ := handler_of_noOwner hn hof h
    rfl
  | false =>
    cases handlerStep_moved h with
    | pushed _ _ => exact absurd rfl (hpush _ _ _ _)
    | dropped => exact absurd rfl hdrop
    | _ => first | rfl | cases hof

theorem noOwner_exec {as : List (HandlerAct ι)} (hn : NoOwner s)
    (ha : ∀ a ∈ as, a ≠ .taskStart .successful) (h : exec handlerStep s as = some s') :
    NoOwner s' := by
  induction as generalizing s with
  | nil => cases h; exact hn
  | cons a as ih =>
    obtain ⟨u, hsu, hu⟩ := exec_cons_some h
    exact ih (noOwner_step hn (ha a (List.mem_cons_self ..)) hsu)
      (fun b hb => ha b (List.mem_cons_of_mem _ hb)) hu

/-- A stop that has returned has left no handler. -/
def Halted (s : HandlerState ι) : Prop := ∀ sc, s.ctl = .returned .destroy sc → NoOwner s

theorem halted_step (hi : HandlerInv s) (hh : Halted s) (h : handlerStep s a = some s') :
    Halted s' := by
  have hkept : a ≠ .taskStart .successful → s'.ctl = s.ctl → Halted s' :=
    fun ha hctl sc hsc => noOwner_step (hh sc (hctl.symm.trans hsc)) ha h
  cases handlerStep_moved h with
  | noHandler _ hr => exact fun _ _ => hi.noOwner_of_not_running hr
  | setRunning hc => exact fun _ _ => hi.noOwner_of_not_settled (by rw [hc]; rfl)
  | exitUnsent hc he => exact absurd (hi.exit_heard hc) (by rw [he]; simp)
  | call c _ => cases c <;> exact fun _ hsc => by cases hsc
  | refuse _ _ => exact fun _ hsc => by cases hsc
  | begin _ _ => exact fun _ hsc => by cases hsc
  | setTid _ => exact fun _ hsc => by cases hsc
  | setCb _ => exact fun _ hsc => by cases hsc
  | setTicks _ => exact fun _ hsc => by cases hsc
  | started _ _ => exact fun _ hsc => by cases hsc
  | startFailed _ _ => exact fun _ hsc => by cases hsc
  | destroyTest _ _ => exact fun _ hsc => by cases hsc
  | exitSent _ _ => exact fun _ hsc => by cases hsc
  | waited _ _ => exact fun _ hsc => by cases hsc
  | _ => exact hkept nofun rfl

theorem halted_exec {as : List (HandlerAct ι)} (hi : HandlerInv s) (hh : Halted s)
    (h : exec handlerStep s as = some s') : Halted s' :=
  (exec_invariant' (I := fun s => HandlerInv s ∧ Halted s)
    (fun _ _ _ hi h => ⟨handlerInv_step hi.1 h, halted_step hi.1 hi.2 h⟩) ⟨hi, hh⟩ h).2

theorem lifecycle_of_inv (hi : HandlerInv s) : Lifecycle s := by
  constructor
  case one =>
    intro id id' t t' ht ht' hl hl'
    exact hi.one ht' (owns_of_inLoop hl') ht (owns_of_inLoop hl)
  case callback => exact fun id t ht hh => (hi.owner id t ht (owns_of_handling hh)).2.2.1
  case asserts => exact hi.ok
  case refuses =>
    intro id t hrest ht hl tid cb ticks s₁ as s₂ s₃ hcall has h₂ h₃
    have hrun : s.ctx.running = true := (hi.owner id t ht (owns_of_inLoop hl)).2.2.2
    have h₁ : s₁.ctl = .startTest (.start tid cb ticks) ∧ s₁.ctx = s.ctx := by
      cases handlerStep_moved hcall with
      | call _ _ => exact ⟨rfl, rfl⟩
    obtain ⟨hctl, hctx⟩ := startTest_kept_exec (handlerInv_step hi hcall) h₁.1 has h₂
    have hrun₂ : s₂.ctx.running = true := by rw [hctx, h₁.2, hrun]
    refine ⟨hctx.trans h₁.2, ?_⟩
    simp only [handlerStep, HandlerState.ctlStep, hctl, hrun₂, if_true, Option.some.injEq] at h₃
    exact h₃.symm
  case failed =>
    intro tid cb ticks sc hc hsc
    have hctl := hi.ctl
    rw [hc] at hctl
    have hctx : s.ctx = .none := hctl ⟨fun hk => (by cases hk), fun hk => absurd hk hsc⟩
    rw [hctx]
    exact ⟨rfl, rfl, rfl⟩
  case stopped =>
    intro hc as s' h has id t ht
    have hctl := hi.ctl
    rw [hc] at hctl
    have hctx : s.ctx = .none := hctl ⟨fun _ => rfl, fun _ => rfl⟩
    have hn : NoOwner s' :=
      noOwner_exec (hi.noOwner_of_not_running (by rw [hctx]; rfl)) has h
    by_contra hl
    have ho := hn id t ht
    rw [owns_of_inLoop (by simpa using hl)] at ho
    cases ho

/-- **The handler's lifecycle is safe** in every run. -/
theorem handler_lifecycle (handled : CmdHandledCtx) (as : List (HandlerAct ι))
    (s : HandlerState ι) (h : exec handlerStep (HandlerState.init ι handled) as = some s) :
    Lifecycle s :=
  lifecycle_of_inv (handlerInv_exec (handlerInv_init ι handled) h)

/-- The first command, then a stop and a second start that fails. -/
def stopAndFail : List (HandlerAct Unit) :=
  firstCommand ++
    [.call .destroy, .ctl, .exitSend 2, .ctl, .wake 1,
     .task 1, .task 1, .task 1,
     .ctl, .ctl, .ctl, .ctl, .ctl,
     .call (.start 3 64 0), .ctl, .ctl, .ctl, .ctl, .ctl, .taskStart .invalidId,
     .ctl, .ctl, .ctl, .ctl]

theorem stopAndFail_lifecycle :
    ∃ s, exec handlerStep (HandlerState.init Unit ⟨none, none⟩) stopAndFail = some s ∧
      s.ctl = .returned (.start ⟨3, by decide⟩ 64 0) .invalidId ∧ Lifecycle s := by
  have hrun : (exec handlerStep (HandlerState.init Unit ⟨none, none⟩) stopAndFail).map
      (fun s => s.ctl) = some (.returned (.start ⟨3, by decide⟩ 64 0) .invalidId) := by
    decide
  obtain ⟨s, hs, hv⟩ := Option.map_eq_some_iff.mp hrun
  exact ⟨s, hs, hv, handler_lifecycle ⟨none, none⟩ stopAndFail s hs⟩

end HpscRtems.Command
