/-
HpscRtems.Command.DrainTheorems — a handler that is left to its work comes
to the end of it.

When nobody waits for the handler to stop and no further command is pushed,
the handler and the enqueuers that are under way have a bounded number of
statements left, as long as no reply is asked for to a command without a
link. Each statement lowers
`HandlerState.work`, in which a command in the queue weighs as much as its
whole service and a pending `CMD_EVENT_NEW` as one more pass over the queue.
When none is left, the handler sleeps, and every command accepted has been
served or dropped.
-/
import Mathlib.Algebra.Order.BigOperators.Group.Finset
import HpscRtems.Command.LedgerTheorems
import HpscRtems.Machine.Rank

namespace HpscRtems.Command

open Machine Rtems

variable {ι : Type} {s s' : HandlerState ι} {a : HandlerAct ι} {id : TaskId}

/-! ## §1 The statements that are left -/

/-- Those of the handler up to its next `rtems_event_receive`, but for the
commands it has still to take. -/
def HandlePc.work : HandlePc → Nat
  | handle _ => 7
  | serve _ => 6
  | sendReply _ _ => 5
  | inSend _ => 4
  | out _ _ => 3
  | outAll _ _ => 2
  | check _ => 2
  | flush => 1
  | receive | clearRunning | exit | assertFailed => 0

def taskWork : TaskObj HandlerTask → Nat
  | .running t => t.pc.work
  | _ => 0

/-- Those of an enqueuer, and the pass that its event costs the handler. -/
def EnqPc.work : EnqPc → Nat
  | test _ => 6
  | load _ => 5
  | send _ _ => 4
  | idle | returned _ _ => 0

/-- The pass over the queue that a pending event is for. -/
def newWork (events : EventSet) : Nat := if hasEvent events cmdEventNew then 3 else 0

def HandlerState.work [Fintype ι] (s : HandlerState ι) (id : TaskId) : Nat :=
  7 * s.cmdq.pending.length + taskWork (s.task id) + newWork (s.tasks.pending id) +
    ∑ e, (s.enq e).work

/-- Task `id` is in the loop of `cmd_handle_task`, and no stop waits for it. -/
structure Serving (s : HandlerState ι) (id : TaskId) : Prop where
  runs : ∃ t, s.task id = .running t ∧ t.pc.inLoop = true
  noStop : ∀ c, s.ctl ≠ .destroyWait c

/-- The statements of the handler and of the enqueuers under way. -/
def GoesOn (id : TaskId) (_ : HandlerState ι × Ledger) : HandlerAct ι → Prop
  | .task j | .served j _ _ | .sent j _ | .wake j => j = id
  | .enq _ | .notify _ _ => True
  | _ => False

/-- The command that task `id` has in hand. -/
def HandlerState.inHand (s : HandlerState ι) (id : TaskId) : Option CmdqItem :=
  match s.task id with
  | .running t => t.pc.handling
  | _ => none

/-- The handler callback returns a positive size only for a command with a
link. -/
def HandlerState.RepliesToLinks (s : HandlerState ι) : HandlerAct ι → Prop
  | .served id replySz _ => 0 < replySz → ∀ item ∈ s.inHand id, item.cmd.link.isSome = true
  | _ => True

instance HandlerState.RepliesToLinks.instDecidable (s : HandlerState ι) :
    ∀ a, Decidable (s.RepliesToLinks a)
  | .served id replySz _ =>
    inferInstanceAs (Decidable (0 < replySz → ∀ item ∈ s.inHand id, item.cmd.link.isSome = true))
  | .outside _ | .call _ | .ctl | .taskStart _ | .exitSend _ | .task _ | .push .. | .sent ..
  | .wake _ | .enq _ | .notify .. | .dropAll => isTrue trivial

/-- The same, where the callback asks for replies to links only. -/
def GoesOnLinked (id : TaskId) (x : HandlerState ι × Ledger) (a : HandlerAct ι) : Prop :=
  GoesOn id x a ∧ x.1.RepliesToLinks a

/-- A reply that is to be sent has a link to go to. -/
def HandlerState.SendsLinked (s : HandlerState ι) : Prop :=
  ∀ (id : TaskId) t item reply, s.task id = .running t → t.pc = .sendReply item reply →
    item.cmd.link.isSome = true

theorem newWork_le (events : EventSet) : newWork events ≤ 3 := by
  unfold newWork
  split <;> omega

theorem taskWork_le (x : TaskObj HandlerTask) : taskWork x ≤ 7 := by
  cases x with
  | running t =>
    show t.pc.work ≤ 7
    cases t.pc <;> simp [HandlePc.work]
  | _ => simp [taskWork]

theorem EnqPc.work_le (pc : EnqPc) : pc.work ≤ 6 := by
  cases pc <;> simp [EnqPc.work]

theorem HandlerState.work_le [Fintype ι] (s : HandlerState ι) (id : TaskId) :
    s.work id ≤ 31 + 6 * Fintype.card ι := by
  have hqueue : s.cmdq.pending.length < 4 := by
    rw [Cmdq.pending, Ring.length_contents]
    exact s.cmdq.ring.size_lt
  have henq : ∑ e, (s.enq e).work ≤ Fintype.card ι * 6 :=
    Finset.sum_le_card_nsmul _ _ _ fun e _ => (s.enq e).work_le
  have htask := taskWork_le (s.task id)
  have hnew := newWork_le (s.tasks.pending id)
  unfold work
  omega

/-! ## §2 One step -/

/-- The handler goes on in its loop, and less is left. -/
theorem Serving.goto [Fintype ι] (hs : Serving s id) {t : HandlerTask} {pc : HandlePc}
    (ht : s.task id = .running t) (hloop : pc.inLoop = true)
    (htasks : s'.tasks.task = (s.goto id t pc).tasks.task) (hctl : s'.ctl = s.ctl)
    (henq : s'.enq = s.enq)
    (hlt : 7 * s'.cmdq.pending.length + pc.work + newWork (s'.tasks.pending id) <
      7 * s.cmdq.pending.length + t.pc.work + newWork (s.tasks.pending id)) :
    Serving s' id ∧ s'.work id < s.work id := by
  have ht' : s'.task id = .running { t with pc := pc } := by
    rw [HandlerState.task, htasks]
    exact task_goto s id t pc
  refine ⟨⟨⟨_, ht', hloop⟩, fun c => hctl ▸ hs.noStop c⟩, ?_⟩
  simp only [HandlerState.work, ht, ht', henq, taskWork]
  omega

/-- The same where the queue and the events are left alone. -/
theorem Serving.goOn [Fintype ι] (hs : Serving s id) {t : HandlerTask} {pc : HandlePc}
    (ht : s.task id = .running t) (hloop : pc.inLoop = true)
    (htasks : s'.tasks = (s.goto id t pc).tasks) (hctl : s'.ctl = s.ctl) (henq : s'.enq = s.enq)
    (hq : s'.cmdq = s.cmdq) (hlt : pc.work < t.pc.work) :
    Serving s' id ∧ s'.work id < s.work id := by
  refine hs.goto ht hloop (by rw [htasks]) hctl henq ?_
  have hpend : s'.tasks.pending = s.tasks.pending := by rw [htasks]; rfl
  rw [hq, hpend]
  omega

/-- An enqueuer goes on, and less is left. -/
theorem Serving.enq [Fintype ι] [DecidableEq ι] (hs : Serving s id) {e : ι} {pc : EnqPc}
    (htask : s'.task id = s.task id) (hctl : s'.ctl = s.ctl) (hq : s'.cmdq = s.cmdq)
    (henq : s'.enq = Function.update s.enq e pc)
    (hlt : pc.work + newWork (s'.tasks.pending id) <
      (s.enq e).work + newWork (s.tasks.pending id)) :
    Serving s' id ∧ s'.work id < s.work id := by
  refine ⟨⟨htask ▸ hs.runs, fun c => hctl ▸ hs.noStop c⟩, ?_⟩
  have hsum := sum_weight_update EnqPc.work s.enq e pc
  simp only [HandlerState.work, htask, hq, henq]
  omega

/-- The same where it sends no event. -/
theorem Serving.enqOn [Fintype ι] [DecidableEq ι] (hs : Serving s id) {e : ι} {pc : EnqPc}
    (hlt : pc.work < (s.enq e).work) :
    Serving (s.enqGoto e pc) id ∧ (s.enqGoto e pc).work id < s.work id :=
  hs.enq rfl rfl rfl rfl (Nat.add_lt_add_right hlt _)

theorem hasEvent_comm (set ev : EventSet) : hasEvent set ev = hasEvent ev set := by
  simp only [hasEvent, BitVec.and_comm]

theorem hasEvent_or_right (events ev ev' : EventSet) :
    hasEvent events (ev ||| ev') = (hasEvent events ev || hasEvent events ev') := by
  rw [hasEvent_comm, hasEvent_or, hasEvent_comm ev, hasEvent_comm ev']

/-- A handler that is not to stop receives `CMD_EVENT_NEW` and nothing else. -/
theorem woken_new {events : EventSet}
    (h : hasEvent events (cmdEventNew ||| cmdEventExit) = true)
    (hexit : hasEvent events cmdEventExit = false) : hasEvent events cmdEventNew = true := by
  rwa [hasEvent_or_right, hexit, Bool.or_false] at h

theorem afterServe_work (item : CmdqItem) (replySz : Int) (reply : Msg) :
    (afterServe item replySz reply).inLoop = true ∧
      (afterServe item replySz reply).work < (HandlePc.serve item).work := by
  unfold afterServe
  split
  · exact ⟨rfl, by simp [HandlePc.work]⟩
  · split <;> exact ⟨rfl, by simp [HandlePc.work]⟩

theorem newWork_received (t : TaskTable HandlerTask) (id : TaskId) :
    newWork ((t.received id (cmdEventNew ||| cmdEventExit)).pending id) = 0 := by
  have hgone : hasEvent ((t.received id (cmdEventNew ||| cmdEventExit)).pending id)
      cmdEventNew = false := by
    show hasEvent (eventClear t.pending id _ id) cmdEventNew = false
    rw [eventClear_self]
    simp [hasEvent, cmdEventNew, cmdEventExit, BitVec.and_assoc]
  simp [newWork, hgone]

variable [DecidableEq ι] [Fintype ι]

omit [Fintype ι] in
/-- A task that is to send a reply was so before, or its callback has just
asked for it. -/
theorem sendReply_step (h : handlerStep s a = some s') {j : TaskId} {u : HandlerTask}
    {item : CmdqItem} {reply : Msg} (hu : s'.task j = .running u)
    (hpc : u.pc = .sendReply item reply) :
    s.task j = .running u ∨ ∃ replySz t, a = .served j replySz reply ∧ 0 < replySz ∧
      s.task j = .running t ∧ t.pc = .serve item := by
  -- a task that goes on somewhere else
  have hgoto : ∀ {x : HandlerState ι} {i : TaskId} {t : HandlerTask} {pc : HandlePc},
      (x.goto i t pc).task j = .running u → x.tasks.task = s.tasks.task →
      pc ≠ .sendReply item reply → s.task j = .running u := by
    intro x i t pc hx htasks hne
    rcases running_goto hx with ⟨-, rfl⟩ | ⟨-, hold⟩
    · exact absurd hpc hne
    · rwa [HandlerState.task, htasks] at hold
  cases handlerStep_moved h with
  | outside ho => exact .inl ((ho.running _ _).mp hu)
  | @started _ cb =>
    rcases TaskTable.running_set _ hu with ⟨-, rfl⟩ | ⟨-, hold⟩
    · cases hpc
    · exact .inl hold
  | exitSent _ _ | notified _ _ =>
    exact .inl ((congrFun (TaskTable.task_send ..) _).symm.trans hu)
  | @exited id =>
    refine .inl ?_
    by_cases hj : (j : RtemsId) = id
    · rw [hj, HandlerState.task, TaskTable.task_set] at hu
      cases hu
    · rwa [HandlerState.task, TaskTable.task_set_of_ne _ _ hj] at hu
  | @served id t item' cb replySz reply' ht hserve hcb =>
    rcases running_goto hu with ⟨hj, rfl⟩ | ⟨-, hold⟩
    · simp only [afterServe] at hpc
      split at hpc
      · cases hpc
      · split at hpc
        · cases hpc
        · cases hpc
          obtain rfl : j = id := Subtype.ext hj
          exact .inr ⟨replySz, t, rfl, by omega, ht, hserve⟩
    · exact .inl hold
  | dequeued _ _ _ | drained _ _ _ | asserted _ _ _ | assertFails _ _ _ | sendReply _ _ _
  | sent _ _ _ | reported _ _ _ | unreported _ _ _ | reportedAll _ _ _ | unreportedAll _ _ _
  | woken _ _ _ | leave _ _ _ | stay _ _ _ | cleared _ _ =>
    exact .inl (hgoto hu rfl (by simp))
  | _ => exact .inl hu

omit [Fintype ι] in
theorem sendsLinked_handlerStep (hi : s.SendsLinked) (hg : s.RepliesToLinks a)
    (h : handlerStep s a = some s') : s'.SendsLinked := by
  intro j u item reply hu hpc
  rcases sendReply_step h hu hpc with hold | ⟨replySz, t, rfl, hpos, ht, hserve⟩
  · exact hi j u item reply hold hpc
  · refine hg hpos item ?_
    simp [HandlerState.inHand, ht, hserve, HandlePc.handling]

theorem drain_step (hi : HandlerInv s) (hs : Serving s id) {g : Ledger} (hg : GoesOn id (s, g) a)
    (h : handlerStep s a = some s') : Serving s' id ∧ s'.work id < s.work id := by
  obtain ⟨u, hu, hloop⟩ := hs.runs
  have hown := owns_of_inLoop hloop
  have hnoExit : hasEvent (s.tasks.pending id) cmdEventExit = false ∧ u.pc.leaving = false := by
    have hasked : ¬ (hasEvent (s.tasks.pending id) cmdEventExit = true ∨ u.pc.leaving = true) := by
      intro he
      obtain ⟨c, hc⟩ := hi.exit id u hu hown he
      exact hs.noStop c hc
    simpa using hasked
  cases handlerStep_moved h with
  | @dequeued _ t q cmd cb cbArg ht hpc hq =>
    cases hg
    refine hs.goto ht rfl rfl rfl rfl ?_
    have hlen : s.cmdq.pending.length = q.pending.length + 1 := by
      rw [pending_of_cmdDequeue hq, List.length_cons]
    show 7 * q.pending.length + 7 + newWork (s.tasks.pending id) < _
    rw [hpc, hlen]
    simp only [HandlePc.work]
    omega
  | drained ht hpc _ =>
    cases hg
    exact hs.goOn ht rfl rfl rfl rfl rfl (by simp [hpc, HandlePc.work])
  | asserted ht hpc _ =>
    cases hg
    exact hs.goOn ht rfl rfl rfl rfl rfl (by simp [hpc, HandlePc.work])
  | assertFails ht hpc hcb =>
    cases hg
    have hrecord := (hi.owner id _ ht (by rw [hpc]; rfl)).2.2.1
    rw [hcb] at hrecord
    cases hrecord
  | @served _ t item cb replySz reply ht hpc _ =>
    cases hg
    have hafter := afterServe_work item replySz reply
    refine hs.goOn ht hafter.1 rfl rfl rfl rfl ?_
    rw [hpc]
    exact hafter.2
  | sendReply ht hpc _ =>
    cases hg
    exact hs.goOn ht rfl rfl rfl rfl rfl (by simp [hpc, HandlePc.work])
  | sent _ ht hpc =>
    cases hg
    exact hs.goOn ht rfl rfl rfl rfl rfl (by simp [hpc, HandlePc.work])
  | reported ht hpc _ =>
    cases hg
    exact hs.goOn ht rfl rfl rfl rfl rfl (by simp [hpc, HandlePc.work])
  | unreported ht hpc _ =>
    cases hg
    exact hs.goOn ht rfl rfl rfl rfl rfl (by simp [hpc, HandlePc.work])
  | reportedAll ht hpc _ =>
    cases hg
    exact hs.goOn ht rfl rfl rfl rfl rfl (by simp [hpc, HandlePc.work])
  | unreportedAll ht hpc _ =>
    cases hg
    exact hs.goOn ht rfl rfl rfl rfl rfl (by simp [hpc, HandlePc.work])
  | woken ht hpc he =>
    cases hg
    refine hs.goto ht rfl rfl rfl rfl ?_
    have hnew : newWork (s.tasks.pending id) = 3 := by
      simp [newWork, woken_new he hnoExit.1]
    show 7 * s.cmdq.pending.length + 2 + newWork ((s.tasks.received id _).pending id) < _
    rw [newWork_received, hnew, hpc]
    simp only [HandlePc.work]
    omega
  | leave ht hpc he =>
    cases hg
    rw [hu] at ht
    cases ht
    have hleave : u.pc.leaving = true := by
      rw [hpc]
      exact he
    rw [hnoExit.2] at hleave
    cases hleave
  | stay ht hpc _ =>
    cases hg
    exact hs.goOn ht rfl rfl rfl rfl rfl (by simp [hpc, HandlePc.work])
  | cleared ht hpc =>
    cases hg
    rw [hu] at ht
    cases ht
    rw [hpc] at hloop
    cases hloop
  | exited ht hpc =>
    cases hg
    rw [hu] at ht
    cases ht
    rw [hpc] at hloop
    cases hloop
  | noTid he _ => exact hs.enqOn (by simp [he, EnqPc.work])
  | tested he _ => exact hs.enqOn (by simp [he, EnqPc.work])
  | loaded he => exact hs.enqOn (by simp [he, EnqPc.work])
  | @notified e p j self he _ =>
    refine hs.enq (congrFun (TaskTable.task_send ..) _) rfl rfl rfl ?_
    have hle := newWork_le ((s.tasks.send self j cmdEventNew).1.pending id)
    show 0 + newWork ((s.tasks.send self j cmdEventNew).1.pending id) < _
    rw [he]
    simp only [EnqPc.work]
    omega
  | unheard he _ => exact hs.enqOn (by simp [he, EnqPc.work])
  | _ => cases hg

/-! ## §3 Nothing left to do -/

/-- The handler sleeps, and every command accepted has been served, in the
order they came in, or was dropped. -/
structure Drained (id : TaskId) (x : HandlerState ι × Ledger) : Prop where
  asleep : Asleep x.1 id
  queue : x.1.cmdq.head = x.1.cmdq.tail
  places : x.2.accepted.Perm (x.2.completed ++ x.2.dropped)
  order : x.2.completed.Sublist x.2.accepted
  log : ∃ services, List.Forall₂ (WholeService x.1.handled) x.2.completed services ∧
    x.1.log = services.flatten

omit [Fintype ι] in
/-- No enqueuer has a statement left. -/
theorem enq_atRest {g : Ledger} (hrest : AtRest ledgerStep (GoesOnLinked id) (s, g)) (e : ι) :
    (s.enq e).between = false := by
  have henq := Option.map_eq_none_iff.mp (hrest (.enq e) ⟨trivial, trivial⟩)
  have hsend := Option.map_eq_none_iff.mp (hrest (.notify e id) ⟨trivial, trivial⟩)
  cases hpc : s.enq e with
  | test p | load p => simp [handlerStep, HandlerState.enqStep, hpc] at henq
  | send p j => simp [handlerStep, HandlerState.notifyStep, hpc] at hsend
  | _ => rfl

omit [Fintype ι] in
/-- The handler has none left where it waits for events only. -/
theorem task_atRest {g : Ledger} (hi : HandlerInv s) (hlinked : s.SendsLinked)
    (hrest : AtRest ledgerStep (GoesOnLinked id) (s, g)) {t : HandlerTask}
    (ht : s.task id = .running t) (hloop : t.pc.inLoop = true) :
    t.pc = .receive ∧
      hasEvent (s.tasks.pending id) (cmdEventNew ||| cmdEventExit) = false := by
  have htask := Option.map_eq_none_iff.mp (hrest (.task id) ⟨rfl, trivial⟩)
  have hserved := Option.map_eq_none_iff.mp
    (hrest (.served id 0 Msg.zero) ⟨rfl, fun hpos => absurd hpos (by decide)⟩)
  have hsent := Option.map_eq_none_iff.mp (hrest (.sent id 0) ⟨rfl, trivial⟩)
  have hwake := Option.map_eq_none_iff.mp (hrest (.wake id) ⟨rfl, trivial⟩)
  simp only [handlerStep, HandlerState.ofTask, ht] at htask hserved hsent hwake
  cases hpc : t.pc with
  | receive =>
    refine ⟨rfl, ?_⟩
    simpa [HandlerState.wakeStep, hpc] using hwake
  | flush =>
    simp only [HandlerState.taskStep, hpc] at htask
    split at htask <;> cases htask
  | handle item =>
    simp only [HandlerState.taskStep, hpc] at htask
    split at htask <;> cases htask
  | serve item =>
    have hcb := (hi.owner id t ht (by rw [hpc]; rfl)).2.2.1
    simp [HandlerState.servedStep, hpc, hcb] at hserved
  | sendReply item reply =>
    have hlink := hlinked id t item reply ht hpc
    simp [HandlerState.taskStep, hpc, hlink] at htask
  | inSend item => simp [HandlerState.sentStep, hpc] at hsent
  | out item status =>
    simp only [HandlerState.taskStep, hpc] at htask
    split at htask <;> cases htask
  | outAll item status =>
    simp only [HandlerState.taskStep, hpc] at htask
    split at htask <;> cases htask
  | check events =>
    simp only [HandlerState.taskStep, hpc] at htask
    split at htask <;> cases htask
  | clearRunning | exit =>
    rw [hpc] at hloop
    cases hloop
  | assertFailed => exact absurd hpc (hi.ok id t ht)

omit [Fintype ι] in
theorem drained_of_atRest {x : HandlerState ι × Ledger} (hi : LedgerInv x)
    (hlinked : x.1.SendsLinked) (hs : Serving x.1 id)
    (hrest : AtRest ledgerStep (GoesOnLinked id) x) : Drained id x := by
  obtain ⟨s, g⟩ := x
  obtain ⟨hinv, hand, calls, hacc⟩ := hi
  obtain ⟨t, ht, hloop⟩ := hs.runs
  obtain ⟨hpc, hnone⟩ := task_atRest hinv hlinked hrest ht hloop
  have henq := enq_atRest hrest
  simp only at hinv hacc ht
  rw [hasEvent_or_right, Bool.or_eq_false_iff] at hnone
  have hasleep : Asleep s id := ⟨⟨t, ht, hpc⟩, hnone.1, hnone.2, henq⟩
  have hqueue : s.cmdq.head = s.cmdq.tail := by
    by_contra hne
    rcases hinv.awake id t ht hpc hne with hnew | ⟨e, he⟩
    · rw [hasleep.noNew] at hnew
      cases hnew
    · rw [not_tells_of_not_between (henq e)] at he
      cases he
  have hpending : s.cmdq.pending = [] := (Ring.contents_eq_nil s.cmdq.ring).mpr hqueue
  rcases hacc.inHand.of_owner hinv ht (owns_of_receive hpc) with
    ⟨-, rfl, rfl⟩ | ⟨item, hitem, -, -⟩
  · have hplaces := hacc.places
    have horder := hacc.order
    obtain ⟨services, hall, hlog⟩ := hacc.log
    rw [hpending, List.append_nil, List.append_nil] at hplaces horder
    exact ⟨hasleep, hqueue, hplaces, horder, services, hall, by rw [hlog, List.append_nil]⟩
  · rw [hpc] at hitem
    cases hitem

/-- **A handler left to its work serves every command.** After any run, when
task `id` is in its loop and no stop waits for it: if the handler and the
enqueuers go on, in whatever order, they come to an end within
`31 + 6 * card ι` statements. There the handler sleeps, the queue is empty,
and every command accepted has been served once, in the order they came in,
or was dropped by `cmd_drop_all`. The handler callback asks for no reply to
a command without a link. -/
theorem commands_served (handled : CmdHandledCtx) (id : TaskId) (as : List (HandlerAct ι))
    (x : HandlerState ι × Ledger)
    (hG : Along ledgerStep (fun x a => NoOverrun x a ∧ x.1.RepliesToLinks a)
      (HandlerState.init ι handled, .empty) as)
    (h : exec ledgerStep (HandlerState.init ι handled, .empty) as = some x)
    (hs : Serving x.1 id) :
    Inevitable ledgerStep (GoesOnLinked id) (31 + 6 * Fintype.card ι) (Drained id) x := by
  have hinit : LedgerInv (HandlerState.init ι handled, Ledger.empty) := ledgerInv_init ι handled
  have hnone : (HandlerState.init ι handled).SendsLinked := fun _ _ _ _ ht _ => by cases ht
  have hinv : LedgerInv x ∧ x.1.SendsLinked :=
    exec_invariant (I := fun x : HandlerState ι × Ledger => LedgerInv x ∧ x.1.SendsLinked)
      (fun _ _ _ hi hg hs => ⟨ledgerInv_step hi.1 hg.1 hs, by
        obtain ⟨s', hs', rfl⟩ := Option.map_eq_some_iff.mp hs
        exact sendsLinked_handlerStep hi.2 hg.2 hs'⟩) ⟨hinit, hnone⟩ hG h
  have hover : ∀ {y : HandlerState ι × Ledger} {a}, GoesOn id y a → NoOverrun y a := by
    intro y a hg
    cases a with
    | push => cases hg
    | _ => trivial
  have hstep : ∀ (y : HandlerState ι × Ledger) a y',
      (LedgerInv y ∧ y.1.SendsLinked) ∧ Serving y.1 id →
      GoesOnLinked id y a → ledgerStep y a = some y' →
      ((LedgerInv y' ∧ y'.1.SendsLinked) ∧ Serving y'.1 id) ∧ y'.1.work id < y.1.work id := by
    rintro ⟨s, g⟩ a y' ⟨⟨hi, hlinked⟩, hs⟩ hg hy
    have hi' := ledgerInv_step hi (hover hg.1) hy
    obtain ⟨s', hs', rfl⟩ := Option.map_eq_some_iff.mp hy
    obtain ⟨hserving, hlt⟩ := drain_step hi.handler hs hg.1 hs'
    exact ⟨⟨⟨hi', sendsLinked_handlerStep hlinked hg.2 hs'⟩, hserving⟩, hlt⟩
  exact inevitable_of_rank (fun y a y' hy hg hy' => (hstep y a y' hy hg hy').1)
    (fun y a y' hy hg hy' => (hstep y a y' hy hg hy').2)
    (fun y hy hrest => drained_of_atRest hy.1.1 hy.1.2 hy.2 hrest) ⟨hinv, hs⟩ (x.1.work_le id)

/-- A third command comes in, and its enqueuer has not yet told the handler. -/
def untold : List (HandlerAct Unit) :=
  secondHandler ++ [.push () ⟨Msg.zero, some 10⟩ none none]

set_option maxRecDepth 2000 in
theorem untold_served : ∃ x,
    exec ledgerStep (HandlerState.init Unit ⟨none, none⟩, .empty) untold = some x ∧
      x.1.cmdq.pending.length = 1 ∧
      Inevitable ledgerStep (GoesOnLinked ⟨3, by decide⟩) 37 (Drained ⟨3, by decide⟩) x := by
  have hrun : (exec ledgerStep (HandlerState.init Unit ⟨none, none⟩, .empty) untold).map
      (fun x => (x.1.task 3, x.1.ctl, x.1.cmdq.pending.length)) =
      some (.running ⟨65, .receive⟩, .returned (.start ⟨3, by decide⟩ 65 0) .successful,
        1) := by
    decide
  obtain ⟨x, hx, hv⟩ := Option.map_eq_some_iff.mp hrun
  simp only [Prod.mk.injEq] at hv
  obtain ⟨htask, hctl, hlen⟩ := hv
  have hs : Serving x.1 ⟨3, by decide⟩ :=
    ⟨⟨_, htask, rfl⟩, fun c hc => by rw [hctl] at hc; cases hc⟩
  exact ⟨x, hx, hlen, commands_served ⟨none, none⟩ ⟨3, by decide⟩ untold x (by decide) hx hs⟩

end HpscRtems.Command
